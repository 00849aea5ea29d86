import SymbolGraph.Graph.Document
import SymbolGraph.Graph.Traversal
import SymbolGraph.Proofs.Indexes

/-! # Reading a graph that was written

    A document lists the symbols of a graph, its edges grouped by source, and the ids of
    each file. Reading it starts from an empty graph and makes one change for each item
    (`Store.script`), so a graph that is read has the same invariant as every other.

    What was written and what is read are not equal: the edges come into the new arena
    in the order of the document. They are the same graph in the sense of
    `Store.SameGraph`. In particular the edges that leave an id keep their order, so walks
    along outgoing edges find the same connections in the same order
    (`Store.SameGraph.connections_outgoing`).

    * `Store.ofDocument_toDocument` says what reading does.
    * `Store.Coherent.sameGraph_reread` compares the two graphs.
    * `Store.reread_run` puts them together for graphs reached by any run.
-/

namespace SymbolGraph.Store

/-! ## Runs that leave a part of a graph alone -/

/-- What no change of a run touches is the same after the run. -/
theorem run_frame {β : Type} (view : Store → β) (s : Store) (cs : List Change)
    (h : ∀ c ∈ cs, ∀ u : Store, view (u.apply c) = view u) : view (s.run cs) = view s := by
  induction cs generalizing s with
  | nil => rfl
  | cons c cs ih =>
    rw [run_cons, ih _ fun d hd => h d (List.mem_cons_of_mem _ hd)]
    exact h c List.mem_cons_self s

/-- The files listed after some symbols are set are those listed before, and theirs. -/
theorem contains_fileIndex_run_addNode (l : List (Key × Symbol)) (s : Store) (file : Key) :
    (s.run (l.map fun e => .addNode e.1 e.2)).fileIndex.contains file
      = (l.any (fun e => (Key.ofJson? e.2.file).any (· == file))
        || s.fileIndex.contains file) := by
  induction l generalizing s with
  | nil => rfl
  | cons e l ih =>
    rw [List.map_cons, run_cons, ih]
    show (_ || (s.addNode e.1 e.2).fileIndex.contains file) = _
    rw [contains_fileIndex_addNode, List.any_cons, ← Bool.or_assoc]
    congr 1
    exact Bool.or_comm _ _

/-! ## Reading as a run of changes -/

/-- The changes that the document of a graph asks for. -/
def script (s : Store) : List Change :=
  s.nodes.entries.map (fun e => .addNode e.1 e.2) ++ s.edgeList.map .addEdge
    ++ s.files.map fun f => .setFileIndex f (s.fileIds f)

/-- The graph at which reading a document starts. -/
def blank (metadata : Metadata) (projectHash : Json) : Store :=
  { empty "" with metadata := metadata, projectHash := projectHash }

/-- The graph that is read from the document of a graph. -/
def reread (s : Store) : Store :=
  (blank s.metadata s.projectHash).run s.script

/-- The files of all symbols can be looked up. -/
def Filable (s : Store) : Prop :=
  ∀ e ∈ s.nodes.entries, ∃ file, Key.ofJson? e.2.file = some file

/-- Reading an item for each element of a list makes the changes one after another. -/
theorem foldlM_eq_run {α : Type} (read : Store → Json → Except Malformed Store)
    (item : α → Json) (change : α → Change) (l : List α)
    (h : ∀ a ∈ l, ∀ s : Store, read s (item a) = .ok (s.apply (change a))) (s : Store) :
    (l.map item).foldlM read s = .ok (s.run (l.map change)) := by
  induction l generalizing s with
  | nil => rfl
  | cons a l ih =>
    rw [List.map_cons, List.foldlM_cons, h a List.mem_cons_self]
    exact ih (fun b hb => h b (List.mem_cons_of_mem _ hb)) _

theorem keyOf_toJson (k : Key) : keyOf k.toJson = .ok k := by
  unfold keyOf
  rw [Key.ofJson?_toJson]

theorem ofFields_cons_id (id : Json) (node : Symbol) :
    Symbol.ofFields (("id", id) :: node.toFields) = .ok node := by
  obtain ⟨name, file, line, details⟩ := node
  cases details <;> rfl

theorem readNode_item (s : Store) (id : Key) (node : Symbol) {file : Key}
    (h : Key.ofJson? node.file = some file) :
    readNode s (node.toJsonWithId id.toJson) = .ok (s.addNode id node) := by
  have hfile : keyOf node.file = .ok file := by
    unfold keyOf
    rw [h]
  show (Symbol.ofFields (("id", id.toJson) :: node.toFields) >>= fun node =>
    keyOf id.toJson >>= fun id => keyOf node.file >>= fun _ => pure (s.addNode id node)) = _
  rw [ofFields_cons_id]
  show (keyOf id.toJson >>= fun id => keyOf node.file >>= fun _ => pure (s.addNode id node)) = _
  rw [keyOf_toJson, hfile]
  rfl

theorem readEdge_item (s : Store) (e : Edge) : readEdge s e.toJson = .ok (s.addEdge e) := by
  show (keyOf e.src.toJson >>= fun src => keyOf e.dst.toJson >>= fun dst =>
    pure (s.addEdge ⟨src, dst, e.type⟩)) = _
  rw [keyOf_toJson, keyOf_toJson]
  rfl

theorem idsOf_arr (ids : List Key) : idsOf (.arr (ids.map (·.toJson))) = .ok ids := by
  show (ids.map (·.toJson)).mapM keyOf = .ok ids
  induction ids with
  | nil => rfl
  | cons id ids ih =>
    rw [List.map_cons, List.mapM_cons, keyOf_toJson, ih]
    rfl

theorem readFileEntry_item (s : Store) (file : Key) (ids : List Key) :
    readFileEntry s (.obj [("file", file.toJson), ("nodeIds", .arr (ids.map (·.toJson)))])
      = .ok (s.setFileIndex file ids) := by
  show (idsOf (.arr (ids.map (·.toJson))) >>= fun ids => keyOf file.toJson >>= fun file =>
    pure (s.setFileIndex file ids)) = _
  rw [idsOf_arr]
  show (keyOf file.toJson >>= fun file => pure (s.setFileIndex file ids)) = _
  rw [keyOf_toJson]
  rfl

theorem itemsOf_arr {fields : List (String × Json)} (key : String) {items : List Json}
    (h : Json.fieldOrNull key fields = .arr items) : itemsOf fields key = .ok items := by
  unfold itemsOf
  rw [h]
  cases items <;> rfl

/-- Reading the document of a graph makes the changes of its script. -/
theorem ofDocument_toDocument {s : Store} (h : Filable s) :
    ofDocument s.toDocument = .ok s.reread := by
  have hnodes : ∀ u : Store, (s.nodes.entries.map fun e => e.2.toJsonWithId e.1.toJson).foldlM
      readNode u = .ok (u.run (s.nodes.entries.map fun e => .addNode e.1 e.2)) := by
    apply foldlM_eq_run
    intro e he u
    obtain ⟨file, hfile⟩ := h e he
    exact readNode_item u e.1 e.2 hfile
  have hedges : ∀ u : Store, (s.edgeList.map (·.toJson)).foldlM readEdge u
      = .ok (u.run (s.edgeList.map .addEdge)) := by
    apply foldlM_eq_run
    intro e _ u
    exact readEdge_item u e
  have hfiles : ∀ u : Store, (s.files.map fun f =>
      Json.obj [("file", f.toJson), ("nodeIds", .arr ((s.fileIds f).map (·.toJson)))]).foldlM
        readFileEntry u = .ok (u.run (s.files.map fun f => .setFileIndex f (s.fileIds f))) := by
    apply foldlM_eq_run
    intro f _ u
    exact readFileEntry_item u f (s.fileIds f)
  unfold reread script ofDocument toDocument
  rw [run_append, run_append]
  -- the parts of the document are found under their names
  simp only [bind, Except.bind]
  rw [show metadataOf _ = .ok s.metadata from rfl]
  dsimp only
  rw [itemsOf_arr "nodes" rfl]
  dsimp only
  rw [hnodes]
  dsimp only
  rw [itemsOf_arr "edges" rfl]
  dsimp only
  rw [hedges]
  dsimp only
  rw [itemsOf_arr "fileIndex" rfl]
  exact hfiles _

/-! ## The two graphs compared -/

/-- Two graphs have the same symbols, the same edges and the same files. The arenas and
    the lists of incoming edges may differ in order. -/
structure SameGraph (t s : Store) : Prop where
  nodes : t.nodes = s.nodes
  outgoing : ∀ id, t.outgoing id = s.outgoing id
  incoming : ∀ id, (t.incoming id).Perm (s.incoming id)
  edges : t.edges.toList.Perm s.edges.toList
  files : ∀ file, t.fileIndex.get? file = s.fileIndex.get? file
  metadata : t.metadata = s.metadata
  projectHash : t.projectHash = s.projectHash

theorem sameGraph_refl (s : Store) : SameGraph s s :=
  ⟨rfl, fun _ => rfl, fun _ => .refl _, .refl _, fun _ => rfl, rfl, rfl⟩

theorem SameGraph.symm {t s : Store} (h : SameGraph t s) : SameGraph s t where
  nodes := h.nodes.symm
  outgoing id := (h.outgoing id).symm
  incoming id := (h.incoming id).symm
  edges := h.edges.symm
  files file := (h.files file).symm
  metadata := h.metadata.symm
  projectHash := h.projectHash.symm

theorem coherent_blank (m : Metadata) (hash : Json) : Coherent (blank m hash) :=
  ⟨(coherent_empty "").forward, (coherent_empty "").backward, (coherent_empty "").indexed,
    (coherent_empty "").filed⟩

theorem coherent_reread (s : Store) : Coherent s.reread :=
  coherent_run (coherent_blank _ _) _

/-- What is read off the changes of a script, part by part. -/
theorem filterMap_script {β : Type} (view : Change → Option β) (s : Store) :
    s.script.filterMap view = s.nodes.entries.filterMap (fun e => view (.addNode e.1 e.2))
      ++ s.edgeList.filterMap (fun e => view (.addEdge e))
      ++ s.files.filterMap fun f => view (.setFileIndex f (s.fileIds f)) := by
  unfold script
  rw [List.filterMap_append, List.filterMap_append, List.filterMap_map, List.filterMap_map,
    List.filterMap_map]
  rfl

theorem script_node? (s : Store) : s.script.filterMap Change.node? = s.nodes.entries := by
  rw [filterMap_script]
  simp [Change.node?]

theorem script_edge? (s : Store) : s.script.filterMap Change.edge? = s.edgeList := by
  rw [filterMap_script]
  simp [Change.edge?]

/-- A script neither touches nor stamps the graph. -/
theorem metadata_run_script (s u : Store) :
    (u.run s.script).metadata = u.metadata ∧ (u.run s.script).projectHash = u.projectHash := by
  have h := run_frame (fun u => (u.metadata, u.projectHash)) u s.script (by
    intro c hc v
    rcases List.mem_append.mp hc with hc | hc
    · rcases List.mem_append.mp hc with hc | hc
      · obtain ⟨e, _, rfl⟩ := List.mem_map.mp hc
        rfl
      · obtain ⟨e, _, rfl⟩ := List.mem_map.mp hc
        rfl
    · obtain ⟨f, _, rfl⟩ := List.mem_map.mp hc
      rfl)
  exact Prod.mk.inj h

theorem fileIndex_run_setFileIndex (ids : Key → List Key) (fs : List Key) (s : Store) :
    (s.run (fs.map fun f => .setFileIndex f (ids f))).fileIndex
      = fs.foldl (fun t f => t.insert f (Table.setOfList (ids f))) s.fileIndex := by
  induction fs generalizing s with
  | nil => rfl
  | cons f fs ih =>
    rw [List.map_cons, run_cons, ih]
    rfl

/-- The ids of a file are those that were written. Reading the symbols has listed them
    under their files already; each of these lists is then replaced. -/
theorem Coherent.fileIndex_reread {s : Store} (h : Coherent s) (file : Key) :
    s.reread.fileIndex.get? file = s.fileIndex.get? file := by
  unfold reread script
  rw [run_append, fileIndex_run_setFileIndex, Table.get?_foldl_insert]
  cases hlast : (s.files.filter (· == file)).getLast? with
  | some f =>
    -- a file of the graph: its list is the one that was written for it
    have hf := List.mem_filter.mp (List.mem_of_getLast? hlast)
    have hsame : s.fileIndex.get? f = s.fileIndex.get? file := Table.get?_congr _ hf.2
    have hsome : (s.fileIndex.get? file).isSome = true := by
      rw [Table.isSome_get?, Table.contains_eq_any_keys]
      exact List.any_eq_true.mpr ⟨f, hf⟩
    obtain ⟨ids, hids⟩ := Option.isSome_iff_exists.mp hsome
    show some (Table.setOfList ((s.fileIndex.get? f).getD {}).keys) = s.fileIndex.get? file
    rw [hsame, hids, Option.getD_some, Table.setOfList_keys]
  | none =>
    -- no file of the graph: no symbol belongs to it either
    have hnot : s.fileIndex.contains file = false := by
      rw [Table.contains_eq_any_keys, List.any_eq_false]
      intro f hf hff
      have hmem : f ∈ s.files.filter (· == file) := List.mem_filter.mpr ⟨hf, hff⟩
      rw [List.getLast?_eq_none_iff.mp hlast] at hmem
      cases hmem
    have hnode : s.nodes.entries.any (fun e => (Key.ofJson? e.2.file).any (· == file)) = false := by
      rw [List.any_eq_false]
      intro e he hany
      obtain ⟨f, hf, hff⟩ := (Option.any_eq_true _ _).mp hany
      have hlisted := h.filed e he f hf
      rw [← Table.isSome_get?, Table.get?_congr _ hff, Table.isSome_get?, hnot] at hlisted
      cases hlisted
    have hedges : ∀ u : Store, (u.run (s.edgeList.map .addEdge)).fileIndex = u.fileIndex := by
      intro u
      apply run_frame
      intro c hc v
      obtain ⟨e, _, rfl⟩ := List.mem_map.mp hc
      rfl
    rw [(Table.get?_eq_none_iff _ _).mpr hnot, Option.map_none, Option.none_or,
      Table.get?_eq_none_iff, run_append, hedges, contains_fileIndex_run_addNode, hnode]
    rfl

/-- What is read from the document of a graph is the same graph. -/
theorem Coherent.sameGraph_reread {s : Store} (h : Coherent s) : SameGraph s.reread s := by
  have hreread := coherent_reread s
  have hedges : s.reread.edges.toList = s.edgeList := by
    unfold reread
    rw [edges_run, script_edge?]
    rfl
  have hmeta := metadata_run_script s (blank s.metadata s.projectHash)
  refine ⟨?_, ?_, ?_, ?_, h.fileIndex_reread, hmeta.1, hmeta.2⟩
  · unfold reread
    rw [nodes_run, script_node?]
    exact Table.foldl_insert_entries s.nodes
  · intro id
    rw [hreread.outgoing_eq, h.outgoing_eq, hedges, h.edgeList_eq]
    exact filter_flatMap_filter Edge.src s.forward.distinct_keys
      (fun _ he => h.forward.any_keys he) id
  · intro id
    rw [hreread.incoming_eq, h.incoming_eq, hedges]
    exact h.edgeList_perm.filter _
  · rw [hedges]
    exact h.edgeList_perm

/-! ## Walks -/

section
variable {s t : Store} {d d' : Direction} (turn : Edge → Edge) (image : Connection → Connection)
variable (hsteps : ∀ id, t.steps d' id = (s.steps d id).map fun st => (turn st.1, st.2))
variable (himage : ∀ e, t.connection (turn e) = image (s.connection e))

include hsteps himage

/-- A walk depends on a graph only by the steps from each id and the connections of edges. If
    another graph has the same steps, with every edge turned into another one, the two walks go
    on side by side and find the same connections, up to how these are changed. -/
theorem walkSteps_map (depth : Int) (fuel : Nat) :
    ∀ (stack : List (List Step × Int)) (visited : List Key) (found : List Connection),
      t.walkSteps d' depth fuel
          (stack.map fun frame => (frame.1.map fun st => (turn st.1, st.2), frame.2)) visited
          (found.map image)
        = (s.walkSteps d depth fuel stack visited found).map image := by
  induction fuel with
  | zero =>
    intro stack visited found
    exact List.map_reverse.symm
  | succ fuel ih =>
    intro stack visited found
    match stack with
    | [] => exact List.map_reverse.symm
    | ([], _) :: rest => exact ih rest visited found
    | ((e, id) :: more, hops) :: rest =>
      -- both walks see the same id after the same number of hops, so they decide alike
      have hskip := ih ((more, hops) :: rest) visited (s.connection e :: found)
      have hexpand := ih ((s.steps d id, hops + 1) :: (more, hops) :: rest) (id :: visited)
        (s.connection e :: found)
      simp only [List.map_cons, ← hsteps, ← himage] at hskip hexpand
      simp only [List.map_cons, walkSteps, hskip, hexpand]
      split <;> rfl

/-- The same for whole walks, in graphs with equally many edges. -/
theorem connections_map (hsize : t.edges.size = s.edges.size) (id : Key) (depth : Int) :
    t.connections id d' depth = (s.connections id d depth).map image := by
  have hwalk := walkSteps_map turn image hsteps himage depth s.walkBound [(s.steps d id, 0)] [id] []
  simp only [List.map_cons, List.map_nil, ← hsteps] at hwalk
  have hbound : t.walkBound = s.walkBound := by
    unfold walkBound
    rw [hsize]
  unfold connections
  by_cases hdepth : depth ≤ 0
  · simp [hdepth]
  · rw [if_neg hdepth, if_neg hdepth, hbound]
    exact hwalk

end

theorem SameGraph.edgeCount_eq {t s : Store} (h : SameGraph t s) : t.edgeCount = s.edgeCount := by
  unfold edgeCount
  rw [← Array.length_toList, h.edges.length_eq, Array.length_toList]

theorem SameGraph.connection_eq {t s : Store} (h : SameGraph t s) (e : Edge) :
    t.connection e = s.connection e := by
  unfold connection
  rw [h.nodes]

/-- Walks along outgoing edges find the same connections in the same order. -/
theorem SameGraph.connections_outgoing {t s : Store} (h : SameGraph t s) (id : Key)
    (depth : Int) : t.connections id .outgoing depth = s.connections id .outgoing depth := by
  have hsteps : ∀ id, t.steps .outgoing id
      = (s.steps .outgoing id).map fun st => (st.1, st.2) := by
    intro id
    show (t.outgoing id).map _ ++ [] = ((s.outgoing id).map _ ++ []).map fun st => st
    rw [h.outgoing, List.map_id']
  have hwalk := connections_map (fun e => e) (fun c => c) hsteps h.connection_eq h.edgeCount_eq id
    depth
  rwa [List.map_id'] at hwalk

/-! ## After any run -/

/-- The invariant of graphs that are written and read. -/
structure Regular (s : Store) : Prop where
  coherent : Coherent s
  filable : Filable s

theorem regular_empty (now : String) : Regular (empty now) where
  coherent := coherent_empty now
  filable e he := by cases he

theorem filable_apply {s : Store} (hs : Filable s) {c : Change} (hc : c.isFit = true) :
    Filable (s.apply c) := by
  cases c with
  | addNode id node =>
    intro e he
    have hget : (s.nodes.insert id node).get? e.1 = some e.2 := Table.get?_of_mem he
    rw [Table.get?_insert] at hget
    split at hget
    · rw [← Option.some.inj hget]
      exact Option.isSome_iff_exists.mp hc
    · obtain ⟨k, _, hmem⟩ := Table.exists_mem_of_get? hget
      exact hs (k, e.2) hmem
  | addEdge | setFileIndex | touch | stamp => exact hs

theorem Regular.apply {s : Store} (h : Regular s) {c : Change} (hc : c.isFit = true) :
    Regular (s.apply c) :=
  ⟨coherent_apply h.coherent c, filable_apply h.filable hc⟩

theorem Regular.run {s : Store} (h : Regular s) {cs : List Change}
    (hcs : ∀ c ∈ cs, c.isFit = true) : Regular (s.run cs) := by
  induction cs generalizing s with
  | nil => exact h
  | cons c cs ih =>
    exact ih (h.apply (hcs c List.mem_cons_self)) fun d hd => hcs d (List.mem_cons_of_mem _ hd)

/-- What is read is regular again. -/
theorem Regular.reread {s : Store} (h : Regular s) : Regular s.reread where
  coherent := coherent_reread s
  filable := by
    unfold Filable
    rw [h.coherent.sameGraph_reread.nodes]
    exact h.filable

/-- **Reading a graph that was written.** After any run that gives every symbol a file
    that can be looked up, the document of the graph can be read, and what is read is the
    same graph: the same symbols under the same ids in the same order, the same edges,
    with those that leave an id in the same order, the same ids for each file, and the
    same metadata and hash. Walks along outgoing edges give identical lists. -/
theorem reread_run (now : String) (cs : List Change) (hcs : ∀ c ∈ cs, c.isFit = true) :
    let s := (empty now).run cs
    ∃ t, ofDocument s.toDocument = .ok t ∧ SameGraph t s ∧
      ∀ id depth, t.connections id .outgoing depth = s.connections id .outgoing depth := by
  intro s
  have hs : Regular s := (regular_empty now).run hcs
  have hsame := hs.coherent.sameGraph_reread
  exact ⟨_, ofDocument_toDocument hs.filable, hsame, hsame.connections_outgoing⟩

/-- An edge comes before its source, a symbol moves to another file and leaves its id
    behind, an edge is added twice, and a list of ids is replaced. -/
theorem reread_moved_symbol :
    let node : Symbol := ⟨.str "f", .str "a.js", .int 1, .function (.arr []) (.bool false) (.bool true)⟩
    let moved : Symbol := ⟨.str "f", .str "b.js", .int 2, .klass .null (.arr []) (.arr [])⟩
    let e : Edge := ⟨.str "x", .str "y", .str "calls"⟩
    let cs : List Change := [.addEdge e, .addNode (.str "y") node, .addNode (.str "x") node,
      .addNode (.str "y") moved, .addEdge e, .setFileIndex (.str "b.js") [], .touch "t1",
      .stamp "/p" "t2"]
    let s := (empty "t0").run cs
    (∀ c ∈ cs, c.isFit = true) ∧
    ∃ t, ofDocument s.toDocument = .ok t ∧ SameGraph t s ∧
      ∀ id depth, t.connections id .outgoing depth = s.connections id .outgoing depth := by
  intro node moved e cs s
  have hcs : ∀ c ∈ cs, c.isFit = true := by decide
  exact ⟨hcs, reread_run "t0" cs hcs⟩

end SymbolGraph.Store
