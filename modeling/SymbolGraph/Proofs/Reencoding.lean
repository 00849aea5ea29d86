import SymbolGraph.Proofs.BuiltGraphs
import SymbolGraph.Proofs.SymbolIds

/-! # Documents that are written again

    A document that is read and written again need not stay the same. Reading adds all
    symbols, then the edges, and then the lists of the files, so the graph that is read has
    the sources and the files of symbols first, whatever the order was before
    (`Store.forward_keys_reread`, `Store.files_reread`). Nothing else changes: it is the
    document of the graph that was written, with its sources and files in another order
    (`Store.Coherent.toDocument_reread_inOrder`).

    A graph is *orderly* (`Store.Orderly`) if its sources and files are in this order already.
    The document of an orderly graph is written again as it was read, to the last place in
    every list (`Store.Coherent.toDocument_reread`). What was read is orderly, so a document
    changes once at most, however often it is read and written (`Store.reread_settles`).

    The resolver adds all symbols before the first edge, so sources come in the right order
    in every graph that it builds. Files do because each id belongs to one file: a symbol that
    replaces another one does not take the id to another file. This is where it matters that
    ids can be taken apart.
-/

namespace SymbolGraph

namespace Store

/-! ## The order after reading -/

/-- The files of the symbols, one for each symbol. -/
def symbolFiles (s : Store) : List Key :=
  s.nodes.entries.filterMap fun e => Key.ofJson? e.2.file

/-- The same, found by the ids. -/
theorem symbolFiles_eq (s : Store) :
    s.symbolFiles = s.nodes.keys.filterMap fun id =>
      (s.nodes.get? id).bind fun node => Key.ofJson? node.file := by
  unfold symbolFiles Table.keys
  rw [List.filterMap_map]
  apply List.filterMap_congr
  intro e he
  show _ = (s.nodes.get? e.1).bind _
  rw [Table.get?_of_mem he]
  rfl

theorem script_source? (s : Store) :
    s.script.filterMap Change.source? = s.nodes.keys ++ s.edgeList.map Edge.src := by
  rw [filterMap_script]
  simp [Change.source?, Table.keys]

theorem script_file? (s : Store) :
    s.script.filterMap Change.file? = s.symbolFiles ++ s.files := by
  rw [filterMap_script]
  simp [Change.file?, symbolFiles]

/-- The sources of a graph that is read: the ids of symbols come first. -/
theorem forward_keys_reread (s : Store) :
    s.reread.forward.keys = (s.nodes.keys ++ s.edgeList.map Edge.src).eraseDups := by
  rw [← script_source?]
  exact keys_run_of_empty forward_keys_apply rfl s.script

/-- The files of a graph that is read: those of symbols come first. -/
theorem files_reread (s : Store) : s.reread.files = (s.symbolFiles ++ s.files).eraseDups := by
  rw [← script_file?]
  exact keys_run_of_empty fileIndex_keys_apply rfl s.script

/-! ## Orderly graphs -/

/-- The sources and the files of a graph are in the order that reading gives them. Keys may be
    the same and spelled differently; a source that is no symbol is spelled as in the first of
    its edges. -/
structure Orderly (s : Store) : Prop where
  sources : ∃ rest, s.forward.keys = s.nodes.keys ++ rest ∧
    ∀ id ∈ rest, (s.outgoing id).head?.map Edge.src = some id
  files : ∃ rest, s.files = s.symbolFiles.eraseDups ++ rest

section
variable {s : Store}

theorem Coherent.edgeList_eq_flatMap_outgoing (h : Coherent s) :
    s.edgeList = s.forward.keys.flatMap s.outgoing := by
  rw [h.edgeList_eq]
  congr 1
  funext id
  exact (h.outgoing_eq id).symm

theorem Orderly.forward_keys_reread (ho : Orderly s) (h : Coherent s) :
    s.reread.forward.keys = s.forward.keys := by
  obtain ⟨rest, hkeys, hhead⟩ := ho.sources
  have hnodes : s.nodes.keys.eraseDups = s.nodes.keys :=
    Table.eraseDups_of_distinct s.nodes.distinct_keys
  have hgroups : s.edgeList.map Edge.src
      = s.forward.keys.flatMap fun id => (s.outgoing id).map Edge.src := by
    rw [h.edgeList_eq_flatMap_outgoing, List.map_flatMap]
  rw [← hnodes] at hkeys
  rw [Store.forward_keys_reread, hgroups, hkeys]
  apply eraseDups_append_flatMap
  · rw [← hkeys]
    exact s.forward.distinct_keys
  · -- the edges of a source start there
    intro id _ src hsrc
    obtain ⟨e, he, rfl⟩ := List.mem_map.mp hsrc
    rw [h.outgoing_eq] at he
    exact (List.mem_filter.mp he).2
  · intro id hid
    rw [List.head?_map]
    exact hhead id hid

theorem Orderly.files_reread (ho : Orderly s) : s.reread.files = s.files := by
  obtain ⟨rest, hfiles⟩ := ho.files
  -- every file is a group of its own
  have hgroups : s.files = s.files.flatMap fun file => [file] := by simp
  rw [Store.files_reread, hgroups, hfiles]
  rw [eraseDups_append_flatMap]
  · simp
  · rw [← hfiles]
    exact s.fileIndex.distinct_keys
  · intro file _ other hother
    rw [List.mem_singleton.mp hother]
    exact BEq.rfl
  · intro file _
    rfl

/-! ## Documents in some order -/

/-- The document of a graph with its sources and its files in some order. -/
def documentInOrder (s : Store) (sources files : List Key) : Json :=
  .obj [
    ("metadata", .obj [("createdAt", s.metadata.createdAt), ("updatedAt", s.metadata.updatedAt),
      ("projectPath", s.metadata.projectPath)]),
    ("projectHash", s.projectHash),
    ("nodes", s.nodesJson),
    ("edges", .arr ((sources.flatMap s.outgoing).map (·.toJson))),
    ("fileIndex", .arr (files.map fun f =>
      .obj [("file", f.toJson), ("nodeIds", .arr ((s.fileIds f).map (·.toJson)))]))]

theorem Coherent.toDocument_inOrder (h : Coherent s) :
    s.toDocument = s.documentInOrder s.forward.keys s.files := by
  unfold toDocument edgesJson
  rw [h.edgeList_eq_flatMap_outgoing]
  rfl

/-- But for the order of sources and files, the same graph has the same document. -/
theorem SameGraph.documentInOrder_eq {t : Store} (h : SameGraph t s) (sources files : List Key) :
    t.documentInOrder sources files = s.documentInOrder sources files := by
  have houtgoing : t.outgoing = s.outgoing := funext h.outgoing
  have hids : t.fileIds = s.fileIds := by
    funext file
    unfold fileIds
    rw [h.files]
  unfold documentInOrder nodesJson
  rw [h.metadata, h.projectHash, h.nodes, houtgoing, hids]

/-- What is read has the document that was written, in the order that reading gives it. -/
theorem Coherent.toDocument_reread_inOrder (h : Coherent s) :
    s.reread.toDocument = s.documentInOrder s.reread.forward.keys s.reread.files := by
  rw [(coherent_reread s).toDocument_inOrder, h.sameGraph_reread.documentInOrder_eq]

/-- The document of an orderly graph is written again as it was read. -/
theorem Coherent.toDocument_reread (h : Coherent s) (ho : Orderly s) :
    s.reread.toDocument = s.toDocument := by
  rw [h.toDocument_reread_inOrder, ho.forward_keys_reread h, ho.files_reread, h.toDocument_inOrder]

/-- The sources of a graph are in order, if they came as the ids of symbols first and as those
    of edges after that. -/
theorem Coherent.sources_first (h : Coherent s) {ids : List Key}
    (hnodes : s.nodes.keys = ids.eraseDups)
    (hforward : s.forward.keys = (ids ++ s.edges.toList.map Edge.src).eraseDups) :
    ∃ rest, s.forward.keys = s.nodes.keys ++ rest ∧
      ∀ id ∈ rest, (s.outgoing id).head?.map Edge.src = some id := by
  have happend := eraseDups_append ids (s.edges.toList.map Edge.src)
  refine ⟨_, by rw [hforward, happend, hnodes], ?_⟩
  intro id hid
  -- a further source is new, so it is met first in the arena
  have hmem : id ∈ (ids ++ s.edges.toList.map Edge.src).eraseDups := by
    rw [happend]
    exact List.mem_append_right _ hid
  have hfound := find?_of_mem_eraseDups hmem
  have hnew : ids.find? (· == id) = none := by
    have hfirst := List.mem_of_find?_eq_some (find?_of_mem_eraseDups hid)
    have hany : ids.any (· == id) = false := by simpa using (List.mem_filter.mp hfirst).2
    rw [List.find?_eq_none]
    intro j hj
    exact List.any_eq_false.mp hany j hj
  rw [List.find?_append, hnew, Option.none_or, List.find?_map] at hfound
  rw [h.outgoing_eq, List.head?_filter]
  exact hfound

/-- What is read is in the order that reading gives it. -/
theorem Coherent.orderly_reread (h : Coherent s) : Orderly s.reread where
  sources := by
    have hnodes : s.reread.nodes = s.nodes := h.sameGraph_reread.nodes
    have hedges : s.reread.edges.toList = s.edgeList := by
      unfold reread
      rw [edges_run, script_edge?]
      rfl
    -- the ids of symbols were added first, and then the edges in the order of the document
    apply (coherent_reread s).sources_first
    · rw [hnodes]
      exact (Table.eraseDups_of_distinct s.nodes.distinct_keys).symm
    · rw [hedges]
      exact Store.forward_keys_reread s
  files := by
    have hfiles : s.reread.symbolFiles = s.symbolFiles := by
      unfold symbolFiles
      rw [h.sameGraph_reread.nodes]
    rw [hfiles, Store.files_reread, eraseDups_append]
    exact ⟨_, rfl⟩

end

/-! ## Reading again and again -/

/-- A graph that is written and read a number of times. -/
def reloaded (s : Store) : Nat → Except Malformed Store
  | 0 => .ok s
  | n + 1 => do ofDocument (← s.reloaded n).toDocument

/-- However often a graph is written and read, it can be, and its document is that of the first
    time. -/
theorem Regular.exists_reloaded {s : Store} (h : Regular s) (n : Nat) :
    ∃ t, s.reloaded (n + 1) = .ok t ∧ Regular t ∧ Orderly t ∧
      t.toDocument = s.reread.toDocument := by
  induction n with
  | zero =>
    exact ⟨s.reread, ofDocument_toDocument h.filable, h.reread, h.coherent.orderly_reread, rfl⟩
  | succ n ih =>
    obtain ⟨t, ht, hregular, horderly, hdocument⟩ := ih
    have hread : s.reloaded (n + 2) = .ok t.reread := by
      show (s.reloaded (n + 1) >>= fun t => ofDocument t.toDocument) = _
      rw [ht]
      exact ofDocument_toDocument hregular.filable
    refine ⟨t.reread, hread, hregular.reread, hregular.coherent.orderly_reread, ?_⟩
    rw [hregular.coherent.toDocument_reread horderly, hdocument]

/-- **Reading settles a document.** The document of a graph that was reached by any run can be
    read. What is written then has the sources of symbols first and then the other sources, and
    the files of symbols first and then the other files. Reading it again changes nothing, to
    the last place in every list, and nor does any further reading. -/
theorem reread_settles (now : String) (cs : List Change) (hcs : ∀ c ∈ cs, c.isFit = true) :
    let s := (empty now).run cs
    ∃ t u, ofDocument s.toDocument = .ok t ∧ ofDocument t.toDocument = .ok u ∧
      u.toDocument = t.toDocument ∧
      t.toDocument = s.documentInOrder (s.nodes.keys ++ s.edgeList.map Edge.src).eraseDups
        (s.symbolFiles ++ s.files).eraseDups ∧
      ∀ n, ∃ v, s.reloaded (n + 1) = .ok v ∧ v.toDocument = t.toDocument := by
  intro s
  have hs : Regular s := (regular_empty now).run hcs
  have horder := hs.coherent.toDocument_reread_inOrder
  rw [forward_keys_reread, files_reread] at horder
  refine ⟨s.reread, s.reread.reread, ofDocument_toDocument hs.filable,
    ofDocument_toDocument hs.reread.filable,
    hs.reread.coherent.toDocument_reread hs.coherent.orderly_reread, horder, ?_⟩
  intro n
  obtain ⟨v, hv, _, _, hdocument⟩ := hs.exists_reloaded n
  exact ⟨v, hv, hdocument⟩

/-- An edge comes before the symbol it starts from and another one starts from no symbol, a symbol
    moves to another file, and a file without symbols is listed first: the first reading changes
    the order of sources and files, and the second one does not. -/
theorem reread_settles_odd_order :
    let node : Symbol := ⟨.str "f", .str "a.js", .int 1, .function (.arr []) (.bool false) (.bool false)⟩
    let moved : Symbol := ⟨.str "f", .str "b.js", .int 2, .variable (.str "var")⟩
    let edge (a b : String) : Change := .addEdge ⟨.str a, .str b, .str "calls"⟩
    let cs : List Change := [.setFileIndex (.str "z.js") [.str "y"], edge "x" "y", edge "y" "x",
      .addNode (.str "w") node, .addNode (.str "y") node, .addNode (.str "w") moved, edge "w" "x"]
    let s := (empty "t0").run cs
    (∀ c ∈ cs, c.isFit = true) ∧
    s.forward.keys = [.str "x", .str "y", .str "w"] ∧
    s.files = [.str "z.js", .str "a.js", .str "b.js"] ∧
    ∃ t u, ofDocument s.toDocument = .ok t ∧ ofDocument t.toDocument = .ok u ∧
      u.toDocument = t.toDocument ∧
      t.toDocument = s.documentInOrder [.str "w", .str "y", .str "x"]
        [.str "b.js", .str "a.js", .str "z.js"] := by
  intro node moved edge cs s
  have hcs : ∀ c ∈ cs, c.isFit = true := by decide
  obtain ⟨t, u, ht, hu, hsame, horder, _⟩ := reread_settles "t0" cs hcs
  exact ⟨hcs, by decide, by decide, t, u, ht, hu, hsame, horder⟩

/-- Graphs with one document have one document after they are stamped. -/
theorem toDocument_stamped {t s : Store} (h : t.toDocument = s.toDocument) (project now : String) :
    (Cache.stamped t project now).toDocument = (Cache.stamped s project now).toDocument := by
  unfold toDocument at h
  simp only [Json.obj.injEq, List.cons.injEq, Prod.mk.injEq, true_and, and_true] at h
  obtain ⟨⟨hcreated, _, _⟩, _, hnodes, hedges, hfiles⟩ := h
  have hstamped : ∀ u : Store, (Cache.stamped u project now).toDocument = .obj [
      ("metadata", .obj [("createdAt", u.metadata.createdAt), ("updatedAt", .str now),
        ("projectPath", .str project)]),
      ("projectHash", .str (Cache.projectHash project)), ("nodes", u.nodesJson),
      ("edges", u.edgesJson), ("fileIndex", u.fileIndexJson)] := fun _ => rfl
  rw [hstamped, hstamped, hcreated, hnodes, hedges, hfiles]

/-- New stamps replace the old ones. -/
theorem stamped_stamped (s : Store) (project first second : String) :
    Cache.stamped (Cache.stamped s project first) project second
      = Cache.stamped s project second := rfl

end Store

/-! ## Graphs that are built -/

namespace Resolver

section
variable {files : Table String Facts} (now : String)

/-- Every id of a graph belongs to the file of all symbols that have the id. -/
theorem file_of_get? (h : ∀ node ∈ allSymbols files, node.Separable) {node : Symbol}
    (hnode : node ∈ allSymbols files) :
    ((build ⟨files, {}⟩ (Store.empty now)).2.nodes.get? (.str node.id)).bind
      (fun last => Key.ofJson? last.file) = Key.ofJson? node.file := by
  rw [get?_nodes_build]
  cases hget : ((allSymbols files).filter fun other => Key.str other.id == .str node.id).getLast? with
  | none =>
    -- the symbol itself has the id
    have hmem : node ∈ (allSymbols files).filter fun other => Key.str other.id == .str node.id :=
      List.mem_filter.mpr ⟨hnode, BEq.rfl⟩
    rw [List.getLast?_eq_none_iff.mp hget] at hmem
    cases hmem
  | some last =>
    obtain ⟨hmem, hid⟩ := List.mem_filter.mp (List.mem_of_getLast? hget)
    have hid : last.id = node.id := by simpa using hid
    show Key.ofJson? last.file = _
    rw [(h last hmem).file_eq (h node hnode) hid]

/-- Each id has one file, so going through the ids of a graph meets the files in the order in
    which going through all symbols does. -/
theorem symbolFiles_build (h : ∀ node ∈ allSymbols files, node.Separable) :
    (build ⟨files, {}⟩ (Store.empty now)).2.symbolFiles.eraseDups
      = (build ⟨files, {}⟩ (Store.empty now)).2.files := by
  rw [Store.symbolFiles_eq, nodes_keys_build, files_build, eraseDups_filterMap_eraseDups,
    List.filterMap_map]
  · congr 1
    apply List.filterMap_congr
    intro node hnode
    exact file_of_get? now h hnode
  · intro a b hab
    rw [Table.get?_congr _ hab]

/-- Sources and files of a graph that is built are in the order that reading gives them. -/
theorem orderly_build (h : ∀ node ∈ allSymbols files, node.Separable) :
    (build ⟨files, {}⟩ (Store.empty now)).2.Orderly where
  sources := by
    have hcoherent := (regular_build now fun node hnode => (h node hnode).file).coherent
    apply hcoherent.sources_first (nodes_keys_build files now)
    rw [edges_build]
    exact forward_keys_build files now
  files := ⟨[], by rw [List.append_nil, symbolFiles_build now h]⟩

end

/-- **Building, saving, loading and saving again.** The document of a graph that is built from
    the facts of a project can be read, and what is read is written as the same document, to
    the last place in every list, if the names of symbols have no colons. A graph that is saved,
    loaded and saved again has the document that it would have if it were saved for the first
    time. -/
theorem reencode_build (files : Table String Facts) (now : String)
    (h : ∀ node ∈ allSymbols files, node.Separable) :
    let s := (build ⟨files, {}⟩ (Store.empty now)).2
    (∃ t, Store.ofDocument s.toDocument = .ok t ∧ t.toDocument = s.toDocument) ∧
    ∀ project first second, ∃ t,
      Store.ofDocument (Cache.stamped s project first).toDocument = .ok t ∧
      t.toDocument = (Cache.stamped s project first).toDocument ∧
      (Cache.stamped t project second).toDocument = (Cache.stamped s project second).toDocument := by
  intro s
  have hregular : s.Regular := regular_build now fun node hnode => (h node hnode).file
  have horderly : s.Orderly := orderly_build now h
  clear_value s
  refine ⟨⟨_, Store.ofDocument_toDocument hregular.filable,
    hregular.coherent.toDocument_reread horderly⟩, ?_⟩
  intro project first second
  -- stamps touch neither sources nor files
  have hstamped : (Cache.stamped s project first).Regular :=
    hregular.apply (c := .stamp project first) rfl
  have hagain : (Cache.stamped s project first).reread.toDocument
      = (Cache.stamped s project first).toDocument :=
    hstamped.coherent.toDocument_reread ⟨horderly.sources, horderly.files⟩
  have hsecond := Store.toDocument_stamped hagain project second
  rw [Store.stamped_stamped] at hsecond
  exact ⟨_, Store.ofDocument_toDocument hstamped.filable, hagain, hsecond⟩

/-- A file with colons in its name, a function that a variable replaces, a class that another
    file lists, and a call and an import from a file that comes first. -/
theorem reencode_build_replaced :
    let declared : Symbol :=
      ⟨.str "f", .str "a:1.js", .int 2, .function (.arr []) (.bool false) (.bool false)⟩
    let assigned : Symbol := ⟨.str "f", .str "a:1.js", .int 2, .variable (.str "var")⟩
    let other : Symbol := ⟨.str "C", .str "b.js", .int 1, .klass .null (.arr []) (.arr [])⟩
    let files := Table.ofList [
      ("c.js", { imports := [⟨"./a:1", "f", "f", 1⟩], calls := [⟨"f", 2, 0⟩] }),
      ("a:1.js", { symbols := [declared, other, assigned] })]
    let s := (build ⟨files, {}⟩ (Store.empty "t0")).2
    (∀ node ∈ allSymbols files, node.Separable) ∧ s.edgeCount = 3 ∧
    ∃ t, Store.ofDocument s.toDocument = .ok t ∧ t.toDocument = s.toDocument := by
  intro declared assigned other files s
  have h : ∀ node ∈ allSymbols files, node.Separable := by
    have hall : allSymbols files = [declared, other, assigned] := rfl
    rw [hall]
    simp only [List.forall_mem_cons]
    exact ⟨⟨⟨_, rfl⟩, ⟨_, rfl, by decide⟩, ⟨_, rfl⟩⟩, ⟨⟨_, rfl⟩, ⟨_, rfl, by decide⟩, ⟨_, rfl⟩⟩,
      ⟨⟨_, rfl⟩, ⟨_, rfl, by decide⟩, ⟨_, rfl⟩⟩, nofun⟩
  exact ⟨h, by decide +kernel, (reencode_build files "t0" h).1⟩

end Resolver

end SymbolGraph
