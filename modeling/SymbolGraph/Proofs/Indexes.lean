import Mathlib.Algebra.GroupWithZero.Nat
import Mathlib.Data.List.Nodup
import SymbolGraph.Cache
import SymbolGraph.Graph.Query
import SymbolGraph.Proofs.Tables

/-! # The indexes of a graph

    A graph is reached from an empty one by changes, in any order. An edge may be added
    before the symbols at its ends, or without them; a symbol may be set again; edges
    may be added twice, and from an id to itself. Whatever was done, the two indexes
    list every arena position once, under the end of its edge, and in order.

    * `Change` and `Store.run` say what is done to a graph.
    * `Store.Coherent` is the invariant. It says of an index that the list of an id is
      the list of *all* positions of edges with that end (`Store.Lists`), so that an
      edge is found at an id exactly if it belongs there.
    * `Store.coherent_apply` is the step and `Store.coherent_run` the run.
    * `Store.indexes_run` is the main result: what the indexes are after any run, and
      what follows for the lists of edges that are read off them.
-/

namespace SymbolGraph

/-! ## Changes -/

/-- A change of a graph. Saving stamps a graph with its project and the time. -/
inductive Change where
  | addNode (id : Key) (node : Symbol)
  | addEdge (e : Edge)
  | setFileIndex (file : Key) (ids : List Key)
  | touch (now : String)
  | stamp (project now : String)

namespace Change

/-- The edge that a change adds. -/
def edge? : Change → Option Edge
  | .addEdge e => some e
  | _ => none

/-- The symbol that a change sets, with its id. -/
def node? : Change → Option (Key × Symbol)
  | .addNode id node => some (id, node)
  | _ => none

/-- The id that a change makes a source: that of a symbol, or the source of an edge. -/
def source? : Change → Option Key
  | .addNode id _ => some id
  | .addEdge e => some e.src
  | _ => none

/-- The file under which a change lists ids. -/
def file? : Change → Option Key
  | .addNode _ node => Key.ofJson? node.file
  | .setFileIndex file _ => some file
  | _ => none

/-- Whether the file of the symbol that a change sets, if it sets one, can be looked
    up. -/
def isFit : Change → Bool
  | .addNode _ node => (Key.ofJson? node.file).isSome
  | _ => true

end Change

namespace Store

/-- A graph after a change. -/
def apply (s : Store) : Change → Store
  | .addNode id node => s.addNode id node
  | .addEdge e => s.addEdge e
  | .setFileIndex file ids => s.setFileIndex file ids
  | .touch now => s.touch now
  | .stamp project now => Cache.stamped s project now

/-- A graph after some changes, the first one first. -/
def run (s : Store) (cs : List Change) : Store :=
  cs.foldl apply s

@[simp] theorem run_nil (s : Store) : s.run [] = s := rfl

@[simp] theorem run_cons (s : Store) (c : Change) (cs : List Change) :
    s.run (c :: cs) = (s.apply c).run cs := rfl

theorem run_append (s : Store) (cs ds : List Change) : s.run (cs ++ ds) = (s.run cs).run ds := by
  simp [run]

/-- Induction over a run: what holds of a graph and is kept by every change holds after
    all changes. -/
theorem run_invariant {P : Store → Prop} {s : Store} (hs : P s)
    (hstep : ∀ s c, P s → P (s.apply c)) (cs : List Change) : P (s.run cs) := by
  induction cs generalizing s with
  | nil => exact hs
  | cons c cs ih => exact ih (hstep s c hs)

/-! ### What changes do to the symbols, the arena and the keys of the indexes -/

/-- The symbols after a run: one setting after another. -/
theorem nodes_run (s : Store) (cs : List Change) :
    (s.run cs).nodes
      = (cs.filterMap Change.node?).foldl (fun t e => t.insert e.1 e.2) s.nodes := by
  induction cs generalizing s with
  | nil => rfl
  | cons c cs ih =>
    rw [run_cons, ih]
    cases c with
    | addNode id node => rfl
    | addEdge | setFileIndex | touch | stamp => rfl

/-- The ids of the symbols after a run, in the order in which they were first set. -/
theorem nodes_keys_run {s : Store} (hs : s.nodes = {}) (cs : List Change) :
    (s.run cs).nodes.keys = ((cs.filterMap Change.node?).map (·.1)).eraseDups := by
  have hkeys := Table.keys_foldl_alter (fun e : Key × Symbol => e.1) (fun e _ => e.2)
    (cs.filterMap Change.node?) {}
  simp only [Table.keys_empty, Table.contains_empty, Bool.not_false, List.filter_true,
    List.nil_append] at hkeys
  rw [nodes_run, hs]
  exact hkeys

/-- The symbol at an id after a run is the one that was set there last. -/
theorem get?_nodes_run {s : Store} (hs : s.nodes = {}) (cs : List Change) (id : Key) :
    (s.run cs).nodes.get? id
      = ((cs.filterMap Change.node?).filter (·.1 == id)).getLast?.map (·.2) := by
  rw [nodes_run, hs, Table.get?_foldl_insert (fun e : Key × Symbol => e.1) (fun e => e.2),
    Table.get?_empty, Option.or_none]

theorem edges_apply (s : Store) (c : Change) :
    (s.apply c).edges.toList = s.edges.toList ++ c.edge?.toList := by
  cases c with
  | addEdge e => exact Array.toList_push
  | addNode | setFileIndex | touch | stamp => exact (List.append_nil _).symm

/-- The arena after a run: the edges in the order in which they were added. -/
theorem edges_run (s : Store) (cs : List Change) :
    (s.run cs).edges.toList = s.edges.toList ++ cs.filterMap Change.edge? := by
  induction cs generalizing s with
  | nil => simp
  | cons c cs ih =>
    rw [run_cons, ih, edges_apply, List.append_assoc]
    cases h : c.edge? <;> simp [h]

/-- A table of a graph that every change alters at one key or leaves alone. Its keys after a
    run: those that were there, then the new ones in order of first occurrence. -/
theorem keys_run {β : Type} (view : Store → Table Key β) (key? : Change → Option Key)
    (hview : ∀ s c, ∃ f, view (s.apply c)
      = match key? c with
        | some k => (view s).alter k f
        | none => view s) (s : Store) (cs : List Change) :
    (view (s.run cs)).keys
      = (view s).keys ++ ((cs.filterMap key?).filter fun k => !(view s).contains k).eraseDups := by
  induction cs generalizing s with
  | nil => simp
  | cons c cs ih =>
    obtain ⟨f, hf⟩ := hview s c
    rw [run_cons, ih, hf]
    cases hc : key? c with
    | none => simp [hc]
    | some k =>
      -- one change of the table is a list of one change, followed by the others
      have hone := Table.keys_foldl_alter (fun k : Key => k) (fun _ => f)
        (k :: cs.filterMap key?) (view s)
      have hrest := Table.keys_foldl_alter (fun k : Key => k) (fun _ => f)
        (cs.filterMap key?) ((view s).alter k f)
      simp only [List.map_id'] at hone hrest
      rw [List.filterMap_cons_some hc, ← hone, List.foldl_cons, hrest]

/-- The same for a table that is empty at first. -/
theorem keys_run_of_empty {β : Type} {view : Store → Table Key β} {key? : Change → Option Key}
    (hview : ∀ s c, ∃ f, view (s.apply c)
      = match key? c with
        | some k => (view s).alter k f
        | none => view s) {s : Store} (hs : view s = {}) (cs : List Change) :
    (view (s.run cs)).keys = (cs.filterMap key?).eraseDups := by
  have hall : (cs.filterMap key?).filter (fun k => !({} : Table Key β).contains k)
      = cs.filterMap key? := List.filter_eq_self.mpr fun _ _ => rfl
  rw [keys_run view key? hview, hs, hall]
  rfl

theorem forward_keys_apply (s : Store) (c : Change) :
    ∃ f, (s.apply c).forward
      = match c.source? with
        | some k => s.forward.alter k f
        | none => s.forward := by
  cases c with
  | addNode id node => exact ⟨_, rfl⟩
  | addEdge e => exact ⟨_, rfl⟩
  | setFileIndex | touch | stamp => exact ⟨fun _ => [], rfl⟩

/-- The keys of the forward index after a run: the sources in order of first
    appearance. -/
theorem forward_keys_run (now : String) (cs : List Change) :
    ((empty now).run cs).forward.keys = (cs.filterMap Change.source?).eraseDups :=
  keys_run_of_empty forward_keys_apply rfl cs

theorem fileIndex_keys_apply (s : Store) (c : Change) :
    ∃ f, (s.apply c).fileIndex
      = match c.file? with
        | some k => s.fileIndex.alter k f
        | none => s.fileIndex := by
  cases c with
  | addNode id node =>
    refine ⟨fun ids => (ids.getD {}).insert id (), ?_⟩
    show (s.addNode id node).fileIndex = match Key.ofJson? node.file with
      | some k => s.fileIndex.alter k _
      | none => s.fileIndex
    rfl
  | setFileIndex file ids => exact ⟨_, rfl⟩
  | addEdge | touch | stamp => exact ⟨fun _ => {}, rfl⟩

/-! ## The invariant -/

/-- The arena positions of the edges whose end is an id, in order. -/
def positions (ending : Edge → Key) (id : Key) (edges : List Edge) : List Nat :=
  (edges.zipIdx.filter fun e => ending e.1 == id).map (·.2)

/-- An index lists for every id all positions of edges with that end. An id without an
    entry counts as one with an empty list. -/
def Lists (index : Table Key (List Nat)) (ending : Edge → Key) (edges : Array Edge) : Prop :=
  ∀ id, (index.get? id).getD [] = positions ending id edges.toList

/-- The parts of a graph agree with each other. -/
structure Coherent (s : Store) : Prop where
  forward : Lists s.forward Edge.src s.edges
  backward : Lists s.backward Edge.dst s.edges
  /-- Every symbol has an entry in both indexes. -/
  indexed : ∀ id, s.nodes.contains id = true →
    s.forward.contains id = true ∧ s.backward.contains id = true
  /-- Every file of a symbol has an entry in the file index. -/
  filed : ∀ e ∈ s.nodes.entries, ∀ file, Key.ofJson? e.2.file = some file →
    s.fileIndex.contains file = true

/-! ### Positions -/

theorem positions_append (ending : Edge → Key) (id : Key) (edges : List Edge) (e : Edge) :
    positions ending id (edges ++ [e])
      = positions ending id edges ++ if ending e == id then [edges.length] else [] := by
  unfold positions
  rw [List.zipIdx_append, List.filter_append, List.map_append]
  by_cases h : (ending e == id) = true <;> simp [h]

theorem mem_positions {ending : Edge → Key} {id : Key} {edges : List Edge} {p : Nat} :
    p ∈ positions ending id edges ↔ ∃ e, edges[p]? = some e ∧ (ending e == id) = true := by
  simp [positions, List.mk_mem_zipIdx_iff_getElem?]

theorem positions_increasing (ending : Edge → Key) (id : Key) (edges : List Edge) :
    (positions ending id edges).Pairwise (· < ·) := by
  have hsub : (positions ending id edges).Sublist (List.range edges.length) := by
    have hrange : edges.zipIdx.map (·.2) = List.range edges.length := by
      rw [List.zipIdx_map_snd, List.range_eq_range']
    rw [← hrange]
    exact List.filter_sublist.map _
  exact List.pairwise_lt_range.sublist hsub

/-- The edges at the positions of an id are the edges with that end. -/
theorem edgesAt_positions (s : Store) (ending : Edge → Key) (id : Key) :
    s.edgesAt (positions ending id s.edges.toList)
      = s.edges.toList.filter fun e => ending e == id := by
  unfold edgesAt positions
  have hget : ∀ x ∈ s.edges.toList.zipIdx.filter (fun e => ending e.1 == id),
      ((fun p => s.edges[p]?) ∘ (·.2)) x = some x.1 := by
    intro x hx
    have hx := List.mem_zipIdx_iff_getElem?.mp (List.mem_filter.mp hx).1
    rw [← hx, Array.getElem?_toList]
    rfl
  rw [List.filterMap_map, List.filterMap_eq_map_iff_forall_eq_some.mpr hget]
  -- filtering by the edge alone commutes with forgetting the positions
  have hfilter := List.filter_map (f := (·.1)) (p := fun e => ending e == id)
    (l := s.edges.toList.zipIdx)
  rw [List.zipIdx_map_fst] at hfilter
  exact hfilter.symm

/-! ### One step -/

theorem lists_insertIfNew {index : Table Key (List Nat)} {ending : Edge → Key}
    {edges : Array Edge} (h : Lists index ending edges) (k : Key) :
    Lists (index.insertIfNew k []) ending edges := by
  intro id
  rw [← h id]
  unfold Table.insertIfNew
  rw [Table.get?_alter]
  by_cases hk : (k == id) = true
  · rw [if_pos hk]
    rfl
  · rw [if_neg hk]

theorem lists_push {index : Table Key (List Nat)} {ending : Edge → Key} {edges : Array Edge}
    (h : Lists index ending edges) (e : Edge) :
    Lists (index.alter (ending e) fun ps => ps.getD [] ++ [edges.size]) ending (edges.push e) := by
  intro id
  rw [Array.toList_push, positions_append, ← h id, Table.get?_alter]
  by_cases hk : (ending e == id) = true
  · simp [hk]
  · simp [hk]

theorem coherent_empty (now : String) : Coherent (empty now) where
  forward _ := rfl
  backward _ := rfl
  indexed _ h := by cases h
  filed _ h := by cases h

/-- The files listed after a symbol is set: those listed before, and its own. -/
theorem contains_fileIndex_addNode (s : Store) (id : Key) (node : Symbol) (file : Key) :
    (s.addNode id node).fileIndex.contains file
      = ((Key.ofJson? node.file).any (· == file) || s.fileIndex.contains file) := by
  unfold addNode
  cases h : Key.ofJson? node.file with
  | none => simp only [Option.any_none, Bool.false_or]
  | some f => simp only [Table.contains_alter, Option.any_some]

theorem coherent_addNode {s : Store} (h : Coherent s) (id : Key) (node : Symbol) :
    Coherent (s.addNode id node) where
  forward := lists_insertIfNew h.forward id
  backward := lists_insertIfNew h.backward id
  indexed := by
    intro j hj
    have hj : (id == j || s.nodes.contains j) = true := by
      rw [← Table.contains_alter]
      exact hj
    show (s.forward.alter id _).contains j = true ∧ (s.backward.alter id _).contains j = true
    rw [Table.contains_alter, Table.contains_alter]
    cases hid : (id == j) with
    | true => exact ⟨rfl, rfl⟩
    | false =>
      rw [hid, Bool.false_or] at hj
      exact h.indexed j hj
  filed := by
    intro e he file hfile
    rw [contains_fileIndex_addNode]
    have hget : (s.nodes.insert id node).get? e.1 = some e.2 := Table.get?_of_mem he
    rw [Table.get?_insert] at hget
    split at hget
    · -- the new symbol is listed under its own file
      rw [Option.some.inj hget, hfile, Option.any_some, BEq.rfl, Bool.true_or]
    · -- a symbol that was there before was listed before
      obtain ⟨k, _, hmem⟩ := Table.exists_mem_of_get? hget
      rw [h.filed _ hmem file hfile, Bool.or_true]

theorem coherent_addEdge {s : Store} (h : Coherent s) (e : Edge) : Coherent (s.addEdge e) where
  forward := lists_push h.forward e
  backward := lists_push h.backward e
  indexed := by
    intro id hid
    obtain ⟨hf, hb⟩ := h.indexed id hid
    show (s.forward.alter e.src _).contains id = true ∧ (s.backward.alter e.dst _).contains id = true
    rw [Table.contains_alter, Table.contains_alter, hf, hb, Bool.or_true, Bool.or_true]
    exact ⟨rfl, rfl⟩
  filed := h.filed

theorem coherent_setFileIndex {s : Store} (h : Coherent s) (file : Key) (ids : List Key) :
    Coherent (s.setFileIndex file ids) where
  forward := h.forward
  backward := h.backward
  indexed := h.indexed
  filed := by
    intro e he f hf
    show (s.fileIndex.alter file _).contains f = true
    rw [Table.contains_alter, h.filed e he f hf, Bool.or_true]

/-- Every change keeps the parts of a graph in agreement. -/
theorem coherent_apply {s : Store} (h : Coherent s) (c : Change) : Coherent (s.apply c) := by
  cases c with
  | addNode id node => exact coherent_addNode h id node
  | addEdge e => exact coherent_addEdge h e
  | setFileIndex file ids => exact coherent_setFileIndex h file ids
  | touch now => exact ⟨h.forward, h.backward, h.indexed, h.filed⟩
  | stamp project now => exact ⟨h.forward, h.backward, h.indexed, h.filed⟩

theorem coherent_run {s : Store} (h : Coherent s) (cs : List Change) : Coherent (s.run cs) :=
  run_invariant h (fun _ c hs => coherent_apply hs c) cs

/-! ## What coherent indexes are -/

/-- An index of the arena by one end of its edges. -/
structure IsIndex (index : Table Key (List Nat)) (ending : Edge → Key) (edges : Array Edge) :
    Prop where
  /-- Over all lists, every position occurs once. -/
  once : ∀ p < edges.size, index.values.flatten.count p = 1
  /-- It occurs in the list of the end of its edge. -/
  placed : ∀ p e, edges[p]? = some e → ∃ ps, index.get? (ending e) = some ps ∧ p ∈ ps
  increasing : ∀ ps ∈ index.values, ps.Pairwise (· < ·)
  inRange : ∀ ps ∈ index.values, ∀ p ∈ ps, p < edges.size

section
variable {index : Table Key (List Nat)} {ending : Edge → Key} {edges : Array Edge}

/-- The list of an entry is that of all positions of its key. -/
theorem Lists.entry (h : Lists index ending edges) {e : Key × List Nat} (he : e ∈ index.entries) :
    e.2 = positions ending e.1 edges.toList := by
  have hid := h e.1
  rw [Table.get?_of_mem he] at hid
  exact hid

theorem Lists.values_eq (h : Lists index ending edges) :
    index.values = index.keys.map fun k => positions ending k edges.toList := by
  unfold Table.values Table.keys
  rw [List.map_map]
  apply List.map_congr_left
  intro e he
  exact h.entry he

/-- Both ends of every edge have an entry. -/
theorem Lists.covers (h : Lists index ending edges) {p : Nat} {e : Edge}
    (he : edges[p]? = some e) : ∃ ps, index.get? (ending e) = some ps ∧ p ∈ ps := by
  have hmem : p ∈ (index.get? (ending e)).getD [] := by
    rw [h (ending e)]
    refine mem_positions.mpr ⟨e, ?_, BEq.rfl⟩
    rw [Array.getElem?_toList]
    exact he
  cases hget : index.get? (ending e) with
  | none =>
    rw [hget] at hmem
    cases hmem
  | some ps =>
    rw [hget] at hmem
    exact ⟨ps, rfl, hmem⟩

theorem Lists.any_keys (h : Lists index ending edges) {e : Edge} (he : e ∈ edges.toList) :
    index.keys.any (· == ending e) = true := by
  obtain ⟨p, hp⟩ := List.getElem?_of_mem he
  rw [Array.getElem?_toList] at hp
  obtain ⟨ps, hget, _⟩ := h.covers hp
  rw [← Table.contains_eq_any_keys, ← Table.isSome_get?, hget]
  rfl

/-- Put together, the lists of an index are all positions. -/
theorem Lists.flatten_perm (h : Lists index ending edges) :
    index.values.flatten.Perm (List.range edges.size) := by
  have hall : ∀ x ∈ edges.toList.zipIdx, index.keys.any (· == ending x.1) = true := by
    intro x hx
    exact h.any_keys (List.mem_of_getElem? (List.mem_zipIdx_iff_getElem?.mp hx))
  have hperm := (flatMap_filter_perm (fun x : Edge × Nat => ending x.1)
    index.distinct_keys hall).map (·.2)
  rw [List.map_flatMap, List.zipIdx_map_snd, ← List.range_eq_range', Array.length_toList] at hperm
  rw [h.values_eq]
  exact hperm

theorem Lists.isIndex (h : Lists index ending edges) : IsIndex index ending edges where
  once := by
    intro p hp
    rw [h.flatten_perm.count_eq]
    exact List.count_eq_one_of_mem List.nodup_range (List.mem_range.mpr hp)
  placed := fun p e he => h.covers he
  increasing := by
    intro ps hps
    obtain ⟨e, he, rfl⟩ := List.mem_map.mp hps
    rw [h.entry he]
    exact positions_increasing _ _ _
  inRange := by
    intro ps hps p hp
    have hmem : p ∈ index.values.flatten := List.mem_flatten.mpr ⟨ps, hps, hp⟩
    exact List.mem_range.mp (h.flatten_perm.mem_iff.mp hmem)

end

/-! ### Edges read off the indexes -/

section
variable {s : Store}

/-- The edges that leave an id are those of the arena with that source, in its order. -/
theorem Coherent.outgoing_eq (h : Coherent s) (id : Key) :
    s.outgoing id = s.edges.toList.filter fun e => e.src == id := by
  unfold outgoing
  rw [h.forward id]
  exact edgesAt_positions s Edge.src id

/-- The edges that enter an id are those of the arena with that target, in its order. -/
theorem Coherent.incoming_eq (h : Coherent s) (id : Key) :
    s.incoming id = s.edges.toList.filter fun e => e.dst == id := by
  unfold incoming
  rw [h.backward id]
  exact edgesAt_positions s Edge.dst id

/-- The list of edges goes through the sources and takes the edges of each. -/
theorem Coherent.edgeList_eq (h : Coherent s) :
    s.edgeList = s.forward.keys.flatMap fun id => s.edges.toList.filter fun e => e.src == id := by
  unfold edgeList
  rw [h.forward.values_eq, List.flatMap_map]
  simp only [edgesAt_positions]

theorem Coherent.edgeList_perm (h : Coherent s) : s.edgeList.Perm s.edges.toList := by
  rw [h.edgeList_eq]
  exact flatMap_filter_perm Edge.src s.forward.distinct_keys fun _ he => h.forward.any_keys he

theorem Coherent.length_edgeList (h : Coherent s) : s.edgeList.length = s.edgeCount := by
  rw [h.edgeList_perm.length_eq]
  exact Array.length_toList

end

/-! ### Counting edges by type -/

theorem sum_alterEntries_succ (k : Key) (l : List (Key × Nat)) :
    ((alterEntries k (fun n => n.getD 0 + 1) l).map (·.2)).sum = (l.map (·.2)).sum + 1 := by
  induction l with
  | nil => rfl
  | cons e l ih =>
    by_cases h : (e.1 == k) = true
    · simp [alterEntries, h]
      omega
    · simp [alterEntries, h, ih]
      omega

/-- The numbers of occurrences add up to the number of keys that were counted. -/
theorem sum_countAll (ks : List Key) : ((countAll ks).entries.map (·.2)).sum = ks.length := by
  suffices h : ∀ t : Table Key Nat,
      ((ks.foldl (fun t k => t.alter k fun n => n.getD 0 + 1) t).entries.map (·.2)).sum
        = (t.entries.map (·.2)).sum + ks.length by
    exact (h {}).trans (Nat.zero_add _)
  induction ks with
  | nil => simp
  | cons k ks ih =>
    intro t
    have hone : ((t.alter k fun n => n.getD 0 + 1).entries.map (·.2)).sum
        = (t.entries.map (·.2)).sum + 1 := sum_alterEntries_succ k t.entries
    rw [List.foldl_cons, ih, hone, List.length_cons]
    omega

/-- The types of edges are counted, one for each edge, unless some type is no key. -/
theorem mapM_typeKey (l : List Edge) :
    (∃ ks, l.mapM typeKey = .ok ks ∧ ks.length = l.length) ∨
    (l.mapM typeKey = .error .unfit ∧ ∃ e ∈ l, Key.ofJson? e.type = none) := by
  induction l with
  | nil => exact .inl ⟨[], rfl, rfl⟩
  | cons e l ih =>
    rw [List.mapM_cons]
    cases he : Key.ofJson? e.type with
    | none => exact .inr ⟨by simp only [typeKey, he]; rfl, e, by simp, he⟩
    | some k =>
      have hk : typeKey e = .ok k := by simp only [typeKey, he]
      rw [hk]
      rcases ih with ⟨ks, hks, hlen⟩ | ⟨herr, e', he', hnone⟩
      · exact .inl ⟨k :: ks, by rw [hks]; rfl, by simp [hlen]⟩
      · exact .inr ⟨by rw [herr]; rfl, e', List.mem_cons_of_mem _ he', hnone⟩

/-- Statistics are refused only for a type of edges that is no key, and otherwise
    account for every edge. -/
theorem Coherent.stats_edges {s : Store} (h : Coherent s) :
    (∃ st, s.stats = .ok st ∧ st.totalEdges = s.edgeCount ∧
      (st.edgeTypes.map (·.2)).sum = st.totalEdges) ∨
    (s.stats = .error .unfit ∧ ∃ e ∈ s.edges.toList, Key.ofJson? e.type = none) := by
  unfold stats
  rcases mapM_typeKey s.edgeList with ⟨ks, hks, hlen⟩ | ⟨herr, e, he, hnone⟩
  · rw [hks]
    refine .inl ⟨_, rfl, rfl, ?_⟩
    show ((countAll ks).entries.map (·.2)).sum = s.edgeCount
    rw [sum_countAll, hlen, h.length_edgeList]
  · rw [herr]
    exact .inr ⟨rfl, e, h.edgeList_perm.mem_iff.mp he, hnone⟩

/-! ### Nothing is removed -/

theorem nodes_keys_grow (s : Store) (c : Change) : s.nodes.keys <+: (s.apply c).nodes.keys := by
  cases c with
  | addNode id node =>
    show s.nodes.keys <+: (s.nodes.insert id node).keys
    rw [Table.keys_insert]
    split
    · exact List.prefix_rfl
    · exact List.prefix_append _ _
  | addEdge | setFileIndex | touch | stamp => exact List.prefix_rfl

theorem Coherent.outgoing_grows {s : Store} (h : Coherent s) (c : Change) (id : Key) :
    s.outgoing id <+: (s.apply c).outgoing id := by
  rw [h.outgoing_eq, (coherent_apply h c).outgoing_eq, edges_apply]
  exact (List.prefix_append _ _).filter _

theorem Coherent.incoming_grows {s : Store} (h : Coherent s) (c : Change) (id : Key) :
    s.incoming id <+: (s.apply c).incoming id := by
  rw [h.incoming_eq, (coherent_apply h c).incoming_eq, edges_apply]
  exact (List.prefix_append _ _).filter _

/-! ## After any run -/

/-- **The indexes of a graph after any run.** Both index the arena, which holds the edges
    in the order in which they were added, and have an entry for every symbol. So the
    edges of an id are the edges of the arena with that end, and the list of all edges
    is the arena, grouped by source in the order in which sources first appeared. The
    numbers of edges by type add up to the number of edges. No further change removes or
    moves an edge of an id or an id. -/
theorem indexes_run (now : String) (cs : List Change) :
    let s := (empty now).run cs
    s.edges.toList = cs.filterMap Change.edge? ∧
    IsIndex s.forward Edge.src s.edges ∧ IsIndex s.backward Edge.dst s.edges ∧
    (∀ id ∈ s.nodes.keys, s.forward.contains id = true ∧ s.backward.contains id = true) ∧
    (∀ id, s.outgoing id = s.edges.toList.filter fun e => e.src == id) ∧
    (∀ id, s.incoming id = s.edges.toList.filter fun e => e.dst == id) ∧
    s.edgeList = (cs.filterMap Change.source?).eraseDups.flatMap
      (fun id => s.edges.toList.filter fun e => e.src == id) ∧
    s.edgeList.Perm s.edges.toList ∧
    s.edgeCount = s.edgeList.length ∧
    ((∃ st, s.stats = .ok st ∧ st.totalEdges = s.edgeCount ∧
        (st.edgeTypes.map (·.2)).sum = st.totalEdges) ∨
      (s.stats = .error .unfit ∧ ∃ e ∈ s.edges.toList, Key.ofJson? e.type = none)) ∧
    ∀ c, s.nodes.keys <+: (s.apply c).nodes.keys ∧
      ∀ id, s.outgoing id <+: (s.apply c).outgoing id ∧
        s.incoming id <+: (s.apply c).incoming id := by
  intro s
  have h : Coherent s := coherent_run (coherent_empty now) cs
  refine ⟨?_, h.forward.isIndex, h.backward.isIndex, ?_, h.outgoing_eq, h.incoming_eq, ?_,
    h.edgeList_perm, h.length_edgeList.symm, h.stats_edges, ?_⟩
  · show ((empty now).run cs).edges.toList = _
    rw [edges_run]
    rfl
  · intro id hid
    apply h.indexed
    rw [Table.contains_eq_any_keys]
    exact List.any_eq_true.mpr ⟨id, hid, BEq.rfl⟩
  · rw [h.edgeList_eq, forward_keys_run]
  · intro c
    exact ⟨nodes_keys_grow s c, fun id => ⟨h.outgoing_grows c id, h.incoming_grows c id⟩⟩

end Store

end SymbolGraph
