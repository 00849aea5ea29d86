import SymbolGraph.Proofs.Reencoding
import SymbolGraph.Proofs.SourceOrder

/-! # Every symbol in one file

    The file index lists ids under files. A symbol that is set is listed under its file, and
    nothing is taken off the list of another file. So an index need not say where symbols
    are: an id can be left behind in the list of a file to which its symbol does not belong
    any more.

    In a graph that is built this does not happen. The id of a symbol tells its file, so a
    symbol that replaces another one stays in the list where the id is. The list of a file is
    then the list of the symbols that belong to it (`Store.Partitions.ids`), and the files are
    those of the symbols (`Store.Partitions.files`). From these two facts it follows, for any
    graph, that every symbol is in one list and that the lists have as many ids as there are
    symbols (`Store.Partitions.once`, `Store.Partitions.total`).
-/

namespace SymbolGraph

namespace Store

/-- The file index lists every symbol under its own file, in the order of the symbols, and
    nothing else. -/
structure Partitions (s : Store) : Prop where
  /-- The ids of a file are those of the symbols that belong to it. -/
  ids : ∀ file, s.fileIds file = (s.nodes.entries.filter fun e => e.2.isFiled file).map (·.1)
  /-- The files are those of the symbols, in the order in which they are first met. -/
  files : s.files = s.symbolFiles.eraseDups

section
variable {s : Store}

/-- An id is listed under a file if its symbol belongs to it. -/
theorem Partitions.mem_fileIds (h : Partitions s) {e : Key × Symbol} (he : e ∈ s.nodes.entries)
    (file : Key) : e.1 ∈ s.fileIds file ↔ e.2.isFiled file = true := by
  rw [h.ids]
  constructor
  · intro hmem
    obtain ⟨x, hx, hid⟩ := List.mem_map.mp hmem
    obtain ⟨hx, hfiled⟩ := List.mem_filter.mp hx
    -- the id has one symbol
    have hsymbol : some x.2 = some e.2 := by
      rw [← Table.get?_of_mem he, ← hid, Table.get?_of_mem hx]
    rw [← Option.some.inj hsymbol]
    exact hfiled
  · intro hfiled
    exact List.mem_map_of_mem (List.mem_filter.mpr ⟨he, hfiled⟩)

/-- The file of a symbol is one of the files. -/
theorem Partitions.exists_file (h : Partitions s) (hs : Filable s) {e : Key × Symbol}
    (he : e ∈ s.nodes.entries) : ∃ file ∈ s.files, e.2.isFiled file = true := by
  obtain ⟨own, hown⟩ := hs e he
  have hmet : s.files.any (· == own) = true := by
    rw [h.files, any_eraseDups]
    exact List.any_eq_true.mpr ⟨own, List.mem_filterMap.mpr ⟨e, he, hown⟩, BEq.rfl⟩
  obtain ⟨file, hfile, hsame⟩ := List.any_eq_true.mp hmet
  refine ⟨file, hfile, ?_⟩
  unfold Symbol.isFiled
  rw [hown]
  exact BEq.symm hsame

/-- A symbol belongs to no two files of the index. -/
theorem Partitions.file_unique (h : Partitions s) {node : Symbol} {file other : Key}
    (hfile : file ∈ s.files) (hother : other ∈ s.files) (hfiled : node.isFiled file = true)
    (hfiled' : node.isFiled other = true) : other = file := by
  obtain ⟨own, hown, hsame⟩ := (Option.any_eq_true _ _).mp hfiled
  obtain ⟨own', hown', hsame'⟩ := (Option.any_eq_true _ _).mp hfiled'
  rw [hown] at hown'
  cases hown'
  -- both are the first of the files that are the same as that of the symbol
  have hmeet : (fun k : Key => k == other) = fun k => k == file := by
    funext k
    exact BEq.congr_right (BEq.trans (BEq.symm hsame') hsame)
  rw [h.files] at hfile hother
  have hfirst := find?_of_mem_eraseDups hother
  rw [hmeet, find?_of_mem_eraseDups hfile] at hfirst
  exact (Option.some.inj hfirst).symm

/-- Every symbol is listed under one file, to which it belongs. -/
theorem Partitions.once (h : Partitions s) (hs : Filable s) {e : Key × Symbol}
    (he : e ∈ s.nodes.entries) :
    ∃ file ∈ s.files, e.2.isFiled file = true ∧
      ∀ other ∈ s.files, e.1 ∈ s.fileIds other ↔ other = file := by
  obtain ⟨file, hfile, hfiled⟩ := h.exists_file hs he
  refine ⟨file, hfile, hfiled, ?_⟩
  intro other hother
  rw [h.mem_fileIds he]
  constructor
  · exact fun hfiled' => h.file_unique hfile hother hfiled hfiled'
  · rintro rfl
    exact hfiled

/-- The same for symbols whose files are texts: the file is the one that the symbol says. -/
theorem Partitions.once_text (h : Partitions s)
    (hs : ∀ e ∈ s.nodes.entries, ∃ file, e.2.file = .str file) {e : Key × Symbol}
    (he : e ∈ s.nodes.entries) :
    ∃ file ∈ s.files, e.2.file = file.toJson ∧
      ∀ other ∈ s.files, e.1 ∈ s.fileIds other ↔ other = file := by
  have hfilable : Filable s := by
    intro x hx
    obtain ⟨text, htext⟩ := hs x hx
    exact ⟨.str text, by rw [htext]; rfl⟩
  obtain ⟨file, hfile, hfiled, hone⟩ := h.once hfilable he
  refine ⟨file, hfile, ?_, hone⟩
  obtain ⟨text, htext⟩ := hs e he
  unfold Symbol.isFiled at hfiled
  rw [htext] at hfiled
  rw [htext, Key.eq_str_of_beq (BEq.symm hfiled)]
  rfl

/-- The lists of the files have as many ids as there are symbols. -/
theorem Partitions.total (h : Partitions s) (hs : Filable s) :
    (s.files.map fun file => (s.fileIds file).length).sum = s.nodeCount := by
  have hown : ∀ e ∈ s.nodes.entries, ∀ file,
      e.2.isFiled file = ((Key.ofJson? e.2.file).getD .null == file) := by
    intro e he file
    obtain ⟨own, hown⟩ := hs e he
    unfold Symbol.isFiled
    rw [hown]
    rfl
  have hcover : ∀ e ∈ s.nodes.entries,
      s.files.any (· == (Key.ofJson? e.2.file).getD .null) = true := by
    intro e he
    obtain ⟨file, hfile, hfiled⟩ := h.exists_file hs he
    rw [hown e he] at hfiled
    exact List.any_eq_true.mpr ⟨file, hfile, BEq.symm hfiled⟩
  -- the lists are the parts of the list of symbols that belong to the files
  have hlengths : (s.files.map fun file => (s.fileIds file).length)
      = s.files.map fun file => (s.nodes.entries.filter fun e =>
        (Key.ofJson? e.2.file).getD .null == file).length := by
    apply List.map_congr_left
    intro file _
    rw [h.ids, List.length_map, List.filter_congr fun e he => hown e he file]
  rw [hlengths, ← List.length_flatMap]
  exact (flatMap_filter_perm _ s.fileIndex.distinct_keys hcover).length_eq

/-- The same graph with the same files lists every symbol under its own file as well. -/
theorem Partitions.of_sameGraph {t : Store} (h : Partitions s) (hsame : SameGraph t s)
    (hfiles : t.files = s.files) : Partitions t where
  ids := by
    intro file
    have hids : t.fileIds file = s.fileIds file := by
      unfold fileIds
      rw [hsame.files]
    rw [hids, hsame.nodes, h.ids]
  files := by
    unfold symbolFiles
    rw [hfiles, hsame.nodes, h.files]
    rfl

end

end Store

/-! ## Graphs that are built -/

namespace Resolver

section
variable {files : Table String Facts} (now : String)

/-- The symbol under the id of a symbol belongs to the same files. -/
theorem any_isFiled_get? (h : ∀ node ∈ allSymbols files, node.Separable) {node : Symbol}
    (hnode : node ∈ allSymbols files) (file : Key) :
    ((build ⟨files, {}⟩ (Store.empty now)).2.nodes.get? (.str node.id)).any (·.isFiled file)
      = node.isFiled file := by
  have hfile := file_of_get? now h hnode
  unfold Symbol.isFiled
  rw [← hfile]
  cases (build ⟨files, {}⟩ (Store.empty now)).2.nodes.get? (.str node.id) <;> rfl

/-- In a graph that is built, every symbol is listed under its own file. -/
theorem partitions_build (h : ∀ node ∈ allSymbols files, node.Separable) :
    (build ⟨files, {}⟩ (Store.empty now)).2.Partitions where
  ids := by
    intro file
    have hids := fileIds_build files now file
    have hkeys := nodes_keys_build files now
    have hfiled := fun node (hnode : node ∈ allSymbols files) =>
      any_isFiled_get? now h hnode file
    generalize (build ⟨files, {}⟩ (Store.empty now)).2 = s at hids hkeys hfiled ⊢
    -- the symbols of the file are found by looking up all ids
    have hfound : (s.nodes.entries.filter fun e => e.2.isFiled file).map (·.1)
        = s.nodes.keys.filter fun id => (s.nodes.get? id).any (·.isFiled file) := by
      unfold Table.keys
      rw [List.filter_map]
      congr 1
      apply List.filter_congr
      intro e he
      rw [Function.comp_apply, Table.get?_of_mem he, Option.any_some]
    rw [hfound, hkeys, filter_eraseDups, List.filter_map, hids]
    · congr 2
      apply List.filter_congr
      intro node hnode
      exact (hfiled node hnode).symm
    · intro a b hab
      rw [Table.get?_congr _ hab]
  files := (symbolFiles_build now h).symm

end

/-- **The file index of a graph that is built.** If the names of symbols have no colons, the ids
    of each file are those of the symbols that belong to it, in the order of the symbols, and the
    files are those of the symbols, in the order in which they are first met. So every symbol is
    listed under one file, its own, and the lists have as many ids as there are symbols. All this
    holds as well of the graph that is read from the document of the graph. -/
theorem file_index_partition (files : Table String Facts) (now : String)
    (h : ∀ node ∈ allSymbols files, node.Separable) :
    let s := (build ⟨files, {}⟩ (Store.empty now)).2
    ∃ t, Store.ofDocument s.toDocument = .ok t ∧ t.nodes = s.nodes ∧ ∀ u ∈ [s, t],
      u.Partitions ∧
      (∀ e ∈ u.nodes.entries, ∃ file ∈ u.files, e.2.file = file.toJson ∧
        ∀ other ∈ u.files, e.1 ∈ u.fileIds other ↔ other = file) ∧
      (u.files.map fun file => (u.fileIds file).length).sum = u.nodeCount := by
  intro s
  have hregular : s.Regular := regular_build now fun node hnode => (h node hnode).file
  have hsame := hregular.coherent.sameGraph_reread
  have hs : s.Partitions := partitions_build now h
  have ht : s.reread.Partitions := hs.of_sameGraph hsame (orderly_build now h).files_reread
  have htext : ∀ e ∈ s.nodes.entries, ∃ file, e.2.file = .str file := by
    intro e he
    have hget := Table.get?_of_mem he
    rw [get?_nodes_build] at hget
    exact (h e.2 (List.mem_filter.mp (List.mem_of_getLast? hget)).1).file
  refine ⟨s.reread, Store.ofDocument_toDocument hregular.filable, hsame.nodes, ?_⟩
  rw [List.forall_mem_cons, List.forall_mem_singleton]
  refine ⟨⟨hs, fun e he => hs.once_text htext he, hs.total hregular.filable⟩,
    ⟨ht, ?_, ht.total hregular.reread.filable⟩⟩
  intro e he
  rw [← hsame.nodes] at htext
  exact ht.once_text htext he

/-- A symbol is declared twice, the second time by a file that is listed later; the facts of one
    file name symbols of other files, and a file has colons in its name. -/
theorem file_index_partition_scattered :
    let f : Symbol := ⟨.str "f", .str "a:1.js", .int 2, .function (.arr []) (.bool false) (.bool false)⟩
    let g : Symbol := ⟨.str "g", .str "b.js", .int 1, .variable (.str "let")⟩
    let k : Symbol := ⟨.str "K", .str "a:1.js", .int 1, .klass .null (.arr []) (.arr [])⟩
    let again : Symbol := ⟨.str "f", .str "a:1.js", .int 2, .variable (.str "var")⟩
    let files := Table.ofList [("a:1.js", { symbols := [f, g] }), ("b.js", { symbols := [k, again] })]
    let s := (build ⟨files, {}⟩ (Store.empty "t0")).2
    (∀ node ∈ allSymbols files, node.Separable) ∧
    s.files = [.str "a:1.js", .str "b.js"] ∧
    s.fileIds (.str "a:1.js") = [.str "a:1.js:f:2", .str "a:1.js:K:1"] ∧ s.nodeCount = 3 ∧
    ∃ t, Store.ofDocument s.toDocument = .ok t ∧ t.nodes = s.nodes ∧ s.Partitions ∧ t.Partitions := by
  intro f g k again files s
  have h : ∀ node ∈ allSymbols files, node.Separable := by
    have hall : allSymbols files = [f, g, k, again] := rfl
    rw [hall]
    simp only [List.forall_mem_cons]
    exact ⟨⟨⟨_, rfl⟩, ⟨_, rfl, by decide⟩, ⟨_, rfl⟩⟩, ⟨⟨_, rfl⟩, ⟨_, rfl, by decide⟩, ⟨_, rfl⟩⟩,
      ⟨⟨_, rfl⟩, ⟨_, rfl, by decide⟩, ⟨_, rfl⟩⟩, ⟨⟨_, rfl⟩, ⟨_, rfl, by decide⟩, ⟨_, rfl⟩⟩, nofun⟩
  obtain ⟨t, ht, hnodes, hboth⟩ := file_index_partition files "t0" h
  rw [List.forall_mem_cons, List.forall_mem_singleton] at hboth
  exact ⟨h, by decide +kernel, by decide +kernel, by decide +kernel, t, ht, hnodes, hboth.1.1,
    hboth.2.1⟩

end Resolver

end SymbolGraph
