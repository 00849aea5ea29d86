import Mathlib.Algebra.Order.Group.Multiset
import Mathlib.Tactic.Ring
import SymbolGraph.Proofs.BuiltGraphs

/-! # Building more than once

    The index from names to ids belongs to the resolver. With every graph that a resolver builds,
    all symbols are listed once more, so calls and classes are linked once more to each of them.
    Imports are linked without the index, and have the same edges every time.

    * `Resolver.Indexed` says how often each symbol is listed. It is the invariant of the
      resolver, and does not depend on the graphs (`Resolver.indexed_afterBuilds`).
    * `Resolver.Indexed.edges_build` says which edges one more build adds: those of imports once,
      those of calls and classes as often as symbols are listed by then.
    * Symbols and files are set to what they are already (`Table.foldl_insert_again`,
      `Resolver.foldl_fileUnder_again`).
    * `Resolver.repeated_builds` puts these together for the last of some graphs that are built
      from nothing, and for one graph into which is built again and again. In the second case the
      numbers of listings add up, to a triangular number.
-/

namespace SymbolGraph

/-- Whether an edge leads from one id to another and is of a type. -/
def Edge.joins (e : Edge) (src dst : Key) (type : String) : Bool :=
  e.src == src && e.dst == dst &&
    match e.type with
    | .str t => t == type
    | _ => false

/-- Edges of other types are not counted. -/
theorem countP_joins_eq_zero {l : List Edge} {type : String} (h : ∀ e ∈ l, e.type ≠ .str type)
    (src dst : Key) : l.countP (·.joins src dst type) = 0 := by
  rw [List.countP_eq_zero]
  intro e he hjoins
  have htype := (Bool.and_eq_true_iff.mp hjoins).2
  split at htype
  · rename_i t ht
    exact h e he (by rw [ht, beq_iff_eq.mp htype])
  · cases htype

namespace Store

/-- The number of edges of a type from one id to another. -/
def multiplicity (s : Store) (src dst : Key) (type : String) : Nat :=
  s.edgeList.countP (·.joins src dst type)

/-- A graph has the symbols and files of another one, and its edges a number of times: those of
    imports, and those of calls and classes. -/
structure Repeats (s first : Store) (imports links : Nat) : Prop where
  nodes : s.nodes = first.nodes
  fileIndex : s.fileIndex = first.fileIndex
  multiplicity : ∀ src dst type, s.multiplicity src dst type
    = (if type = "imports" then imports else links) * first.multiplicity src dst type

/-- It does not matter that edges are grouped by source. -/
theorem Coherent.multiplicity_eq {s : Store} (hs : Coherent s) (src dst : Key) (type : String) :
    s.multiplicity src dst type
      = (s.edges.toList : Multiset Edge).countP (·.joins src dst type = true) := by
  unfold multiplicity
  rw [Multiset.coe_countP, hs.edgeList_perm.countP_eq]
  simp

end Store

namespace Resolver

/-! ## The index of a resolver -/

/-- A resolver of some files whose index lists every symbol so many times. -/
structure Indexed (r : Resolver) (files : Table String Facts) (n : Nat) : Prop where
  files_eq : r.files = files
  names_eq : ∀ kind name, (r.names.get? (kind, name)).getD []
    = (List.replicate n (((allSymbols files).filter (declares kind name.toJson)).map
      fun node => Key.str node.id)).flatten

theorem indexed_empty (files : Table String Facts) : Indexed ⟨files, {}⟩ files 0 where
  files_eq := rfl
  names_eq := fun _ _ => rfl

section
variable {files : Table String Facts} {r : Resolver} {n : Nat}

/-- With the symbols of one more graph, all of them are listed once more. -/
theorem Indexed.addSymbols (h : Indexed r files n) (s : Store) :
    Indexed (r.addSymbols s).1 files (n + 1) where
  files_eq := (foldl_addSymbol_files _ r s).trans h.files_eq
  names_eq := by
    intro kind name
    have hnames := foldl_addSymbol_names (allSymbols r.files) r s kind name
    rw [h.names_eq, h.files_eq] at hnames
    rw [List.replicate_succ', List.flatten_append, List.flatten_singleton, ← hnames, ← h.files_eq]
    rfl

/-- Linking leaves the index alone. -/
theorem Indexed.build (h : Indexed r files n) (s : Store) :
    Indexed (r.build s).1 files (n + 1) :=
  h.addSymbols s

end

/-- The resolver of some files after it has built some graphs, each from one that was there. -/
def afterBuilds (files : Table String Facts) (starts : List Store) : Resolver :=
  starts.foldl (fun r s => (r.build s).1) ⟨files, .empty⟩

/-- The resolver of some files and the one graph into which it has built so many times. -/
def buildTimes (files : Table String Facts) (now : String) : Nat → Resolver × Store
  | 0 => (⟨files, .empty⟩, Store.empty now)
  | k + 1 =>
    let (r, s) := buildTimes files now k
    r.build s

theorem indexed_afterBuilds (files : Table String Facts) (starts : List Store) :
    Indexed (afterBuilds files starts) files starts.length := by
  induction starts using List.reverseRecOn with
  | nil => exact indexed_empty files
  | append_singleton starts s ih =>
    unfold afterBuilds at ih ⊢
    rw [List.foldl_concat, List.length_append]
    exact ih.build s

/-! ## The edges of one more build -/

/-- The edges of all imports, file by file. -/
def scanImports (files : Table String Facts) : List Edge :=
  files.entries.flatMap fun e => e.2.imports.flatMap (scanImport files e.1)

/-- The edges of all calls and classes, file by file. -/
def scanLinks (files : Table String Facts) : List Edge :=
  files.entries.flatMap fun e =>
    e.2.calls.flatMap (scanCall files e.1) ++ e.2.symbols.flatMap (scanExtends files)

/-- Lists that are put together part by part, where each part consists of one list and so many
    copies of another. -/
theorem coe_flatMap_copies {α β : Type} {f g h : α → List β} {n : Nat} (l : List α)
    (hparts : ∀ a, (f a : Multiset β) = g a + n • (h a : Multiset β)) :
    (l.flatMap f : Multiset β) = l.flatMap g + n • (l.flatMap h : Multiset β) := by
  induction l with
  | nil => simp
  | cons a l ih =>
    rw [List.flatMap_cons, List.flatMap_cons, List.flatMap_cons, ← Multiset.coe_add,
      ← Multiset.coe_add, ← Multiset.coe_add, ih, hparts, nsmul_add, add_add_add_comm]

theorem coe_flatten_replicate {β : Type} (n : Nat) (l : List β) :
    ((List.replicate n l).flatten : Multiset β) = n • (l : Multiset β) := by
  induction n with
  | zero => simp
  | succ n ih =>
    rw [List.replicate_succ', List.flatten_append, ← Multiset.coe_add, ih, List.flatten_singleton,
      succ_nsmul]

theorem coe_flatMap_replicate {α β : Type} (n : Nat) (l : List α) (g : α → List β) :
    (l.flatMap fun a => (List.replicate n (g a)).flatten : Multiset β)
      = n • (l.flatMap g : Multiset β) := by
  have hparts : ∀ a, ((List.replicate n (g a)).flatten : Multiset β)
      = ([] : List β) + n • (g a : Multiset β) := by
    intro a
    rw [coe_flatten_replicate, Multiset.coe_nil, zero_add]
  rw [coe_flatMap_copies l hparts]
  simp

section
variable {files : Table String Facts} {r : Resolver} {n : Nat}

/-- The edges of a file: those of its imports once, the others as often as symbols are listed. -/
theorem Indexed.coe_fileEdges (h : Indexed r files n) {s : Store}
    (hnodes : ∀ node ∈ allSymbols files, s.nodes.contains (.str node.id) = true)
    (file : String) (f : Facts) :
    (r.fileEdges s file f : Multiset Edge)
      = f.imports.flatMap (scanImport files file)
        + n • (f.calls.flatMap (scanCall files file) ++ f.symbols.flatMap (scanExtends files)
          : List Edge) := by
  rw [fileEdges_eq_copies h.files_eq h.names_eq hnodes, ← Multiset.coe_add, ← Multiset.coe_add,
    coe_flatMap_replicate, coe_flatMap_replicate, ← Multiset.coe_add, nsmul_add, add_assoc]

/-- One more build adds the edges of imports, and those of calls and classes as often as symbols
    are listed by then. -/
theorem Indexed.edges_build (h : Indexed r files n) (s : Store) :
    ((r.build s).2.edges.toList : Multiset Edge)
      = s.edges.toList + (scanImports files + (n + 1) • (scanLinks files : Multiset Edge)) := by
  obtain ⟨es, hbuild, hes⟩ := build_eq_run r s
  have hedges : (r.build s).2.edges.toList = s.edges.toList ++ es := by
    rw [hbuild, Store.edges_run, filterMap_changes]
    simp [Change.edge?, addition]
  -- all symbols are in the graph, and listed once more, before the first edge is added
  have hnodes : ∀ node ∈ allSymbols files,
      (r.addSymbols s).2.nodes.contains (.str node.id) = true := by
    intro node hnode
    rw [← h.files_eq] at hnode
    exact contains_addSymbols r s hnode
  have hindexed := h.addSymbols s
  rw [hedges, ← Multiset.coe_add, hes, h.files_eq]
  congr 1
  exact coe_flatMap_copies _ fun e => hindexed.coe_fileEdges hnodes e.1 e.2

end

/-! ## The symbols and files of one more build -/

/-- The file index with a symbol listed under its file. -/
def fileUnder (index : Table Key (Table Key Unit)) (node : Symbol) : Table Key (Table Key Unit) :=
  match Key.ofJson? node.file with
  | some file => index.alter file fun ids => (ids.getD .empty).insert (.str node.id) ()
  | none => index

/-- A symbol is listed under its file, if that can be looked up. -/
def IsListed (index : Table Key (Table Key Unit)) (node : Symbol) : Prop :=
  ∀ file, Key.ofJson? node.file = some file →
    ∃ ids, index.get? file = some ids ∧ ids.contains (.str node.id) = true

section
variable {index : Table Key (Table Key Unit)} {node : Symbol}

theorem isListed_fileUnder_self : IsListed (fileUnder index node) node := by
  intro file hfile
  unfold fileUnder
  rw [hfile]
  dsimp only
  refine ⟨_, Table.get?_alter_self _ _ _, ?_⟩
  exact Table.contains_of_get? (Table.get?_insert_self _ _ _)

theorem IsListed.fileUnder (h : IsListed index node) (other : Symbol) :
    IsListed (fileUnder index other) node := by
  intro file hfile
  obtain ⟨ids, hids, hid⟩ := h file hfile
  unfold Resolver.fileUnder
  cases Key.ofJson? other.file with
  | none => exact ⟨ids, hids, hid⟩
  | some file' =>
    dsimp only
    rw [Table.get?_alter, hids]
    split
    · -- the other symbol is listed under the same file
      refine ⟨_, rfl, ?_⟩
      show Table.contains (Table.alter ids _ _) _ = true
      rw [Table.contains_alter, hid, Bool.or_true]
    · exact ⟨ids, rfl, hid⟩

/-- A symbol that is listed is not listed again. -/
theorem IsListed.fileUnder_eq (h : IsListed index node) : Resolver.fileUnder index node = index := by
  unfold Resolver.fileUnder
  cases hfile : Key.ofJson? node.file with
  | none => rfl
  | some file =>
    obtain ⟨ids, hids, hid⟩ := h file hfile
    rw [← Table.isSome_get?, Option.isSome_iff_exists] at hid
    obtain ⟨u, hu⟩ := hid
    exact Table.alter_eq_self hids (Table.alter_eq_self hu rfl)

/-- All symbols that are gone through are listed then. -/
theorem isListed_foldl (l : List Symbol) :
    ∀ node ∈ l, IsListed (l.foldl Resolver.fileUnder index) node := by
  induction l using List.reverseRecOn with
  | nil => simp
  | append_singleton l other ih =>
    intro node hnode
    rw [List.foldl_concat]
    rcases List.mem_append.mp hnode with hnode | hnode
    · exact (ih node hnode).fileUnder other
    · rw [List.mem_singleton.mp hnode]
      exact isListed_fileUnder_self

theorem foldl_fileUnder_of_isListed {l : List Symbol} (h : ∀ node ∈ l, IsListed index node) :
    l.foldl Resolver.fileUnder index = index := by
  induction l with
  | nil => rfl
  | cons node l ih =>
    rw [List.foldl_cons, (h node List.mem_cons_self).fileUnder_eq]
    exact ih fun other hother => h other (List.mem_cons_of_mem _ hother)

/-- Symbols that are gone through again are listed already. -/
theorem foldl_fileUnder_again (l : List Symbol) (index : Table Key (Table Key Unit)) :
    l.foldl Resolver.fileUnder (l.foldl Resolver.fileUnder index)
      = l.foldl Resolver.fileUnder index :=
  foldl_fileUnder_of_isListed (isListed_foldl l)

end

/-- The symbols of a graph with more symbols set, one after another. -/
def nodesWith (nodes : Table Key Symbol) (l : List Symbol) : Table Key Symbol :=
  l.foldl (fun t node => t.insert (.str node.id) node) nodes

theorem nodes_build (r : Resolver) (s : Store) :
    (r.build s).2.nodes = nodesWith s.nodes (allSymbols r.files) := by
  obtain ⟨es, hbuild, _⟩ := build_eq_run r s
  rw [hbuild]
  exact nodes_run_additions s _ _ (by simp [Change.node?])

theorem fileIndex_run_additions (l : List Symbol) (s : Store) :
    (s.run (l.map addition)).fileIndex = l.foldl fileUnder s.fileIndex := by
  induction l generalizing s with
  | nil => rfl
  | cons node l ih => exact ih (s.apply (addition node))

theorem fileIndex_build_eq_foldl (r : Resolver) (s : Store) :
    (r.build s).2.fileIndex = (allSymbols r.files).foldl fileUnder s.fileIndex := by
  obtain ⟨es, hbuild, _⟩ := build_eq_run r s
  rw [hbuild, Store.run_append, Store.run_frame (·.fileIndex), fileIndex_run_additions]
  intro c hc u
  obtain ⟨e, _, rfl⟩ := List.mem_map.mp hc
  rfl

/-! ## Builds of a resolver -/

/-- A graph that holds the edges of some files so many times, those of imports and those of calls
    and classes, and no symbols but those of the files. -/
structure Holds (s : Store) (files : Table String Facts) (imports links : Nat) : Prop where
  coherent : s.Coherent
  /-- With the symbols of the files set, there are no others. -/
  nodes : nodesWith s.nodes (allSymbols files) = nodesWith .empty (allSymbols files)
  /-- And the same for what is listed under files. -/
  fileIndex : (allSymbols files).foldl fileUnder s.fileIndex
    = (allSymbols files).foldl fileUnder .empty
  edges : (s.edges.toList : Multiset Edge)
    = imports • (scanImports files : Multiset Edge) + links • (scanLinks files : Multiset Edge)

theorem holds_empty (files : Table String Facts) (now : String) :
    Holds (Store.empty now) files 0 0 where
  coherent := Store.coherent_empty now
  nodes := rfl
  fileIndex := rfl
  edges := by simp [Store.empty]

section
variable {files : Table String Facts} {r : Resolver} {s : Store} {n imports links : Nat}

/-- One more build adds the edges of imports once, and those of calls and classes once more than
    the symbols were listed before. -/
theorem Holds.build (h : Holds s files imports links) (hr : Indexed r files n) :
    Holds (r.build s).2 files (imports + 1) (links + (n + 1)) where
  coherent := by
    obtain ⟨es, hbuild, _⟩ := build_eq_run r s
    rw [hbuild]
    exact Store.coherent_run h.coherent _
  nodes := by
    rw [nodes_build, hr.files_eq, h.nodes]
    exact Table.foldl_insert_again (fun node : Symbol => Key.str node.id) id _ _
  fileIndex := by
    rw [fileIndex_build_eq_foldl, hr.files_eq, h.fileIndex]
    exact foldl_fileUnder_again _ _
  edges := by
    rw [hr.edges_build, h.edges, succ_nsmul _ imports, add_nsmul _ links, add_add_add_comm]

theorem triangle_succ (k : Nat) : (k + 1) * (k + 1 + 1) / 2 = k * (k + 1) / 2 + (k + 1) := by
  have hdouble : (k + 1) * (k + 1 + 1) = k * (k + 1) + 2 * (k + 1) := by ring
  rw [hdouble, Nat.add_mul_div_left _ _ (by decide)]

/-- After so many builds into one graph, the numbers of listings are added up. -/
theorem holds_buildTimes (files : Table String Facts) (now : String) (k : Nat) :
    Indexed (buildTimes files now k).1 files k ∧
    Holds (buildTimes files now k).2 files k (k * (k + 1) / 2) := by
  induction k with
  | zero => exact ⟨indexed_empty files, holds_empty files now⟩
  | succ k ih =>
    obtain ⟨hr, hs⟩ := ih
    rw [triangle_succ]
    exact ⟨hr.build _, hs.build hr⟩

end

/-! ## Counting edges of a type -/

theorem type_of_mem_scanImports {files : Table String Facts} {e : Edge}
    (he : e ∈ scanImports files) : e.type = .str "imports" := by
  obtain ⟨_, _, he⟩ := List.mem_flatMap.mp he
  obtain ⟨i, _, he⟩ := List.mem_flatMap.mp he
  unfold scanImport at he
  split at he
  · obtain ⟨_, _, rfl⟩ := List.mem_map.mp he
    rfl
  · cases he

theorem type_of_mem_scanLinks {files : Table String Facts} {e : Edge} (he : e ∈ scanLinks files) :
    e.type = .str "calls" ∨ e.type = .str "extends" := by
  obtain ⟨_, _, he⟩ := List.mem_flatMap.mp he
  rcases List.mem_append.mp he with he | he
  · obtain ⟨_, _, he⟩ := List.mem_flatMap.mp he
    obtain ⟨_, _, rfl⟩ := List.mem_map.mp he
    exact .inl rfl
  · obtain ⟨node, _, he⟩ := List.mem_flatMap.mp he
    unfold scanExtends at he
    split at he
    · obtain ⟨_, _, rfl⟩ := List.mem_map.mp he
      exact .inr rfl
    · cases he

section
variable {files : Table String Facts} {r : Resolver} {s : Store} {n imports links : Nat}

/-- How often a graph has an edge, by how often the files have it. -/
theorem Holds.multiplicity_eq (h : Holds s files imports links) (src dst : Key) (type : String) :
    s.multiplicity src dst type
      = imports * (scanImports files).countP (·.joins src dst type)
        + links * (scanLinks files).countP (·.joins src dst type) := by
  rw [h.coherent.multiplicity_eq, h.edges, Multiset.countP_add, Multiset.countP_nsmul,
    Multiset.countP_nsmul, Multiset.coe_countP, Multiset.coe_countP]
  simp

/-- What holds the edges of some files so many times repeats the graph that is built first. -/
theorem Holds.repeats_build (h : Holds s files imports links) (hr : Indexed r files n)
    (now : String) :
    (r.build s).2.Repeats (Resolver.build ⟨files, {}⟩ (Store.empty now)).2 (imports + 1)
      (links + (n + 1)) := by
  have hlast := h.build hr
  have hfirst := (holds_empty files now).build (indexed_empty files)
  -- an edge of a type is either one of imports or one of calls and classes
  have hlinks : ∀ type, type ≠ "imports" → ∀ src dst,
      (scanImports files).countP (·.joins src dst type) = 0 := by
    intro type htype
    apply countP_joins_eq_zero
    intro e he heq
    rw [type_of_mem_scanImports he] at heq
    exact htype (Json.str.inj heq).symm
  have himports : ∀ src dst, (scanLinks files).countP (·.joins src dst "imports") = 0 := by
    apply countP_joins_eq_zero
    intro e he heq
    rcases type_of_mem_scanLinks he with h | h <;> simp [h] at heq
  refine ⟨?_, ?_, ?_⟩
  · rw [nodes_build, nodes_build, hr.files_eq, h.nodes]
    rfl
  · rw [fileIndex_build_eq_foldl, fileIndex_build_eq_foldl, hr.files_eq, h.fileIndex]
    rfl
  · intro src dst type
    rw [hlast.multiplicity_eq, hfirst.multiplicity_eq]
    by_cases htype : type = "imports"
    · simp [htype, himports]
    · simp [htype, hlinks type htype]

end

/-- **Building more than once.** When a resolver builds a graph from nothing and has built others
    before, into whatever graphs, its symbols, files and imports are those of the first build, and
    it has the edges of calls and classes as many times as graphs were built. When a resolver
    builds into one graph again and again, its symbols and files are those of the first build, it
    has the edges of imports as many times as was built, and those of calls and classes as many
    times as the numbers of the builds add up to. -/
theorem repeated_builds (files : Table String Facts) (now : String) :
    let first := (build ⟨files, {}⟩ (Store.empty now)).2
    (∀ earlier now',
      ((afterBuilds files earlier).build (Store.empty now')).2.Repeats first
        1 (earlier.length + 1)) ∧
    ∀ k now', 1 ≤ k → (buildTimes files now' k).2.Repeats first k (k * (k + 1) / 2) := by
  intro first
  constructor
  · intro earlier now'
    have h := (holds_empty files now').repeats_build (indexed_afterBuilds files earlier) now
    rwa [Nat.zero_add, Nat.zero_add] at h
  · intro k now' hk
    obtain ⟨k, rfl⟩ := Nat.exists_eq_add_of_le' hk
    obtain ⟨hr, hs⟩ := holds_buildTimes files now' k
    rw [triangle_succ]
    exact hs.repeats_build hr now

/-- A function that is declared twice on one line is imported and called from another file, where
    a class is extended. The first build has two edges for the import and the call, and one for
    the class. The third build from nothing has two for the import, six for the call and three for
    the class. Three builds into one graph make six, twelve and six. -/
theorem repeated_builds_three :
    let f : Symbol := ⟨.str "f", .str "a.js", .int 1, .function (.arr []) (.bool false) (.bool false)⟩
    let base : Symbol := ⟨.str "C", .str "a.js", .int 3, .klass .null (.arr []) (.arr [])⟩
    let derived : Symbol := ⟨.str "D", .str "b.js", .int 4, .klass (.str "C") (.arr []) (.arr [])⟩
    let files := Table.ofList [("a.js", { symbols := [f, base, f] }),
      ("b.js", {
        symbols := [derived], imports := [⟨"./a", "f", "f", 1⟩], calls := [⟨"f", 2, 0⟩] })]
    let last := ((afterBuilds files [Store.empty "t0", Store.empty "t1"]).build
      (Store.empty "t2")).2
    let s := (buildTimes files "t0" 3).2
    last.multiplicity (.str "b.js:import:1") (.str "a.js:f:1") "imports" = 2 ∧
    last.multiplicity (.str "b.js:2") (.str "a.js:f:1") "calls" = 6 ∧
    last.multiplicity (.str "b.js:D:4") (.str "a.js:C:3") "extends" = 3 ∧
    s.multiplicity (.str "b.js:import:1") (.str "a.js:f:1") "imports" = 6 ∧
    s.multiplicity (.str "b.js:2") (.str "a.js:f:1") "calls" = 12 ∧
    s.multiplicity (.str "b.js:D:4") (.str "a.js:C:3") "extends" = 6 ∧
    s.nodes.keys = [.str "a.js:f:1", .str "a.js:C:3", .str "b.js:D:4"] := by
  intro f base derived files last s
  obtain ⟨hfresh, hone⟩ := repeated_builds files "t0"
  have hlast := hfresh [Store.empty "t0", Store.empty "t1"] "t2"
  have hs := hone 3 "t0" (by decide)
  let first := (build ⟨files, {}⟩ (Store.empty "t0")).2
  have himports : first.multiplicity (.str "b.js:import:1") (.str "a.js:f:1") "imports" = 2 := by
    decide
  have hcalls : first.multiplicity (.str "b.js:2") (.str "a.js:f:1") "calls" = 2 := by decide
  have hextends : first.multiplicity (.str "b.js:D:4") (.str "a.js:C:3") "extends" = 1 := by decide
  have hkeys : first.nodes.keys = [.str "a.js:f:1", .str "a.js:C:3", .str "b.js:D:4"] := by decide
  refine ⟨?_, ?_, ?_, ?_, ?_, ?_, ?_⟩
  · rw [hlast.multiplicity, himports, if_pos rfl]
  · rw [hlast.multiplicity, hcalls, if_neg (by decide)]
    rfl
  · rw [hlast.multiplicity, hextends, if_neg (by decide)]
    rfl
  · rw [hs.multiplicity, himports, if_pos rfl]
  · rw [hs.multiplicity, hcalls, if_neg (by decide)]
  · rw [hs.multiplicity, hextends, if_neg (by decide)]
  · rw [hs.nodes, hkeys]

end Resolver

end SymbolGraph
