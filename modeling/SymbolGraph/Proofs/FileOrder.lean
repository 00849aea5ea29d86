import Mathlib.Data.List.Perm.Basic
import SymbolGraph.Proofs.BuiltGraphs
import SymbolGraph.Proofs.SymbolIds

/-! # The order of files

    A graph is built from the files of a project one after another, and the last symbol with
    an id replaces those before it. If the files come in another order the symbols do as well,
    and so do the edges.

    What the graph says stays the same (`Resolver.build_perm`). Every id and every file is the
    business of one file of the project, so what is looked up comes from the symbols of that
    file alone, and these keep their order (`Resolver.filter_allSymbols_perm`). Each import,
    call and class has its own edges, which depend on the other files only as a whole
    (`Resolver.scan_perm`).
-/

namespace SymbolGraph

/-! ## Lists and tables in another order -/

/-- If at most one element of a list gives something, the order of the elements does not
    matter. -/
theorem flatMap_eq_of_perm {α β : Type} {l l' : List α} (h : l.Perm l') {f : α → List β}
    (hone : l.Pairwise fun a b => f a = [] ∨ f b = []) : l.flatMap f = l'.flatMap f := by
  induction h with
  | nil => rfl
  | cons a _ ih => rw [List.flatMap_cons, List.flatMap_cons, ih (List.pairwise_cons.mp hone).2]
  | swap a b l =>
    have hempty : f b = [] ∨ f a = [] := (List.pairwise_cons.mp hone).1 a List.mem_cons_self
    rw [List.flatMap_cons, List.flatMap_cons, List.flatMap_cons, List.flatMap_cons]
    rcases hempty with hempty | hempty <;> rw [hempty, List.nil_append, List.nil_append]
  | trans h _ ih₁ ih₂ =>
    have hmiddle := (h.pairwise_iff fun hor => hor.symm).mp hone
    rw [ih₁ hone, ih₂ hmiddle]

namespace Table

variable {κ β : Type} [BEq κ] {t u : Table κ β}

theorem contains_perm (h : t.entries.Perm u.entries) (k : κ) : t.contains k = u.contains k :=
  h.any_eq

/-- Looking up does not depend on the order of the entries. -/
theorem get?_perm [EquivBEq κ] (h : t.entries.Perm u.entries) (k : κ) : t.get? k = u.get? k := by
  cases hget : t.get? k with
  | none =>
    rw [get?_eq_none_iff, contains_perm h, ← get?_eq_none_iff] at hget
    exact hget.symm
  | some v =>
    obtain ⟨k', hsame, hmem⟩ := exists_mem_of_get? hget
    rw [← get?_congr u hsame]
    exact (get?_of_mem (h.mem_iff.mp hmem)).symm

end Table

namespace Symbol

/-- Whether a symbol belongs to a file. -/
def isFiled (file : Key) (node : Symbol) : Bool :=
  (Key.ofJson? node.file).any (· == file)

/-- Files that are texts and the same as one key are one text. -/
theorem file_eq_of_isFiled {a b : Symbol} (ha : ∃ file, a.file = .str file)
    (hb : ∃ file, b.file = .str file) {file : Key} (hfa : a.isFiled file = true)
    (hfb : b.isFiled file = true) : a.file = b.file := by
  obtain ⟨fa, ha⟩ := ha
  obtain ⟨fb, hb⟩ := hb
  unfold isFiled at hfa hfb
  rw [ha] at hfa
  rw [hb] at hfb
  have hsame : (Key.str fa == Key.str fb) = true := BEq.trans hfa (BEq.symm hfb)
  rw [Key.str_beq_str, decide_eq_true_eq] at hsame
  rw [ha, hb, hsame]

end Symbol

namespace Resolver

/-! ## The ids of a file -/

section
variable (files : Table String Facts) (now : String)

/-- The ids of a file after some symbols are added: those of its symbols follow those that were
    listed before. -/
theorem fileIndex_additions (l : List Symbol) (s : Store) (file : Key) :
    (s.run (l.map addition)).fileIndex.get? file
      = (l.filter (·.isFiled file)).foldl
        (fun ids node => some ((ids.getD {}).insert (.str node.id) ())) (s.fileIndex.get? file) := by
  induction l generalizing s with
  | nil => rfl
  | cons node l ih =>
    have hone : (s.addNode (.str node.id) node).fileIndex.get? file
        = if node.isFiled file then
            some (((s.fileIndex.get? file).getD {}).insert (.str node.id) ())
          else s.fileIndex.get? file := by
      unfold Store.addNode Symbol.isFiled
      cases Key.ofJson? node.file with
      | none => rfl
      | some f => exact Table.get?_alter _ _ _ _
    rw [List.map_cons, Store.run_cons, ih]
    show (l.filter _).foldl _ ((s.addNode (.str node.id) node).fileIndex.get? file) = _
    rw [hone, List.filter_cons]
    cases node.isFiled file <;> rfl

/-- The ids of a file of a graph that is built are those of its symbols. -/
theorem fileIndex_build (file : Key) :
    (build ⟨files, {}⟩ (Store.empty now)).2.fileIndex.get? file
      = ((allSymbols files).filter (·.isFiled file)).foldl
        (fun ids node => some ((ids.getD {}).insert (.str node.id) ())) none := by
  have hedges : ∀ s : Store, (s.run ((scan files).map .addEdge)).fileIndex = s.fileIndex := by
    intro s
    apply Store.run_frame
    intro c hc u
    obtain ⟨e, _, rfl⟩ := List.mem_map.mp hc
    rfl
  rw [build_eq_run_scan, Store.run_append, hedges]
  exact fileIndex_additions _ _ file

end

/-! ## Files in another order -/

section
variable {files files' : Table String Facts} (hperm : files.entries.Perm files'.entries)

theorem allSymbols_eq_flatMap (files : Table String Facts) :
    allSymbols files = files.entries.flatMap (·.2.symbols) := by
  unfold allSymbols Table.values
  rw [List.flatMap_map]

include hperm

theorem allSymbols_perm : (allSymbols files).Perm (allSymbols files') := by
  rw [allSymbols_eq_flatMap, allSymbols_eq_flatMap]
  exact hperm.flatMap_right _

/-- Symbols that can only be those of one file keep their order. -/
theorem filter_allSymbols_perm
    (hkey : ∀ e ∈ files.entries, ∀ node ∈ e.2.symbols, node.file = .str e.1)
    {wanted : Symbol → Bool}
    (hone : ∀ a ∈ allSymbols files, ∀ b ∈ allSymbols files,
      wanted a = true → wanted b = true → a.file = b.file) :
    (allSymbols files).filter wanted = (allSymbols files').filter wanted := by
  rw [allSymbols_eq_flatMap] at hone
  rw [allSymbols_eq_flatMap, allSymbols_eq_flatMap, List.filter_flatMap, List.filter_flatMap]
  apply flatMap_eq_of_perm hperm
  have hdistinct := List.pairwise_map.mp files.distinct
  refine hdistinct.imp_of_mem ?_
  intro e e' he he' hne
  -- two files with a wanted symbol each would be one file
  by_contra hboth
  rw [not_or] at hboth
  obtain ⟨a, ha⟩ := List.exists_mem_of_ne_nil _ hboth.1
  obtain ⟨b, hb⟩ := List.exists_mem_of_ne_nil _ hboth.2
  obtain ⟨hae, hwa⟩ := List.mem_filter.mp ha
  obtain ⟨hbe, hwb⟩ := List.mem_filter.mp hb
  have hfile := hone a (List.mem_flatMap.mpr ⟨e, he, hae⟩) b (List.mem_flatMap.mpr ⟨e', he', hbe⟩)
    hwa hwb
  rw [hkey e he a hae, hkey e' he' b hbe, Json.str.injEq] at hfile
  rw [hfile, BEq.rfl] at hne
  cases hne

/-- An import has the same edges, in the same order. -/
theorem scanImport_perm (file : String) (i : Import) :
    scanImport files file i = scanImport files' file i := by
  have hresolve : importedFile? ⟨files, .empty⟩ file i.source
      = importedFile? ⟨files', .empty⟩ file i.source := by
    unfold importedFile?
    have hcontains : files.contains = files'.contains := funext (Table.contains_perm hperm)
    rw [hcontains]
  have hget : files.get? = files'.get? := funext (Table.get?_perm hperm)
  unfold scanImport
  rw [hresolve, hget]

theorem scanCall_perm (file : String) (c : Call) :
    (scanCall files file c).Perm (scanCall files' file c) :=
  ((allSymbols_perm hperm).filter _).map _

theorem scanExtends_perm (node : Symbol) :
    (scanExtends files node).Perm (scanExtends files' node) := by
  unfold scanExtends
  split
  · exact ((allSymbols_perm hperm).filter _).map _
  · exact .refl _

/-- All imports, calls and classes together have the same edges. -/
theorem scan_perm : (scan files).Perm (scan files') := by
  apply hperm.flatMap
  intro e _
  apply List.Perm.append
  · apply List.Perm.append
    · exact .flatMap_left _ fun i _ => .of_eq (scanImport_perm hperm e.1 i)
    · exact .flatMap_left _ fun c _ => scanCall_perm hperm e.1 c
  · exact .flatMap_left _ fun node _ => scanExtends_perm hperm node

end

/-- **The order of the files does not matter.** If every symbol has the file in which it is
    found and no name has a colon, then graphs that are built from the files of a project in
    two orders have the same symbols under the same ids, the same edges, each as often, and
    the same ids for each file in the same order. -/
theorem build_perm (files files' : Table String Facts) (now now' : String)
    (hperm : files.entries.Perm files'.entries)
    (hkey : ∀ e ∈ files.entries, ∀ node ∈ e.2.symbols, node.file = .str e.1)
    (hsep : ∀ node ∈ allSymbols files, node.Separable) :
    let s := (build ⟨files, {}⟩ (Store.empty now)).2
    let s' := (build ⟨files', {}⟩ (Store.empty now')).2
    (∀ id, s.nodes.get? id = s'.nodes.get? id) ∧
    s.edges.toList.Perm s'.edges.toList ∧ s.edgeList.Perm s'.edgeList ∧
    (∀ file, s.fileIndex.get? file = s'.fileIndex.get? file) := by
  intro s s'
  have hedges : s.edges.toList.Perm s'.edges.toList := by
    rw [edges_build, edges_build]
    exact scan_perm hperm
  have hcoherent : s.Coherent := (regular_build now fun node hnode => (hsep node hnode).file).coherent
  have hcoherent' : s'.Coherent := by
    refine (regular_build now' fun node hnode => ?_).coherent
    exact (hsep node ((allSymbols_perm hperm).mem_iff.mpr hnode)).file
  refine ⟨?_, hedges, ?_, ?_⟩
  · intro id
    rw [get?_nodes_build, get?_nodes_build]
    congr 1
    apply filter_allSymbols_perm hperm hkey
    -- symbols with one id have one file
    intro a ha b hb hida hidb
    have hsame : (Key.str a.id == Key.str b.id) = true := BEq.trans hida (BEq.symm hidb)
    rw [Key.str_beq_str, decide_eq_true_eq] at hsame
    exact (hsep a ha).file_eq (hsep b hb) hsame
  · exact (hcoherent.edgeList_perm.trans hedges).trans hcoherent'.edgeList_perm.symm
  · intro file
    rw [fileIndex_build, fileIndex_build]
    congr 1
    apply filter_allSymbols_perm hperm hkey
    intro a ha b hb hfa hfb
    exact Symbol.file_eq_of_isFiled (hsep a ha).file (hsep b hb).file hfa hfb

/-- Two files that import from each other, call each other's functions and have classes that
    extend each other's; a function is declared twice, and a file has a colon in its name. -/
theorem build_perm_swapped :
    let f : Symbol := ⟨.str "f", .str "a:1.js", .int 2, .function (.arr []) (.bool false) (.bool false)⟩
    let g : Symbol := ⟨.str "f", .str "b.js", .int 2, .function (.arr []) (.bool true) (.bool false)⟩
    let base : Symbol := ⟨.str "C", .str "a:1.js", .int 3, .klass .null (.arr []) (.arr [])⟩
    let derived : Symbol := ⟨.str "C", .str "b.js", .int 3, .klass (.str "C") (.arr []) (.arr [])⟩
    let first : Facts := {
      symbols := [f, base, f], imports := [⟨"./b", "default", "d", 1⟩], calls := [⟨"f", 5, 0⟩],
      exports := [⟨"default", 9, none⟩] }
    let second : Facts := {
      symbols := [derived, g], imports := [⟨"./a:1", "default", "d", 1⟩], calls := [⟨"f", 5, 1⟩] }
    let files := Table.ofList [("a:1.js", first), ("b.js", second)]
    let files' := Table.ofList [("b.js", second), ("a:1.js", first)]
    let s := (build ⟨files, {}⟩ (Store.empty "t0")).2
    let s' := (build ⟨files', {}⟩ (Store.empty "t1")).2
    files.entries.Perm files'.entries ∧
    (∀ e ∈ files.entries, ∀ node ∈ e.2.symbols, node.file = .str e.1) ∧
    (∀ node ∈ allSymbols files, node.Separable) ∧
    s.edgeCount = 11 ∧ s.nodes.keys ≠ s'.nodes.keys ∧
    (∀ id, s.nodes.get? id = s'.nodes.get? id) ∧
    s.edges.toList.Perm s'.edges.toList ∧ s.edgeList.Perm s'.edgeList ∧
    (∀ file, s.fileIndex.get? file = s'.fileIndex.get? file) := by
  intro f g base derived first second files files'
  have hperm : files.entries.Perm files'.entries := .swap _ _ _
  have hkey : ∀ e ∈ files.entries, ∀ node ∈ e.2.symbols, node.file = .str e.1 := by
    have hentries : files.entries = [("a:1.js", first), ("b.js", second)] := rfl
    rw [hentries]
    simp [first, second, f, g, base, derived]
  have hsep : ∀ node ∈ allSymbols files, node.Separable := by
    have hall : allSymbols files = [f, base, f, derived, g] := rfl
    rw [hall]
    simp only [List.forall_mem_cons]
    exact ⟨⟨⟨_, rfl⟩, ⟨_, rfl, by decide⟩, ⟨_, rfl⟩⟩, ⟨⟨_, rfl⟩, ⟨_, rfl, by decide⟩, ⟨_, rfl⟩⟩,
      ⟨⟨_, rfl⟩, ⟨_, rfl, by decide⟩, ⟨_, rfl⟩⟩, ⟨⟨_, rfl⟩, ⟨_, rfl, by decide⟩, ⟨_, rfl⟩⟩,
      ⟨⟨_, rfl⟩, ⟨_, rfl, by decide⟩, ⟨_, rfl⟩⟩, nofun⟩
  exact ⟨hperm, hkey, hsep, by decide +kernel, by decide +kernel,
    build_perm files files' "t0" "t1" hperm hkey hsep⟩

end Resolver

end SymbolGraph
