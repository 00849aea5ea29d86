import Mathlib.Data.List.Infix
import Mathlib.Data.List.Nodup
import Mathlib.Data.String.Basic
import SymbolGraph.Graph.Focus
import SymbolGraph.Proofs.Tables

/-! # What an export shows

    An export with a focus shows the symbols whose id or name contains the focus, the edges that
    touch them, and the other ends of these edges. Without a focus, or if no symbol contains it,
    it shows everything. `Store.selection` finds out by looking into values that could be
    anything, so it can fail. It does not if ids and names are texts (`Store.Named`), and then
    what it shows is described without it:

    * `Store.focused` lists the symbols that contain the focus;
    * `Store.Named.selection_eq` says what is selected around them, or if there are none;
    * `Store.selection_exact` is the main result: what is selected is complete, has nothing else
      in it, is closed under the ends of edges, and has the promised order.

    What exports in all languages have in common is here too: they are written item by item
    (`exists_mapM`) and read from left to right (`Reads`).
-/

namespace SymbolGraph

/-! ## Texts -/

namespace Text

/-- A text occurs in another if its characters stand there next to each other. -/
theorem occursIn_iff {needle text : List Char} : occursIn needle text = true ↔ needle <:+: text := by
  induction text with
  | nil => rw [occursIn, List.isEmpty_iff, List.infix_nil]
  | cons c text ih =>
    rw [occursIn, Bool.or_eq_true, ih, List.isPrefixOf_iff_prefix, List.infix_cons_iff]

end Text

namespace Key

/-- A key as it stands in a text. -/
def plain (k : Key) : String :=
  k.toJson.plain

@[simp] theorem plain_str (s : String) : (Key.str s).plain = s := rfl

/-- Keys that are texts are given by these texts. -/
theorem map_str_plain {ks : List Key} (h : ∀ k ∈ ks, ∃ s, k = .str s) :
    (ks.map plain).map .str = ks := by
  rw [List.map_map, List.map_congr_left (g := id), List.map_id]
  intro k hk
  obtain ⟨s, rfl⟩ := h k hk
  rfl

theorem any_beq_str {ks : List Key} {s : String} : ks.any (· == .str s) = true ↔ .str s ∈ ks := by
  rw [List.any_eq_true]
  constructor
  · rintro ⟨k, hk, hks⟩
    rw [← eq_str_of_beq hks]
    exact hk
  · exact fun hs => ⟨.str s, hs, BEq.rfl⟩

theorem contains_str {ks : List Key} {s : String} : ks.contains (.str s) = true ↔ .str s ∈ ks := by
  rw [List.contains_eq_any_beq, ← any_beq_str]
  simp only [BEq.comm]

/-- A text is among the first occurrences if it is in the list. -/
theorem str_mem_eraseDups {ks : List Key} {s : String} : .str s ∈ ks.eraseDups ↔ .str s ∈ ks := by
  rw [← any_beq_str, any_eraseDups, any_beq_str]

end Key

/-- First occurrences have no repetition. -/
theorem nodup_eraseDups (ks : List Key) : ks.eraseDups.Nodup := by
  rw [← Table.keys_setOfList]
  exact Table.nodup_keys _

/-! ## Sorting and choosing -/

namespace Json

/-- Texts are sorted by code points. -/
theorem sortBy?_str (texts : List String) :
    sortBy? Key.toJson (texts.map .str) = some ((texts.mergeSort (· ≤ ·)).map .str) := by
  have hcomparable : comparable ((texts.map Key.str).map Key.toJson) = true := by
    unfold comparable
    rw [Bool.or_eq_true]
    right
    simp only [List.map_map, List.all_map, List.all_eq_true, Function.comp_apply]
    intro a _ b _
    rfl
  unfold sortBy?
  rw [if_pos hcomparable, ← List.map_mergeSort (f := Key.str) (r := fun a b => decide (a ≤ b))]
  intro a _ b _
  show decide (a ≤ b) = !decide (b < a)
  rw [← decide_not]
  exact decide_eq_decide.mpr not_lt.symm

end Json

/-- Choosing by a test that can fail, and does not. -/
theorem filterM_eq_ok {α ε : Type} {test : α → Except ε Bool} {wanted : α → Bool} {l : List α}
    (h : ∀ a ∈ l, test a = .ok (wanted a)) : l.filterM test = .ok (l.filter wanted) := by
  suffices haux : ∀ chosen, l.filterAuxM test chosen = .ok ((l.filter wanted).reverse ++ chosen) by
    unfold List.filterM
    rw [haux []]
    show Except.ok _ = Except.ok _
    rw [List.append_nil, List.reverse_reverse]
  induction l with
  | nil => exact fun _ => rfl
  | cons a l ih =>
    intro chosen
    rw [List.forall_mem_cons] at h
    rw [List.filterAuxM, h.1]
    show List.filterAuxM test l (bif wanted a then a :: chosen else chosen) = _
    rw [ih h.2, List.filter_cons]
    cases wanted a <;> simp

/-- Work on each item of a list that succeeds on all of them, with results that are related to
    what was expected. -/
theorem exists_mapM {α β γ ε : Type} {work : α → Except ε β} {expected : α → γ} {R : β → γ → Prop}
    {l : List α} (h : ∀ a ∈ l, ∃ b, work a = .ok b ∧ R b (expected a)) :
    ∃ bs, l.mapM work = .ok bs ∧ List.Forall₂ R bs (l.map expected) := by
  induction l with
  | nil => exact ⟨[], rfl, .nil⟩
  | cons a l ih =>
    rw [List.forall_mem_cons] at h
    obtain ⟨⟨b, hb, hR⟩, hl⟩ := h
    obtain ⟨bs, hbs, hRs⟩ := ih hl
    refine ⟨b :: bs, ?_, .cons hR hRs⟩
    rw [List.mapM_cons, hb, hbs]
    rfl

/-! ## Reading what was written -/

/-- A reader takes a text for some parts, whatever follows it. -/
def Reads {α : Type} (reader : List Char → Option (List α)) (cs : List Char) (parts : List α) :
    Prop :=
  ∀ rest, reader (cs ++ rest) = (reader rest).map (parts ++ ·)

section
variable {α : Type} {reader : List Char → Option (List α)}

theorem Reads.nil : Reads reader [] [] :=
  fun _ => Option.map_id'.symm

/-- Texts that follow each other are read one after another. -/
theorem Reads.append {cs ds : List Char} {parts more : List α} (h : Reads reader cs parts)
    (h' : Reads reader ds more) : Reads reader (cs ++ ds) (parts ++ more) := by
  intro rest
  rw [List.append_assoc, h, h', Option.map_map]
  congr 1
  funext others
  exact (List.append_assoc _ _ _).symm

end

/-! ## Selections -/

namespace Store

/-- The ids and the names of symbols and the ends of edges are texts. -/
structure Named (s : Store) : Prop where
  id : ∀ x ∈ s.nodes.entries, ∃ id, x.1 = .str id
  name : ∀ x ∈ s.nodes.entries, ∃ name, x.2.name = .str name
  src : ∀ e ∈ s.edges.toList, ∃ id, e.src = .str id
  dst : ∀ e ∈ s.edges.toList, ∃ id, e.dst = .str id

/-- The ids of the symbols whose id or name contains a text, in the order of the symbols. The
    empty text is no focus. -/
def focused (s : Store) (focus : String) : List Key :=
  (s.nodes.entries.filter fun x => focus ≠ "" ∧
    (focus.toList <:+: x.1.plain.toList ∨ focus.toList <:+: x.2.name.plain.toList)).map (·.1)

/-- The whole of a graph. -/
def whole (s : Store) : Selection :=
  ⟨(s.nodes.keys ++ ends s.edgeList).eraseDups, s.edgeList⟩

/-- The edges of a graph that touch some ids. -/
def touching (s : Store) (ids : List Key) : List Edge :=
  s.edgeList.filter fun e => ∃ id ∈ ids, id = e.src ∨ id = e.dst

/-- The part of a graph around some ids: the ids, the edges that touch them, and their ends. -/
def around (s : Store) (ids : List Key) : Selection :=
  ⟨(((ids ++ ends (s.touching ids)).eraseDups.map (·.plain)).mergeSort (· ≤ ·)).map .str,
    s.touching ids⟩

section
variable {s : Store}

theorem mem_ends {es : List Edge} {id : Key} :
    id ∈ ends es ↔ ∃ e ∈ es, id = e.src ∨ id = e.dst := by
  unfold ends
  simp only [List.mem_flatMap, List.mem_cons, List.not_mem_nil, or_false]

/-- The listed edges are edges of the arena. -/
theorem mem_edges_of_mem_edgeList {e : Edge} (he : e ∈ s.edgeList) : e ∈ s.edges.toList := by
  obtain ⟨positions, _, he⟩ := List.mem_flatMap.mp he
  obtain ⟨p, _, hp⟩ := List.mem_filterMap.mp he
  exact List.mem_of_getElem? (by rw [Array.getElem?_toList]; exact hp)

/-- The ends of listed edges are texts. -/
theorem Named.text_of_mem_ends (h : Named s) {es : List Edge} (hes : es ⊆ s.edgeList) {id : Key}
    (hid : id ∈ ends es) : ∃ text, id = .str text := by
  obtain ⟨e, he, rfl | rfl⟩ := mem_ends.mp hid
  · exact h.src e (mem_edges_of_mem_edgeList (hes he))
  · exact h.dst e (mem_edges_of_mem_edgeList (hes he))

theorem Named.text_of_mem_keys (h : Named s) {id : Key} (hid : id ∈ s.nodes.keys) :
    ∃ text, id = .str text := by
  obtain ⟨x, hx, rfl⟩ := List.mem_map.mp hid
  exact h.id x hx

theorem focused_subset (s : Store) (focus : String) : s.focused focus ⊆ s.nodes.keys := by
  intro id hid
  obtain ⟨x, hx, rfl⟩ := List.mem_map.mp hid
  exact List.mem_map_of_mem (List.mem_filter.mp hx).1

/-- The symbols that contain the focus are found. -/
theorem Named.focusIds_eq (h : Named s) (focus : String) :
    s.focusIds focus = .ok (s.focused focus) := by
  unfold focusIds focused
  by_cases hfocus : focus = ""
  · subst hfocus
    simp [pure, Except.pure]
  · have htest : ∀ x ∈ s.nodes.entries, inFocus focus x = .ok (decide (focus ≠ "" ∧
        (focus.toList <:+: x.1.plain.toList ∨ focus.toList <:+: x.2.name.plain.toList))) := by
      intro x hx
      obtain ⟨id, hid⟩ := h.id x hx
      obtain ⟨name, hname⟩ := h.name x hx
      have hin : inFocus focus x = .ok (Text.occurs focus id || Text.occurs focus name) := by
        unfold inFocus
        rw [hid, hname]
        show (if Text.occurs focus id = true then Except.ok true else .ok (Text.occurs focus name)) = _
        cases Text.occurs focus id <;> rfl
      rw [hin, hid, hname, Key.plain_str, Json.plain]
      congr 1
      rw [Bool.eq_iff_iff, Bool.or_eq_true, Text.occurs, Text.occurs, Text.occursIn_iff,
        Text.occursIn_iff, decide_eq_true_eq]
      exact ⟨fun hor => ⟨hfocus, hor⟩, And.right⟩
    have hempty : focus.isEmpty = false := by
      rw [Bool.eq_false_iff, ne_eq, String.isEmpty_iff]
      exact hfocus
    rw [hempty, filterM_eq_ok htest]
    rfl

/-- The edges that touch some ids are found. -/
theorem Named.touching_eq (h : Named s) (ids : List Key) :
    s.edgeList.filter (fun e => ids.contains e.src || ids.contains e.dst) = s.touching ids := by
  apply List.filter_congr
  intro e he
  have he := mem_edges_of_mem_edgeList he
  obtain ⟨src, hsrc⟩ := h.src e he
  obtain ⟨dst, hdst⟩ := h.dst e he
  rw [Bool.eq_iff_iff, Bool.or_eq_true, hsrc, hdst, Key.contains_str, Key.contains_str,
    decide_eq_true_eq]
  constructor
  · rintro (hmem | hmem)
    · exact ⟨_, hmem, .inl rfl⟩
    · exact ⟨_, hmem, .inr rfl⟩
  · rintro ⟨id, hid, rfl | rfl⟩
    · exact .inl hid
    · exact .inr hid

/-- The ids around symbols of a graph are texts. -/
theorem Named.text_of_mem_around (h : Named s) {ids : List Key} (hids : ids ⊆ s.nodes.keys)
    {id : Key} (hid : id ∈ ids ++ ends (s.touching ids)) : ∃ text, id = .str text := by
  rcases List.mem_append.mp hid with hid | hid
  · exact h.text_of_mem_keys (hids hid)
  · exact h.text_of_mem_ends List.filter_sublist.subset hid

/-- What is selected in a graph whose ids and names are texts. -/
theorem Named.selection_eq (h : Named s) (focus : String) :
    s.selection focus
      = .ok (if s.focused focus = [] then s.whole else s.around (s.focused focus)) := by
  unfold selection
  rw [h.focusIds_eq]
  show (if (s.focused focus).isEmpty = true then _ else _) = _
  by_cases hnone : s.focused focus = []
  · rw [hnone]
    simp [whole, Table.keys_setOfList, pure, Except.pure]
  · have hempty : (s.focused focus).isEmpty = false := by
      rw [Bool.eq_false_iff, ne_eq, List.isEmpty_iff]
      exact hnone
    -- the ids are texts, so they can be sorted
    have htexts : ∀ id ∈ (s.focused focus ++ ends (s.touching (s.focused focus))).eraseDups,
        ∃ text, id = .str text := fun id hid =>
      h.text_of_mem_around (focused_subset s focus) ((eraseDups_sublist _).subset hid)
    have hsorted := Json.sortBy?_str
      ((s.focused focus ++ ends (s.touching (s.focused focus))).eraseDups.map (·.plain))
    rw [Key.map_str_plain htexts] at hsorted
    rw [hempty, if_neg hnone]
    simp only [Bool.false_eq_true, if_false, h.touching_eq, Table.keys_setOfList, hsorted]
    rfl

/-! ### The whole and a part -/

/-- The whole of a graph has its symbols first, and then the ends of edges that are no symbols. -/
theorem ids_whole (s : Store) : s.whole.ids = s.nodes.keys
    ++ ((ends s.edgeList).filter fun id => !s.nodes.contains id).eraseDups := by
  show (s.nodes.keys ++ ends s.edgeList).eraseDups = _
  rw [eraseDups_append, Table.eraseDups_of_distinct s.nodes.distinct_keys]
  simp only [Table.contains_eq_any_keys]

/-- The whole of a graph has the ends of all edges. -/
theorem Named.mem_whole_of_mem_ends (h : Named s) {id : Key} (hid : id ∈ ends s.edgeList) :
    id ∈ s.whole.ids := by
  obtain ⟨text, rfl⟩ := h.text_of_mem_ends (List.Subset.refl _) hid
  exact Key.str_mem_eraseDups.mpr (List.mem_append_right _ hid)

/-- What is around some symbols: these, and the ends of the edges that touch them. -/
theorem Named.mem_ids_around (h : Named s) {ids : List Key} (hids : ids ⊆ s.nodes.keys) {id : Key} :
    id ∈ (s.around ids).ids ↔ id ∈ ids ∨ id ∈ ends (s.touching ids) := by
  rw [← List.mem_append]
  show id ∈ List.map Key.str _ ↔ _
  rw [((List.mergeSort_perm _ _).map Key.str).mem_iff, Key.map_str_plain]
  · constructor
    · exact fun hid => (eraseDups_sublist _).subset hid
    · intro hid
      obtain ⟨text, rfl⟩ := h.text_of_mem_around hids hid
      exact Key.str_mem_eraseDups.mpr hid
  · exact fun id hid => h.text_of_mem_around hids ((eraseDups_sublist _).subset hid)

/-- The ids around some symbols increase strictly. -/
theorem Named.around_increasing (h : Named s) {ids : List Key} (hids : ids ⊆ s.nodes.keys) :
    ∃ texts : List String, (s.around ids).ids = texts.map .str ∧ texts.Pairwise (· < ·) := by
  refine ⟨_, rfl, ?_⟩
  have htexts : ∀ id ∈ (ids ++ ends (s.touching ids)).eraseDups, ∃ text, id = .str text :=
    fun id hid => h.text_of_mem_around hids ((eraseDups_sublist _).subset hid)
  -- no text comes twice, so where texts do not decrease they increase
  have hnodup : ((ids ++ ends (s.touching ids)).eraseDups.map (·.plain)).Nodup := by
    apply List.Nodup.of_map Key.str
    rw [Key.map_str_plain htexts]
    exact nodup_eraseDups _
  have hsorted := @List.pairwise_mergeSort _ (fun a b : String => decide (a ≤ b))
    (fun a b c hab hbc => decide_eq_true (le_trans (of_decide_eq_true hab) (of_decide_eq_true hbc)))
    (fun a b => by simpa using le_total a b)
    ((ids ++ ends (s.touching ids)).eraseDups.map (·.plain))
  have happart := (List.mergeSort_perm _ fun a b : String => decide (a ≤ b)).nodup_iff.mpr hnodup
  refine (hsorted.and happart).imp ?_
  rintro a b ⟨hle, hne⟩
  exact lt_of_le_of_ne (of_decide_eq_true hle) hne

end

/-- What is selected are texts and edges of the graph. -/
theorem Named.of_selection {s : Store} (h : Named s) {focus : String} {sel : Selection}
    (hsel : s.selection focus = .ok sel) :
    (∀ id ∈ sel.ids, ∃ text, id = .str text) ∧ ∀ e ∈ sel.edges, e ∈ s.edges.toList := by
  rw [h.selection_eq] at hsel
  cases hsel
  split
  · constructor
    · intro id hid
      rcases List.mem_append.mp ((eraseDups_sublist _).subset hid) with hid | hid
      · exact h.text_of_mem_keys hid
      · exact h.text_of_mem_ends (List.Subset.refl _) hid
    · exact fun e he => mem_edges_of_mem_edgeList he
  · constructor
    · intro id hid
      obtain ⟨text, _, rfl⟩ := List.mem_map.mp hid
      exact ⟨text, rfl⟩
    · exact fun e he => mem_edges_of_mem_edgeList (List.mem_filter.mp he).1

/-- **What an export shows.** In a graph whose ids and names are texts, an export with any focus
    shows ids without repetition, among them both ends of every edge that it shows. If no symbol
    contains the focus, these are all edges in the order of the graph, and all symbols in their
    order, followed by the other ends of edges in order of first occurrence. Otherwise they are
    the edges that touch a symbol that contains the focus, each as often as the graph has it and
    in the same order, and, in strictly increasing order, these symbols and the ends of these
    edges. -/
theorem selection_exact (s : Store) (h : s.Named) (focus : String) :
    ∃ sel, s.selection focus = .ok sel ∧ sel.ids.Nodup ∧
      (∀ e ∈ sel.edges, e.src ∈ sel.ids ∧ e.dst ∈ sel.ids) ∧
      (s.focused focus = [] → sel.edges = s.edgeList ∧ sel.ids = s.nodes.keys
        ++ ((ends s.edgeList).filter fun id => !s.nodes.contains id).eraseDups) ∧
      (s.focused focus ≠ [] →
        sel.edges = s.edgeList.filter (fun e => ∃ id ∈ s.focused focus, id = e.src ∨ id = e.dst) ∧
        (∃ texts : List String, sel.ids = texts.map .str ∧ texts.Pairwise (· < ·)) ∧
        ∀ id, id ∈ sel.ids ↔ id ∈ s.focused focus ∨ ∃ e ∈ sel.edges, id = e.src ∨ id = e.dst) := by
  refine ⟨_, h.selection_eq focus, ?_⟩
  by_cases hnone : s.focused focus = []
  · rw [if_pos hnone]
    refine ⟨nodup_eraseDups _, ?_, fun _ => ⟨rfl, ids_whole s⟩, fun hsome => absurd hnone hsome⟩
    intro e he
    exact ⟨h.mem_whole_of_mem_ends (mem_ends.mpr ⟨e, he, .inl rfl⟩),
      h.mem_whole_of_mem_ends (mem_ends.mpr ⟨e, he, .inr rfl⟩)⟩
  · rw [if_neg hnone]
    have hsub := focused_subset s focus
    obtain ⟨texts, hids, hincreasing⟩ := h.around_increasing hsub
    refine ⟨?_, ?_, fun hempty => absurd hempty hnone, fun _ => ⟨rfl, ⟨texts, hids, hincreasing⟩, ?_⟩⟩
    · rw [hids]
      exact (hincreasing.imp fun hlt => ne_of_lt hlt).map _ fun a b hne heq => hne (Key.str.inj heq)
    · intro e he
      exact ⟨(h.mem_ids_around hsub).mpr (.inr (mem_ends.mpr ⟨e, he, .inl rfl⟩)),
        (h.mem_ids_around hsub).mpr (.inr (mem_ends.mpr ⟨e, he, .inr rfl⟩))⟩
    · intro id
      rw [h.mem_ids_around hsub, mem_ends]
      rfl

/-- A call is listed before the symbols that it is about and comes twice, a class extends another
    one, and an edge between two sites has nothing to do with the focus. The focus is in the name
    of one symbol and in the id of another one. -/
theorem selection_exact_around_f :
    let f : Symbol := ⟨.str "f", .str "b.js", .int 1, .function (.arr []) (.bool false) (.bool false)⟩
    let g : Symbol := ⟨.str "g", .str "f.js", .int 2, .klass (.str "k") (.arr []) (.arr [])⟩
    let k : Symbol := ⟨.str "k", .str "a.js", .int 3, .klass .null (.arr []) (.arr [])⟩
    let call : Edge := ⟨.str "c.js:5", .str "b.js:f:1", .str "calls"⟩
    let derived : Edge := ⟨.str "f.js:g:2", .str "a.js:k:3", .str "extends"⟩
    let other : Edge := ⟨.str "d.js:1", .str "d.js:2", .str "calls"⟩
    let s := (((((((empty "t0").addEdge call).addNode (.str "f.js:g:2") g).addNode
      (.str "b.js:f:1") f).addNode (.str "a.js:k:3") k).addEdge other).addEdge derived).addEdge call
    s.Named ∧ s.focused "f" = [.str "f.js:g:2", .str "b.js:f:1"] ∧
    ∃ sel, s.selection "f" = .ok sel ∧ sel.edges = [call, call, derived] ∧
      (∃ texts : List String, sel.ids = texts.map .str ∧ texts.Pairwise (· < ·)) ∧
      ∀ id, id ∈ sel.ids ↔ id ∈ s.focused "f" ∨ ∃ e ∈ sel.edges, id = e.src ∨ id = e.dst := by
  intro f g k call derived other s
  have h : s.Named := by
    have hnodes : s.nodes.entries
        = [(.str "f.js:g:2", g), (.str "b.js:f:1", f), (.str "a.js:k:3", k)] := rfl
    have hedges : s.edges.toList = [call, other, derived, call] := rfl
    constructor <;> simp [hnodes, hedges, f, g, k, call, derived, other]
  have hfocused : s.focused "f" = [.str "f.js:g:2", .str "b.js:f:1"] := by decide +kernel
  obtain ⟨sel, hsel, _, _, _, hpart⟩ := selection_exact s h "f"
  obtain ⟨hedges, hincreasing, hmem⟩ := hpart (by rw [hfocused]; simp)
  refine ⟨h, hfocused, sel, hsel, ?_, hincreasing, hmem⟩
  rw [hedges, hfocused]
  rfl

end Store

end SymbolGraph
