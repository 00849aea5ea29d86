import SymbolGraph.Graph.Symbol
import SymbolGraph.Proofs.JsonText

/-! # Ids of symbols

    The id of a symbol is its file, its name and its line with colons in between. The parts
    are written as they are, and a file may have colons of its own. If the name has none the
    id can still be taken apart, from its end: what follows the last colon is the line, what
    follows the one before is the name, and the rest is the file (`Symbol.idOf_inj`).

    So the id of a symbol tells its file, its name and its line, as long as names have no colons
    (`Symbol.Separable.eq_of_id`).
-/

namespace SymbolGraph

/-- A list is taken apart in one way at the last place of an element. -/
theorem append_cons_inj_of_not_mem {α : Type} {c : α} {a b a' b' : List α} (hb : c ∉ b)
    (hb' : c ∉ b') (h : a ++ c :: b = a' ++ c :: b') : a = a' ∧ b = b' := by
  -- what one of the two places has more before it would have the element after the other place
  rcases List.append_eq_append_iff.mp h with ⟨m, ha, hm⟩ | ⟨m, ha, hm⟩
  · cases m with
    | nil =>
      simp only [List.nil_append, List.cons.injEq, true_and] at hm
      exact ⟨by rw [ha, List.append_nil], hm⟩
    | cons d m =>
      simp only [List.cons_append, List.cons.injEq] at hm
      exact absurd (by rw [hm.2]; simp) hb
  · cases m with
    | nil =>
      simp only [List.nil_append, List.cons.injEq, true_and] at hm
      exact ⟨by rw [ha, List.append_nil], hm.symm⟩
    | cons d m =>
      simp only [List.cons_append, List.cons.injEq] at hm
      exact absurd (by rw [hm.2]; simp) hb'

namespace Symbol

/-- The text of a whole number has no colon. -/
theorem colon_not_mem_toString (i : Int) : ':' ∉ (toString i).toList := by
  obtain ⟨negative, htext, _⟩ := Json.toList_toString i
  have hdigits : ':' ∉ Nat.toDigits 10 i.natAbs := by
    intro h
    have hdigit : ':'.isDigit = true := Nat.isDigit_of_mem_toDigits (by decide) (by decide) h
    exact absurd hdigit (by decide)
  rw [htext, List.mem_append, not_or]
  exact ⟨by cases negative <;> decide, hdigits⟩

/-- Whole numbers are told apart by their texts. -/
theorem toString_inj {i j : Int} (h : toString i = toString j) : i = j := by
  obtain ⟨negative, hi, hvalue⟩ := Json.toList_toString i
  obtain ⟨negative', hj, hvalue'⟩ := Json.toList_toString j
  have hchars : (if negative then ['-'] else []) ++ Nat.toDigits 10 i.natAbs
      = (if negative' then ['-'] else []) ++ Nat.toDigits 10 j.natAbs := by rw [← hi, h, hj]
  have hsign : ∀ n : Nat, '-' ∉ Nat.toDigits 10 n := by
    intro n hmem
    exact absurd (Json.isDigit_of_mem_toDigits hmem) (by decide)
  -- the sign is no digit, so both have it or none has
  have hparts : negative = negative' ∧ Nat.toDigits 10 i.natAbs = Nat.toDigits 10 j.natAbs := by
    cases negative <;> cases negative'
    · exact ⟨rfl, hchars⟩
    · exact absurd (by rw [show Nat.toDigits 10 i.natAbs = _ from hchars]; simp) (hsign i.natAbs)
    · exact absurd (by rw [show Nat.toDigits 10 j.natAbs = _ from hchars.symm]; simp)
        (hsign j.natAbs)
    · exact ⟨rfl, (List.cons.inj hchars).2⟩
  have habs := congrArg Json.digitsValue hparts.2
  rw [Json.digitsValue_toDigits, Json.digitsValue_toDigits] at habs
  rw [hvalue, hvalue', hparts.1, habs]

/-- A text is taken apart in one way at its last colon. -/
theorem colon_append_inj {a b a' b' : String} (hb : ':' ∉ b.toList) (hb' : ':' ∉ b'.toList)
    (h : a ++ ":" ++ b = a' ++ ":" ++ b') : a = a' ∧ b = b' := by
  have hchars := congrArg String.toList h
  simp only [String.toList_append, String.reduceToList, List.append_assoc, List.singleton_append]
    at hchars
  obtain ⟨ha, hb⟩ := append_cons_inj_of_not_mem hb hb' hchars
  exact ⟨String.toList_injective ha, String.toList_injective hb⟩

/-- An id is taken apart in one way, if name and line have no colons. -/
theorem idOf_inj {file name line file' name' line' : String}
    (hname : ':' ∉ name.toList) (hline : ':' ∉ line.toList)
    (hname' : ':' ∉ name'.toList) (hline' : ':' ∉ line'.toList)
    (h : file ++ ":" ++ name ++ ":" ++ line = file' ++ ":" ++ name' ++ ":" ++ line') :
    file = file' ∧ name = name' ∧ line = line' := by
  obtain ⟨hfront, hlines⟩ := colon_append_inj hline hline' h
  obtain ⟨hfiles, hnames⟩ := colon_append_inj hname hname' hfront
  exact ⟨hfiles, hnames, hlines⟩

/-- A symbol as it is found in a file, with a name that has no colon. -/
structure Separable (node : Symbol) : Prop where
  file : ∃ file, node.file = .str file
  name : ∃ name, node.name = .str name ∧ ':' ∉ name.toList
  line : ∃ line, node.line = .int line

/-- The id tells the file, the name and the line. -/
theorem Separable.eq_of_id {a b : Symbol} (ha : a.Separable) (hb : b.Separable)
    (h : a.id = b.id) : a.file = b.file ∧ a.name = b.name ∧ a.line = b.line := by
  obtain ⟨file, hfile⟩ := ha.file
  obtain ⟨name, hname, hcolon⟩ := ha.name
  obtain ⟨line, hline⟩ := ha.line
  obtain ⟨file', hfile'⟩ := hb.file
  obtain ⟨name', hname', hcolon'⟩ := hb.name
  obtain ⟨line', hline'⟩ := hb.line
  unfold id at h
  rw [hfile, hname, hline, hfile', hname', hline'] at h
  obtain ⟨hfiles, hnames, hlines⟩ := idOf_inj hcolon (colon_not_mem_toString line) hcolon'
    (colon_not_mem_toString line') h
  have hfiles : file = file' := hfiles
  have hlines : line = line' := toString_inj hlines
  rw [hfile, hfile', hname, hname', hline, hline', hfiles, hnames, hlines]
  exact ⟨rfl, rfl, rfl⟩

theorem Separable.file_eq {a b : Symbol} (ha : a.Separable) (hb : b.Separable)
    (h : a.id = b.id) : a.file = b.file :=
  (ha.eq_of_id hb h).1

end Symbol

end SymbolGraph
