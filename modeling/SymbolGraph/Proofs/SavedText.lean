import SymbolGraph.Proofs.JsonText
import SymbolGraph.Proofs.Utf8Bytes
import SymbolGraph.Workspace

/-! # The text of saved documents

    A document is written as text, the text as bytes, and read back from the bytes.
    Between the two lie the encoding and the line ends: bytes are decoded as UTF-8, and
    every line end is read as a line feed. Decoding gives every text back. Line ends do not
    change the text of a document, because it is plain ASCII without a carriage return
    (`Json.allPlain_pretty`). So what is read is what was written (`Files.readText_of_read`).
-/

namespace SymbolGraph

namespace Text

/-- A character that is written as one byte and is no carriage return. -/
def IsPlain (c : Char) : Prop :=
  c.toNat < 128 ∧ c ≠ '\r'

instance (c : Char) : Decidable (IsPlain c) :=
  inferInstanceAs (Decidable (_ ∧ _))

/-- A text of plain characters. -/
def AllPlain (cs : List Char) : Prop :=
  ∀ c ∈ cs, IsPlain c

instance (cs : List Char) : Decidable (AllPlain cs) :=
  List.decidableBAll IsPlain cs

@[simp] theorem allPlain_nil : AllPlain [] := by
  intro c hc
  cases hc

@[simp] theorem allPlain_cons {c : Char} {cs : List Char} :
    AllPlain (c :: cs) ↔ IsPlain c ∧ AllPlain cs := by
  simp [AllPlain]

@[simp] theorem allPlain_append {as bs : List Char} :
    AllPlain (as ++ bs) ↔ AllPlain as ∧ AllPlain bs := by
  simp only [AllPlain, List.mem_append, or_imp, forall_and]

theorem AllPlain.of_subset {as bs : List Char} (h : AllPlain bs) (hsub : ∀ c ∈ as, c ∈ bs) :
    AllPlain as :=
  fun c hc => h c (hsub c hc)

/-! ### Line ends of plain text -/

theorem unifyNewlines_of_plain {cs : List Char} (h : AllPlain cs) : unifyNewlines cs = cs := by
  induction cs with
  | nil => rfl
  | cons c cs ih =>
    obtain ⟨hc, hcs⟩ := allPlain_cons.mp h
    have hcr : c ≠ '\r' := hc.2
    rw [unifyNewlines, ih hcs]
    · intro rest h
      exact absurd h hcr
    · intro h
      exact absurd h hcr

end Text

/-! ## Documents are plain text -/

namespace Text

theorem mem_hexDigits {width n : Nat} {c : Char} (h : c ∈ hexDigits width n) :
    ∃ m < 16, c = hexDigit m := by
  induction width generalizing n with
  | zero => cases h
  | succ width ih =>
    rw [hexDigits] at h
    rcases List.mem_append.mp h with h | h
    · exact ih h
    · exact ⟨n % 16, Nat.mod_lt _ (by decide), List.mem_singleton.mp h⟩

theorem allPlain_hexDigits (width n : Nat) : AllPlain (hexDigits width n) := by
  have hdigit : ∀ m < 16, IsPlain (hexDigit m) := by decide
  intro c hc
  obtain ⟨m, hm, rfl⟩ := mem_hexDigits hc
  exact hdigit m hm

theorem isPlain_of_isDigit {c : Char} (h : c.isDigit = true) : IsPlain c := by
  have h : 48 ≤ c.val ∧ c.val ≤ 57 := by simpa [Char.isDigit] using h
  have hle : c.toNat ≤ 57 := h.2
  refine ⟨by omega, ?_⟩
  rintro rfl
  exact absurd h.1 (by decide)

theorem allPlain_toString_nat (n : Nat) : AllPlain (toString n).toList := by
  intro c hc
  have hc : c ∈ (String.ofList (Nat.toDigits 10 n)).toList := hc
  rw [String.toList_ofList] at hc
  exact isPlain_of_isDigit (Nat.isDigit_of_mem_toDigits (by decide) (by decide) hc)

theorem allPlain_toString_int (i : Int) : AllPlain (toString i).toList := by
  cases i with
  | ofNat n => exact allPlain_toString_nat n
  | negSucc n =>
    show AllPlain ("-" ++ toString (n + 1)).toList
    rw [String.toList_append, allPlain_append]
    exact ⟨by decide, allPlain_toString_nat _⟩

theorem allPlain_replicate {c : Char} (h : IsPlain c) (n : Nat) :
    AllPlain (List.replicate n c) := by
  intro d hd
  rw [(List.mem_replicate.mp hd).2]
  exact h

end Text

namespace Binary64

open Text

theorem allPlain_exponentText (e : Int) : AllPlain (exponentText e).toList := by
  have hsize := allPlain_toString_nat e.natAbs
  unfold exponentText
  rw [String.toList_append, allPlain_append]
  constructor
  · split <;> decide
  · split
    · rw [String.toList_append, allPlain_append]
      exact ⟨by decide, hsize⟩
    · exact hsize

theorem allPlain_positional {digits : List Char} (h : AllPlain digits) (point : Int) :
    AllPlain (positional digits point).toList := by
  have htake : ∀ n, AllPlain (digits.take n) := fun n => h.of_subset fun _ => List.mem_of_mem_take
  have hdrop : ∀ n, AllPlain (digits.drop n) := fun n => h.of_subset fun _ => List.mem_of_mem_drop
  have hzeros : ∀ n, AllPlain (List.replicate n '0') := allPlain_replicate (by decide)
  unfold positional
  dsimp only
  split
  · -- with an exponent
    simp only [String.toList_append, String.toList_ofList, allPlain_append]
    refine ⟨⟨⟨htake 1, ?_⟩, by decide⟩, allPlain_exponentText _⟩
    split
    · decide
    · simp only [String.toList_append, String.toList_ofList, allPlain_append]
      exact ⟨by decide, hdrop 1⟩
  · split
    · -- the point stands before all digits
      simp only [String.toList_append, String.toList_ofList, allPlain_append]
      exact ⟨⟨by decide, hzeros _⟩, h⟩
    · split
      · -- after all digits
        simp only [String.toList_append, String.toList_ofList, allPlain_append]
        exact ⟨⟨h, hzeros _⟩, by decide⟩
      · -- between two digits
        simp only [String.toList_append, String.toList_ofList, allPlain_append]
        exact ⟨⟨htake _, by decide⟩, hdrop _⟩

/-- A number is written in plain text if the words for the others are. -/
theorem allPlain_render {w : Wording} (hinf : AllPlain w.infinity.toList)
    (hnan : AllPlain w.nan.toList) (x : Binary64) : AllPlain (x.render w).toList := by
  have hsign : ∀ neg : Bool, AllPlain (if neg then "-" else "").toList := by decide
  cases x with
  | nan => exact hnan
  | infinite neg =>
    show AllPlain ((if neg then "-" else "") ++ w.infinity).toList
    rw [String.toList_append, allPlain_append]
    exact ⟨hsign neg, hinf⟩
  | finite neg m e =>
    unfold render
    dsimp only
    rw [String.toList_append, allPlain_append]
    refine ⟨hsign neg, ?_⟩
    split
    · decide
    · apply allPlain_positional
      apply (allPlain_toString_nat (shortest m e).1).of_subset
      intro c hc
      unfold dropZeros at hc
      rw [List.mem_reverse] at hc
      exact List.mem_reverse.mp ((List.dropWhile_sublist _).subset hc)

end Binary64

namespace Json

open Text

theorem allPlain_unitEscape (u : Nat) : AllPlain (unitEscape u) := by
  unfold unitEscape
  rw [allPlain_cons, allPlain_cons]
  exact ⟨by decide, by decide, allPlain_hexDigits 4 u⟩

theorem allPlain_escapeChar (c : Char) : AllPlain (escapeChar c) := by
  have hshorts : AllPlain shortEscapes := by decide
  rcases escapeChar_cases c with ⟨e, hshort, htext, _⟩ | ⟨htext, _, _, hprint⟩ | ⟨htext, _⟩
    | ⟨htext, _⟩
  · rw [htext, allPlain_cons, allPlain_cons]
    exact ⟨by decide, hshorts e hshort, allPlain_nil⟩
  · have hc : c ≠ '\r' := by
      rintro rfl
      exact absurd hprint.1 (by decide)
    rw [htext, allPlain_cons]
    exact ⟨⟨by omega, hc⟩, allPlain_nil⟩
  · rw [htext]
    exact allPlain_unitEscape _
  · rw [htext, allPlain_append]
    exact ⟨allPlain_unitEscape _, allPlain_unitEscape _⟩

theorem allPlain_quote (s : String) : AllPlain (quote s).toList := by
  unfold quote
  rw [String.toList_ofList, List.cons_append, allPlain_cons, allPlain_append]
  refine ⟨by decide, ?_, by decide⟩
  intro c hc
  obtain ⟨d, _, hd⟩ := List.mem_flatMap.mp hc
  exact allPlain_escapeChar d c hd

theorem allPlain_scalarText (v : Json) : AllPlain (scalarText v).toList := by
  cases v with
  | null => decide
  | bool b => cases b <;> decide
  | int i => exact allPlain_toString_int i
  | real x => exact Binary64.allPlain_render (by decide) (by decide) x
  | str s => exact allPlain_quote s
  | arr items =>
    show AllPlain "[]".toList
    decide
  | obj fields =>
    show AllPlain "\x7b\x7d".toList
    decide

theorem allPlain_newline (level : Nat) : AllPlain (newline level).toList := by
  unfold newline
  simp only [String.toList_append, String.toList_ofList, allPlain_append]
  exact ⟨by decide, allPlain_replicate (by decide) _⟩

mutual

/-- The text of a value in the layout of saved documents is plain. -/
theorem allPlain_prettyAt (level : Nat) : ∀ v : Json, AllPlain (prettyAt level v).toList
  | .arr (x :: xs) => by
    simp only [prettyAt, String.toList_append, allPlain_append]
    exact ⟨⟨⟨⟨⟨by decide, allPlain_newline _⟩, allPlain_prettyAt _ x⟩, allPlain_prettyItems _ xs⟩,
      allPlain_newline _⟩, by decide⟩
  | .obj ((k, v) :: fs) => by
    simp only [prettyAt, String.toList_append, allPlain_append]
    exact ⟨⟨⟨⟨⟨⟨⟨by decide, allPlain_newline _⟩, allPlain_quote k⟩, by decide⟩,
      allPlain_prettyAt _ v⟩, allPlain_prettyFields _ fs⟩, allPlain_newline _⟩, by decide⟩
  | .arr [] => by
    rw [prettyAt]
    exact allPlain_scalarText _
    all_goals nofun
  | .obj [] => by
    rw [prettyAt]
    exact allPlain_scalarText _
    all_goals nofun
  | .null => allPlain_scalarText .null
  | .bool b => allPlain_scalarText (.bool b)
  | .int i => allPlain_scalarText (.int i)
  | .real x => allPlain_scalarText (.real x)
  | .str s => allPlain_scalarText (.str s)

theorem allPlain_prettyItems (level : Nat) : ∀ xs : List Json,
    AllPlain (prettyItems level xs).toList
  | [] => by
    rw [prettyItems]
    decide
  | x :: xs => by
    simp only [prettyItems, String.toList_append, allPlain_append]
    exact ⟨⟨⟨by decide, allPlain_newline _⟩, allPlain_prettyAt _ x⟩, allPlain_prettyItems _ xs⟩

theorem allPlain_prettyFields (level : Nat) : ∀ fs : List (String × Json),
    AllPlain (prettyFields level fs).toList
  | [] => by
    rw [prettyFields]
    decide
  | (k, v) :: fs => by
    simp only [prettyFields, String.toList_append, allPlain_append]
    exact ⟨⟨⟨⟨⟨by decide, allPlain_newline _⟩, allPlain_quote k⟩, by decide⟩,
      allPlain_prettyAt _ v⟩, allPlain_prettyFields _ fs⟩

end

theorem allPlain_pretty (v : Json) : AllPlain v.pretty.toList :=
  allPlain_prettyAt 0 v

end Json

/-- A file that holds the bytes of a plain text is read as that text. -/
theorem Files.readText_of_read {f : Files} {path s : String} (hplain : Text.AllPlain s.toList)
    (h : f.read path = .ok (Text.Utf8.encode s)) : f.readText path = .ok s := by
  unfold Files.readText
  rw [h]
  show ((Text.Utf8.decode (Text.Utf8.encode s)).mapError Failure.encoding >>= fun text =>
    pure (String.ofList (Text.unifyNewlines text.toList))) = _
  rw [Text.Utf8.decode_eq_ok_iff.mpr rfl]
  show Except.ok (String.ofList (Text.unifyNewlines s.toList)) = _
  rw [Text.unifyNewlines_of_plain hplain, String.ofList_toList]

end SymbolGraph
