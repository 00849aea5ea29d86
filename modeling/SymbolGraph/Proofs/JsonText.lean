import SymbolGraph.Json.Reader
import SymbolGraph.Json.Writer

/-! # Reading what was written

    The text of a value in the layout of saved documents is read as that value
    (`Json.parse_pretty`). This needs three things of the value (`Json.isSimple`): it has
    no numbers with a fraction, its whole numbers are not too long to be read, and no
    object has two fields of one name.

    Reading keeps track of positions for its messages. They play no part here, so results
    are stated for some position after the text.
-/

namespace SymbolGraph.Json

/-! ## Strings -/

theorem hexValue?_hexDigit {m : Nat} (h : m < 16) :
    Text.hexValue? (Text.hexDigit m) = some m := by
  have hall : ∀ m < 16, Text.hexValue? (Text.hexDigit m) = some m := by decide
  exact hall m h

/-- Four digits are read as the number that they were written for. -/
theorem hexDigits_four {u : Nat} (h : u < 0x10000) :
    ∃ a b c d, Text.hexDigits 4 u = [a, b, c, d] ∧ hex4? a b c d = some u := by
  have hlt : ∀ n : Nat, n % 16 < 16 := fun n => Nat.mod_lt n (by decide)
  refine ⟨_, _, _, _, rfl, ?_⟩
  unfold hex4?
  rw [hexValue?_hexDigit (hlt _), hexValue?_hexDigit (hlt _), hexValue?_hexDigit (hlt _),
    hexValue?_hexDigit (hlt _)]
  show some _ = some u
  congr 1
  omega

/-- A unit that is not the first half of a pair is read as its character. -/
theorem readString_unitEscape (start position : Nat) (read : List Char) {u : Nat}
    (hu : u < 0x10000) (hhalf : ¬(0xd800 ≤ u ∧ u < 0xe000)) {rest : List Char}
    (hrest : rest ≠ []) :
    readString start read position (unitEscape u ++ rest)
      = readString start (Char.ofNat u :: read) (position + 6) rest := by
  obtain ⟨a, b, c, d, hdigits, hvalue⟩ := hexDigits_four hu
  obtain ⟨e, rest, rfl⟩ := List.exists_cons_of_ne_nil hrest
  have hchar : unitChar u = Char.ofNat u := if_neg hhalf
  unfold unitEscape
  rw [hdigits]
  show readString start read position ('\\' :: 'u' :: a :: b :: c :: d :: e :: rest) = _
  rw [readString, hvalue]
  dsimp only
  rw [if_neg (by omega), hchar]

/-- Two units that form a pair are read as the character of the pair. -/
theorem readString_pair (start position : Nat) (read : List Char) {high low : Nat}
    (hhigh : 0xd800 ≤ high ∧ high < 0xdc00) (hlow : 0xdc00 ≤ low ∧ low < 0xe000)
    {rest : List Char} (hrest : rest ≠ []) :
    readString start read position (unitEscape high ++ (unitEscape low ++ rest))
      = readString start (Char.ofNat (0x10000 + (high - 0xd800) * 1024 + (low - 0xdc00)) :: read)
          (position + 12) rest := by
  obtain ⟨a, b, c, d, hdigits, hvalue⟩ := hexDigits_four (u := high) (by omega)
  obtain ⟨a', b', c', d', hdigits', hvalue'⟩ := hexDigits_four (u := low) (by omega)
  obtain ⟨e, rest, rfl⟩ := List.exists_cons_of_ne_nil hrest
  unfold unitEscape
  rw [hdigits, hdigits']
  show readString start read position
    ('\\' :: 'u' :: a :: b :: c :: d :: '\\' :: 'u' :: a' :: b' :: c' :: d' :: e :: rest) = _
  rw [readString, hvalue]
  dsimp only
  rw [if_pos hhigh, pairedEscape, hvalue']
  dsimp only
  rw [if_pos hlow]
  rfl

/-- The numbers of characters leave out the halves of pairs. -/
theorem toNat_cases (c : Char) :
    c.toNat < 0xd800 ∨ 0xdfff < c.toNat ∧ c.toNat < 0x110000 :=
  c.valid

/-- The letters of the short escapes that are written. -/
def shortEscapes : List Char :=
  ['"', '\\', 'n', 'r', 't', 'b', 'f']

/-- How a character is written: by a short escape, as itself, by one unit or by two. -/
theorem escapeChar_cases (c : Char) :
    (∃ e ∈ shortEscapes, escapeChar c = ['\\', e] ∧ plainEscape? e = some c) ∨
    (escapeChar c = [c] ∧ c ≠ '"' ∧ c ≠ '\\' ∧ 0x20 ≤ c.toNat ∧ c.toNat < 0x7f) ∨
    (escapeChar c = unitEscape c.toNat ∧ c.toNat < 0x10000) ∨
    (escapeChar c = unitEscape (0xd800 + (c.toNat - 0x10000) / 1024)
      ++ unitEscape (0xdc00 + (c.toNat - 0x10000) % 1024) ∧ 0x10000 ≤ c.toNat) := by
  unfold escapeChar
  by_cases hquote : c = '"'
  · exact .inl ⟨'"', by simp [shortEscapes], if_pos hquote, by rw [hquote]; rfl⟩
  rw [if_neg hquote]
  by_cases hslash : c = '\\'
  · exact .inl ⟨'\\', by simp [shortEscapes], if_pos hslash, by rw [hslash]; rfl⟩
  rw [if_neg hslash]
  by_cases hn : c = '\n'
  · exact .inl ⟨'n', by simp [shortEscapes], if_pos hn, by rw [hn]; rfl⟩
  rw [if_neg hn]
  by_cases hr : c = '\r'
  · exact .inl ⟨'r', by simp [shortEscapes], if_pos hr, by rw [hr]; rfl⟩
  rw [if_neg hr]
  by_cases ht : c = '\t'
  · exact .inl ⟨'t', by simp [shortEscapes], if_pos ht, by rw [ht]; rfl⟩
  rw [if_neg ht]
  by_cases hb : c.toNat = 8
  · exact .inl ⟨'b', by simp [shortEscapes], if_pos hb, by rw [← Char.ofNat_toNat c, hb]; rfl⟩
  rw [if_neg hb]
  by_cases hf : c.toNat = 12
  · exact .inl ⟨'f', by simp [shortEscapes], if_pos hf, by rw [← Char.ofNat_toNat c, hf]; rfl⟩
  rw [if_neg hf]
  by_cases hprint : 0x20 ≤ c.toNat ∧ c.toNat < 0x7f
  · exact .inr (.inl ⟨if_pos hprint, hquote, hslash, hprint⟩)
  rw [if_neg hprint]
  by_cases hunit : c.toNat < 0x10000
  · exact .inr (.inr (.inl ⟨if_pos hunit, hunit⟩))
  rw [if_neg hunit]
  exact .inr (.inr (.inr ⟨rfl, Nat.le_of_not_lt hunit⟩))

/-- A character is read from its escape, if something follows. -/
theorem readString_escapeChar (start position : Nat) (read : List Char) (c : Char)
    {rest : List Char} (hrest : rest ≠ []) :
    ∃ position', readString start read position (escapeChar c ++ rest)
      = readString start (c :: read) position' rest := by
  have hvalid := toNat_cases c
  rcases escapeChar_cases c with ⟨e, hshort, htext, he⟩ | ⟨htext, hquote, hslash, hprint⟩
    | ⟨htext, hunit⟩ | ⟨htext, hpair⟩
  · -- a short escape is no `u`, which would start a unit
    have hu : e ≠ 'u' := by
      rintro rfl
      simp [shortEscapes] at hshort
    refine ⟨position + 2, ?_⟩
    rw [htext]
    show readString start read position ('\\' :: e :: rest) = _
    rw [readString, he]
    · exact fun _ _ _ _ _ _ h => absurd h hu
    · exact hu
  · refine ⟨position + 1, ?_⟩
    rw [htext]
    show readString start read position (c :: rest) = _
    rw [readString, if_neg (by omega)]
    · exact hquote
    · exact fun h => absurd h hslash
    · exact fun _ _ _ _ _ _ h => absurd h hslash
    · exact fun _ h => absurd h hslash
    · exact fun _ _ h => absurd h hslash
  · refine ⟨position + 6, ?_⟩
    rw [htext, readString_unitEscape _ _ _ hunit (by omega) hrest, Char.ofNat_toNat]
  · -- the halves are put together as they were taken apart
    have hvalue : 0x10000 + (0xd800 + (c.toNat - 0x10000) / 1024 - 0xd800) * 1024
        + (0xdc00 + (c.toNat - 0x10000) % 1024 - 0xdc00) = c.toNat := by omega
    refine ⟨position + 12, ?_⟩
    rw [htext, List.append_assoc, readString_pair _ _ _ (by omega) (by omega) hrest, hvalue,
      Char.ofNat_toNat]

/-- The characters of a text are read from its quoted form. -/
theorem readString_quoted (start position : Nat) (read cs rest : List Char) :
    ∃ position', readString start read position (cs.flatMap escapeChar ++ '"' :: rest)
      = .ok (String.ofList (read.reverse ++ cs), ⟨rest, position'⟩) := by
  induction cs generalizing read position with
  | nil =>
    refine ⟨position + 1, ?_⟩
    rw [List.flatMap_nil, List.nil_append, readString, List.append_nil]
  | cons c cs ih =>
    rw [List.flatMap_cons, List.append_assoc]
    have hmore : cs.flatMap escapeChar ++ '"' :: rest ≠ [] := by simp
    obtain ⟨position₁, h₁⟩ := readString_escapeChar start position read c hmore
    obtain ⟨position₂, h₂⟩ := ih position₁ (c :: read)
    refine ⟨position₂, ?_⟩
    rw [h₁, h₂, List.reverse_cons, List.append_assoc, List.singleton_append]

theorem toList_quote (s : String) :
    (quote s).toList = '"' :: (s.toList.flatMap escapeChar ++ ['"']) := by
  unfold quote
  rw [String.toList_ofList, List.cons_append]

theorem readString_quote (start position : Nat) (s : String) (rest : List Char) :
    ∃ position', readString start [] position (s.toList.flatMap escapeChar ++ '"' :: rest)
      = .ok (s, ⟨rest, position'⟩) := by
  obtain ⟨position', h⟩ := readString_quoted start position [] s.toList rest
  rw [List.reverse_nil, List.nil_append, String.ofList_toList] at h
  exact ⟨position', h⟩

/-! ## Whole numbers -/

theorem isDigit_eq (c : Char) : isDigit c = c.isDigit := by
  unfold isDigit Char.isDigit
  rw [Bool.eq_iff_iff, Bool.and_eq_true, Bool.and_eq_true]
  simp only [decide_eq_true_eq, ge_iff_le]
  rfl

theorem digitsValue_toDigits (n : Nat) : digitsValue (Nat.toDigits 10 n) = n := by
  have hvalue : ∀ ds, digitsValue ds = Nat.ofDigitChars 10 ds 0 := by
    intro ds
    rw [Nat.ofDigitChars_eq_foldl]
    unfold digitsValue
    congr 1
    funext n d
    rw [Nat.mul_comm]
    rfl
  rw [hvalue, Nat.ofDigitChars_ten_toDigits]

theorem isDigit_of_mem_toDigits {n : Nat} {c : Char} (h : c ∈ Nat.toDigits 10 n) :
    isDigit c = true := by
  rw [isDigit_eq]
  exact Nat.isDigit_of_mem_toDigits (by decide) (by decide) h

/-- No number but zero starts with a zero. -/
theorem toDigits_head {n : Nat} (hn : n ≠ 0) :
    ∃ c cs, Nat.toDigits 10 n = c :: cs ∧ c ≠ '0' := by
  induction n using Nat.strongRecOn with
  | ind n ih =>
    by_cases hlt : n < 10
    · have hdigit : ∀ m < 10, m ≠ 0 → m.digitChar ≠ '0' := by decide
      exact ⟨n.digitChar, [], Nat.toDigits_of_lt_base hlt, hdigit n hlt hn⟩
    · obtain ⟨c, cs, hcs, hc⟩ := ih (n / 10) (by omega) (by omega)
      refine ⟨c, cs ++ [(n % 10).digitChar], ?_, hc⟩
      rw [Nat.toDigits_of_base_le (by decide) (by omega), hcs, List.cons_append]

/-- What follows a value in a text: a comma, a line end, or nothing. -/
def Stops (rest : List Char) : Prop :=
  ∀ c, rest.head? = some c → c = ',' ∨ c = '\n'

theorem stops_nil : Stops [] := nofun

theorem stops_cons {c : Char} (h : c = ',' ∨ c = '\n') (rest : List Char) :
    Stops (c :: rest) := by
  intro d hd
  rw [← Option.some.inj hd]
  exact h

/-- A number ends where something else follows. -/
theorem Stops.ends_number {rest : List Char} (h : Stops rest) :
    rest.takeWhile isDigit = [] ∧ fractionDigits rest = none ∧ exponentPart rest = none := by
  cases rest with
  | nil => exact ⟨rfl, rfl, rfl⟩
  | cons c rest =>
    rcases h c rfl with rfl | rfl
    · exact ⟨rfl, rfl, rfl⟩
    · exact ⟨rfl, rfl, rfl⟩

theorem wholeDigits_toDigits (n : Nat) {rest : List Char} (h : Stops rest) :
    wholeDigits (Nat.toDigits 10 n ++ rest) = Nat.toDigits 10 n := by
  by_cases hn : n = 0
  · rw [hn, Nat.toDigits_zero]
    rfl
  · -- any other number is read to the last of its digits
    obtain ⟨c, cs, hcs, hc⟩ := toDigits_head hn
    have hall : ∀ d ∈ c :: cs, isDigit d = true := by
      rw [← hcs]
      exact fun d => isDigit_of_mem_toDigits
    unfold wholeDigits
    rw [hcs, List.cons_append]
    split
    · rename_i heq
      exact absurd (List.cons.inj heq).1 hc
    · rw [← List.cons_append, List.takeWhile_append_of_pos hall, h.ends_number.1,
        List.append_nil]

theorem signPart_digits (n : Nat) (rest : List Char) (negative : Bool) :
    signPart ((if negative then ['-'] else []) ++ (Nat.toDigits 10 n ++ rest))
      = (negative, Nat.toDigits 10 n ++ rest) := by
  cases negative with
  | true => rfl
  | false =>
    -- the first character is a digit, so no minus
    cases hds : Nat.toDigits 10 n with
    | nil => exact absurd hds Nat.toDigits_ne_nil
    | cons c cs =>
      have hc : isDigit c = true :=
        isDigit_of_mem_toDigits (n := n) (by rw [hds]; exact List.mem_cons_self)
      unfold signPart
      split
      · rename_i heq
        rw [(List.cons.inj heq).1] at hc
        cases hc
      · rfl

/-- A whole number is read from its sign and its digits. -/
theorem readNumber_digits {n : Nat} (hn : (Nat.toDigits 10 n).length ≤ maxDigits)
    {rest : List Char} (h : Stops rest) (negative : Bool) (position : Nat) :
    ∃ position',
      readNumber ⟨(if negative then ['-'] else []) ++ (Nat.toDigits 10 n ++ rest), position⟩
        = .ok (.int (if negative then -n else n), ⟨rest, position'⟩) := by
  have hne : (Nat.toDigits 10 n).isEmpty = false := by
    rw [List.isEmpty_eq_false_iff]
    exact Nat.toDigits_ne_nil
  have hadvance : ((if negative then ['-'] else []) ++ (Nat.toDigits 10 n ++ rest)).drop
      ((if negative then 1 else 0) + (Nat.toDigits 10 n).length) = rest := by
    cases negative with
    | true =>
      rw [Nat.add_comm]
      exact List.drop_left
    | false =>
      show ((Nat.toDigits 10 n ++ rest).drop (0 + (Nat.toDigits 10 n).length)) = rest
      rw [Nat.zero_add, List.drop_left]
  unfold readNumber
  dsimp only
  rw [signPart_digits]
  dsimp only
  obtain ⟨_, hfraction, hexponent⟩ := h.ends_number
  rw [wholeDigits_toDigits n h, hne, List.drop_left, hfraction]
  dsimp only
  rw [hexponent]
  dsimp only [Option.isNone_none]
  -- neither a fraction nor an exponent, so the number is whole
  rw [if_neg Bool.false_ne_true, if_pos (Bool.and_self true), if_neg (by omega),
    digitsValue_toDigits]
  unfold Input.advance
  dsimp only [Option.map_none, Option.getD_none]
  rw [Nat.add_zero, hadvance]
  exact ⟨_, rfl⟩

/-- The text of a whole number is its sign and its digits. -/
theorem toList_toString (i : Int) :
    ∃ negative : Bool,
      (toString i).toList = (if negative then ['-'] else []) ++ Nat.toDigits 10 i.natAbs ∧
        i = if negative then -(i.natAbs : Int) else i.natAbs := by
  cases i with
  | ofNat n => exact ⟨false, Nat.toList_repr, rfl⟩
  | negSucc n =>
    refine ⟨true, ?_, rfl⟩
    show ("-" ++ (n + 1).repr).toList = _
    rw [String.toList_append, Nat.toList_repr]
    rfl

theorem readNumber_toString {i : Int} (hi : (Nat.toDigits 10 i.natAbs).length ≤ maxDigits)
    {rest : List Char} (h : Stops rest) (position : Nat) :
    ∃ position', readNumber ⟨(toString i).toList ++ rest, position⟩
      = .ok (.int i, ⟨rest, position'⟩) := by
  obtain ⟨negative, htext, hvalue⟩ := toList_toString i
  obtain ⟨position', hread⟩ := readNumber_digits hi h negative position
  refine ⟨position', ?_⟩
  rw [htext, List.append_assoc, hread, ← hvalue]

/-! ## White space -/

/-- The text goes on with something other than white space. -/
def Starts (rest : List Char) : Prop :=
  ∀ c, rest.head? = some c → Input.isSpace c = false

theorem starts_cons {c : Char} (h : Input.isSpace c = false) (rest : List Char) :
    Starts (c :: rest) := by
  intro d hd
  rw [← Option.some.inj hd]
  exact h

theorem skipSpace_append {rest : List Char} (spaces : List Char)
    (hspaces : ∀ c ∈ spaces, Input.isSpace c = true) (hrest : Starts rest) (position : Nat) :
    Input.skipSpace ⟨spaces ++ rest, position⟩ = ⟨rest, position + spaces.length⟩ := by
  have hnone : rest.takeWhile Input.isSpace = [] := by
    cases rest with
    | nil => rfl
    | cons c rest =>
      rw [List.takeWhile_cons, hrest c rfl]
      rfl
  unfold Input.skipSpace Input.advance
  rw [List.takeWhile_append_of_pos hspaces, hnone, List.append_nil, List.drop_left]

theorem skipSpace_of_starts {rest : List Char} (h : Starts rest) (position : Nat) :
    Input.skipSpace ⟨rest, position⟩ = ⟨rest, position⟩ :=
  skipSpace_append [] nofun h position

theorem toList_newline (level : Nat) :
    (newline level).toList = '\n' :: List.replicate (2 * level) ' ' := by
  unfold newline
  simp only [String.toList_append, String.toList_ofList]
  rfl

theorem skipSpace_newline (level : Nat) {rest : List Char} (h : Starts rest) (position : Nat) :
    ∃ position', Input.skipSpace ⟨(newline level).toList ++ rest, position⟩
      = ⟨rest, position'⟩ := by
  refine ⟨_, skipSpace_append _ ?_ h position⟩
  rw [toList_newline]
  intro c hc
  rcases List.mem_cons.mp hc with rfl | hc
  · rfl
  · rw [(List.mem_replicate.mp hc).2]
    rfl

/-! ## Values -/

mutual

/-- Whether a value has no number with a fraction, no whole number that is too long to be
    read, and no object with two fields of one name. -/
def isSimple : Json → Bool
  | .int i => (Nat.toDigits 10 i.natAbs).length ≤ maxDigits
  | .real (.finite ..) => false
  | .real .nan | .real (.infinite _) => true
  | .arr items => areSimple items
  | .obj fields => haveSimple fields
  | .null | .bool _ | .str _ => true

/-- Whether all items are simple. -/
def areSimple : List Json → Bool
  | [] => true
  | x :: xs => isSimple x && areSimple xs

/-- Whether all fields are simple and no two have the same name. -/
def haveSimple : List (String × Json) → Bool
  | [] => true
  | (k, v) :: fs => fs.all (fun f => f.1 ≠ k) && isSimple v && haveSimple fs

end

/-- What is neither a text nor a list nor an object is a word or a number. -/
theorem readValue_scalar (fuel : Nat) {c : Char} {cs : List Char} (hquote : c ≠ '"')
    (hlist : c ≠ '[') (hobject : c ≠ '\x7b') (position : Nat) :
    readValue (fuel + 1) ⟨c :: cs, position⟩
      = match word? ⟨c :: cs, position⟩ with
        | some r => .ok r
        | none => readNumber ⟨c :: cs, position⟩ := by
  rw [readValue]
  split
  · rename_i h
    cases h
  · rename_i h
    exact absurd (List.cons.inj h).1 hquote
  · rename_i h
    exact absurd (List.cons.inj h).1 hlist
  · rename_i h
    exact absurd (List.cons.inj h).1 hobject
  · rfl

/-- The text of a whole number starts with a digit, or with a minus and a digit. -/
theorem toList_toString_head (i : Int) :
    ∃ c cs, isDigit c = true ∧
      ((toString i).toList = c :: cs ∨ (toString i).toList = '-' :: c :: cs) := by
  obtain ⟨negative, htext, _⟩ := toList_toString i
  obtain ⟨c, cs, hcs⟩ :=
    List.exists_cons_of_ne_nil (Nat.toDigits_ne_nil (n := i.natAbs) (b := 10))
  have hc : isDigit c = true :=
    isDigit_of_mem_toDigits (n := i.natAbs) (by rw [hcs]; exact List.mem_cons_self)
  refine ⟨c, cs, hc, ?_⟩
  rw [htext, hcs]
  cases negative with
  | true => exact .inr rfl
  | false => exact .inl rfl

theorem ne_of_isDigit {c d : Char} (hc : isDigit c = true) (hd : isDigit d = false) : c ≠ d := by
  rintro rfl
  rw [hc] at hd
  cases hd

/-- No word starts like a whole number. -/
theorem word?_toString (i : Int) (rest : List Char) (position : Nat) :
    word? ⟨(toString i).toList ++ rest, position⟩ = none := by
  obtain ⟨c, cs, hc, htext⟩ := toList_toString_head i
  have hne : ∀ d, isDigit d = false → d ≠ c := fun d hd => Ne.symm (ne_of_isDigit hc hd)
  have hn := hne 'n' rfl
  have ht := hne 't' rfl
  have hf := hne 'f' rfl
  have hN := hne 'N' rfl
  have hI := hne 'I' rfl
  have hminus := hne '-' rfl
  unfold word? words
  rcases htext with htext | htext
  · rw [htext]
    simp [hn, ht, hf, hN, hI, hminus]
  · -- one word starts with a minus, but no digit comes after it
    rw [htext]
    simp [hI]

/-! ### The layout of lists and objects -/

/-- The text of some items without the comma before the first. -/
def itemsText (level : Nat) : List Json → List Char
  | [] => []
  | x :: xs => (prettyAt level x).toList ++ (prettyItems level xs).toList

/-- The text of some fields without the comma before the first. -/
def fieldsText (level : Nat) : List (String × Json) → List Char
  | [] => []
  | (k, v) :: fs => (quote k).toList
      ++ ':' :: ' ' :: ((prettyAt level v).toList ++ (prettyFields level fs).toList)

theorem toList_pretty_list (level : Nat) (x : Json) (xs : List Json) :
    (prettyAt level (.arr (x :: xs))).toList = '[' :: ((newline (level + 1)).toList
      ++ (itemsText (level + 1) (x :: xs) ++ ((newline level).toList ++ [']']))) := by
  simp only [prettyAt, itemsText, String.toList_append, List.append_assoc]
  rfl

theorem toList_pretty_object (level : Nat) (k : String) (v : Json) (fs : List (String × Json)) :
    (prettyAt level (.obj ((k, v) :: fs))).toList = '\x7b' :: ((newline (level + 1)).toList
      ++ (fieldsText (level + 1) ((k, v) :: fs) ++ ((newline level).toList ++ ['\x7d']))) := by
  simp only [prettyAt, fieldsText, String.toList_append, List.append_assoc, List.cons_append]
  rfl

theorem toList_prettyItems_nil (level : Nat) : (prettyItems level []).toList = [] := rfl

theorem toList_prettyFields_nil (level : Nat) : (prettyFields level []).toList = [] := rfl

theorem toList_prettyItems (level : Nat) (x : Json) (xs : List Json) :
    (prettyItems level (x :: xs)).toList
      = ',' :: ((newline level).toList ++ itemsText level (x :: xs)) := by
  simp only [prettyItems, itemsText, String.toList_append, List.append_assoc]
  rfl

theorem toList_prettyFields (level : Nat) (k : String) (v : Json) (fs : List (String × Json)) :
    (prettyFields level ((k, v) :: fs)).toList
      = ',' :: ((newline level).toList ++ fieldsText level ((k, v) :: fs)) := by
  simp only [prettyFields, fieldsText, String.toList_append, List.append_assoc]
  rfl

/-- How the text of a value starts. -/
theorem prettyAt_head (level : Nat) {v : Json} (hv : v.isSimple = true) :
    ∃ c cs, (prettyAt level v).toList = c :: cs ∧ Input.isSpace c = false ∧ c ≠ ']' ∧
      c ≠ '\ufeff' := by
  cases v with
  | null => exact ⟨'n', "ull".toList, show "null".toList = _ from rfl, rfl, by decide, by decide⟩
  | bool b =>
    cases b with
    | true =>
      exact ⟨'t', "rue".toList, show "true".toList = _ from rfl, rfl, by decide, by decide⟩
    | false =>
      exact ⟨'f', "alse".toList, show "false".toList = _ from rfl, rfl, by decide, by decide⟩
  | int i =>
    obtain ⟨c, cs, hc, htext⟩ := toList_toString_head i
    rcases htext with htext | htext
    · refine ⟨c, cs, htext, ?_, ne_of_isDigit hc rfl, ne_of_isDigit hc rfl⟩
      have hspace : ∀ d, isDigit d = false → (c == d) = false := fun d hd =>
        beq_false_of_ne (ne_of_isDigit hc hd)
      unfold Input.isSpace
      rw [hspace ' ' rfl, hspace '\t' rfl, hspace '\n' rfl, hspace '\r' rfl]
      rfl
    · exact ⟨'-', c :: cs, htext, rfl, by decide, by decide⟩
  | real x =>
    cases x with
    | nan => exact ⟨'N', "aN".toList, show "NaN".toList = _ from rfl, rfl, by decide, by decide⟩
    | infinite negative =>
      cases negative with
      | true =>
        exact ⟨'-', "Infinity".toList, show "-Infinity".toList = _ from rfl, rfl, by decide,
          by decide⟩
      | false =>
        exact ⟨'I', "nfinity".toList, show "Infinity".toList = _ from rfl, rfl, by decide,
          by decide⟩
    | finite => cases hv
  | str s => exact ⟨'"', _, toList_quote s, rfl, by decide, by decide⟩
  | arr items =>
    cases items with
    | nil => exact ⟨'[', "]".toList, show "[]".toList = _ from rfl, rfl, by decide, by decide⟩
    | cons x xs => exact ⟨'[', _, toList_pretty_list level x xs, rfl, by decide, by decide⟩
  | obj fields =>
    cases fields with
    | nil =>
      exact ⟨'\x7b', "\x7d".toList, show "\x7b\x7d".toList = _ from rfl, rfl, by decide, by decide⟩
    | cons f fs =>
      exact ⟨'\x7b', _, toList_pretty_object level f.1 f.2 fs, rfl, by decide, by decide⟩

/-! ### One step of reading -/

/-- A value is read from a text, wherever the text stands. -/
def Reads (fuel : Nat) (text : List Char) (v : Json) (rest : List Char) : Prop :=
  ∀ position, ∃ position', readValue fuel ⟨text, position⟩ = .ok (v, ⟨rest, position'⟩)

/-- The remaining items of a list are read. -/
def ReadsItems (fuel : Nat) (read : List Json) (text : List Char) (v : Json) (rest : List Char) :
    Prop :=
  ∀ position, ∃ position', readItems fuel read ⟨text, position⟩ = .ok (v, ⟨rest, position'⟩)

/-- The remaining fields of an object are read. -/
def ReadsFields (fuel : Nat) (read : List (String × Json)) (text : List Char) (v : Json)
    (rest : List Char) : Prop :=
  ∀ position, ∃ position', readFields fuel read ⟨text, position⟩ = .ok (v, ⟨rest, position'⟩)

section Steps

variable {fuel level : Nat} {v w : Json} {rest text next : List Char}

theorem advance_one (c : Char) (cs : List Char) (position : Nat) :
    Input.advance ⟨c :: cs, position⟩ 1 = ⟨cs, position + 1⟩ := rfl

theorem reads_list (hstarts : Starts text) (hopen : ∀ cs, text ≠ ']' :: cs)
    (h : ReadsItems fuel [] text v rest) :
    Reads (fuel + 1) ('[' :: ((newline level).toList ++ text)) v rest := by
  intro position
  obtain ⟨position₁, hskip⟩ := skipSpace_newline level hstarts (position + 1)
  obtain ⟨position₂, hread⟩ := h position₁
  refine ⟨position₂, ?_⟩
  rw [readValue]
  simp only [advance_one, hskip]
  exact hread

theorem reads_object (h : ReadsFields fuel [] ('"' :: text) v rest) :
    Reads (fuel + 1) ('\x7b' :: ((newline level).toList ++ '"' :: text)) v rest := by
  intro position
  obtain ⟨position₁, hskip⟩ :=
    skipSpace_newline level (starts_cons (c := '"') rfl text) (position + 1)
  obtain ⟨position₂, hread⟩ := h position₁
  refine ⟨position₂, ?_⟩
  rw [readValue]
  dsimp only
  rw [advance_one, hskip]
  exact hread

theorem readsItems_last {read : List Json}
    (h : Reads fuel text v ((newline level).toList ++ ']' :: rest)) :
    ReadsItems (fuel + 1) read text (.arr (read.reverse ++ [v])) rest := by
  intro position
  obtain ⟨position₁, hread⟩ := h position
  obtain ⟨position₂, hskip⟩ :=
    skipSpace_newline level (starts_cons (c := ']') rfl rest) position₁
  refine ⟨position₂ + 1, ?_⟩
  rw [readItems, hread]
  simp only [bind, Except.bind, hskip, advance_one, List.reverse_cons]
  rfl

theorem readsItems_next {read : List Json} (hstarts : Starts next)
    (h : Reads fuel text v (',' :: ((newline level).toList ++ next)))
    (hnext : ReadsItems fuel (v :: read) next w rest) :
    ReadsItems (fuel + 1) read text w rest := by
  intro position
  obtain ⟨position₁, hread⟩ := h position
  obtain ⟨position₂, hskip⟩ := skipSpace_newline level hstarts (position₁ + 1)
  obtain ⟨position₃, hitems⟩ := hnext position₂
  refine ⟨position₃, ?_⟩
  rw [readItems, hread]
  simp only [bind, Except.bind, skipSpace_of_starts (starts_cons (c := ',') rfl _), advance_one,
    hskip]
  exact hitems

/-- The name of a field is read, and what stands between it and the value. -/
theorem readName (k : String) (hstarts : Starts text) (position : Nat) :
    ∃ position', readString position [] (position + 1)
        (k.toList.flatMap escapeChar ++ '"' :: ':' :: ' ' :: text)
          = .ok (k, ⟨':' :: ' ' :: text, position'⟩) ∧
      Input.skipSpace ⟨':' :: ' ' :: text, position'⟩ = ⟨':' :: ' ' :: text, position'⟩ ∧
      Input.skipSpace ⟨' ' :: text, position' + 1⟩ = ⟨text, position' + 1 + 1⟩ := by
  obtain ⟨position', hname⟩ := readString_quote position (position + 1) k (':' :: ' ' :: text)
  refine ⟨position', hname, skipSpace_of_starts (starts_cons (c := ':') rfl _) _,
    skipSpace_append [' '] ?_ hstarts _⟩
  intro c hc
  rw [List.mem_singleton.mp hc]
  rfl

theorem toList_quote_append (k : String) (text : List Char) :
    (quote k).toList ++ text = '"' :: (k.toList.flatMap escapeChar ++ '"' :: text) := by
  rw [toList_quote, List.cons_append, List.append_assoc, List.singleton_append]

theorem readsFields_last {read : List (String × Json)} {k : String} (hstarts : Starts text)
    (h : Reads fuel text v ((newline level).toList ++ '\x7d' :: rest)) :
    ReadsFields (fuel + 1) read ((quote k).toList ++ ':' :: ' ' :: text) (.obj (put k v read))
      rest := by
  intro position
  obtain ⟨position₁, hname, hcolon, hspace⟩ := readName k hstarts position
  obtain ⟨position₂, hread⟩ := h (position₁ + 1 + 1)
  obtain ⟨position₃, hskip⟩ :=
    skipSpace_newline level (starts_cons (c := '\x7d') rfl rest) position₂
  refine ⟨position₃ + 1, ?_⟩
  rw [toList_quote_append, readFields]
  simp only [hname, bind, Except.bind, hcolon, advance_one, hspace, hread, hskip]
  rfl

theorem readsFields_next {read : List (String × Json)} {k : String} (hstarts : Starts text)
    (hnext : Starts next) (h : Reads fuel text v (',' :: ((newline level).toList ++ next)))
    (hfields : ReadsFields fuel (put k v read) next w rest) :
    ReadsFields (fuel + 1) read ((quote k).toList ++ ':' :: ' ' :: text) w rest := by
  intro position
  obtain ⟨position₁, hname, hcolon, hspace⟩ := readName k hstarts position
  obtain ⟨position₂, hread⟩ := h (position₁ + 1 + 1)
  obtain ⟨position₃, hskip⟩ := skipSpace_newline level hnext (position₂ + 1)
  obtain ⟨position₄, hrest⟩ := hfields position₃
  refine ⟨position₄, ?_⟩
  rw [toList_quote_append, readFields]
  simp only [hname, bind, Except.bind, hcolon, advance_one, hspace, hread,
    skipSpace_of_starts (starts_cons (c := ',') rfl _), hskip]
  exact hrest

end Steps

/-- A field with a new name comes last. -/
theorem put_of_new {k : String} {v : Json} {fs : List (String × Json)}
    (h : ∀ f ∈ fs, f.1 ≠ k) : put k v fs = fs ++ [(k, v)] := by
  induction fs with
  | nil => rfl
  | cons f fs ih =>
    rw [put, if_neg (h f List.mem_cons_self), ih fun g hg => h g (List.mem_cons_of_mem _ hg)]
    rfl

/-! ### All of a value -/

theorem word?_append {w : String × Json} (hw : w ∈ words) (rest : List Char) (position : Nat) :
    word? ⟨w.1.toList ++ rest, position⟩ = some (w.2, ⟨rest, position + w.1.length⟩) := by
  simp only [words, List.mem_cons, List.not_mem_nil, or_false] at hw
  rcases hw with rfl | rfl | rfl | rfl | rfl | rfl <;> rfl

theorem word_head {w : String × Json} (hw : w ∈ words) :
    ∃ c cs, w.1.toList = c :: cs ∧ c ≠ '"' ∧ c ≠ '[' ∧ c ≠ '\x7b' := by
  simp only [words, List.mem_cons, List.not_mem_nil, or_false] at hw
  rcases hw with rfl | rfl | rfl | rfl | rfl | rfl <;>
    exact ⟨_, _, rfl, by decide, by decide, by decide⟩

theorem reads_word (fuel : Nat) {w : String × Json} (hw : w ∈ words) (rest : List Char) :
    Reads (fuel + 1) (w.1.toList ++ rest) w.2 rest := by
  intro position
  have hword := word?_append hw rest position
  obtain ⟨c, cs, htext, hquote, hlist, hobject⟩ := word_head hw
  refine ⟨position + w.1.length, ?_⟩
  rw [htext, List.cons_append] at hword ⊢
  rw [readValue_scalar fuel hquote hlist hobject, hword]

theorem reads_empty_list (fuel : Nat) (rest : List Char) :
    Reads (fuel + 1) ("[]".toList ++ rest) (.arr []) rest := by
  intro position
  refine ⟨position + 1 + 1, ?_⟩
  show readValue (fuel + 1) ⟨'[' :: ']' :: rest, position⟩ = _
  rw [readValue]
  simp only [advance_one, skipSpace_of_starts (starts_cons (c := ']') rfl _)]

theorem reads_empty_object (fuel : Nat) (rest : List Char) :
    Reads (fuel + 1) ("\x7b\x7d".toList ++ rest) (.obj []) rest := by
  intro position
  refine ⟨position + 1 + 1, ?_⟩
  show readValue (fuel + 1) ⟨'\x7b' :: '\x7d' :: rest, position⟩ = _
  rw [readValue]
  simp only [advance_one, skipSpace_of_starts (starts_cons (c := '\x7d') rfl _)]

theorem reads_int (fuel : Nat) {i : Int} (hi : (Nat.toDigits 10 i.natAbs).length ≤ maxDigits)
    {rest : List Char} (hrest : Stops rest) :
    Reads (fuel + 1) ((toString i).toList ++ rest) (.int i) rest := by
  intro position
  have hword := word?_toString i rest position
  obtain ⟨position', hnumber⟩ := readNumber_toString hi hrest position
  refine ⟨position', ?_⟩
  obtain ⟨c, cs, hc, htext⟩ := toList_toString_head i
  rcases htext with htext | htext
  · rw [htext, List.cons_append] at hword hnumber ⊢
    rw [readValue_scalar fuel (ne_of_isDigit hc rfl) (ne_of_isDigit hc rfl)
      (ne_of_isDigit hc rfl), hword]
    exact hnumber
  · rw [htext, List.cons_append] at hword hnumber ⊢
    rw [readValue_scalar fuel (by decide) (by decide) (by decide), hword]
    exact hnumber

theorem reads_str (fuel : Nat) (s : String) (rest : List Char) :
    Reads (fuel + 1) ((quote s).toList ++ rest) (.str s) rest := by
  intro position
  obtain ⟨position', hread⟩ := readString_quote position (position + 1) s rest
  refine ⟨position', ?_⟩
  rw [toList_quote_append, readValue]
  simp only [hread]
  rfl

theorem starts_pretty (level : Nat) {v : Json} (hv : v.isSimple = true) (rest : List Char) :
    Starts ((prettyAt level v).toList ++ rest) := by
  obtain ⟨c, cs, htext, hspace, _⟩ := prettyAt_head level hv
  rw [htext]
  exact starts_cons hspace _

theorem starts_items (level : Nat) {x : Json} {xs : List Json} (h : areSimple (x :: xs) = true)
    (rest : List Char) : Starts (itemsText level (x :: xs) ++ rest) := by
  rw [areSimple, Bool.and_eq_true] at h
  rw [itemsText, List.append_assoc]
  exact starts_pretty level h.1 _

theorem items_ne_close (level : Nat) {x : Json} {xs : List Json}
    (h : areSimple (x :: xs) = true) (rest cs : List Char) :
    itemsText level (x :: xs) ++ rest ≠ ']' :: cs := by
  rw [areSimple, Bool.and_eq_true] at h
  obtain ⟨c, _, htext, _, hc, _⟩ := prettyAt_head level h.1
  rw [itemsText, htext]
  intro heq
  exact hc (List.cons.inj heq).1

theorem starts_fields (level : Nat) (k : String) (v : Json) (fs : List (String × Json))
    (rest : List Char) : Starts (fieldsText level ((k, v) :: fs) ++ rest) := by
  rw [fieldsText, List.append_assoc, toList_quote_append]
  exact starts_cons rfl _

theorem stops_items (level outer : Nat) (xs : List Json) (rest : List Char) :
    Stops ((prettyItems level xs).toList ++ ((newline outer).toList ++ rest)) := by
  cases xs with
  | nil =>
    rw [toList_prettyItems_nil, List.nil_append, toList_newline]
    exact stops_cons (.inr rfl) _
  | cons x xs =>
    rw [toList_prettyItems]
    exact stops_cons (.inl rfl) _

theorem stops_fields (level outer : Nat) (fs : List (String × Json)) (rest : List Char) :
    Stops ((prettyFields level fs).toList ++ ((newline outer).toList ++ rest)) := by
  cases fs with
  | nil =>
    rw [toList_prettyFields_nil, List.nil_append, toList_newline]
    exact stops_cons (.inr rfl) _
  | cons f fs =>
    rw [toList_prettyFields level f.1 f.2 fs]
    exact stops_cons (.inl rfl) _

mutual

/-- The text of a value is read as the value. A bound on the nesting is enough if it is
    above the length of the text. -/
theorem reads_pretty (level : Nat) : ∀ v : Json, v.isSimple = true →
    ∀ (fuel : Nat) (rest : List Char), (prettyAt level v).toList.length ≤ fuel → Stops rest →
      Reads (fuel + 1) ((prettyAt level v).toList ++ rest) v rest
  | .null => fun _ fuel rest _ _ => reads_word fuel (w := ("null", .null)) (by simp [words]) rest
  | .bool true => fun _ fuel rest _ _ =>
    reads_word fuel (w := ("true", .bool true)) (by simp [words]) rest
  | .bool false => fun _ fuel rest _ _ =>
    reads_word fuel (w := ("false", .bool false)) (by simp [words]) rest
  | .int i => by
    intro hv fuel rest _ hrest
    rw [isSimple, decide_eq_true_eq] at hv
    exact reads_int fuel hv hrest
  | .real .nan => fun _ fuel rest _ _ =>
    reads_word fuel (w := ("NaN", .real .nan)) (by simp [words]) rest
  | .real (.infinite false) => fun _ fuel rest _ _ =>
    reads_word fuel (w := ("Infinity", .real (.infinite false))) (by simp [words]) rest
  | .real (.infinite true) => fun _ fuel rest _ _ =>
    reads_word fuel (w := ("-Infinity", .real (.infinite true))) (by simp [words]) rest
  | .real (.finite ..) => by
    intro hv
    rw [isSimple] at hv
    cases hv
  | .str s => fun _ fuel rest _ _ => reads_str fuel s rest
  | .arr [] => fun _ fuel rest _ _ => reads_empty_list fuel rest
  | .obj [] => fun _ fuel rest _ _ => reads_empty_object fuel rest
  | .arr (x :: xs) => by
    intro hv fuel rest hfuel hrest
    rw [isSimple] at hv
    rw [toList_pretty_list] at hfuel ⊢
    simp only [List.length_cons, List.length_append] at hfuel
    obtain ⟨fuel, rfl⟩ : ∃ n, fuel = n + 1 := ⟨fuel - 1, by omega⟩
    -- the bracket takes one from the bound and at least one from the length
    have hitems := readsItems_pretty (level + 1) level (x :: xs) hv (by simp) fuel [] rest
      (by omega)
    simp only [List.cons_append, List.append_assoc, List.nil_append]
    exact reads_list (starts_items _ hv _) (items_ne_close _ hv _) hitems
  | .obj ((k, w) :: fs) => by
    intro hv fuel rest hfuel hrest
    rw [isSimple] at hv
    rw [toList_pretty_object] at hfuel ⊢
    simp only [List.length_cons, List.length_append] at hfuel
    obtain ⟨fuel, rfl⟩ : ∃ n, fuel = n + 1 := ⟨fuel - 1, by omega⟩
    have hfields := readsFields_pretty (level + 1) level ((k, w) :: fs) hv (by simp) fuel [] rest
      nofun (by omega)
    simp only [List.cons_append, List.append_assoc, List.nil_append]
    rw [fieldsText, List.append_assoc, toList_quote_append] at hfields ⊢
    exact reads_object hfields

theorem readsItems_pretty (level outer : Nat) : ∀ xs : List Json, areSimple xs = true →
    xs ≠ [] → ∀ (fuel : Nat) (read : List Json) (rest : List Char),
      (itemsText level xs).length < fuel →
        ReadsItems (fuel + 1) read
          (itemsText level xs ++ ((newline outer).toList ++ ']' :: rest))
          (.arr (read.reverse ++ xs)) rest
  | [] => fun _ hne => absurd rfl hne
  | x :: xs => by
    intro hsimple _ fuel read rest hfuel
    rw [areSimple, Bool.and_eq_true] at hsimple
    obtain ⟨hx, hxs⟩ := hsimple
    rw [itemsText, List.length_append] at hfuel
    obtain ⟨fuel, rfl⟩ : ∃ n, fuel = n + 1 := ⟨fuel - 1, by omega⟩
    -- a comma or the line of the bracket follows the item
    have hread := reads_pretty level x hx fuel
      ((prettyItems level xs).toList ++ ((newline outer).toList ++ ']' :: rest)) (by omega)
      (stops_items level outer xs _)
    have hrest := readsItems_pretty level outer xs hxs
    rw [itemsText, List.append_assoc]
    cases xs with
    | nil =>
      rw [toList_prettyItems_nil, List.nil_append] at hread ⊢
      exact readsItems_last hread
    | cons y ys =>
      rw [toList_prettyItems, List.length_cons, List.length_append] at hfuel
      rw [toList_prettyItems, List.cons_append, List.append_assoc] at hread ⊢
      have hnext := hrest (by simp) fuel (x :: read) rest (by omega)
      -- items that have been read are kept in reverse
      rw [List.reverse_cons, List.append_assoc] at hnext
      exact readsItems_next (starts_items level hxs _) hread hnext

theorem readsFields_pretty (level outer : Nat) : ∀ fs : List (String × Json),
    haveSimple fs = true → fs ≠ [] → ∀ (fuel : Nat) (read : List (String × Json))
      (rest : List Char), (∀ f ∈ fs, ∀ g ∈ read, g.1 ≠ f.1) →
      (fieldsText level fs).length < fuel →
        ReadsFields (fuel + 1) read
          (fieldsText level fs ++ ((newline outer).toList ++ '\x7d' :: rest))
          (.obj (read ++ fs)) rest
  | [] => fun _ hne => absurd rfl hne
  | (k, v) :: fs => by
    intro hsimple _ fuel read rest hnew hfuel
    rw [haveSimple, Bool.and_eq_true, Bool.and_eq_true] at hsimple
    obtain ⟨⟨hk, hv⟩, hfs⟩ := hsimple
    rw [fieldsText, List.length_append, List.length_cons, List.length_cons, List.length_append]
      at hfuel
    obtain ⟨fuel, rfl⟩ : ∃ n, fuel = n + 1 := ⟨fuel - 1, by omega⟩
    have hread := reads_pretty level v hv fuel
      ((prettyFields level fs).toList ++ ((newline outer).toList ++ '\x7d' :: rest)) (by omega)
      (stops_fields level outer fs _)
    -- the reader replaces a field of the same name, but there is none
    have hput : put k v read = read ++ [(k, v)] := put_of_new (hnew (k, v) List.mem_cons_self)
    have hrest := readsFields_pretty level outer fs hfs
    simp only [fieldsText, List.append_assoc, List.cons_append]
    cases fs with
    | nil =>
      rw [toList_prettyFields_nil, List.nil_append] at hread ⊢
      rw [← hput]
      exact readsFields_last (starts_pretty level hv _) hread
    | cons f fs =>
      obtain ⟨j, w⟩ := f
      rw [toList_prettyFields, List.length_cons, List.length_append] at hfuel
      rw [toList_prettyFields, List.cons_append, List.append_assoc] at hread ⊢
      have hstill : ∀ f ∈ (j, w) :: fs, ∀ g ∈ read ++ [(k, v)], g.1 ≠ f.1 := by
        intro f hf g hg
        rcases List.mem_append.mp hg with hg | hg
        · exact hnew f (List.mem_cons_of_mem _ hf) g hg
        · rw [List.mem_singleton.mp hg]
          exact Ne.symm (of_decide_eq_true (List.all_eq_true.mp hk f hf))
      have hnext := hrest (by simp) fuel (read ++ [(k, v)]) rest hstill (by omega)
      rw [List.append_assoc, ← hput] at hnext
      exact readsFields_next (starts_pretty level hv _) (starts_fields level j w fs _) hread hnext

end

/-- **Reading what was written.** The text of a simple value is read as that value. -/
theorem parse_pretty {v : Json} (hv : v.isSimple = true) : parse v.pretty = .ok v := by
  obtain ⟨c, cs, htext, hspace, _, hmark⟩ := prettyAt_head 0 hv
  have htext : v.pretty.toList = c :: cs := htext
  have hread := reads_pretty 0 v hv (2 * v.pretty.toList.length + 1) [] (by
    show v.pretty.toList.length ≤ _
    omega) stops_nil
  rw [List.append_nil, show (prettyAt 0 v).toList = c :: cs from htext] at hread
  obtain ⟨position, hread⟩ := hread 0
  have hskip : Input.skipSpace ⟨c :: cs, 0⟩ = ⟨c :: cs, 0⟩ :=
    skipSpace_of_starts (starts_cons hspace cs) 0
  have hend : Input.skipSpace ⟨[], position⟩ = ⟨[], position⟩ := rfl
  unfold parse
  dsimp only
  split
  · -- no text of a value starts with a byte order mark
    rename_i heq
    rw [htext] at heq
    exact absurd (List.cons.inj heq).1 hmark
  · rw [htext] at hread ⊢
    rw [hskip]
    simp only [hread, bind, Except.bind, hend]
    rfl

end SymbolGraph.Json
