import SymbolGraph.Text.Utf8

/-! # Texts as bytes

    Reading UTF-8 takes bytes apart again that writing a text has put together. Reading is
    strict: no character has two spellings, so the bytes that can be read are exactly those that
    some text is written as.

    * `Utf8.step_cases` lists the ways in which a step of reading finds a character.
    * `Utf8.step_utf8EncodeChar` and `Utf8.utf8EncodeChar_of_step` say that it does so exactly if
      the bytes at the front are those of this character.
    * `Utf8.decode_eq_ok_iff` is the result for whole texts.
-/

namespace SymbolGraph.Text.Utf8

/-! ## Writing -/

theorem byteArray_loop (bs : ByteArray) (i : Nat) (r : List UInt8) :
    ByteArray.toList.loop bs i r = r.reverse ++ bs.data.toList.drop i := by
  rw [ByteArray.toList.loop]
  split
  · rename_i hi
    have hi' : i < bs.data.toList.length := hi
    rw [byteArray_loop bs (i + 1), List.drop_eq_getElem_cons hi', List.reverse_cons,
      List.append_assoc]
    have hget : bs.get! i = bs.data.toList[i] := by
      show bs.data[i]! = _
      exact getElem!_pos bs.data i hi
    rw [hget]
    rfl
  · rename_i hi
    have hi' : bs.data.toList.length ≤ i := Nat.le_of_not_lt hi
    rw [List.drop_eq_nil_of_le hi', List.append_nil]
termination_by bs.size - i

/-- The bytes of a text are those of its characters. -/
theorem encode_ofList (cs : List Char) :
    encode (String.ofList cs) = cs.flatMap String.utf8EncodeChar := by
  unfold encode ByteArray.toList
  rw [byteArray_loop]
  show List.drop 0 (cs.flatMap String.utf8EncodeChar).toByteArray.data.toList = _
  rw [List.toList_data_toByteArray]
  rfl

/-! ## Bytes as numbers -/

theorem toNat_ofNat_of_lt {n : Nat} (h : n < 256) : (UInt8.ofNat n).toNat = n := by
  rw [UInt8.toNat_ofNat']
  exact Nat.mod_eq_of_lt h

theorem isContinuation_iff {b : UInt8} :
    isContinuation b = true ↔ 128 ≤ b.toNat ∧ b.toNat ≤ 191 := by
  unfold isContinuation
  rw [Bool.and_eq_true, decide_eq_true_iff, decide_eq_true_iff, UInt8.le_iff_toNat_le,
    UInt8.le_iff_toNat_le]
  rfl

/-- The numbers of a first byte and of a second one that may follow it. -/
theorem secondOk_iff {a b : UInt8} :
    secondOk a b = true ↔ 128 ≤ b.toNat ∧ b.toNat ≤ 191 ∧ (a.toNat = 224 → 160 ≤ b.toNat) ∧
      (a.toNat = 237 → b.toNat < 160) ∧ (a.toNat = 240 → 144 ≤ b.toNat) ∧
      (a.toNat = 244 → b.toNat < 144) := by
  have heq : ∀ k : UInt8, (a == k) = true ↔ a.toNat = k.toNat := by
    intro k
    rw [beq_iff_eq, UInt8.toNat_inj]
  simp only [secondOk, Bool.and_eq_true, Bool.not_eq_true', isContinuation_iff,
    ← Bool.not_eq_true, heq, decide_eq_true_iff, UInt8.lt_iff_toNat_lt, UInt8.le_iff_toNat_le,
    ge_iff_le, UInt8.reduceToNat]
  omega

/-- A number that is no surrogate and not too large is that of its character. -/
theorem toNat_ofNat_of_valid {n : Nat} (h : n < 0xd800 ∨ 0xdfff < n ∧ n < 0x110000) :
    (Char.ofNat n).val.toNat = n := by
  have hvalid : n.isValidChar := h
  unfold Char.ofNat
  rw [dif_pos hvalid]
  rfl

/-! ## One character -/

section
variable {b b₂ b₃ b₄ : UInt8}

theorem step_one (hb : b.toNat < 128) (rest : List UInt8) :
    step b rest = .char (Char.ofNat b.toNat) 1 := by
  have hlt : b < 0x80 := UInt8.lt_iff_toNat_lt.mpr hb
  unfold step
  rw [if_pos hlt]

theorem step_two (hb : 194 ≤ b.toNat ∧ b.toNat < 224) (h₂ : secondOk b b₂ = true)
    (rest : List UInt8) :
    step b (b₂ :: rest) = .char (Char.ofNat (b.toNat % 32 * 64 + b₂.toNat % 64)) 2 := by
  unfold step
  simp only [UInt8.lt_iff_toNat_lt, UInt8.reduceToNat]
  rw [if_neg (by omega), if_neg (by omega), if_pos hb.2, if_pos h₂]
  rfl

theorem step_three (hb : 224 ≤ b.toNat ∧ b.toNat < 240) (h₂ : secondOk b b₂ = true)
    (h₃ : isContinuation b₃ = true) (rest : List UInt8) :
    step b (b₂ :: b₃ :: rest)
      = .char (Char.ofNat (b.toNat % 16 * 4096 + b₂.toNat % 64 * 64 + b₃.toNat % 64)) 3 := by
  unfold step
  simp only [UInt8.lt_iff_toNat_lt, UInt8.reduceToNat, h₂, h₃]
  rw [if_neg (by omega), if_neg (by omega), if_neg (by omega), if_pos hb.2]
  rfl

theorem step_four (hb : 240 ≤ b.toNat ∧ b.toNat < 245) (h₂ : secondOk b b₂ = true)
    (h₃ : isContinuation b₃ = true) (h₄ : isContinuation b₄ = true) (rest : List UInt8) :
    step b (b₂ :: b₃ :: b₄ :: rest)
      = .char (Char.ofNat (b.toNat % 8 * 262144 + b₂.toNat % 64 * 4096 + b₃.toNat % 64 * 64
          + b₄.toNat % 64)) 4 := by
  unfold step
  simp only [UInt8.lt_iff_toNat_lt, UInt8.reduceToNat, h₂, h₃, h₄]
  rw [if_neg (by omega), if_neg (by omega), if_neg (by omega), if_neg (by omega), if_pos hb.2]
  rfl

end

/-- The four ways to find a character. -/
theorem step_cases {b : UInt8} {rest : List UInt8} {c : Char} {w : Nat}
    (h : step b rest = .char c w) :
    (b.toNat < 128 ∧ w = 1 ∧ c = Char.ofNat b.toNat) ∨
    (∃ b₂ more, rest = b₂ :: more ∧ 194 ≤ b.toNat ∧ b.toNat < 224 ∧ secondOk b b₂ = true ∧ w = 2 ∧
      c = Char.ofNat (b.toNat % 32 * 64 + b₂.toNat % 64)) ∨
    (∃ b₂ b₃ more, rest = b₂ :: b₃ :: more ∧ 224 ≤ b.toNat ∧ b.toNat < 240 ∧
      secondOk b b₂ = true ∧ isContinuation b₃ = true ∧ w = 3 ∧
      c = Char.ofNat (b.toNat % 16 * 4096 + b₂.toNat % 64 * 64 + b₃.toNat % 64)) ∨
    (∃ b₂ b₃ b₄ more, rest = b₂ :: b₃ :: b₄ :: more ∧ 240 ≤ b.toNat ∧ b.toNat < 245 ∧
      secondOk b b₂ = true ∧ isContinuation b₃ = true ∧ isContinuation b₄ = true ∧ w = 4 ∧
      c = Char.ofNat (b.toNat % 8 * 262144 + b₂.toNat % 64 * 4096 + b₃.toNat % 64 * 64
        + b₄.toNat % 64)) := by
  unfold step at h
  simp only [UInt8.lt_iff_toNat_lt, UInt8.reduceToNat] at h
  split at h
  · cases h
    exact .inl ⟨by assumption, rfl, rfl⟩
  split at h
  · cases h
  split at h
  · -- two bytes
    split at h
    · cases h
    · split at h
      · cases h
        exact .inr (.inl ⟨_, _, rfl, by omega, by assumption, by assumption, rfl, rfl⟩)
      · cases h
  split at h
  · -- three bytes
    split at h
    · cases h
    · split at h
      · cases h
      · rename_i h₂
        split at h
        · cases h
        · split at h
          · cases h
          · rename_i h₃
            cases h
            exact .inr (.inr (.inl ⟨_, _, _, rfl, by omega, by assumption, by simpa using h₂,
              by simpa using h₃, rfl, rfl⟩))
  split at h
  · -- four bytes
    split at h
    · cases h
    · split at h
      · cases h
      · rename_i h₂
        split at h
        · cases h
        · split at h
          · cases h
          · rename_i h₃
            split at h
            · cases h
            · split at h
              · cases h
              · rename_i h₄
                cases h
                exact .inr (.inr (.inr ⟨_, _, _, _, rfl, by omega, by assumption,
                  by simpa using h₂, by simpa using h₃, by simpa using h₄, rfl, rfl⟩))
  · cases h

/-- A step finds the character whose bytes are at the front. -/
theorem step_utf8EncodeChar (c : Char) (rest : List UInt8) :
    ∃ b more, String.utf8EncodeChar c = b :: more ∧
      step b (more ++ rest) = .char c (more.length + 1) := by
  have hvalid : c.val.toNat < 0xd800 ∨ 0xdfff < c.val.toNat ∧ c.val.toNat < 0x110000 := c.valid
  have hchar : ∀ n, n = c.val.toNat → Char.ofNat n = c := by
    rintro n rfl
    exact Char.ofNat_toNat c
  unfold String.utf8EncodeChar
  dsimp only
  generalize c.val.toNat = v at hvalid hchar
  by_cases h₁ : v ≤ 127
  · rw [if_pos h₁]
    have hb : (UInt8.ofNat v).toNat = v := toNat_ofNat_of_lt (by omega)
    refine ⟨_, _, rfl, ?_⟩
    rw [step_one (by omega), hchar _ hb]
    rfl
  rw [if_neg h₁]
  by_cases h₂ : v ≤ 2047
  · rw [if_pos h₂]
    have hb : (UInt8.ofNat (v / 64 % 32 + 192)).toNat = v / 64 % 32 + 192 :=
      toNat_ofNat_of_lt (by omega)
    have hb₂ : (UInt8.ofNat (v % 64 + 128)).toNat = v % 64 + 128 := toNat_ofNat_of_lt (by omega)
    refine ⟨_, _, rfl, ?_⟩
    rw [List.cons_append, step_two (by omega) (by rw [secondOk_iff]; omega),
      hchar _ (by omega)]
    rfl
  rw [if_neg h₂]
  by_cases h₃ : v ≤ 65535
  · rw [if_pos h₃]
    have hb : (UInt8.ofNat (v / 4096 % 16 + 224)).toNat = v / 4096 % 16 + 224 :=
      toNat_ofNat_of_lt (by omega)
    have hb₂ : (UInt8.ofNat (v / 64 % 64 + 128)).toNat = v / 64 % 64 + 128 :=
      toNat_ofNat_of_lt (by omega)
    have hb₃ : (UInt8.ofNat (v % 64 + 128)).toNat = v % 64 + 128 := toNat_ofNat_of_lt (by omega)
    refine ⟨_, _, rfl, ?_⟩
    rw [List.cons_append, List.cons_append, step_three (by omega) (by rw [secondOk_iff]; omega)
      (by rw [isContinuation_iff]; omega), hchar _ (by omega)]
    rfl
  · rw [if_neg h₃]
    have hb : (UInt8.ofNat (v / 262144 % 8 + 240)).toNat = v / 262144 % 8 + 240 :=
      toNat_ofNat_of_lt (by omega)
    have hb₂ : (UInt8.ofNat (v / 4096 % 64 + 128)).toNat = v / 4096 % 64 + 128 :=
      toNat_ofNat_of_lt (by omega)
    have hb₃ : (UInt8.ofNat (v / 64 % 64 + 128)).toNat = v / 64 % 64 + 128 :=
      toNat_ofNat_of_lt (by omega)
    have hb₄ : (UInt8.ofNat (v % 64 + 128)).toNat = v % 64 + 128 := toNat_ofNat_of_lt (by omega)
    refine ⟨_, _, rfl, ?_⟩
    rw [List.cons_append, List.cons_append, List.cons_append,
      step_four (by omega) (by rw [secondOk_iff]; omega) (by rw [isContinuation_iff]; omega)
        (by rw [isContinuation_iff]; omega), hchar _ (by omega)]
    rfl

/-- The bytes of which a step takes a character are those that the character is written as. -/
theorem utf8EncodeChar_of_step {b : UInt8} {rest : List UInt8} {c : Char} {w : Nat}
    (h : step b rest = .char c w) :
    b :: rest = String.utf8EncodeChar c ++ rest.drop (w - 1) := by
  have hbyte : ∀ {a : UInt8} {n : Nat}, a.toNat = n → UInt8.ofNat n = a := by
    rintro a n rfl
    exact UInt8.ofNat_toNat
  rcases step_cases h with ⟨hb, rfl, rfl⟩ | ⟨b₂, more, rfl, hlow, hhigh, h₂, rfl, rfl⟩ |
    ⟨b₂, b₃, more, rfl, hlow, hhigh, h₂, h₃, rfl, rfl⟩ |
    ⟨b₂, b₃, b₄, more, rfl, hlow, hhigh, h₂, h₃, h₄, rfl, rfl⟩
  · unfold String.utf8EncodeChar
    dsimp only
    rw [toNat_ofNat_of_valid (by omega), if_pos (by omega), UInt8.ofNat_toNat]
    rfl
  · rw [secondOk_iff] at h₂
    unfold String.utf8EncodeChar
    dsimp only
    rw [toNat_ofNat_of_valid (by omega), if_neg (by omega), if_pos (by omega),
      hbyte (a := b) (by omega), hbyte (a := b₂) (by omega)]
    rfl
  · rw [secondOk_iff] at h₂
    rw [isContinuation_iff] at h₃
    unfold String.utf8EncodeChar
    dsimp only
    rw [toNat_ofNat_of_valid (by omega), if_neg (by omega), if_neg (by omega), if_pos (by omega),
      hbyte (a := b) (by omega), hbyte (a := b₂) (by omega), hbyte (a := b₃) (by omega)]
    rfl
  · rw [secondOk_iff] at h₂
    rw [isContinuation_iff] at h₃ h₄
    unfold String.utf8EncodeChar
    dsimp only
    rw [toNat_ofNat_of_valid (by omega), if_neg (by omega), if_neg (by omega), if_neg (by omega),
      hbyte (a := b) (by omega), hbyte (a := b₂) (by omega), hbyte (a := b₃) (by omega),
      hbyte (a := b₄) (by omega)]
    rfl

/-! ## Whole texts -/

theorem decodeFrom_flatMap (cs : List Char) (position : Nat) (read : List Char) :
    decodeFrom position read (cs.flatMap String.utf8EncodeChar)
      = .ok (String.ofList (read.reverse ++ cs)) := by
  induction cs generalizing position read with
  | nil => simp [decodeFrom]
  | cons c cs ih =>
    obtain ⟨b, more, hbytes, hstep⟩ :=
      step_utf8EncodeChar c (cs.flatMap String.utf8EncodeChar)
    rw [List.flatMap_cons, hbytes, List.cons_append, decodeFrom, hstep]
    dsimp only
    rw [Nat.add_sub_cancel, List.drop_left, ih]
    simp

theorem exists_of_decodeFrom {bytes : List UInt8} {position : Nat} {read : List Char} {s : String}
    (h : decodeFrom position read bytes = .ok s) :
    ∃ cs : List Char, bytes = cs.flatMap String.utf8EncodeChar := by
  fun_induction decodeFrom position read bytes with
  | case1 position read => exact ⟨[], rfl⟩
  | case2 position read b rest c w hstep ih =>
    obtain ⟨cs, hcs⟩ := ih h
    refine ⟨c :: cs, ?_⟩
    rw [utf8EncodeChar_of_step hstep, hcs, List.flatMap_cons]
  | case3 => cases h

/-- **Reading texts.** Bytes are read as a text exactly if the text is written as these bytes. -/
theorem decode_eq_ok_iff {bytes : List UInt8} {s : String} :
    decode bytes = .ok s ↔ bytes = encode s := by
  have hencode : ∀ cs : List Char, decode (cs.flatMap String.utf8EncodeChar)
      = .ok (String.ofList cs) := fun cs => decodeFrom_flatMap cs 0 []
  constructor
  · intro h
    obtain ⟨cs, rfl⟩ := exists_of_decodeFrom h
    rw [hencode] at h
    rw [← Except.ok.inj h, encode_ofList]
  · rintro rfl
    rw [← String.ofList_toList (s := s), encode_ofList, hencode]

/-- The byte `0xff` starts no character. -/
theorem decode_stray_byte : decode [0xff] = .error ⟨.invalidStart, 0, 1, 0xff⟩ := by
  unfold decode
  rw [decodeFrom]
  rfl

end SymbolGraph.Text.Utf8
