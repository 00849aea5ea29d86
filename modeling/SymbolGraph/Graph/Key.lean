import SymbolGraph.Json.Display

/-! # Keys

    Ids of symbols and names of files are keys. They are texts, except in documents
    that came from elsewhere, where any value without parts may stand for one.
    Numbers that are equal in value are one and the same key, and the two truth
    values count as one and zero; `Key.canonical` picks one spelling for each, and
    two keys are the same if their canonical spellings are.
-/

namespace SymbolGraph

/-- A value that can be looked up. -/
inductive Key where
  | null
  | bool (b : Bool)
  | int (i : Int)
  | real (x : Binary64)
  | str (s : String)
deriving DecidableEq, Inhabited, Repr

namespace Key

/-- The whole number that a double-precision number is equal to, if there is one. -/
def wholeValue? (x : Binary64) : Option Int :=
  match x.toInt? with
  | some i => if x.eqInt i then some i else none
  | none => none

/-- One spelling for all keys of equal value. -/
def canonical : Key → Key
  | .bool b => .int (if b then 1 else 0)
  | .real x =>
    match wholeValue? x with
    | some i => .int i
    | none => .real x
  | k => k

instance : BEq Key where
  beq a b := decide (a.canonical = b.canonical)

theorem beq_iff {a b : Key} : (a == b) = true ↔ a.canonical = b.canonical := by
  simp [BEq.beq]

@[simp] theorem beq_refl (a : Key) : (a == a) = true := by simp [beq_iff]

theorem beq_symm {a b : Key} (h : (a == b) = true) : (b == a) = true := by
  simp_all [beq_iff]

theorem beq_trans {a b c : Key} (h₁ : (a == b) = true) (h₂ : (b == c) = true) :
    (a == c) = true := by
  simp_all [beq_iff]

instance : EquivBEq Key where
  rfl := beq_refl _
  symm := beq_symm
  trans := beq_trans

/-- Two texts are the same key only if they are the same text. -/
@[simp] theorem str_beq_str (s t : String) : (Key.str s == Key.str t) = decide (s = t) := by
  simp [BEq.beq, canonical]

/-- A key that is the same as a text is that text. -/
theorem eq_str_of_beq {k : Key} {s : String} (h : (k == .str s) = true) : k = .str s := by
  rw [beq_iff] at h
  cases k with
  | real x =>
    unfold canonical at h
    dsimp only at h
    split at h <;> cases h
  | bool b => cases h
  | _ => exact h

/-- The key that a value is, if it has no parts. -/
def ofJson? : Json → Option Key
  | .null => some .null
  | .bool b => some (.bool b)
  | .int i => some (.int i)
  | .real x => some (.real x)
  | .str s => some (.str s)
  | .arr _ | .obj _ => none

/-- The value of a key. -/
def toJson : Key → Json
  | .null => .null
  | .bool b => .bool b
  | .int i => .int i
  | .real x => .real x
  | .str s => .str s

@[simp] theorem ofJson?_toJson (k : Key) : ofJson? k.toJson = some k := by
  cases k <;> rfl

/-- A key as the name of a field, where only texts can stand. -/
def fieldName : Key → String
  | .null => "null"
  | .bool true => "true"
  | .bool false => "false"
  | .int i => toString i
  | .real x => x.render ⟨"Infinity", "NaN"⟩
  | .str s => s

end Key

end SymbolGraph
