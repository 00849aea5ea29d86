import SymbolGraph.Json.Basic

/-! # The order of values

    Numbers and truth values are ordered by value, texts by code points, and lists by
    their first difference. Values of different sorts have no order.
-/

namespace SymbolGraph.Json

/-- The number that a value is, if it is one. -/
def number? : Json → Option (Int ⊕ Binary64)
  | .bool b => some (.inl (if b then 1 else 0))
  | .int i => some (.inl i)
  | .real x => some (.inr x)
  | _ => none

/-- A whole number compared with a double-precision number, without rounding. -/
def intLtReal (i : Int) (x : Binary64) : Bool :=
  match x with
  | .nan => false
  | .infinite negative => !negative
  | .finite .. =>
    match x.toInt? with
    | some t => i < t || (i == t && !x.eqInt t && !(x.lt (.finite false 0 (-1074))))
    | none => false

/-- A double-precision number compared with a whole number, without rounding. -/
def realLtInt (x : Binary64) (i : Int) : Bool :=
  match x with
  | .nan => false
  | .infinite negative => negative
  | .finite .. =>
    match x.toInt? with
    | some t => t < i || (t == i && !x.eqInt t && x.lt (.finite false 0 (-1074)))
    | none => false

/-- Whether a number comes before another. -/
def numberLt : Int ⊕ Binary64 → Int ⊕ Binary64 → Bool
  | .inl a, .inl b => a < b
  | .inr a, .inr b => a.lt b
  | .inl a, .inr b => intLtReal a b
  | .inr a, .inl b => realLtInt a b

/-- Whether two numbers are equal in value. -/
def numberEq : Int ⊕ Binary64 → Int ⊕ Binary64 → Bool
  | .inl a, .inl b => a == b
  | .inr a, .inr b => a.sameValue b
  | .inl a, .inr b => b.eqInt a
  | .inr a, .inl b => a.eqInt b

mutual

/-- Whether two values are equal: numbers by value, objects whatever the order of
    their fields. -/
def same : Json → Json → Bool
  | .null, .null => true
  | .str a, .str b => a == b
  | .arr as, .arr bs => sameItems as bs
  | .obj fs, .obj gs => fs.length == gs.length && sameFields fs gs
  | a, b =>
    match number? a, number? b with
    | some x, some y => numberEq x y
    | _, _ => false

/-- Whether two lists have equal items. -/
def sameItems : List Json → List Json → Bool
  | [], [] => true
  | a :: as, b :: bs => same a b && sameItems as bs
  | _, _ => false

/-- Whether every field has an equal one of the same name. -/
def sameFields : List (String × Json) → List (String × Json) → Bool
  | [], _ => true
  | (k, v) :: fs, gs =>
    (match field? k gs with
      | some w => same v w
      | none => false) && sameFields fs gs

end

mutual

/-- Whether a value comes before another, if the two have an order. -/
def lt? : Json → Json → Option Bool
  | .str a, .str b => some (a < b)
  | .arr as, .arr bs => ltItems? as bs
  | a, b =>
    match number? a, number? b with
    | some x, some y => some (numberLt x y)
    | _, _ => none

/-- Lists are ordered by their first difference. -/
def ltItems? : List Json → List Json → Option Bool
  | _, [] => some false
  | [], _ :: _ => some true
  | a :: as, b :: bs => if same a b then ltItems? as bs else lt? a b

end

/-- Whether all values of a list have an order among each other. -/
def comparable (vs : List Json) : Bool :=
  vs.length < 2 || vs.all fun a => vs.all fun b => (lt? a b).isSome

/-- A list sorted by a value of each item; items of equal value keep their order. It is
    nothing if the values have no order. -/
def sortBy? {α : Type} (key : α → Json) (items : List α) : Option (List α) :=
  if comparable (items.map key) then
    some (items.mergeSort fun a b => !((lt? (key b) (key a)).getD false))
  else none

end SymbolGraph.Json
