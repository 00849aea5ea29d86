import SymbolGraph.Number.Binary64

/-! # JSON values

    Values of the JSON format as documents hold them. The fields of an object keep
    the order in which they were first written, and a field written twice has its
    last value at its first place: `Json.put` is the only way an object grows.
-/

namespace SymbolGraph

/-- A JSON value. Whole numbers have any size; numbers written with a fraction or
    an exponent are double-precision numbers. -/
inductive Json where
  | null
  | bool (b : Bool)
  | int (i : Int)
  | real (x : Binary64)
  | str (s : String)
  | arr (items : List Json)
  | obj (fields : List (String × Json))
deriving Inhabited, Repr

namespace Json

/-- Set a field: at its place if there is one of that name, at the end otherwise. -/
def put (key : String) (value : Json) : List (String × Json) → List (String × Json)
  | [] => [(key, value)]
  | (k, v) :: rest => if k = key then (k, value) :: rest else (k, v) :: put key value rest

/-- The value of a field. -/
def field? (key : String) (fields : List (String × Json)) : Option Json :=
  (fields.find? (·.1 = key)).map (·.2)

/-- The value of a field, `null` if there is none. -/
def fieldOrNull (key : String) (fields : List (String × Json)) : Json :=
  (field? key fields).getD .null

/-- A value that counts as absent: `null`, `false`, zero, and everything empty. -/
def isEmpty : Json → Bool
  | .null => true
  | .bool b => !b
  | .int i => i == 0
  | .real x => x.isZero
  | .str s => s.isEmpty
  | .arr items => items.isEmpty
  | .obj fields => fields.isEmpty

/-- A list of texts. -/
def texts (ss : List String) : Json :=
  .arr (ss.map .str)

/-- A text, or `null`. -/
def optText : Option String → Json
  | some s => .str s
  | none => .null

end Json

end SymbolGraph
