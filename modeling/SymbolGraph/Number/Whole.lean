import SymbolGraph.Text.Blank
import SymbolGraph.Text.Digit

/-! # Whole numbers as text

    A whole number is written with digits of any script, with an optional sign right
    before them, single underscores between them, and white space around it all.
    Numbers of more than 4300 digits are not read.
-/

namespace SymbolGraph.Number

/-- The most digits of a whole number that is read. -/
def digitLimit : Nat := 4300

/-- White space that may surround a number: all of it but the four separators of
    files, groups, records and units. -/
def surrounds (c : Char) : Bool :=
  Text.isBlank c && !(0x1c ≤ c.toNat && c.toNat ≤ 0x1f)

/-- The characters of a number without the white space around it. -/
def trimmed (cs : List Char) : List Char :=
  ((cs.dropWhile surrounds).reverse.dropWhile surrounds).reverse

/-- The values of digits with single underscores between them. -/
def groupedDigits? : List Char → Option (List Nat)
  | [] => none
  | [c] => (Text.digitValue? c).map ([·])
  | c :: '_' :: rest => do
    let d ← Text.digitValue? c
    let ds ← groupedDigits? rest
    return d :: ds
  | c :: rest => do
    let d ← Text.digitValue? c
    let ds ← groupedDigits? rest
    return d :: ds

/-- The number that some decimal digits write. -/
def ofDigits (ds : List Nat) : Nat :=
  ds.foldl (fun n d => n * 10 + d) 0

/-- The number that a text writes without a sign. -/
def magnitude? (cs : List Char) : Option Nat := do
  let ds ← groupedDigits? cs
  if ds.length > digitLimit then none else some (ofDigits ds)

/-- The whole number that a text writes. -/
def whole? (s : String) : Option Int :=
  match trimmed s.toList with
  | '-' :: rest => (magnitude? rest).map fun n => -(n : Int)
  | '+' :: rest => (magnitude? rest).map Int.ofNat
  | rest => (magnitude? rest).map Int.ofNat

end SymbolGraph.Number
