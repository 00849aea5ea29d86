import SymbolGraph.Number.Binary64

/-! # The shortest decimal that reads back

    A double-precision number is written with the fewest significant digits that
    still round to it; of two such decimals the nearer one is taken.

    * `Binary64.shortest` finds those digits. The reals that round to a number
      form an interval; for 1, 2, … 17 digits the two neighbours of the number on
      that decimal grid are tested against it in exact arithmetic.
    * `Binary64.render` lays the digits out: positionally while the decimal point
      stands between the fourth place after and the sixteenth place before the
      first digit, with an exponent of at least two digits otherwise.
-/

namespace SymbolGraph.Binary64

/-- The interval of reals that round to `mantissa · 2 ^ exponent`, as numerators
    over one denominator: lower end, the number itself, upper end. -/
structure Interval where
  low : Nat
  mid : Nat
  high : Nat
  den : Nat
  /-- The ends belong to the interval when the mantissa is even. -/
  closed : Bool

/-- The rounding interval of a positive number. Below a power of two the
    neighbouring number is only half as far away. -/
def interval (mantissa : Nat) (exponent : Int) : Interval :=
  let narrow := mantissa = Nat.pow 2 52 ∧ exponent > -1074
  let up := if exponent ≥ 2 then Nat.pow 2 (exponent - 2).toNat else 1
  let down := if exponent ≥ 2 then 1 else Nat.pow 2 (2 - exponent).toNat
  { low := (4 * mantissa - if narrow then 1 else 2) * up
    mid := 4 * mantissa * up
    high := (4 * mantissa + 2) * up
    den := down
    closed := mantissa % 2 = 0 }

/-- The number `digits · 10 ^ power` as a quotient. -/
def decimalRatio (digits : Nat) (power : Int) : Nat × Nat :=
  if power ≥ 0 then (digits * Nat.pow 10 power.toNat, 1) else (digits, Nat.pow 10 (-power).toNat)

/-- Whether a decimal lies in the interval. -/
def Interval.holds (i : Interval) (digits : Nat) (power : Int) : Bool :=
  let (n, d) := decimalRatio digits power
  let a := i.low * d
  let b := n * i.den
  let c := i.high * d
  if i.closed then a ≤ b && b ≤ c else a < b && b < c

/-- The largest multiple of `10 ^ power` that is at most the number, in units of
    that power. -/
def Interval.floorAt (i : Interval) (power : Int) : Nat :=
  if power ≥ 0 then i.mid / (i.den * Nat.pow 10 power.toNat)
  else i.mid * Nat.pow 10 (-power).toNat / i.den

/-- Whether the lower of the two neighbours on a grid is at least as near. -/
def Interval.lowerIsNearer (i : Interval) (digits : Nat) (power : Int) : Bool :=
  let (n, d) := decimalRatio (2 * digits + 1) power
  2 * i.mid * d < n * i.den || (2 * i.mid * d == n * i.den && digits % 2 == 0)

/-- The number of decimal places before the point: the least `p` with the number
    below `10 ^ p`, found by counting up from a lower bound. -/
def Interval.magnitude (i : Interval) : Nat → Int → Int
  | 0, p => p
  | fuel + 1, p =>
    let (n, d) := decimalRatio 1 p
    if i.mid * d < n * i.den then p else i.magnitude fuel (p + 1)

/-- Try grids of more and more digits until a neighbour lies in the interval. -/
def Interval.search (i : Interval) (top : Int) : Nat → Nat → Nat × Int
  | 0, count => (i.floorAt (top - count), top - count)
  | fuel + 1, count =>
    let power := top - count
    let below := i.floorAt power
    let lower := i.holds below power
    let upper := i.holds (below + 1) power
    if lower && upper then
      if i.lowerIsNearer below power then (below, power) else (below + 1, power)
    else if lower then (below, power)
    else if upper then (below + 1, power)
    else i.search top fuel (count + 1)

/-- The digits and the power of ten of the shortest decimal of a positive number. -/
def shortest (mantissa : Nat) (exponent : Int) : Nat × Int :=
  let i := interval mantissa exponent
  let bits : Int := (Nat.log2 mantissa : Int) + exponent
  -- 1233 / 4096 is just below the logarithm of 2 to the base 10
  let start : Int := (if bits ≥ 0 then bits * 1233 / 4096 else bits * 1234 / 4096 - 1) - 1
  i.search (i.magnitude 8 start) 17 1

/-- The digits without their trailing zeros. -/
def dropZeros (digits : List Char) : List Char :=
  (digits.reverse.dropWhile (· == '0')).reverse

/-- The text of an exponent: a sign and at least two digits. -/
def exponentText (e : Int) : String :=
  let size := toString e.natAbs
  (if e < 0 then "-" else "+") ++ (if size.length < 2 then "0" ++ size else size)

/-- The text of a positive finite number. `point` places stand before the decimal
    point. -/
def positional (digits : List Char) (point : Int) : String :=
  let count : Int := digits.length
  if point ≤ -4 ∨ point > 16 then
    let head := digits.take 1
    let tail := digits.drop 1
    String.ofList head ++ (if tail.isEmpty then "" else "." ++ String.ofList tail)
      ++ "e" ++ exponentText (point - 1)
  else if point ≤ 0 then
    "0." ++ String.ofList (List.replicate (-point).toNat '0') ++ String.ofList digits
  else if count ≤ point then
    String.ofList digits ++ String.ofList (List.replicate (point - count).toNat '0') ++ ".0"
  else
    String.ofList (digits.take point.toNat) ++ "." ++ String.ofList (digits.drop point.toNat)

/-- The words for the numbers that have no digits. -/
structure Wording where
  infinity : String
  nan : String

/-- The text of a number; a fraction or an exponent is always shown. -/
def render (w : Wording) : Binary64 → String
  | .nan => w.nan
  | .infinite neg => (if neg then "-" else "") ++ w.infinity
  | .finite neg m e =>
    let body :=
      if m = 0 then "0.0"
      else
        let (digits, power) := shortest m e
        let all := (toString digits).toList
        positional (dropZeros all) (all.length + power)
    (if neg then "-" else "") ++ body

end SymbolGraph.Binary64
