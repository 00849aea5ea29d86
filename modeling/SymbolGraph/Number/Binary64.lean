/-! # Double-precision numbers

    The numbers with a fraction that occur in documents and settings are
    double-precision binary numbers. They are kept exactly, as a sign, a
    mantissa and a power of two, so that reading and comparing them is
    arithmetic on natural numbers:

    * `Binary64.ofRatio` rounds a quotient of natural numbers to the nearest
      representable number, a tie going to the even mantissa.
    * `Binary64.ofDecimal` reads `digits · 10 ^ exponent`.
    * `Binary64.toInt?` drops the fraction, and `Binary64.eqInt` compares with a
      whole number without rounding.
-/

namespace SymbolGraph

/-- A double-precision number. A `finite` number is `± mantissa · 2 ^ exponent`,
    where the mantissa is below `2 ^ 53`, and the exponent is the least one
    possible, but never below `-1074`. -/
inductive Binary64 where
  | finite (negative : Bool) (mantissa : Nat) (exponent : Int)
  | infinite (negative : Bool)
  | nan
deriving DecidableEq, Inhabited, Repr

namespace Binary64

/-! ### Rounding -/

/-- The quotient `num / den` rounded to the nearest natural number, a half going
    to the even neighbour. -/
def roundHalfEven (num den : Nat) : Nat :=
  let q := num / den
  let r := num % den
  if 2 * r < den then q
  else if 2 * r > den then q + 1
  else if q % 2 = 0 then q else q + 1

/-- The quotient `num / (den · 2 ^ e)` as a pair of natural numbers. -/
def scaled (num den : Nat) (e : Int) : Nat × Nat :=
  if e ≥ 0 then (num, den * Nat.pow 2 e.toNat) else (num * Nat.pow 2 (-e).toNat, den)

/-- The exponent at which `num / den` has a mantissa of 53 bits, or `-1074` if
    that is larger. -/
def exponentFor (num den : Nat) : Int :=
  let guess : Int := (Nat.log2 num : Int) - (Nat.log2 den : Int) - 52
  let (n, d) := scaled num den guess
  let exact := if n < d * Nat.pow 2 52 then guess - 1 else guess
  max exact (-1074)

/-- The representable number nearest to `± num / den`. -/
def ofRatio (negative : Bool) (num den : Nat) : Binary64 :=
  if num = 0 then .finite negative 0 (-1074)
  else
    let e := exponentFor num den
    let (n, d) := scaled num den e
    let m := roundHalfEven n d
    let (m, e) := if m = Nat.pow 2 53 then (Nat.pow 2 52, e + 1) else (m, e)
    if e > 971 then .infinite negative else .finite negative m e

/-- The representable number nearest to `± digits · 10 ^ exponent`. Exponents far
    outside the range are settled without computing the power. -/
def ofDecimal (negative : Bool) (digits : Nat) (exponent : Int) : Binary64 :=
  if digits = 0 then .finite negative 0 (-1074)
  else
    let size : Int := (Nat.toDigits 10 digits).length
    if size + exponent > 320 then .infinite negative
    else if size + exponent < -340 then .finite negative 0 (-1074)
    else if exponent ≥ 0 then ofRatio negative (digits * Nat.pow 10 exponent.toNat) 1
    else ofRatio negative digits (Nat.pow 10 (-exponent).toNat)

/-! ### Comparing and truncating -/

/-- The whole part of a finite number, and nothing for an infinity or a NaN. -/
def toInt? : Binary64 → Option Int
  | .finite neg m e =>
    let size : Nat := if e ≥ 0 then m * Nat.pow 2 e.toNat else m / Nat.pow 2 (-e).toNat
    some (if neg then -(size : Int) else size)
  | _ => none

/-- Whether a number is exactly the whole number `i`. -/
def eqInt (x : Binary64) (i : Int) : Bool :=
  match x with
  | .finite neg m e =>
    let whole := if e ≥ 0 then true else m % Nat.pow 2 (-e).toNat == 0
    let size : Nat := if e ≥ 0 then m * Nat.pow 2 e.toNat else m / Nat.pow 2 (-e).toNat
    whole && (if neg then -(size : Int) else size) == i
  | _ => false

/-- Whether a number is zero, of either sign. -/
def isZero : Binary64 → Bool
  | .finite _ m _ => m == 0
  | _ => false

/-- Whether two numbers have the same numeric value. The two zeros are equal, and
    a NaN counts as equal to a NaN, as one and the same entry of a document. -/
def sameValue : Binary64 → Binary64 → Bool
  | .finite n₁ m₁ e₁, .finite n₂ m₂ e₂ =>
    (m₁ == 0 && m₂ == 0) || (n₁ == n₂ && m₁ == m₂ && e₁ == e₂)
  | .infinite n₁, .infinite n₂ => n₁ == n₂
  | .nan, .nan => true
  | _, _ => false

/-- Whether `x` comes before `y` in numeric order; never so for a NaN. -/
def lt (x y : Binary64) : Bool :=
  match x, y with
  | .finite n₁ m₁ e₁, .finite n₂ m₂ e₂ =>
    let low := min e₁ e₂
    let a : Int := (m₁ * Nat.pow 2 (e₁ - low).toNat : Nat)
    let b : Int := (m₂ * Nat.pow 2 (e₂ - low).toNat : Nat)
    (if n₁ then -a else a) < (if n₂ then -b else b)
  | .finite .., .infinite neg => !neg
  | .infinite neg, .finite .. => neg
  | .infinite n₁, .infinite n₂ => n₁ && !n₂
  | _, _ => false

end Binary64

end SymbolGraph
