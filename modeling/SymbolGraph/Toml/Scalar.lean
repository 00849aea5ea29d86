import SymbolGraph.Json.Basic
import SymbolGraph.Number.Whole
import SymbolGraph.Text.Hex

/-! # Words and strings of settings files

    The values without parts: the words for truth values and numbers, and the four
    kinds of strings. Basic strings stand in double quotes and have escapes, literal
    strings stand in single quotes and have none, and both may be tripled, in which
    case the string may go over several lines.
-/

namespace SymbolGraph.Toml

/-- Why a text is no settings document. -/
inductive Fault where
  /-- The text does not follow the format, or says the same thing twice. -/
  | malformed
  /-- A name leads into a value that is neither a table nor a list of tables. -/
  | notATable
  /-- A further table is added to a value that is not a list. -/
  | notAList
  /-- There is nothing where a value, or the last table of a list, is needed. -/
  | nothing
deriving DecidableEq, Inhabited, Repr

/-! ### Numbers -/

/-- Whether a character is a decimal digit. -/
def isDigit (c : Char) : Bool :=
  '0' ≤ c && c ≤ '9'

/-- The value of a digit: a decimal digit of any script, or a hexadecimal one. -/
def digitValue? (c : Char) : Option Nat :=
  (Text.digitValue? c).orElse fun _ => Text.hexValue? c

/-- The values of digits of a base, of which there is at least one. -/
def digitsOf? (base : Nat) (cs : List Char) : Option (List Nat) :=
  if cs.isEmpty then none else cs.mapM fun c => (digitValue? c).filter (· < base)

/-- The number that some digits of a base write. -/
def ofDigits (base : Nat) (ds : List Nat) : Nat :=
  ds.foldl (fun n d => n * base + d) 0

/-- A whole number without a sign, in base ten or with the mark of another base. A
    decimal number starts with a zero only if it has no other digits. -/
def natural? : List Char → Option Nat
  | '0' :: 'x' :: rest => (digitsOf? 16 rest).map (ofDigits 16)
  | '0' :: 'o' :: rest => (digitsOf? 8 rest).map (ofDigits 8)
  | '0' :: 'b' :: rest => (digitsOf? 2 rest).map (ofDigits 2)
  | cs => do
    let ds ← digitsOf? 10 cs
    if ds.length > Number.digitLimit then none
    else if ds.head? = some 0 ∧ ds.any (· ≠ 0) then none
    else some (ofDigits 10 ds)

/-- The exponent after its mark; no exponent is the exponent zero. -/
def exponent? : List Char → Option Int
  | [] => some 0
  | '+' :: rest => (digitsOf? 10 rest).map fun ds => Int.ofNat (ofDigits 10 ds)
  | '-' :: rest => (digitsOf? 10 rest).map fun ds => -Int.ofNat (ofDigits 10 ds)
  | rest => (digitsOf? 10 rest).map fun ds => Int.ofNat (ofDigits 10 ds)

/-- Whether a character starts an exponent. -/
def startsExponent (c : Char) : Bool :=
  c == 'e' || c == 'E'

/-- The digits after a decimal point. Without a point there are none, and right before
    an exponent there may be none. -/
def fraction? (hasExponent : Bool) : List Char → Option (List Nat)
  | [] => some []
  | ['.'] => if hasExponent then some [] else none
  | '.' :: rest => digitsOf? 10 rest
  | _ => none

/-- A number with a fraction, an exponent or both. Zero has no sign. -/
def real? (negative : Bool) (cs : List Char) : Option Binary64 := do
  let mantissa := cs.takeWhile fun c => !startsExponent c
  let afterMark := (cs.drop mantissa.length).drop 1
  if mantissa.length + 1 = cs.length then none
  if mantissa.length = cs.length ∧ '.' ∉ mantissa then none
  let whole ← digitsOf? 10 (mantissa.takeWhile (· ≠ '.'))
  let fraction ← fraction? (mantissa.length < cs.length) (mantissa.dropWhile (· ≠ '.'))
  let exponent ← exponent? afterMark
  let digits := ofDigits 10 (whole ++ fraction)
  return Binary64.ofDecimal (negative && digits != 0) digits (exponent - fraction.length)

/-- The words for numbers that are not finite, in any case. -/
def special? (negative : Bool) (cs : List Char) : Option Binary64 :=
  match cs.map Char.toLower with
  | ['i', 'n', 'f'] => some (.infinite negative)
  | ['n', 'a', 'n'] => some .nan
  | _ => none

/-- A number after its sign. White space around it and underscores in it do not
    count. -/
def unsigned? (negative : Bool) (cs : List Char) : Option Json :=
  let cs := (Number.trimmed cs).filter (· ≠ '_')
  match natural? cs with
  | some n => some (.int (if negative then -n else n))
  | none => ((real? negative cs).orElse fun _ => special? negative cs).map .real

/-- The value of a word. -/
def word? : List Char → Option Json
  | ['t', 'r', 'u', 'e'] => some (.bool true)
  | ['f', 'a', 'l', 's', 'e'] => some (.bool false)
  | '-' :: rest => unsigned? true rest
  | '+' :: rest => unsigned? false rest
  | rest => unsigned? false rest

/-! ### Strings -/

/-- The character that a one-letter escape stands for. -/
def plainEscape? (c : Char) : Option Char :=
  if c = '"' ∨ c = '\\' then some c
  else if c = '0' then some (Char.ofNat 0)
  else if c = 'b' then some (Char.ofNat 8)
  else if c = 'f' then some (Char.ofNat 12)
  else if c = 'n' then some '\n'
  else if c = 'r' then some '\r'
  else if c = 't' then some '\t'
  else none

/-- The character with a code point written in hexadecimal digits. -/
def codePoint? (cs : List Char) : Option Char := do
  let ds ← cs.mapM Text.hexValue?
  let n := ofDigits 16 ds
  if n.isValidChar then some (Char.ofNat n) else none

/-- The number of digits of an escape that gives a code point. -/
def codePointDigits? (c : Char) : Option Nat :=
  if c = 'u' then some 4 else if c = 'U' then some 8 else none

/-- Read an escape after its backslash. -/
def readEscape : List Char → Except Fault (Char × List Char)
  | [] => .error .malformed
  | c :: rest =>
    match codePointDigits? c with
    | some width =>
      if rest.length < width then .error .malformed
      else match codePoint? (rest.take width) with
        | some d => .ok (d, rest.drop width)
        | none => .error .malformed
    | none =>
      match plainEscape? c with
      | some d => .ok (d, rest)
      | none => .error .malformed

/-- How a string is written. -/
structure Quotes where
  mark : Char
  tripled : Bool
deriving Inhabited

namespace Quotes

/-- The characters that end the string. -/
def closing (q : Quotes) : List Char :=
  if q.tripled then [q.mark, q.mark, q.mark] else [q.mark]

/-- Whether a backslash starts an escape. -/
def hasEscapes (q : Quotes) : Bool :=
  q.mark == '"'

end Quotes

/-- Read the characters of a string up to its closing quotes. `read` holds the
    characters so far, last first. Every step takes a character, so the length of the
    text is enough `fuel`. -/
def readCharacters (q : Quotes) : (fuel : Nat) → List Char → List Char →
    Except Fault (String × List Char)
  | 0, _, _ => .error .malformed
  | fuel + 1, read, cs =>
    if q.closing.isPrefixOf cs then
      .ok (String.ofList read.reverse, cs.drop q.closing.length)
    else match cs with
      | [] => .error .malformed
      | '\n' :: rest =>
        if q.tripled then readCharacters q fuel ('\n' :: read) rest else .error .malformed
      | '\\' :: rest =>
        if !q.hasEscapes then readCharacters q fuel ('\\' :: read) rest
        else match rest with
          | '\n' :: more =>
            if q.tripled then readCharacters q fuel read (more.dropWhile Text.isBlank)
            else .error .malformed
          | _ => do
            let (c, more) ← readEscape rest
            readCharacters q fuel (c :: read) more
      | c :: rest => readCharacters q fuel (c :: read) rest

/-- Read a string, if one starts here. A line end right after tripled quotes does not
    belong to the string. -/
def readString? (cs : List Char) : Option (Except Fault (String × List Char)) :=
  match cs with
  | a :: b :: c :: rest =>
    if a ≠ '"' ∧ a ≠ '\'' then none
    else if a = b ∧ b = c then
      let body := if rest.head? = some '\n' then rest.drop 1 else rest
      some (readCharacters ⟨a, true⟩ (cs.length + 1) [] body)
    else some (readCharacters ⟨a, false⟩ (cs.length + 1) [] (b :: c :: rest))
  | a :: rest =>
    if a ≠ '"' ∧ a ≠ '\'' then none
    else some (readCharacters ⟨a, false⟩ (cs.length + 1) [] rest)
  | [] => none

end SymbolGraph.Toml
