import SymbolGraph.Json.Basic
import SymbolGraph.Text.Hex

/-! # Reading JSON text

    A reader for JSON text that says where and why a text is refused. Besides the
    standard it accepts the words `NaN`, `Infinity` and `-Infinity`. A whole number
    of more than 4300 digits is refused, though its text is well formed.

    The reader goes through the characters once. Arrays and objects nest, so the
    reading functions carry a bound on the nesting (`fuel`); the length of the text
    is always enough, because every level takes a bracket.
-/

namespace SymbolGraph.Json

/-- What a reader expected and did not find. -/
inductive ReadFault where
  | expectingValue
  | extraData
  | expectingComma
  | expectingColon
  | expectingName
  | unterminatedString
  | controlCharacter
  | invalidEscape
  | invalidUnicodeEscape
  | byteOrderMark
deriving DecidableEq, Inhabited, Repr

/-- Why a text is refused: a fault at a position, counted in characters, or a
    whole number with too many digits. -/
inductive ReadError where
  | fault (kind : ReadFault) (position : Nat)
  | tooManyDigits (count : Nat)
deriving DecidableEq, Inhabited, Repr

/-- The most digits of a whole number. -/
def maxDigits : Nat := 4300

/-- What is left to read, with the position of its first character. -/
structure Input where
  rest : List Char
  position : Nat
deriving Inhabited

namespace Input

/-- The input after `n` characters. -/
def advance (i : Input) (n : Nat) : Input :=
  ⟨i.rest.drop n, i.position + n⟩

/-- Whether a character may stand between the parts of a value. -/
def isSpace (c : Char) : Bool :=
  c == ' ' || c == '\t' || c == '\n' || c == '\r'

/-- The input after leading white space. -/
def skipSpace (i : Input) : Input :=
  i.advance (i.rest.takeWhile isSpace).length

end Input

/-- Refuse the text at a position. -/
def refuse {α : Type} (kind : ReadFault) (position : Nat) : Except ReadError α :=
  .error (.fault kind position)

/-! ### Strings -/

/-- The character that a one-letter escape stands for. -/
def plainEscape? (c : Char) : Option Char :=
  if c = '"' ∨ c = '\\' ∨ c = '/' then some c
  else if c = 'b' then some (Char.ofNat 8)
  else if c = 'f' then some (Char.ofNat 12)
  else if c = 'n' then some '\n'
  else if c = 'r' then some '\r'
  else if c = 't' then some '\t'
  else none

/-- The value of four hexadecimal digits. -/
def hex4? (a b c d : Char) : Option Nat := do
  let a ← Text.hexValue? a
  let b ← Text.hexValue? b
  let c ← Text.hexValue? c
  let d ← Text.hexValue? d
  return ((a * 16 + b) * 16 + c) * 16 + d

/-- The character of a unit, with the stand-in character for half a pair. -/
def unitChar (u : Nat) : Char :=
  if 0xd800 ≤ u ∧ u < 0xe000 then Char.ofNat 0xfffd else Char.ofNat u

/-- The unit of an escape at the front of the text. The escape counts only if a
    further character follows it, which in a well-formed text is the closing quote
    at the latest. -/
inductive UnitEscape where
  | absent
  | malformed
  | unit (u : Nat)
deriving DecidableEq, Inhabited, Repr

/-- The escape that may form a pair with the one before it. -/
def pairedEscape : List Char → UnitEscape
  | '\\' :: 'u' :: a :: b :: c :: d :: _ :: _ =>
    match hex4? a b c d with
    | some u => .unit u
    | none => .malformed
  | _ => .absent

/-- Read the characters of a string up to its closing quote. `start` is the
    position of the opening quote, `position` that of the first character, and
    `read` holds the characters so far, last first. -/
def readString (start : Nat) (read : List Char) (position : Nat) :
    List Char → Except ReadError (String × Input)
  | [] => refuse .unterminatedString start
  | '"' :: rest => .ok (String.ofList read.reverse, ⟨rest, position + 1⟩)
  | '\\' :: [] => refuse .unterminatedString start
  | '\\' :: 'u' :: a :: b :: c :: d :: e :: rest =>
    match hex4? a b c d with
    | none => refuse .invalidUnicodeEscape (position + 1)
    | some high =>
      if 0xd800 ≤ high ∧ high < 0xdc00 then
        match pairedEscape (e :: rest) with
        | .absent => readString start (unitChar high :: read) (position + 6) (e :: rest)
        | .malformed => refuse .invalidUnicodeEscape (position + 7)
        | .unit low =>
          if 0xdc00 ≤ low ∧ low < 0xe000 then
            let c := Char.ofNat (0x10000 + (high - 0xd800) * 1024 + (low - 0xdc00))
            readString start (c :: read) (position + 12) (rest.drop 5)
          else readString start (unitChar high :: read) (position + 6) (e :: rest)
      else readString start (unitChar high :: read) (position + 6) (e :: rest)
  | '\\' :: 'u' :: _ => refuse .invalidUnicodeEscape (position + 1)
  | '\\' :: c :: rest =>
    match plainEscape? c with
    | some d => readString start (d :: read) (position + 2) rest
    | none => refuse .invalidEscape position
  | c :: rest =>
    if c.toNat < 0x20 then refuse .controlCharacter position
    else readString start (c :: read) (position + 1) rest
termination_by cs => cs.length
decreasing_by all_goals simp; try omega

/-! ### Numbers -/

/-- Whether a character is a digit of a number. -/
def isDigit (c : Char) : Bool :=
  '0' ≤ c && c ≤ '9'

/-- The value of a list of digits. -/
def digitsValue (ds : List Char) : Nat :=
  ds.foldl (fun n d => n * 10 + (d.toNat - 0x30)) 0

/-- The digits of a whole part: a single zero, or digits that start with another. -/
def wholeDigits (cs : List Char) : List Char :=
  match cs with
  | '0' :: _ => ['0']
  | _ => cs.takeWhile isDigit

/-- The digits after a decimal point. -/
def fractionDigits (cs : List Char) : Option (List Char) :=
  match cs with
  | '.' :: rest => if (rest.takeWhile isDigit).isEmpty then none else some (rest.takeWhile isDigit)
  | _ => none

/-- The exponent and the number of characters it takes. -/
def exponentPart (cs : List Char) : Option (Int × Nat) :=
  match cs with
  | e :: rest =>
    if e = 'e' ∨ e = 'E' then
      let (negative, signed, rest) :=
        match rest with
        | '-' :: r => (true, 1, r)
        | '+' :: r => (false, 1, r)
        | r => (false, 0, r)
      let ds := rest.takeWhile isDigit
      if ds.isEmpty then none
      else
        let size : Int := digitsValue ds
        some (if negative then -size else size, 1 + signed + ds.length)
    else none
  | [] => none

/-- Whether a number has a minus, and what follows its sign. -/
def signPart (cs : List Char) : Bool × List Char :=
  match cs with
  | '-' :: rest => (true, rest)
  | rest => (false, rest)

/-- Read a number. -/
def readNumber (i : Input) : Except ReadError (Json × Input) :=
  let (negative, cs) := signPart i.rest
  let sign := if negative then 1 else 0
  let whole := wholeDigits cs
  if whole.isEmpty then refuse .expectingValue i.position
  else
    let rest := cs.drop whole.length
    let fraction := fractionDigits rest
    let rest := match fraction with
      | some ds => rest.drop (ds.length + 1)
      | none => rest
    let exponent := exponentPart rest
    let size := sign + whole.length + (fraction.map (·.length + 1)).getD 0
      + (exponent.map (·.2)).getD 0
    if fraction.isNone && exponent.isNone then
      if whole.length > maxDigits then .error (.tooManyDigits whole.length)
      else
        let n : Int := digitsValue whole
        .ok (.int (if negative then -n else n), i.advance size)
    else
      let ds := fraction.getD []
      let x := Binary64.ofDecimal negative (digitsValue (whole ++ ds))
        ((exponent.map (·.1)).getD 0 - ds.length)
      .ok (.real x, i.advance size)

/-! ### Values -/

/-- The words that stand for a value. -/
def words : List (String × Json) :=
  [("null", .null), ("true", .bool true), ("false", .bool false), ("NaN", .real .nan),
   ("Infinity", .real (.infinite false)), ("-Infinity", .real (.infinite true))]

/-- A word at the front of the input. -/
def word? (i : Input) : Option (Json × Input) :=
  (words.find? fun w => w.1.toList.isPrefixOf i.rest).map fun w => (w.2, i.advance w.1.length)

mutual

/-- Read a value that starts at the first character. -/
def readValue : (fuel : Nat) → Input → Except ReadError (Json × Input)
  | 0, i => refuse .expectingValue i.position
  | fuel + 1, i =>
    match i.rest with
    | [] => refuse .expectingValue i.position
    | '"' :: rest => do
      let (s, i) ← readString i.position [] (i.position + 1) rest
      return (.str s, i)
    | '[' :: _ =>
      let i := (i.advance 1).skipSpace
      match i.rest with
      | ']' :: _ => .ok (.arr [], i.advance 1)
      | _ => readItems fuel [] i
    | '\x7b' :: _ =>
      let i := (i.advance 1).skipSpace
      match i.rest with
      | '\x7d' :: _ => .ok (.obj [], i.advance 1)
      | _ => readFields fuel [] i
    | _ =>
      match word? i with
      | some r => .ok r
      | none => readNumber i

/-- Read the items of an array up to its closing bracket. The items read so far
    are in `read`, last first. -/
def readItems : (fuel : Nat) → List Json → Input → Except ReadError (Json × Input)
  | 0, _, i => refuse .expectingValue i.position
  | fuel + 1, read, i => do
    let (v, i) ← readValue fuel i
    let i := i.skipSpace
    match i.rest with
    | ']' :: _ => return (.arr (v :: read).reverse, i.advance 1)
    | ',' :: _ => readItems fuel (v :: read) (i.advance 1).skipSpace
    | _ => refuse .expectingComma i.position

/-- Read the fields of an object up to its closing brace. -/
def readFields : (fuel : Nat) → List (String × Json) → Input → Except ReadError (Json × Input)
  | 0, _, i => refuse .expectingName i.position
  | fuel + 1, read, i =>
    match i.rest with
    | '"' :: rest => do
      let (k, i) ← readString i.position [] (i.position + 1) rest
      let i := i.skipSpace
      match i.rest with
      | ':' :: _ =>
        let (v, i) ← readValue fuel (i.advance 1).skipSpace
        let i := i.skipSpace
        match i.rest with
        | '\x7d' :: _ => return (.obj (put k v read), i.advance 1)
        | ',' :: _ => readFields fuel (put k v read) (i.advance 1).skipSpace
        | _ => refuse .expectingComma i.position
      | _ => refuse .expectingColon i.position
    | _ => refuse .expectingName i.position

end

/-- Read a text that holds one value and nothing else but white space. -/
def parse (s : String) : Except ReadError Json :=
  let cs := s.toList
  match cs with
  | '\ufeff' :: _ => refuse .byteOrderMark 0
  | _ => do
    let (v, i) ← readValue (2 * cs.length + 2) (Input.skipSpace ⟨cs, 0⟩)
    let i := i.skipSpace
    if i.rest.isEmpty then return v else refuse .extraData i.position

/-! ### Messages -/

/-- The text for a fault. -/
def ReadFault.message : ReadFault → String
  | .expectingValue => "Expecting value"
  | .extraData => "Extra data"
  | .expectingComma => "Expecting ',' delimiter"
  | .expectingColon => "Expecting ':' delimiter"
  | .expectingName => "Expecting property name enclosed in double quotes"
  | .unterminatedString => "Unterminated string starting at"
  | .controlCharacter => "Invalid control character at"
  | .invalidEscape => "Invalid \\escape"
  | .invalidUnicodeEscape => "Invalid \\uXXXX escape"
  | .byteOrderMark => "Unexpected UTF-8 BOM (decode using utf-8-sig)"

/-- The line and the column of a position in a text, both counted from one. -/
def lineColumn (s : String) (position : Nat) : Nat × Nat :=
  let before := s.toList.take position
  (before.count '\n' + 1, (before.reverse.takeWhile (· ≠ '\n')).length + 1)

/-- The message for a refused text. -/
def ReadError.message (s : String) : ReadError → String
  | .fault kind position =>
    let (line, column) := lineColumn s position
    kind.message ++ s!": line {line} column {column} (char {position})"
  | .tooManyDigits count =>
    s!"Exceeds the limit ({maxDigits} digits) for integer string conversion: value has {count}"
      ++ " digits; use sys.set_int_max_str_digits() to increase the limit"

end SymbolGraph.Json
