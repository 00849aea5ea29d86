import SymbolGraph.Json.Basic
import SymbolGraph.Number.Shortest
import SymbolGraph.Text.Hex

/-! # JSON text

    Two layouts of the same values. `Json.compact` writes a value without any
    space. `Json.pretty` puts every item and every field on a line of its own,
    indented by two spaces for each level, and is the layout of saved documents.
    Both write characters beyond ASCII as escapes, so a text is pure ASCII.
-/

namespace SymbolGraph.Json

/-- The words that JSON text uses for numbers without digits. -/
def numberWording : Binary64.Wording := ⟨"Infinity", "NaN"⟩

/-- A 16-bit unit as an escape. -/
def unitEscape (u : Nat) : List Char :=
  '\\' :: 'u' :: Text.hexDigits 4 u

/-- A character inside a JSON string. -/
def escapeChar (c : Char) : List Char :=
  if c = '"' then ['\\', '"']
  else if c = '\\' then ['\\', '\\']
  else if c = '\n' then ['\\', 'n']
  else if c = '\r' then ['\\', 'r']
  else if c = '\t' then ['\\', 't']
  else if c.toNat = 8 then ['\\', 'b']
  else if c.toNat = 12 then ['\\', 'f']
  else if 0x20 ≤ c.toNat ∧ c.toNat < 0x7f then [c]
  else if c.toNat < 0x10000 then unitEscape c.toNat
  else
    let v := c.toNat - 0x10000
    unitEscape (0xd800 + v / 1024) ++ unitEscape (0xdc00 + v % 1024)

/-- A text as a JSON string. -/
def quote (s : String) : String :=
  String.ofList ('"' :: s.toList.flatMap escapeChar ++ ['"'])

/-- The text of a value that has no parts. -/
def scalarText : Json → String
  | .null => "null"
  | .bool true => "true"
  | .bool false => "false"
  | .int i => toString i
  | .real x => x.render numberWording
  | .str s => quote s
  | .arr _ => "[]"
  | .obj _ => "\x7b\x7d"

mutual

/-- A value on one line without spaces. -/
def compact : Json → String
  | .arr (x :: xs) => "[" ++ compact x ++ compactItems xs ++ "]"
  | .obj ((k, v) :: fs) => "\x7b" ++ quote k ++ ":" ++ compact v ++ compactFields fs ++ "\x7d"
  | v => scalarText v

/-- The items after the first. -/
def compactItems : List Json → String
  | [] => ""
  | x :: xs => "," ++ compact x ++ compactItems xs

/-- The fields after the first. -/
def compactFields : List (String × Json) → String
  | [] => ""
  | (k, v) :: fs => "," ++ quote k ++ ":" ++ compact v ++ compactFields fs

end

/-- The start of a line at a level of indentation. -/
def newline (level : Nat) : String :=
  "\n" ++ String.ofList (List.replicate (2 * level) ' ')

mutual

/-- A value with each part on a line of its own. The value itself stands at
    `level`. -/
def prettyAt (level : Nat) : Json → String
  | .arr (x :: xs) =>
    "[" ++ newline (level + 1) ++ prettyAt (level + 1) x ++ prettyItems (level + 1) xs
      ++ newline level ++ "]"
  | .obj ((k, v) :: fs) =>
    "\x7b" ++ newline (level + 1) ++ quote k ++ ": " ++ prettyAt (level + 1) v
      ++ prettyFields (level + 1) fs ++ newline level ++ "\x7d"
  | v => scalarText v

/-- The items after the first. -/
def prettyItems (level : Nat) : List Json → String
  | [] => ""
  | x :: xs => "," ++ newline level ++ prettyAt level x ++ prettyItems level xs

/-- The fields after the first. -/
def prettyFields (level : Nat) : List (String × Json) → String
  | [] => ""
  | (k, v) :: fs =>
    "," ++ newline level ++ quote k ++ ": " ++ prettyAt level v ++ prettyFields level fs

end

/-- The text of a value in the layout of saved documents. -/
def pretty (v : Json) : String :=
  prettyAt 0 v

end SymbolGraph.Json
