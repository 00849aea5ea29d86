import SymbolGraph.Json.Basic
import SymbolGraph.Number.Shortest
import SymbolGraph.Text.Quoted

/-! # Values in messages

    Messages and ids show values in a notation of their own: texts are quoted,
    `None`, `True` and `False` are words, and lists and records are written with a
    space after each comma and colon. `Json.shown` always quotes a text,
    `Json.plain` leaves a text that stands by itself as it is.
-/

namespace SymbolGraph.Json

/-- The words that messages use for numbers without digits. -/
def messageWording : Binary64.Wording := ⟨"inf", "nan"⟩

mutual

/-- A value as messages show it. -/
def shown : Json → String
  | .null => "None"
  | .bool true => "True"
  | .bool false => "False"
  | .int i => toString i
  | .real x => x.render messageWording
  | .str s => Text.quoted s
  | .arr [] => "[]"
  | .arr (x :: xs) => "[" ++ shown x ++ shownItems xs ++ "]"
  | .obj [] => "\x7b\x7d"
  | .obj ((k, v) :: fs) =>
    "\x7b" ++ Text.quoted k ++ ": " ++ shown v ++ shownFields fs ++ "\x7d"

/-- The items after the first. -/
def shownItems : List Json → String
  | [] => ""
  | x :: xs => ", " ++ shown x ++ shownItems xs

/-- The fields after the first. -/
def shownFields : List (String × Json) → String
  | [] => ""
  | (k, v) :: fs => ", " ++ Text.quoted k ++ ": " ++ shown v ++ shownFields fs

end

/-- A value inside a text: a text as it is, everything else as messages show it. -/
def plain : Json → String
  | .str s => s
  | v => shown v

end SymbolGraph.Json
