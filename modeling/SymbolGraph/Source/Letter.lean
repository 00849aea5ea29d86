import SymbolGraph.Text.Ranges

/-! # Characters of source text

    A name may hold any character that is not white space, punctuation, a control
    character or a digit at its front; it is not limited to the letters of any
    script.
-/

namespace SymbolGraph.Source

/-- The white space that may stand between tokens. -/
def spaces : Text.Ranges :=
  [(0x9, 0xd), (0x20, 0x20), (0x85, 0x85), (0xa0, 0xa0), (0x1680, 0x1680), (0x2000, 0x200b),
   (0x2028, 0x2029), (0x202f, 0x202f), (0x205f, 0x2060), (0x3000, 0x3000), (0xfeff, 0xfeff)]

/-- Whether a character separates tokens. -/
def isSpace (c : Char) : Bool :=
  spaces.has c

/-- Whether a character ends a line. -/
def isLineEnd (c : Char) : Bool :=
  c == '\n' || c == '\u2028' || c == '\u2029'

/-- The punctuation characters, none of which occurs in a name. -/
def punctuation : List Char :=
  ":;`\"'@#.,|^&<=>+-*/\\%?!~()[]\x7b\x7d".toList

/-- Whether a character may continue a name. -/
def isNameChar (c : Char) : Bool :=
  c.toNat > 0x1f && !isSpace c && !punctuation.contains c

/-- Whether a character may start a name. -/
def isNameStart (c : Char) : Bool :=
  isNameChar c && !('0' ≤ c && c ≤ '9')

/-- Whether a character is a digit. -/
def isDigit (c : Char) : Bool :=
  '0' ≤ c && c ≤ '9'

end SymbolGraph.Source
