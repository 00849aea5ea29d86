import SymbolGraph.Text.Ranges

/-! # White space

    The characters that may surround a number, and that separate words: the
    separators of the character standard and the control characters that move the
    writing position.
-/

namespace SymbolGraph.Text

/-- The white-space characters. -/
def blanks : Ranges := [
    (0x9, 0xd), (0x1c, 0x20), (0x85, 0x85), (0xa0, 0xa0), (0x1680, 0x1680),
    (0x2000, 0x200a), (0x2028, 0x2029), (0x202f, 0x202f), (0x205f, 0x205f), (0x3000, 0x3000)]

/-- Whether a character is white space. -/
def isBlank (c : Char) : Bool :=
  blanks.has c

/-- A text without the white space at its two ends. -/
def strip (cs : List Char) : List Char :=
  ((cs.dropWhile isBlank).reverse.dropWhile isBlank).reverse

end SymbolGraph.Text
