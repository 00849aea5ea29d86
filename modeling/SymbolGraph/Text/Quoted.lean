import SymbolGraph.Text.Hex
import SymbolGraph.Text.Printable

/-! # Quoted text in messages

    Messages show a text between quotes. Single quotes are used, unless the text
    holds a single quote and no double quote. A backslash, the quote in use, line
    breaks, tabs and characters that cannot be shown are written with a backslash.
-/

namespace SymbolGraph.Text

/-- The quote to put around a text. -/
def quoteFor (cs : List Char) : Char :=
  if cs.contains '\'' && !cs.contains '"' then '"' else '\''

/-- One character inside quotes `q`. -/
def quoteChar (q c : Char) : List Char :=
  if c = q ∨ c = '\\' then ['\\', c]
  else if c = '\n' then ['\\', 'n']
  else if c = '\r' then ['\\', 'r']
  else if c = '\t' then ['\\', 't']
  else if isPrintable c then [c]
  else if c.toNat < 0x100 then '\\' :: 'x' :: hexDigits 2 c.toNat
  else if c.toNat < 0x10000 then '\\' :: 'u' :: hexDigits 4 c.toNat
  else '\\' :: 'U' :: hexDigits 8 c.toNat

/-- A text as messages show it. -/
def quoted (s : String) : String :=
  let cs := s.toList
  let q := quoteFor cs
  String.ofList (q :: cs.flatMap (quoteChar q) ++ [q])

end SymbolGraph.Text
