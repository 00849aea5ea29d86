/-! # Finding a text inside another -/

namespace SymbolGraph.Text

/-- Whether the characters of `needle` occur next to each other in a list. -/
def occursIn (needle : List Char) : List Char → Bool
  | [] => needle.isEmpty
  | c :: rest => needle.isPrefixOf (c :: rest) || occursIn needle rest

/-- Whether a text occurs inside another. -/
def occurs (needle text : String) : Bool :=
  occursIn needle.toList text.toList

end SymbolGraph.Text
