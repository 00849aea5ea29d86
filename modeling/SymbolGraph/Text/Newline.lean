/-! # Line ends

    Files end their lines in three ways: with a line feed, with a carriage return,
    or with both. A text read from a file has line feeds only.
-/

namespace SymbolGraph.Text

/-- The characters with every line end turned into a line feed. -/
def unifyNewlines : List Char → List Char
  | [] => []
  | '\r' :: '\n' :: rest => '\n' :: unifyNewlines rest
  | '\r' :: rest => '\n' :: unifyNewlines rest
  | c :: rest => c :: unifyNewlines rest

end SymbolGraph.Text
