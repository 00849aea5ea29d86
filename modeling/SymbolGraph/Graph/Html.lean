import SymbolGraph.Graph.Focus
import SymbolGraph.Text.Replace

/-! # Graphs as web pages

    A graph is written as a page with two lists, one of ids and one of edges. Every
    text that comes from the graph or from the user is escaped, so that no character
    of it can be taken for markup.
-/

namespace SymbolGraph.Html

/-- A text as text of a page. The ampersand is replaced first, because the others are
    replaced by texts that have one. -/
def escape (s : String) : String :=
  Text.replace '\'' "&#x27;" <| Text.replace '"' "&quot;" <| Text.replace '>' "&gt;" <|
    Text.replace '<' "&lt;" <| Text.replace '&' "&amp;" s

/-- A character as text of a page. -/
def escapeChar (c : Char) : List Char :=
  if c = '&' then "&amp;".toList
  else if c = '<' then "&lt;".toList
  else if c = '>' then "&gt;".toList
  else if c = '"' then "&quot;".toList
  else if c = '\'' then "&#x27;".toList
  else [c]

/-- Each character is escaped on its own. -/
theorem escape_eq (s : String) : escape s = String.ofList (s.toList.flatMap escapeChar) := by
  have hamps : Text.replace '&' "&amp;" s
      = String.ofList (s.toList.flatMap (Text.replaceChar '&' "&amp;")) := rfl
  unfold escape
  rw [hamps, Text.replace_ofList, Text.replace_ofList, Text.replace_ofList, Text.replace_ofList]
  congr 2
  funext c
  unfold escapeChar
  -- What a character is replaced by has none of the characters that are replaced later.
  by_cases hamp : c = '&'
  · subst hamp
    decide
  rw [if_neg hamp, Text.replaceChar_of_ne _ hamp, List.flatMap_singleton]
  by_cases hless : c = '<'
  · subst hless
    decide
  rw [if_neg hless, Text.replaceChar_of_ne _ hless, List.flatMap_singleton]
  by_cases hmore : c = '>'
  · subst hmore
    decide
  rw [if_neg hmore, Text.replaceChar_of_ne _ hmore, List.flatMap_singleton]
  by_cases hquote : c = '"'
  · subst hquote
    decide
  rw [if_neg hquote, Text.replaceChar_of_ne _ hquote, List.flatMap_singleton]
  rfl

/-- A value that must be a text, as text of a page. -/
def escapeText : Json → Except Malformed String
  | .str s => .ok (escape s)
  | _ => .error .fieldless

/-- What is shown beside an id. -/
def label (s : Store) (id : Key) : String :=
  match s.nodes.get? id with
  | some node =>
    node.kind.name ++ " " ++ node.name.plain ++ " at " ++ node.file.plain ++ ":" ++ node.line.plain
  | none => "(site)"

/-- The item for an id. -/
def nodeItem (s : Store) (id : Key) : Except Malformed String := do
  let i ← escapeText id.toJson
  return "    <li><code>" ++ i ++ "</code> " ++ escape (label s id) ++ "</li>"

/-- The item for an edge. -/
def edgeItem (e : Edge) : Except Malformed String := do
  let src ← escapeText e.src.toJson
  let type ← escapeText e.type
  let dst ← escapeText e.dst.toJson
  return "    <li><code>" ++ src ++ "</code> <em>" ++ type ++ "</em> <code>" ++ dst
    ++ "</code></li>"

/-- The rules for how the page looks. -/
def style : String :=
  "body \x7b font-family: monospace; margin: 2em; \x7d em \x7b color: #0a7; \x7d"

/-- A page with a title and two lists of items. -/
def page (title : String) (nodes edges : List String) : String :=
  String.intercalate "\n" [
    "<!doctype html>",
    "<html>",
    "<head>",
    "  <meta charset=\"utf-8\" />",
    "  <title>" ++ title ++ "</title>",
    "  <style>" ++ style ++ "</style>",
    "</head>",
    "<body>",
    "  <h1>" ++ title ++ "</h1>",
    s!"  <h2>Nodes ({nodes.length})</h2>",
    "  <ul>",
    String.intercalate "\n" nodes,
    "  </ul>",
    s!"  <h2>Edges ({edges.length})</h2>",
    "  <ul>",
    String.intercalate "\n" edges,
    "  </ul>",
    "</body>",
    "</html>",
    ""]

/-- The title of the page for a focus. -/
def title (focus : String) : String :=
  if focus.isEmpty then "jsgraph" else "jsgraph: " ++ focus

/-- A graph, or the part of it around a focus, as a page. -/
def render (s : Store) (focus : String) : Except Malformed String := do
  let sel ← s.selection focus
  let nodes ← sel.ids.mapM (nodeItem s)
  let edges ← sel.edges.mapM edgeItem
  return page (escape (title focus)) nodes edges

end SymbolGraph.Html
