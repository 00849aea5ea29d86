import SymbolGraph.Graph.Focus
import SymbolGraph.Text.Replace

/-! # Graphs in the DOT language

    A graph is written as a `digraph` with one statement on each line: first the ids
    with their labels, then the edges. Ids and names stand between double quotes,
    where a quote and a backslash are written with a backslash before them. The label
    of a symbol has three parts, with the escape for a line break between them; an id
    that is no symbol is its own label.
-/

namespace SymbolGraph.Dot

/-- A text between double quotes, without the quotes. Backslashes are replaced first, so
    that those which are put before quotes stay single. -/
def escape (s : String) : String :=
  Text.replace '"' "\\\"" (Text.replace '\\' "\\\\" s)

/-- A character between double quotes. -/
def escapeChar (c : Char) : List Char :=
  if c = '\\' ∨ c = '"' then ['\\', c] else [c]

/-- Each character is escaped on its own. -/
theorem escape_eq (s : String) : escape s = String.ofList (s.toList.flatMap escapeChar) := by
  have hslashes : Text.replace '\\' "\\\\" s
      = String.ofList (s.toList.flatMap (Text.replaceChar '\\' "\\\\")) := rfl
  unfold escape
  rw [hslashes, Text.replace_ofList]
  congr 2
  funext c
  unfold Text.replaceChar escapeChar
  by_cases hslash : c = '\\'
  · simp [hslash]
  · by_cases hquote : c = '"' <;> simp [hslash, hquote]

/-- A value that must be a text, between double quotes. -/
def escapeText : Json → Except Malformed String
  | .str s => .ok (escape s)
  | _ => .error .fieldless

/-- The label of a symbol. -/
def label (node : Symbol) : Except Malformed String := do
  let name ← escapeText node.name
  return escape node.kind.name ++ "\\n" ++ name ++ "\\n"
    ++ escape (node.file.plain ++ ":" ++ node.line.plain)

/-- The statement for an id. -/
def nodeLine (s : Store) (id : Key) : Except Malformed String := do
  match s.nodes.get? id with
  | some node =>
    let l ← label node
    let i ← escapeText id.toJson
    return "  \"" ++ i ++ "\" [label=\"" ++ l ++ "\"];"
  | none =>
    let i ← escapeText id.toJson
    return "  \"" ++ i ++ "\" [label=\"" ++ i ++ "\", shape=plaintext];"

/-- The statement for an edge. -/
def edgeLine (e : Edge) : Except Malformed String := do
  let src ← escapeText e.src.toJson
  let dst ← escapeText e.dst.toJson
  return "  \"" ++ src ++ "\" -> \"" ++ dst ++ "\" [label=\"" ++ e.type.plain ++ "\"];"

/-- The lines of a graph. -/
def lines (s : Store) (sel : Selection) : Except Malformed (List String) := do
  let nodes ← sel.ids.mapM (nodeLine s)
  let edges ← sel.edges.mapM edgeLine
  return ["digraph CodeGraph \x7b", "  rankdir=LR;"] ++ nodes ++ edges ++ ["\x7d"]

/-- A graph, or the part of it around a focus, as a text. -/
def render (s : Store) (focus : String) : Except Malformed String := do
  let sel ← s.selection focus
  return String.intercalate "\n" (← lines s sel)

end SymbolGraph.Dot
