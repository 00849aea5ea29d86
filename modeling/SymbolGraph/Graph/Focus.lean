import SymbolGraph.Graph.Store
import SymbolGraph.Json.Order
import SymbolGraph.Text.Infix

/-! # The part of a graph that is exported

    An export shows the whole graph, or the symbols whose id or name contains a given
    text together with the edges that touch them. The ends of a shown edge are shown
    too, also when they are no symbols. The whole graph keeps the order of the graph;
    a part of it is sorted by id.
-/

namespace SymbolGraph

/-- The ids and edges that an export shows. -/
structure Selection where
  ids : List Key
  edges : List Edge
deriving Inhabited

namespace Store

/-- Whether a text occurs in a value: inside a text, among the items of a list, or
    among the names of an object's fields. Other values have no inside. -/
def mentions (focus : String) : Json → Except Malformed Bool
  | .str s => .ok (Text.occurs focus s)
  | .arr items => .ok (items.any fun v => v.same (.str focus))
  | .obj fields => .ok (fields.any (·.1 == focus))
  | _ => .error .unfit

/-- Whether the id or the name of a symbol contains the text. -/
def inFocus (focus : String) (e : Key × Symbol) : Except Malformed Bool := do
  if ← mentions focus e.1.toJson then return true else mentions focus e.2.name

/-- The ids of the symbols that contain the text; an empty text is in none. -/
def focusIds (s : Store) (focus : String) : Except Malformed (List Key) := do
  if focus.isEmpty then return []
  let kept ← s.nodes.entries.filterM (inFocus focus)
  return kept.map (·.1)

/-- The ends of some edges. -/
def ends (es : List Edge) : List Key :=
  es.flatMap fun e => [e.src, e.dst]

/-- What an export with a given focus shows. If nothing matches the focus, everything
    is shown. -/
def selection (s : Store) (focus : String) : Except Malformed Selection := do
  let focused ← s.focusIds focus
  if focused.isEmpty then
    let ids := Table.setOfList (s.nodes.keys ++ ends s.edgeList)
    return ⟨ids.keys, s.edgeList⟩
  else
    let es := s.edgeList.filter fun e => focused.contains e.src || focused.contains e.dst
    let ids := Table.setOfList (focused ++ ends es)
    match Json.sortBy? Key.toJson ids.keys with
    | some sorted => return ⟨sorted, es⟩
    | none => .error .unfit

end Store

end SymbolGraph
