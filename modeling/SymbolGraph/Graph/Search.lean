import SymbolGraph.Graph.Store
import SymbolGraph.Text.Case
import SymbolGraph.Text.Infix

/-! # Searching for symbols

    A search finds the symbols whose name or file contains a text, whatever the case
    of the letters. Symbols that match by name have score 2, those that match only by
    file have score 1. Hits are sorted by falling score. The sort is stable: hits of the
    same score stay in the order in which the symbols were added.
-/

namespace SymbolGraph

/-- A symbol found by a search. -/
structure Hit where
  id : Key
  node : Symbol
  score : Nat
deriving Inhabited, Repr

/-- Whether a hit may come before another one: that must not score higher. -/
def Hit.mayPrecede (a b : Hit) : Bool :=
  decide (b.score ≤ a.score)

/-- A hit as an object. -/
def Hit.toJson (h : Hit) : Json :=
  .obj (("id", h.id.toJson) :: h.node.toFields ++ [("score", .int h.score)])

namespace Store

/-- Whether a symbol is of the kind asked for; no kind, or an empty one, asks for all. -/
def ofKind (kind : Option String) (node : Symbol) : Bool :=
  match kind with
  | none => true
  | some k => k.isEmpty || node.kind.name == k

/-- The score of a symbol: 2 if its name matches, 1 if only its file does, 0 otherwise.
    A name or a file that is no text cannot be searched. -/
def score (needle : String) (node : Symbol) : Except Malformed Nat :=
  match node.name, node.file with
  | .str name, .str file =>
    if Text.occurs needle (Text.lower name) then .ok 2
    else if Text.occurs needle (Text.lower file) then .ok 1
    else .ok 0
  | _, _ => .error .fieldless

/-- The symbols of a kind with their scores, in the order in which they were added. -/
def scored (s : Store) (query : String) (kind : Option String) : Except Malformed (List Hit) :=
  (s.nodes.entries.filter fun e => ofKind kind e.2).mapM fun e => do
    let score ← score (Text.lower query) e.2
    return ⟨e.1, e.2, score⟩

/-- The symbols that match a query, best matches first. -/
def search (s : Store) (query : String) (kind : Option String) : Except Malformed (List Hit) := do
  let hits ← s.scored query kind
  return (hits.filter (·.score ≠ 0)).mergeSort Hit.mayPrecede

end Store

end SymbolGraph
