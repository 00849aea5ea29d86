import SymbolGraph.Graph.Store

/-! # Walking along edges

    `Store.connections` collects the edges within a number of hops of an id, going
    depth first along outgoing edges, incoming edges or both. Each id is expanded at
    most once, so cycles end. The walk keeps a stack of the steps still to take, one
    list for every id on the current path.
-/

namespace SymbolGraph

/-- Which edges of an id are followed. -/
inductive Direction where
  | outgoing
  | incoming
  | both
deriving DecidableEq, Inhabited, Repr

namespace Direction

/-- The name of a direction in queries. -/
def name : Direction → String
  | .outgoing => "outgoing"
  | .incoming => "incoming"
  | .both => "both"

/-- The direction of a given name. -/
def ofName? (s : String) : Option Direction :=
  [outgoing, incoming, both].find? (·.name = s)

/-- Whether edges are followed from their source. -/
def followsOut (d : Direction) : Bool :=
  d != .incoming

/-- Whether edges are followed from their target. -/
def followsIn (d : Direction) : Bool :=
  d != .outgoing

/-- The direction that a value names. -/
def ofJson? : Json → Option Direction
  | .str s => ofName? s
  | _ => none

/-- The message for a value that names no direction. -/
def unknownMessage (given : Json) : String :=
  "direction must be one of ('outgoing', 'incoming', 'both'), got " ++ given.shown

end Direction

/-- An edge reached by a walk, with the symbols at its ends. -/
structure Connection where
  edge : Edge
  srcNode : Option Symbol
  dstNode : Option Symbol
deriving Inhabited, Repr

/-- A connection as an object. -/
def Connection.toJson (c : Connection) : Json :=
  let data : Option Symbol → Json
    | some s => s.toJson
    | none => .null
  .obj [("from", c.edge.src.toJson), ("to", c.edge.dst.toJson), ("type", c.edge.type),
    ("from_data", data c.srcNode), ("to_data", data c.dstNode)]

namespace Store

/-- An edge with the symbols at its ends. -/
def connection (s : Store) (e : Edge) : Connection :=
  ⟨e, s.nodes.get? e.src, s.nodes.get? e.dst⟩

/-- A step along an edge: the edge and the id at its other end. -/
abbrev Step := Edge × Key

/-- The steps that can be taken from an id: along outgoing edges, then incoming ones. -/
def steps (s : Store) (d : Direction) (id : Key) : List Step :=
  (if d.followsOut then (s.outgoing id).map fun e => (e, e.dst) else []) ++
    (if d.followsIn then (s.incoming id).map fun e => (e, e.src) else [])

/-- Take the steps on the stack, one after another. The top of the stack holds what is
    left to do for the id reached last, and how many hops away that id is. The
    connections found so far are in `found`, last first. -/
def walkSteps (s : Store) (d : Direction) (depth : Int) :
    (fuel : Nat) → (stack : List (List Step × Int)) → (visited : List Key) →
      (found : List Connection) → List Connection
  | 0, _, _, found => found.reverse
  | _ + 1, [], _, found => found.reverse
  | fuel + 1, ([], _) :: rest, visited, found => walkSteps s d depth fuel rest visited found
  | fuel + 1, ((e, id) :: more, hops) :: rest, visited, found =>
    let found := s.connection e :: found
    if hops + 1 < depth && !visited.contains id then
      walkSteps s d depth fuel ((s.steps d id, hops + 1) :: (more, hops) :: rest) (id :: visited)
        found
    else walkSteps s d depth fuel ((more, hops) :: rest) visited found

/-- More steps than any walk takes: each edge is met at most twice, and each meeting
    opens at most one list, which is closed once. -/
def walkBound (s : Store) : Nat :=
  4 * s.edges.size + 2

/-- The connections within `depth` hops of an id. -/
def connections (s : Store) (id : Key) (d : Direction) (depth : Int) : List Connection :=
  if depth ≤ 0 then []
  else s.walkSteps d depth s.walkBound [(s.steps d id, 0)] [id] []

end Store

end SymbolGraph
