import SymbolGraph.Graph.Search
import SymbolGraph.Graph.Traversal
import SymbolGraph.Json.Order

/-! # Queries

    The questions that can be asked of a graph: which symbols match a text, what a
    symbol depends on and what depends on it, which calls surround a function, what a
    file declares, and how many symbols and edges there are of each sort.
-/

namespace SymbolGraph

/-- The calls around one function. -/
structure CallEntry where
  hit : Hit
  connections : List Connection
deriving Inhabited, Repr

/-- How many symbols and edges a graph has. -/
structure Stats where
  totalNodes : Nat
  totalEdges : Nat
  fileCount : Nat
  nodeTypes : List (String × Nat)
  edgeTypes : List (Key × Nat)
deriving Inhabited

namespace Store

/-- The most symbols that a search shows. -/
def searchLimit : Int := 50

/-- The most functions for which calls are shown. -/
def callGraphLimit : Nat := 5

/-- The first items of a list. A negative limit counts from the end, and no limit takes
    all. -/
def limited {α : Type} (limit : Option Int) (items : List α) : List α :=
  match limit with
  | none => items
  | some n => if n ≥ 0 then items.take n.toNat else items.take (items.length - n.natAbs)

/-- The symbols that match a query, up to a limit. -/
def findSymbol (s : Store) (query : String) (kind : Option String)
    (limit : Option Int := some searchLimit) : Except Malformed (List Hit) := do
  return limited limit (← s.search query kind)

/-- What a symbol uses. -/
def dependencies (s : Store) (id : Key) (depth : Int) : List Connection :=
  s.connections id .outgoing depth

/-- What uses a symbol. -/
def dependents (s : Store) (id : Key) (depth : Int) : List Connection :=
  s.connections id .incoming depth

/-- Whether a connection is a call. -/
def isCall (c : Connection) : Bool :=
  match c.edge.type with
  | .str t => t == "calls"
  | _ => false

/-- The calls around the first functions that match a name. -/
def callGraph (s : Store) (name : String) (depth : Int) : Except Malformed (List CallEntry) := do
  let hits ← s.search name (some Kind.function.name)
  return (hits.take callGraphLimit).map fun h =>
    ⟨h, (s.connections h.id .both depth).filter isCall⟩

/-- The line by which a symbol is sorted; a missing one counts as zero. -/
def lineKey (node : Symbol) : Json :=
  if node.line.isEmpty then .int 0 else node.line

/-- The symbols listed under a file, by line. -/
def fileSymbols (s : Store) (file : Key) : Except Malformed (List (Key × Symbol)) :=
  let found := (s.fileIds file).filterMap fun id => (s.nodes.get? id).map fun n => (id, n)
  match Json.sortBy? (fun e => lineKey e.2) found with
  | some sorted => .ok sorted
  | none => .error .unfit

/-- How often each key occurs, in order of first occurrence. -/
def countAll {κ : Type} [BEq κ] (ks : List κ) : Table κ Nat :=
  ks.foldl (fun t k => t.alter k fun n => n.getD 0 + 1) {}

/-- The type by which an edge is counted. A type that is no key cannot be counted. -/
def typeKey (e : Edge) : Except Malformed Key :=
  match Key.ofJson? e.type with
  | some k => .ok k
  | none => .error .unfit

/-- The numbers of symbols and edges by sort. -/
def stats (s : Store) : Except Malformed Stats := do
  let types ← s.edgeList.mapM typeKey
  return {
    totalNodes := s.nodeCount
    totalEdges := s.edgeCount
    fileCount := s.files.length
    nodeTypes := (countAll (s.nodes.values.map fun n => n.kind.name)).entries
    edgeTypes := (countAll types).entries }

end Store

/-- The calls around a function as an object. -/
def CallEntry.toJson (e : CallEntry) : Json :=
  .obj [("function", e.hit.toJson), ("connections", .arr (e.connections.map (·.toJson)))]

/-- The numbers of a graph as an object. -/
def Stats.toJson (s : Stats) : Json :=
  .obj [("total_nodes", .int s.totalNodes), ("total_edges", .int s.totalEdges),
    ("file_count", .int s.fileCount),
    ("node_types", .obj (s.nodeTypes.map fun e => (e.1, .int e.2))),
    ("edge_types", .obj (s.edgeTypes.map fun e => (e.1.fieldName, .int e.2)))]

end SymbolGraph
