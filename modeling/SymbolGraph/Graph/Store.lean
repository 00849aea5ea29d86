import SymbolGraph.Graph.Symbol
import SymbolGraph.Graph.Table

/-! # The graph

    A `Store` holds symbols under their ids and directed edges between ids. Every
    edge is kept once, in the arena, in the order in which edges came; two indexes
    list, for each id, the arena positions of the edges that leave and enter it. A
    third index lists the ids of each file. The ends of an edge need not be symbols:
    they may be sites, such as the line of a call.

    The store grows by three operations. `addNode` sets the symbol at an id,
    `addEdge` appends an edge, and `setFileIndex` replaces the ids of a file.
-/

namespace SymbolGraph

/-- A directed edge between two ids, with its type. -/
structure Edge where
  src : Key
  dst : Key
  type : Json
deriving Inhabited, Repr

/-- An edge as an object. -/
def Edge.toJson (e : Edge) : Json :=
  .obj [("from", e.src.toJson), ("to", e.dst.toJson), ("type", e.type)]

/-- When a graph was made and changed, and for which project. -/
structure Metadata where
  createdAt : Json
  updatedAt : Json
  projectPath : Json
deriving Inhabited, Repr

/-- Metadata as an object. -/
def Metadata.toJson (m : Metadata) : Json :=
  .obj [("created_at", m.createdAt), ("updated_at", m.updatedAt), ("project_path", m.projectPath)]

/-- A graph of symbols. -/
structure Store where
  nodes : Table Key Symbol
  /-- The arena: all edges in the order in which they were added. -/
  edges : Array Edge
  /-- The arena positions of the edges that leave an id. -/
  forward : Table Key (List Nat)
  /-- The arena positions of the edges that enter an id. -/
  backward : Table Key (List Nat)
  /-- The ids that belong to a file. -/
  fileIndex : Table Key (Table Key Unit)
  metadata : Metadata
  projectHash : Json
deriving Inhabited

namespace Store

/-- The graph without symbols and edges, made at a given time. -/
def empty (now : String) : Store where
  nodes := {}
  edges := #[]
  forward := {}
  backward := {}
  fileIndex := {}
  metadata := ⟨.str now, .str now, .null⟩
  projectHash := .null

/-! ### Changing a graph -/

/-- Set the symbol at an id, and list the id under the symbol's file. A symbol whose
    file cannot be looked up is kept without being listed. -/
def addNode (s : Store) (id : Key) (node : Symbol) : Store :=
  { s with
    nodes := s.nodes.insert id node
    forward := s.forward.insertIfNew id []
    backward := s.backward.insertIfNew id []
    fileIndex :=
      match Key.ofJson? node.file with
      | some file => s.fileIndex.alter file fun ids => (ids.getD {}).insert id ()
      | none => s.fileIndex }

/-- Append an edge. Its ends are not checked. -/
def addEdge (s : Store) (e : Edge) : Store :=
  { s with
    edges := s.edges.push e
    forward := s.forward.alter e.src fun ps => ps.getD [] ++ [s.edges.size]
    backward := s.backward.alter e.dst fun ps => ps.getD [] ++ [s.edges.size] }

/-- Replace the ids listed under a file. -/
def setFileIndex (s : Store) (file : Key) (ids : List Key) : Store :=
  { s with fileIndex := s.fileIndex.insert file (Table.setOfList ids) }

/-- Record that the graph changed at a given time. -/
def touch (s : Store) (now : String) : Store :=
  { s with metadata := { s.metadata with updatedAt := .str now } }

/-! ### Reading a graph -/

/-- The edges at some arena positions. -/
def edgesAt (s : Store) (positions : List Nat) : List Edge :=
  positions.filterMap (s.edges[·]?)

/-- The edges that leave an id, in the order in which they were added. -/
def outgoing (s : Store) (id : Key) : List Edge :=
  s.edgesAt ((s.forward.get? id).getD [])

/-- The edges that enter an id, in the order in which they were added. -/
def incoming (s : Store) (id : Key) : List Edge :=
  s.edgesAt ((s.backward.get? id).getD [])

/-- All edges, grouped by source, in the order in which sources first appeared as the
    id of a symbol or as the source of an edge. -/
def edgeList (s : Store) : List Edge :=
  s.forward.values.flatMap s.edgesAt

/-- The ids listed under a file. -/
def fileIds (s : Store) (file : Key) : List Key :=
  ((s.fileIndex.get? file).getD {}).keys

/-- The files under which ids are listed. -/
def files (s : Store) : List Key :=
  s.fileIndex.keys

/-- The number of symbols. -/
def nodeCount (s : Store) : Nat :=
  s.nodes.size

/-- The number of edges. -/
def edgeCount (s : Store) : Nat :=
  s.edges.size

end Store

end SymbolGraph
