import SymbolGraph.Graph.Store

/-! # Graphs as documents

    A graph is saved as a JSON document: metadata, the hash of the project, the
    symbols with their ids, the edges grouped by source, and the ids of each file.
    `Store.toDocument` writes a graph and `Store.ofDocument` reads one. Reading checks
    only what it needs: that objects have the fields it looks for and that ids and
    files can be looked up.
-/

namespace SymbolGraph.Store

/-! ### Writing -/

/-- The symbols with their ids. -/
def nodesJson (s : Store) : Json :=
  .arr (s.nodes.entries.map fun e => e.2.toJsonWithId e.1.toJson)

/-- The edges, grouped by source. -/
def edgesJson (s : Store) : Json :=
  .arr (s.edgeList.map (·.toJson))

/-- The ids of each file. -/
def fileIndexJson (s : Store) : Json :=
  .arr (s.files.map fun f =>
    .obj [("file", f.toJson), ("nodeIds", .arr ((s.fileIds f).map (·.toJson)))])

/-- A graph as a document. -/
def toDocument (s : Store) : Json :=
  .obj [
    ("metadata", .obj [("createdAt", s.metadata.createdAt), ("updatedAt", s.metadata.updatedAt),
      ("projectPath", s.metadata.projectPath)]),
    ("projectHash", s.projectHash),
    ("nodes", s.nodesJson),
    ("edges", s.edgesJson),
    ("fileIndex", s.fileIndexJson)]

/-! ### Reading -/

/-- A field that an object must have. -/
def needed (fields : List (String × Json)) (key : String) : Except Malformed Json :=
  match Json.field? key fields with
  | some v => .ok v
  | none => .error (.missing (.str key))

/-- The fields of a value that must be an object. -/
def fieldsOf : Json → Except Malformed (List (String × Json))
  | .obj fields => .ok fields
  | _ => .error .unfit

/-- A value that must be a key. -/
def keyOf (v : Json) : Except Malformed Key :=
  match Key.ofJson? v with
  | some k => .ok k
  | none => .error .unfit

/-- The items of a part of a document. A part that is missing or empty has none. -/
def itemsOf (fields : List (String × Json)) (key : String) : Except Malformed (List Json) :=
  let v := Json.fieldOrNull key fields
  if v.isEmpty then .ok []
  else match v with
    | .arr items => .ok items
    | _ => .error .unfit

/-- The metadata of a document. Metadata that is missing or empty has no values. -/
def metadataOf (fields : List (String × Json)) : Except Malformed Metadata :=
  let v := Json.fieldOrNull "metadata" fields
  if v.isEmpty then .ok ⟨.null, .null, .null⟩
  else match v with
    | .obj m => .ok ⟨Json.fieldOrNull "createdAt" m, Json.fieldOrNull "updatedAt" m,
        Json.fieldOrNull "projectPath" m⟩
    | _ => .error .fieldless

/-- Add the symbol that an item of a document describes. -/
def readNode (s : Store) (item : Json) : Except Malformed Store := do
  let fields ← fieldsOf item
  let id ← needed fields "id"
  let node ← Symbol.ofFields fields
  let id ← keyOf id
  let _ ← keyOf node.file
  return s.addNode id node

/-- Add the edge that an item of a document describes. -/
def readEdge (s : Store) (item : Json) : Except Malformed Store := do
  let fields ← fieldsOf item
  let src ← needed fields "from"
  let dst ← needed fields "to"
  let type ← needed fields "type"
  return s.addEdge ⟨← keyOf src, ← keyOf dst, type⟩

/-- The ids of an entry of the file index: the items of a list, the names of an
    object's fields, or the characters of a text. -/
def idsOf : Json → Except Malformed (List Key)
  | .arr items => items.mapM keyOf
  | .obj fields => .ok (fields.map fun f => .str f.1)
  | .str s => .ok (s.toList.map fun c => .str (String.singleton c))
  | _ => .error .unfit

/-- Set the ids of the file that an item of a document describes. -/
def readFileEntry (s : Store) (item : Json) : Except Malformed Store := do
  let fields ← fieldsOf item
  let file ← needed fields "file"
  let ids ← idsOf (← needed fields "nodeIds")
  return s.setFileIndex (← keyOf file) ids

/-- The graph that a document describes. -/
def ofDocument : Json → Except Malformed Store
  | .obj fields => do
    let metadata ← metadataOf fields
    let start := { empty "" with
      metadata := metadata, projectHash := Json.fieldOrNull "projectHash" fields }
    let s ← (← itemsOf fields "nodes").foldlM readNode start
    let s ← (← itemsOf fields "edges").foldlM readEdge s
    (← itemsOf fields "fileIndex").foldlM readFileEntry s
  | _ => .error .notADocument

end SymbolGraph.Store
