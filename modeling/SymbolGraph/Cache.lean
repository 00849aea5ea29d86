import SymbolGraph.Digest.Md5
import SymbolGraph.Graph.Document
import SymbolGraph.Json.Display
import SymbolGraph.Json.Writer
import SymbolGraph.Workspace

/-! # Saved graphs

    The graphs of projects are saved in one folder, one document for each project. The
    name of the document's file is made from the digest of the project's path, so it
    depends on where the project is and not on what is in it.

    A document that cannot be read is no reason to fail when the saved graphs are
    listed: it is recorded and left out.
-/

namespace SymbolGraph

/-- The folder with the saved graphs. -/
structure Cache where
  folder : String
deriving Inhabited, Repr

/-- What is told about a saved graph. -/
structure SavedGraph where
  file : String
  projectPath : Json
  createdAt : Json
  updatedAt : Json
  nodeCount : Nat
  edgeCount : Nat
deriving Inhabited, Repr

/-- What is told about a saved graph, as an object. -/
def SavedGraph.toJson (s : SavedGraph) : Json :=
  .obj [("file", .str s.file), ("project_path", s.projectPath), ("created_at", s.createdAt),
    ("updated_at", s.updatedAt), ("node_count", .int s.nodeCount), ("edge_count", .int s.edgeCount)]

/-! ### Documents as text -/

/-- How a document that has the wrong form is described. -/
def Malformed.description : Malformed → String
  | .notADocument => "TypeError('cache document must be a JSON object')"
  | .missing key => s!"KeyError({key.shown})"
  | .unfit => "TypeError"
  | .fieldless => "AttributeError"

/-- How a number with too many digits is described. -/
def tooManyDigitsDescription (e : Json.ReadError) : String :=
  "ValueError(" ++ Text.quoted (e.message "") ++ ")"

/-- The graph that the text of a document describes, or why there is none. -/
def Store.ofText (text : String) : Except String Store :=
  match Json.parse text with
  | .error (.fault kind position) => .error ((Json.ReadError.fault kind position).message text)
  | .error e => .error s!"malformed document ({tooManyDigitsDescription e})"
  | .ok document =>
    match Store.ofDocument document with
    | .ok s => .ok s
    | .error fault => .error s!"malformed document ({fault.description})"

/-- The number of items of a part of a document. A part that is missing or empty has
    none. -/
def partSize (fields : List (String × Json)) (key : String) : Except Malformed Nat :=
  let v := Json.fieldOrNull key fields
  if v.isEmpty then .ok 0
  else match v with
    | .arr items => .ok items.length
    | .obj fields => .ok fields.length
    | .str s => .ok s.length
    | _ => .error .unfit

/-- The metadata that a document tells. -/
def metadataFields (fields : List (String × Json)) : Except Malformed (List (String × Json)) :=
  let v := Json.fieldOrNull "metadata" fields
  if v.isEmpty then .ok []
  else match v with
    | .obj m => .ok m
    | _ => .error .fieldless

/-- What a document tells. -/
def SavedGraph.ofDocument (file : String) : Json → Except Malformed SavedGraph
  | .obj fields => do
    let m ← metadataFields fields
    return {
      file := file
      projectPath := Json.fieldOrNull "projectPath" m
      createdAt := Json.fieldOrNull "createdAt" m
      updatedAt := Json.fieldOrNull "updatedAt" m
      nodeCount := ← partSize fields "nodes"
      edgeCount := ← partSize fields "edges" }
  | _ => .error .fieldless

namespace Cache

/-! ### Entries -/

/-- The digest that a project is known by. Paths are texts, so each of them has one. -/
def projectHash (project : String) : String :=
  Md5.hex project

/-- The name of a project's entry. -/
def entryName (project : String) : String :=
  "graph_" ++ projectHash project ++ ".json"

/-- The path of a project's entry. -/
def entryPath (c : Cache) (project : String) : String :=
  Path.under c.folder (entryName project)

/-- Whether a name is that of an entry. -/
def isEntryName (name : String) : Bool :=
  let cs := name.toList
  "graph_".toList.isPrefixOf cs && ".json".toList.isSuffixOf cs && cs.length ≥ 11

/-- The names of all entries, sorted. -/
def entryNames (c : Cache) (f : Files) : List String :=
  ((f.names c.folder).filter isEntryName).mergeSort fun a b => !(decide (b < a))

/-! ### Saving and loading -/

/-- A graph as it is saved for a project. -/
def stamped (s : Store) (project now : String) : Store :=
  let s := s.touch now
  { s with
    projectHash := .str (projectHash project)
    metadata := { s.metadata with projectPath := .str project } }

/-- Save the graph of a project. The graph as it was saved and the path of its entry
    are returned. -/
def save (c : Cache) (s : Store) (project : String) : Work (Store × String) := do
  Work.change (·.makeFolder c.folder)
  let path := c.entryPath project
  let s := stamped s project (← get).now
  Work.writeText path s.toDocument.pretty
  Work.record [⟨.info, "storage", s!"Graph saved to {path}"⟩]
  return (s, path)

/-- The saved graph of a project; `none` if there is no entry. An entry that is there and
    cannot be read is corrupted, whatever the reason is. -/
def lookup (c : Cache) (f : Files) (project : String) : Except Failure (Option Store) :=
  let path := c.entryPath project
  match f.has path with
  | .error fault => .error (.file fault)
  | .ok false => .ok none
  | .ok true =>
    match f.readText path with
    | .error e => .error (.corrupted ⟨path, e.message?.getD ""⟩)
    | .ok text =>
      match Store.ofText text with
      | .ok s => .ok (some s)
      | .error reason => .error (.corrupted ⟨path, reason⟩)

/-- Load the saved graph of a project. -/
def load (c : Cache) (project : String) : Work (Option Store) := do
  match c.lookup (← get).files project with
  | .error e => throw e
  | .ok none =>
    Work.record [⟨.info, "storage", s!"No cached graph found for {project}"⟩]
    return none
  | .ok (some s) =>
    Work.record [⟨.info, "storage", s!"Graph loaded from {c.entryPath project}"⟩]
    return some s

/-! ### Deleting and listing -/

/-- Delete the entry of a project; `false` if there is none. -/
def delete (c : Cache) (project : String) : Work Bool := do
  let path := c.entryPath project
  if !(← Work.has path) then return false
  Work.change (·.delete path)
  Work.record [⟨.info, "storage", s!"Graph deleted: {path}"⟩]
  return true

/-- The names of all entries, if the folder is there. -/
def names (c : Cache) : Work (List String) := do
  if !(← Work.has c.folder) then return []
  return c.entryNames (← get).files

/-- Delete entries by their names. -/
def deleteNames (c : Cache) : List String → Work Unit
  | [] => pure ()
  | name :: rest => do
    Work.change (·.delete (Path.under c.folder name))
    deleteNames c rest

/-- Delete all entries, and tell how many there were. -/
def deleteAll (c : Cache) : Work Nat := do
  let names ← c.names
  c.deleteNames names
  return names.length

/-- What the entry of a given name tells. -/
def describe (c : Cache) (f : Files) (name : String) : Except Failure SavedGraph := do
  let text ← f.readText (Path.under c.folder name)
  let document ← (Json.parse text).mapError (Failure.ofReadError text)
  (SavedGraph.ofDocument name document).mapError .malformed

/-- The kinds of failures for which an entry is left out when the saved graphs are listed. -/
def caught : List Failure.Kind :=
  [.file, .value, .attribute, .type]

/-- What the entry of a given name tells. An entry that cannot be read is recorded and left
    out. -/
def tell (c : Cache) (name : String) : Work (Option SavedGraph) := do
  match c.describe (← get).files name with
  | .ok g => return some g
  | .error e =>
    if e.kind ∈ caught then
      Work.record [⟨.error, "storage", s!"Error reading {name}"⟩]
      return none
    else throw e

/-- What entries tell, one after another. -/
def tellAll (c : Cache) : List String → Work (List SavedGraph)
  | [] => return []
  | name :: rest => do
    let found ← c.tell name
    return found.toList ++ (← tellAll c rest)

/-- List the saved graphs. -/
def list (c : Cache) : Work (List SavedGraph) := do
  c.tellAll (← c.names)

end Cache

end SymbolGraph
