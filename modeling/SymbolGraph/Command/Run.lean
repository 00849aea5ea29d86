import SymbolGraph.Command.Request
import SymbolGraph.CurrentProject
import SymbolGraph.Graph.Dot
import SymbolGraph.Graph.Html
import SymbolGraph.Graph.Query
import SymbolGraph.Screen.Grid
import SymbolGraph.Session

/-! # Running commands

    A command does its work in a session of its own and answers with a text. Queries
    work on the project that they are given, or else on the current one, of which a
    saved graph must be there. Analyzing or loading a project makes it the current
    one, and clearing its saved graph makes it current no longer.
-/

namespace SymbolGraph.Command

/-- What a command leaves: a code, its answer, and its complaint. -/
structure Output where
  exit : Nat := 0
  out : String := ""
  err : String := ""
deriving DecidableEq, Inhabited, Repr

/-! ### Answers -/

/-- An answer of some lines. -/
def answer (lines : List String) : Output :=
  { out := String.join (lines.map (· ++ "\n")) }

/-- The line with the version of the program. -/
def versionLine : String :=
  "jsgraph v0.1.0"

/-- An answer as JSON text. -/
def answerJson (v : Json) : Output :=
  answer [v.pretty]

/-- A complaint. -/
def complaint (line : String) : Output :=
  { exit := 1, err := line ++ "\n" }

/-- Use what may find a value of the wrong form. -/
def wellFormed {α : Type} : Except Malformed α → Work α
  | .ok a => pure a
  | .error fault => throw (.malformed fault)

/-- The text of a grid. -/
def gridText (t : Tools) (g : Screen.Grid) : Work String :=
  match g.render t.screen with
  | .ok s => pure s
  | .error _ => throw .unopenedStyle

/-- The text of a cell; nothing is shown as an empty text. -/
def cellText : Json → Work String
  | .str s => pure s
  | .null => pure ""
  | _ => throw .notAText

/-- The grid of some connections. -/
def connectionsGrid (title : String) (cs : List Connection) : Work Screen.Grid := do
  let rows ← cs.mapM fun c => do
    return [← cellText c.edge.src.toJson, ← cellText c.edge.type, ← cellText c.edge.dst.toJson]
  return {
    title := title
    columns := [⟨"From", .left⟩, ⟨"Type", .left⟩, ⟨"To", .left⟩]
    rows := rows }

/-! ### The project to work on -/

/-- The file that keeps the current project. -/
def state (t : Tools) : CurrentProject :=
  ⟨t.settings.stateFile⟩

/-- The path of the project to work on. -/
def projectPath (t : Tools) (project : Option String) : Work String := do
  match project with
  | some path => return Path.spelled path
  | none =>
    let current ← (state t).get
    if current.isEmpty then
      throw (.refused "No project loaded. Use 'jsg analyze <path>' or 'jsg load <path>'.")
    match current with
    | .str path => return path
    | _ => throw (.malformed .unfit)

/-- A session with the saved graph of the project to work on, and that graph. -/
def openProject (t : Tools) (project : Option String) : Work (Session × Store) := do
  let path ← projectPath t project
  let (session, result) ← Session.loadCached t {} path
  match session.store with
  | some store => return (session, store)
  | none => throw (.refused s!"{result.message}: {path}. Run 'jsg analyze {path}'.")

/-! ### Projects -/

/-- The line with the size of a graph. -/
def sizeLine (nodes edges : Nat) : String :=
  s!"Nodes: {nodes} | Edges: {edges}"

/-- The lines about files of a project that was built. -/
def fileLines (s : Build.Stats) : List String :=
  s!"Files: {s.fileCount}" :: s.skipped.map (s!"  skipped (too large): {·}")
    ++ s.errors.entries.map fun e => s!"  failed: {e.1}: {e.2}"

/-- Analyze a project and make it the current one. -/
def runAnalyze (t : Tools) (path : String) (force json : Bool) : Work Output := do
  let (session, result) ← Session.analyze t {} path force
  (state t).set session.project
  if json then return answerJson result.toJson
  let project := session.project.getD ""
  let files := match result with
    | .cached _ => []
    | .built report => fileLines report
  return answer (s!"{result.message}: {project}"
    :: sizeLine result.nodeCount result.edgeCount :: files)

/-- Make a project with a saved graph the current one. -/
def runLoad (t : Tools) (path : String) : Work Output := do
  let (session, result) ← Session.loadCached t {} path
  match result with
  | .loaded summary =>
    (state t).set session.project
    let project := session.project.getD ""
    return answer [s!"Loaded graph for '{project}'.", sizeLine summary.nodeCount summary.edgeCount]
  | _ => return complaint s!"❌ {result.message}"

/-- Whether clearing saved graphs means the current project. -/
def clearsCurrent (current : Json) (path : Option String) : Work Bool := do
  if current.isEmpty then return false
  match path, current with
  | none, _ => return true
  | some path, .str project => return (← projectKey path) == project
  | some _, _ => return false

/-- Delete saved graphs. -/
def runClearCache (t : Tools) (path : Option String) : Work Output := do
  let result ← Session.clearCache t path
  if ← clearsCurrent (← (state t).get) path then (state t).unload
  return answer [result.message]

/-- List the saved graphs. -/
def runListCached (t : Tools) (json : Bool) : Work Output := do
  let graphs ← t.cache.list
  if json then return answerJson (listingJson graphs)
  if graphs.isEmpty then return answer ["No cached graphs."]
  let current ← (state t).get
  let rows := graphs.map fun g =>
    [if g.projectPath.same current then "*" else "", g.projectPath.plain, toString g.nodeCount,
      toString g.edgeCount, g.updatedAt.plain]
  let grid : Screen.Grid := {
    title := "Cached graphs"
    columns := [⟨"", .left⟩, ⟨"Project", .left⟩, ⟨"Nodes", .right⟩, ⟨"Edges", .right⟩,
      ⟨"Updated", .left⟩]
    rows := rows }
  return { out := ← gridText t grid }

/-- Tell the current project. -/
def runCurrentProject (t : Tools) : Work Output := do
  let current ← (state t).get
  return answer [if current.isEmpty then "No project loaded" else current.plain]

/-! ### Queries -/

/-- Find symbols. -/
def runFind (t : Tools) (query : String) (kind : Option String) (o : QueryOptions) :
    Work Output := do
  if kind.any fun k => (Kind.ofName? k).isNone then
    let names := String.intercalate ", " (Kind.all.map (·.name))
    throw (.refused s!"Type must be one of: {names}")
  let (_, store) ← openProject t o.project
  let hits ← wellFormed (store.findSymbol query kind)
  if o.json then
    return answerJson (.obj [("query", .str query), ("type", .str (kind.getD "all")),
      ("count", .int hits.length), ("symbols", .arr (hits.map (·.toJson)))])
  if hits.isEmpty then return answer ["No matching symbols."]
  let rows ← hits.mapM fun h => do
    return [h.node.kind.name, ← cellText h.node.name, s!"{h.node.file.plain}:{h.node.line.plain}",
      toString h.score]
  let grid : Screen.Grid := {
    title := s!"Symbols matching '{query}'"
    columns := [⟨"Kind", .left⟩, ⟨"Name", .left⟩, ⟨"Location", .left⟩, ⟨"Score", .right⟩]
    rows := rows }
  return { out := ← gridText t grid }

/-- Show connections of a symbol. `title`, `field` and `nothing` are the words for their
    direction. -/
def runConnections (t : Tools) (title field nothing id : String) (depth : Int) (o : QueryOptions)
    (find : Store → List Connection) : Work Output := do
  let (_, store) ← openProject t o.project
  let cs := find store
  if o.json then
    return answerJson (.obj [("symbol_id", .str id), ("depth", .int depth),
      (field, .arr (cs.map (·.toJson)))])
  if cs.isEmpty then return answer [nothing]
  return { out := ← gridText t (← connectionsGrid (title ++ id) cs) }

/-- The calls of functions, as an object with a field for each function. -/
def callGraphJson (es : List CallEntry) : Json :=
  .obj (es.map fun e => (e.hit.id.fieldName, e.toJson))

/-- The text about the calls of one function. -/
def callText (t : Tools) (e : CallEntry) : Work String := do
  if e.connections.isEmpty then return s!"{e.hit.id.toJson.plain}: no calls found\n"
  gridText t (← connectionsGrid (← cellText e.hit.id.toJson) e.connections)

/-- Show the calls around functions. -/
def runCallGraph (t : Tools) (name : String) (depth : Int) (o : QueryOptions) : Work Output := do
  let (_, store) ← openProject t o.project
  let entries ← wellFormed (store.callGraph name depth)
  if entries.isEmpty then return complaint s!"❌ Function '{name}' not found."
  if o.json then
    return answerJson (.obj [("function_name", .str name), ("depth", .int depth),
      ("call_graph", callGraphJson entries)])
  return { out := String.join (← entries.mapM (callText t)) }

/-- List the symbols of a file. -/
def runFileSymbols (t : Tools) (file : String) (o : QueryOptions) : Work Output := do
  let (_, store) ← openProject t o.project
  let found ← wellFormed (store.fileSymbols (.str file))
  if o.json then
    return answerJson (.obj [("filepath", .str file), ("symbol_count", .int found.length),
      ("symbols", .arr (found.map fun e => e.2.toJsonWithId e.1.toJson))])
  if found.isEmpty then return answer [s!"No symbols recorded for '{file}'."]
  let rows ← found.mapM fun e => do
    return [e.2.line.plain, e.2.kind.name, ← cellText e.2.name]
  let grid : Screen.Grid := {
    title := file
    columns := [⟨"Line", .right⟩, ⟨"Kind", .left⟩, ⟨"Name", .left⟩]
    rows := rows }
  return { out := ← gridText t grid }

/-- The lines with the numbers of a graph, sorted by what is counted. -/
def statsLines (s : Stats) : Except Malformed (List String) :=
  match Json.sortBy? (fun (e : Key × Nat) => e.1.toJson) s.edgeTypes with
  | none => .error .unfit
  | some edges => .ok (
    s!"Nodes: {s.totalNodes} | Edges: {s.totalEdges} | Files: {s.fileCount}"
      :: ((s.nodeTypes.mergeSort fun a b => !(decide (b.1 < a.1))).map fun e => s!"  {e.1}: {e.2}")
      ++ edges.map fun e => s!"  {e.1.toJson.plain} edges: {e.2}")

/-- Tell how large a graph is. -/
def runStats (t : Tools) (o : QueryOptions) : Work Output := do
  let (_, store) ← openProject t o.project
  let stats ← wellFormed store.stats
  if o.json then return answerJson stats.toJson
  return answer (← wellFormed (statsLines stats))

/-- Write a graph to a file. Without a path for it, the file is made in the working
    folder and named after the project. -/
def runExport (t : Tools) (focus format : String) (output project : Option String) :
    Work Output := do
  let format := Text.lower format
  if format ≠ "html" ∧ format ≠ "dot" then throw (.refused "Format must be one of: html, dot")
  let (session, store) ← openProject t project
  let path ← match output with
    | some path => pure (Path.spelled path)
    | none => do
      let name := Path.name (session.project.getD "project")
      let name := if name = "" then "project" else name
      pure (Path.under (← get).files.workingFolder s!"{name}_graph.{format}")
  let text ← wellFormed (
    if format = "html" then Html.render store focus else Dot.render store focus)
  Work.writeText path text
  return answer [s!"Exported graph to {path}"]

end SymbolGraph.Command

namespace SymbolGraph

/-- Run a command. -/
def Command.run (t : Tools) : Command → Work Command.Output
  | .analyze path force json => runAnalyze t path force json
  | .load path => runLoad t path
  | .clearCache path => runClearCache t path
  | .listCached json => runListCached t json
  | .currentProject => runCurrentProject t
  | .find query kind o => runFind t query kind o
  | .dependencies id depth o =>
    runConnections t "Dependencies of " "dependencies" "No dependencies found." id depth o
      fun s => s.dependencies (.str id) depth
  | .dependents id depth o =>
    runConnections t "Dependents of " "dependents" "No dependents found." id depth o
      fun s => s.dependents (.str id) depth
  | .callGraph name depth o => runCallGraph t name depth o
  | .fileSymbols file o => runFileSymbols t file o
  | .stats o => runStats t o
  | .exportGraph focus format output project => runExport t focus format output project

end SymbolGraph
