import SymbolGraph.Build
import SymbolGraph.Cache
import SymbolGraph.Settings

/-! # Sessions

    A session holds at most one graph, that of the project which was last analyzed or
    loaded in it. Analyzing takes the saved graph of the project if there is one that
    can be read, and builds and saves a new one otherwise. Only when this succeeds does
    the session hold the new graph. Sessions know nothing of each other; they share
    the saved graphs.
-/

namespace SymbolGraph

/-- A session. -/
structure Session where
  /-- The most bytes of a file that is read, if it is not that of the settings. -/
  limit : Option Int := none
  store : Option Store := none
  project : Option String := none
deriving Inhabited

/-- What sessions work with. -/
structure Tools where
  settings : Settings
  /-- How the files of projects are read. -/
  extractor : Build.Extractor := Build.sourceExtractor []
  /-- The number of cells of a line of the screen. -/
  screen : Nat := 200
deriving Inhabited

/-- The saved graphs. -/
def Tools.cache (t : Tools) : Cache :=
  ⟨t.settings.cache⟩

/-! ### Results -/

/-- What is told about a graph that was loaded. -/
structure Summary where
  nodeCount : Nat
  edgeCount : Nat
  metadata : Metadata
deriving Inhabited

/-- What is told about a graph. -/
def Store.summary (s : Store) : Summary :=
  ⟨s.nodeCount, s.edgeCount, s.metadata⟩

/-- What is told about a graph that was loaded, as an object. -/
def Summary.toJson (s : Summary) : Json :=
  .obj [("node_count", .int s.nodeCount), ("edge_count", .int s.edgeCount),
    ("metadata", s.metadata.toJson)]

/-- How a project was analyzed. -/
inductive Analyzed where
  | cached (summary : Summary)
  | built (stats : Build.Stats)
deriving Inhabited

namespace Analyzed

/-- The message about a project that was analyzed. -/
def message : Analyzed → String
  | .cached _ => "Project loaded from cache"
  | .built _ => "Project analyzed and cached successfully"

/-- Whether the saved graph was taken. -/
def isCached : Analyzed → Bool
  | .cached _ => true
  | .built _ => false

/-- What is told about the graph, as an object. -/
def statsJson : Analyzed → Json
  | .cached summary => summary.toJson
  | .built stats => stats.toJson

/-- The number of symbols of the graph. -/
def nodeCount : Analyzed → Nat
  | .cached summary => summary.nodeCount
  | .built stats => stats.nodeCount

/-- The number of edges of the graph. -/
def edgeCount : Analyzed → Nat
  | .cached summary => summary.edgeCount
  | .built stats => stats.edgeCount

/-- How a project was analyzed, as an object. -/
def toJson (a : Analyzed) : Json :=
  .obj [("success", .bool true), ("message", .str a.message), ("cached", .bool a.isCached),
    ("stats", a.statsJson)]

end Analyzed

/-- What came of loading a saved graph. -/
inductive Loaded where
  | absent
  | corrupted (reason : String)
  | loaded (summary : Summary)
deriving Inhabited

namespace Loaded

/-- The message about a saved graph. -/
def message : Loaded → String
  | .absent => "No cached graph found for this project"
  | .corrupted reason => s!"Cached graph is corrupted: {reason}"
  | .loaded _ => "Graph loaded from cache"

/-- What came of loading a saved graph, as an object. -/
def toJson (l : Loaded) : Json :=
  match l with
  | .loaded summary => .obj [("success", .bool true), ("message", .str l.message),
      ("stats", summary.toJson)]
  | _ => .obj [("success", .bool false), ("message", .str l.message)]

end Loaded

/-- What came of deleting saved graphs. -/
inductive Cleared where
  | all (count : Nat)
  | one (found : Bool)
deriving DecidableEq, Inhabited, Repr

namespace Cleared

/-- The message about graphs that were deleted. -/
def message : Cleared → String
  | .all count => s!"Cleared {count} cached graphs"
  | .one true => "Cache cleared for project"
  | .one false => "No cache found for project"

/-- Whether something was there to delete; deleting all always succeeds. -/
def success : Cleared → Bool
  | .all _ => true
  | .one found => found

/-- What came of deleting saved graphs, as an object. -/
def toJson (c : Cleared) : Json :=
  .obj [("success", .bool c.success), ("message", .str c.message)]

end Cleared

/-- Saved graphs as an object. -/
def listingJson (graphs : List SavedGraph) : Json :=
  .obj [("count", .int graphs.length), ("cached_graphs", .arr (graphs.map (·.toJson)))]

/-! ### Working in a session -/

/-- The working folder as a path. -/
def Files.workingFolder (f : Files) : String :=
  "/" ++ Path.joinParts f.here

/-- The path that a project is known by. -/
def projectKey (path : String) : Work String := do
  return Path.absolute (← get).files.workingFolder path

namespace Session

/-- The session with another graph. -/
def become (s : Session) (store : Store) (project : String) : Session :=
  { s with store := some store, project := some project }

/-- The saved graph of a project. One that cannot be read is recorded and counts as
    absent. -/
def savedOrRecorded (t : Tools) (project : String) : Work (Option Store) := do
  match t.cache.lookup (← get).files project with
  | .error (.corrupted fault) =>
    Work.record [⟨.warning, "orchestrator", s!"{fault.message}; rebuilding"⟩]
    return none
  | _ => t.cache.load project

/-- How a session reads projects. -/
def options (s : Session) (t : Tools) : Build.Options :=
  ⟨t.extractor, s.limit.getD t.settings.maxFileSize⟩

/-- Build the graph of a project and save it. -/
def rebuild (t : Tools) (s : Session) (project : String) : Work (Session × Analyzed) := do
  let built ← Build.run (s.options t) project
  let (store, _) ← t.cache.save built.store project
  return (s.become store project, .built built.stats)

/-- Analyze a project. With `force` its saved graph is not looked at. -/
def analyze (t : Tools) (s : Session) (path : String) (force : Bool) :
    Work (Session × Analyzed) := do
  let project ← projectKey path
  let saved ← if force then pure none else savedOrRecorded t project
  match saved with
  | some store => return (s.become store project, .cached store.summary)
  | none => rebuild t s project

/-- Load the saved graph of a project. -/
def loadCached (t : Tools) (s : Session) (path : String) : Work (Session × Loaded) := do
  let project ← projectKey path
  match t.cache.lookup (← get).files project with
  | .error (.corrupted fault) =>
    Work.record [⟨.warning, "orchestrator", fault.message⟩]
    return (s, .corrupted fault.reason)
  | _ =>
    match ← t.cache.load project with
    | none => return (s, .absent)
    | some store => return (s.become store project, .loaded store.summary)

/-- Delete the saved graph of a project, or all saved graphs. -/
def clearCache (t : Tools) (path : Option String) : Work Cleared := do
  match path with
  | none => return .all (← t.cache.deleteAll)
  | some path => return .one (← t.cache.delete (← projectKey path))

/-- The graph of a session. -/
def graph (s : Session) : Except Failure Store :=
  match s.store with
  | some store => .ok store
  | none => .error .notLoaded

end Session

end SymbolGraph
