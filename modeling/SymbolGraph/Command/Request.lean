import SymbolGraph.Command.Options
import SymbolGraph.Files
import SymbolGraph.Number.Whole

/-! # Requests

    What the words of a command line ask for. Options before the name of the command
    belong to the program as a whole, those after it to the command. The options that
    are given are checked first, then the argument, and last that there are no further
    arguments.
-/

namespace SymbolGraph

/-- What a query on the current project is given. -/
structure QueryOptions where
  /-- The project to work on, if it is not the current one. -/
  project : Option String := none
  /-- Whether to show the answer as JSON text. -/
  json : Bool := false
deriving DecidableEq, Inhabited, Repr

/-- A command. -/
inductive Command where
  | analyze (path : String) (force json : Bool)
  | load (path : String)
  | clearCache (path : Option String)
  | listCached (json : Bool)
  | currentProject
  | find (query : String) (kind : Option String) (options : QueryOptions)
  | dependencies (id : String) (depth : Int) (options : QueryOptions)
  | dependents (id : String) (depth : Int) (options : QueryOptions)
  | callGraph (name : String) (depth : Int) (options : QueryOptions)
  | fileSymbols (file : String) (options : QueryOptions)
  | stats (options : QueryOptions)
  | exportGraph (focus format : String) (output project : Option String)
deriving DecidableEq, Inhabited, Repr

namespace Command

/-- What a command line asks for. -/
inductive Request where
  | version
  | help
  | run (verbose : Bool) (command : Command)
deriving DecidableEq, Inhabited, Repr

/-! ### Options -/

/-- The option that asks for help. -/
def helpOption : OptionSpec := ⟨"help", ["--help"], false⟩

/-- The options of the program as a whole. -/
def programOptions : List OptionSpec :=
  [⟨"version", ["--version", "-v"], false⟩, ⟨"verbose", ["--verbose"], false⟩, helpOption]

/-- The option for the project to work on. -/
def projectOption : OptionSpec := ⟨"project", ["--project", "-p"], true⟩

/-- The option for answers as JSON text. -/
def jsonOption : OptionSpec := ⟨"json", ["--json"], false⟩

/-- The option for how far to go. -/
def depthOption : OptionSpec := ⟨"depth", ["--depth"], true⟩

/-- The commands with their own options. -/
def commandOptions : List (String × List OptionSpec) := [
    ("analyze", [⟨"force", ["--force", "-f"], false⟩, jsonOption]),
    ("load", []),
    ("clear-cache", []),
    ("list-cached", [jsonOption]),
    ("current-project", []),
    ("find", [⟨"type", ["--type", "-t"], true⟩, projectOption, jsonOption]),
    ("deps", [depthOption, projectOption, jsonOption]),
    ("dependents", [depthOption, projectOption, jsonOption]),
    ("call-graph", [depthOption, projectOption, jsonOption]),
    ("file-symbols", [projectOption, jsonOption]),
    ("stats", [projectOption, jsonOption]),
    ("export-graph", [⟨"format", ["--format", "-f"], true⟩, ⟨"output", ["--output", "-o"], true⟩,
      projectOption])]

/-! ### Values -/

/-- The depths that are allowed. -/
def maxDepth : Int := 10

/-- The depth that is given, or else a default. -/
def depthOf (g : Given) (default : Int) : Except UsageError Int :=
  match g.value? "depth" with
  | none => .ok default
  | some s =>
    match Number.whole? s with
    | some n => if 0 ≤ n ∧ n ≤ maxDepth then .ok n else .error (.badParameter "depth")
    | none => .error (.badParameter "depth")

/-- The argument that a command needs. -/
def required (g : Given) (name : String) : Except UsageError String :=
  match g.arguments with
  | a :: _ => .ok a
  | [] => .error (.missingParameter name)

/-- Check that there are at most so many arguments. -/
def atMost (g : Given) (count : Nat) : Except UsageError Unit :=
  if g.arguments.length ≤ count then .ok () else .error .extraArguments

/-- The options of a query. -/
def queryOptions (g : Given) : QueryOptions :=
  ⟨g.value? "project", g.has "json"⟩

/-- The command that is asked for by its name. Which folders there are decides whether
    a project can be analyzed. -/
def ofGiven (f : Files) (name : String) (g : Given) : Except UsageError Command :=
  match name with
  | "analyze" => do
    let path ← required g "project_path"
    if !f.hasFolder path then throw (.badParameter "project_path")
    atMost g 1
    return .analyze path (g.has "force") (g.has "json")
  | "load" => do
    let path ← required g "project_path"
    atMost g 1
    return .load path
  | "clear-cache" => do
    atMost g 1
    return .clearCache g.arguments.head?
  | "list-cached" => do
    atMost g 0
    return .listCached (g.has "json")
  | "current-project" => do
    atMost g 0
    return .currentProject
  | "find" => do
    let query ← required g "query"
    atMost g 1
    return .find query (g.value? "type") (queryOptions g)
  | "deps" => do
    let depth ← depthOf g 1
    let id ← required g "symbol_id"
    atMost g 1
    return .dependencies id depth (queryOptions g)
  | "dependents" => do
    let depth ← depthOf g 1
    let id ← required g "symbol_id"
    atMost g 1
    return .dependents id depth (queryOptions g)
  | "call-graph" => do
    let depth ← depthOf g 2
    let function ← required g "function_name"
    atMost g 1
    return .callGraph function depth (queryOptions g)
  | "file-symbols" => do
    let file ← required g "file"
    atMost g 1
    return .fileSymbols file (queryOptions g)
  | "stats" => do
    atMost g 0
    return .stats (queryOptions g)
  | "export-graph" => do
    atMost g 1
    return .exportGraph (g.arguments.head?.getD "") ((g.value? "format").getD "html")
      (g.value? "output") (g.value? "project")
  | _ => .error (.noSuchCommand name)

/-- Whether a character may start the name of a command. -/
def startsName (c : Char) : Bool :=
  c.isAlphanum || c.toNat > 0x7f

/-- The command that words ask for, the first being its name. A word that cannot be a
    name is taken for the lack of one. -/
def ofWords (f : Files) (verbose : Bool) : List String → Except UsageError Request
  | [] => .error .missingCommand
  | name :: rest =>
    match commandOptions.lookup name with
    | none =>
      if name.toList.head?.all startsName then .error (.noSuchCommand name)
      else .error .noArguments
    | some specs => do
      let g ← given (helpOption :: specs) true rest
      if g.has "help" then return .help
      return .run verbose (← ofGiven f name g)

/-- What a command line asks for. -/
def request (f : Files) (words : List String) : Except UsageError Request := do
  if words.isEmpty then throw .noArguments
  let g ← given programOptions false words
  match g.options.find? fun o => o.1 == "version" || o.1 == "help" with
  | some o => return if o.1 = "version" then .version else .help
  | none => ofWords f (g.has "verbose") g.arguments

end Command

end SymbolGraph
