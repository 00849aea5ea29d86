import SymbolGraph.Discovery
import SymbolGraph.Facts.Reader
import SymbolGraph.Graph.Resolver
import SymbolGraph.Workspace

/-! # Building the graph of a project

    A project's files are found, read one by one, and linked. What becomes of a file
    depends on that file alone (`Build.outcome`): it is skipped if it is too large, it
    fails if it cannot be read or no grammar is there for it, and otherwise it gives
    its facts. A file that is skipped or fails is reported and leaves the others as
    they are.

    How facts are read is an argument (`Build.Extractor`). Source files are read with the
    grammars that are installed (`Build.sourceExtractor`).

    There is no graph if the files of the project are not known, or if a symbol has a name,
    a file or a superclass that cannot be looked up.
-/

namespace SymbolGraph.Build

/-- Why a file gives no facts. -/
inductive Unreadable where
  | file (fault : Files.Fault)
  | grammar (reason : NoGrammar)
deriving DecidableEq, Inhabited, Repr

/-- The message for a file that gives no facts. -/
def Unreadable.message : Unreadable → String
  | .file fault => fault.message
  | .grammar reason => reason.message

/-- What became of a file. -/
inductive Outcome where
  | skipped (size : Nat)
  | failed (message : String)
  | read (facts : Facts)
deriving Inhabited

/-- The facts of a file that was read. -/
def Outcome.facts? : Outcome → Option Facts
  | .read facts => some facts
  | _ => none

/-- The message for a file that failed. -/
def Outcome.message? : Outcome → Option String
  | .failed message => some message
  | _ => none

/-- Whether a file was skipped. -/
def Outcome.isSkipped : Outcome → Bool
  | .skipped _ => true
  | _ => false

/-! ### One file -/

/-- The text of a file: bytes that spell no character are left out, and every line end
    is a line feed. -/
def textOf (bytes : List UInt8) : String :=
  String.ofList (Text.unifyNewlines (Text.Utf8.decodeLossy bytes).toList)

/-- The facts of a file of a project. The file is read before its dialect is chosen. -/
def factsOf (missing : List String) (disk : Files) (folder file : String) :
    Except Unreadable Facts := do
  let bytes ← (disk.read (Path.under folder file)).mapError .file
  (Extract.ofText missing file (textOf bytes)).mapError .grammar

/-- How the facts of a file of a project are read, or the message why there are none; and
    the name of the grammar that is loaded for a file, if one is. -/
structure Extractor where
  read : (disk : Files) → (folder file : String) → Except String Facts
  grammar? : (file : String) → Option String := fun _ => none
deriving Inhabited

instance : CoeFun Extractor fun _ => Files → String → String → Except String Facts :=
  ⟨Extractor.read⟩

/-- Source files are read with the grammars that are not missing. -/
def sourceExtractor (missing : List String) : Extractor where
  read disk folder file := (factsOf missing disk folder file).mapError Unreadable.message
  grammar? file := (Source.Dialect.ofSuffix? (Path.suffix file)).map (·.name)

/-- How projects are read. -/
structure Options where
  extractor : Extractor := sourceExtractor []
  /-- The most bytes of a file that is read. -/
  limit : Int
deriving Inhabited

/-- Look at a file, and read it unless it is too large. -/
def examine (x : Extractor) (limit : Int) (disk : Files) (folder file : String) :
    Except String Outcome := do
  let entry ← (disk.find (Path.under folder file)).mapError Files.Fault.message
  if (entry.size : Int) > limit then return .skipped entry.size
  else return .read (← x disk folder file)

/-- What becomes of a file of a project. What goes wrong with it is caught. -/
def outcome (x : Extractor) (limit : Int) (disk : Files) (folder file : String) : Outcome :=
  match examine x limit disk folder file with
  | .ok result => result
  | .error message => .failed message

/-- What becomes of a file, case by case. -/
theorem outcome_eq (x : Extractor) (limit : Int) (disk : Files) (folder file : String) :
    outcome x limit disk folder file =
      match disk.find (Path.under folder file) with
      | .error fault => .failed fault.message
      | .ok entry =>
        if (entry.size : Int) > limit then .skipped entry.size
        else match x disk folder file with
          | .ok facts => .read facts
          | .error message => .failed message := by
  unfold outcome examine
  cases disk.find (Path.under folder file) with
  | error fault => rfl
  | ok entry =>
    show (match (if (entry.size : Int) > limit then pure (.skipped entry.size)
        else x disk folder file >>= fun facts => pure (.read facts) : Except String Outcome) with
      | .ok result => result
      | .error message => .failed message) = _
    dsimp only
    by_cases hsize : (entry.size : Int) > limit
    · rw [if_pos hsize, if_pos hsize]
      rfl
    · rw [if_neg hsize, if_neg hsize]
      cases x disk folder file <;> rfl

/-! ### All files -/

/-- What became of files, in the order in which they were read. -/
abbrev Report := List (String × Outcome)

/-- What becomes of some files of a project. -/
def collect (x : Extractor) (limit : Int) (disk : Files) (folder : String)
    (files : List String) : Report :=
  files.map fun file => (file, outcome x limit disk folder file)

namespace Report

/-- What is told of files, by file. -/
def gather {α : Type} (view : Outcome → Option α) (r : Report) : Table String α :=
  Table.ofList (r.filterMap fun e => (view e.2).map fun v => (e.1, v))

/-- The facts of the files that were read. -/
def facts (r : Report) : Table String Facts :=
  r.gather Outcome.facts?

/-- The files that were skipped. -/
def skipped (r : Report) : List String :=
  (r.filter (·.2.isSkipped)).map (·.1)

/-- The messages of the files that failed. -/
def errors (r : Report) : Table String String :=
  r.gather Outcome.message?

end Report

/-- The record of a file that was skipped or failed. -/
def warning? (limit : Int) (file : String) : Outcome → Option Record
  | .skipped size => some ⟨.warning, "resolver",
      s!"Skipping {file}: {size} bytes exceeds maximum file size {limit}"⟩
  | .failed message => some ⟨.warning, "resolver",
      s!"Failed to extract facts from {file}: {message}"⟩
  | .read _ => none

/-- The records about some files. That a grammar was loaded is recorded for the first file
    that was read with it; `loaded` holds the grammars so far. -/
def records (x : Extractor) (limit : Int) (loaded : List String) : Report → List Record
  | [] => []
  | (file, result) :: rest =>
    match warning? limit file result, x.grammar? file with
    | some r, _ => r :: records x limit loaded rest
    | none, some name =>
      if name ∈ loaded then records x limit loaded rest
      else ⟨.debug, "parser", s!"Loaded tree-sitter parser for {name}"⟩ ::
        records x limit (name :: loaded) rest
    | none, none => records x limit loaded rest

/-! ### The graph -/

/-- What is told about a graph that was built. -/
structure Stats where
  nodeCount : Nat := 0
  edgeCount : Nat := 0
  fileCount : Nat := 0
  skipped : List String := []
  errors : Table String String := {}
deriving Inhabited

/-- What is told about a graph that was built, as an object. -/
def Stats.toJson (s : Stats) : Json :=
  .obj [("node_count", .int s.nodeCount), ("edge_count", .int s.edgeCount),
    ("file_count", .int s.fileCount), ("skipped", Json.texts s.skipped),
    ("errors", .obj (s.errors.entries.map fun e => (e.1, .str e.2)))]

/-- A graph that was built, with what became of the files and what is told about it. -/
structure Built where
  report : Report
  store : Store
  stats : Stats
deriving Inhabited

/-- A graph that belongs to a project. -/
def ofProject (project : String) (s : Store) : Store :=
  { s with metadata := { s.metadata with projectPath := .str project } }

/-- A graph with the report it was built from, and the numbers of its files. -/
def counted (r : Report) (store : Store) : Built where
  report := r
  store := store
  stats := {
    nodeCount := store.nodeCount
    edgeCount := store.edgeCount
    fileCount := r.length
    skipped := r.skipped
    errors := r.errors }

/-- Find the files of the project in a folder, and read them. -/
def survey (x : Extractor) (limit : Int) (disk : Files) (folder : String) :
    Except Failure Report := do
  let files ← (Discovery.files {} disk folder).mapError .file
  return collect x limit disk folder files

/-- Link what was read of a project. -/
def assemble (now folder : String) (r : Report) : Except Failure Built := do
  let resolver : Resolver := { files := r.facts }
  let (_, store) ← (resolver.checkedBuild (Store.empty now)).mapError .malformed
  return counted r (ofProject folder store)

/-- The graph of a project with some facts, if they can be linked. -/
def graph (now project : String) (facts : Table String Facts) : Store :=
  ofProject project (Resolver.build ⟨facts, {}⟩ (Store.empty now)).2

/-- What is built from what became of the files, if it can be linked. -/
def link (now folder : String) (r : Report) : Built :=
  counted r (graph now folder r.facts)

/-- Build the graph of the project in a folder. -/
def build (x : Extractor) (limit : Int) (disk : Files) (now folder : String) :
    Except Failure Built := do
  assemble now folder (← survey x limit disk folder)

/-- The record of a graph that was built. -/
def builtRecord (project : String) (s : Stats) : Record :=
  ⟨.info, "resolver",
    s!"Built graph for {project}: {s.nodeCount} nodes, {s.edgeCount} edges, {s.fileCount} files"
      ++ s!" ({s.skipped.length} skipped, {s.errors.size} failed)"⟩

/-- Build the graph of the project in a folder, and leave records about its files. -/
def run (o : Options) (folder : String) : Work Built := do
  let w ← get
  let r ← Work.ofExcept (survey o.extractor o.limit w.files folder)
  Work.record (records o.extractor o.limit [] r)
  let built ← Work.ofExcept (assemble w.now folder r)
  Work.record [builtRecord folder built.stats]
  return built

end SymbolGraph.Build
