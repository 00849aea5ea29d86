import SymbolGraph.Files
import SymbolGraph.Graph.Symbol
import SymbolGraph.Journal
import SymbolGraph.Json.Reader
import SymbolGraph.Text.Newline
import SymbolGraph.Text.Utf8

/-! # Work on files

    Saving and loading graphs reads and writes files, takes the time from a clock and
    leaves log records. A `Workspace` holds these three, and `Work` is what is done in
    one and may fail. What was done before a failure stays done.
-/

namespace SymbolGraph

/-- A saved graph that is there and cannot be read. -/
structure Corruption where
  path : String
  reason : String
deriving DecidableEq, Inhabited, Repr

/-- The message for a saved graph that cannot be read. -/
def Corruption.message (c : Corruption) : String :=
  s!"Corrupted graph cache {c.path}: {c.reason}"

/-- Why a piece of work fails. -/
inductive Failure where
  /-- An operation on files cannot be done. -/
  | file (fault : Files.Fault)
  /-- The bytes of a file spell no text. -/
  | encoding (fault : Text.Utf8.Fault)
  /-- A text is not JSON. -/
  | notJson (message : String)
  /-- A whole number has too many digits. -/
  | tooManyDigits (count : Nat)
  /-- A saved graph is there and cannot be read. -/
  | corrupted (fault : Corruption)
  /-- A graph is needed and none is loaded. -/
  | notLoaded
  /-- A value does not have the form that is needed. -/
  | malformed (fault : Malformed)
  /-- What was asked for cannot be done, for the reason given. -/
  | refused (message : String)
  /-- A text for the screen closes a style that is not open. -/
  | unopenedStyle
  /-- A value for the screen is not a text. -/
  | notAText
deriving Inhabited

/-- The message of a failure that has its own. -/
def Failure.message? : Failure → Option String
  | .file fault => some fault.message
  | .encoding fault => some fault.message
  | .notJson message => some message
  | .tooManyDigits count => some (Json.ReadError.message "" (.tooManyDigits count))
  | .corrupted fault => some fault.message
  | .notLoaded => some "No graph loaded. Analyze or load a project first."
  | .refused message => some message
  | .malformed _ | .unopenedStyle | .notAText => none

/-- The failure to read a JSON text. -/
def Failure.ofReadError (text : String) : Json.ReadError → Failure
  | .fault kind position => .notJson ((Json.ReadError.fault kind position).message text)
  | .tooManyDigits count => .tooManyDigits count

/-- The kinds of failures that are told apart where failures are caught. -/
inductive Failure.Kind where
  | file
  | value
  | attribute
  | type
  | key
  | other
deriving DecidableEq, Inhabited, Repr

/-- The kind of failure that a value of the wrong form is. -/
def Malformed.kind : Malformed → Failure.Kind
  | .notADocument | .unfit => .type
  | .missing _ => .key
  | .fieldless => .attribute

/-- The kind of a failure. -/
def Failure.kind : Failure → Failure.Kind
  | .file _ => .file
  | .encoding _ | .notJson _ | .tooManyDigits _ => .value
  | .malformed fault => fault.kind
  | .corrupted _ | .notLoaded | .refused _ | .unopenedStyle | .notAText => .other

/-- The files, the time on the clock, and the records so far. -/
structure Workspace where
  files : Files := {}
  now : String := ""
  journal : List Record := []
deriving Inhabited

/-- What is done in a workspace and may fail. -/
abbrev Work (α : Type) := ExceptT Failure (StateM Workspace) α

namespace Work

/-- Leave records. -/
def record (rs : List Record) : Work Unit :=
  modify fun w => { w with journal := w.journal ++ rs }

/-- Change the files. -/
def change (f : Files → Except Files.Fault Files) : Work Unit := do
  match f (← get).files with
  | .ok files => modify fun w => { w with files := files }
  | .error fault => throw (.file fault)

/-- Write a file with a text. -/
def writeText (path text : String) : Work Unit :=
  change (·.write path (Text.Utf8.encode text))

/-- Use what may fail without changing anything. -/
def ofExcept {α : Type} : Except Failure α → Work α
  | .ok a => pure a
  | .error e => throw e

/-- Whether a path leads to something. -/
def has (path : String) : Work Bool := do
  ofExcept (((← get).files.has path).mapError .file)

end Work

/-- The text of a file. Every line end is a line feed. -/
def Files.readText (f : Files) (path : String) : Except Failure String := do
  let bytes ← (f.read path).mapError Failure.file
  let text ← (Text.Utf8.decode bytes).mapError Failure.encoding
  return String.ofList (Text.unifyNewlines text.toList)

end SymbolGraph
