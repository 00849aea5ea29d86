import SymbolGraph.Json.Writer
import SymbolGraph.Workspace

/-! # The current project

    Commands work on the project that was last analyzed or loaded, unless they are
    given another one. Its path is kept in a file of its own. A file that is no JSON
    text counts as if there were none.
-/

namespace SymbolGraph

/-- The file that keeps the path of the current project. -/
structure CurrentProject where
  file : String
deriving Inhabited, Repr

namespace CurrentProject

/-- The document that keeps a path. -/
def document (project : Option String) : Json :=
  .obj [("current_project", Json.optText project)]

/-- Set the current project. -/
def set (c : CurrentProject) (project : Option String) : Work Unit := do
  Work.change (·.makeFolder (Path.parent c.file))
  Work.writeText c.file (document project).pretty

/-- Forget the current project. -/
def unload (c : CurrentProject) : Work Unit :=
  c.set none

/-- What the text of the file keeps. -/
def ofText (text : String) : Except Failure Json :=
  match Json.parse text with
  | .error (.fault ..) => .ok .null
  | .error (.tooManyDigits count) => .error (.tooManyDigits count)
  | .ok (.obj fields) => .ok (Json.fieldOrNull "current_project" fields)
  | .ok _ => .error (.malformed .fieldless)

/-- The current project. It is whatever the file keeps, which need not be a path;
    `null` if nothing is kept. -/
def lookup (c : CurrentProject) (f : Files) : Except Failure Json :=
  match f.has c.file with
  | .error fault => .error (.file fault)
  | .ok false => .ok .null
  | .ok true => (f.readText c.file).bind ofText

/-- The current project. -/
def get (c : CurrentProject) : Work Json := do
  Work.ofExcept (c.lookup (← MonadState.get).files)

end CurrentProject

end SymbolGraph
