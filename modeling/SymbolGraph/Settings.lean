import SymbolGraph.Json.Display
import SymbolGraph.Number.Whole
import SymbolGraph.Toml.Document
import SymbolGraph.Workspace

/-! # Settings

    Where graphs are saved and which files are read is taken from the environment,
    then from the `[graph]` table of a settings file, and then from defaults. A settings
    file that cannot be read is recorded and counts as empty.

    Paths may start with `~`, which stands for the home folder of the user, or with
    `~name` for that of another user. The users that are known and their folders are
    part of the environment.
-/

namespace SymbolGraph

/-- What the surroundings of the program provide. -/
structure Environment where
  values : List (String × String) := []
  /-- The home folders of known users. -/
  users : List (String × String) := []
deriving Inhabited, Repr

/-- Where things are kept, and the most bytes of a file that is read. -/
structure Settings where
  base : String
  cache : String
  maxFileSize : Int
deriving Inhabited, Repr

namespace Settings

/-- The settings file. -/
def file (s : Settings) : String :=
  Path.under s.base "config.toml"

/-- The file that keeps the current project. -/
def stateFile (s : Settings) : String :=
  Path.under s.base "state.json"

/-- Why there are no settings. -/
inductive Fault where
  /-- Whether there is a settings file cannot be told. -/
  | file (fault : Files.Fault)
  /-- A path starts with the home folder of a user who is not known. -/
  | noHome
  /-- The bytes of the settings file spell no text. -/
  | encoding (fault : Text.Utf8.Fault)
  /-- A name in the settings file leads into a value that is no table. -/
  | document (fault : Toml.Fault)
  /-- The path of the folder for graphs is not a text. -/
  | notAPath
  /-- The size is beyond all numbers. -/
  | infinite
deriving Inhabited

/-- The message of a fault that has its own. -/
def Fault.message? : Fault → Option String
  | .file fault => some fault.message
  | .noHome => some "Could not determine home directory."
  | .encoding fault => some fault.message
  | .document _ | .notAPath | .infinite => none

/-! ### The settings file -/

/-- A value with the records that were left on the way to it. -/
abbrev Noted (α : Type) := α × List Record

/-- The record of a settings file that cannot be read. -/
def unreadable (path : String) : Record :=
  ⟨.warning, "config_manager", s!"Ignoring unreadable config file {path}"⟩

/-- The record of a settings file whose `[graph]` is not a table. -/
def notATable (path : String) : Record :=
  ⟨.warning, "config_manager", s!"Section [graph] in {path} is not a table"⟩

/-- All settings of a settings file. A file that is not there has none. -/
def all (f : Files) (path : String) : Except Fault (Noted (List (String × Json))) :=
  match f.has path with
  | .error fault => .error (.file fault)
  | .ok false => .ok ([], [])
  | .ok true =>
    match f.readText path with
    | .error (.encoding fault) => .error (.encoding fault)
    | .error _ => .ok ([], [unreadable path])
    | .ok text =>
      match Toml.parse text with
      | .ok (.obj fields) => .ok (fields, [])
      | .ok _ => .ok ([], [])
      | .error .malformed => .ok ([], [unreadable path])
      | .error fault => .error (.document fault)

/-- The settings of the `[graph]` table. -/
def graph (f : Files) (path : String) : Except Fault (Noted (List (String × Json))) := do
  let (fields, notes) ← all f path
  match Json.field? "graph" fields with
  | none => return ([], notes)
  | some (.obj table) => return (table, notes)
  | some _ => return ([], notes ++ [notATable path])

/-! ### Home folders -/

/-- A path without the slashes at its end; the root stays. -/
def withoutEndSlashes (s : String) : String :=
  let cs := (s.toList.reverse.dropWhile (· = '/')).reverse
  if cs.isEmpty then "/" else String.ofList cs

/-- The home folder that the first name of a path stands for. -/
def homeOf (e : Environment) (name : String) : Except Fault String :=
  if name = "~" then .ok (withoutEndSlashes (e.values.lookup "HOME" |>.getD ""))
  else match e.users.lookup (name.drop 1).toString with
    | some folder => .ok folder
    | none => .error .noHome

/-- A path in which a home folder at the front is written out. -/
def expanded (e : Environment) (path : String) : Except Fault String := do
  match Path.isAbsolute path, Path.parts path with
  | false, name :: rest =>
    if name.toList.head? = some '~' then
      let home ← homeOf e name
      if home.toList.head? = some '~' then throw .noHome
      return Path.under home (Path.joinParts rest)
    else return Path.spelled path
  | _, _ => return Path.spelled path

/-! ### Values -/

/-- The most bytes of a file that is read, if nothing else is said. -/
def defaultMaxFileSize : Int := 5242880

/-- The whole number that a value stands for; `none` if it stands for none. -/
def wholeOf : Json → Except Fault (Option Int)
  | .int i => .ok (some i)
  | .bool b => .ok (some (if b then 1 else 0))
  | .str s => .ok (Number.whole? s)
  | .real (.infinite _) => .error .infinite
  | .real x => .ok x.toInt?
  | _ => .ok none

/-- The most bytes of a file that is read. -/
def sizeSetting (e : Environment) (table : List (String × Json)) : Except Fault (Noted Int) := do
  let value := match e.values.lookup "JSGRAPH_MAX_FILE_SIZE" with
    | some s => Json.str s
    | none => (Json.field? "max_file_size" table).getD (.int defaultMaxFileSize)
  match ← wholeOf value with
  | some i => return (i, [])
  | none => return (defaultMaxFileSize, [⟨.warning, "config",
      s!"Invalid JSGRAPH_MAX_FILE_SIZE value {value.shown}, using {defaultMaxFileSize}"⟩])

/-- The folder that all else is kept in. -/
def baseSetting (e : Environment) : Except Fault String := do
  let home ← expanded e "~"
  expanded e ((e.values.lookup "JSGRAPH_HOME").getD (Path.under home ".jsgraph"))

/-- The folder for saved graphs. -/
def cacheSetting (e : Environment) (base : String) (table : List (String × Json)) :
    Except Fault String :=
  match e.values.lookup "JSGRAPH_CACHE_DIR", Json.field? "cache_dir" table with
  | some s, _ => expanded e s
  | none, some (.str s) => expanded e s
  | none, some _ => .error .notAPath
  | none, none => expanded e (Path.under base "cache")

/-- The settings that hold in an environment. -/
def load (e : Environment) (f : Files) : Except Fault (Noted Settings) := do
  let base ← baseSetting e
  let (table, notes) ← graph f (Path.under base "config.toml")
  let cache ← cacheSetting e base table
  let (size, more) ← sizeSetting e table
  return (⟨base, cache, size⟩, notes ++ more)

end Settings

end SymbolGraph
