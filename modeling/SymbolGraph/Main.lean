import Std.Time.DateTime.Timestamp
import SymbolGraph.Clock
import SymbolGraph.Command.Run

/-! # The program

    The command line program. What a command needs of the disk is read, the command
    is run, and what it changed is written back: the folder with the settings and the
    saved graphs is read as a whole, and of the folders and files that are named on
    the command line what a command may look at.
-/

namespace SymbolGraph.Main

/-- Something on the disk, by the folder it is in and its name. -/
abbrev OnDisk := IO.FS.DirEntry

/-- The most bytes of a name on the disk. -/
def nameLimit : Nat := 255

/-- What a path leads to. -/
def onDisk (path : String) : OnDisk :=
  ⟨path, "."⟩

/-- The places above a place, from the root on. -/
def above (p : Place) : List Place :=
  (List.range p.length).map p.take

/-- Files with another entry and the folders above it. -/
def withEntry (f : Files) (p : Place) (e : Entry) : Files :=
  ((above p).foldl (fun f q => if q = [] then f else f.put q .folder) f).put p e

/-- Read a file or a folder with all that is in it and wanted. -/
partial def readTree (wanted : String → Bool) (f : Files) (p : Place) : IO Files := do
  let path := "/" ++ Path.joinParts p
  if !(← (onDisk path).root.pathExists) then return f
  if ← (onDisk path).root.isDir then
    let inside ← (onDisk path).root.readDir
    let start := if p = [] then f else withEntry f p .folder
    inside.foldlM (fun f e =>
      if wanted e.fileName then readTree wanted f (p ++ [e.fileName]) else pure f) start
  else
    let bytes ← IO.FS.readBinFile path
    return withEntry f p (.file bytes.toList)

/-- Whether a name may be that of a file or folder of a project. -/
def inProject (name : String) : Bool :=
  let filter : Discovery.Filter := {}
  !Discovery.isHidden name && !filter.ignored.contains name

/-- The folders above a place that are there. -/
def readAbove (f : Files) (p : Place) : IO Files :=
  (above p).foldlM (fun f q => do
    if q ≠ [] && (← (onDisk ("/" ++ Path.joinParts q)).root.isDir) then return f.put q .folder
    else return f) f

/-- Write what differs from what was read. -/
def writeBack (before after : Files) : IO Unit := do
  for (p, e) in after.entries.entries do
    if before.at? p ≠ some e then
      let path := "/" ++ Path.joinParts p
      match e with
      | .folder => IO.FS.createDirAll path
      | .file bytes => IO.FS.writeBinFile path ⟨bytes.toArray⟩
  for (p, _) in before.entries.entries do
    if (after.at? p).isNone then IO.FS.removeFile ("/" ++ Path.joinParts p)

/-- The variables of the surroundings that matter. -/
def environment : IO Environment := do
  let names := ["HOME", "JSGRAPH_HOME", "JSGRAPH_CACHE_DIR", "JSGRAPH_MAX_FILE_SIZE"]
  let values ← names.filterMapM fun name => do
    return (← IO.getEnv name).map fun value => (name, value)
  return { values := values }

/-- The time on the clock. -/
def now : IO String := do
  let t ← Std.Time.Timestamp.now
  return Clock.render t.val.second.val.toNat (t.val.nano.val.toNat / 1000)

/-- What is told about a command line that is not understood. -/
def usageLine : Command.UsageError → String
  | .noArguments | .missingCommand => "Missing command."
  | .noSuchOption name => s!"No such option: {name}"
  | .badOptionUsage name => s!"Option '{name}' is not used as it should be."
  | .missingParameter name => s!"Missing argument '{name}'."
  | .badParameter name => s!"Invalid value for '{name}'."
  | .noSuchCommand name => s!"No such command '{name}'."
  | .extraArguments => "Got unexpected extra arguments."

/-- The names of the commands. -/
def helpText : String :=
  "Commands: " ++ String.intercalate ", " (Command.commandOptions.map (·.1)) ++ "\n"

/-- Run a command on what was read of the disk. -/
def runOn (settings : Settings) (f : Files) (words : List String) : IO UInt32 := do
  match Command.request f words with
  | .error e =>
    IO.eprintln (usageLine e)
    return 2
  | .ok .version =>
    IO.println Command.versionLine
    return 0
  | .ok .help =>
    IO.print helpText
    return 0
  | .ok (.run verbose command) =>
    let (result, w) := ((command.run { settings := settings }).run { files := f, now := ← now }).run
    for line in recordLines (if verbose then .debug else .warning) w.journal do IO.eprintln line
    writeBack f w.files
    match result with
    | .ok output =>
      IO.print output.out
      IO.eprint output.err
      return output.exit.toUInt32
    | .error e =>
      IO.eprintln (e.message?.getD "The saved data does not have the form that is needed.")
      return match e with
        | .refused _ => 2
        | _ => 1

/-- Read what is needed, and run what the command line asks for. -/
def start (words : List String) : IO UInt32 := do
  let here := Path.parts (← IO.currentDir).toString
  let bare ← readAbove { here := here, access := .limited nameLimit } (here ++ [""])
  let e ← environment
  let place (path : String) : Place := Path.parts (Path.absolute bare.workingFolder path)
  let base := (Settings.baseSetting e).toOption.getD "."
  let f ← readTree (fun _ => true) (← readAbove bare (place base)) (place base)
  match Settings.load e f with
  | .error fault =>
    IO.eprintln (fault.message?.getD "The settings do not have the form that is needed.")
    return 1
  | .ok (settings, notes) =>
    for line in recordLines .warning notes do IO.eprintln line
    let f ← readTree (fun _ => true) f (place settings.cache)
    let f ← words.foldlM (fun f word => do
      readTree inProject (← readAbove f (place word)) (place word)) f
    runOn settings f words

end SymbolGraph.Main

/-- The command line program. -/
def main (words : List String) : IO UInt32 :=
  SymbolGraph.Main.start words
