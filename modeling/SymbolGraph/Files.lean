import SymbolGraph.Graph.Table
import SymbolGraph.Path
import SymbolGraph.Text.Quoted

/-! # Files and folders

    A `Files` value is what is stored on a disk: for each place, whether there is a
    file with its bytes or a folder. A place is the list of names that leads to it from
    the root, so all files below a folder are the places that start with the folder's.
    The root itself is always a folder.

    Paths are texts. A path is followed from the root or from the working folder, name
    by name, and every name but the last must be that of a folder; a double dot goes
    back to the folder above. Operations that cannot be done say why, and for which
    path.

    Not everything that is stored can be used. What the system lets one do is part of the
    disk (`Files.Access`): a place may be out of reach, a file may be there and not be
    readable, and the names in a folder may be kept from being listed.
-/

namespace SymbolGraph

/-- The names that lead from the root to a file or folder. -/
abbrev Place := List String

/-- What is stored at a place. -/
inductive Entry where
  | file (bytes : List UInt8)
  | folder
deriving DecidableEq, Inhabited

/-- The number of bytes that an entry takes; a folder takes one block. -/
def Entry.size : Entry → Nat
  | .file bytes => bytes.length
  | .folder => 4096

namespace Files

/-! ### What the system lets one do -/

/-- What is done at a place: look at what is stored there, read it, or change it. -/
inductive Act where
  | look
  | read
  | write
deriving DecidableEq, Inhabited, Repr

/-- Why the system refuses to do something, whatever is stored at the place. -/
inductive Refusal where
  | denied
  | tooLong
deriving DecidableEq, Inhabited, Repr

/-- What the system refuses, and which folders keep their names from being listed. -/
structure Access where
  refuses : Act → Place → Option Refusal := fun _ _ => none
  closed : Place → Bool := fun _ => false
deriving Inhabited

/-- Everything is allowed, but no name may have more than some number of bytes. -/
def Access.limited (bytes : Nat) : Access where
  refuses _ p := if p.any fun name => name.utf8ByteSize > bytes then some .tooLong else none

end Files

/-- The files and folders of a disk, the folder at which relative paths start, and what the
    system lets one do. -/
structure Files where
  here : Place := []
  entries : Table Place Entry := {}
  access : Files.Access := {}
deriving Inhabited

namespace Files

/-- Why an operation on files cannot be done. -/
inductive Reason where
  | missing
  | occupied
  | notAFolder
  | isAFolder
  | refused (why : Refusal)
deriving DecidableEq, Inhabited, Repr

/-- An operation that cannot be done, with the path it was for. -/
structure Fault where
  reason : Reason
  path : String
deriving DecidableEq, Inhabited, Repr

/-- Whether the system refused. -/
def Reason.isRefusal : Reason → Bool
  | .refused _ => true
  | _ => false

/-- The number under which a reason is known. -/
def Reason.code : Reason → Nat
  | .missing => 2
  | .occupied => 17
  | .notAFolder => 20
  | .isAFolder => 21
  | .refused .denied => 13
  | .refused .tooLong => 36

/-- The text for a reason. -/
def Reason.message : Reason → String
  | .missing => "No such file or directory"
  | .occupied => "File exists"
  | .notAFolder => "Not a directory"
  | .isAFolder => "Is a directory"
  | .refused .denied => "Permission denied"
  | .refused .tooLong => "File name too long"

/-- The message for an operation that cannot be done. -/
def Fault.message (f : Fault) : String :=
  s!"[Errno {f.reason.code}] {f.reason.message}: {Text.quoted f.path}"

/-! ### Looking -/

/-- What is stored at a place. -/
def at? (f : Files) (p : Place) : Option Entry :=
  if p = [] then some .folder else f.entries.get? p

/-- One name further from a place. -/
def onward (p : Place) (name : String) : Place :=
  if name = ".." then p.dropLast else p ++ [name]

/-- Follow names from a place. Every place on the way must be within reach. -/
def follow (f : Files) (p : Place) : List String → Except Reason Place
  | [] => .ok p
  | name :: rest =>
    match f.at? p with
    | none => .error .missing
    | some (.file _) => .error .notAFolder
    | some .folder =>
      match f.access.refuses .look (onward p name) with
      | some why => .error (.refused why)
      | none => f.follow (onward p name) rest

/-- Where a path starts. -/
def start (f : Files) (path : String) : Place :=
  if Path.isAbsolute path then [] else f.here

/-- The place that a path leads to. -/
def place (f : Files) (path : String) : Except Fault Place :=
  (f.follow (f.start path) (Path.parts path)).mapError (⟨·, path⟩)

/-- What a path leads to. -/
def find (f : Files) (path : String) : Except Fault Entry := do
  match f.at? (← f.place path) with
  | some e => return e
  | none => throw ⟨.missing, path⟩

/-- Go on, unless the system refuses to do something at a place. -/
def allow (f : Files) (a : Act) (path : String) (p : Place) : Except Fault Unit :=
  match f.access.refuses a p with
  | some why => .error ⟨.refused why, path⟩
  | none => .ok ()

/-- What is found, or `none` where nothing is there. A refusal leaves that open. -/
def ifThere {α : Type} : Except Fault α → Except Fault (Option α)
  | .ok a => .ok (some a)
  | .error fault => if fault.reason.isRefusal then .error fault else .ok none

/-- Whether a path leads to a file or folder. -/
def has (f : Files) (path : String) : Except Fault Bool :=
  (ifThere (f.find path)).map Option.isSome

/-- The place of the folder that a path leads to; `none` if it leads to no folder. -/
def folderAt (f : Files) (path : String) : Except Fault (Option Place) :=
  (ifThere (f.place path)).map (·.filter fun p => f.at? p = some .folder)

/-- Whether a path is sure to lead to a folder. -/
def hasFolder (f : Files) (path : String) : Bool :=
  match f.folderAt path with
  | .ok (some _) => true
  | _ => false

/-- The bytes of a file. -/
def read (f : Files) (path : String) : Except Fault (List UInt8) := do
  match ← f.find path with
  | .file bytes =>
    f.allow .read path (← f.place path)
    return bytes
  | .folder => throw ⟨.isAFolder, path⟩

/-- All that is stored below a place, by the names that lead to it from there. -/
def below (f : Files) (p : Place) : List (Place × Entry) :=
  f.entries.entries.filterMap fun e =>
    if p.isPrefixOf e.1 && p.length < e.1.length then some (e.1.drop p.length, e.2) else none

/-- Whether names lead from a place through folders that can all be listed. -/
def shows (f : Files) (p : Place) (names : List String) : Bool :=
  (List.range names.length).all fun k => !f.access.closed (p ++ names.take k)

/-- All that is listed below a place, going into folder after folder. -/
def listed (f : Files) (p : Place) : List (Place × Entry) :=
  (f.below p).filter fun e => f.shows p e.1

/-- The names in the folder that a path leads to, as far as they are listed. -/
def names (f : Files) (path : String) : List String :=
  match f.folderAt path with
  | .ok (some p) =>
    if f.access.closed p then []
    else (f.below p).filterMap fun e =>
      match e.1 with
      | [name] => some name
      | _ => none
  | _ => []

/-! ### Changing -/

/-- Store something at a place. -/
def put (f : Files) (p : Place) (e : Entry) : Files :=
  { f with entries := f.entries.insert p e }

/-- Write a file. The folder it goes to must be there. -/
def write (f : Files) (path : String) (bytes : List UInt8) : Except Fault Files := do
  let p ← f.place path
  match f.at? p with
  | some .folder => throw ⟨.isAFolder, path⟩
  | _ =>
    f.allow .write path p
    return f.put p (.file bytes)

/-- Make the folders that names lead through, from a place on. -/
def makeFrom (f : Files) (p : Place) : List String → Except Reason Files
  | [] => .ok f
  | name :: rest =>
    let q := onward p name
    match f.access.refuses .look q, f.at? q with
    | some why, _ => .error (.refused why)
    | none, some .folder => f.makeFrom q rest
    | none, some (.file _) => .error (if rest.isEmpty then .occupied else .notAFolder)
    | none, none =>
      match f.access.refuses .write q with
      | some why => .error (.refused why)
      | none => (f.put q .folder).makeFrom q rest

/-- Make a folder, and the folders above it, where they are not there yet. -/
def makeFolder (f : Files) (path : String) : Except Fault Files :=
  (f.makeFrom (f.start path) (Path.parts path)).mapError (⟨·, path⟩)

/-- Take away all that is stored at a place and below it. -/
def clear (f : Files) (p : Place) : Files :=
  { f with entries := f.entries.filter fun e => !p.isPrefixOf e }

/-- Delete a file. -/
def delete (f : Files) (path : String) : Except Fault Files := do
  match ← f.find path with
  | .folder => throw ⟨.isAFolder, path⟩
  | .file _ =>
    let p ← f.place path
    f.allow .write path p
    return f.clear p

end Files

end SymbolGraph
