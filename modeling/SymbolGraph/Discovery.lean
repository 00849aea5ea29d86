import SymbolGraph.Files

/-! # Finding the files of a project

    A project's files are those below its folder whose suffix is wanted. Left out are
    files below a folder with an ignored name, and files with a name that starts with
    a dot anywhere on the way. What the project's own folder is called does not
    matter.

    Folders that cannot be listed are passed over. But whatever is listed and has a wanted
    suffix is looked at, to tell files from folders, even if it is left out afterwards; if
    the system refuses that, the project's files are not known.
-/

namespace SymbolGraph.Discovery

/-- Which files are wanted. -/
structure Filter where
  /-- The suffixes of wanted files. -/
  suffixes : List String := [".js", ".jsx", ".ts", ".tsx", ".mjs"]
  /-- The names of folders whose files are left out. -/
  ignored : List String := ["node_modules", ".git", "dist", "build", ".next", "coverage"]
deriving Inhabited, Repr

/-- Whether a name starts with a dot. -/
def isHidden (name : String) : Bool :=
  name.toList.head? == some '.'

/-- Whether the name of what is stored at a place has a wanted suffix. -/
def Filter.suits (f : Filter) (p : Place) : Bool :=
  f.suffixes.contains (Path.suffixOfName (p.getLast?.getD ""))

/-- Whether what is stored at a place below a project's folder is one of its files. -/
def Filter.wants (f : Filter) (p : Place) (e : Entry) : Bool :=
  match e with
  | .folder => false
  | .file _ => f.suits p && !p.dropLast.any f.ignored.contains && !p.any isHidden

/-- The order of paths as texts. -/
def comesFirst (a b : String) : Bool :=
  !(decide (b < a))

/-- The wanted files among what is listed below the place of a project's folder. -/
def sift (f : Filter) (disk : Files) (folder : String) (p : Place) :
    List (Place × Entry) → Except Files.Fault (List String)
  | [] => .ok []
  | (r, e) :: rest => do
    if f.suits r then disk.allow .look (Path.under folder (Path.joinParts r)) (p ++ r)
    let found ← sift f disk folder p rest
    return if f.wants r e then Path.joinParts r :: found else found

/-- The files of the project in a folder, as sorted paths from there. -/
def files (f : Filter) (disk : Files) (folder : String) : Except Files.Fault (List String) := do
  match ← disk.folderAt folder with
  | some p => return (← sift f disk folder p (disk.listed p)).mergeSort comesFirst
  | none => return []

end SymbolGraph.Discovery
