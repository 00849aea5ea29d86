/-! # Paths

    Paths are texts with slashes between their components. Two ways of tidying a path
    are used, and they differ:

    * `Path.spelled` drops empty components and single dots, and keeps double dots.
      It is how a path that was given is written.
    * `Path.normalised` also resolves double dots against the component before them.
      `Path.absolute` does so from a working directory, and is how a project is
      known.
-/

namespace SymbolGraph.Path

/-- The components of a text between its slashes. -/
def split (s : String) : List String :=
  (s.toList.splitOn '/').map String.ofList

/-- Components with slashes between them. -/
def joinParts (parts : List String) : String :=
  String.intercalate "/" parts

/-- Whether a path starts at the root. -/
def isAbsolute (s : String) : Bool :=
  s.toList.head? == some '/'

/-- The slashes at the front of an absolute path that are kept: one, or two if there
    are exactly two. -/
def root (s : String) : String :=
  match s.toList with
  | '/' :: '/' :: '/' :: _ => "/"
  | '/' :: '/' :: _ => "//"
  | '/' :: _ => "/"
  | _ => ""

/-- The components of a path without empty ones and single dots. -/
def parts (s : String) : List String :=
  (split s).filter fun p => p ≠ "" && p ≠ "."

/-- A path as it is written. -/
def spelled (s : String) : String :=
  let body := root s ++ joinParts (parts s)
  if body = "" then "." else body

/-- One path below another; an absolute path stands for itself. -/
def under (base s : String) : String :=
  if isAbsolute s then spelled s
  else if base = "" then spelled s
  else spelled (base ++ "/" ++ s)

/-- The last component of a path. -/
def name (s : String) : String :=
  (parts s).getLast?.getD ""

/-- The folder that a path is in. -/
def parent (s : String) : String :=
  let body := root s ++ joinParts (parts s).dropLast
  if body = "" then "." else body

/-- The suffix of a name: the text from its last dot, if that dot is neither the first
    nor the last character. -/
def suffixOfName (n : String) : String :=
  let cs := n.toList
  let tail := (cs.reverse.takeWhile (· ≠ '.')).reverse
  let before := cs.length - tail.length
  if tail.isEmpty ∨ before ≤ 1 then "" else String.ofList ('.' :: tail)

/-- The suffix of a path's last component. -/
def suffix (s : String) : String :=
  suffixOfName (name s)

/-! ### Resolving double dots -/

/-- Go through components from the first to the last, dropping empty ones and single
    dots and letting a double dot take back the component before it. A double dot
    with nothing before it is kept, unless the path starts at the root. `done` holds
    the components so far, last first. -/
def resolveDots (absolute : Bool) (done : List String) : List String → List String
  | [] => done.reverse
  | p :: rest =>
    if p = "" ∨ p = "." then resolveDots absolute done rest
    else if p = ".." then
      match done with
      | [] => if absolute then resolveDots absolute [] rest else resolveDots absolute [".."] rest
      | q :: more =>
        if q = ".." then resolveDots absolute (".." :: done) rest
        else resolveDots absolute more rest
    else resolveDots absolute (p :: done) rest

/-- A path with its double dots resolved. -/
def normalised (s : String) : String :=
  let body := root s ++ joinParts (resolveDots (isAbsolute s) [] (split s))
  if body = "" then "." else body

/-- The part of a path before its last component, as text. -/
def directory (s : String) : String :=
  let cs := s.toList
  let head := (cs.reverse.dropWhile (· ≠ '/')).reverse
  if head.all (· = '/') then String.ofList head
  else String.ofList ((head.reverse.dropWhile (· = '/')).reverse)

/-- Two texts joined as paths, without tidying either. -/
def joined (base s : String) : String :=
  if isAbsolute s then s
  else if base = "" then s
  else if base.toList.getLast? == some '/' then base ++ s
  else base ++ "/" ++ s

/-- The absolute path that a path means in a working directory. -/
def absolute (workingDirectory s : String) : String :=
  let full := if isAbsolute s then s else workingDirectory ++ "/" ++ s
  "/" ++ joinParts (resolveDots true [] (split full))

end SymbolGraph.Path
