import SymbolGraph.Facts.Extract
import SymbolGraph.Path
import SymbolGraph.Source.Grammar.Statements

/-! # Facts of a source text

    The suffix of a file's name decides in which dialect its text is read. A dialect
    needs its grammar package; which packages are missing is an argument, so that
    what happens without them can be told.
-/

namespace SymbolGraph

/-- Why the text of a file cannot be read. -/
inductive NoGrammar where
  /-- No dialect is known for files with this suffix. -/
  | unmapped (suffix : String)
  /-- The package with the grammar is missing. -/
  | notInstalled (package : String)
deriving DecidableEq, Inhabited, Repr

namespace NoGrammar

/-- The name under which a package is installed. -/
def installName (package : String) : String :=
  String.ofList (package.toList.map fun c => if c = '_' then '-' else c)

/-- The message for a missing grammar. -/
def message : NoGrammar → String
  | .unmapped suffix => s!"No grammar mapped for '{suffix}' files"
  | .notInstalled package =>
    s!"Grammar package '{package}' is not installed. Install with: pip install "
      ++ installName package

end NoGrammar

namespace Extract

/-- The dialect of a file. -/
def dialectOf (missing : List String) (path : String) : Except NoGrammar Source.Dialect :=
  match Source.Dialect.ofSuffix? (Path.suffix path) with
  | none => .error (.unmapped (Path.suffix path))
  | some d => if missing.contains d.package then .error (.notInstalled d.package) else .ok d

/-- The facts of the text of a file. The rows of its tree are numbers of 32 bits. -/
def ofText (missing : List String) (path text : String) : Except NoGrammar Facts := do
  let d ← dialectOf missing path
  return facts path (Source.Grammar.parse d text).wrapRows

/-- The facts of a tree that stands for the text of a file. -/
def ofTree (missing : List String) (path : String) (t : Source.Tree) : Except NoGrammar Facts := do
  let _ ← dialectOf missing path
  return facts path t

end Extract

end SymbolGraph
