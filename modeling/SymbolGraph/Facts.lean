import SymbolGraph.Graph.Symbol

/-! # Facts about one file

    What can be read off one source file by itself: the symbols it declares, what it
    imports and exports, and what it calls, each in the order of the text. Facts of
    different files are linked later.
-/

namespace SymbolGraph

/-- A name that a file imports. -/
structure Import where
  source : String
  /-- The name in the module it comes from: `default`, `*` or a name. -/
  imported : String
  /-- The name in the importing file. -/
  binding : String
  line : Int
deriving DecidableEq, Inhabited, Repr

/-- Whether an import takes the default export of a module. -/
def Import.isDefault (i : Import) : Bool :=
  i.imported == "default"

/-- A name that a file exports. -/
structure Export where
  exported : String
  line : Int
  /-- The name inside the file, for a name that is exported from a list. -/
  binding : Option String := none
deriving DecidableEq, Inhabited, Repr

/-- A call. The name is that of a function, or of an object and its member. -/
structure Call where
  name : String
  line : Int
  arguments : Int := 0
deriving DecidableEq, Inhabited, Repr

/-- The facts about one file. -/
structure Facts where
  symbols : List Symbol := []
  imports : List Import := []
  exports : List Export := []
  calls : List Call := []
deriving Inhabited, Repr

namespace Facts

/-- Whether a file has a default export. -/
def hasDefaultExport (f : Facts) : Bool :=
  f.exports.any (·.exported == "default")

end Facts

end SymbolGraph
