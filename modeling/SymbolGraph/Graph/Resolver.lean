import SymbolGraph.Facts
import SymbolGraph.Graph.Store
import SymbolGraph.Path

/-! # Linking the facts of files

    A `Resolver` turns the facts of all files of a project into a graph. All symbols
    become nodes. Then, file by file, edges are added:

    * from the line of an import to the symbols of the imported file that have the
      imported name, or to all of them for a default import;
    * from the line of a call to every function of the called name, in any file;
    * from a class to every class with the name that it extends.

    What cannot be found is left out. What cannot even be looked up is an error
    (`Resolver.checkedBuild`). Functions and classes are found by an index from
    kind and name to ids. The index belongs to the resolver and not to the graph: it
    grows with every graph that the resolver builds.
-/

namespace SymbolGraph

/-- The id of the line of an import. -/
def importSite (file : String) (line : Int) : Key :=
  .str (file ++ ":import:" ++ toString line)

/-- The id of the line of a call. -/
def callSite (file : String) (line : Int) : Key :=
  .str (file ++ ":" ++ toString line)

/-- What the name of a symbol is looked up by. -/
abbrev NameKey := Kind × Key

/-- The facts of a project and the index of its names. -/
structure Resolver where
  files : Table String Facts
  names : Table NameKey (List Key) := {}
deriving Inhabited

namespace Resolver

/-- The endings that are tried after the path of an import, in this order. -/
def endings : List String := [".js", ".ts", ".jsx", ".tsx", "/index.js", "/index.ts"]

/-- The file that an import means, if it is given by a relative path and is one of
    the project's files. -/
def importedFile? (r : Resolver) (importer source : String) : Option String :=
  if source.toList.head? == some '.' then
    let base := Path.normalised (Path.joined (Path.directory importer) source)
    (endings.map (base ++ ·)).find? r.files.contains
  else none

/-- Add a symbol to the graph and its name to the index. A name that is no key cannot
    be looked up, and is not listed. -/
def addSymbol (rs : Resolver × Store) (node : Symbol) : Resolver × Store :=
  let (r, s) := rs
  let id := Key.str node.id
  let names := match Key.ofJson? node.name with
    | some name => r.names.alter (node.kind, name) fun ids => ids.getD [] ++ [id]
    | none => r.names
  ({ r with names := names }, s.addNode id node)

/-- Add the symbols of all files. -/
def addSymbols (r : Resolver) (s : Store) : Resolver × Store :=
  (r.files.values.flatMap (·.symbols)).foldl addSymbol (r, s)

/-- The ids listed for a kind and a name that are symbols of the graph. -/
def candidates (r : Resolver) (s : Store) (kind : Kind) (name : Json) : List Key :=
  match Key.ofJson? name with
  | some name => ((r.names.get? (kind, name)).getD []).filter s.nodes.contains
  | none => []

/-- The symbols of a file that an import of it means. -/
def importTargets (target : Facts) (i : Import) : List Symbol :=
  target.symbols.filter fun node =>
    (match node.name with
      | .str name => name == i.binding
      | _ => false) || (i.isDefault && target.hasDefaultExport)

/-- The edges of an import. -/
def importEdges (r : Resolver) (s : Store) (file : String) (i : Import) : List Edge :=
  match (r.importedFile? file i.source).bind r.files.get? with
  | some target =>
    (((importTargets target i).map fun node => Key.str node.id).filter s.nodes.contains).map
      fun id => ⟨importSite file i.line, id, .str "imports"⟩
  | none => []

/-- The edges of a call. -/
def callEdges (r : Resolver) (s : Store) (file : String) (c : Call) : List Edge :=
  (r.candidates s .function (.str c.name)).map fun id => ⟨callSite file c.line, id, .str "calls"⟩

/-- The edges of a class that extends another. -/
def extendsEdges (r : Resolver) (s : Store) (node : Symbol) : List Edge :=
  match node.superclass? with
  | some name =>
    (r.candidates s .klass name).map fun id => ⟨.str node.id, id, .str "extends"⟩
  | none => []

/-- The edges of a file: of its imports, then its calls, then its classes. -/
def fileEdges (r : Resolver) (s : Store) (file : String) (f : Facts) : List Edge :=
  f.imports.flatMap (r.importEdges s file) ++ f.calls.flatMap (r.callEdges s file)
    ++ f.symbols.flatMap (r.extendsEdges s)

/-- Add the symbols and edges of all files to a graph. -/
def build (r : Resolver) (s : Store) : Resolver × Store :=
  let (r, s) := r.addSymbols s
  (r, (r.files.entries.flatMap fun e => r.fileEdges s e.1 e.2).foldl Store.addEdge s)

/-- Whether all names, files and superclasses of a project's symbols can be looked up. -/
def isFit (r : Resolver) : Bool :=
  (r.files.values.flatMap (·.symbols)).all fun node =>
    (Key.ofJson? node.name).isSome && (Key.ofJson? node.file).isSome &&
      (match node.superclass? with
        | some name => (Key.ofJson? name).isSome
        | none => true)

/-- Add the symbols and edges of all files to a graph, if they can all be looked up. -/
def checkedBuild (r : Resolver) (s : Store) : Except Malformed (Resolver × Store) :=
  if r.isFit then .ok (r.build s) else .error .unfit

end Resolver

end SymbolGraph
