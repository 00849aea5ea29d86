import SymbolGraph.Facts
import SymbolGraph.Source.Tree

/-! # Facts of a source tree

    Every node of a tree reports the facts of its own: `Extract.own`. The facts of a
    file are those of its nodes in pre-order, found by `Extract.walk` with a stack of
    the trees still to visit. A class, an import or an export looks at its children
    for its own facts, and its children are visited all the same.
-/

namespace SymbolGraph.Extract

open Source

/-! ### Declarations -/

/-- The function that a node declares, if it has a name. -/
def functionSymbol? (file : String) (t : Tree) : Option Symbol := do
  let name ← t.part? "name"
  let params := match t.part? "parameters" with
    | some p => (p.namedChildren.filter (·.kind != "comment")).map (·.kind)
    | none => []
  return {
    name := .str name.text
    file := .str file
    line := .int t.line
    details := .function (Json.texts params) (.bool (t.hasChild "async"))
      (.bool (t.kind == "generator_function_declaration")) }

/-- What a method does: read or write a property, make an object, or anything else. -/
def methodKind (member : Tree) (name : String) : String :=
  if member.hasChild "get" then "get"
  else if member.hasChild "set" then "set"
  else if name = "constructor" then "constructor"
  else "method"

/-- The method that a member of a class is, if it is one and has a name. -/
def method? (member : Tree) : Option Json := do
  guard (member.kind == "method_definition")
  let name ← member.part? "name"
  return .obj [("name", .str name.text), ("kind", .str (methodKind member name.text)),
    ("static", .bool (member.hasChild "static"))]

/-- The property that a member of a class is, if it is one and has a name. -/
def property? (member : Tree) : Option Json := do
  guard (member.kind == "field_definition" || member.kind == "public_field_definition")
  let name ← (member.part? "property").or (member.part? "name")
  return .obj [("name", .str name.text), ("static", .bool (member.hasChild "static"))]

/-- The expression that a class extends. A clause of its own holds it in the language
    with types; elsewhere it comes first, unless only interfaces are named. -/
def parent? (heritage : Tree) : Option Tree :=
  match heritage.namedChild? "extends_clause" with
  | some clause => clause.part? "value"
  | none =>
    match heritage.namedChildren with
    | first :: _ => if first.kind == "implements_clause" then none else some first
    | [] => none

/-- The name of what a class extends, if that is a plain name. -/
def superclass? (t : Tree) : Option String := do
  let heritage ← t.namedChild? "class_heritage"
  let target ← parent? heritage
  guard (target.kind == "identifier")
  return target.text

/-- The class that a node declares, if it has a name. -/
def classSymbol? (file : String) (t : Tree) : Option Symbol := do
  let name ← t.part? "name"
  let members := match t.part? "body" with
    | some body => body.namedChildren
    | none => []
  return {
    name := .str name.text
    file := .str file
    line := .int t.line
    details := .klass (Json.optText (superclass? t)) (.arr (members.filterMap method?))
      (.arr (members.filterMap property?)) }

/-- The variables that a node declares under a plain name. They all have the line of
    the declaration. -/
def variableSymbols (file : String) (t : Tree) : List Symbol :=
  let declaration := match t.children with
    | first :: _ => first.kind
    | [] => "var"
  t.namedChildren.filterMap fun d => do
    guard (d.kind == "variable_declarator")
    let name ← d.part? "name"
    guard (name.kind == "identifier")
    return {
      name := .str name.text
      file := .str file
      line := .int t.line
      details := .variable (.str declaration) }

/-! ### Imports and exports -/

/-- A text without the quotes around it. -/
def unquoted (s : String) : String :=
  match s.toList with
  | q :: rest =>
    match rest.reverse with
    | r :: middle =>
      if q = r ∧ (q = '\'' ∨ q = '"' ∨ q = '`') then String.ofList middle.reverse else s
    | [] => s
  | [] => s

/-- The import that one name in braces makes. -/
def specifierImport? (source : String) (line : Int) (t : Tree) : Option Import := do
  guard (t.kind == "import_specifier")
  let name ← t.part? "name"
  let imported := if name.kind == "string" then unquoted name.text else name.text
  let binding := match t.part? "alias" with
    | some a => a.text
    | none => imported
  return ⟨source, imported, binding, line⟩

/-- The imports that one part of an import clause makes. -/
def clauseImports (source : String) (line : Int) (part : Tree) : List Import :=
  if part.kind == "identifier" then [⟨source, "default", part.text, line⟩]
  else if part.kind == "namespace_import" then
    match part.namedChild? "identifier" with
    | some name => [⟨source, "*", name.text, line⟩]
    | none => []
  else if part.kind == "named_imports" then
    part.namedChildren.filterMap (specifierImport? source line)
  else []

/-- The imports of an import statement with a source. -/
def imports (t : Tree) : List Import :=
  match t.part? "source", t.namedChild? "import_clause" with
  | some source, some clause =>
    clause.namedChildren.flatMap (clauseImports (unquoted source.text) t.line)
  | _, _ => []

/-- The export that one name in braces makes. -/
def specifierExport? (line : Int) (t : Tree) : Option Export := do
  guard (t.kind == "export_specifier")
  let name ← t.part? "name"
  let exported := (t.part? "alias").getD name
  return ⟨exported.text, line, some name.text⟩

/-- The exports of an export statement. An exported declaration is not reported: its
    own node declares the symbol. -/
def exports (t : Tree) : List Export :=
  if t.hasChild "default" then [⟨"default", t.line, none⟩]
  else if (t.part? "declaration").isSome then []
  else
    match t.namedChild? "export_clause" with
    | some clause => clause.namedChildren.filterMap (specifierExport? t.line)
    | none => []

/-! ### Calls -/

/-- The name of what is called: a plain name, or a member of a plain name. -/
def calleeName? (callee : Tree) : Option String :=
  if callee.kind == "identifier" then some callee.text
  else if callee.kind == "member_expression" then do
    let object ← callee.part? "object"
    let property ← callee.part? "property"
    guard (object.kind == "identifier" && property.kind == "property_identifier")
    return object.text ++ "." ++ property.text
  else none

/-- The call that a node makes, if what it calls has a name. A template with a tag is
    no call. -/
def call? (t : Tree) : Option Call := do
  let args ← t.part? "arguments"
  guard (args.kind == "arguments")
  let callee ← t.part? "function"
  let name ← calleeName? callee
  return ⟨name, t.line, ((args.namedChildren.filter (·.kind != "comment")).length : Nat)⟩

/-! ### All facts -/

/-- The facts that a node reports by itself. -/
def own (file : String) (t : Tree) : Facts :=
  if t.kind == "function_declaration" || t.kind == "generator_function_declaration" then
    { symbols := (functionSymbol? file t).toList }
  else if t.kind == "class_declaration" || t.kind == "abstract_class_declaration" then
    { symbols := (classSymbol? file t).toList }
  else if t.kind == "lexical_declaration" || t.kind == "variable_declaration" then
    { symbols := variableSymbols file t }
  else if t.kind == "import_statement" then { imports := imports t }
  else if t.kind == "export_statement" then { exports := exports t }
  else if t.kind == "call_expression" then { calls := (call? t).toList }
  else {}

/-- Visit the trees of a stack in order, each before its children. The nodes visited
    so far are in `visited`, last first. -/
def walk (visited : List Tree) : (stack : List Tree) → List Tree
  | [] => visited.reverse
  | t :: rest => walk (t :: visited) (t.children ++ rest)
termination_by stack => Tree.sizes stack
decreasing_by simp [Tree.sizes, Tree.size_eq]

/-- The nodes of a tree in pre-order. -/
def nodes (t : Tree) : List Tree :=
  walk [] [t]

/-- The facts of a source tree: those of its nodes, in pre-order. -/
def facts (file : String) (t : Tree) : Facts :=
  let reports := (nodes t).map (own file)
  { symbols := reports.flatMap (·.symbols)
    imports := reports.flatMap (·.imports)
    exports := reports.flatMap (·.exports)
    calls := reports.flatMap (·.calls) }

end SymbolGraph.Extract
