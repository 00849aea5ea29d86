import SymbolGraph.Graph.Key

/-! # Symbols

    A symbol is a declaration found in a source file: a function, a class or a
    variable, with its name, its file and its line. Symbols read from a document are
    not checked further than that they have the right fields, so every field may
    hold any value.

    `Symbol.toFields` writes a symbol as the fields of an object and
    `Symbol.ofFields` reads it back; `ofFields_toFields` says that nothing is lost.
-/

namespace SymbolGraph

/-- What a symbol declares. -/
inductive Kind where
  | function
  | klass
  | variable
deriving DecidableEq, Inhabited, Repr

namespace Kind

/-- The name of a kind in documents and queries. -/
def name : Kind → String
  | .function => "function"
  | .klass => "class"
  | .variable => "variable"

/-- All kinds, in the order in which they are listed for the user. -/
def all : List Kind := [.function, .klass, .variable]

/-- The kind of a given name. -/
def ofName? (s : String) : Option Kind :=
  all.find? (·.name = s)

@[simp] theorem ofName?_name (k : Kind) : ofName? k.name = some k := by
  cases k <;> rfl

end Kind

/-- Why a value cannot be used as a symbol, or as another part of a document. -/
inductive Malformed where
  /-- The whole document is not an object. -/
  | notADocument
  /-- A field is missing, or a name is none of those known. -/
  | missing (key : Json)
  /-- A value does not have the type that is needed. -/
  | unfit
  /-- A value that should have fields has none. -/
  | fieldless
deriving Inhabited, Repr

/-- What a symbol has besides its name, file and line. -/
inductive Details where
  | function (params isAsync isGenerator : Json)
  | klass (superclass methods properties : Json)
  | variable (declaration : Json)
deriving Inhabited, Repr

/-- A declaration in a source file. -/
structure Symbol where
  name : Json
  file : Json
  line : Json
  details : Details
deriving Inhabited, Repr

namespace Symbol

/-- The kind of a symbol. -/
def kind (s : Symbol) : Kind :=
  match s.details with
  | .function .. => .function
  | .klass .. => .klass
  | .variable .. => .variable

/-- The id of the symbol with a name in a file and a line. -/
def idOf (file name line : Json) : String :=
  file.plain ++ ":" ++ name.plain ++ ":" ++ line.plain

/-- The id under which a symbol is kept. -/
def id (s : Symbol) : String :=
  idOf s.file s.name s.line

/-- The name of what a class extends, if it says so. -/
def superclass? (s : Symbol) : Option Json :=
  match s.details with
  | .klass superclass _ _ => if superclass.isEmpty then none else some superclass
  | _ => none

/-- The fields that only symbols of one kind have. -/
def Details.toFields : Details → List (String × Json)
  | .function params isAsync isGenerator =>
    [("params", params), ("is_async", isAsync), ("is_generator", isGenerator)]
  | .klass superclass methods properties =>
    [("superclass", superclass), ("methods", methods), ("properties", properties)]
  | .variable declaration => [("declaration", declaration)]

/-- A symbol as the fields of an object. -/
def toFields (s : Symbol) : List (String × Json) :=
  [("kind", .str s.kind.name), ("name", s.name), ("file", s.file), ("line", s.line)]
    ++ Details.toFields s.details

/-- A symbol as an object. -/
def toJson (s : Symbol) : Json :=
  .obj s.toFields

/-- A symbol as an object that starts with an id. -/
def toJsonWithId (id : Json) (s : Symbol) : Json :=
  .obj (("id", id) :: s.toFields)

/-- The fields of a kind beside name, file and line, with their defaults. -/
def defaults : Kind → List (String × Json)
  | .function => [("params", .arr []), ("is_async", .bool false), ("is_generator", .bool false)]
  | .klass => [("superclass", .null), ("methods", .arr []), ("properties", .arr [])]
  | .variable => [("declaration", .str "var")]

/-- The fields that every symbol needs. -/
def required : List String := ["name", "file", "line"]

/-- The details of a kind, with defaults for the fields that are missing. -/
def detailsOf (kind : Kind) (fields : List (String × Json)) : Details :=
  let get (key : String) : Json :=
    (Json.field? key fields).getD (Json.fieldOrNull key (defaults kind))
  match kind with
  | .function => .function (get "params") (get "is_async") (get "is_generator")
  | .klass => .klass (get "superclass") (get "methods") (get "properties")
  | .variable => .variable (get "declaration")

/-- The kind that a value names. -/
def kindOf (value : Json) : Except Malformed Kind :=
  match value with
  | .str s =>
    match Kind.ofName? s with
    | some k => .ok k
    | none => .error (.missing value)
  | .arr _ | .obj _ => .error .unfit
  | _ => .error (.missing value)

/-- The field names that an object of a kind may have. -/
def allowed (kind : Kind) : List String :=
  ["id", "kind"] ++ required ++ (defaults kind).map (·.1)

/-- The symbol that the fields of an object describe. -/
def ofFields (fields : List (String × Json)) : Except Malformed Symbol :=
  match Json.field? "kind" fields with
  | none => .error (.missing (.str "kind"))
  | some value => do
    let kind ← kindOf value
    if fields.any (fun f => !(allowed kind).contains f.1) then .error .unfit
    else
      match Json.field? "name" fields, Json.field? "file" fields, Json.field? "line" fields with
      | some name, some file, some line => .ok ⟨name, file, line, detailsOf kind fields⟩
      | _, _, _ => .error .unfit

/-- The symbol that a value describes. -/
def ofJson : Json → Except Malformed Symbol
  | .obj fields => ofFields fields
  | .arr [] | .str "" => .error (.missing (.str "kind"))
  | _ => .error .unfit

/-- Reading back what was written gives the same symbol. -/
theorem ofFields_toFields (s : Symbol) : ofFields s.toFields = .ok s := by
  obtain ⟨name, file, line, details⟩ := s
  cases details <;> rfl

end Symbol

end SymbolGraph
