import SymbolGraph.Toml.Statement

/-! # Settings documents

    The statements of a settings file build one document, from the first to the last.
    A header chooses the table that the entries after it belong to. It makes the
    tables on its way; such a table may get a header of its own later, while a table
    with a header may not have a second one. A name that leads into a list of tables
    means the last of them.
-/

namespace SymbolGraph.Toml

/-- A step towards a place in a document: into a field, or to the last item of a
    list. -/
inductive Step where
  | field (name : String)
  | last
deriving DecidableEq, Inhabited, Repr

/-- A document in the making. -/
structure Draft where
  root : Json := .obj []
  /-- The table that entries belong to. -/
  place : List Step := []
  /-- The names of tables that were made on the way of a header. -/
  passed : List String := []
deriving Inhabited

/-- Change the last item of a list. -/
def alterLast (f : Json → Except Fault Json) : List Json → Except Fault (List Json)
  | [] => .error .nothing
  | [v] => do return [← f v]
  | v :: vs => do return v :: (← alterLast f vs)

/-- Change the value at a place. -/
def alterAt (f : Json → Except Fault Json) : List Step → Json → Except Fault Json
  | [], v => f v
  | .field name :: path, .obj fields => do
    let inner ← alterAt f path (Json.fieldOrNull name fields)
    return .obj (Json.put name inner fields)
  | .last :: path, .arr items => do return .arr (← alterLast (alterAt f path) items)
  | _, _ => .error .notATable

/-- The value at a place. -/
def valueAt? : List Step → Json → Option Json
  | [], v => some v
  | .field name :: path, .obj fields => (Json.field? name fields).bind (valueAt? path)
  | .last :: path, .arr items => items.getLast?.bind (valueAt? path)
  | _, _ => none

/-- The table that a header makes. -/
def fresh (isLast list : Bool) : Json :=
  if isLast && list then .arr [.obj []] else .obj []

/-- Set a field of the table at a place. -/
def setField (name : String) (value : Json) (place : List Step) (root : Json) : Except Fault Json :=
  alterAt (fun v => match v with
    | .obj fields => .ok (.obj (Json.put name value fields))
    | _ => .error .notATable) place root

/-- Follow one name of a header into the table at the draft's place. -/
def enterTable (list isLast : Bool) (name : String) (fields : List (String × Json)) (d : Draft) :
    Except Fault Draft := do
  let place := d.place ++ [.field name]
  match Json.field? name fields with
  | none =>
    let root ← setField name (fresh isLast list) d.place d.root
    return { root := root, place := place
             passed := if isLast then d.passed else name :: d.passed }
  | some v =>
    if !isLast then return { d with place := place }
    if name ∈ d.passed then
      if list then throw .malformed
      return { d with place := place, passed := d.passed.erase name }
    if !list then throw .malformed
    match v with
    | .arr items =>
      let root ← setField name (.arr (items ++ [.obj []])) d.place d.root
      return { d with root := root, place := place }
    | _ => throw .notAList

/-- Follow one name of a header into the last table of the list at the draft's
    place. -/
def enterLast (list isLast : Bool) (name : String) (d : Draft) : Except Fault Draft := do
  let last := d.place ++ [.last]
  match valueAt? last d.root with
  | none => throw .nothing
  | some (.obj fields) =>
    let root ← if (Json.field? name fields).isSome then pure d.root
      else setField name (fresh isLast list) last d.root
    return { d with root := root, place := last ++ [.field name] }
  | some _ => throw .notATable

/-- Follow one name of a header. -/
def enter (list isLast : Bool) (name : String) (d : Draft) : Except Fault Draft := do
  if name = "" then throw .malformed
  let d ← match valueAt? d.place d.root with
    | some (.obj fields) => enterTable list isLast name fields d
    | some (.arr _) => enterLast list isLast name d
    | some (.str "") => throw .nothing
    | _ => throw .notATable
  if list then
    match valueAt? d.place d.root with
    | some (.arr _) => return { d with place := d.place ++ [.last] }
    | some (.obj _) => return d
    | _ => throw .notATable
  else return d

/-- Follow the names of a header. -/
def enterAll (list : Bool) : List String → Draft → Except Fault Draft
  | [], d => .ok d
  | name :: path, d => do enterAll list path (← enter list path.isEmpty name d)

/-- Add a statement to a draft. -/
def Draft.add (d : Draft) : Statement → Except Fault Draft
  | .table path => enterAll false path { d with place := [] }
  | .listItem path => enterAll true path { d with place := [] }
  | .entry path value => do
    let root ← alterAt (fun v => match v with
      | .obj fields => (setEntry value path fields).map .obj
      | _ => .error .malformed) d.place d.root
    return { d with root := root }

/-- The document that a text describes. -/
def parse (text : String) : Except Fault Json := do
  return (← (← statements text).foldlM Draft.add {}).root

end SymbolGraph.Toml
