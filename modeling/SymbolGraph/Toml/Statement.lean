import SymbolGraph.Toml.Scalar

/-! # Statements of settings files

    A settings file is a list of statements, one on a line: the header of a table, the
    header of a further table of a list, or an entry, which gives a value to a name.
    Blank lines and comments are skipped. Names may be dotted, and lead through
    tables. Arrays may go over several lines and hold values of one kind.
-/

namespace SymbolGraph.Toml

/-- A statement. -/
inductive Statement where
  | table (path : List String)
  | listItem (path : List String)
  | entry (path : List String) (value : Json)
deriving Inhabited, Repr

/-! ### White space and comments -/

/-- White space within a line. -/
def isGap (c : Char) : Bool :=
  c != '\n' && Text.isBlank c

/-- Skip white space within a line. -/
def skipGap (cs : List Char) : List Char :=
  cs.dropWhile isGap

/-- Skip a comment, if one starts here. -/
def skipComment (cs : List Char) : List Char :=
  if cs.head? = some '#' then cs.dropWhile (· ≠ '\n') else cs

/-- Skip white space, comments and line ends. -/
def skipLines : (fuel : Nat) → List Char → List Char
  | 0, cs => cs
  | fuel + 1, cs =>
    let rest := skipComment (cs.dropWhile Text.isBlank)
    if rest.length < cs.length then skipLines fuel rest else rest

/-- The text after the end of a line, which only white space and a comment may
    precede. -/
def endLine (cs : List Char) : Except Fault (List Char) :=
  match skipComment (skipGap cs) with
  | [] => .ok []
  | '\n' :: rest => .ok rest
  | _ => .error .malformed

/-! ### Names -/

/-- Whether a character may stand without quotes in the name of a table. -/
def isBareHeader (c : Char) : Bool :=
  c.isAlphanum || c == '_' || c == '-'

/-- Whether a character may stand without quotes in the name of an entry. -/
def isBare (c : Char) : Bool :=
  isBareHeader c || (c.toNat > 0x7f && !Text.isBlank c)

/-- Read one part of a name: in quotes, which are dropped, or of `bare` characters. -/
def readPart (bare : Char → Bool) : List Char → Except Fault (String × List Char)
  | [] => .error .malformed
  | q :: rest =>
    if q = '"' ∨ q = '\'' then
      let body := rest.takeWhile fun c => c ≠ q && c ≠ '\n'
      match rest.drop body.length with
      | c :: more => if c = q then .ok (String.ofList body, more) else .error .malformed
      | [] => .error .malformed
    else
      let body := (q :: rest).takeWhile bare
      if body.isEmpty then .error .malformed
      else .ok (String.ofList body, (q :: rest).drop body.length)

/-- Read a dotted name. Every part takes a character, so the length of the text is
    enough `fuel`. -/
def readPath (bare : Char → Bool) :
    (fuel : Nat) → List Char → Except Fault (List String × List Char)
  | 0, _ => .error .malformed
  | fuel + 1, cs => do
    let (part, rest) ← readPart bare (skipGap cs)
    let rest := skipGap rest
    match rest with
    | '.' :: more =>
      let (parts, rest) ← readPath bare fuel more
      return (part :: parts, rest)
    | _ => return ([part], rest)

/-! ### Values -/

/-- Whether two values are of the kind that may stand in one array. -/
def sameKind : Json → Json → Bool
  | .bool _, .bool _ => true
  | .int _, .int _ => true
  | .real _, .real _ => true
  | .str _, .str _ => true
  | .arr _, .arr _ => true
  | .obj _, .obj _ => true
  | _, _ => false

/-- Whether all values of an array are of one kind. -/
def homogeneous : List Json → Bool
  | [] => true
  | v :: vs => vs.all (sameKind v)

/-- Whether a character ends a word. -/
def endsWord (c : Char) : Bool :=
  c == ',' || c == ']' || c == '\x7d' || c == '#' || c == '\n'

/-- Whether a character may start a value of an inline table. -/
def startsInline (c : Char) : Bool :=
  c == '"' || c == '\'' || c == '-' || isDigit c || c == '[' || c == '\x7b' || c == 't' || c == 'f'

/-- Add a field that must be new. -/
def addField (key : String) (value : Json) (fields : List (String × Json)) :
    Except Fault (List (String × Json)) :=
  if (Json.field? key fields).isSome then .error .malformed
  else .ok (fields ++ [(key, value)])

/-- Set the value that a dotted name leads to, making tables on the way. The value
    must be new, and every name on the way must lead to a table. -/
def setEntry (value : Json) : List String → List (String × Json) →
    Except Fault (List (String × Json))
  | [], fields => .ok fields
  | [key], fields => addField key value fields
  | key :: path, fields =>
    match Json.field? key fields with
    | none => do
      let inner ← setEntry value path []
      return fields ++ [(key, .obj inner)]
    | some (.obj inner) => do
      let inner ← setEntry value path inner
      return Json.put key (.obj inner) fields
    | some _ => if path.length = 1 then .error .malformed else .error .notATable

/-- Read a word. -/
def readWord (cs : List Char) : Except Fault (Json × List Char) :=
  let body := cs.takeWhile fun c => !endsWord c
  match word? (Text.strip body) with
  | some v => .ok (v, cs.drop body.length)
  | none => .error .malformed

mutual

/-- Read a value. Every level of nesting and every item takes a character, so the
    length of the text is enough `fuel`. -/
def readValue : (fuel : Nat) → List Char → Except Fault (Json × List Char)
  | 0, _ => .error .malformed
  | fuel + 1, cs =>
    match readString? cs with
    | some r => r.map fun p => (.str p.1, p.2)
    | none =>
      match cs with
      | '[' :: rest => readItems fuel [] rest
      | '\x7b' :: rest =>
        match skipGap rest with
        | '\x7d' :: more => .ok (.obj [], more)
        | _ => readFields fuel [] rest
      | _ => readWord cs

/-- Read the items of an array up to its closing bracket. `read` holds the items so
    far, last first. -/
def readItems : (fuel : Nat) → List Json → List Char → Except Fault (Json × List Char)
  | 0, _, _ => .error .malformed
  | fuel + 1, read, cs =>
    match skipLines cs.length cs with
    | ']' :: rest => .ok (.arr read.reverse, rest)
    | cs => do
      let (v, rest) ← readValue fuel cs
      if !homogeneous (v :: read) then throw .malformed
      match skipLines rest.length rest with
      | ',' :: more => readItems fuel (v :: read) more
      | ']' :: more => return (.arr (v :: read).reverse, more)
      | _ => throw .malformed

/-- Read the fields of an inline table up to its closing brace. -/
def readFields : (fuel : Nat) → List (String × Json) → List Char → Except Fault (Json × List Char)
  | 0, _, _ => .error .malformed
  | fuel + 1, read, cs => do
    let (path, rest) ← readPath isBare cs.length cs
    match rest with
    | '=' :: rest =>
      match skipGap rest with
      | [] => throw .malformed
      | c :: rest =>
        if c = ',' ∨ c = '\x7d' then throw .nothing
        if !startsInline c then throw .malformed
        let (v, rest) ← readValue fuel (c :: rest)
        let read ← setEntry v path read
        match skipGap rest with
        | ',' :: more => readFields fuel read more
        | '\x7d' :: more => return (.obj read, more)
        | _ => throw .malformed
    | _ => throw .malformed

end

/-! ### Lines -/

/-- Read the header of a table, after its opening bracket. -/
def readHeader (cs : List Char) : Except Fault (Statement × List Char) := do
  let (path, rest) ← readPath isBareHeader cs.length cs
  match rest with
  | ']' :: rest => return (.table path, ← endLine rest)
  | _ => throw .malformed

/-- Read the header of a further table of a list, after its opening brackets. -/
def readListHeader (cs : List Char) : Except Fault (Statement × List Char) := do
  let (path, rest) ← readPath isBareHeader cs.length cs
  match rest with
  | ']' :: ']' :: rest => return (.listItem path, ← endLine rest)
  | _ => throw .malformed

/-- Whether a text starts with a number in another base than ten. -/
def startsMarked : List Char → Bool
  | '0' :: mark :: _ => mark == 'x' || mark == 'o' || mark == 'b'
  | _ => false

/-- Read an entry. A number right after the equals sign is written in base ten. -/
def readEntry (cs : List Char) : Except Fault (Statement × List Char) := do
  let (path, rest) ← readPath isBare cs.length cs
  match rest with
  | '=' :: rest =>
    if startsMarked rest then throw .malformed
    let (v, rest) ← readValue (rest.length + 1) (skipGap rest)
    return (.entry path v, ← endLine rest)
  | _ => throw .malformed

/-- Read a statement. -/
def readStatement : List Char → Except Fault (Statement × List Char)
  | '[' :: '[' :: rest => readListHeader rest
  | '[' :: rest => readHeader rest
  | cs => readEntry cs

/-- Read all statements of a text. Every statement takes a character, so the length of
    the text is enough `fuel`. -/
def readStatements : (fuel : Nat) → List Char → Except Fault (List Statement)
  | 0, _ => .ok []
  | fuel + 1, cs =>
    match skipLines cs.length cs with
    | [] => .ok []
    | cs => do
      let (s, rest) ← readStatement cs
      let more ← readStatements fuel rest
      return s :: more

/-- The statements of a text. -/
def statements (text : String) : Except Fault (List Statement) :=
  let cs := text.toList
  readStatements (cs.length + 1) cs

end SymbolGraph.Toml
