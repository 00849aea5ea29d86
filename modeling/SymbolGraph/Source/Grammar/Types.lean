import SymbolGraph.Source.Parser

/-! # Types in source text

    Rules for type annotations. No declaration or call that a later stage reports
    can stand inside a type, so a type is one node; only the expressions in its
    computed names are kept below it.
-/

namespace SymbolGraph.Source.Grammar

open SymbolGraph.Source.Parser

/-- The node of a type that holds some expressions. -/
def typeTree (row : Int) (inner : List Tree) : Tree :=
  { kind := "type", row := row, children := inner }

/-- A dotted name. -/
def dottedName (n : Nat) : Parser Unit := do
  let _ ← next
  let _ ← many (do
    if ← at? "." then
      let _ ← next
      let _ ← next
      return some ()
    else return none) n

/-- Items separated by commas up to a closing bracket, which is left ahead. -/
def commaList {α : Type} (n : Nat) (close : Parser Bool) (item : Parser α) : Parser (List α) :=
  many (do
    if ← close then return none
    let a ← item
    let _ ← eat ","
    return some a) n

/-- Whether the token ahead starts with a closing angle bracket. -/
def atCloseAngle : Parser Bool := do
  let t ← peek
  return t.kind == .operator && t.text.startsWith ">"

/-- Types between angle brackets. -/
def typeArguments (goals : Goals) (n : Nat) : Parser Tree := do
  let bracket ← peek
  guard (bracket.kind == .operator && bracket.text.startsWith "<")
  retake .operator 1
  let _ ← next
  let args ← commaList n atCloseAngle (goals .type)
  closeAngle
  return typeTree bracket.row args

/-- Type arguments if an angle bracket is ahead. -/
def optTypeArguments (goals : Goals) (n : Nat) : Parser (List Tree) := do
  if (← peek).text.startsWith "<" && (← peek).kind == .operator then
    return [← typeArguments goals n]
  else return []

/-- One type parameter with its bound and its default. -/
def typeParameter (goals : Goals) (n : Nat) : Parser Tree := do
  let row := (← peek).row
  let _ ← many (do
    let t ← peek
    let u ← second
    if t.isOneOf ["const", "in", "out"] && u.kind == .name && !u.isName "extends" then
      let _ ← next
      return some ()
    else return none) n
  guard ((← peek).kind == .name)
  let _ ← next
  let bound ← if ← eatName "extends" then some <$> goals .type else pure none
  let default ← if ← eat "=" then some <$> goals .type else pure none
  return typeTree row (bound.toList ++ default.toList)

/-- Type parameters between angle brackets. -/
def typeParameters (goals : Goals) (n : Nat) : Parser Tree := do
  let row := (← peek).row
  expect "<"
  let ps ← commaList n atCloseAngle (typeParameter goals n)
  closeAngle
  return typeTree row ps

/-- Type parameters if an angle bracket is ahead. -/
def optTypeParameters (goals : Goals) (n : Nat) : Parser (List Tree) := do
  if ← at? "<" then return [← typeParameters goals n] else return []

/-- The type of a result, which may also say what the call asserts. -/
def resultType (goals : Goals) : Parser Tree := do
  let row := (← peek).row
  let u ← second
  if (← atName? "asserts") && u.kind == .name && !u.newline && !u.isName "is" then
    let _ ← next
  let t ← goals .type
  if (← atName? "is") && !(← peek).newline then
    let _ ← next
    let u ← goals .type
    return typeTree row [t, u]
  else return t

/-- An annotation with the type of a result. -/
def optResultType (goals : Goals) : Parser (List Tree) := do
  if ← eat ":" then return [← resultType goals] else return []

/-- A type after a colon. -/
def optAnnotation (goals : Goals) : Parser (List Tree) := do
  if ← eat ":" then return [← goals .type] else return []

/-- A parameter of a function type. -/
def typedParameter (goals : Goals) : Parser Tree := do
  let row := (← peek).row
  let _ ← eat "..."
  let p ← goals .binding
  let _ ← eat "?"
  let t ← optAnnotation goals
  let d ← if ← eat "=" then pure [← goals (.single {})] else pure []
  return typeTree row (p :: t ++ d)

/-- The parameters of a function type. -/
def typedParameters (goals : Goals) (n : Nat) : Parser (List Tree) := do
  expect "("
  let ps ← commaList n (at? ")") (typedParameter goals)
  expect ")"
  return ps

/-- A function type after its type parameters. -/
def functionType (goals : Goals) (n : Nat) (row : Int) : Parser Tree := do
  let tps ← optTypeParameters goals n
  let ps ← typedParameters goals n
  expect "=>"
  let r ← resultType goals
  return typeTree row (tps ++ ps ++ [r])

/-- The name of a member in brackets: an index with its type, a mapped name, or a
    computed name. -/
def bracketedName (goals : Goals) : Parser Tree := do
  let row := (← peek).row
  expect "["
  let t ← peek
  let u ← second
  let inner ←
    if t.kind == .name && u.isOperator ":" then do
      let _ ← next
      let _ ← next
      goals .type
    else if t.kind == .name && u.isName "in" then do
      let _ ← next
      let _ ← next
      let t ← goals .type
      if ← eatName "as" then
        let u ← goals .type
        pure (typeTree row [t, u])
      else pure t
    else goals (.single {})
  expect "]"
  return typeTree row [inner]

/-- Whether a token can start the name of a member. -/
def startsMemberName (t : Token) : Bool :=
  t.kind == .name || t.kind == .string || t.kind == .number || t.kind == .privateName ||
    t.isOperator "["

/-- One member of an object type. -/
def typeMember (goals : Goals) (n : Nat) : Parser Tree := do
  let row := (← peek).row
  let _ ← many (do
    let t ← peek
    let u ← second
    if (t.isOperator "+" || t.isOperator "-") && u.kind == .name then
      let _ ← next
      let _ ← next
      return some ()
    else if t.isOneOf ["readonly", "get", "set", "public", "private", "protected", "static"]
        && startsMemberName u then
      let _ ← next
      return some ()
    else return none) n
  let t ← peek
  let u ← second
  let name ←
    if t.isOperator "[" then do pure [← bracketedName goals]
    else if t.isOperator "(" || t.isOperator "<" then pure []
    else if t.isName "new" && (u.isOperator "(" || u.isOperator "<") then do
      let _ ← next
      pure []
    else do
      guard (startsMemberName t)
      let _ ← next
      pure []
  if (← at? "+") || (← at? "-") then
    let _ ← next
  let _ ← eat "?"
  let _ ← eat "!"
  let signature ←
    if (← at? "(") || (← at? "<") then do
      let tps ← optTypeParameters goals n
      let ps ← typedParameters goals n
      let r ← optResultType goals
      pure (tps ++ ps ++ r)
    else optAnnotation goals
  let _ ← if ← eat ";" then pure true else eat ","
  return typeTree row (name ++ signature)

/-- An object type in braces. -/
def objectType (goals : Goals) (n : Nat) : Parser Tree := do
  let row := (← peek).row
  expect "\x7b"
  let ms ← many (do
    if ← at? "\x7d" then return none
    if (← eat ";") || (← eat ",") then return some (typeTree row [])
    return some (← typeMember goals n)) n
  expect "\x7d"
  return typeTree row ms

/-- One item of a tuple type, which may have a name, be optional or be a rest. -/
def tupleItem (goals : Goals) : Parser Tree := do
  let _ ← eat "..."
  let t ← peek
  let u ← second
  if t.kind == .name && (u.isOperator ":" || u.isOperator "?") then
    let named ← attempt (do
      let _ ← next
      let _ ← eat "?"
      expect ":"
      goals .type)
    match named with
    | some t => return t
    | none =>
      let t ← goals .type
      let _ ← eat "?"
      return t
  else
    let t ← goals .type
    let _ ← eat "?"
    return t

/-- The substitutions of a template, each read by `part`. The template's opening
    quote is ahead. -/
def templateParts (n : Nat) (part : Parser Tree) : Parser (List Tree) := do
  rawAfter templateLength
  let parts ← many (do
    let t ← peek
    -- after the raw characters comes a closing quote or a substitution
    if t.kind == .template then return none
    guard (t.isName "$")
    retake .operator 2
    let _ ← next
    let e ← part
    guard (← at? "\x7d")
    rawAfter templateLength
    return some e) n
  let t ← peek
  guard (t.kind == .template)
  let _ ← next
  return parts

/-- A type without the brackets that may follow it. -/
def primaryType (goals : Goals) (n : Nat) : Parser Tree := do
  let t ← peek
  let row := t.row
  match t.kind with
  | .string | .number =>
    let _ ← next
    return typeTree row []
  | .template => return typeTree row (← templateParts n (goals .type))
  | .operator =>
    if t.text == "(" then
      let _ ← next
      let inner ← goals .type
      expect ")"
      return typeTree row [inner]
    else if t.text == "[" then
      let _ ← next
      let items ← commaList n (at? "]") (tupleItem goals)
      expect "]"
      return typeTree row items
    else if t.text == "\x7b" then objectType goals n
    else if t.text == "-" then
      let _ ← next
      let _ ← next
      return typeTree row []
    else if t.text == "*" || t.text == "?" then
      let _ ← next
      return typeTree row []
    else fail
  | .name =>
    if t.text == "typeof" then
      let _ ← next
      if ← atName? "import" then
        let _ ← next
        expect "("
        let inner ← goals .type
        expect ")"
        let _ ← many (do
          if ← eat "." then
            let _ ← next
            return some ()
          else return none) n
        let args ← optTypeArguments goals n
        return typeTree row (inner :: args)
      dottedName n
      let args ← if (← peek).newline then pure [] else optTypeArguments goals n
      return typeTree row args
    else if t.text == "import" then
      let _ ← next
      expect "("
      let inner ← goals .type
      let _ ← if ← eat "," then some <$> goals (.single {}) else pure none
      expect ")"
      let _ ← many (do
        if ← eat "." then
          let _ ← next
          return some ()
        else return none) n
      let args ← optTypeArguments goals n
      return typeTree row (inner :: args)
    else
      dottedName n
      let args ← if (← peek).newline then pure [] else optTypeArguments goals n
      return typeTree row args
  | _ => fail

/-- A type with the brackets after it. -/
def postfixType (goals : Goals) (n : Nat) : Parser Tree := do
  let t ← primaryType goals n
  iterate (fun t => do
    let b ← peek
    if b.isOperator "[" && !b.newline then
      let _ ← next
      if ← eat "]" then return some t
      let i ← goals .type
      expect "]"
      return some (typeTree t.row [t, i])
    else return none) n t

/-- A type with the words in front of it. -/
def prefixedType (goals : Goals) (n : Nat) : Parser Tree := do
  let _ ← many (do
    let t ← peek
    let u ← second
    let starts := (u.kind == .name && !u.isName "extends" && !u.isName "is") || u.kind == .string ||
      u.kind == .template || u.isOperator "(" || u.isOperator "[" || u.isOperator "\x7b"
    if t.isOneOf ["keyof", "readonly", "unique", "infer"] && starts && !u.newline then
      let _ ← next
      return some ()
    else return none) n
  postfixType goals n

/-- Types joined by bars and ampersands. -/
def unionType (goals : Goals) (n : Nat) : Parser Tree := do
  let row := (← peek).row
  let _ ← if ← eat "|" then pure true else eat "&"
  let head ← prefixedType goals n
  let rest ← many (do
    if (← at? "|") || (← at? "&") then
      let _ ← next
      return some (← prefixedType goals n)
    else return none) n
  return if rest.isEmpty then head else typeTree row (head :: rest)

/-- A type. -/
def typeRule (goals : Goals) (n : Nat) : Parser Tree := do
  let t ← peek
  let u ← second
  let row := t.row
  if t.isName "abstract" && u.isName "new" then
    let _ ← next
  if (← atName? "new") then
    let _ ← next
    functionType goals n row
  else if t.isOperator "<" then functionType goals n row
  else
    let function ← if t.isOperator "(" then attempt (functionType goals n row) else pure none
    match function with
    | some f => return f
    | none =>
      let head ← unionType goals n
      if (← atName? "extends") && !(← peek).newline then
        let _ ← next
        let bound ← unionOrFunction row
        if ← eat "?" then
          let yes ← goals .type
          expect ":"
          let no ← goals .type
          return typeTree row [head, bound, yes, no]
        else return typeTree row [head, bound]
      else return head
where
  /-- The type that a conditional type is compared with. -/
  unionOrFunction (row : Int) : Parser Tree := do
    let t ← peek
    if t.isName "new" then
      let _ ← next
      functionType goals n row
    else if t.isOperator "<" then functionType goals n row
    else
      match ← if t.isOperator "(" then attempt (functionType goals n row) else pure none with
      | some f => return f
      | none => unionType goals n

end SymbolGraph.Source.Grammar
