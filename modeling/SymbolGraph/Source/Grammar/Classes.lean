import SymbolGraph.Source.Grammar.Bindings

/-! # Functions and classes

    Rules for functions and classes, as declarations and as expressions. The two
    differ only in the kind of their node; a declaration has a name.
-/

namespace SymbolGraph.Source.Grammar

open SymbolGraph.Source.Parser

/-! ### Functions -/

/-- Whether the tokens ahead start a function. -/
def atFunction : Parser Bool := do
  let t ← peek
  let u ← second
  return t.isName "function" || (t.isName "async" && u.isName "function" && !u.newline)

/-- The kind of a function's node. A function without a body is only a signature. -/
def functionKind (declaration generator body : Bool) : String :=
  if !body then "function_signature"
  else if declaration then
    if generator then "generator_function_declaration" else "function_declaration"
  else if generator then "generator_function" else "function_expression"

/-- A function. It is a declaration where one is wanted and it has a name. -/
def function (goals : Goals) (n : Nat) (asDeclaration : Bool) : Parser Tree := do
  let async ← if ← atName? "async" then pure [← tokenTree] else pure []
  guard (← atName? "function")
  let word ← tokenTree
  let star ← if ← at? "*" then pure [← tokenTree] else pure []
  let name ←
    if (← peek).kind == .name then pure [(← nameTree).labelled "name"] else pure []
  let sig ← signature goals n
  let body ←
    if ← at? "\x7b" then pure [(← goals .block).labelled "body"]
    else if (← dialect).hasTypes then optSemicolon
    else fail
  let hasBody := body.any (·.field == some "body")
  let kind := functionKind (asDeclaration && !name.isEmpty) (!star.isEmpty) hasBody
  return Tree.join kind (async ++ word :: star ++ name ++ sig ++ body)

/-! ### Members of classes -/

/-- The words that may stand before a member. -/
def memberWords (typed : Bool) : List String :=
  ["static", "async", "get", "set", "accessor"] ++
    if typed then ["public", "private", "protected", "readonly", "abstract", "override", "declare"]
    else []

/-- Whether a line end before a token closes the member before it. Before these
    characters it does not. -/
def breaksMember (t : Token) : Bool :=
  t.newline && !(t.kind == .operator && ["*", "["].contains t.text)

/-- The words `static get` at the end of a line, which in the plain language are one
    token and neither of the two words. -/
def brokenStaticGet (typed : Bool) : Parser (Option Tree) := do
  let row := (← peek).row
  let found ← attempt (do
    guard (!typed)
    expectName "static"
    expectName "get"
    let t ← peek
    guard (t.newline && !t.comment && startsMemberName t))
  return found.map fun _ => Tree.token "static get" row

/-- The words in front of a member. A word counts as such if the name of the member
    follows it on the same line; otherwise it is the name itself. -/
def memberModifiers (n : Nat) (typed : Bool) : Parser (List Tree) :=
  many (do
    if let some t ← brokenStaticGet typed then return some t
    let t ← peek
    let u ← second
    let follows := startsMemberName u || (u.isOperator "*" && !t.isOneOf ["get", "set"])
    if t.isOneOf (memberWords typed) && follows && !breaksMember u then
      return some (← tokenTree)
    else return none) n

/-- An index of a class with types: a bracket, a name and a colon. -/
def atIndexSignature : Parser Bool := do
  let r ← lookAhead (do
    expect "["
    let t ← next
    guard (t.kind == .name)
    expect ":")
  return r.isSome

/-- A member with parameters. Without a body it is only a signature. -/
def methodTail (goals : Goals) (n : Nat) (head : List Tree) (name : Tree) : Parser Tree := do
  let sig ← signature goals n
  if ← at? "\x7b" then
    let body ← goals .block
    return Tree.join "method_definition"
      (head ++ name.labelled "name" :: sig ++ [body.labelled "body"])
  else
    guard (← dialect).hasTypes
    return Tree.join "method_signature" (head ++ name.labelled "name" :: sig)

/-- A member with a value. -/
def fieldTail (goals : Goals) (head : List Tree) (name : Tree) : Parser Tree := do
  if (← dialect).hasTypes then
    let _ ← if ← eat "?" then pure true else eat "!"
    let type ← optAnnotation goals
    let value ← optDefault goals
    return Tree.join "public_field_definition" (head ++ name.labelled "name" :: type ++ value)
  else
    let value ← optDefault goals
    return Tree.join "field_definition" (head ++ name.labelled "property" :: value)

/-- A member of a class. -/
def classMember (goals : Goals) (n : Nat) : Parser Tree := do
  let typed := (← dialect).hasTypes
  let ds ← decorators goals n
  let t ← peek
  let u ← second
  if t.isName "static" && u.isOperator "\x7b" then
    let word ← tokenTree
    let body ← goals .block
    return Tree.join "class_static_block" [word, body]
  let words ← memberModifiers n typed
  if typed && (← atIndexSignature) then
    let key ← bracketedName goals
    let type ← optAnnotation goals
    return Tree.join "index_signature" (words ++ key :: type)
  let star ← if ← at? "*" then pure [← tokenTree] else pure []
  let name ← memberName goals
  let head := ds ++ words ++ star
  let optional := typed && (← at? "?")
  let v ← second
  if (← at? "(") || (typed && (← at? "<"))
      || (optional && (v.isOperator "(" || v.isOperator "<")) then
    let _ ← eat "?"
    methodTail goals n head name
  else fieldTail goals head name

/-- The body of a class. -/
def classBody (goals : Goals) (n : Nat) : Parser Tree := do
  guard (← at? "\x7b")
  let brace ← tokenTree
  let ms ← many (do
    if ← at? "\x7d" then return none
    if (← at? ";") || (← at? ",") then return some (← tokenTree)
    return some (← classMember goals n)) n
  guard (← at? "\x7d")
  let close ← tokenTree
  return Tree.join "class_body" (brace :: ms ++ [close])

/-! ### Classes -/

/-- What a class extends, in the plain language: one expression. A comment between
    the word and the expression is a node of its own. -/
def plainHeritage (parent : Parser Tree) : Parser (List Tree) := do
  if ← atName? "extends" then
    let word ← tokenTree
    let t ← peek
    let comment := if t.comment then [Tree.leaf "comment" "" t.row] else []
    let e ← parent
    return [Tree.join "class_heritage" (word :: comment ++ [e])]
  else return []

/-- What a class with types extends and implements. -/
def typedHeritage (goals : Goals) (n : Nat) (parent : Parser Tree) : Parser (List Tree) := do
  let parents ←
    if ← atName? "extends" then do
      let word ← tokenTree
      let e ← parent
      let args ← optTypeArguments goals n
      let more ← many (do
        if ← eat "," then
          let e ← parent
          let args ← optTypeArguments goals n
          return some (e :: args)
        else return none) n
      pure [Tree.join "extends_clause" (word :: e.labelled "value" :: args ++ more.flatten)]
    else pure []
  let implements ←
    if ← atName? "implements" then do
      let word ← tokenTree
      let ts ← many (do
        if ← at? "\x7b" then return none
        let t ← goals .type
        let _ ← eat ","
        return some t) n
      pure [Tree.join "implements_clause" (word :: ts)]
    else pure []
  let clauses := parents ++ implements
  return if clauses.isEmpty then [] else [Tree.join "class_heritage" clauses]

/-- Whether a name is ahead, rather than what follows a class without a name. -/
def atClassName : Parser Bool := do
  let t ← peek
  return t.kind == .name && !t.isOneOf ["extends", "implements"]

/-- A class after its decorators. `parent` reads the expression it extends. -/
def classRule (goals : Goals) (n : Nat) (parent : Parser Tree) (ds : List Tree)
    (asDeclaration : Bool) : Parser Tree := do
  let typed := (← dialect).hasTypes
  let abstractWord ← if ← atName? "abstract" then pure [← tokenTree] else pure []
  guard (← atName? "class")
  let word ← tokenTree
  let name ← if ← atClassName then pure [(← nameTree).labelled "name"] else pure []
  let tps ← if typed then optTypeParameters goals n else pure []
  let heritage ← if typed then typedHeritage goals n parent else plainHeritage parent
  let body ← classBody goals n
  let kind :=
    if asDeclaration && !name.isEmpty then
      if abstractWord.isEmpty then "class_declaration" else "abstract_class_declaration"
    else "class"
  return Tree.join kind
    (ds ++ abstractWord ++ word :: name ++ tps ++ heritage ++ [body.labelled "body"])

end SymbolGraph.Source.Grammar
