import SymbolGraph.Source.Grammar.Types

/-! # Variables, patterns and parameters

    Rules for the places that bind names. A place is a plain name or a pattern that
    takes a value apart; it may have a default, and default values and computed
    names are expressions of their own.
-/

namespace SymbolGraph.Source.Grammar

open SymbolGraph.Source.Parser

/-- A name in a place that binds it. -/
def nameTree : Parser Tree := do
  guard ((← peek).kind == .name)
  leafTree "identifier"

/-- The name of a member, with the text that spells it: a word, a text, a number, a
    private name or an expression in brackets. -/
def memberName (goals : Goals) : Parser Tree := do
  let t ← peek
  match t.kind with
  | .name => leafTree "property_identifier"
  | .privateName => leafTree "private_property_identifier"
  | .string => leafTree "string"
  | .number => leafTree "number"
  | .operator =>
    expect "["
    let e ← goals (.single {})
    expect "]"
    let stop ← taken
    return { kind := "computed_property_name", text := t.start.textTo stop, row := t.row,
             children := [e] }
  | _ => fail

/-- A default value after an equals sign. -/
def optDefault (goals : Goals) : Parser (List Tree) := do
  if ← eat "=" then return [← goals (.single {})] else return []

/-- A binding with its default, if any. -/
def bindingWithDefault (goals : Goals) : Parser Tree := do
  let b ← goals .binding
  let d ← optDefault goals
  return if d.isEmpty then b else Tree.join "assignment_pattern" (b :: d)

/-- One entry of an object pattern. -/
def objectPatternEntry (goals : Goals) : Parser Tree := do
  if ← at? "..." then
    let dots ← tokenTree
    let b ← goals .binding
    return Tree.join "rest_pattern" [dots, b]
  let key ← memberName goals
  if ← eat ":" then
    let b ← bindingWithDefault goals
    return Tree.join "pair_pattern" [key, b]
  else
    let d ← optDefault goals
    return Tree.join "shorthand_property_identifier_pattern" (key :: d)

/-- One entry of an array pattern; an entry may be left out. -/
def arrayPatternEntry (goals : Goals) : Parser Tree := do
  if ← at? "," then return Tree.token "" (← peek).row
  if ← at? "..." then
    let dots ← tokenTree
    let b ← goals .binding
    return Tree.join "rest_pattern" [dots, b]
  bindingWithDefault goals

/-- A name or a pattern. -/
def bindingRule (goals : Goals) (n : Nat) : Parser Tree := do
  let t ← peek
  if t.isOperator "\x7b" then
    let brace ← tokenTree
    let es ← commaList n (at? "\x7d") (objectPatternEntry goals)
    expect "\x7d"
    return Tree.join "object_pattern" (brace :: es)
  else if t.isOperator "[" then
    let bracket ← tokenTree
    let es ← commaList n (at? "]") (arrayPatternEntry goals)
    expect "]"
    return Tree.join "array_pattern" (bracket :: es)
  else nameTree

/-! ### Arguments and decorators -/

/-- The arguments of a call. -/
def arguments (goals : Goals) (n : Nat) : Parser Tree := do
  guard (← at? "(")
  let paren ← tokenTree
  let args ← commaList n (at? ")") (do
    if ← at? "..." then
      let dots ← tokenTree
      let e ← goals (.single {})
      return Tree.join "spread_element" [dots, e]
    goals (.single {}))
  expect ")"
  return Tree.join "arguments" (paren :: args)

/-- The node of a call. -/
def callTree (function : Tree) (middle : List Tree) (args : Tree) : Tree :=
  Tree.join "call_expression"
    (function.labelled "function" :: middle ++ [args.labelled "arguments"])

/-- The node of a member of an object. -/
def memberTree (object : Tree) (middle : List Tree) (property : Tree) : Tree :=
  Tree.join "member_expression"
    (object.labelled "object" :: middle ++ [property.labelled "property"])

/-- A decorator: a dotted name that may be called, or an expression in brackets. -/
def decorator (goals : Goals) (n : Nat) : Parser Tree := do
  guard (← at? "@")
  let mark ← tokenTree
  if ← at? "(" then
    let paren ← tokenTree
    let e ← goals (.expression {})
    expect ")"
    return Tree.join "decorator" [mark, Tree.join "parenthesized_expression" [paren, e]]
  let head ← nameTree
  let path ← iterate (fun t => do
    if ← eat "." then
      let p ← memberName goals
      return some (memberTree t [] p)
    else return none) n head
  let args ← attempt (do
    let types ← optTypeArguments goals n
    let args ← arguments goals n
    return (types, args))
  match args with
  | some (types, args) => return Tree.join "decorator" [mark, callTree path types args]
  | none => return Tree.join "decorator" [mark, path]

/-- All decorators ahead. -/
def decorators (goals : Goals) (n : Nat) : Parser (List Tree) :=
  many (do if ← at? "@" then return some (← decorator goals n) else return none) n

/-! ### Parameters -/

/-- The words that may stand before a parameter with a type. -/
def parameterWords : List String :=
  ["public", "private", "protected", "readonly", "override"]

/-- A parameter of the plain language. -/
def plainParameter (goals : Goals) : Parser Tree := do
  if ← at? "..." then
    let dots ← tokenTree
    let b ← goals .binding
    return Tree.join "rest_pattern" [dots, b]
  bindingWithDefault goals

/-- A parameter of the language with types. -/
def annotatedParameter (goals : Goals) (n : Nat) : Parser Tree := do
  let row := (← peek).row
  let ds ← decorators goals n
  let _ ← many (do
    let t ← peek
    let u ← second
    if t.isOneOf parameterWords && (u.kind == .name || u.isOperator "\x7b" || u.isOperator "[") then
      let _ ← next
      return some ()
    else return none) n
  let _ ← eat "..."
  let b ← goals .binding
  let optional ← eat "?"
  let type ← optAnnotation goals
  let d ← optDefault goals
  let kind := if optional then "optional_parameter" else "required_parameter"
  return { kind := kind, row := row, children := ds ++ b :: type ++ d }

/-- The parameters of a function. -/
def parameters (goals : Goals) (n : Nat) : Parser Tree := do
  guard (← at? "(")
  let paren ← tokenTree
  let typed := (← dialect).hasTypes
  let ps ← commaList n (at? ")")
    (if typed then annotatedParameter goals n else plainParameter goals)
  expect ")"
  return Tree.join "formal_parameters" (paren :: ps)

/-- The part of a function between its name and its body. -/
def signature (goals : Goals) (n : Nat) : Parser (List Tree) := do
  let typed := (← dialect).hasTypes
  let tps ← if typed then optTypeParameters goals n else pure []
  let ps ← parameters goals n
  let result ← if typed then optResultType goals else pure []
  return tps ++ ps.labelled "parameters" :: result

/-- Take a semicolon if one is ahead. The grammar never needs one to tell where a
    statement ends in a well-formed text. -/
def optSemicolon : Parser (List Tree) := do
  if ← at? ";" then return [← tokenTree] else return []

end SymbolGraph.Source.Grammar
