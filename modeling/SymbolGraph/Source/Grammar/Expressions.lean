import SymbolGraph.Source.Grammar.Classes
import SymbolGraph.Source.Grammar.Markup

/-! # Expressions

    Rules for expressions, from operands to sequences. A bracketed list may turn out
    to be the parameters of an arrow function only when the arrow comes, so it is
    read once in a form that covers both: expressions that may carry a question
    mark, a type and a default.
-/

namespace SymbolGraph.Source.Grammar

open SymbolGraph.Source.Parser

/-! ### Object and array literals -/

/-- The words that may stand before a method of an object. -/
def objectWords : List String := ["async", "get", "set"]

/-- One entry of an object literal. An entry that is only a name may have a default,
    for an object that turns out to be a pattern. -/
def objectEntry (goals : Goals) (n : Nat) : Parser Tree := do
  if ← at? "..." then
    let dots ← tokenTree
    let e ← goals (.single {})
    return Tree.join "spread_element" [dots, e]
  let words ← many (do
    let t ← peek
    let u ← second
    let follows := startsMemberName u || (u.isOperator "*" && t.isName "async")
    if t.isOneOf objectWords && follows then return some (← tokenTree) else return none) n
  let star ← if ← at? "*" then pure [← tokenTree] else pure []
  let name ← memberName goals
  if (← at? "(") || (← at? "<") then methodTail goals n (words ++ star) name
  else if ← eat ":" then
    let e ← goals (.single {})
    return Tree.join "pair" [name.labelled "key", e.labelled "value"]
  else
    let d ← optDefault goals
    return Tree.join "shorthand_property_identifier" (name :: d)

/-- An object literal. -/
def objectLiteral (goals : Goals) (n : Nat) : Parser Tree := do
  let brace ← tokenTree
  let es ← commaList n (at? "\x7d") (objectEntry goals n)
  expect "\x7d"
  return Tree.join "object" (brace :: es)

/-- An item of an array literal, which may be left out. -/
def arrayItem (goals : Goals) : Parser Tree := do
  if ← at? "," then return Tree.token "" (← peek).row
  if ← at? "..." then
    let dots ← tokenTree
    let e ← goals (.single {})
    return Tree.join "spread_element" [dots, e]
  goals (.single {})

/-- An array literal. -/
def arrayLiteral (goals : Goals) (n : Nat) : Parser Tree := do
  let bracket ← tokenTree
  let es ← commaList n (at? "]") (arrayItem goals)
  expect "]"
  return Tree.join "array" (bracket :: es)

/-- A template with its substitutions. -/
def templateString (goals : Goals) (n : Nat) : Parser Tree := do
  let row := (← peek).row
  let parts ← templateParts n (goals (.expression {}))
  return { kind := "template_string", row := row, children := parts }

/-! ### Bracketed lists and arrow functions -/

/-- The body of an arrow function after its arrow. -/
def arrowBody (goals : Goals) (c : Context) : Parser Tree := do
  if ← at? "\x7b" then goals .block else goals (.single { allowIn := c.allowIn })

/-- An arrow function with parameters that are already read. -/
def arrowTail (goals : Goals) (c : Context) (head : List Tree) : Parser Tree := do
  guard (!(← peek).newline)
  expect "=>"
  let body ← arrowBody goals c
  return Tree.join "arrow_function" (head ++ [body.labelled "body"])

/-- Whether the token ahead is an arrow on the same line. -/
def atArrow : Parser Bool := do
  return (← at? "=>") && !(← peek).newline

/-- An item of a bracketed list: an expression or a parameter. -/
def coverItem (goals : Goals) (typed : Bool) : Parser Tree := do
  let t ← peek
  if t.isOperator "..." then
    let dots ← tokenTree
    let b ← goals .binding
    let type ← if typed then optAnnotation goals else pure []
    return Tree.join "rest_pattern" (dots :: b :: type)
  let e ← goals (.single {})
  if typed then
    let _ ← eat "?"
    let type ← optAnnotation goals
    let d ← optDefault goals
    return if type.isEmpty && d.isEmpty then e else Tree.join "required_parameter" (e :: type ++ d)
  else return e

/-- A list in round brackets. -/
def coverList (goals : Goals) (n : Nat) : Parser (Tree × List Tree) := do
  guard (← at? "(")
  let typed := (← dialect).hasTypes
  let paren ← tokenTree
  let items ← commaList n (at? ")") (coverItem goals typed)
  expect ")"
  return (paren, items)

/-- An arrow function whose parameters in brackets are already read, if an arrow
    follows, possibly after the type of the result. Between the marks of a
    conditional a colon belongs to the conditional unless another one follows. -/
def arrowAfterList (goals : Goals) (c : Context) (head : List Tree) : Parser (Option Tree) := do
  if ← atArrow then return some (← arrowTail goals c head)
  if (← dialect).hasTypes && (← at? ":") then
    attempt (do
      let result ← optResultType goals
      let f ← arrowTail goals c (head ++ result)
      if c.betweenMarks then guard (← at? ":")
      return f)
  else return none

/-- A bracketed expression or an arrow function. -/
def bracketed (goals : Goals) (n : Nat) (c : Context) : Parser Tree := do
  let (paren, items) ← coverList goals n
  match ← arrowAfterList goals c (paren :: items) with
  | some f => return f
  | none =>
    guard (!items.isEmpty)
    return Tree.join "parenthesized_expression" (paren :: items)

/-- An arrow function with type parameters. -/
def genericArrow (goals : Goals) (n : Nat) (c : Context) (head : List Tree) : Parser Tree := do
  let tps ← typeParameters goals n
  let (paren, items) ← coverList goals n
  match ← arrowAfterList goals { c with betweenMarks := false } (head ++ tps :: paren :: items) with
  | some f => return f
  | none => fail

/-- What starts with the word `async` other than a function: an arrow function, a
    call of something of that name, or just the name. -/
def asyncOperand (goals : Goals) (n : Nat) (c : Context) : Parser Tree := do
  let word ← leafTree "identifier"
  let mark := Tree.token word.text word.row
  let t ← peek
  let u ← second
  if t.newline then return word
  else if t.kind == .name && u.isOperator "=>" then
    let p ← nameTree
    arrowTail goals c [mark, p]
  else if t.isOperator "<" && (← dialect).hasTypes then
    match ← attempt (genericArrow goals n c [mark]) with
    | some f => return f
    | none => return word
  else if t.isOperator "(" then
    let arrow ← attempt (do
      let (paren, items) ← coverList goals n
      match ← arrowAfterList goals c (mark :: paren :: items) with
      | some f => return f
      | none => fail)
    match arrow with
    | some f => return f
    | none => return word
  else return word

/-! ### Operands -/

/-- An operand that starts with an angle bracket: an element, an arrow function with
    type parameters, or an expression with its type in front. -/
def angleOperand (goals : Goals) (n : Nat) (c : Context) : Parser Tree := do
  let d ← dialect
  let row := (← peek).row
  let arrow ← if d.hasTypes then attempt (genericArrow goals n c []) else pure none
  match arrow with
  | some f => return f
  | none =>
    if d.hasMarkup then
      let e ← goals .markup
      closeAngle
      return e
    else
      let types ← typeArguments goals n
      let e ← goals (.unary c)
      return { kind := "type_assertion", row := row, children := [types, e] }

/-- The words that are operands of a kind of their own. -/
def wordOperands : List String :=
  ["this", "super", "null", "true", "false", "undefined", "import"]

/-- A class with its decorators, as an expression. -/
def classExpression (goals : Goals) (n : Nat) (parent : Parser Tree) : Parser Tree := do
  let ds ← decorators goals n
  classRule goals n parent ds false

/-- An operand without the calls and members after it. `chain` reads an operand
    with the members after it, for what a class extends. -/
def operand (goals : Goals) (n : Nat) (c : Context) (chain : Parser Tree) : Parser Tree := do
  let t ← peek
  let u ← second
  match t.kind with
  | .number => leafTree "number"
  | .string => leafTree "string"
  | .privateName => leafTree "private_property_identifier"
  | .template => templateString goals n
  | .operator =>
    if t.text == "(" then bracketed goals n c
    else if t.text == "[" then arrayLiteral goals n
    else if t.text == "\x7b" then objectLiteral goals n
    else if t.text == "@" then classExpression goals n chain
    else if t.text == "/" || t.text == "/=" then
      retake .unknown (1 + regexLength false (t.start.rest.drop 1))
      leafTree "regex"
    else if t.text.startsWith "<" then angleOperand goals n c
    else fail
  | .name =>
    if u.isOperator "=>" && !u.newline then
      let p ← nameTree
      arrowTail goals c [p]
    else if ← atFunction then function goals n false
    else if t.text == "class" then classExpression goals n chain
    else if t.text == "async" then asyncOperand goals n c
    else if wordOperands.contains t.text then leafTree t.text
    else leafTree "identifier"
  | .eof | .unknown => fail

/-! ### Calls and members -/

/-- Whether what follows type arguments shows that they were type arguments, and
    not two comparisons. -/
def endsInstantiation (t : Token) : Bool :=
  t.newline || match t.kind with
    | .eof => true
    | .operator =>
      [")", "]", ":", ";", ",", ".", "?.", "?", "==", "===", "!=", "!==", "&&", "||", "??", "^",
       "&", "|", "\x7d", "=", "=>"].contains t.text
    | _ => false

/-- A call, tagged template or plain use of a generic operand. -/
def genericUse (goals : Goals) (n : Nat) (t : Tree) : Parser Tree := do
  let types ← typeArguments goals n
  let f ← peek
  if f.isOperator "(" then
    let args ← arguments goals n
    return callTree t [types] args
  else if f.kind == .template then
    let tpl ← templateString goals n
    return callTree t [types] tpl
  else
    guard (endsInstantiation f)
    return Tree.join "instantiation_expression" [t, types]

/-- A member after an optional link. -/
def optionalLink (goals : Goals) (n : Nat) (t : Tree) : Parser Tree := do
  let mark ← leafTree "optional_chain"
  let f ← peek
  if f.isOperator "(" then
    let args ← arguments goals n
    return callTree t [mark] args
  else if f.isOperator "[" then
    let _ ← next
    let i ← goals (.expression {})
    expect "]"
    return Tree.join "subscript_expression" [t, mark, i]
  else if f.kind == .template then
    let tpl ← templateString goals n
    return callTree t [mark] tpl
  else if f.text.startsWith "<" && f.kind == .operator then
    let types ← typeArguments goals n
    let args ← arguments goals n
    return callTree t [mark, types] args
  else
    guard (f.kind == .name || f.kind == .privateName)
    let p ← memberName goals
    return memberTree t [mark] p

/-- One step of a chain: a member, an index or, where calls are allowed, a call. -/
def chainStep (goals : Goals) (n : Nat) (calls : Bool) (t : Tree) : Parser (Option Tree) := do
  if t.kind == "arrow_function" then return none
  let typed := (← dialect).hasTypes
  let f ← peek
  if f.isOperator "." then
    let _ ← next
    guard ((← peek).kind == .name || (← peek).kind == .privateName)
    let p ← memberName goals
    return some (memberTree t [] p)
  else if f.isOperator "?." && calls then return some (← optionalLink goals n t)
  else if f.isOperator "[" then
    let _ ← next
    let i ← goals (.expression {})
    expect "]"
    return some (Tree.join "subscript_expression" [t, i])
  else if f.isOperator "(" && calls then
    let args ← arguments goals n
    return some (callTree t [] args)
  else if f.kind == .template then
    let tpl ← templateString goals n
    return some (callTree t [] tpl)
  else if typed && f.isOperator "!" && !f.newline then
    let mark ← tokenTree
    return some (Tree.join "non_null_expression" [t, mark])
  else if typed && calls && f.kind == .operator && (f.text == "<" || f.text == "<<") then
    attempt (genericUse goals n t)
  else return none

/-- A chain of members and calls, or of members only. -/
def chainFrom (goals : Goals) (n : Nat) (calls : Bool) (t : Tree) : Parser Tree :=
  iterate (chainStep goals n calls) n t

/-- An operand made with `new`. The constructor is a chain of members without calls,
    so the first arguments belong to the `new`. -/
def newExpression (goals : Goals) (n : Nat) (c : Context) (chain : Parser Tree) :
    (fuel : Nat) → Parser Tree
  | 0 => fail
  | fuel + 1 => do
    let word ← tokenTree
    if ← at? "." then
      let _ ← next
      let p ← tokenTree
      return Tree.join "meta_property" [word, p]
    let head ←
      if ← atName? "new" then newExpression goals n c chain fuel else operand goals n c chain
    let maker ← chainFrom goals n false head
    let typed := (← dialect).hasTypes
    let types ←
      if typed && (← peek).kind == .operator && (← peek).text.startsWith "<" then do
        match ← attempt (do
          let types ← typeArguments goals n
          let f ← peek
          guard (f.isOperator "(" || endsInstantiation f)
          return types) with
        | some types => pure [types]
        | none => pure []
      else pure []
    let args ← if ← at? "(" then pure [← arguments goals n] else pure []
    return Tree.join "new_expression" (word :: maker :: types ++ args)

/-- What `import` starts inside an expression. -/
def importOperand : Parser Tree := do
  let word ← leafTree "import"
  if ← at? "." then
    let _ ← next
    let p ← leafTree "property_identifier"
    if p.text == "meta" then return Tree.join "meta_property" [word, p]
    else return memberTree word [] p
  else return word

/-- An operand with the members and calls after it. `nested` bounds how deep chains
    stand directly inside chains, as in the parent of a class without a name. -/
def chained (goals : Goals) (n : Nat) (c : Context) : (nested : Nat) → Parser Tree
  | 0 => fail
  | nested + 1 => do
    let t ← peek
    let inner := chained goals n c nested
    let head ←
      if t.isName "new" then newExpression goals n c inner n
      else if t.isName "import" then importOperand
      else operand goals n c inner
    chainFrom goals n true head

/-! ### Operators -/

/-- Whether a token can start an operand on the line where it stands. -/
def startsOperand (t : Token) : Bool :=
  match t.kind with
  | .name => !t.isOneOf ["in", "of", "instanceof", "as", "satisfies"]
  | .number | .string | .template | .privateName => true
  | .operator =>
    ["(", "[", "\x7b", "+", "-", "!", "~", "++", "--", "/", "/=", "<", "@"].contains t.text
  | _ => false

/-- The words that act as operators in front of an operand. -/
def prefixWords : List String := ["typeof", "void", "delete"]

/-- The marks that act as operators in front of an operand. -/
def prefixMarks : List String := ["!", "~", "+", "-", "++", "--"]

/-- An operand with the operators in front of it and right after it. -/
def unaryRule (goals : Goals) (n : Nat) (c : Context) : Parser Tree := do
  let t ← peek
  let u ← second
  if t.isOneOf prefixWords || (t.kind == .operator && prefixMarks.contains t.text) then
    let mark ← tokenTree
    let e ← goals (.unary c)
    return Tree.join "unary_expression" [mark, e]
  else if t.isName "await" && startsOperand u then
    let word ← tokenTree
    let e ← goals (.unary c)
    return Tree.join "await_expression" [word, e]
  else
    let e ← chained goals n c n
    let f ← peek
    if e.kind != "arrow_function" && (f.isOperator "++" || f.isOperator "--") && !f.newline then
      let mark ← tokenTree
      return Tree.join "update_expression" [e, mark]
    else return e

/-- The operators between two operands, with their strength. -/
def binaryOperators : List (String × Nat) :=
  [("??", 1), ("||", 2), ("&&", 3), ("|", 4), ("^", 5), ("&", 6), ("==", 7), ("!=", 7), ("===", 7),
   ("!==", 7), ("<", 8), (">", 8), ("<=", 8), (">=", 8), ("<<", 9), (">>", 9), (">>>", 9), ("+", 10),
   ("-", 10), ("*", 11), ("/", 11), ("%", 11), ("**", 12)]

/-- The strength of the operators that are words. -/
def wordStrength : Nat := 8

/-- The strength of the operator that a token is, if it is one. -/
def strength? (c : Context) (t : Token) : Option Nat :=
  if t.kind == .operator then (binaryOperators.find? (·.1 == t.text)).map (·.2)
  else if t.isName "instanceof" || (t.isName "in" && c.allowIn) then some wordStrength
  else none

/-- An operand followed by an operator and another operand, if the operator binds at
    least as strongly as wanted. -/
def operandStep (goals : Goals) (least : Nat) (c : Context) (left : Tree) :
    Parser (Option Tree) := do
  if left.kind == "arrow_function" then return none
  let t ← peek
  let typed := (← dialect).hasTypes
  if typed && t.isOneOf ["as", "satisfies"] && !t.newline && least ≤ wordStrength then
    let word ← tokenTree
    let type ← goals .type
    return some (Tree.join "as_expression" [left, word, type])
  match strength? c t with
  | some s =>
    if s < least then return none
    let mark ← tokenTree
    let right ← goals (.operands (if s = 12 then s else s + 1) c)
    return some (Tree.join "binary_expression" [left, mark, right])
  | none => return none

/-- Operands joined by operators. -/
def operandsRule (goals : Goals) (n : Nat) (least : Nat) (c : Context) : Parser Tree := do
  let head ← goals (.unary c)
  iterate (operandStep goals least c) n head

/-- The operators that assign. -/
def assignments : List String :=
  ["=", "+=", "-=", "*=", "/=", "%=", "**=", "<<=", ">>=", ">>>=", "&=", "|=", "^=", "&&=", "||=",
   "??="]

/-- Whether a question mark opens a conditional, rather than marking a parameter. -/
def opensConditional : Parser Bool := do
  let u ← second
  return !(u.kind == .operator && [":", ",", ")", "="].contains u.text)

/-- A `yield` with its operand. -/
def yieldExpression (goals : Goals) (c : Context) : Parser Tree := do
  let word ← tokenTree
  if ← at? "*" then
    let star ← tokenTree
    let e ← goals (.single c)
    return Tree.join "yield_expression" [word, star, e]
  let t ← peek
  if startsOperand t && !t.newline then
    let e ← goals (.single c)
    return Tree.join "yield_expression" [word, e]
  else return Tree.join "yield_expression" [word]

/-- One expression without a comma. -/
def singleRule (goals : Goals) (c : Context) : Parser Tree := do
  let t ← peek
  let u ← second
  if t.isName "yield" && !(u.kind == .operator && (assignments.contains u.text || u.text == "=>"))
  then yieldExpression goals c
  else
    let left ← goals (.operands 1 c)
    if left.kind == "arrow_function" then return left
    let t ← peek
    if t.isOperator "?" then
      if ← opensConditional then
        let mark ← tokenTree
        let yes ← goals (.single { betweenMarks := true })
        expect ":"
        let no ← goals (.single c)
        return Tree.join "ternary_expression" [left, mark, yes, no]
      else return left
    else if t.kind == .operator && assignments.contains t.text then
      let mark ← tokenTree
      let right ← goals (.single c)
      return Tree.join "assignment_expression" [left.labelled "left", mark, right.labelled "right"]
    else return left

/-- Expressions separated by commas. -/
def expressionRule (goals : Goals) (n : Nat) (c : Context) : Parser Tree := do
  let head ← goals (.single c)
  let rest ← many (do
    if ← eat "," then return some (← goals (.single c)) else return none) n
  return if rest.isEmpty then head else Tree.join "sequence_expression" (head :: rest)

end SymbolGraph.Source.Grammar
