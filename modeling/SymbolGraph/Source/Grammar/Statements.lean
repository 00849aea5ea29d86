import SymbolGraph.Source.Grammar.Expressions

/-! # Statements and modules

    Rules for statements, declarations, imports and exports, and the knot that ties
    the rules of the grammar together: `goal n` reads any part of the grammar that
    nests at most `n` deep, and `parse` allows for the length of the text.
-/

namespace SymbolGraph.Source.Grammar

open SymbolGraph.Source.Parser

/-! ### Declarations -/

/-- One variable of a declaration. -/
def declarator (goals : Goals) (allowIn : Bool) : Parser Tree := do
  let b ← goals .binding
  let typed := (← dialect).hasTypes
  let _ ← if typed then eat "!" else pure false
  let type ← if typed then optAnnotation goals else pure []
  let value ←
    if ← eat "=" then pure [← goals (.single { allowIn := allowIn })] else pure []
  return Tree.join "variable_declarator" (b.labelled "name" :: type ++ value)

/-- Variables separated by commas. -/
def declarators (goals : Goals) (n : Nat) (allowIn : Bool) : Parser (List Tree) := do
  let head ← declarator goals allowIn
  let rest ← many (do
    if ← eat "," then return some (← declarator goals allowIn) else return none) n
  return head :: rest

/-- Whether a token can start a binding. -/
def startsBinding (t : Token) : Bool :=
  t.kind == .name || t.isOperator "\x7b" || t.isOperator "["

/-- Whether the tokens ahead start a declaration of variables. -/
def atVariables : Parser Bool := do
  let t ← peek
  let u ← second
  return t.isName "var" || t.isName "const" ||
    (t.isName "let" && startsBinding u && !u.isOneOf ["in", "instanceof", "of"]) ||
    (t.isName "let" && u.isName "of" && !u.newline)

/-- The kind of a declaration that starts with a word. -/
def variablesKind (word : String) : String :=
  if word = "var" then "variable_declaration" else "lexical_declaration"

/-- A declaration of variables. -/
def variableDeclaration (goals : Goals) (n : Nat) : Parser Tree := do
  let word ← tokenTree
  let ds ← declarators goals n true
  let close ← optSemicolon
  return Tree.join (variablesKind word.text) (word :: ds ++ close)

/-- Whether the tokens ahead declare variables that are disposed of at the end. -/
def atUsing : Parser Bool := do
  let t ← peek
  let u ← second
  return t.isName "using" && u.kind == .name && !u.newline && !u.isOneOf ["in", "of", "instanceof"]

/-- A declaration of variables that are disposed of at the end. -/
def usingDeclaration (goals : Goals) (n : Nat) : Parser Tree := do
  let word ← tokenTree
  let ds ← declarators goals n true
  let close ← optSemicolon
  return Tree.join "using_declaration" (word :: ds ++ close)

/-- The parent of a class. -/
def classParent (goals : Goals) (n : Nat) : Parser Tree :=
  chained goals n {} n

/-- An enumeration. -/
def enumeration (goals : Goals) (n : Nat) : Parser Tree := do
  let row := (← peek).row
  let _ ← eatName "const"
  expectName "enum"
  let name ← nameTree
  expect "\x7b"
  let ms ← commaList n (at? "\x7d") (do
    let k ← memberName goals
    let d ← optDefault goals
    return Tree.join "enum_assignment" (k :: d))
  expect "\x7d"
  return { kind := "enum_declaration", row := row, children := name.labelled "name" :: ms }

/-- An interface. -/
def interface (goals : Goals) (n : Nat) : Parser Tree := do
  let word ← tokenTree
  let name ← nameTree
  let tps ← optTypeParameters goals n
  let parents ← if ← eatName "extends" then
      many (do
        if ← at? "\x7b" then return none
        let t ← goals .type
        let _ ← eat ","
        return some t) n
    else pure []
  let body ← objectType goals n
  return Tree.join "interface_declaration"
    (word :: name.labelled "name" :: tps ++ parents ++ [body])

/-- A name for a type. -/
def typeAlias (goals : Goals) (n : Nat) : Parser Tree := do
  let word ← tokenTree
  let name ← nameTree
  let tps ← optTypeParameters goals n
  expect "="
  let type ← goals .type
  let close ← optSemicolon
  return Tree.join "type_alias_declaration" (word :: name.labelled "name" :: tps ++ type :: close)

/-- A namespace or a module with its body, if it has one. -/
def namespaceRule (goals : Goals) (n : Nat) : Parser Tree := do
  let word ← tokenTree
  if (← peek).kind == .string then
    let _ ← next
  else dottedName n
  let body ← if ← at? "\x7b" then pure [← goals .block] else optSemicolon
  return Tree.join "internal_module" (word :: body)

/-- A declaration of the language with types, if one is ahead. -/
def typedDeclaration (goals : Goals) (n : Nat) : Parser (Option Tree) := do
  let t ← peek
  let u ← second
  let sameLine := !u.newline
  if t.isName "enum" && u.kind == .name then return some (← enumeration goals n)
  else if t.isName "const" && u.isName "enum" then return some (← enumeration goals n)
  else if t.isName "interface" && u.kind == .name && sameLine then
    return some (← interface goals n)
  else if t.isName "type" && u.kind == .name && sameLine then
    attempt (typeAlias goals n)
  else if t.isName "abstract" && u.isName "class" then
    return some (← classRule goals n (classParent goals n) [] true)
  else if t.isOneOf ["namespace", "module"] && (u.kind == .name || u.kind == .string)
      && sameLine then
    attempt (namespaceRule goals n)
  else return none

/-- A declaration that only describes what exists elsewhere. -/
def ambient (goals : Goals) : Parser Tree := do
  let word ← tokenTree
  let u ← second
  let d ←
    if (← atName? "global") && u.isOperator "\x7b" then do
      let _ ← next
      goals .block
    else goals .statement
  return Tree.join "ambient_declaration" [word, d]

/-- Whether the tokens ahead start an ambient declaration. -/
def atAmbient : Parser Bool := do
  let t ← peek
  let u ← second
  return t.isName "declare" && !u.newline && u.isOneOf
    ["var", "let", "const", "function", "class", "abstract", "enum", "interface", "type",
     "namespace", "module", "global", "async", "import"]

/-! ### Imports and exports -/

/-- One name in the braces of an import or an export. `kind` is the node's kind. -/
def specifier (kind : String) : Parser Tree := do
  let typed := (← dialect).hasTypes
  let t ← peek
  let u ← second
  -- the word `type` in front of a name, as opposed to a name `type`
  let mark ←
    if typed && t.isOneOf ["type", "typeof"] && (u.kind == .name || u.kind == .string)
        && !(u.isName "as") then do pure [← tokenTree]
    else if typed && t.isName "type" && u.isName "as" then do
      let marked ← lookAhead (do
        let _ ← next
        let _ ← next
        let v ← peek
        let w ← second
        -- `type as`, `type as as x` name something called `as`
        guard ((v.isOperator "," || v.isOperator "\x7d") || (v.isName "as" && w.kind == .name)))
      if marked.isSome then pure [← tokenTree] else pure []
    else pure []
  let name ← moduleName
  if ← eatName "as" then
    let renamed ← moduleName
    return Tree.join kind (mark ++ [name.labelled "name", renamed.labelled "alias"])
  else return Tree.join kind (mark ++ [name.labelled "name"])
where
  /-- A name or a quoted name. -/
  moduleName : Parser Tree := do
    if (← peek).kind == .string then leafTree "string"
    else nameTree

/-- Names in braces. -/
def specifiers (n : Nat) (list item : String) : Parser Tree := do
  guard (← at? "\x7b")
  let brace ← tokenTree
  let ss ← commaList n (at? "\x7d") (specifier item)
  expect "\x7d"
  return Tree.join list (brace :: ss)

/-- The attributes after the source of an import. -/
def importAttributes (goals : Goals) (n : Nat) : Parser (List Tree) := do
  let t ← peek
  let u ← second
  if t.isOneOf ["with", "assert"] && u.isOperator "\x7b" then
    let word ← tokenTree
    let o ← objectLiteral goals n
    return [Tree.join "import_attribute" [word, o]]
  else return []

/-- The source that names are taken from. -/
def fromClause : Parser (List Tree) := do
  expectName "from"
  guard ((← peek).kind == .string)
  let s ← leafTree "string"
  return [s.labelled "source"]

/-- A name for everything a module exports. -/
def namespaceImport : Parser Tree := do
  let star ← tokenTree
  expectName "as"
  let name ← nameTree
  return Tree.join "namespace_import" [star, name]

/-- The names that an import binds. -/
def importClause (n : Nat) : Parser Tree := do
  let t ← peek
  if t.isOperator "*" then return Tree.join "import_clause" [← namespaceImport]
  else if t.isOperator "\x7b" then
    return Tree.join "import_clause" [← specifiers n "named_imports" "import_specifier"]
  else
    let name ← nameTree
    if ← eat "," then
      let rest ←
        if ← at? "*" then namespaceImport else specifiers n "named_imports" "import_specifier"
      return Tree.join "import_clause" [name, rest]
    else return Tree.join "import_clause" [name]

/-- An import statement after its first word. -/
def importTail (goals : Goals) (n : Nat) (word : Tree) : Parser Tree := do
  let t ← peek
  if t.kind == .string then
    let s ← leafTree "string"
    let attrs ← importAttributes goals n
    let close ← optSemicolon
    return Tree.join "import_statement" (word :: s.labelled "source" :: attrs ++ close)
  let clause ← importClause n
  let source ← fromClause
  let attrs ← importAttributes goals n
  let close ← optSemicolon
  return Tree.join "import_statement" (word :: clause :: source ++ attrs ++ close)

/-- An import by assignment: of a required module or of a dotted name. -/
def importAssignment (goals : Goals) (n : Nat) (word : Tree) : Parser Tree := do
  let name ← nameTree
  expect "="
  let u ← second
  if (← atName? "require") && u.isOperator "(" then
    let _ ← next
    let _ ← arguments goals n
    let close ← optSemicolon
    return Tree.join "import_statement" (word :: Tree.join "import_require_clause" [name] :: close)
  else
    dottedName n
    let close ← optSemicolon
    return Tree.join "import_alias" (word :: name :: close)

/-- An import statement. In the language with types the word `type` may follow. -/
def importStatement (goals : Goals) (n : Nat) : Parser Tree := do
  let word ← tokenTree
  if (← dialect).hasTypes then
    let plain := Parser.or (importTail goals n word) (importAssignment goals n word)
    let t ← peek
    if t.isOneOf ["type", "typeof"] then
      let marked : Parser Tree := do
        let mark ← tokenTree
        let tree ← Parser.or (importTail goals n word) (importAssignment goals n word)
        return { tree with children := tree.children.take 1 ++ mark :: tree.children.drop 1 }
      Parser.or marked plain
    else plain
  else importTail goals n word

/-- A declaration that may be exported, if one is ahead. -/
def exportable (goals : Goals) (n : Nat) : Parser (Option Tree) := do
  let t ← peek
  let typed := (← dialect).hasTypes
  if typed then
    if let some d ← typedDeclaration goals n then return some d
    if ← atAmbient then return some (← ambient goals)
    if t.isName "import" then return some (← importStatement goals n)
  if ← atVariables then return some (← variableDeclaration goals n)
  else if ← atUsing then return some (← usingDeclaration goals n)
  else if ← atFunction then return some (← function goals n true)
  else if t.isName "class" || t.isOperator "@" then
    let ds ← decorators goals n
    return some (← classRule goals n (classParent goals n) ds true)
  else return none

/-- What a default export exports: a declaration with a name, or an expression. -/
def defaultExport (goals : Goals) (n : Nat) : Parser (List Tree) := do
  let t ← peek
  let u ← second
  let typed := (← dialect).hasTypes
  let declared ←
    if ← atFunction then some <$> function goals n true
    else if t.isName "class" || t.isOperator "@"
        || (typed && t.isName "abstract" && u.isName "class")
    then do
      let ds ← decorators goals n
      some <$> classRule goals n (classParent goals n) ds true
    else if typed && t.isName "interface" && u.kind == .name then some <$> interface goals n
    else pure none
  match declared with
  | some d =>
    let expression := ["function_expression", "generator_function", "class"].contains d.kind
    let close ← optSemicolon
    return d.labelled (if expression then "value" else "declaration") :: close
  | none =>
    let e ← goals (.single {})
    let close ← optSemicolon
    return e.labelled "value" :: close

/-- An export statement after its decorators. -/
def exportStatement (goals : Goals) (n : Nat) (ds : List Tree) : Parser Tree := do
  let word ← tokenTree
  let head := ds ++ [word]
  let t ← peek
  let u ← second
  let typed := (← dialect).hasTypes
  if t.isName "default" then
    let mark ← tokenTree
    let rest ← defaultExport goals n
    return Tree.join "export_statement" (head ++ mark :: rest)
  else if t.isOperator "*" then
    let star ← tokenTree
    let name ← if ← eatName "as" then do pure [← specifier "namespace_export"] else pure []
    let source ← fromClause
    let attrs ← importAttributes goals n
    let close ← optSemicolon
    return Tree.join "export_statement" (head ++ star :: name ++ source ++ attrs ++ close)
  else if t.isOperator "\x7b" then clause head
  else if typed && t.isOperator "=" then
    let mark ← tokenTree
    let e ← goals (.expression {})
    let close ← optSemicolon
    return Tree.join "export_statement" (head ++ mark :: e :: close)
  else if typed && t.isName "as" && u.isName "namespace" then
    let _ ← next
    let _ ← next
    let name ← nameTree
    let close ← optSemicolon
    return Tree.join "export_statement" (head ++ name :: close)
  else if typed && t.isName "type" && (u.isOperator "\x7b" || u.isOperator "*") then
    let mark ← tokenTree
    if ← at? "*" then
      let _ ← next
      let _ ← if ← eatName "as" then some <$> specifier "namespace_export" else pure none
      let source ← fromClause
      let close ← optSemicolon
      return Tree.join "export_statement" (head ++ mark :: source ++ close)
    else clause (head ++ [mark])
  else
    match ← exportable goals n with
    | some d => return Tree.join "export_statement" (head ++ [d.labelled "declaration"])
    | none => fail
where
  /-- Names in braces, possibly taken from another module. -/
  clause (head : List Tree) : Parser Tree := do
    let c ← specifiers n "export_clause" "export_specifier"
    let source ← if ← atName? "from" then fromClause else pure []
    let attrs ← importAttributes goals n
    let close ← optSemicolon
    return Tree.join "export_statement" (head ++ c :: source ++ attrs ++ close)

/-! ### Statements -/

/-- Statements up to a closing brace or a word of a `switch`. -/
def statements (goals : Goals) (n : Nat) : Parser (List Tree) :=
  many (do
    let t ← peek
    let u ← second
    if t.isOperator "\x7d" || t.kind == .eof then return none
    else if t.isName "case" && !u.isOperator ":" then return none
    else if t.isName "default" && u.isOperator ":" then return none
    else return some (← goals .statement)) n

/-- Statements in braces. -/
def blockRule (goals : Goals) (n : Nat) : Parser Tree := do
  guard (← at? "\x7b")
  let brace ← tokenTree
  let ss ← statements goals n
  expect "\x7d"
  return Tree.join "statement_block" (brace :: ss)

/-- An expression in round brackets, as after `if` and `while`. -/
def condition (goals : Goals) : Parser Tree := do
  expect "("
  let e ← goals (.expression {})
  expect ")"
  return e

/-- A choice between statements. -/
def ifStatement (goals : Goals) : Parser Tree := do
  let word ← tokenTree
  let test ← condition goals
  let yes ← goals .statement
  if ← eatName "else" then
    let no ← goals .statement
    return Tree.join "if_statement" [word, test, yes, no]
  else return Tree.join "if_statement" [word, test, yes]

/-- The head of a loop over the items of a value, after its binding. -/
def overTail (goals : Goals) (left : List Tree) : Parser (List Tree) := do
  let _ ← next
  let e ← goals (.expression {})
  return left ++ [e]

/-- Whether the token ahead goes on with a loop over items. -/
def atOver : Parser Bool := do
  return (← atName? "of") || (← atName? "in")

/-- The rest of a loop with a counter, from its first semicolon. -/
def countedTail (goals : Goals) (start : List Tree) : Parser (List Tree) := do
  expect ";"
  let test ← if ← at? ";" then pure [] else pure [← goals (.expression {})]
  expect ";"
  let step ← if ← at? ")" then pure [] else pure [← goals (.expression {})]
  return start ++ test ++ step

/-- The part of a loop in round brackets. A loop over items binds names but declares
    no variable; a loop with a counter may hold a declaration. -/
def loopHead (goals : Goals) (n : Nat) : Parser (String × List Tree) := do
  let t ← peek
  if t.isOperator ";" then return ("for_statement", ← countedTail goals [])
  else if (← atVariables) || (← atUsing) then
    let word ← tokenTree
    let ds ← declarators goals n false
    if ← atOver then
      return ("for_in_statement", ← overTail goals (word :: ds.flatMap (·.children)))
    else
      let d := Tree.join (if t.isName "using" then "using_declaration" else variablesKind word.text)
        (word :: ds)
      return ("for_statement", ← countedTail goals [d.labelled "initializer"])
  else
    let e ← goals (.expression { allowIn := false })
    if ← atOver then return ("for_in_statement", ← overTail goals [e])
    else return ("for_statement", ← countedTail goals [e])

/-- A loop with a head. -/
def forStatement (goals : Goals) (n : Nat) : Parser Tree := do
  let word ← tokenTree
  let _ ← eatName "await"
  expect "("
  let (kind, head) ← loopHead goals n
  expect ")"
  let body ← goals .statement
  return Tree.join kind (word :: head ++ [body.labelled "body"])

/-- A choice between cases. -/
def switchStatement (goals : Goals) (n : Nat) : Parser Tree := do
  let word ← tokenTree
  let value ← condition goals
  expect "\x7b"
  let branches ← many (do
    let t ← peek
    if t.isOperator "\x7d" then return none
    let label ← tokenTree
    let test ← if t.isName "case" then pure [← goals (.expression {})] else pure []
    expect ":"
    let ss ← statements goals n
    return some (Tree.join "switch_case" (label :: test ++ ss))) n
  expect "\x7d"
  return Tree.join "switch_statement" (word :: value :: branches)

/-- A block whose failures are handled. -/
def tryStatement (goals : Goals) : Parser Tree := do
  let word ← tokenTree
  let body ← goals .block
  let handler ←
    if ← eatName "catch" then do
      let p ← if ← eat "(" then do
          let b ← goals .binding
          let type ← optAnnotation goals
          expect ")"
          pure (b :: type)
        else pure []
      let b ← goals .block
      pure (p ++ [b])
    else pure []
  let final ← if ← eatName "finally" then pure [← goals .block] else pure []
  return Tree.join "try_statement" (word :: body :: handler ++ final)

/-- A statement of one word and an optional expression on the same line. -/
def wordStatement (goals : Goals) (kind : String) : Parser Tree := do
  let word ← tokenTree
  let t ← peek
  let ends := t.isOperator ";" || t.isOperator "\x7d" || t.kind == .eof
    || (t.newline && !(t.kind == .operator && ["(", "["].contains t.text))
  let e ← if ends then pure [] else pure [← goals (.expression {})]
  let close ← optSemicolon
  return Tree.join kind (word :: e ++ close)

/-- A jump, with the label it goes to. -/
def jumpStatement (kind : String) : Parser Tree := do
  let word ← tokenTree
  let t ← peek
  let label ← if t.kind == .name && !t.newline then pure [← leafTree "statement_identifier"]
    else pure []
  let close ← optSemicolon
  return Tree.join kind (word :: label ++ close)

/-- An expression as a statement. -/
def expressionStatement (goals : Goals) : Parser Tree := do
  let e ← goals (.expression {})
  let close ← optSemicolon
  return Tree.join "expression_statement" (e :: close)

/-- A statement that starts with a given word, if there is a rule for that word. -/
def wordRule? (goals : Goals) (n : Nat) : String → Option (Parser Tree)
  | "if" => some (ifStatement goals)
  | "for" => some (forStatement goals n)
  | "while" => some do
    let word ← tokenTree
    let test ← condition goals
    let body ← goals .statement
    return Tree.join "while_statement" [word, test, body]
  | "do" => some do
    let word ← tokenTree
    let body ← goals .statement
    expectName "while"
    let test ← condition goals
    let close ← optSemicolon
    return Tree.join "do_statement" (word :: body :: test :: close)
  | "switch" => some (switchStatement goals n)
  | "try" => some (tryStatement goals)
  | "return" => some (wordStatement goals "return_statement")
  | "throw" => some (wordStatement goals "throw_statement")
  | "break" => some (jumpStatement "break_statement")
  | "continue" => some (jumpStatement "continue_statement")
  | "debugger" => some (jumpStatement "debugger_statement")
  | "with" => some do
    let word ← tokenTree
    let test ← condition goals
    let body ← goals .statement
    return Tree.join "with_statement" [word, test, body]
  | _ => none

/-- A statement that starts with decorators: a class, possibly exported. -/
def decorated (goals : Goals) (n : Nat) : Parser Tree := do
  let ds ← decorators goals n
  if ← atName? "export" then exportStatement goals n ds
  else classRule goals n (classParent goals n) ds true

/-- Whether a text starts with a mark that hides a script from a web page. Such a mark
    makes the rest of its line a comment. -/
def startsHidingMark (cs : List Char) : Bool :=
  "<!--".toList.isPrefixOf cs || "-->".toList.isPrefixOf cs

/-- A line that a mark makes a comment. -/
def hiddenLine : Parser Tree := do
  let t ← peek
  rawAfter fun cs => (cs.takeWhile fun c => !isLineEnd c).length
  return Tree.leaf "html_comment" "" t.row

/-- A statement. -/
def statementRule (goals : Goals) (n : Nat) : Parser Tree := do
  let t ← peek
  let u ← second
  if t.kind == .operator then
    if t.text == "\x7b" then goals .block
    else if startsHidingMark t.start.rest then hiddenLine
    else if t.text == ";" then
      let close ← tokenTree
      return Tree.join "empty_statement" [close]
    else if t.text == "@" then decorated goals n
    else expressionStatement goals
  else if t.kind == .name then
    if u.isOperator ":" then
      let label ← leafTree "statement_identifier"
      let _ ← next
      let body ← goals .statement
      return Tree.join "labeled_statement" [label, body]
    else if u.isOperator "=>" || u.isOperator "." && t.text != "import" then
      expressionStatement goals
    else
      match wordRule? goals n t.text with
      | some rule => rule
      | none =>
        if t.text == "import" && !(u.isOperator "(" || u.isOperator ".") then
          importStatement goals n
        else if t.text == "export" then exportStatement goals n []
        else if t.text == "import" then expressionStatement goals
        else if t.text == "await" && u.isName "using" then
          match ← attempt (do
            let _ ← next
            guard (← atUsing)
            usingDeclaration goals n) with
          | some d => return d
          | none => expressionStatement goals
        else
          match ← exportable goals n with
          | some d => return d
          | none => expressionStatement goals
  else expressionStatement goals

/-! ### The grammar as a whole -/

/-- The rule for a goal, given the parser of the goals nested in it. -/
def rule (goals : Goals) (n : Nat) : Goal → Parser Tree
  | .statement => statementRule goals n
  | .block => blockRule goals n
  | .expression c => expressionRule goals n c
  | .single c => singleRule goals c
  | .operands least c => operandsRule goals n least c
  | .unary c => unaryRule goals n c
  | .binding => bindingRule goals n
  | .type => typeRule goals n
  | .markup => markupRule goals n

/-- The parser of goals that nest at most a given number of levels. -/
def goal : (depth : Nat) → Goal → Parser Tree
  | 0, _ => fail
  | depth + 1, g => rule (goal depth) depth g

/-- The next statement of a file, or nothing at its end. A token at which no
    statement starts is a node of its own, so that the statements after it are still
    found. -/
def fileItem (depth : Nat) : Parser (Option Tree) := do
  if (← peek).kind == .eof then return none
  match ← attempt (goal depth .statement) with
  | some t => return some t
  | none =>
    let t ← tokenTree
    return some (Tree.join "ERROR" [t])

/-- The text after a first line that names an interpreter. -/
def afterInterpreterLine (cs : List Char) : Nat :=
  match cs with
  | '#' :: '!' :: rest => 2 + (rest.takeWhile fun c => !isLineEnd c).length
  | _ => 0

/-- The tree of a source file. -/
def parse (d : Dialect) (source : String) : Tree :=
  let cs := source.toList
  let start : Cursor := { rest := cs }
  let start := start.skip (afterInterpreterLine cs)
  let depth := 8 * cs.length + 64
  match many (fileItem depth) (cs.length + 1) d (State.ofCursor start 0) with
  | some (items, _) => { kind := "program", children := items }
  | none => { kind := "program" }

end SymbolGraph.Source.Grammar
