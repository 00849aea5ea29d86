import SymbolGraph.Source.Letter

/-! # Tokens of source text

    Tokens are found on demand, because what a slash or an angle bracket starts
    depends on what the grammar expects there. A `Cursor` is a place in the text;
    `Cursor.token` skips white space and comments and finds the token that follows,
    reading a slash as an operator. The grammar asks for the other readings:
    `Cursor.regex`, `Cursor.template` and `Cursor.markupText`.

    All scanning goes forward through a list of characters, so it ends with the
    text at the latest.
-/

namespace SymbolGraph.Source

/-- A place in a source text: what follows it, its row and its offset. -/
structure Cursor where
  rest : List Char
  row : Nat := 0
  offset : Nat := 0
deriving Inhabited

namespace Cursor

/-- The cursor after `n` characters. -/
def skip (c : Cursor) (n : Nat) : Cursor :=
  { rest := c.rest.drop n
    row := c.row + (c.rest.take n).count '\n'
    offset := c.offset + n }

/-- The text between two cursors. -/
def textTo (c : Cursor) (stop : Nat) : String :=
  String.ofList (c.rest.take (stop - c.offset))

end Cursor

/-- What a token is. Keywords are names: the grammar tells them by their text. -/
inductive TokenKind where
  | name
  | privateName
  | number
  | string
  /-- A backtick that opens a template. -/
  | template
  | operator
  | eof
  | unknown
deriving DecidableEq, Inhabited, Repr

/-- A token with its place. -/
structure Token where
  kind : TokenKind
  text : String
  start : Cursor
  /-- Whether a line ends between the previous token and this one. -/
  newline : Bool := false
  /-- Whether a comment stands between the previous token and this one. -/
  comment : Bool := false
deriving Inhabited

namespace Token

/-- The row of a token. -/
def row (t : Token) : Int :=
  t.start.row

/-- Whether a token is the operator or bracket `s`. -/
def isOperator (t : Token) (s : String) : Bool :=
  t.kind == .operator && t.text == s

/-- Whether a token is the name `s`. -/
def isName (t : Token) (s : String) : Bool :=
  t.kind == .name && t.text == s

/-- Whether a token is one of some names. -/
def isOneOf (t : Token) (ss : List String) : Bool :=
  t.kind == .name && ss.contains t.text

end Token

/-! ### White space and comments -/

/-- The number of characters of a block comment after its opening. -/
def blockCommentLength : List Char → Nat
  | [] => 0
  | '*' :: '/' :: _ => 2
  | _ :: rest => blockCommentLength rest + 1

/-- What was skipped before a token. -/
structure Gap where
  length : Nat := 0
  newline : Bool := false
  comment : Bool := false

/-- The white space and comments at the front of a text. -/
def gapFrom (g : Gap) : List Char → Gap
  | [] => g
  | '/' :: '/' :: rest =>
    let n := (rest.takeWhile fun c => !isLineEnd c).length
    gapFrom { g with length := g.length + 2 + n, comment := true } (rest.drop n)
  | '/' :: '*' :: rest =>
    let n := blockCommentLength rest
    let broken := (rest.take n).any isLineEnd
    gapFrom { length := g.length + 2 + n, newline := g.newline || broken, comment := true }
      (rest.drop n)
  | c :: rest =>
    if isSpace c then
      gapFrom { g with length := g.length + 1, newline := g.newline || isLineEnd c } rest
    else g
termination_by cs => cs.length
decreasing_by all_goals simp; try omega

/-! ### Token lengths -/

/-- The length of a name: name characters and `\u` escapes. -/
def nameLength : List Char → Nat
  | [] => 0
  | '\\' :: 'u' :: '\x7b' :: rest =>
    let n := (rest.takeWhile (· ≠ '\x7d')).length + 1
    3 + n + nameLength (rest.drop n)
  | '\\' :: 'u' :: rest => 6 + nameLength (rest.drop 4)
  | c :: rest => if isNameChar c then 1 + nameLength rest else 0
termination_by cs => cs.length
decreasing_by all_goals simp; try omega

/-- The length of a string after its opening quote `q`, the closing quote included. -/
def stringLength (q : Char) : List Char → Nat
  | [] => 0
  | '\\' :: _ :: rest => 2 + stringLength q rest
  | c :: rest => if c = q then 1 else 1 + stringLength q rest

/-- The length of a run of digits and separators. -/
def digitsLength (cs : List Char) : Nat :=
  (cs.takeWhile fun c => isDigit c || c == '_').length

/-- The length of a number's exponent. -/
def exponentLength : List Char → Nat
  | e :: rest =>
    if e = 'e' ∨ e = 'E' then
      match rest with
      | s :: more =>
        if s = '+' ∨ s = '-' then 2 + digitsLength more else 1 + digitsLength rest
      | [] => 1
    else 0
  | [] => 0

/-- The length of a number. -/
def numberLength (cs : List Char) : Nat :=
  match cs with
  | '0' :: b :: rest =>
    if ['x', 'X', 'o', 'O', 'b', 'B'].contains b then
      2 + (rest.takeWhile fun c => isNameChar c).length
    else decimal cs
  | _ => decimal cs
where
  /-- The length of a decimal number. -/
  decimal (cs : List Char) : Nat :=
    let whole := digitsLength cs
    let rest := cs.drop whole
    let fraction := match rest with
      | '.' :: more => 1 + digitsLength more
      | _ => 0
    let rest := rest.drop fraction
    let exponent := exponentLength rest
    let big := match rest.drop exponent with
      | 'n' :: _ => 1
      | _ => 0
    whole + fraction + exponent + big

/-- The operators of more than one character, longer ones first. -/
def longOperators : List (List Char) :=
  [">>>=", "...", "===", "!==", "**=", "<<=", ">>=", ">>>", "&&=", "||=", "??=", "=>", "==",
   "!=", "<=", ">=", "&&", "||", "??", "?.", "++", "--", "+=", "-=", "*=", "/=", "%=", "&=",
   "|=", "^=", "<<", ">>", "**"].map String.toList

/-- The length of the operator at the front of a text. The mark `?.` before a digit
    is a question mark and a fraction. -/
def operatorLength (cs : List Char) : Nat :=
  match cs with
  | '?' :: '.' :: d :: _ => if isDigit d then 1 else 2
  | _ => match longOperators.find? fun op => op.isPrefixOf cs with
    | some op => op.length
    | none => 1

/-- The kind and the length of the token at the front of a text. -/
def classify (cs : List Char) : TokenKind × Nat :=
  match cs with
  | [] => (.eof, 0)
  | '"' :: rest => (.string, 1 + stringLength '"' rest)
  | '\'' :: rest => (.string, 1 + stringLength '\'' rest)
  | '`' :: _ => (.template, 1)
  | '#' :: rest =>
    let n := nameLength rest
    if n = 0 then (.unknown, 1) else (.privateName, 1 + n)
  | '\\' :: _ => (.name, max 1 (nameLength cs))
  | '.' :: d :: _ =>
    if isDigit d then (.number, numberLength cs) else (.operator, operatorLength cs)
  | c :: _ =>
    if isDigit c then (.number, numberLength cs)
    else if isNameStart c then (.name, nameLength cs)
    else if c.toNat ≤ 0x1f then (.unknown, 1)
    else (.operator, operatorLength cs)

namespace Cursor

/-- The token that follows a cursor, and the cursor after it. -/
def token (c : Cursor) : Token × Cursor :=
  let gap := gapFrom {} c.rest
  let start := c.skip gap.length
  let (kind, n) := classify start.rest
  let stop := start.skip n
  let text := String.ofList (start.rest.take n)
  ({ kind := kind, text := text, start := start, newline := gap.newline, comment := gap.comment },
   stop)

end Cursor

/-! ### Readings that the grammar asks for -/

/-- The length of a regular expression after its opening slash, flags included.
    A slash inside square brackets does not end it. -/
def regexLength (inClass : Bool) : List Char → Nat
  | [] => 0
  | '\\' :: _ :: rest => 2 + regexLength inClass rest
  | c :: rest =>
    if c = '/' ∧ !inClass then 1 + (rest.takeWhile isNameChar).length
    else if c = '[' then 1 + regexLength true rest
    else if c = ']' then 1 + regexLength false rest
    else 1 + regexLength inClass rest

/-- The length of a template's characters up to its end or the next substitution. -/
def templateLength : List Char → Nat
  | [] => 0
  | '\\' :: _ :: rest => 2 + templateLength rest
  | '$' :: '\x7b' :: _ => 0
  | c :: rest => if c = '`' then 0 else 1 + templateLength rest

/-- The length of the text between two tags. -/
def markupTextLength (cs : List Char) : Nat :=
  (cs.takeWhile fun c => c ≠ '<' && c ≠ '\x7b').length

/-- The length of a name in a tag, which may hold hyphens. -/
def markupNameLength (cs : List Char) : Nat :=
  (cs.takeWhile fun c => isNameChar c || c == '-').length

/-- The length of an attribute's quoted text after its opening quote. There are no
    escapes in it. -/
def markupStringLength (q : Char) (cs : List Char) : Nat :=
  (cs.takeWhile (· ≠ q)).length + 1

end SymbolGraph.Source
