import SymbolGraph.Source.Dialect
import SymbolGraph.Source.Token
import SymbolGraph.Source.Tree

/-! # Parsers of source text

    A `Parser` reads tokens one at a time and may fail; failing leaves no trace, so
    alternatives can be tried in turn. `Parser.many` repeats a parser a bounded
    number of times, and `Goal` names the parts of the grammar that contain each
    other: the grammar's rules take the parser of goals as an argument, and the knot
    is tied once, with a bound on the nesting.
-/

namespace SymbolGraph.Source

/-- Where a parser stands: the token it looks at, the place after that token, and
    the offset at which the last token taken ended. -/
structure State where
  token : Token
  after : Cursor
  taken : Nat := 0
deriving Inhabited

/-- The state that looks at the first token after a cursor. -/
def State.ofCursor (c : Cursor) (taken : Nat) : State :=
  let (token, after) := c.token
  { token := token, after := after, taken := taken }

/-- A parser of `α`. -/
def Parser (α : Type) := Dialect → State → Option (α × State)

namespace Parser

instance : Monad Parser where
  pure a := fun _ s => some (a, s)
  bind p f := fun d s =>
    match p d s with
    | some (a, s) => f a d s
    | none => none

/-- The parser that always fails. -/
def fail {α : Type} : Parser α := fun _ _ => none

/-- The second parser where the first fails. -/
def or {α : Type} (p q : Parser α) : Parser α := fun d s =>
  match p d s with
  | some r => some r
  | none => q d s

/-- The result of a parser, or nothing and no progress if it fails. -/
def attempt {α : Type} (p : Parser α) : Parser (Option α) := fun d s =>
  match p d s with
  | some (a, s) => some (some a, s)
  | none => some (none, s)

/-- What a parser would find, without taking it. -/
def lookAhead {α : Type} (p : Parser α) : Parser (Option α) := fun d s =>
  some ((p d s).map (·.1), s)

/-- The dialect being read. -/
def dialect : Parser Dialect := fun d s => some (d, s)

/-- The token ahead. -/
def peek : Parser Token := fun _ s => some (s.token, s)

/-- Take the token ahead. -/
def next : Parser Token := fun _ s =>
  some (s.token, State.ofCursor s.after s.after.offset)

/-- The token after the one ahead. -/
def second : Parser Token := fun _ s => some (s.after.token.1, s)

/-- The offset at which the last token taken ended. -/
def taken : Parser Nat := fun _ s => some (s.taken, s)

/-- Fail unless a condition holds. -/
def guard (b : Bool) : Parser Unit :=
  if b then pure () else fail

/-- Whether the token ahead is an operator. -/
def at? (op : String) : Parser Bool := do
  return (← peek).isOperator op

/-- Whether the token ahead is a name. -/
def atName? (word : String) : Parser Bool := do
  return (← peek).isName word

/-- Take an operator if it is ahead. -/
def eat (op : String) : Parser Bool := do
  if ← at? op then
    let _ ← next
    return true
  else return false

/-- Take a name if it is ahead. -/
def eatName (word : String) : Parser Bool := do
  if ← atName? word then
    let _ ← next
    return true
  else return false

/-- Take an operator that must be ahead. -/
def expect (op : String) : Parser Unit := do
  guard (← eat op)

/-- Take a name that must be ahead. -/
def expectName (word : String) : Parser Unit := do
  guard (← eatName word)

/-- Take the token ahead as a plain token of the tree. -/
def tokenTree : Parser Tree := do
  let t ← next
  return Tree.token t.text t.row

/-- Take the token ahead as a named node. -/
def leafTree (kind : String) : Parser Tree := do
  let t ← next
  return Tree.leaf kind t.text t.row

/-- Repeat a parser until it finds nothing, at most `fuel` times. -/
def many {α : Type} (p : Parser (Option α)) : (fuel : Nat) → Parser (List α)
  | 0 => pure []
  | fuel + 1 => do
    match ← p with
    | none => return []
    | some a =>
      let rest ← many p fuel
      return a :: rest

/-- Apply a parser to its own result until it finds nothing, at most `fuel` times. -/
def iterate {α : Type} (p : α → Parser (Option α)) : (fuel : Nat) → α → Parser α
  | 0, a => pure a
  | fuel + 1, a => do
    match ← p a with
    | none => return a
    | some b => iterate p fuel b

/-- Look again at the text where the token ahead starts, taking its first `n`
    characters as the token. -/
def retake (kind : TokenKind) (n : Nat) : Parser Unit := fun _ s =>
  let stop := s.token.start.skip n
  let text := String.ofList (s.token.start.rest.take n)
  some ((), { s with token := { s.token with kind := kind, text := text }, after := stop })

/-- Cut an operator that starts with an angle bracket down to that bracket. -/
def narrowAngle : Parser Unit := do
  let t ← peek
  guard (t.kind == .operator && t.text.startsWith ">")
  retake .operator 1

/-- Take a closing angle bracket, the first character of the token ahead. -/
def closeAngle : Parser Unit := do
  narrowAngle
  let _ ← next

/-- Take `n` characters after the token ahead as raw text, and look at what follows. -/
def rawAfter (length : List Char → Nat) : Parser Unit := fun _ s =>
  let c := s.after.skip (length s.after.rest)
  some ((), State.ofCursor c c.offset)

end Parser

/-- What an expression may hold at its outermost level. -/
structure Context where
  /-- Whether `in` is an operator here; it is not at the head of a loop. -/
  allowIn : Bool := true
  /-- Whether the expression stands between the `?` and the `:` of a conditional. -/
  betweenMarks : Bool := false
deriving Inhabited

/-- The parts of the grammar that may contain each other. -/
inductive Goal where
  | statement
  /-- A block in braces. -/
  | block
  /-- Expressions separated by commas. -/
  | expression (c : Context)
  /-- One expression without a comma. -/
  | single (c : Context)
  /-- Operands joined by operators of at least a given strength. -/
  | operands (strength : Nat) (c : Context)
  /-- An operand with the operators in front of it. -/
  | unary (c : Context)
  /-- A variable, or a pattern that takes a value apart. -/
  | binding
  | type
  /-- A markup element; its last token is left ahead. -/
  | markup
deriving Inhabited

/-- The parser of goals, which the grammar's rules take as an argument. -/
abbrev Goals := Goal → Parser Tree

end SymbolGraph.Source
