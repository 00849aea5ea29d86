import SymbolGraph.Source.Grammar.Bindings

/-! # Markup elements

    Rules for markup elements in expressions. Between its tags an element holds raw
    text, in which only an angle bracket or a brace is special, so the parser steps
    from tags to text by hand: `markupRule` leaves the last bracket of an element
    ahead, and its caller decides how the characters after it are read.
-/

namespace SymbolGraph.Source.Grammar

open SymbolGraph.Source.Parser

/-- A name in a tag, with hyphens, dots and colons. -/
def markupName (n : Nat) : Parser Unit := do
  word
  let _ ← many (do
    if (← at? ".") || (← at? ":") then
      let _ ← next
      word
      return some ()
    else return none) n
where
  /-- A word with hyphens. -/
  word : Parser Unit := do
    let t ← peek
    guard (t.kind == .name)
    retake .name (markupNameLength t.start.rest)
    let _ ← next

/-- The value of an attribute: quoted text, an expression in braces or an element. -/
def attributeValue (goals : Goals) : Parser (List Tree) := do
  let t ← peek
  if t.kind == .string then
    retake .string (1 + markupStringLength (t.text.toList.headD '"') (t.start.rest.drop 1))
    let _ ← next
    return []
  else if t.isOperator "\x7b" then
    let _ ← next
    let e ← goals (.expression {})
    expect "\x7d"
    return [e]
  else
    let e ← goals .markup
    closeAngle
    return [e]

/-- An attribute of a tag, or an object whose fields are attributes. -/
def markupAttribute (goals : Goals) (n : Nat) : Parser (List Tree) := do
  if ← at? "\x7b" then
    let _ ← next
    let _ ← eat "..."
    let e ← goals (.expression {})
    expect "\x7d"
    return [e]
  markupName n
  if ← eat "=" then attributeValue goals else return []

/-- The text, expressions and elements between two tags. The bracket that closes the
    opening tag is ahead; the bracket that opens the closing tag is left ahead. -/
def markupChildren (goals : Goals) (n : Nat) : Parser (List Tree) := do
  rawAfter markupTextLength
  let parts ← many (do
    let t ← peek
    let u ← second
    if t.isOperator "\x7b" then
      let _ ← next
      let _ ← eat "..."
      let e ← if ← at? "\x7d" then pure [] else pure [← goals (.expression {})]
      guard (← at? "\x7d")
      rawAfter markupTextLength
      return some e
    else if (t.isOperator "<") && !u.isOperator "/" then
      let e ← goals .markup
      rawAfter markupTextLength
      return some [e]
    else return none) n
  return parts.flatten

/-- An element; the bracket that ends it is left ahead. -/
def markupRule (goals : Goals) (n : Nat) : Parser Tree := do
  let row := (← peek).row
  expect "<"
  let attributes ←
    if ← atCloseAngle then pure []
    else do
      markupName n
      let types ← if (← dialect).hasTypes then optTypeArguments goals n else pure []
      let attributes ← many (do
        if (← atCloseAngle) || (← at? "/") then return none
        return some (← markupAttribute goals n)) n
      pure (types ++ attributes.flatten)
  if ← eat "/" then
    narrowAngle
    return { kind := "jsx_self_closing_element", row := row, children := attributes }
  narrowAngle
  let inner ← markupChildren goals n
  expect "<"
  expect "/"
  if !(← atCloseAngle) then markupName n
  narrowAngle
  return { kind := "jsx_element", row := row, children := attributes ++ inner }

end SymbolGraph.Source.Grammar
