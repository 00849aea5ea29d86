import SymbolGraph.Text.Blank
import SymbolGraph.Text.Emoji

/-! # Marked-up text

    Text in tables is marked up: a tag in square brackets opens a style, a tag that
    starts with a slash closes one, and a name between colons stands for a picture.
    Styles are not shown here, so tags just disappear. A bracket that does not start
    a tag stays, and a backslash takes a tag its meaning.

    A tag that closes a style which is not open is a fault.
-/

namespace SymbolGraph.Screen

/-- A closing tag without an open style of its name. -/
inductive MarkupFault where
  | unopened (tag : String)
deriving DecidableEq, Inhabited, Repr

/-- A part of a marked-up text. -/
inductive Piece where
  | text (cs : List Char)
  | tag (content : List Char)
deriving DecidableEq, Inhabited, Repr

/-! ### Pictures -/

/-- The name of a picture without the ending that asks for a way to show it, and what
    that ending adds. -/
def pictureName (body : List Char) : List Char × List Char :=
  if "-emoji".toList.isSuffixOf body then (body.take (body.length - 6), ['\ufe0f'])
  else if "-text".toList.isSuffixOf body then (body.take (body.length - 5), ['\ufe0e'])
  else (body, [])

/-- The picture for the text between two colons. -/
def picture? (body : List Char) : Option (List Char) :=
  let (name, variant) := pictureName body
  (Text.emoji? (String.ofList name)).map (· ++ variant)

/-- A text with pictures in place of their names. The colons of a name that stands for
    no picture do not start or end another name. -/
def withPictures : List Char → List Char
  | [] => []
  | ':' :: rest =>
    let body := rest.takeWhile fun c => c ≠ ':' && !Text.isBlank c
    match rest.drop body.length with
    | ':' :: _ =>
      (picture? body).getD (':' :: body ++ [':']) ++ withPictures (rest.drop (body.length + 1))
    | _ => ':' :: withPictures rest
  | c :: rest => c :: withPictures rest
termination_by cs => cs.length
decreasing_by all_goals (simp only [List.length_cons, List.length_drop]; omega)

/-! ### Tags -/

/-- Whether a character may start the content of a tag. -/
def startsTag (c : Char) : Bool :=
  ('a' ≤ c && c ≤ 'z') || c == '#' || c == '/' || c == '@'

/-- The content of a tag at the front of a text. -/
def tag? : List Char → Option (List Char)
  | '[' :: c :: rest =>
    if startsTag c then
      let more := rest.takeWhile fun d => d ≠ '[' && d ≠ ']'
      if (rest.drop more.length).head? = some ']' then some (c :: more) else none
    else none
  | _ => none

/-- A text as a list of pieces, if it is not empty. -/
def textPiece (read : List Char) : List Piece :=
  if read.isEmpty then [] else [.text read.reverse]

/-- The pieces of a marked-up text. `read` holds the characters since the last tag,
    last first. Backslashes before a tag stand for half as many; an odd one makes
    the tag a text. -/
def pieces (read : List Char) : List Char → List Piece
  | [] => textPiece read
  | c :: rest =>
    let slashes := (c :: rest).takeWhile (· = '\\')
    match tag? ((c :: rest).drop slashes.length) with
    | some content =>
      let after := rest.drop (slashes.length + content.length + 1)
      let half := textPiece (List.replicate (slashes.length / 2) '\\')
      if slashes.length % 2 = 1 then
        textPiece read ++ half ++ .text ('[' :: content ++ [']']) :: pieces [] after
      else textPiece read ++ half ++ .tag content :: pieces [] after
    | none =>
      if slashes.isEmpty then pieces (c :: read) rest
      else pieces (slashes ++ read) (rest.drop (slashes.length - 1))
termination_by cs => cs.length
decreasing_by all_goals (simp only [List.length_cons, List.length_drop]; omega)

/-- A text in which a backslash before a bracket is dropped. -/
def unescaped : List Char → List Char
  | '\\' :: '[' :: rest => '[' :: unescaped rest
  | c :: rest => c :: unescaped rest
  | [] => []

/-- Short names of styles. -/
def styleNames : List (String × String) :=
  [("b", "bold"), ("d", "dim"), ("i", "italic"), ("u", "underline"), ("uu", "underline2"),
   ("r", "reverse"), ("c", "conceal"), ("s", "strike"), ("o", "overline")]

/-- The name by which a style is known. -/
def styleName (cs : List Char) : String :=
  let name := Text.lower (String.ofList (Text.strip cs))
  (styleNames.lookup name).getD name

/-- The part of a tag before an equals sign. -/
def tagName (content : List Char) : List Char :=
  content.takeWhile (· ≠ '=')

/-- The open styles after a tag, the innermost first. -/
def openAfter (styles : List String) (content : List Char) : Except MarkupFault (List String) :=
  match tagName content with
  | '/' :: name =>
    let fault := MarkupFault.unopened (String.ofList content)
    if (Text.strip name).isEmpty then
      match styles with
      | [] => .error fault
      | _ :: rest => .ok rest
    else if styles.contains (styleName name) then .ok (styles.erase (styleName name))
    else .error fault
  | name => .ok (styleName name :: styles)

/-- The text of pieces, while some styles are open. -/
def plainPieces (styles : List String) : List Piece → Except MarkupFault (List Char)
  | [] => .ok []
  | .text cs :: rest => do
    return withPictures (unescaped cs) ++ (← plainPieces styles rest)
  | .tag content :: rest => do plainPieces (← openAfter styles content) rest

/-- Whether a character only moves the writing position or rings a bell. -/
def isControl (c : Char) : Bool :=
  [7, 8, 11, 12, 13].contains c.toNat

/-- The text that a marked-up text shows. -/
def plain (s : String) : Except MarkupFault (List Char) := do
  return (← plainPieces [] (pieces [] s.toList)).filter fun c => !isControl c

end SymbolGraph.Screen
