import SymbolGraph.Text.Blank
import SymbolGraph.Text.Width

/-! # Fitting text into lines

    A text is broken into lines of a given width. Lines are broken between words; a
    word that is too long for a line is either folded over several lines or cut and
    ended with an ellipsis. Then every line is moved to the left, to the middle or to
    the right, and filled up with spaces.
-/

namespace SymbolGraph.Screen

/-- Where a text stands in its line. -/
inductive Side where
  | left
  | middle
  | right
deriving DecidableEq, Inhabited, Repr

/-- What becomes of a word that is too long for a line. -/
inductive Overflow where
  | fold
  | ellipsis
deriving DecidableEq, Inhabited, Repr

/-! ### Breaking -/

/-- The first word of a text with the white space around it; nothing if the text is all
    white space. -/
def firstWord (cs : List Char) : List Char :=
  let lead := cs.takeWhile Text.isBlank
  let rest := cs.drop lead.length
  let body := rest.takeWhile fun c => !Text.isBlank c
  if body.isEmpty then []
  else lead ++ body ++ (rest.drop body.length).takeWhile Text.isBlank

/-- The words of a text, each with the white space after it; the first has that before
    it, too. White space alone is no word. -/
def words (cs : List Char) : List (List Char) :=
  if _h : 0 < (firstWord cs).length ∧ 0 < cs.length then
    firstWord cs :: words (cs.drop (firstWord cs).length)
  else []
termination_by cs.length
decreasing_by simp only [List.length_drop]; omega

/-- A text without the white space at its end. -/
def trimEnd (cs : List Char) : List Char :=
  (cs.reverse.dropWhile Text.isBlank).reverse

/-- Cut a word into pieces that each fit a width. `piece` holds the piece begun, last
    character first, and `used` is its width. -/
def chop (width : Nat) (piece : List Char) (used : Nat) : List Char → List (List Char)
  | [] => [piece.reverse]
  | c :: rest =>
    if used + Text.charWidth c > width then
      piece.reverse :: chop width [c] (Text.charWidth c) rest
    else chop width (c :: piece) (used + Text.charWidth c) rest

/-- Lines in the making: those that are done, last first, and the one begun with its
    width. -/
structure Draft where
  done : List (List Char) := []
  line : List Char := []
  used : Nat := 0
deriving Inhabited

/-- End the line begun, if there is anything on it, and begin another. -/
def Draft.next (d : Draft) (line : List Char) : Draft :=
  { done := if d.line.isEmpty then d.done else d.line :: d.done
    line := line
    used := Text.width line }

/-- Add a word to lines. -/
def Draft.add (width : Nat) (o : Overflow) (d : Draft) (word : List Char) : Draft :=
  let size := Text.width (trimEnd word)
  if d.used + size ≤ width then
    { d with line := d.line ++ word, used := d.used + Text.width word }
  else if size > width ∧ o = .fold then
    (chop width [] 0 word).foldl Draft.next d
  else d.next word

/-- Break a line into lines of a width. -/
def broken (width : Nat) (o : Overflow) (cs : List Char) : List (List Char) :=
  match words cs with
  | [] => [cs]
  | ws =>
    let d := ws.foldl (Draft.add width o) {}
    (d.line :: d.done).reverse

/-! ### Cutting and filling -/

/-- Spaces. -/
def spaces (n : Nat) : List Char :=
  List.replicate n ' '

/-- The longest beginning of a text that fits a width. -/
def fitting (width : Nat) : List Char → List Char
  | [] => []
  | c :: rest =>
    if Text.charWidth c ≤ width then c :: fitting (width - Text.charWidth c) rest else []

/-- A text filled up with spaces. -/
def filled (width : Nat) (cs : List Char) : List Char :=
  cs ++ spaces (width - Text.width cs)

/-- A text cut or filled up to a width. -/
def sized (width : Nat) (cs : List Char) : List Char :=
  if Text.width cs ≤ width then filled width cs else filled width (fitting width cs)

/-- A text cut to a width, if it is wider. -/
def cut (width : Nat) (o : Overflow) (cs : List Char) : List Char :=
  if Text.width cs ≤ width then cs
  else match o with
    | .fold => sized width cs
    | .ellipsis => sized (width - 1) cs ++ ['…']

/-- A line without the white space at its end that makes it too long. -/
def withoutExcess (width : Nat) (cs : List Char) : List Char :=
  let blanks := (cs.reverse.takeWhile Text.isBlank).length
  cs.take (cs.length - min blanks (cs.length - width))

/-- A line moved to its side and filled up. -/
def placed (width : Nat) (o : Overflow) (side : Side) (cs : List Char) : List Char :=
  match side with
  | .left => filled width (cut width o cs)
  | .middle =>
    let cs := cut width o (trimEnd cs)
    filled width (spaces ((width - Text.width cs) / 2) ++ cs)
  | .right =>
    let cs := cut width o (trimEnd cs)
    spaces (width - Text.width cs) ++ cs

/-- The lines of a text, each of a given width. -/
def fitted (width : Nat) (o : Overflow) (side : Side) (cs : List Char) : List (List Char) :=
  (cs.splitOn '\n').flatMap fun line =>
    (broken width o line).map fun part =>
      sized width (placed width o side (withoutExcess width part))

end SymbolGraph.Screen
