import SymbolGraph.Number.Binary64
import SymbolGraph.Screen.Lines
import SymbolGraph.Screen.Markup

/-! # Tables on the screen

    A grid is a table with a title, a header for each column, and rows. It is drawn
    with lines around it and between its columns. Columns are as wide as their widest
    cell, as long as the whole fits the screen; otherwise the widest columns are made
    narrower, and their cells go over several lines.
-/

namespace SymbolGraph.Screen

/-- A column of a grid. -/
structure Column where
  header : String
  side : Side := .left
deriving Inhabited, Repr

/-- A table with a title. All its texts are marked up. -/
structure Grid where
  title : String
  columns : List Column
  rows : List (List String)
deriving Inhabited, Repr

/-! ### Widths -/

/-- The sum of some widths. -/
def totalWidth (ws : List Nat) : Nat :=
  ws.foldl Nat.add 0

/-- The widest line of a text. -/
def textWidth (cs : List Char) : Nat :=
  ((cs.splitOn '\n').map Text.width).foldl max 0

/-- The width of a column with given cells and a space on both sides, at most `limit`. -/
def columnWidth (limit : Nat) (cells : List (List Char)) : Nat :=
  min limit ((cells.map textWidth).foldl max 0 + 2)

/-- Take parts of `excess` from the values that are marked, evenly and at most `most`
    from each. `marks` counts the marked values. -/
def reduced (excess most marks : Nat) : List (Nat × Bool) → List Nat
  | [] => []
  | (v, marked) :: rest =>
    if marked ∧ 0 < marks then
      let part := min most (Binary64.roundHalfEven excess marks)
      (v - part) :: reduced (excess - part) most (marks - 1) rest
    else v :: reduced excess most marks rest

/-- Make the widest columns narrower until the whole fits, or until they are no wider
    than the others. -/
def collapsed (limit : Nat) : (fuel : Nat) → List Nat → List Nat
  | 0, ws => ws
  | fuel + 1, ws =>
    let excess := totalWidth ws - limit
    if excess = 0 then ws
    else
      let widest := ws.foldl max 0
      let second := (ws.map fun w => if w = widest then 0 else w).foldl max 0
      let marked := ws.map fun w => (w, w == widest)
      collapsed limit fuel
        (reduced excess (min excess (widest - second)) (ws.count widest) marked)

/-- The widths of columns with given cells that together may be `limit` wide. -/
def columnWidths (limit : Nat) (columns : List (List (List Char))) : List Nat :=
  let ws := columns.map (columnWidth limit)
  if totalWidth ws ≤ limit then ws
  else
    let ws := collapsed limit (totalWidth ws) ws
    List.zipWith columnWidth ws columns

/-! ### Drawing -/

/-- Some lines filled up with blank ones to a height. -/
def heightened (height width : Nat) (fromTop : Bool) (lines : List (List Char)) :
    List (List Char) :=
  let blank := List.replicate (height - lines.length) (spaces width)
  if fromTop then lines ++ blank else blank ++ lines

/-- A horizontal line. -/
def rule (first line between last : Char) (widths : List Nat) : List Char :=
  first :: (List.intercalate [between] (widths.map fun w => List.replicate w line)) ++ [last]

/-- A line through cells, between vertical lines. -/
def cellLine (bar : Char) (parts : List (List Char)) : List Char :=
  bar :: (List.intercalate [bar] (parts.map fun p => ' ' :: p ++ [' '])) ++ [bar]

/-- The lines of a row. -/
def rowLines (bar : Char) (isHeader : Bool) (cells : List (List Char × Side × Nat)) :
    List (List Char) :=
  let blocks := cells.map fun (cs, side, w) => (w, fitted (w - 2) .ellipsis side cs)
  let height := (blocks.map fun b => b.2.length).foldl max 1
  let full := blocks.map fun (w, lines) => heightened height (w - 2) (!isHeader) lines
  (List.range height).map fun i => cellLine bar (full.map fun lines => lines[i]?.getD [])

/-- Lists with as many items as the longest, turned so that rows become columns. -/
def turned {α : Type} (width : Nat) (d : α) (rows : List (List α)) : List (List α) :=
  (List.range width).map fun i => rows.map fun row => row[i]?.getD d

namespace Grid

/-- The lines of a grid on a screen of a given width. -/
def lines (g : Grid) (screen : Nat) : Except MarkupFault (List (List Char)) := do
  let headers ← g.columns.mapM fun c => plain c.header
  let rows ← g.rows.mapM (·.mapM plain)
  let count := g.columns.length
  let border := count + 1
  let widths := columnWidths (screen - border) (turned count [] (headers :: rows))
  let row (bar : Char) (isHeader : Bool) (cells : List (List Char)) : List (List Char) :=
    rowLines bar isHeader (cells.zip ((g.columns.map (·.side)).zip widths))
  let title ← if g.title = "" then pure []
    else do pure (fitted (totalWidth widths + border) .fold .middle (← plain g.title))
  return title
    ++ rule '┏' '━' '┳' '┓' widths :: row '┃' true headers
    ++ rule '┡' '━' '╇' '┩' widths :: rows.flatMap (row '│' false)
    ++ [rule '└' '─' '┴' '┘' widths]

/-- The text of a grid on a screen of a given width. -/
def render (g : Grid) (screen : Nat) : Except MarkupFault String := do
  return String.ofList ((← g.lines screen).flatMap (· ++ ['\n']))

end Grid

end SymbolGraph.Screen
