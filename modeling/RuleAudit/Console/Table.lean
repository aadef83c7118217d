import RuleAudit.Console.Markup
import RuleAudit.Number.Binary64

/-!
# Console tables

A table has a title, a header and rows of cells in rounded borders. A column is as wide as its
widest cell, counted in terminal columns, and every cell has a blank on both sides. A table wider
than the console takes the excess from its widest columns. Cells are texts with markup.
-/

namespace RuleAudit.Console

/-- A column of a table. -/
structure Column where
  header : String
  alignRight : Bool := false

/-- A table. -/
structure Table where
  title : String
  columns : List Column
  rows : List (List String) := []

/-! ## Widths -/

/-- The glyphs of a cell. -/
def cellGlyphs (s : String) : Except Fault (List Glyph) :=
  (renderMarkup s).map fun cs => (glyphs 0 cs).filter fun g => !g.isDropped

/-- The width a cell asks for: that of its widest line. -/
def cellWidth (cell : List Glyph) : Nat :=
  (Text.lines (glyphText cell)).foldl (fun n line => max n (width (glyphs 0 line))) 0

/-- Take `excess` from the values whose share is set, as evenly as whole numbers allow and at most
`most` from each. -/
def reduceShares (most : Nat) : Nat → Nat → List (Nat × Bool) → List Nat
  | _, _, [] => []
  | excess, shares, (value, false) :: rest => value :: reduceShares most excess shares rest
  | excess, shares, (value, true) :: rest =>
    let taken := min most (Binary64.roundDiv excess shares)
    (value - taken) :: reduceShares most (excess - taken) (shares - 1) rest

/-- Widths of at most `limit` together, taken from the widest columns, which shrink to the width of
the next ones, again and again, at most `fuel` times. -/
def collapse (limit : Nat) : Nat → List Nat → List Nat
  | 0, widths => widths
  | fuel + 1, widths =>
    let excess := widths.foldr Nat.add 0 - limit
    let widest := widths.foldl max 0
    let second := (widths.filter (· != widest)).foldl max 0
    if excess == 0 || widest == second then widths
    else
      let marked := widths.map fun w => (w, w == widest)
      collapse limit fuel
        (reduceShares (min excess (widest - second)) excess (widths.count widest) marked)

/-- The widths of columns, given the widths their cells ask for. Each has two blanks, and there is
a border between columns and on both sides. -/
def fitColumns (asked : List Nat) : List Nat :=
  let limit := consoleWidth - (asked.length + 1)
  (collapse limit (2 * asked.length + 2) (asked.map (· + 2))).map (· - 2)

/-! ## Lines -/

/-- A line of a cell with blanks up to the width of its column. -/
def pad (alignRight : Bool) (columnWidth : Nat) (line : List Glyph) : String :=
  if alignRight then
    let line := shorten columnWidth (bare line)
    String.ofList (List.replicate (columnWidth - width line) ' ') ++ glyphText line
  else
    let line := shorten columnWidth line
    glyphText line ++ String.ofList (List.replicate (columnWidth - width line) ' ')

/-- The lines of a cell in its column. -/
def cellLines (column : Column × Nat) (cell : List Glyph) : List String :=
  ((linesOf cell).flatMap (wrap false column.2)).map (pad column.1.alignRight column.2)

/-- The printed lines of a row: as many as its tallest cell has. -/
def rowLines (columns : List (Column × Nat)) (row : List (List Glyph)) : List String :=
  let cells := List.zipWith cellLines columns row
  let height := cells.foldl (fun n cell => max n cell.length) 1
  (List.range height).map fun i =>
    let line := List.zipWith (fun (c : Column × Nat) (cell : List String) =>
      (cell[i]?).getD (pad false c.2 [])) columns cells
    "│ " ++ " │ ".intercalate line ++ " │"

/-- A border line. -/
def border (left middle right : String) (widths : List Nat) : String :=
  let bars := widths.map fun w => String.ofList (List.replicate (w + 2) '─')
  left ++ middle.intercalate bars ++ right

/-- The cells of a column under its header, in order. Markup is read column by column. -/
def columnCells (t : Table) (index : Nat) (column : Column) : Except Fault (List (List Glyph)) :=
  (column.header :: t.rows.map fun row => (row[index]?).getD "").mapM cellGlyphs

/-- The rows of columns of equal length. -/
def rowsOf (height : Nat) (columns : List (List (List Glyph))) : List (List (List Glyph)) :=
  (List.range height).map fun i => columns.map fun cells => (cells[i]?).getD []

/-- The printed lines of a table. -/
def Table.render (t : Table) : Except Fault (List String) := do
  let cells ← ((List.range t.columns.length).zip t.columns).mapM fun c => columnCells t c.1 c.2
  let widths := fitColumns (cells.map fun column => (column.map cellWidth).foldl max 0)
  let columns := t.columns.zip widths
  let total := widths.foldr Nat.add 0 + 3 * widths.length + 1
  let indent := (total - width (glyphs 0 t.title.toList)) / 2
  let title := String.ofList (List.replicate indent ' ') ++ t.title
  let lines := (rowsOf (t.rows.length + 1) cells).map (rowLines columns)
  return [title, border "╭" "┬" "╮" widths] ++ (lines.take 1).flatten ++
    [border "├" "┼" "┤" widths] ++ (lines.drop 1).flatten ++ [border "╰" "┴" "╯" widths]

end RuleAudit.Console
