import IngestWatch.Text.Blank
import IngestWatch.Text.Width

/-!
Tables drawn with box characters. A column is as wide as its widest line, a row as
high as its highest cell.
-/

namespace IngestWatch

/-- A header and rows, all with the same number of cells. -/
structure Grid where
  header : List String
  rows : List (List String)
deriving DecidableEq, Repr

namespace Grid

/-- The lines of a cell. -/
def cellLines (cell : String) : List (List Char) :=
  Text.splitAt '\n' cell.toList

def cellWidth (cell : String) : Nat :=
  ((cellLines cell).map Text.width).foldl max 0

/-- The width of each column, at least one. -/
def columnWidths (g : Grid) : List Nat :=
  (g.rows.foldl (fun widths row => List.zipWith max widths (row.map cellWidth))
    (g.header.map cellWidth)).map (max 1)

/-- A horizontal line: its left end, what fills it, what crosses it, its right end. -/
structure Rule where
  left : Char
  fill : Char
  cross : Char
  right : Char

def top : Rule := ⟨'┌', '─', '┬', '┐'⟩
def underHeader : Rule := ⟨'╞', '═', '╪', '╡'⟩
def betweenRows : Rule := ⟨'├', '╌', '┼', '┤'⟩
def bottom : Rule := ⟨'└', '─', '┴', '┘'⟩

def Rule.draw (r : Rule) (widths : List Nat) : List Char :=
  let fills := widths.map fun w => List.replicate (w + 2) r.fill
  r.left :: List.intercalate [r.cross] fills ++ [r.right]

/-- A line of a cell between its blanks. -/
def drawPart (width : Nat) (part : List Char) : List Char :=
  ' ' :: part ++ List.replicate (width - Text.width part) ' ' ++ [' ']

/-- The lines of a row. -/
def drawRow (widths : List Nat) (row : List String) : List (List Char) :=
  let cells := row.map cellLines
  let height := (cells.map List.length).foldl max 0
  (List.range height).map fun i =>
    let parts := List.zipWith (fun w cell => drawPart w ((cell[i]?).getD [])) widths cells
    '│' :: List.intercalate ['┆'] parts ++ ['│']

def lines (g : Grid) : List (List Char) :=
  let widths := g.columnWidths
  let body := List.intercalate [betweenRows.draw widths] (g.rows.map (drawRow widths))
  top.draw widths :: drawRow widths g.header
    ++ underHeader.draw widths :: body ++ [bottom.draw widths]

def draw (g : Grid) : String :=
  String.ofList (List.intercalate ['\n'] g.lines)

end Grid

end IngestWatch
