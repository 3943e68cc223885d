import LinuxAudit.Text.Cut
import LinuxAudit.Text.Width

/-!
Tables drawn with characters. A column is as wide as its widest line and a space on both sides; a
cell of several lines makes its row as high, and the other cells of the row are blank there.
-/

namespace LinuxAudit

structure Table where
  header : List String
  rows : List (List String)

namespace Table

/-- The lines of a cell. -/
def cellLines (cell : String) : List String :=
  (Text.fields '\n' cell.toList).map String.ofList

def cellWidth (cell : String) : Nat :=
  ((cellLines cell).map Text.width).foldl max 0

/-- The widths of the columns without their margins. -/
def columnWidths (table : Table) : List Nat :=
  table.rows.foldl (fun widths row => List.zipWith max widths (row.map cellWidth))
    (table.header.map cellWidth)

/-- A horizontal line of one kind of dash, with marks at its ends and where columns meet. -/
def rule (left dash meeting right : Char) (widths : List Nat) : String :=
  String.ofList (left :: ([meeting].intercalate (widths.map fun w => List.replicate (w + 2) dash))
    ++ [right])

/-- A line of text filled up to the width of its column, with its margins. -/
def fill (width : Nat) (text : String) : String :=
  " " ++ text ++ String.ofList (List.replicate (width - Text.width text + 1) ' ')

/-- The lines of a row. -/
def rowLines (widths : List Nat) (row : List String) : List String :=
  let cells := row.map cellLines
  let height := (cells.map List.length).foldl max 0
  (List.range height).map fun i =>
    "|" ++ "|".intercalate (List.zipWith (fun width lines => fill width (lines.getD i "")) widths
      cells) ++ "|"

/-- The lines of the table: the header between a border and a double line, then the rows with lines
between them, then a border. -/
def lines (table : Table) : List String :=
  let widths := table.columnWidths
  let border := rule '+' '-' '+' '+' widths
  let separator := rule '|' '-' '+' '|' widths
  let double := rule '+' '=' '=' '+' widths
  let body := [separator].intercalate (table.rows.map (rowLines widths))
  [border] ++ rowLines widths table.header ++ [double] ++ body ++ [border]

def render (table : Table) : String :=
  "\n".intercalate table.lines

end Table

end LinuxAudit
