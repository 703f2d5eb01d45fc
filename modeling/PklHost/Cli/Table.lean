import PklHost.Text.Columns

/-!
# Tables

A table is drawn with lines between its cells. A column is as wide as the widest line in it, a row as
high as its highest cell, and each cell has a blank on both sides. The header is set off by a double
line.
-/

namespace PklHost.Cli

/-- A table: its header and its rows, all with the same number of cells. -/
structure Table where
  header : List String
  rows : List (List String)

namespace Table

/-- The lines of a cell. -/
def cellLines (cell : String) : List String :=
  go [] cell.toList
where
  /-- Splits with the characters of the line at hand kept in reverse. -/
  go (acc : List Char) : List Char → List String
    | [] => [String.ofList acc.reverse]
    | c :: cs => if c = '\n' then String.ofList acc.reverse :: go [] cs else go (c :: acc) cs

/-- The columns that a cell takes. -/
def cellWidth (cell : String) : Nat :=
  ((cellLines cell).map Text.lineWidth).foldl max 0

/-- The greater of the widths, column by column. -/
def widen : List Nat → List Nat → List Nat
  | a :: as, b :: bs => max a b :: widen as bs
  | [], bs => bs
  | as, [] => as

/-- The widths of the columns. -/
def widths (t : Table) : List Nat :=
  (t.header :: t.rows).foldl (fun ws row => widen ws (row.map cellWidth)) []

/-- A text with a blank on both sides, filled up to a width. -/
def padded (width : Nat) (line : String) : String :=
  " " ++ line ++ String.ofList (List.replicate (width - Text.lineWidth line) ' ') ++ " "

/-- One line of a row. -/
def rowLine (widths : List Nat) (cells : List String) : String :=
  "│" ++ "┆".intercalate ((widths.zip cells).map fun (w, line) => padded w line) ++ "│"

/-- The lines of a row. -/
def rowLines (widths : List Nat) (row : List String) : List String :=
  let cells := row.map cellLines
  let height := (cells.map List.length).foldl max 0
  (List.range height).map fun i => rowLine widths (cells.map fun lines => lines.getD i "")

/-- A line across the table: its ends, its stroke and its crossings. -/
def rule (left stroke crossing right : String) (widths : List Nat) : String :=
  left ++ crossing.intercalate (widths.map fun w => String.join (List.replicate (w + 2) stroke)) ++ right

/-- The lines of the body, with a line between two rows. -/
def bodyLines (widths : List Nat) : List (List String) → List String
  | [] => []
  | [row] => rowLines widths row
  | row :: rows => rowLines widths row ++ rule "├" "╌" "┼" "┤" widths :: bodyLines widths rows

/-- The drawn table. -/
def text (t : Table) : String :=
  let ws := t.widths
  "\n".intercalate
    (rule "┌" "─" "┬" "┐" ws :: rowLines ws t.header ++ rule "╞" "═" "╪" "╡" ws ::
      bodyLines ws t.rows ++ [rule "└" "─" "┴" "┘" ws])

end Table

end PklHost.Cli
