import GraphGateway.Text.Width

/-!
# Tables in a grid

A table with a header, drawn with plain characters. Every column is as wide as its widest line, a
cell of several lines makes its row higher, and rules separate the rows.
-/

namespace GraphGateway.CommandLine

/-- A header and rows of cells, all of the same length. -/
structure Grid where
  header : List String
  rows : List (List String)

namespace Grid

/-- The lines of a cell. -/
def linesOf (cell : String) : List String := cell.splitOn "\n"

/-- A list of numbers that is at each place the greater of two. -/
def maxEach : List Nat → List Nat → List Nat
  | a :: as, b :: bs => max a b :: maxEach as bs
  | as, [] => as
  | [], bs => bs

/-- The widths of the columns. -/
def widths (grid : Grid) : List Nat :=
  (grid.header :: grid.rows).foldl
    (fun widths row =>
      maxEach widths (row.map fun cell => (linesOf cell).foldl (fun w l => max w (Text.width l)) 0))
    []

/-- The same character over and over. -/
def replicate (count : Nat) (c : Char) : String := String.ofList (List.replicate count c)

/-- A rule across the table: its ends, its joints and its stroke. -/
def rule (widths : List Nat) (ends joint : String) (stroke : Char) : String :=
  ends ++ joint.intercalate (widths.map fun width => replicate (width + 2) stroke) ++ ends ++ "\n"

/-- A text filled up with spaces to a width. -/
def pad (width : Nat) (text : String) : String := text ++ replicate (width - Text.width text) ' '

/-- One line of a row. -/
def rowLine (widths : List Nat) (cells : List String) : String :=
  "|" ++ String.join ((widths.zip cells).map fun (width, text) => " " ++ pad width text ++ " |") ++
    "\n"

/-- All lines of a row. -/
def rowLines (widths : List Nat) (row : List String) : String :=
  let cells := row.map linesOf
  let height := cells.foldl (fun height lines => max height lines.length) 0
  String.join <| (List.range height).map fun index =>
    rowLine widths (cells.map fun lines => lines[index]?.getD "")

/-- The table as text. -/
def render (grid : Grid) : String :=
  let widths := grid.widths
  let border := rule widths "+" "+" '-'
  border ++ rowLines widths grid.header ++ rule widths "+" "=" '=' ++
    (rule widths "|" "+" '-').intercalate (grid.rows.map (rowLines widths)) ++ border

end Grid

end GraphGateway.CommandLine
