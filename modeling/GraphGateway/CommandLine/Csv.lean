/-!
# Comma-separated values

A record is a line of cells with commas between them. A cell with a comma, a quote or a line feed
stands between quotes, and a quote inside it is written twice.
-/

namespace GraphGateway.CommandLine.Csv

/-- Whether a cell must stand between quotes. -/
def needsQuotes (cell : List Char) : Bool :=
  cell.any fun c => c = ',' || c = '"' || c = '\n'

/-- A text with its quotes doubled. -/
def doubleQuotes : List Char → List Char
  | [] => []
  | c :: rest => if c = '"' then '"' :: '"' :: doubleQuotes rest else c :: doubleQuotes rest

/-- The characters that write a cell. -/
def cellChars (cell : List Char) : List Char :=
  if needsQuotes cell then '"' :: (doubleQuotes cell ++ ['"']) else cell

/-- The text that writes a cell. -/
def cell (text : String) : String := String.ofList (cellChars text.toList)

/-- The line that writes a record. -/
def line (cells : List String) : String := ",".intercalate (cells.map cell) ++ "\n"

/-- The text that writes records, one a line. -/
def render (records : List (List String)) : String := String.join (records.map line)

end GraphGateway.CommandLine.Csv
