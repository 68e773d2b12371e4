import CrossChain.Text.Width

/-!
# Tables on a terminal

Cells in a frame of lines. Every column is as wide as its widest line, and a row is as high as its
highest cell.
-/

namespace CrossChain.Terminal

def cellLines (cell : String) : List (List Char) := cell.toList.splitOn '\n'

/-- The columns that a cell takes. -/
def cellWidth (cell : String) : Nat := ((cellLines cell).map Text.width).foldl max 0

/-- The width of each column of a table whose rows have equally many cells. -/
def columnWidths : List (List String) → List Nat
  | [] => []
  | [row] => row.map cellWidth
  | row :: rest => List.zipWith max (row.map cellWidth) (columnWidths rest)

def ruler (widths : List Nat) : String :=
  "+" ++ String.join (widths.map fun w => String.ofList (List.replicate (w + 2) '-') ++ "+")

def rowLine (widths : List Nat) (row : List String) (i : Nat) : String :=
  let cell (w : Nat) (text : String) : String :=
    " " ++ String.ofList (Text.fillTo w (((cellLines text)[i]?).getD [])) ++ " |"
  "|" ++ String.join (List.zipWith cell widths row)

def rowLines (widths : List Nat) (row : List String) : List String :=
  let height := (row.map fun cell => (cellLines cell).length).foldl max 1
  (List.range height).map (rowLine widths row)

/-- A table with a line above and below every row. -/
def table (rows : List (List String)) : String :=
  let widths := columnWidths rows
  let lines := rows.flatMap fun row => rowLines widths row ++ [ruler widths]
  "\n".intercalate (ruler widths :: lines)

end CrossChain.Terminal
