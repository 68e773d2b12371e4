import CrossChain.Json.Printer
import CrossChain.Store.Database

/-!
# Databases as JSON

A database is written as an object that holds the rows of its tables by the tables' names, and a row
as an object that holds its values by the columns' names. Reading one sets the reference tables up
and inserts the rows in the order in which they stand.
-/

namespace CrossChain.Database

/-- The value of a cell. A truth value is one or zero. -/
def Cell.ofJson : Json → Cell
  | .null => null
  | .int n => integer n
  | .bool b => integer (if b then 1 else 0)
  | .text s => text s
  | other => text other.compact

/-- The values of a row by column; what is no object has none. -/
def cellsOfJson : Json → List (String × Cell)
  | .object fields => fields.map fun (column, v) => (column, Cell.ofJson v)
  | _ => []

/-- Inserts the rows of several tables in turn, up to the first that fails. -/
def insertTables (d : Database) : List (String × Json) → Except Fault Database
  | [] => .ok d
  | (name, rows) :: rest =>
    match d.insertAll name ((rows.list?.getD []).map cellsOfJson) with
    | (.ok (), d) => d.insertTables rest
    | (.error f, _) => .error f

def ofJson : Json → Except Fault Database
  | .object tables => fresh.insertTables tables
  | _ => .ok fresh

end CrossChain.Database
