import CrossChain.Error
import CrossChain.Store.Database.Cell

/-!
# Tables

A table is a list of records in the order of their ids. Every table numbers its records: a record
that comes without an id gets one above all ids that were ever in the table. An insertion that
breaks a constraint changes nothing.
-/

namespace CrossChain.Database

structure Column where
  name : String
  type : ColumnType
  /-- No record may lack a value. -/
  required : Bool
  /-- The value of records that come without one. -/
  fallback : Cell
  deriving DecidableEq, Repr

/-- The shape of a table; no two records agree on all columns of a key. -/
structure Schema where
  name : String
  columns : List Column
  keys : List (List String)
  deriving DecidableEq, Repr

/-- A record with the values of its columns by name. -/
structure Record where
  id : Int
  cells : List (String × Cell)
  deriving DecidableEq, Repr

/-- A table with its records and the greatest id so far. -/
structure Table where
  schema : Schema
  records : List Record
  lastId : Int
  deriving DecidableEq, Repr

inductive Fault where
  | noTable (table : String)
  | noColumn (table column : String)
  | missing (table column : String)
  | duplicate (table : String) (columns : List String)
  | idType
  | full
  deriving DecidableEq, Repr

def Fault.message : Fault → String
  | noTable table => s!"no such table: {table}"
  | noColumn table column => s!"table {table} has no column named {column}"
  | missing table column => s!"NOT NULL constraint failed: {table}.{column}"
  | duplicate table columns =>
    "UNIQUE constraint failed: " ++ ", ".intercalate (columns.map fun c => s!"{table}.{c}")
  | idType => "datatype mismatch"
  | full => "database or disk is full"

def Fault.toError (f : Fault) : Error := .database f.message

/-- The faults that an insertion may be told to ignore. -/
def Fault.isConstraint : Fault → Bool
  | missing .. | duplicate .. => true
  | _ => false

namespace Record

def cell (r : Record) (column : String) : Cell :=
  (List.lookup column r.cells).getD .null

/-- Two records agree on columns that have values. -/
def agrees (columns : List String) (r s : Record) : Bool :=
  columns.all fun c => r.cell c == s.cell c && r.cell c != .null

end Record

namespace Table

def empty (s : Schema) : Table := ⟨s, [], 0⟩

def maxId : Int := (Bits.count 63 : Int) - 1

/-- The id of a new record: the one given, or the next one. -/
def newId (t : Table) : Cell → Except Fault Int
  | .null => if t.lastId < maxId then .ok (t.lastId + 1) else .error .full
  | c =>
    match Cell.kept .integer c with
    | .integer n => .ok n
    | _ => .error .idType

def record (t : Table) (id : Int) (given : List (String × Cell)) : Record :=
  ⟨id, t.schema.columns.map fun c =>
    (c.name, Cell.kept c.type ((List.lookup c.name given).getD c.fallback))⟩

def missing? (t : Table) (r : Record) : Option Column :=
  t.schema.columns.find? fun c => c.required && r.cell c.name == .null

/-- The first key on which a record agrees with one of the table. -/
def duplicate? (t : Table) (r : Record) : Option (List String) :=
  if t.records.any (·.id == r.id) then some ["id"]
  else t.schema.keys.find? fun key => t.records.any fun s => s.agrees key r

/-- Puts a record behind those with lesser ids. -/
def place (r : Record) : List Record → List Record
  | [] => [r]
  | s :: rest => if s.id < r.id then s :: place r rest else r :: s :: rest

def insert (t : Table) (given : List (String × Cell)) : Except Fault Table := do
  let known (column : String) : Bool := column == "id" || t.schema.columns.any (·.name == column)
  if let some (column, _) := given.find? fun g => !known g.1 then
    throw (.noColumn t.schema.name column)
  let id ← t.newId ((List.lookup "id" given).getD .null)
  let r := t.record id given
  if let some column := t.missing? r then
    throw (.missing t.schema.name column.name)
  if let some key := t.duplicate? r then
    throw (.duplicate t.schema.name key)
  return { t with records := place r t.records, lastId := max t.lastId id }

/-- Removes all records; ids go on from where they were. -/
def clear (t : Table) : Table := { t with records := [] }

end Table

end CrossChain.Database
