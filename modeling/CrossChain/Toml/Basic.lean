/-!
# TOML values

A table knows how it came to be, because that decides whether later lines may add to it: a table
with a header of its own is not opened again, one that a longer header implied may still get its
header, one made by dotted keys only grows by dotted keys, and an inline table is closed for good.
-/

namespace CrossChain

inductive TableOrigin where
  | header
  | implied
  | dotted
  | inlined
  deriving DecidableEq

/-- A TOML value. Dates and times are kept as their text. -/
inductive Toml where
  | text (s : String)
  | int (n : Int)
  | float (x : Float)
  | bool (b : Bool)
  | moment (s : String)
  | list (items : List Toml)
  /-- The tables of a repeated header. -/
  | tables (items : List Toml)
  | table (origin : TableOrigin) (entries : List (String × Toml))
  deriving Inhabited

namespace Toml

def replace (key : String) (v : Toml) (entries : List (String × Toml)) : List (String × Toml) :=
  entries.map fun e => if e.1 = key then (key, v) else e

/-- Changes the table at a path. Tables missing on the way are made with origin `made`; only tables
that `enter` accepts are entered, and of a repeated header the last table. -/
def edit (enter : TableOrigin → Bool) (made : TableOrigin) (leaf : Toml → Option Toml) :
    List String → Toml → Option Toml
  | [], t => leaf t
  | key :: path, .table origin entries =>
    match entries.lookup key with
    | none => do
      let sub ← edit enter made leaf path (.table made [])
      return .table origin (entries ++ [(key, sub)])
    | some (.table origin' sub) =>
      if enter origin' then do
        let sub ← edit enter made leaf path (.table origin' sub)
        return .table origin (replace key sub entries)
      else none
    | some (.tables items) => do
      let sub ← edit enter made leaf path (← items.getLast?)
      return .table origin (replace key (.tables (items.dropLast ++ [sub])) entries)
    | some _ => none
  | _ :: _, _ => none

/-- Headers pass through every table that is not closed. -/
def openToHeader (o : TableOrigin) : Bool := o != .inlined

/-- Dotted keys pass through tables without a header of their own. -/
def openToDotted (o : TableOrigin) : Bool := o == .implied || o == .dotted

def putNew (key : String) (v : Toml) : Toml → Option Toml
  | .table origin entries =>
    if (entries.lookup key).isSome then none else some (.table origin (entries ++ [(key, v)]))
  | _ => none

/-- Puts the value of a dotted key into a table. The last table on the way must be one of dotted
keys. -/
def putDotted (path : List String) (key : String) (v : Toml) (t : Toml) : Option Toml :=
  match path with
  | [] => putNew key v t
  | _ => edit openToDotted .dotted (fun
    | .table .dotted entries => putNew key v (.table .dotted entries)
    | _ => none) path t

def openTable (path : List String) (key : String) (root : Toml) : Option Toml :=
  edit openToHeader .implied (fun
    | .table origin entries =>
      match entries.lookup key with
      | none => some (.table origin (entries ++ [(key, .table .header [])]))
      | some (.table .implied sub) =>
        some (.table origin (replace key (.table .header sub) entries))
      | some _ => none
    | _ => none) path root

/-- Opens one more table of a repeated header. -/
def openRepeated (path : List String) (key : String) (root : Toml) : Option Toml :=
  edit openToHeader .implied (fun
    | .table origin entries =>
      match entries.lookup key with
      | none => some (.table origin (entries ++ [(key, .tables [.table .header []])]))
      | some (.tables items) =>
        some (.table origin (replace key (.tables (items ++ [.table .header []])) entries))
      | some _ => none
    | _ => none) path root

/-- Puts a key of the table whose header is at `header`. -/
def putUnder (header path : List String) (key : String) (v : Toml) (root : Toml) : Option Toml :=
  edit openToHeader .implied (putDotted path key v) header root

end Toml

end CrossChain
