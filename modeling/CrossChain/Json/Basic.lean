import CrossChain.Number.Binary64
import CrossChain.Number.Bits

/-!
# JSON values

Objects are lists of fields sorted by key, each key once; `ofFields` builds them so. A number is an
integer when it was written without point and exponent and fits 64 bits, and a float otherwise.
-/

namespace CrossChain

/-- A JSON value. -/
inductive Json where
  | null
  | bool (b : Bool)
  | int (n : Int)
  | float (x : Float)
  | text (s : String)
  | list (items : List Json)
  | object (fields : List (String × Json))
  deriving Inhabited

namespace Json

/-- Puts a field at its place; a field with the same key is replaced. -/
def insertField (key : String) (v : Json) : List (String × Json) → List (String × Json)
  | [] => [(key, v)]
  | (k, w) :: rest =>
    if key = k then (key, v) :: rest
    else if key < k then (key, v) :: (k, w) :: rest
    else (k, w) :: insertField key v rest

/-- The object of a list of fields; of two fields with one key the later stays. -/
def ofFields (fields : List (String × Json)) : Json :=
  object (fields.foldl (fun acc (k, v) => insertField k v acc) [])

def get? (j : Json) (key : String) : Option Json :=
  match j with
  | object fields => fields.lookup key
  | _ => none

def item? (j : Json) (i : Nat) : Option Json :=
  match j with
  | list items => items[i]?
  | _ => none

def text? : Json → Option String
  | text s => some s
  | _ => none

def int? : Json → Option Int
  | int n => some n
  | _ => none

def bool? : Json → Option Bool
  | bool b => some b
  | _ => none

def list? : Json → Option (List Json)
  | list items => some items
  | _ => none

def isNull : Json → Bool
  | null => true
  | _ => false

def isObject : Json → Bool
  | object _ => true
  | _ => false

/-- The field of an object, `null` when it is missing or the value is no object. -/
def field (j : Json) (key : String) : Json := (j.get? key).getD null

/-- The item of a list, `null` when it is missing or the value is no list. -/
def entry (j : Json) (i : Nat) : Json := (j.item? i).getD null

def int64? : Json → Option Int
  | int n => if Bits.holdsSigned 64 n then some n else none
  | _ => none

def nat64? : Json → Option Nat
  | int n => if 0 ≤ n then some n.toNat else none
  | _ => none

def int32? : Json → Option Int
  | int n => if Bits.holdsSigned 32 n then some n else none
  | _ => none

/-- The fields of a record, in the order of `names`: an object holds them by name, a list by
position. A list with more items than the record has fields is refused. -/
def record? (names : List String) : Json → Option (List (Option Json))
  | object fields => some (names.map fun name => List.lookup name fields)
  | list items =>
    if items.length ≤ names.length then
      some (items.map some ++ List.replicate (names.length - items.length) none)
    else none
  | _ => none

/-- The integers that have an integer form: those of 64 bits, signed or unsigned. -/
def fitsInteger (n : Int) : Bool :=
  Bits.holdsSigned 64 n || Bits.holds 64 n

end Json

end CrossChain
