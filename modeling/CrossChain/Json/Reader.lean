import CrossChain.Json.Token

/-!
# Reading of JSON

A pushdown machine over tokens. The stack holds the lists and objects that are open, so its height
is the nesting depth, which may be bounded. `parse?` keeps of two fields with one key the later, and
`parseFields?` keeps all fields as they were written.
-/

namespace CrossChain.Json

/-- An open list or object; its parts are kept in reverse. -/
inductive Frame where
  | list (rev : List Json)
  | object (rev : List (String × Json)) (key : String)

/-- What may come next. -/
inductive Next where
  | value
  | firstItem
  | firstKey
  | key
  | colon
  | more
  | finished (v : Json)

/-- The open frames, innermost first, and what may come next. -/
structure Reader where
  stack : List Frame
  next : Next

namespace Reader

def place (stack : List Frame) (v : Json) : Reader :=
  match stack with
  | [] => ⟨[], .finished v⟩
  | .list rev :: rest => ⟨.list (v :: rev) :: rest, .more⟩
  | .object rev key :: rest => ⟨.object ((key, v) :: rev) key :: rest, .more⟩

/-- A mark that opens a list or an object. -/
def opened (maxDepth : Nat) (stack : List Frame) (c : Char) : Option Reader :=
  if maxDepth ≤ stack.length then none
  else if c = '[' then some ⟨.list [] :: stack, .firstItem⟩
  else if c = '\x7b' then some ⟨.object [] "" :: stack, .firstKey⟩
  else none

/-- A mark that closes the innermost frame; `build` makes an object of its fields. -/
def closed (build : List (String × Json) → Json) (stack : List Frame) (c : Char) : Option Reader :=
  match stack with
  | .list rev :: rest => if c = ']' then some (place rest (.list rev.reverse)) else none
  | .object rev _ :: rest => if c = '\x7d' then some (place rest (build rev.reverse)) else none
  | [] => none

def step (build : List (String × Json) → Json) (maxDepth : Nat) (r : Reader) (t : Token) :
    Option Reader :=
  match r.next, t with
  | .value, .value v => some (place r.stack v)
  | .value, .mark c => opened maxDepth r.stack c
  | .firstItem, .value v => some (place r.stack v)
  | .firstItem, .mark c => if c = ']' then closed build r.stack c else opened maxDepth r.stack c
  | .firstKey, .mark c => if c = '\x7d' then closed build r.stack c else none
  | .firstKey, .value (.text s) | .key, .value (.text s) =>
    match r.stack with
    | .object rev _ :: rest => some ⟨.object rev s :: rest, .colon⟩
    | _ => none
  | .colon, .mark ':' => some ⟨r.stack, .value⟩
  | .more, .mark c =>
    if c = ',' then
      match r.stack with
      | .object .. :: _ => some ⟨r.stack, .key⟩
      | _ => some ⟨r.stack, .value⟩
    else closed build r.stack c
  | _, _ => none

end Reader

/-- The value that a text denotes, if its lists and objects nest at most `maxDepth` deep. -/
def parseWith? (build : List (String × Json) → Json) (maxDepth : Nat) (s : String) :
    Option Json := do
  let tokens ← Token.scan .gap s.toList
  let r ← tokens.foldlM (Reader.step build maxDepth) ⟨[], .value⟩
  match r.next with
  | .finished v => some v
  | _ => none

def parse? : Nat → String → Option Json := parseWith? ofFields

/-- The value with the fields of its objects in the order in which they stand, repeated ones as
well. -/
def parseFields? : Nat → String → Option Json := parseWith? object

/-- The nesting depth up to which replies and settings are read. -/
def depthLimit : Nat := 127

end CrossChain.Json
