import CrossChain.Toml.Scalar

/-!
# Reading of TOML

Values nest and keys are dotted up to a fixed depth. A document is a sequence of lines: headers,
which open tables, and keys of the table that was opened last. Reading stops at the first fault. The
readers below take as fuel a bound on the characters left, which every step uses up.
-/

namespace CrossChain.Toml

/-- The number of parts from which on a dotted key, or a nest of values, is refused. -/
def depthLimit : Nat := 80

def isBareKey (c : Char) : Bool :=
  ('0' ≤ c && c ≤ '9') || ('a' ≤ c && c ≤ 'z') || ('A' ≤ c && c ≤ 'Z') || c == '-' || c == '_'

def keyPart? (cs : List Char) : Option (String × List Char) :=
  match cs with
  | '"' :: r => basic [] r
  | '\'' :: r => literal r
  | _ =>
    let bare := cs.takeWhile isBareKey
    if bare.isEmpty then none else some (String.ofList bare, cs.dropWhile isBareKey)

def keyParts (fuel : Nat) (rev : List String) (cs : List Char) :
    Option (List String × List Char) :=
  match fuel with
  | 0 => none
  | fuel + 1 => do
    let (part, rest) ← keyPart? (cs.dropWhile isSpace)
    match rest.dropWhile isSpace with
    | '.' :: r => keyParts fuel (part :: rev) r
    | r => return ((part :: rev).reverse, r)

/-- A dotted key: the path to its table, its last part and what comes behind it. -/
def key? (cs : List Char) : Option (List String × String × List Char) := do
  let (parts, rest) ← keyParts (cs.length + 1) [] cs
  let last ← parts.getLast?
  if parts.length < depthLimit then some (parts.dropLast, last, rest) else none

def skipGap (inComment : Bool) : List Char → Option (List Char)
  | [] => some []
  | c :: r =>
    if inComment then
      if c = '\n' then skipGap false r else if isPlain c then skipGap true r else none
    else if isSpace c ∨ c = '\n' then skipGap false r
    else if c = '#' then skipGap true r
    else some (c :: r)

/-- The rest of a line that holds nothing but spaces and a comment. -/
def lineEnd? (cs : List Char) : Option (List Char) :=
  let rest := cs.dropWhile isSpace
  let (comment, rest) := match rest with
    | '#' :: r => (r.takeWhile (· != '\n'), r.dropWhile (· != '\n'))
    | r => ([], r)
  if comment.all isPlain then
    match rest with
    | [] => some []
    | '\n' :: r => some r
    | _ => none
  else none

mutual

/-- A value, with lists and inline tables at most `depth` deep. -/
def value (fuel depth : Nat) (cs : List Char) : Option (Toml × List Char) :=
  match fuel, depth, cs with
  | fuel + 1, depth + 1, '[' :: r => items fuel depth [] r
  | fuel + 1, depth + 1, '\x7b' :: r =>
    match r.dropWhile isSpace with
    | '\x7d' :: r => some (.table .inlined [], r)
    | r => pairs fuel depth (.table .inlined []) r
  | _ + 1, _, '"' :: _ | _ + 1, _, '\'' :: _ => (quotedText? cs).map fun (s, r) => (.text s, r)
  | _ + 1, _, _ => plain? cs
  | 0, _, _ => none

def items (fuel depth : Nat) (rev : List Toml) (cs : List Char) : Option (Toml × List Char) :=
  match fuel with
  | 0 => none
  | fuel + 1 => do
    match ← skipGap false cs with
    | ']' :: r => return (.list rev.reverse, r)
    | cs =>
      let (v, cs) ← value fuel depth cs
      match ← skipGap false cs with
      | ',' :: r => items fuel depth (v :: rev) r
      | ']' :: r => return (.list (v :: rev).reverse, r)
      | _ => none

def pairs (fuel depth : Nat) (t : Toml) (cs : List Char) : Option (Toml × List Char) :=
  match fuel with
  | 0 => none
  | fuel + 1 => do
    let (path, key, cs) ← key? cs
    match cs with
    | '=' :: cs =>
      let (v, cs) ← value fuel depth (cs.dropWhile isSpace)
      let t ← putDotted path key v t
      match cs.dropWhile isSpace with
      | ',' :: r => pairs fuel depth t r
      | '\x7d' :: r => return (t, r)
      | _ => none
    | _ => none

end

/-- What was read so far: the document and the path of the header that is open. -/
structure Page where
  root : Toml
  header : List String

/-- A line with a header, behind its first bracket. -/
def headerLine (p : Page) (cs : List Char) : Option (Page × List Char) :=
  match cs with
  | '[' :: r => do
    let (path, key, r) ← key? r
    match r with
    | ']' :: ']' :: r => return (⟨← openRepeated path key p.root, path ++ [key]⟩, ← lineEnd? r)
    | _ => none
  | r => do
    let (path, key, r) ← key? r
    match r with
    | ']' :: r => return (⟨← openTable path key p.root, path ++ [key]⟩, ← lineEnd? r)
    | _ => none

def keyLine (p : Page) (cs : List Char) : Option (Page × List Char) := do
  let (path, key, r) ← key? cs
  match r with
  | '=' :: r =>
    let (v, r) ← value (r.length + 1) (depthLimit - 1) (r.dropWhile isSpace)
    return (⟨← putUnder p.header path key v p.root, p.header⟩, ← lineEnd? r)
  | _ => none

def lines (fuel : Nat) (p : Page) (cs : List Char) : Option Toml :=
  match fuel with
  | 0 => none
  | fuel + 1 => do
    match cs.dropWhile isSpace with
    | [] => return p.root
    | '\n' :: r => lines fuel p r
    | '#' :: r => lines fuel p (← lineEnd? ('#' :: r))
    | '[' :: r =>
      let (p, r) ← headerLine p r
      lines fuel p r
    | r =>
      let (p, r) ← keyLine p r
      lines fuel p r

/-- Writes line ends as single line feeds. -/
def unifyLineEnds : List Char → List Char
  | '\r' :: '\n' :: r => '\n' :: unifyLineEnds r
  | c :: r => c :: unifyLineEnds r
  | [] => []

/-- The table that a document denotes. A byte order mark in front of it is skipped. -/
def parse? (s : String) : Option Toml :=
  let cs := match s.toList with
    | '\ufeff' :: r => r
    | r => r
  let cs := unifyLineEnds cs
  lines (cs.length + 1) ⟨.table .header [], []⟩ cs

end CrossChain.Toml
