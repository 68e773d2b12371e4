import CrossChain.Json.Basic

/-!
# Tokens of JSON text

A machine that reads one character at a time. Words are what stands between blanks, marks and
strings: the names `true`, `false` and `null`, and numbers.
-/

namespace CrossChain.Json

/-- A token: a mark of punctuation, or a value that has no parts. -/
inductive Token where
  | mark (c : Char)
  | value (v : Json)

namespace Token

/-- Where the reader stands; texts and words are kept in reverse. -/
inductive State where
  | gap
  | word (rev : List Char)
  | text (rev : List Char)
  /-- Behind a backslash; `high` is the first half of a surrogate pair that waits for its second. -/
  | escape (rev : List Char) (high : Option Nat)
  /-- Inside the digits of a numbered character. -/
  | number (rev : List Char) (high : Option Nat) (left : Nat) (code : Nat)
  /-- Behind the first half of a surrogate pair. -/
  | half (rev : List Char) (high : Nat)

def isMark (c : Char) : Bool :=
  c == '[' || c == ']' || c == '\x7b' || c == '\x7d' || c == ',' || c == ':'

def isGap (c : Char) : Bool :=
  c == ' ' || c == '\t' || c == '\n' || c == '\r'

/-- The number of a word that is one: an integer when it fits, a float otherwise. -/
def number? (cs : List Char) : Option Json := do
  let (negative, body) := match cs with
    | '-' :: r => (true, r)
    | r => (false, r)
  let whole := body.takeWhile Text.isDecDigit
  let rest := body.dropWhile Text.isDecDigit
  let n ← Text.decNat? whole
  if 1 < whole.length ∧ whole.head? = some '0' then none
  let (fraction, rest) ← match rest with
    | '.' :: r =>
      let digits := r.takeWhile Text.isDecDigit
      if digits.isEmpty then none else some (digits, r.dropWhile Text.isDecDigit)
    | r => some ([], r)
  let (power, exact) ← match rest with
    | [] => some ((0 : Int), fraction.isEmpty)
    | e :: r =>
      if e = 'e' ∨ e = 'E' then
        match r with
        | '-' :: ds => (Text.decNat? ds).map fun k => (-(k : Int), false)
        | '+' :: ds => (Text.decNat? ds).map fun k => ((k : Int), false)
        | ds => (Text.decNat? ds).map fun k => ((k : Int), false)
      else none
  let signed : Int := if negative then -(n : Int) else n
  if exact ∧ fitsInteger signed ∧ ¬(negative ∧ n = 0) then some (.int signed)
  else
    let digits ← if fraction.isEmpty then some n else Text.decNat? (whole ++ fraction)
    let x := Binary64.ofDecimal negative digits (power - fraction.length)
    if x.isFinite then some (.float x) else none

def word? (rev : List Char) : Option Json :=
  let cs := rev.reverse
  if cs = "true".toList then some (.bool true)
  else if cs = "false".toList then some (.bool false)
  else if cs = "null".toList then some .null
  else number? cs

def isHigh (n : Nat) : Bool := 0xD800 ≤ n && n ≤ 0xDBFF

def isLow (n : Nat) : Bool := 0xDC00 ≤ n && n ≤ 0xDFFF

def State.close (rev : List Char) (high : Option Nat) (code : Nat) : Option State :=
  match high with
  | some h =>
    if isLow code then
      some (.text (Char.ofNat (0x10000 + (h - 0xD800) * 0x400 + (code - 0xDC00)) :: rev))
    else none
  | none =>
    if isHigh code then some (.half rev code)
    else if isLow code then none
    else some (.text (Char.ofNat code :: rev))

/-- The character that a letter behind a backslash stands for. -/
def named? (c : Char) : Option Char :=
  if c = '"' ∨ c = '\\' ∨ c = '/' then some c
  else if c = 'n' then some '\n'
  else if c = 't' then some '\t'
  else if c = 'r' then some '\r'
  else if c = 'b' then some (Char.ofNat 8)
  else if c = 'f' then some (Char.ofNat 12)
  else none

/-- One character further: the tokens that it completes and the next state. -/
def step (s : State) (c : Char) : Option (List Token × State) :=
  match s with
  | .gap =>
    if isGap c then some ([], .gap)
    else if isMark c then some ([.mark c], .gap)
    else if c = '"' then some ([], .text [])
    else some ([], .word [c])
  | .word rev =>
    if isGap c then (word? rev).map fun v => ([.value v], .gap)
    else if isMark c then (word? rev).map fun v => ([.value v, .mark c], .gap)
    else if c = '"' then (word? rev).map fun v => ([.value v], .text [])
    else some ([], .word (c :: rev))
  | .text rev =>
    if c = '"' then some ([.value (.text (String.ofList rev.reverse))], .gap)
    else if c = '\\' then some ([], .escape rev none)
    else if c.toNat < 32 then none
    else some ([], .text (c :: rev))
  | .escape rev high =>
    if c = 'u' then some ([], .number rev high 4 0)
    else if high.isSome then none
    else (named? c).map fun d => ([], .text (d :: rev))
  | .number rev high left code => do
    let d ← Text.hexDigit? c
    let code := code * 16 + d
    if left = 1 then (State.close rev high code).map ([], ·)
    else some ([], .number rev high (left - 1) code)
  | .half rev high => if c = '\\' then some ([], .escape rev (some high)) else none

def scan (s : State) : List Char → Option (List Token)
  | [] =>
    match s with
    | .gap => some []
    | .word rev => (word? rev).map fun v => [.value v]
    | _ => none
  | c :: rest => do
    let (ts, s) ← step s c
    return ts ++ (← scan s rest)

end Token

end CrossChain.Json
