import CrossChain.Number.Binary64
import CrossChain.Number.Integer
import CrossChain.Text.Digits
import CrossChain.Toml.Basic

/-!
# TOML scalars

Quoted texts in their four forms, numbers and dates. Each reader takes the text that is left and
returns the value with what comes behind it. Line ends are single line feeds here.
-/

namespace CrossChain.Toml

/-- Characters that stand for themselves in comments and texts. -/
def isPlain (c : Char) : Bool :=
  c == '\t' || (0x20 ≤ c.toNat && c.toNat != 0x7f)

def isSpace (c : Char) : Bool := c == ' ' || c == '\t'

/-- The character of a code written in hexadecimal digits; halves of surrogate pairs are none. -/
def scalar? (digits : List Char) : Option Char := do
  let n ← Text.hexNat? digits
  if n < 0xd800 ∨ (0xdfff < n ∧ n < 0x110000) then some (Char.ofNat n) else none

def letterEscape? (c : Char) : Option Char :=
  match c with
  | 'b' => some '\x08'
  | 't' => some '\t'
  | 'n' => some '\n'
  | 'f' => some '\x0c'
  | 'r' => some '\r'
  | '"' => some '"'
  | '\\' => some '\\'
  | _ => none

def escape? : List Char → Option (Char × List Char)
  | 'u' :: r =>
    if r.length < 4 then none else (scalar? (r.take 4)).map fun c => (c, r.drop 4)
  | 'U' :: r =>
    if r.length < 8 then none else (scalar? (r.take 8)).map fun c => (c, r.drop 8)
  | c :: r => (letterEscape? c).map fun d => (d, r)
  | [] => none

theorem escape?_length {cs rest : List Char} {c : Char} (h : escape? cs = some (c, rest)) :
    rest.length < cs.length := by
  unfold escape? at h
  split at h
  · split at h
    · simp at h
    · simp only [Option.map_eq_some_iff, Prod.mk.injEq] at h
      obtain ⟨_, _, _, rfl⟩ := h
      simp only [List.length_cons, List.length_drop]; omega
  · split at h
    · simp at h
    · simp only [Option.map_eq_some_iff, Prod.mk.injEq] at h
      obtain ⟨_, _, _, rfl⟩ := h
      simp only [List.length_cons, List.length_drop]; omega
  · simp only [Option.map_eq_some_iff, Prod.mk.injEq] at h
    obtain ⟨_, _, _, rfl⟩ := h
    simp
  · simp at h

/-- A quoted text on one line, behind its first quote. -/
def basic (rev : List Char) (cs : List Char) : Option (String × List Char) :=
  match cs with
  | [] => none
  | '"' :: r => some (String.ofList rev.reverse, r)
  | '\\' :: r =>
    match h : escape? r with
    | some (c, rest) =>
      have := escape?_length h
      basic (c :: rev) rest
    | none => none
  | c :: r => if isPlain c then basic (c :: rev) r else none
termination_by cs.length

/-- What a backslash at the end of a line skips. -/
def skipContinuation (r : List Char) : Option (List Char) :=
  match r.dropWhile isSpace with
  | '\n' :: rest => some (rest.dropWhile fun c => isSpace c || c == '\n')
  | _ => none

theorem skipContinuation_length {r rest : List Char} (h : skipContinuation r = some rest) :
    rest.length < r.length := by
  unfold skipContinuation at h
  split at h
  · rename_i tail hd
    have h1 : (r.dropWhile isSpace).length ≤ r.length := (List.dropWhile_sublist _).length_le
    have h2 : (tail.dropWhile fun c => isSpace c || c == '\n').length ≤ tail.length :=
      (List.dropWhile_sublist _).length_le
    simp only [Option.some.injEq] at h
    rw [← h]
    rw [hd, List.length_cons] at h1
    omega
  · simp at h

/-- The quotes at the front, if they are the three that end a text: up to two more belong to it. -/
def closing? (quote : Char) (cs : List Char) : Option (List Char × List Char) :=
  let n := (cs.takeWhile (· == quote)).length
  if n < 3 then none
  else
    let more := min (n - 3) 2
    some (List.replicate more quote, cs.drop (3 + more))

/-- A quoted text of several lines, behind its three quotes and the line end that may follow. -/
def multiBasic (rev : List Char) (cs : List Char) : Option (String × List Char) :=
  match cs with
  | [] => none
  | '"' :: r =>
    match closing? '"' cs with
    | some (more, rest) => some (String.ofList (rev.reverse ++ more), rest)
    | none => multiBasic ('"' :: rev) r
  | '\\' :: r =>
    match h : skipContinuation r with
    | some rest =>
      have := skipContinuation_length h
      multiBasic rev rest
    | none =>
      match h : escape? r with
      | some (c, rest) =>
        have := escape?_length h
        multiBasic (c :: rev) rest
      | none => none
  | c :: r => if isPlain c || c == '\n' then multiBasic (c :: rev) r else none
termination_by cs.length

/-- A text in single quotes on one line, behind its first quote. -/
def literal (cs : List Char) : Option (String × List Char) :=
  let body := cs.takeWhile (· != '\'')
  match cs.dropWhile (· != '\'') with
  | [] => none
  | _ :: rest => if body.all isPlain then some (String.ofList body, rest) else none

def multiLiteral (rev : List Char) : List Char → Option (String × List Char)
  | [] => none
  | c :: r =>
    if c = '\'' then
      match closing? '\'' (c :: r) with
      | some (more, rest) => some (String.ofList (rev.reverse ++ more), rest)
      | none => multiLiteral (c :: rev) r
    else if isPlain c || c == '\n' then multiLiteral (c :: rev) r
    else none

/-- The text behind the line end that may follow three quotes. -/
def dropLineEnd : List Char → List Char
  | '\n' :: r => r
  | r => r

def quotedText? : List Char → Option (String × List Char)
  | '"' :: '"' :: '"' :: r => multiBasic [] (dropLineEnd r)
  | '\'' :: '\'' :: '\'' :: r => multiLiteral [] (dropLineEnd r)
  | '"' :: r => basic [] r
  | '\'' :: r => literal r
  | _ => none

/-- Digits without the underscores between them. -/
def ungroup? (isDigit : Char → Bool) : List Char → Option (List Char)
  | [] => none
  | [c] => if isDigit c then some [c] else none
  | c :: '_' :: r => if isDigit c then (ungroup? isDigit r).map (c :: ·) else none
  | c :: r => if isDigit c then (ungroup? isDigit r).map (c :: ·) else none

/-- A number that fits 64 bits with a sign. -/
def fit? (n : Int) : Option Toml :=
  if Bits.holdsSigned 64 n then some (.int n) else none

/-- Digits of a base from two to sixteen. -/
def baseDigits? (base : Nat) (cs : List Char) : Option Toml := do
  let isDigit (c : Char) : Bool := ((Text.hexDigit? c).map (decide <| · < base)).getD false
  let digits ← ungroup? isDigit cs
  fit? (Text.ofDigits base (← digits.mapM Text.hexDigit?))

/-- Decimal digits without a leading zero. -/
def wholeDigits? (cs : List Char) : Option (List Char) := do
  let digits ← ungroup? Text.isDecDigit cs
  if 1 < digits.length ∧ digits.head? = some '0' then none else some digits

def exponent? (cs : List Char) : Option Int :=
  match cs with
  | '-' :: r => do return -((← Text.decNat? (← ungroup? Text.isDecDigit r)) : Int)
  | '+' :: r => do return ((← Text.decNat? (← ungroup? Text.isDecDigit r)) : Int)
  | r => do return ((← Text.decNat? (← ungroup? Text.isDecDigit r)) : Int)

/-- A float from its digits; one too large for a finite float is refused unless it is negative. -/
def float? (negative : Bool) (whole fraction : List Char) (exponent : Int) : Option Toml := do
  let digits ← Text.decNat? (whole ++ fraction)
  let x := Binary64.ofDecimal negative digits (exponent - fraction.length)
  if x.isInf && !negative then none else some (.float x)

def decimal? (negative : Bool) (cs : List Char) : Option Toml := do
  let isPart (c : Char) : Bool := Text.isDecDigit c || c == '_'
  let whole ← wholeDigits? (cs.takeWhile isPart)
  match cs.dropWhile isPart with
  | [] =>
    let n ← Text.decNat? whole
    fit? (if negative then -(n : Int) else n)
  | '.' :: r =>
    let fraction ← ungroup? Text.isDecDigit (r.takeWhile isPart)
    match r.dropWhile isPart with
    | [] => float? negative whole fraction 0
    | e :: r => if e = 'e' ∨ e = 'E' then float? negative whole fraction (← exponent? r) else none
  | e :: r => if e = 'e' ∨ e = 'E' then float? negative whole [] (← exponent? r) else none

/-- The value of two digits up to a greatest value. -/
def pair? (least greatest : Nat) (a b : Char) : Option Nat := do
  let n ← Text.decNat? [a, b]
  if least ≤ n ∧ n ≤ greatest then some n else none

def daysIn (year month : Nat) : Nat :=
  match month with
  | 2 => if year % 4 = 0 ∧ (year % 100 ≠ 0 ∨ year % 400 = 0) then 29 else 28
  | 4 | 6 | 9 | 11 => 30
  | _ => 31

def date? : List Char → Option (List Char × List Char)
  | y1 :: y2 :: y3 :: y4 :: '-' :: m1 :: m2 :: '-' :: d1 :: d2 :: rest => do
    let year ← Text.decNat? [y1, y2, y3, y4]
    let month ← pair? 1 12 m1 m2
    let _ ← pair? 1 (daysIn year month) d1 d2
    return ([y1, y2, y3, y4, '-', m1, m2, '-', d1, d2], rest)
  | _ => none

/-- A time of day. Digits of the fraction beyond the ninth are dropped, and so are zeros at its
end. -/
def time? : List Char → Option (List Char × List Char)
  | h1 :: h2 :: ':' :: m1 :: m2 :: ':' :: s1 :: s2 :: rest => do
    let _ ← pair? 0 23 h1 h2
    let _ ← pair? 0 59 m1 m2
    let _ ← pair? 0 60 s1 s2
    let clock := [h1, h2, ':', m1, m2, ':', s1, s2]
    match rest with
    | '.' :: r =>
      let digits := r.takeWhile Text.isDecDigit
      if digits.isEmpty then none
      else
        let kept := ((digits.take 9).reverse.dropWhile (· == '0')).reverse
        let fraction := if kept.isEmpty then [] else '.' :: kept
        return (clock ++ fraction, r.dropWhile Text.isDecDigit)
    | r => return (clock, r)
  | _ => none

/-- An offset from universal time, at the end of a date and time. -/
def offset? : List Char → Option (List Char)
  | [] => some []
  | ['Z'] | ['z'] => some ['Z']
  | [sign, h1, h2, ':', m1, m2] => do
    let h ← pair? 0 23 h1 h2
    let m ← pair? 0 59 m1 m2
    if sign = '+' ∨ (sign = '-' ∧ h = 0 ∧ m = 0) then some ['+', h1, h2, ':', m1, m2]
    else if sign = '-' then some [sign, h1, h2, ':', m1, m2]
    else none
  | _ => none

/-- A date, a time of day or both, from the word at the front and what comes behind it. -/
def moment? (word rest : List Char) : Option (Toml × List Char) :=
  let timed (date clock rest : List Char) : Option (Toml × List Char) := do
    let (time, zone) ← time? clock
    let zone ← offset? zone
    return (.moment (String.ofList (date ++ 'T' :: time ++ zone)), rest)
  match date? word with
  | some (date, []) =>
    match rest with
    | ' ' :: c :: r =>
      if Text.isDecDigit c then
        let isPart (c : Char) : Bool :=
          Text.isDecDigit c || ['+', '-', '.', ':', 'Z', 'z'].contains c
        timed date ((c :: r).takeWhile isPart) ((c :: r).dropWhile isPart)
      else some (.moment (String.ofList date), rest)
    | _ => some (.moment (String.ofList date), rest)
  | some (date, t :: clock) => if t = 'T' ∨ t = 't' then timed date clock rest else none
  | none =>
    match time? word with
    | some (time, []) => some (.moment (String.ofList time), rest)
    | _ => none

def isWordChar (c : Char) : Bool :=
  ('0' ≤ c && c ≤ '9') || ('a' ≤ c && c ≤ 'z') || ('A' ≤ c && c ≤ 'Z') || c == '+' || c == '-' ||
    c == '_' || c == '.' || c == ':'

def word? (word : List Char) : Option Toml :=
  match word with
  | ['t', 'r', 'u', 'e'] => some (.bool true)
  | ['f', 'a', 'l', 's', 'e'] => some (.bool false)
  | ['i', 'n', 'f'] | ['+', 'i', 'n', 'f'] => some (.float (Binary64.ofDecimal false 1 400))
  | ['-', 'i', 'n', 'f'] => some (.float (Binary64.ofDecimal true 1 400))
  | ['n', 'a', 'n'] | ['+', 'n', 'a', 'n'] | ['-', 'n', 'a', 'n'] => some (.float (0.0 / 0.0))
  | '0' :: 'x' :: r => baseDigits? 16 r
  | '0' :: 'o' :: r => baseDigits? 8 r
  | '0' :: 'b' :: r => baseDigits? 2 r
  | '-' :: r => decimal? true r
  | '+' :: r => decimal? false r
  | r => decimal? false r

def plain? (cs : List Char) : Option (Toml × List Char) :=
  let word := cs.takeWhile isWordChar
  let rest := cs.dropWhile isWordChar
  match moment? word rest with
  | some found => some found
  | none => (word? word).map fun v => (v, rest)

end CrossChain.Toml
