import CrossChain.Text.Blank
import CrossChain.Text.Digits

/-!
# Times of day

A time of day with nanoseconds. A leap second is the second before it with a thousand million
nanoseconds or more. `untilNext` is the wait of a daily task: from a time of day to the next
occurrence of another, strictly in the future.
-/

namespace CrossChain

/-- Seconds since midnight and nanoseconds, which run up to two thousand million in a leap
second. -/
structure TimeOfDay where
  seconds : Nat
  nanos : Nat
  seconds_lt : seconds < 86400
  nanos_lt : nanos < 2000000000
  deriving DecidableEq, Repr

namespace TimeOfDay

def second : Nat := 1000000000

def day : Nat := 86400

/-- The time of day of an hour, a minute, a second and a fraction; a sixtieth second is a leap
second. -/
def ofClock? (hour minute second nanos : Nat) : Option TimeOfDay :=
  let leap := second == 60
  let secs := hour * 3600 + minute * 60 + (if leap then 59 else second)
  let fraction := if leap then nanos + 1000000000 else nanos
  if h : secs < 86400 ∧ fraction < 2000000000 then
    if hour < 24 ∧ minute < 60 ∧ second ≤ 60 ∧ nanos < 1000000000 then
      some ⟨secs, fraction, h.1, h.2⟩
    else none
  else none

/-- At most two digits, blanks in front skipped. -/
def field? (cs : List Char) : Option (Nat × List Char) :=
  let cs := cs.dropWhile Text.isBlank
  let digits := (cs.take 2).takeWhile Text.isDecDigit
  (Text.decNat? digits).map fun n => (n, cs.drop digits.length)

/-- A colon, blanks in front skipped. -/
def colon? (cs : List Char) : Option (List Char) :=
  match cs.dropWhile Text.isBlank with
  | ':' :: rest => some rest
  | _ => none

/-- An optional fraction; digits beyond the ninth are dropped. -/
def fraction? (cs : List Char) : Option (Nat × List Char) :=
  match cs with
  | '.' :: rest =>
    let digits := rest.takeWhile Text.isDecDigit
    let kept := digits.take 9
    (Text.decNat? kept).map fun n =>
      (n * Nat.pow 10 (9 - kept.length), rest.dropWhile Text.isDecDigit)
  | rest => some (0, rest)

/-- The seconds behind an hour and a minute, which may be missing. -/
def seconds? (cs : List Char) : Option (Nat × Nat × List Char) := do
  let rest ← colon? cs
  let (s, rest) ← field? rest
  let (n, rest) ← fraction? rest
  return (s, n, rest.dropWhile Text.isBlank)

/-- The time of day that a text such as `04:00:00` or `04:00:00.5` denotes. -/
def parse? (s : String) : Option TimeOfDay := do
  let (hour, rest) ← field? s.toList
  let rest ← colon? rest
  let (minute, rest) ← field? rest
  let (second, nanos, rest) := (seconds? rest).getD (0, 0, rest)
  if (rest.dropWhile Text.isBlank).isEmpty then ofClock? hour minute second nanos else none

/-- The time of day of an instant such as `2024-05-01T03:59:59.5+02:00`, in its own offset. -/
def ofInstant? (s : String) : Option TimeOfDay :=
  let clock := (s.toList.dropWhile fun c => c != 'T' && c != 't' && c != ' ').drop 1
  parse? (String.ofList (clock.takeWhile fun c => Text.isDecDigit c || c == ':' || c == '.'))

def twoDigits (n : Nat) : List Char :=
  Text.padStart 2 '0' (Nat.toDigits 10 n)

/-- The fraction as three, six or nine digits, whichever is enough. -/
def fractionText (nanos : Nat) : List Char :=
  if nanos = 0 then []
  else if nanos % 1000000 = 0 then '.' :: Text.padStart 3 '0' (Nat.toDigits 10 (nanos / 1000000))
  else if nanos % 1000 = 0 then '.' :: Text.padStart 6 '0' (Nat.toDigits 10 (nanos / 1000))
  else '.' :: Text.padStart 9 '0' (Nat.toDigits 10 nanos)

/-- The text `HH:MM:SS` with the fraction, if there is one. -/
def text (t : TimeOfDay) : String :=
  let leap := second ≤ t.nanos
  let s := t.seconds % 60 + (if leap then 1 else 0)
  let nanos := if leap then t.nanos - second else t.nanos
  String.ofList (twoDigits (t.seconds / 3600) ++ ':' :: twoDigits (t.seconds / 60 % 60) ++
    ':' :: twoDigits s ++ fractionText nanos)

/-- The nanoseconds from `b` to `a` on one day. A leap second between the two counts. -/
def since (a b : TimeOfDay) : Int :=
  let leap : Int :=
    if b.seconds < a.seconds then (if second ≤ b.nanos then 1 else 0)
    else if a.seconds < b.seconds then (if second ≤ a.nanos then -1 else 0)
    else 0
  ((a.seconds : Int) - b.seconds + leap) * second + ((a.nanos : Int) - b.nanos)

/-- The same time on the next day, which is no leap second. -/
def nextDay (t : TimeOfDay) : TimeOfDay :=
  if second ≤ t.nanos then
    ⟨t.seconds, t.nanos - second, t.seconds_lt, Nat.lt_of_le_of_lt (Nat.sub_le _ _) t.nanos_lt⟩
  else t

/-- The order on one day. -/
def le (a b : TimeOfDay) : Bool :=
  a.seconds < b.seconds || (a.seconds == b.seconds && a.nanos ≤ b.nanos)

/-- The nanoseconds from `now` to the next occurrence of `t`. -/
def untilNext (now t : TimeOfDay) : Nat :=
  if le t now then ((day * second : Nat) + (nextDay t).since now).toNat else (t.since now).toNat

end TimeOfDay

end CrossChain
