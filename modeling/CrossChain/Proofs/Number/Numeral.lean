import CrossChain.Proofs.Number.Nearest

/-!
# Numerals

A numeral has digits, of which some stand behind the point, a sign and an exponent.
`Numeral.ofChars?` is the numeral that a text spells, `Numeral.value` the number that it denotes,
`Numeral.held` what a decimal holds of it, and `Numeral.IsHeld` says that a decimal has room for it.

The digits of a text make up a number behind those that stand in front (`number`) and count the
places behind the point (`placesOf`). Digits that follow are worth less than a unit of the digits
before them (`number_bounds`).
-/

namespace CrossChain

theorem Text.decDigit?_lt {c : Char} {d : Nat} (h : decDigit? c = some d) : d < 10 := by
  unfold decDigit? at h
  split at h
  · next hc =>
    cases h
    have hhigh : c.toNat ≤ 57 := hc.2
    omega
  · cases h

/-- A numeral of digits, of which some stand behind the point, with a sign and an exponent. -/
structure Numeral where
  negative : Bool
  /-- The number that the digits make up when the point is left out. -/
  digits : Nat
  places : Nat
  exponent : Int
  deriving DecidableEq

namespace Numeral

def sign (n : Numeral) : ℚ := if n.negative then -1 else 1

/-- The number in front of the exponent, without its sign. -/
def base (n : Numeral) : ℚ := n.digits / 10 ^ n.places

/-- The number that is denoted. -/
def value (n : Numeral) : ℚ := n.sign * (n.base * 10 ^ n.exponent)

/-- There is room in a decimal for all digits in front of the exponent, none of which is then
rounded. -/
def Fits (n : Numeral) : Prop := n.digits < Decimal.mantissaBound ∧ n.places ≤ Decimal.maxScale

instance (n : Numeral) : Decidable n.Fits := inferInstanceAs (Decidable (_ ∧ _))

/-- What is held of a numeral: its base is read by itself, and the exponent moves the point of what
is held of it. -/
def held (n : Numeral) : ℚ :=
  n.sign * Decimal.nearest (Decimal.nearest n.base * 10 ^ n.exponent)

/-- There is room for the base of a numeral, and for what its exponent makes of it. -/
structure IsHeld (n : Numeral) : Prop where
  base : Decimal.HasRoom n.base
  exponent : n.exponent.natAbs ≤ Decimal.maxScale
  room : Decimal.HasRoom (Decimal.nearest n.base * 10 ^ n.exponent)

/-! ## Spelling -/

/-- Digits, with at most one point and with `_` behind a digit; `point` and `seen` say whether a
point and a digit stand in front. -/
def isSpelled (point seen : Bool) : List Char → Bool
  | [] => seen
  | c :: rest =>
    if c = '.' then !point && isSpelled true seen rest
    else if c = '_' then seen && isSpelled point seen rest
    else Text.isDecDigit c && isSpelled point true rest

def digitsOf (cs : List Char) : List Nat := cs.filterMap Text.decDigit?

/-- How many digits stand behind the point, which may stand in front. -/
def placesOf (point : Bool) (cs : List Char) : Nat :=
  (digitsOf (if point then cs else cs.dropWhile (· != '.'))).length

def splitSign : List Char → Bool × List Char
  | '-' :: r => (true, r)
  | '+' :: r => (false, r)
  | r => (false, r)

/-- The numeral with an exponent whose base is spelled by a text. -/
def ofBase? (cs : List Char) (exponent : Int) : Option Numeral :=
  let (negative, body) := splitSign cs
  if isSpelled false false body then
    some ⟨negative, Text.ofDigits 10 (digitsOf body), placesOf false body, exponent⟩
  else none

/-- The number of digits behind an optional plus sign. -/
def magnitude? : List Char → Option Nat
  | '+' :: r => Text.decNat? r
  | r => Text.decNat? r

def exponent? : List Char → Option Int
  | '-' :: r => (magnitude? r).map fun n : Nat => -(n : Int)
  | r => (magnitude? r).map fun n : Nat => (n : Int)

def isMark (c : Char) : Bool := c == 'e' || c == 'E'

/-- The numeral that a text spells, with its exponent behind a mark. -/
def ofChars? (cs : List Char) : Option Numeral :=
  match cs.dropWhile (!isMark ·) with
  | [] => ofBase? cs 0
  | _ :: exponent => (exponent? exponent).bind (ofBase? (cs.takeWhile (!isMark ·)))

/-! ## Digits -/

/-- The number that the digits of a text make up behind those of `acc`. -/
def number (acc : Nat) (cs : List Char) : Nat := (digitsOf cs).foldl (fun acc d => acc * 10 + d) acc

section cons

variable {c : Char} {rest : List Char} {d acc : Nat} {point seen : Bool}

theorem digitsOf_cons (hd : Text.decDigit? c = some d) :
    digitsOf (c :: rest) = d :: digitsOf rest := by
  rw [digitsOf, List.filterMap_cons, hd]
  rfl

theorem digitsOf_cons_of_none (hd : Text.decDigit? c = none) :
    digitsOf (c :: rest) = digitsOf rest := by
  rw [digitsOf, List.filterMap_cons, hd]
  rfl

theorem number_cons (hd : Text.decDigit? c = some d) :
    number acc (c :: rest) = number (acc * 10 + d) rest := by
  rw [number, digitsOf_cons hd, List.foldl_cons, number]

theorem number_cons_of_none (hd : Text.decDigit? c = none) :
    number acc (c :: rest) = number acc rest := by
  rw [number, digitsOf_cons_of_none hd, number]

theorem placesOf_cons (hd : Text.decDigit? c = some d) :
    placesOf point (c :: rest) = placesOf point rest + point.toNat := by
  cases point with
  | false =>
    have hpoint : c ≠ '.' := by
      rintro rfl
      cases hd
    simp [placesOf, hpoint]
  | true => simp [placesOf, digitsOf_cons hd]

theorem placesOf_point : placesOf false ('.' :: rest) = placesOf true rest := by
  rw [placesOf, placesOf, if_neg Bool.false_ne_true, if_pos rfl,
    List.dropWhile_cons_of_neg (by decide)]
  rw [digitsOf_cons_of_none (by decide)]

theorem placesOf_underscore : placesOf point ('_' :: rest) = placesOf point rest := by
  cases point with
  | false => rw [placesOf, if_neg Bool.false_ne_true, List.dropWhile_cons_of_pos (by decide)]; rfl
  | true => rw [placesOf, if_pos rfl, digitsOf_cons_of_none (by decide)]; rfl

theorem placesOf_le (point : Bool) (cs : List Char) : placesOf point cs ≤ (digitsOf cs).length := by
  unfold placesOf
  split
  · exact le_refl _
  · exact ((List.dropWhile_sublist _).filterMap _).length_le

theorem isSpelled_cons_digit (hd : Text.decDigit? c = some d) :
    isSpelled point seen (c :: rest) = isSpelled point true rest := by
  have hpoint : c ≠ '.' := by
    rintro rfl
    cases hd
  have hunderscore : c ≠ '_' := by
    rintro rfl
    cases hd
  rw [isSpelled, if_neg hpoint, if_neg hunderscore, Text.isDecDigit, hd]
  rfl

/-- A spelled text begins with a digit, its point or a `_`. -/
theorem isSpelled_cons (h : isSpelled point seen (c :: rest) = true) :
    (∃ d, Text.decDigit? c = some d ∧ isSpelled point true rest = true) ∨
      (c = '.' ∧ point = false ∧ isSpelled true seen rest = true) ∨
      (c = '_' ∧ seen = true ∧ isSpelled point seen rest = true) := by
  rw [isSpelled] at h
  split at h
  · next hpoint =>
    rw [Bool.and_eq_true, Bool.not_eq_true'] at h
    exact .inr (.inl ⟨hpoint, h⟩)
  · split at h
    · next hunderscore =>
      rw [Bool.and_eq_true] at h
      exact .inr (.inr ⟨hunderscore, h⟩)
    · rw [Bool.and_eq_true, Text.isDecDigit, Option.isSome_iff_exists] at h
      obtain ⟨⟨d, hd⟩, hrest⟩ := h
      exact .inl ⟨d, hd, hrest⟩

end cons

/-! ## Runs of digits -/

section Digits

variable {cs rest : List Char} {point seen : Bool}

theorem digitsOf_append (cs rest : List Char) :
    digitsOf (cs ++ rest) = digitsOf cs ++ digitsOf rest :=
  List.filterMap_append

theorem length_digitsOf (h : ∀ c ∈ cs, Text.isDecDigit c = true) :
    (digitsOf cs).length = cs.length := by
  induction cs with
  | nil => rfl
  | cons c rest ih =>
    obtain ⟨hc, hrest⟩ := List.forall_mem_cons.mp h
    obtain ⟨d, hd⟩ := Option.isSome_iff_exists.mp hc
    rw [digitsOf_cons hd, List.length_cons, List.length_cons, ih hrest]

/-- Digits in front keep a text spelled, and one of them is enough to begin it. -/
theorem isSpelled_digits_append (h : ∀ c ∈ cs, Text.isDecDigit c = true) :
    isSpelled point seen (cs ++ rest) = isSpelled point (seen || !cs.isEmpty) rest := by
  induction cs generalizing seen with
  | nil => rw [List.nil_append, List.isEmpty_nil, Bool.not_true, Bool.or_false]
  | cons c cs ih =>
    obtain ⟨hc, hcs⟩ := List.forall_mem_cons.mp h
    obtain ⟨d, hd⟩ := Option.isSome_iff_exists.mp hc
    rw [List.cons_append, isSpelled_cons_digit hd, ih hcs]
    simp

theorem placesOf_digits_append (h : ∀ c ∈ cs, Text.isDecDigit c = true) :
    placesOf point (cs ++ rest) = placesOf point rest + cs.length * point.toNat := by
  induction cs with
  | nil => rw [List.nil_append, List.length_nil, Nat.zero_mul, Nat.add_zero]
  | cons c cs ih =>
    obtain ⟨hc, hcs⟩ := List.forall_mem_cons.mp h
    obtain ⟨d, hd⟩ := Option.isSome_iff_exists.mp hc
    rw [List.cons_append, placesOf_cons hd, ih hcs, List.length_cons, Nat.succ_mul, Nat.add_assoc]

end Digits

theorem le_number (acc : Nat) (cs : List Char) : acc ≤ number acc cs := by
  induction cs generalizing acc with
  | nil => exact le_refl acc
  | cons c rest ih =>
    cases hd : Text.decDigit? c with
    | none =>
      rw [number_cons_of_none hd]
      exact ih acc
    | some d =>
      rw [number_cons hd]
      exact le_trans (by omega) (ih _)

/-- Digits that follow are worth less than a unit of the digits before them. -/
theorem number_bounds (acc : Nat) (cs : List Char) :
    acc * 10 ^ (digitsOf cs).length ≤ number acc cs ∧
      number acc cs < (acc + 1) * 10 ^ (digitsOf cs).length := by
  induction cs generalizing acc with
  | nil => exact ⟨by simp [number, digitsOf], by simp [number, digitsOf]⟩
  | cons c rest ih =>
    cases hd : Text.decDigit? c with
    | none =>
      rw [number_cons_of_none hd, digitsOf_cons_of_none hd]
      exact ih acc
    | some d =>
      obtain ⟨hlow, hhigh⟩ := ih (acc * 10 + d)
      have hdigit := Text.decDigit?_lt hd
      rw [number_cons hd, digitsOf_cons hd, List.length_cons, Nat.pow_succ']
      constructor
      · calc acc * (10 * 10 ^ (digitsOf rest).length)
            = acc * 10 * 10 ^ (digitsOf rest).length := by rw [Nat.mul_assoc]
          _ ≤ (acc * 10 + d) * 10 ^ (digitsOf rest).length := Nat.mul_le_mul_right _ (by omega)
          _ ≤ number (acc * 10 + d) rest := hlow
      · calc number (acc * 10 + d) rest
            < (acc * 10 + d + 1) * 10 ^ (digitsOf rest).length := hhigh
          _ ≤ (acc + 1) * 10 * 10 ^ (digitsOf rest).length := Nat.mul_le_mul_right _ (by omega)
          _ = (acc + 1) * (10 * 10 ^ (digitsOf rest).length) := by rw [Nat.mul_assoc]

end Numeral

end CrossChain
