import CrossChain.Text.Digits

/-!
# Binary floating point

Reading and writing of 64-bit binary floating point numbers in exact natural arithmetic: `nearest`
rounds a quotient to the nearest float, ties to even, and `shortest` finds the fewest decimal digits
that read back as a given float, the nearest of those.
-/

namespace CrossChain.Binary64

def infinityBits : Nat := 0x7ff0000000000000

def signBit : Nat := 0x8000000000000000

/-- The least mantissa of a float that is not subnormal; mantissas have 53 bits. -/
def leadingBit : Nat := 0x10000000000000

/-- The quotient of two numbers rounded to the nearest integer, ties to even. -/
def roundQuotient (num den : Nat) : Nat :=
  let q := num / den
  let r := num % den
  if 2 * r < den then q
  else if den < 2 * r then q + 1
  else q + q % 2

/-- The bits of the float nearest to `num / den`. A float is `m * 2 ^ q` with `m < 2 ^ 53` and
`q ≥ -1074`; the exponent is taken from the bit lengths, so that the rounded mantissa has 53 bits
unless the number is subnormal. -/
def nearestBits (num den : Nat) : Nat :=
  if num = 0 ∨ den = 0 then 0
  else
    -- `2 ^ (e - 1) < num / den < 2 ^ (e + 1)`
    let e : Int := (Nat.log2 num : Int) - Nat.log2 den
    let scaled (q : Int) : Nat × Nat :=
      if q < 0 then (num <<< (-q).toNat, den) else (num, den <<< q.toNat)
    let wide : Int := Max.max (e - 53) (-1074)
    let (n, d) := scaled wide
    let q : Int := if n / d < 2 * leadingBit then wide else wide + 1
    let (n, d) := scaled q
    let m := roundQuotient n d
    let (m, q) := if m = 2 * leadingBit then (leadingBit, q + 1) else (m, q)
    if q > 971 then infinityBits
    else if m < leadingBit then m
    else (q + 1075).toNat * leadingBit + (m - leadingBit)

/-- The float nearest to a decimal `(-1) ^ negative * digits * 10 ^ exponent`. Exponents that no
float reaches are cut off first, so that the powers of ten stay small. -/
def ofDecimal (negative : Bool) (digits : Nat) (exponent : Int) : Float :=
  let size : Int := (Nat.toDigits 10 digits).length + exponent
  let bits :=
    if digits = 0 ∨ size < -400 then 0
    else if size > 400 then infinityBits
    else if exponent < 0 then nearestBits digits (Nat.pow 10 (-exponent).toNat)
    else nearestBits (digits * Nat.pow 10 exponent.toNat) 1
  Float.ofBits (UInt64.ofNat (if negative then bits + signBit else bits))

/-- The parts of a finite float's bits: its mantissa, its exponent and whether the gap below it is
half the gap above. -/
def parts (bits : Nat) : Nat × Int × Bool :=
  let m := bits % leadingBit
  let e := bits / leadingBit % 0x800
  if e = 0 then (m, -1074, false)
  else (m + leadingBit, Int.ofNat e - 1075, m == 0 && 1 < e)

/-- The exponent of the leading digit of `num / den`, searched upwards from `-fuel`. -/
def leadingExponent (num den : Nat) : Nat → Int
  | 0 => ((Nat.toDigits 10 (num / den)).length : Int) - 1
  | fuel + 1 =>
    if num / den = 0 then leadingExponent (num * 10) den fuel - 1
    else leadingExponent num den 0

/-- The fewest digits that read back as the float with the given positive finite bits, as a number
and a power of ten. The two neighbours of the float on each decimal grid are tried, the coarsest
grid first. -/
def shortest (bits : Nat) : Nat × Int :=
  let (m, q, narrow) := parts bits
  -- four times the float, and the ends of the interval that rounds to it, over one denominator
  let unit := if q < 0 then 1 else 1 <<< q.toNat
  let den := if q < 0 then 4 <<< (-q).toNat else 4
  let value := 4 * m * unit
  let low := (if narrow then 4 * m - 1 else 4 * m - 2) * unit
  let high := (4 * m + 2) * unit
  let closed := m % 2 == 0
  let lead := leadingExponent value den 350
  let grid (n : Nat) : Option (Nat × Int) :=
    let t : Int := lead + 1 - n
    -- the grid point `k` is `k * step` in units of `1 / scale`
    let scale := if t < 0 then Nat.pow 10 (-t).toNat else 1
    let step := if t < 0 then den else den * Nat.pow 10 t.toNat
    let inside (k : Nat) : Bool :=
      let x := k * step
      if closed then low * scale ≤ x && x ≤ high * scale
      else low * scale < x && x < high * scale
    let k := value * scale / step
    let below := value * scale - k * step
    let above := (k + 1) * step - value * scale
    let lower := inside k
    let upper := inside (k + 1)
    if lower && upper then
      some (if below < above || (below == above && k % 2 == 0) then k else k + 1, t)
    else if lower then some (k, t)
    else if upper then some (k + 1, t)
    else none
  ((List.range 17).findSome? fun n => grid (n + 1)).getD (0, 0)

/-- A decimal without trailing zeros. -/
def dropZeros : Nat → Nat → Int → Nat × Int
  | 0, n, t => (n, t)
  | fuel + 1, n, t => if n ≠ 0 ∧ n % 10 = 0 then dropZeros fuel (n / 10) (t + 1) else (n, t)

/-- Where a printer leaves positional notation. -/
structure Layout where
  /-- The least and the greatest exponent of the leading digit that is written positionally. -/
  least : Int
  greatest : Int
  /-- The fewest digits of a written exponent. -/
  exponentDigits : Nat

/-- A positive decimal in a notation, always with a fraction when positional. -/
def Layout.write (f : Layout) (digits : Nat) (t : Int) : String :=
  let ds := Nat.toDigits 10 digits
  let lead : Int := (ds.length : Int) - 1 + t
  if f.least ≤ lead ∧ lead ≤ f.greatest then
    if 0 ≤ t then String.ofList (ds ++ List.replicate t.toNat '0' ++ ['.', '0'])
    else if 0 ≤ lead then
      let whole := (lead + 1).toNat
      String.ofList (ds.take whole ++ '.' :: ds.drop whole)
    else String.ofList ('0' :: '.' :: List.replicate (-lead - 1).toNat '0' ++ ds)
  else
    let mantissa := match ds with
      | [d] => [d]
      | d :: rest => d :: '.' :: rest
      | [] => []
    let sign := if lead < 0 then '-' else '+'
    let power := Text.padStart f.exponentDigits '0' (Nat.toDigits 10 lead.natAbs)
    String.ofList (mantissa ++ 'e' :: sign :: power)

def Layout.writeFloat (f : Layout) (x : Float) : String :=
  let all := x.toBits.toNat
  let bits := all % signBit
  let text :=
    if bits = 0 then "0.0"
    else
      let (n, t) := shortest bits
      let (n, t) := dropZeros 20 n t
      f.write n t
  if all = bits then text else "-" ++ text

end CrossChain.Binary64
