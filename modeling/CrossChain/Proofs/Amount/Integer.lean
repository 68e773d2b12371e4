import CrossChain.Proofs.Amount
import CrossChain.Proofs.Number.Integer

/-!
# Integers that nodes write

Decimal texts are read from their first digit and hexadecimal ones from their last, either until the
number leaves 256 bits. Underscores are skipped on the way. `number?` is what the digits denote, at
any size and whichever way they are read.

Both readers give the number of their run when it has 256 bits (`readDecimal_eq_ok_iff`,
`readHexFromEnd_eq_ok_iff`). So what is read of a text is the number that it denotes, if that has
256 bits, and nothing else (`parseInteger_eq_ok_iff`).
-/

namespace CrossChain.Amount

open Text (decDigit? hexDigit?)

variable {text : String} {cs : List Char} {n : Nat}

/-- The values of the digits of a run, underscores left out. -/
def values? (digit? : Char → Option Nat) (cs : List Char) : Option (List Nat) :=
  (cs.filter (· != '_')).mapM digit?

/-- The number that characters denote, of any size: in hexadecimal behind a mark, else in
decimal. -/
def number? : List Char → Option Nat
  | '0' :: 'x' :: digits | '0' :: 'X' :: digits => (values? hexDigit? digits).map (Text.ofDigits 16)
  | digits => (values? decDigit? digits).map (Text.ofDigits 10)

def integer? (text : String) : Option Nat := number? (Text.trim text).toList

/-! ## Runs of digits -/

theorem values?_underscore_cons (digit? : Char → Option Nat) (cs : List Char) :
    values? digit? ('_' :: cs) = values? digit? cs := rfl

theorem values?_cons (digit? : Char → Option Nat) {c : Char} (hc : c ≠ '_') (cs : List Char) :
    values? digit? (c :: cs) = (digit? c).bind fun d => (values? digit? cs).map (d :: ·) := by
  rw [values?, List.filter_cons_of_pos (by simpa using hc), Text.mapM_cons_eq, ← values?]

theorem values?_reverse (digit? : Char → Option Nat) {ds : List Nat} :
    values? digit? cs.reverse = some ds ↔ values? digit? cs = some ds.reverse := by
  rw [values?, values?, List.filter_reverse, Text.mapM_eq_some_iff, Text.mapM_eq_some_iff,
    List.map_reverse, List.map_reverse, List.reverse_eq_iff]

/-- A decimal run is read as its digits are without the underscores. -/
theorem toOption_readDecimal (acc : Nat) (cs : List Char) : (readDecimal acc cs).toOption =
    (readDigits decDigit? 10 U256.size .tooLarge acc (cs.filter (· != '_'))).toOption := by
  induction cs generalizing acc with
  | nil => rfl
  | cons c rest ih =>
    rw [readDecimal]
    by_cases hc : c = '_'
    · rw [if_pos hc, ih, hc]
      rfl
    · rw [if_neg hc, List.filter_cons_of_pos (by simpa using hc), readDigits]
      cases decDigit? c with
      | none => rfl
      | some d =>
        dsimp only
        split
        · exact ih _
        · rfl

/-- A decimal run behind a number is read as far as the number has 256 bits, and read to its end
when the whole number has. -/
theorem readDecimal_eq_ok_iff {acc : Nat} (hacc : acc < U256.size) : readDecimal acc cs = .ok n ↔
    ∃ ds, values? decDigit? cs = some ds ∧ ds.foldl (fun acc d => acc * 10 + d) acc = n ∧
    n < U256.size := by
  rw [← except_toOption_eq_some, toOption_readDecimal, except_toOption_eq_some,
    readDigits_eq_ok_iff (by decide) hacc, ← values?]

/-- A hexadecimal run is read from its end likewise. -/
theorem readHexFromEnd_eq_ok_iff {acc place : Nat} (hacc : acc < U256.size) :
    readHexFromEnd acc place cs = .ok n ↔
      ∃ ds, values? hexDigit? cs = some ds ∧ acc + place * Nat.ofDigits 16 ds = n ∧
      n < U256.size := by
  induction cs generalizing acc place with
  | nil =>
    rw [readHexFromEnd]
    constructor
    · rintro ⟨⟩
      exact ⟨[], rfl, rfl, hacc⟩
    · rintro ⟨ds, hds, hn, -⟩
      cases hds
      rw [← hn]
      rfl
  | cons c rest ih =>
    rw [readHexFromEnd]
    by_cases hc : c = '_'
    · rw [if_pos hc, ih hacc, hc, values?_underscore_cons]
    · rw [if_neg hc, values?_cons _ hc]
      cases hexDigit? c with
      | none => simp
      | some d =>
        have hvalue (ds : List Nat) : acc + place * Nat.ofDigits 16 (d :: ds) =
            acc + d * place + place * 16 * Nat.ofDigits 16 ds := by
          rw [Nat.ofDigits_cons]
          ring
        simp only [Option.bind_some, Option.map_eq_some_iff, exists_exists_and_eq_and, hvalue]
        -- A number that leaves 256 bits never comes back, as further digits only add to it.
        by_cases hfits : acc + d * place < U256.size
        · rw [if_pos hfits, ih hfits]
        · rw [if_neg hfits]
          refine iff_of_false (by rintro ⟨⟩) ?_
          rintro ⟨ds, -, hn, hlt⟩
          omega

/-! ## Integers -/

theorem size_pos : 0 < U256.size := by decide

theorem readHexFromEnd_reverse_eq_ok_iff : readHexFromEnd 0 1 cs.reverse = .ok n ↔
    (values? hexDigit? cs).map (Text.ofDigits 16) = some n ∧ n < U256.size := by
  rw [readHexFromEnd_eq_ok_iff size_pos, Option.map_eq_some_iff]
  simp only [values?_reverse, Text.ofDigits_eq, Nat.zero_add, Nat.one_mul]
  constructor
  · rintro ⟨ds, hds, hn, hlt⟩
    exact ⟨⟨ds.reverse, hds, by rw [List.reverse_reverse, hn]⟩, hlt⟩
  · rintro ⟨⟨ds, hds, hn⟩, hlt⟩
    exact ⟨ds.reverse, by rw [List.reverse_reverse, hds], hn, hlt⟩

theorem readDecimal_zero_eq_ok_iff : readDecimal 0 cs = .ok n ↔
    (values? decDigit? cs).map (Text.ofDigits 10) = some n ∧ n < U256.size := by
  rw [readDecimal_eq_ok_iff size_pos, Option.map_eq_some_iff]
  constructor
  · rintro ⟨ds, hds, hn, hlt⟩
    exact ⟨⟨ds, hds, hn⟩, hlt⟩
  · rintro ⟨⟨ds, hds, hn⟩, hlt⟩
    exact ⟨ds, hds, hn, hlt⟩

theorem readInteger_eq_ok_iff : readInteger cs = .ok n ↔ number? cs = some n ∧ n < U256.size := by
  unfold readInteger
  split
  · exact readHexFromEnd_reverse_eq_ok_iff
  · exact readHexFromEnd_reverse_eq_ok_iff
  · next hx hX =>
    rw [number?, readDecimal_zero_eq_ok_iff]
    · exact hx
    · exact hX

/-- What a node wrote is read as the number that it denotes, if that has 256 bits. -/
theorem parseInteger_eq_ok_iff {u : U256} : parseInteger text = .ok u ↔
    integer? text = some u.toNat := by
  rw [parseInteger, integer?]
  constructor
  · intro h
    split at h
    · next n hn =>
      split at h
      · next units hunits =>
        cases h
        rw [ofNat?_eq_some.mp hunits]
        exact (readInteger_eq_ok_iff.mp hn).1
      · cases h
    · cases h
  · intro h
    rw [readInteger_eq_ok_iff.mpr ⟨h, u.isLt⟩]
    dsimp only
    rw [ofNat?_eq_some.mpr rfl]

end CrossChain.Amount
