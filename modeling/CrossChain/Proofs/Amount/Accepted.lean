import CrossChain.Proofs.Amount.Integer

/-!
# Which texts are integers

Without the blanks around it and its underscores, an unsigned integer is decimal digits, one at
least, or a mark and hexadecimal digits, perhaps none (`IsInteger`). `IsRead` says that exactly the
integers of 256 bits are read, each as what it denotes.

Behind a mark this holds (`isRead_of_isMarked`). Without one it holds of digits
(`isRead_iff_of_unmarked`), while a text of which nothing is left without its underscores is read as
zero, and one whose mark is there only without its underscores is refused (`isRead_iff_of_split`).
These are the only exceptions (`isRead_iff`).

Main statement (`integers_read`): this and the way back, as every word is read from its decimal and
from its hexadecimal digits.
-/

namespace CrossChain.Amount

open Text (Denotes IsHexMark IsMarked)

variable {text : String} {mark cs : List Char} {n : Nat}

/-- The characters of a text without the blanks around it and without its underscores. -/
def written (text : String) : List Char := (Text.trim text).toList.filter (· != '_')

/-- What characters denote as an unsigned integer of any size. A mark alone denotes zero, while
decimal digits must be there. -/
inductive IsInteger : List Char → Nat → Prop where
  | decimal {cs : List Char} {n : Nat} (hne : cs ≠ []) (h : Denotes 10 cs n) : IsInteger cs n
  | hexadecimal {mark cs : List Char} {n : Nat} (hmark : IsHexMark mark) (h : Denotes 16 cs n) :
      IsInteger (mark ++ cs) n

/-- A text is read as the integer that it is, and refused if it is none of 256 bits. -/
structure IsRead (text : String) : Prop where
  accepted (u : U256) : parseInteger text = .ok u ↔ IsInteger (written text) u.toNat
  refused : (¬ ∃ u : U256, IsInteger (written text) u.toNat) →
    ∃ reason, parseInteger text = .error (.parse reason)

/-- An integer that has its mark only without the underscores, so that its letter is read as a digit
of a decimal and refused. -/
def IsSplit (text : String) : Prop :=
  ¬ IsMarked (Text.trim text).toList ∧ IsMarked (written text) ∧
    ∃ u : U256, IsInteger (written text) u.toNat

/-! ## Integers -/

theorem isInteger_marked_iff (hmark : IsHexMark mark) : IsInteger (mark ++ cs) n ↔
    Denotes 16 cs n := by
  constructor
  · generalize hall : mark ++ cs = all
    rintro (⟨-, h⟩ | ⟨hmark', h⟩)
    · exact absurd ⟨mark, cs, hmark, hall.symm⟩ (h.not_isMarked (by decide))
    · rcases hmark with rfl | rfl <;> rcases hmark' with rfl | rfl <;> cases hall
      · exact h
      · exact h
  · exact .hexadecimal hmark

theorem isInteger_unmarked_iff (hmark : ¬ IsMarked cs) : IsInteger cs n ↔
    cs ≠ [] ∧ Denotes 10 cs n := by
  constructor
  · rintro (⟨hne, h⟩ | ⟨hmark', -⟩)
    · exact ⟨hne, h⟩
    · exact absurd ⟨_, _, hmark', rfl⟩ hmark
  · rintro ⟨hne, h⟩
    exact .decimal hne h

/-! ## What is read -/

theorem values?_eq_some_iff {base : Nat} {digit? : Char → Option Nat}
    (hdigit : ∀ {c d}, digit? c = some d ↔ Text.IsDigit base c d) :
    (values? digit? cs).map (Text.ofDigits base) = some n ↔
      Denotes base (cs.filter (· != '_')) n := by
  rw [Option.map_eq_some_iff, Text.denotes_iff hdigit]
  rfl

theorem number?_marked (hmark : IsHexMark mark) :
    number? (mark ++ cs) = some n ↔ Denotes 16 (cs.filter (· != '_')) n := by
  rw [← values?_eq_some_iff Text.hexDigit?_eq_some_iff]
  rcases hmark with rfl | rfl <;> rfl

theorem number?_unmarked (hmark : ¬ IsMarked cs) :
    number? cs = some n ↔ Denotes 10 (cs.filter (· != '_')) n := by
  rw [← values?_eq_some_iff Text.decDigit?_eq_some_iff]
  unfold number?
  split
  · exact absurd ⟨_, _, .inl rfl, rfl⟩ hmark
  · exact absurd ⟨_, _, .inr rfl, rfl⟩ hmark
  · rfl

theorem filter_marked (hmark : IsHexMark mark) :
    (mark ++ cs).filter (· != '_') = mark ++ cs.filter (· != '_') := by
  rcases hmark with rfl | rfl <;> rfl

theorem parseInteger_cases (text : String) :
    (∃ u, parseInteger text = .ok u) ∨ ∃ reason, parseInteger text = .error (.parse reason) := by
  unfold parseInteger
  dsimp only
  cases readInteger (Text.trim text).toList with
  | error e => exact .inr ⟨_, rfl⟩
  | ok n =>
    dsimp only
    cases U256.ofNat? n with
    | none => exact .inr ⟨_, rfl⟩
    | some u => exact .inl ⟨u, rfl⟩

/-- All that is not read is refused. -/
theorem isRead_of_accepted (h : ∀ u, parseInteger text = .ok u ↔ IsInteger (written text) u.toNat) :
    IsRead text := by
  refine ⟨h, fun hnone => (parseInteger_cases text).resolve_left ?_⟩
  rintro ⟨u, hu⟩
  exact hnone ⟨u, (h u).mp hu⟩

/-- Behind a mark, digits are read as what they denote. -/
theorem isRead_of_isMarked (hmark : IsMarked (Text.trim text).toList) : IsRead text := by
  obtain ⟨mark, cs, hmark, hcs⟩ := hmark
  refine isRead_of_accepted fun u => ?_
  rw [parseInteger_eq_ok_iff, integer?, written, hcs, number?_marked hmark, filter_marked hmark,
    isInteger_marked_iff hmark]

theorem parseInteger_unmarked (hmark : ¬ IsMarked (Text.trim text).toList) {u : U256} :
    parseInteger text = .ok u ↔ Denotes 10 (written text) u.toNat := by
  rw [parseInteger_eq_ok_iff, integer?, number?_unmarked hmark, written]

theorem isMarked_written (hmark : IsMarked (Text.trim text).toList) : IsMarked (written text) := by
  obtain ⟨mark, cs, hmark, hcs⟩ := hmark
  exact ⟨mark, cs.filter (· != '_'), hmark, by rw [written, hcs, filter_marked hmark]⟩

/-- With a mark that is there only without the underscores, nothing is read: its letter is no digit
of a decimal. -/
theorem isRead_iff_of_split (hmark : ¬ IsMarked (Text.trim text).toList)
    (hwritten : IsMarked (written text)) :
    IsRead text ↔ ¬ ∃ u : U256, IsInteger (written text) u.toNat := by
  have hnone (u : U256) : parseInteger text ≠ .ok u := by
    rw [Ne, parseInteger_unmarked hmark]
    exact fun h => h.not_isMarked (by decide) hwritten
  constructor
  · rintro ⟨haccepted, -⟩ ⟨u, hu⟩
    exact hnone u ((haccepted u).mpr hu)
  · exact fun h => isRead_of_accepted fun u => iff_of_false (hnone u) fun hu => h ⟨u, hu⟩

/-- Without a mark, decimal digits are read as what they denote, and no digits as zero. -/
theorem isRead_iff_of_unmarked (hmark : ¬ IsMarked (Text.trim text).toList)
    (hwritten : ¬ IsMarked (written text)) :
    IsRead text ↔ written text ≠ [] := by
  constructor
  · rintro ⟨haccepted, -⟩ hnil
    have hzero : parseInteger text = .ok U256.zero := by
      rw [parseInteger_unmarked hmark, hnil]
      exact Text.denotes_nil_iff.mpr rfl
    rw [haccepted, isInteger_unmarked_iff hwritten] at hzero
    exact hzero.1 hnil
  · intro hne
    refine isRead_of_accepted fun u => ?_
    rw [parseInteger_unmarked hmark, isInteger_unmarked_iff hwritten]
    exact (and_iff_right hne).symm

/-- Integers and nothing else are read, unless nothing is left of a text without its underscores or
only then a mark stands in front. -/
theorem isRead_iff : IsRead text ↔ written text ≠ [] ∧ ¬ IsSplit text := by
  by_cases hmark : IsMarked (Text.trim text).toList
  · exact iff_of_true (isRead_of_isMarked hmark) ⟨(isMarked_written hmark).ne_nil,
      fun h => h.1 hmark⟩
  by_cases hwritten : IsMarked (written text)
  · rw [isRead_iff_of_split hmark hwritten, IsSplit, and_iff_right hmark, and_iff_right hwritten,
      and_iff_right hwritten.ne_nil]
  · rw [isRead_iff_of_unmarked hmark hwritten]
    exact (and_iff_left fun h => hwritten h.2.1).symm

/-! ## Written integers -/

theorem parseInteger_hexText (u : U256) : parseInteger ("0x" ++ Text.hexText u.toNat) = .ok u := by
  have hdigits := Text.denotes_toDigits u.toNat
  have hchars : (Text.trim ("0x" ++ Text.hexText u.toNat)).toList = ['0', 'x'] ++
      Nat.toDigits 16 u.toNat := by
    rw [Text.trim_markedHexText, Text.toList_markedHexText]
  have hplain : (Nat.toDigits 16 u.toNat).filter (· != '_') = Nat.toDigits 16 u.toNat := by
    rw [List.filter_eq_self]
    intro c hc
    rw [bne_iff_ne]
    rintro rfl
    cases hdigits.forall_isHexDigit (Nat.le_refl 16) '_' hc
  rw [(isRead_of_isMarked ⟨_, _, .inl rfl, hchars⟩).accepted, written, hchars,
    filter_marked (.inl rfl), hplain]
  exact .hexadecimal (.inl rfl) hdigits

/-- Integers and nothing else are read, but for the texts of which no digits or no whole mark are
left, and a word is read back from its decimal and from its hexadecimal digits. -/
theorem integers_read (text : String) (u : U256) :
    (IsRead text ↔ written text ≠ [] ∧ ¬ IsSplit text) ∧
    parseInteger u.toText = .ok u ∧ parseInteger ("0x" ++ Text.hexText u.toNat) = .ok u :=
  ⟨isRead_iff, parseInteger_toText u, parseInteger_hexText u⟩

/-- Of an empty text nothing is left, and it is read as zero; an underscore in the mark keeps
sixteen from being read. -/
theorem not_isRead_blank : parseInteger "" = .ok U256.zero ∧ ¬ IsRead "" ∧ ¬ IsRead "0_x10" := by
  refine ⟨rfl, fun h => (isRead_iff.mp h).1 rfl, fun h => (isRead_iff.mp h).2 ?_⟩
  have hwritten : written "0_x10" = ['0', 'x'] ++ Nat.toDigits 16 16 := by decide
  have hinteger : IsInteger (written "0_x10") 16 := by
    rw [hwritten]
    exact .hexadecimal (.inl rfl) (Text.denotes_toDigits 16)
  refine ⟨?_, ⟨_, _, .inl rfl, hwritten⟩, ⟨16, by decide⟩, hinteger⟩
  rintro ⟨_, ds, rfl | rfl, hds⟩
  · cases hds
  · cases hds

end CrossChain.Amount
