import CrossChain.Proofs.Node.Solana.Layout
import Mathlib.Logic.Function.Iterate

/-!
# The search for an extension

The octets behind a mint are searched by an offset, which goes from header to header by the lengths
that stand in them. `turn` is one turn of this search, over reads that fail outside of the octets. A
turn ends the search with what there is to be found from its offset on, or leaves just that to the
next header (`turn_header`).

Each turn leaves a header behind, so that the octets run out: the search has ended after a quarter
of their number of turns and one more (`turn_eq_ended`), and reads nothing outside of them on its
way (`turn_ne_outside`). What it finds stands behind a header that says so (`exists_holdsAt`).

Main statement (`extension?_search`): all this of whatever octets, and where extensions stand one
behind another, the search ends in the value of the first of its kind.
-/

namespace CrossChain.Solana

/-! ## Entries -/

/-- What can be written as an extension: a kind, and a value whose length fits into two octets. -/
structure Entry where
  kind : UInt16
  value : List UInt8
  fits : value.length < UInt16.size

/-- A word in two octets, the low one first. -/
def word (n : UInt16) : List UInt8 := [n.toUInt8, (n >>> 8).toUInt8]

theorem littleEndian_word (n : UInt16) : littleEndian (word n) = n.toNat := by
  have hhigh : (n >>> 8).toUInt8.toNat = n.toNat / 256 := by
    have hlt := n.toNat_lt
    have hshift : n.toNat >>> ((8 : UInt16).toNat % 16) = n.toNat / 256 :=
      Nat.shiftRight_eq_div_pow n.toNat 8
    rw [UInt16.toNat_toUInt8, UInt16.toNat_shiftRight, hshift]
    omega
  rw [word, littleEndian, List.foldr_cons, List.foldr_cons, List.foldr_nil, hhigh,
    UInt16.toNat_toUInt8]
  omega

namespace Entry

/-- The kind and the length in a word each, and the value. -/
def octets (e : Entry) : List UInt8 := word e.kind ++ (word (.ofNat e.value.length) ++ e.value)

/-- What is read of an entry that is written. -/
def extension (e : Entry) : Extension where
  k₀ := e.kind.toUInt8
  k₁ := (e.kind >>> 8).toUInt8
  l₀ := (UInt16.ofNat e.value.length).toUInt8
  l₁ := (UInt16.ofNat e.value.length >>> 8).toUInt8
  value := e.value
  complete := ((littleEndian_word _).trans (UInt16.toNat_ofNat_of_lt' e.fits)).symm

theorem octets_extension (e : Entry) : e.extension.octets = e.octets := rfl

theorem kind_extension (e : Entry) : e.extension.kind = e.kind.toNat := littleEndian_word e.kind

end Entry

variable {kind offset n : Nat} {data suffix value : List UInt8} {entries : List Entry}

/-- The first of the entries that is of a kind. -/
def firstOf (kind : Nat) (entries : List Entry) : Option Entry :=
  entries.find? fun e => e.kind.toNat = kind

theorem extension?_flatMap_append : extension? kind (entries.flatMap Entry.octets ++ suffix) =
    ((firstOf kind entries).map Entry.value).or (extension? kind suffix) := by
  induction entries with
  | nil => rfl
  | cons e rest ih =>
    rw [List.flatMap_cons, List.append_assoc, ← e.octets_extension, extension?_octets_append,
      e.kind_extension, ih]
    split
    next hkind => rw [firstOf, List.find?_cons_of_pos (by simpa using hkind)]; rfl
    next hkind => rw [firstOf, firstOf, List.find?_cons_of_neg (by simpa using hkind)]

/-! ## Reads -/

/-- The word at an offset. -/
def wordAt? (data : List UInt8) (offset : Nat) : Option Nat := do
  return littleEndian [← data[offset]?, ← data[offset + 1]?]

/-- The octets from an offset on, as many as are asked for. -/
def slice? (data : List UInt8) (offset length : Nat) : Option (List UInt8) :=
  if offset + length ≤ data.length then some ((data.drop offset).take length) else none

/-- Where a search stands. It has left the octets if a read was outside of them, which no turn comes
back from. -/
inductive Search where
  /-- The next header is looked for at an offset. -/
  | header (offset : Nat)
  | ended (found : Option (List UInt8))
  /-- A read was outside of the octets. -/
  | outside

/-- One turn of the search: the header at the offset is read, and then its value or the next
header. -/
def turn (kind : Nat) (data : List UInt8) : Search → Search
  | .header offset =>
    if offset + 4 ≤ data.length then
      match wordAt? data offset, wordAt? data (offset + 2) with
      | some k, some length =>
        let start := offset + 4
        if k = kind ∧ start + length ≤ data.length then
          match slice? data start length with
          | some value => .ended (some value)
          | none => .outside
        else .header (start + length)
      | _, _ => .outside
    else .ended none
  | search => search

/-- The octets at an offset are a header of a kind, and behind it as many octets of value as it
says. -/
structure HoldsAt (kind : Nat) (data : List UInt8) (offset : Nat) (value : List UInt8) : Prop where
  kind : wordAt? data offset = some kind
  length : wordAt? data (offset + 2) = some value.length
  value : slice? data (offset + 4) value.length = some value

/-! ## The search -/

theorem wordAt?_append (front rest : List UInt8) (b₀ b₁ : UInt8) :
    wordAt? (front ++ b₀ :: b₁ :: rest) front.length = some (littleEndian [b₀, b₁]) := by
  simp [wordAt?]

/-- What the header at an offset is to the recursion. -/
theorem exists_header (h : offset + 4 ≤ data.length) : ∃ k₀ k₁ l₀ l₁,
    data.drop offset = k₀ :: k₁ :: l₀ :: l₁ :: data.drop (offset + 4) ∧
      wordAt? data offset = some (littleEndian [k₀, k₁]) ∧
      wordAt? data (offset + 2) = some (littleEndian [l₀, l₁]) := by
  refine ⟨data[offset], data[offset + 1], data[offset + 2], data[offset + 3], ?_, ?_, ?_⟩
  · rw [List.drop_eq_getElem_cons (by omega), List.drop_eq_getElem_cons (by omega),
      List.drop_eq_getElem_cons (by omega), List.drop_eq_getElem_cons (by omega)]
  · rw [wordAt?, List.getElem?_eq_getElem (by omega), List.getElem?_eq_getElem (by omega)]
    rfl
  · rw [wordAt?, List.getElem?_eq_getElem (by omega), List.getElem?_eq_getElem (by omega)]
    rfl

theorem extension?_eq_none_of_lt (h : data.length < 4) : extension? kind data = none := by
  rw [extension?]
  rintro k₀ k₁ l₀ l₁ rest rfl
  simp only [List.length_cons] at h
  omega

/-- A turn ends the search with what there is to be found from its offset on, or leaves just that to
the next header. -/
theorem turn_header (kind : Nat) (data : List UInt8) (offset : Nat) :
    turn kind data (.header offset) = .ended (extension? kind (data.drop offset)) ∨
      ∃ next, turn kind data (.header offset) = .header next ∧ offset + 4 ≤ next ∧
      offset + 4 ≤ data.length ∧
        extension? kind (data.drop next) = extension? kind (data.drop offset) := by
  by_cases h : offset + 4 ≤ data.length
  · obtain ⟨k₀, k₁, l₀, l₁, hdrop, hkind, hlength⟩ := exists_header h
    simp only [turn, if_pos h, hkind, hlength, hdrop]
    rw [extension?]
    have hrest : (data.drop (offset + 4)).length = data.length - (offset + 4) := List.length_drop
    by_cases hfound : littleEndian [k₀, k₁] = kind ∧
      offset + 4 + littleEndian [l₀, l₁] ≤ data.length
    · left
      rw [if_pos hfound, slice?, if_pos hfound.2, if_pos ⟨hfound.1, by omega⟩]
    · right
      refine ⟨offset + 4 + littleEndian [l₀, l₁], if_neg hfound, by omega, h, ?_⟩
      have hother : ¬ (littleEndian [k₀, k₁] = kind ∧
        littleEndian [l₀, l₁] ≤ (data.drop (offset + 4)).length) :=
        fun hfits => hfound ⟨hfits.1, by omega⟩
      rw [if_neg hother, List.drop_drop]
  · left
    have hshort : (data.drop offset).length < 4 := by
      rw [List.length_drop]
      omega
    rw [turn, if_neg h, extension?_eq_none_of_lt hshort]

theorem turn_ended (n : Nat) (found : Option (List UInt8)) :
    (turn kind data)^[n] (.ended found) = .ended found :=
  Function.iterate_fixed rfl n

/-- However many turns are made, the search is at a header or at its end. -/
theorem turn_ne_outside (n offset : Nat) : (turn kind data)^[n] (.header offset) ≠ .outside := by
  induction n generalizing offset with
  | zero => nofun
  | succ n ih =>
    rw [Function.iterate_succ_apply]
    obtain hend | ⟨next, hnext, -⟩ := turn_header kind data offset
    · rw [hend, turn_ended]
      nofun
    · rw [hnext]
      exact ih next

/-- Each turn leaves at least a header behind, so that the octets run out. -/
theorem turn_eq_ended (n offset : Nat) (h : data.length < offset + 4 * (n + 1)) :
    (turn kind data)^[n + 1] (.header offset) = .ended (extension? kind (data.drop offset)) := by
  induction n generalizing offset with
  | zero =>
    obtain hend | ⟨next, -, -, hlength, -⟩ := turn_header kind data offset
    · exact hend
    · omega
  | succ n ih =>
    rw [Function.iterate_succ_apply]
    obtain hend | ⟨next, hnext, hstep, -, hsame⟩ := turn_header kind data offset
    · rw [hend, turn_ended]
    · rw [hnext, ih next (by omega), hsame]

theorem exists_holdsAt (h : extension? kind data = some value) :
    ∃ offset, HoldsAt kind data offset value := by
  obtain ⟨before, e, tail, rfl, -, rfl, rfl⟩ := extension?_eq_some_iff.mp h
  generalize before.flatMap Extension.octets = front
  have hlength : front ++ (e.octets ++ tail) = (front ++ [e.k₀, e.k₁]) ++
      e.l₀ :: e.l₁ :: (e.value ++ tail) := by
    simp [Extension.octets]
  have hvalue :
      front ++ (e.octets ++ tail) = (front ++ [e.k₀, e.k₁, e.l₀, e.l₁]) ++ (e.value ++ tail) := by
    simp [Extension.octets]
  refine ⟨front.length, wordAt?_append front _ _ _, ?_, ?_⟩
  · rw [e.complete, hlength]
    simpa using wordAt?_append (front ++ [e.k₀, e.k₁]) (e.value ++ tail) e.l₀ e.l₁
  · rw [slice?, hvalue, List.drop_left' (by simp), List.take_left' rfl, if_pos]
    simp only [List.length_append, List.length_cons, List.length_nil]
    omega

/-- Of extensions one behind another the first of a kind is found, and none if there is none and no
header behind them. Whatever the octets are, the search for it reads nothing outside of them and has
an end, and what it finds has a header of the kind and of its own length in front. -/
theorem extension?_search (kind : Nat) :
    (∀ (entries : List Entry) (suffix : List UInt8),
      (∀ e, firstOf kind entries = some e →
        extension? kind (entries.flatMap Entry.octets ++ suffix) = some e.value) ∧
      (firstOf kind entries = none → suffix.length < 4 →
        extension? kind (entries.flatMap Entry.octets ++ suffix) = none)) ∧
    ∀ data : List UInt8,
      (∀ n, (turn kind data)^[n] (.header 0) ≠ .outside) ∧
      (∀ n, data.length < 4 * n →
        (turn kind data)^[n] (.header 0) = .ended (extension? kind data)) ∧
      ∀ value, extension? kind data = some value → ∃ offset, HoldsAt kind data offset value := by
  refine ⟨fun entries suffix => ⟨fun e he => ?_, fun hnone hshort => ?_⟩,
    fun data => ⟨fun n => turn_ne_outside n 0, fun n hn => ?_, fun value => exists_holdsAt⟩⟩
  · rw [extension?_flatMap_append, he]
    rfl
  · rw [extension?_flatMap_append, hnone, extension?_eq_none_of_lt hshort]
    rfl
  · obtain ⟨n, rfl⟩ := Nat.exists_eq_succ_of_ne_zero (by omega : n ≠ 0)
    exact turn_eq_ended n 0 (by omega)

/-- The second of three entries is the first of kind 19. -/
theorem extension?_search_sample :
    let entries : List Entry := [⟨3, [9], by decide⟩, ⟨19, [5, 6], by decide⟩, ⟨19, [7], by decide⟩]
    let data := entries.flatMap Entry.octets ++ [19, 0, 1]
    firstOf 19 entries = some ⟨19, [5, 6], by decide⟩ ∧ extension? 19 data = some [5, 6] ∧
      firstOf 4 entries = none ∧ extension? 4 data = none ∧
      (turn 19 data)^[6] (.header 0) = .ended (some [5, 6]) ∧
        ∃ offset, HoldsAt 19 data offset [5, 6] := by
  intro entries data
  have hfirst : firstOf 19 entries = some ⟨19, [5, 6], by decide⟩ := rfl
  have hnone : firstOf 4 entries = none := rfl
  have hfound := ((extension?_search 19).1 entries [19, 0, 1]).1 _ hfirst
  have hmissed := ((extension?_search 4).1 entries [19, 0, 1]).2 hnone (by decide)
  obtain ⟨-, hends, hholds⟩ := (extension?_search 19).2 data
  refine ⟨hfirst, hfound, hnone, hmissed, ?_, hholds _ hfound⟩
  rw [hends 6 (by decide), hfound]

end CrossChain.Solana
