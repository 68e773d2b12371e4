import CrossChain.Proofs.Text
import CrossChain.Text.Folded

/-!
# Texts with one lower-case form

Few texts have the same lower-case form as one of ASCII characters: only the Kelvin sign is
lower-cased to an ASCII character without being one (`image_of_mem_lowerRuns`). So a text with the
form of a plain one differs from it in the case of ASCII letters only
(`eqIgnoreAsciiCase_of_lower_eq`).

Lower-casing neither makes nor removes white space (`isBlank_of_mem_lowerChar`,
`trim_lower_eq_self_iff`). Names are looked up trimmed and lower-cased, and a text that is found as
it stands is therefore trimmed (`trim_eq_self_of_lower_eq`).
-/

namespace CrossChain.Text

/-! ## ASCII texts -/

/-- An image below 128 of a run behind the ASCII characters is that of the Kelvin sign. -/
theorem image_of_mem_lowerRuns : ∀ r ∈ lowerRuns, (128 : Int) ≤ r.first + r.shift ∨ r.last < 128 ∨
    r.last = r.first ∧ r.first + r.shift = 107 := by
  decide +kernel

/-- A character that only ASCII characters are lower-cased to. The small k is none, as the Kelvin
sign is lower-cased to it. -/
def IsPlain (d : Char) : Prop := d.toNat < 128 ∧ d.toNat ≠ 0 ∧ d ≠ 'k'

instance (d : Char) : Decidable (IsPlain d) := inferInstanceAs (Decidable (_ ∧ _))

/-- What holds of all characters of a list can be checked along the list. -/
theorem forall_of_all {P : Char → Prop} [DecidablePred P] {cs : List Char}
    (h : cs.all (P ·) = true) :
    ∀ c ∈ cs, P c := by
  simpa using h

theorem ascii_of_plain_lowerChar {c : Char} (h : ∀ d ∈ lowerChar c, IsPlain d) : c.toNat < 128 := by
  rcases lowerChar_cases c with ⟨hascii, -⟩ | ⟨-, hc⟩ | ⟨r, hr, hfirst, hlast, e, he, hc⟩ | ⟨-, hc⟩
  · exact hascii
  · have hdot := (h (Char.ofNat 0x307) (by simp [hc])).1
    exact absurd hdot (by decide)
  · obtain ⟨hlt, hzero, hk⟩ := h e (by simp [hc])
    have himage := image_of_mem_lowerRuns r hr
    have hne : e.toNat ≠ 107 := fun h => hk (Char.toNat_inj.mp h)
    omega
  · exact (h c (by simp [hc])).1

theorem ascii_of_plain_lowerFrom (before : List Char) {cs : List Char}
    (h : ∀ d ∈ lowerFrom before cs, IsPlain d) : ∀ c ∈ cs, c.toNat < 128 := by
  induction cs generalizing before with
  | nil => exact List.forall_mem_nil _
  | cons c rest ih =>
    rw [lowerFrom, List.forall_mem_append] at h
    obtain ⟨hc, hrest⟩ := h
    rw [List.forall_mem_cons]
    refine ⟨?_, ih _ hrest⟩
    split at hc
    · split at hc
      all_goals exact absurd (hc _ List.mem_cons_self).1 (by decide)
    · exact ascii_of_plain_lowerChar hc

theorem lower_eq_map {s : String} (h : ∀ c ∈ s.toList, c.toNat < 128) :
    lower s = String.ofList (s.toList.map lowerAscii) := by
  rw [lower, lowerFrom_of_ascii h]

/-- What has the lower-case form of a plain text differs from it in the case of ASCII letters
only. -/
theorem eqIgnoreAsciiCase_of_lower_eq {s t : String} (ht : ∀ c ∈ t.toList, IsPlain (lowerAscii c))
    (h : lower s = lower t) : eqIgnoreAsciiCase s t = true := by
  have hascii : ∀ c ∈ t.toList, c.toNat < 128 := fun c hc => lowerAscii_lt_iff.mp (ht c hc).1
  have hlists : lowerFrom [] s.toList = t.toList.map lowerAscii := by
    rw [← lowerFrom_of_ascii hascii []]
    exact String.ofList_injective h
  have hs : ∀ c ∈ s.toList, c.toNat < 128 := by
    apply ascii_of_plain_lowerFrom []
    rw [hlists]
    simpa using ht
  rw [lowerFrom_of_ascii hs] at hlists
  exact beq_iff_eq.mpr hlists

theorem lower_eq_of_eqIgnoreAsciiCase {s t : String} (ht : ∀ c ∈ t.toList, c.toNat < 128)
    (h : eqIgnoreAsciiCase s t = true) : lower s = lower t := by
  have hlists : s.toList.map lowerAscii = t.toList.map lowerAscii := beq_iff_eq.mp h
  have hs : ∀ c ∈ s.toList, c.toNat < 128 := by
    intro c hc
    have hmem : lowerAscii c ∈ t.toList.map lowerAscii := hlists ▸ List.mem_map_of_mem hc
    obtain ⟨d, hd, hdc⟩ := List.mem_map.mp hmem
    rw [← lowerAscii_lt_iff, ← hdc, lowerAscii_lt_iff]
    exact ht d hd
  rw [lower_eq_map hs, lower_eq_map ht, hlists]

/-! ## White space -/

/-- The codes of the blanks, ends included. -/
def blankRanges : List (Nat × Nat) :=
  [(9, 13), (0x20, 0x20), (0x85, 0x85), (0xA0, 0xA0), (0x1680, 0x1680), (0x2000, 0x200A),
    (0x2028, 0x2029),
    (0x202F, 0x202F), (0x205F, 0x205F), (0x3000, 0x3000)]

theorem isBlank_iff {c : Char} : isBlank c = true ↔
    ∃ b ∈ blankRanges, b.1 ≤ c.toNat ∧ c.toNat ≤ b.2 := by
  simp only [isBlank, blankRanges, List.mem_cons, List.not_mem_nil, or_false, exists_eq_or_imp,
    exists_eq_left, Bool.or_eq_true, Bool.and_eq_true, decide_eq_true_eq, beq_iff_eq]
  omega

/-- Neither the characters of a run nor their images are blank. -/
theorem apart_of_mem_lowerRuns : ∀ r ∈ lowerRuns, ∀ b ∈ blankRanges, 0 < b.1 ∧
    (b.2 < r.first ∨ r.last < b.1) ∧
    ((b.2 : Int) < r.first + r.shift ∨ r.last + r.shift < b.1) := by
  decide +kernel

theorem isBlank_of_mem_lowerChar {c d : Char} (h : d ∈ lowerChar c) : isBlank d = isBlank c := by
  rw [Bool.eq_iff_iff, isBlank_iff, isBlank_iff]
  rcases lowerChar_cases c with ⟨-, hc⟩ | ⟨rfl, hc⟩ | ⟨r, hr, hfirst, hlast, e, he, hc⟩ |
      ⟨-, hc⟩ <;> rw [hc] at h
  · rw [List.mem_singleton.mp h, toNat_lowerAscii]
    simp only [blankRanges, List.mem_cons, List.not_mem_nil, or_false, exists_eq_or_imp,
      exists_eq_left]
    split <;> omega
  · rcases List.mem_cons.mp h with rfl | h
    · decide
    · rw [List.mem_singleton.mp h]
      decide
  · have hapart := apart_of_mem_lowerRuns r hr
    rw [List.mem_singleton.mp h]
    refine iff_of_false ?_ ?_
    · rintro ⟨b, hb, hle⟩
      have hb := hapart b hb
      omega
    · rintro ⟨b, hb, hle⟩
      have hb := hapart b hb
      omega
  · rw [List.mem_singleton.mp h]

theorem lowerChar_ne_nil (c : Char) : lowerChar c ≠ [] := by
  rcases lowerChar_cases c with ⟨-, hc⟩ | ⟨-, hc⟩ | ⟨_, _, _, _, _, _, hc⟩ | ⟨-, hc⟩
  all_goals
    rw [hc]
    exact List.cons_ne_nil _ _

/-- The form of a character in a text is not empty, and as blank as the character. -/
theorem lowerFrom_cons (before rest : List Char) (c : Char) :
    ∃ image, lowerFrom before (c :: rest) = image ++ lowerFrom (c :: before) rest ∧ image ≠ [] ∧
      ∀ d ∈ image, isBlank d = isBlank c := by
  refine ⟨_, rfl, ?_⟩
  split
  · rename_i hc
    subst hc
    split
    · exact ⟨List.cons_ne_nil _ _, List.forall_mem_singleton.mpr rfl⟩
    · exact ⟨List.cons_ne_nil _ _, List.forall_mem_singleton.mpr rfl⟩
  · exact ⟨lowerChar_ne_nil c, fun d hd => isBlank_of_mem_lowerChar hd⟩

theorem head?_map_isBlank_lowerFrom (before cs : List Char) :
    (lowerFrom before cs).head?.map isBlank = cs.head?.map isBlank := by
  cases cs with
  | nil => rfl
  | cons c rest =>
    obtain ⟨image, himage, hne, hblank⟩ := lowerFrom_cons before rest c
    obtain ⟨d, image, rfl⟩ := List.exists_cons_of_ne_nil hne
    rw [himage, List.cons_append, List.head?_cons, Option.map_some, hblank d List.mem_cons_self]
    rfl

theorem getLast?_map_isBlank_lowerFrom (before cs : List Char) :
    (lowerFrom before cs).getLast?.map isBlank = cs.getLast?.map isBlank := by
  induction cs generalizing before with
  | nil => rfl
  | cons c rest ih =>
    obtain ⟨image, himage, hne, hblank⟩ := lowerFrom_cons before rest c
    have hlast : image.getLast?.map isBlank = some (isBlank c) := by
      rw [List.getLast?_eq_some_getLast hne, Option.map_some, hblank _ (List.getLast_mem hne)]
    rw [himage, List.getLast?_append, Option.map_or, ih, hlast, ← List.singleton_append,
      List.getLast?_append, Option.map_or]
    rfl

/-- A text has white space around it exactly when its lower-case form has. -/
theorem trim_lower_eq_self_iff {s : String} : trim (lower s) = lower s ↔ trim s = s := by
  rw [trim_eq_self_iff, trim_eq_self_iff, lower, String.toList_ofList, head?_map_isBlank_lowerFrom,
    getLast?_map_isBlank_lowerFrom]

/-- A text that is looked up as it stands is trimmed. -/
theorem trim_eq_self_of_lower_eq {s q : String} (h : lower s = folded q) : trim s = s := by
  rw [← trim_lower_eq_self_iff, h, folded, trim_lower_eq_self_iff, trim_trim]

theorem folded_eq_lower_iff {s : String} : folded s = lower s ↔ trim s = s :=
  ⟨fun h => trim_eq_self_of_lower_eq h.symm, fun h => by rw [folded, h]⟩

/-- Two texts of which one is looked up as the other stands are looked up alike. -/
theorem folded_eq_of_lower_eq {s q : String} (h : lower s = folded q) : folded s = folded q := by
  rw [folded_eq_lower_iff.mpr (trim_eq_self_of_lower_eq h), h]

end CrossChain.Text
