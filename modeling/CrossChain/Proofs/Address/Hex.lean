import CrossChain.Address.Hex
import CrossChain.Proofs.Text

/-!
# Hexadecimal addresses are read by their values

What a run of digits denotes does not depend on the case of its letters (`octets?_congr`, with
`octets?_applyCase` for the change of case that a checksum makes), and octets are read back from the
digits they are written in (`octets?_hexChars`). Conversely, what is read as octets is made of pairs
of digits (`of_octets?_eq_some`).

Addresses have a mark in front of their digits. `marked` writes it and `digitsOf` is what stands
behind it; a marked address is a text that `marked` wrote (`isMarkedHex_iff`).
-/

namespace CrossChain.Address

open Text (hexDigit? isHexDigit lowerAscii upperAscii)

/-! ## Octets -/

theorem octets?_cons_cons (h l : Char) (rest : List Char) :
    octets? (h :: l :: rest) = (hexDigit? h).bind fun high => (hexDigit? l).bind fun low =>
      (octets? rest).map (UInt8.ofNat (high * 16 + low) :: ·) := by
  simp only [octets?, Option.bind_eq_bind, Option.pure_def]
  congr 1
  funext high
  congr 1
  funext low
  cases octets? rest <;> rfl

theorem octets?_congr {cs ds : List Char} (h : cs.map hexDigit? = ds.map hexDigit?) :
    octets? cs = octets? ds := by
  induction cs using octets?.induct generalizing ds with
  | case1 =>
    cases ds with
    | nil => rfl
    | cons d rest => cases h
  | case2 c =>
    obtain ⟨d, rest, rfl, -, hrest⟩ := List.map_eq_cons_iff.mp h.symm
    rw [List.map_eq_nil_iff.mp hrest]
    rfl
  | case3 c c' rest ih =>
    obtain ⟨d, tail, rfl, hd, htail⟩ := List.map_eq_cons_iff.mp h.symm
    obtain ⟨d', rest', rfl, hd', hrest⟩ := List.map_eq_cons_iff.mp htail
    rw [octets?_cons_cons, octets?_cons_cons, hd, hd', ih hrest.symm]

theorem octets?_hexChars (bs : List UInt8) : octets? (hexChars bs) = some bs := by
  induction bs with
  | nil => rfl
  | cons b rest ih =>
    have hb := b.toNat_lt
    have hhigh : hexDigit? (Text.hexDigit (b.toNat / 16)) = some (b.toNat / 16) :=
      Text.hexDigit?_hexDigit (by omega)
    have hlow : hexDigit? (Text.hexDigit (b.toNat % 16)) = some (b.toNat % 16) :=
      Text.hexDigit?_hexDigit (by omega)
    have hsum : b.toNat / 16 * 16 + b.toNat % 16 = b.toNat := by omega
    rw [hexChars, List.flatMap_cons]
    change octets? (_ :: _ :: hexChars rest) = _
    rw [octets?_cons_cons, hhigh, hlow, Option.bind_some, Option.bind_some, ih, hsum,
      UInt8.ofNat_toNat]
    rfl

/-- What is read as octets is made of pairs of digits. -/
theorem of_octets?_eq_some {cs : List Char} {bs : List UInt8} (h : octets? cs = some bs) :
    cs.length = 2 * bs.length ∧ ∀ c ∈ cs, isHexDigit c = true := by
  induction cs using octets?.induct generalizing bs with
  | case1 =>
    cases h
    exact ⟨rfl, fun c hc => by cases hc⟩
  | case2 c => cases h
  | case3 c c' rest ih =>
    rw [octets?_cons_cons] at h
    obtain ⟨high, hhigh, h⟩ := Option.bind_eq_some_iff.mp h
    obtain ⟨low, hlow, h⟩ := Option.bind_eq_some_iff.mp h
    obtain ⟨tail, htail, rfl⟩ := Option.map_eq_some_iff.mp h
    obtain ⟨hlength, hdigits⟩ := ih htail
    refine ⟨by simp only [List.length_cons, hlength]; omega, ?_⟩
    intro d hd
    rcases List.mem_cons.mp hd with rfl | hd
    · rw [isHexDigit, hhigh]
      rfl
    · rcases List.mem_cons.mp hd with rfl | hd
      · rw [isHexDigit, hlow]
        rfl
      · exact hdigits d hd

theorem octets?_of_digits {cs : List Char} (heven : cs.length % 2 = 0)
    (hdigits : ∀ c ∈ cs, isHexDigit c = true) :
    ∃ bs, octets? cs = some bs := by
  induction cs using octets?.induct with
  | case1 => exact ⟨[], rfl⟩
  | case2 c => simp at heven
  | case3 c c' rest ih =>
    obtain ⟨high, hhigh⟩ := Option.isSome_iff_exists.mp (hdigits c (by simp))
    obtain ⟨low, hlow⟩ := Option.isSome_iff_exists.mp (hdigits c' (by simp))
    obtain ⟨bs, hbs⟩ := ih (by simp only [List.length_cons] at heven; omega)
      fun d hd => hdigits d (by simp [hd])
    exact ⟨_, by rw [octets?_cons_cons, hhigh, hlow, hbs]; rfl⟩

theorem mem_hexChars {bs : List UInt8} {c : Char} (h : c ∈ hexChars bs) :
    isHexDigit c = true ∧ lowerAscii c = c := by
  obtain ⟨b, -, hc⟩ := List.mem_flatMap.mp h
  have hb := b.toNat_lt
  have hdigit {n : Nat} (hn : n < 16) :
      isHexDigit (Text.hexDigit n) = true ∧ lowerAscii (Text.hexDigit n) = Text.hexDigit n := by
    rw [isHexDigit, Text.hexDigit?_hexDigit hn]
    exact ⟨rfl, Text.lowerAscii_hexDigit hn⟩
  rcases List.mem_cons.mp hc with rfl | hc
  · exact hdigit (by omega)
  · rw [List.mem_singleton.mp hc]
    exact hdigit (by omega)

/-! ## Letter case -/

/-- A change of case keeps whatever does not depend on the case. -/
theorem map_applyCase {f : Char → α} (hf : ∀ c, f (upperAscii c) = f c) (cs : List Char)
    (ns : List Nat) : (applyCase cs ns).map f = cs.map f := by
  induction cs, ns using applyCase.induct with
  | case1 c cs n ns ih =>
    rw [applyCase, List.map_cons, List.map_cons, ih]
    split
    · rw [hf]
    · rfl
  | case2 cs => rw [applyCase]
  | case3 ns => cases ns <;> rfl

theorem octets?_applyCase (cs : List Char) (ns : List Nat) :
    octets? (applyCase cs ns) = octets? cs :=
  octets?_congr (map_applyCase Text.hexDigit?_upperAscii cs ns)

theorem map_hexDigit?_lowerAscii (cs : List Char) :
    (cs.map lowerAscii).map hexDigit? = cs.map hexDigit? := by
  rw [List.map_map]
  exact List.map_congr_left fun c _ => Text.hexDigit?_lowerAscii c

theorem length_applyCase (cs : List Char) (ns : List Nat) :
    (applyCase cs ns).length = cs.length := by
  have h := congrArg List.length (map_applyCase Text.hexDigit?_upperAscii cs ns)
  rwa [List.length_map, List.length_map] at h

theorem isHexDigit_of_mem_map {cs ds : List Char} (h : cs.map hexDigit? = ds.map hexDigit?)
    (hds : ∀ d ∈ ds, isHexDigit d = true) : ∀ c ∈ cs, isHexDigit c = true := by
  intro c hc
  have hmem : hexDigit? c ∈ ds.map hexDigit? := h ▸ List.mem_map_of_mem hc
  obtain ⟨d, hd, hdc⟩ := List.mem_map.mp hmem
  rw [isHexDigit, ← hdc]
  exact hds d hd

theorem isHexDigit_of_mem_applyCase {cs : List Char} {ns : List Nat}
    (h : ∀ c ∈ cs, isHexDigit c = true) : ∀ c ∈ applyCase cs ns, isHexDigit c = true :=
  isHexDigit_of_mem_map (map_applyCase Text.hexDigit?_upperAscii cs ns) h

/-- Lower-casing takes a change of case back. -/
theorem map_lowerAscii_applyCase {cs : List Char} (h : ∀ c ∈ cs, lowerAscii c = c) (ns : List Nat) :
    (applyCase cs ns).map lowerAscii = cs := by
  rw [map_applyCase Text.lowerAscii_upperAscii]
  exact (List.map_congr_left h).trans (List.map_id cs)

/-! ## The mark -/

def marked (cs : List Char) : String := String.ofList ('0' :: 'x' :: cs)

theorem toList_marked (cs : List Char) : (marked cs).toList = '0' :: 'x' :: cs :=
  String.toList_ofList

theorem trim_marked {cs : List Char} (h : ∀ c ∈ cs, isHexDigit c = true) :
    Text.trim (marked cs) = marked cs := by
  apply Text.trim_ofList
  intro c hc
  rcases List.mem_cons.mp hc with rfl | hc
  · decide
  · rcases List.mem_cons.mp hc with rfl | hc
    · decide
    · exact Text.isBlank_of_isHexDigit (h c hc)

theorem withoutMark_marked (cs : List Char) : withoutMark (marked cs).toList = cs := by
  rw [toList_marked]
  rfl

/-- What stands behind the mark of an address. -/
def digitsOf (s : String) : List Char := withoutMark (Text.trim s).toList

theorem digitsOf_marked {cs : List Char} (h : ∀ c ∈ cs, isHexDigit c = true) :
    digitsOf (marked cs) = cs := by
  rw [digitsOf, trim_marked h, withoutMark_marked]

/-- A marked address is an even number of digits behind the mark. -/
theorem isMarkedHex_iff {s : String} {n : Nat} :
    isMarkedHex s n = true ↔
      ∃ cs, s = marked cs ∧ cs.length = n ∧ n % 2 = 0 ∧ ∀ c ∈ cs, isHexDigit c = true := by
  constructor
  · intro h
    unfold isMarkedHex at h
    split at h
    · rename_i cs hs
      simp only [isHexDigits, Bool.and_eq_true, beq_iff_eq, List.all_eq_true] at h
      obtain ⟨hlength, heven, hdigits⟩ := h
      refine ⟨cs, ?_, hlength, hlength ▸ heven, hdigits⟩
      rw [marked, ← hs, String.ofList_toList]
    · cases h
  · rintro ⟨cs, rfl, hlength, heven, hdigits⟩
    rw [isMarkedHex, toList_marked]
    simp only [isHexDigits, Bool.and_eq_true, beq_iff_eq, List.all_eq_true]
    exact ⟨hlength, hlength ▸ heven, hdigits⟩

end CrossChain.Address
