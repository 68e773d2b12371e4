import CrossChain.Text.Blank
import CrossChain.Text.Digits
import CrossChain.Text.LetterCase

/-!
# Trimming, letter case and digits

Letter case and digits of ASCII characters are arithmetic on their codes (`toNat_lowerAscii`,
`hexDigit?_eq`), so that facts on them are settled by ranges. The digits that are written are those
that are read (`hexDigit?_hexDigit`), in either letter case (`hexDigit?_lowerAscii`).

Trimming strips both ends of a text. What is left neither begins nor ends with what would be
stripped (`stripWhile_eq_self_iff`), and everything around it is what is stripped
(`stripWhile_eq_iff`); a second pass finds nothing more (`trim_trim`). Whatever is lower-cased has
no upper-case ASCII letter left (`lowerAscii_of_mem_lowerFrom`).
-/

namespace CrossChain.Text

/-! ## ASCII characters -/

theorem toNat_ofNat_of_lt {n : Nat} (h : n < 55296) : (Char.ofNat n).toNat = n := by
  have hchar : Char.ofNat n = Char.ofNatAux n (.inl h) := dif_pos (.inl h)
  exact congrArg Char.toNat hchar

theorem toNat_lowerAscii (c : Char) :
    (lowerAscii c).toNat = if 65 ≤ c.toNat ∧ c.toNat ≤ 90 then c.toNat + 32 else c.toNat := by
  have hletter : ('A' ≤ c ∧ c ≤ 'Z') ↔ 65 ≤ c.toNat ∧ c.toNat ≤ 90 := Iff.rfl
  rw [lowerAscii, apply_ite Char.toNat]
  refine ite_congr (propext hletter) (fun h => ?_) fun _ => rfl
  exact toNat_ofNat_of_lt (by omega)

theorem toNat_upperAscii (c : Char) :
    (upperAscii c).toNat = if 97 ≤ c.toNat ∧ c.toNat ≤ 122 then c.toNat - 32 else c.toNat := by
  have hletter : ('a' ≤ c ∧ c ≤ 'z') ↔ 97 ≤ c.toNat ∧ c.toNat ≤ 122 := Iff.rfl
  rw [upperAscii, apply_ite Char.toNat]
  refine ite_congr (propext hletter) (fun h => ?_) fun _ => rfl
  exact toNat_ofNat_of_lt (by omega)

theorem hexDigit?_eq (c : Char) : hexDigit? c =
    if 48 ≤ c.toNat ∧ c.toNat ≤ 57 then some (c.toNat - 48)
    else if 97 ≤ c.toNat ∧ c.toNat ≤ 102 then some (c.toNat - 87)
    else if 65 ≤ c.toNat ∧ c.toNat ≤ 70 then some (c.toNat - 55)
    else none := rfl

theorem hexDigit?_lt {c : Char} {n : Nat} (h : hexDigit? c = some n) : n < 16 := by
  rw [hexDigit?_eq] at h
  grind

theorem ascii_of_isHexDigit {c : Char} (h : isHexDigit c = true) : c.toNat < 128 := by
  rw [isHexDigit, hexDigit?_eq] at h
  grind

theorem lowerAscii_eq_self {c : Char} (h : ¬ ('A' ≤ c ∧ c ≤ 'Z')) : lowerAscii c = c := if_neg h

theorem lowerAscii_lt_iff {c : Char} : (lowerAscii c).toNat < 128 ↔ c.toNat < 128 := by
  rw [toNat_lowerAscii]
  split <;> omega

/-- Only one character is lower-cased to one in front of the letters: itself. -/
theorem lowerAscii_eq_iff {c d : Char} (h : d.toNat < 65) : lowerAscii c = d ↔ c = d := by
  rw [← Char.toNat_inj, ← Char.toNat_inj, toNat_lowerAscii]
  split <;> omega

theorem not_upper_lowerAscii (c : Char) : ¬ ('A' ≤ lowerAscii c ∧ lowerAscii c ≤ 'Z') := by
  rintro ⟨hA, hZ⟩
  have hA : 65 ≤ (lowerAscii c).toNat := hA
  have hZ : (lowerAscii c).toNat ≤ 90 := hZ
  have hcode := toNat_lowerAscii c
  split at hcode <;> omega

theorem lowerAscii_lowerAscii (c : Char) : lowerAscii (lowerAscii c) = lowerAscii c :=
  lowerAscii_eq_self (not_upper_lowerAscii c)

theorem lowerAscii_upperAscii (c : Char) : lowerAscii (upperAscii c) = lowerAscii c := by
  rw [← Char.toNat_inj, toNat_lowerAscii, toNat_lowerAscii, toNat_upperAscii]
  grind

theorem hexDigit?_lowerAscii (c : Char) : hexDigit? (lowerAscii c) = hexDigit? c := by
  rw [hexDigit?_eq, hexDigit?_eq, toNat_lowerAscii]
  grind

theorem hexDigit?_upperAscii (c : Char) : hexDigit? (upperAscii c) = hexDigit? c := by
  rw [← hexDigit?_lowerAscii, lowerAscii_upperAscii, hexDigit?_lowerAscii]

/-- The blanks among the ASCII characters stand in front of those that are printed. -/
theorem isBlank_of_printed {c : Char} (hlow : 33 ≤ c.toNat) (hhigh : c.toNat < 128) :
    isBlank c = false := by
  simp only [isBlank, Bool.or_eq_false_iff, Bool.and_eq_false_iff, decide_eq_false_iff_not,
    beq_eq_false_iff_ne]
  omega

/-- The first octet is that of a character of ASCII that is neither a blank nor a control. -/
def startsPrinted (s : String) : Bool :=
  s.toByteArray.data.toList.head?.any fun b => 33 ≤ b.toNat && b.toNat < 128

/-- The first octet of a character is below 128 only if it is the character. -/
theorem head?_utf8EncodeChar (c : Char) : ∃ b, (String.utf8EncodeChar c).head? = some b ∧
    (b.toNat < 128 → b.toNat = c.toNat) := by
  unfold String.utf8EncodeChar
  dsimp only
  split
  · next h =>
    refine ⟨_, rfl, fun _ => ?_⟩
    exact UInt8.toNat_ofNat_of_lt' (Nat.lt_of_le_of_lt h (by decide))
  · split
    case isTrue =>
      refine ⟨_, rfl, fun h => ?_⟩
      rw [UInt8.toNat_ofNat'] at h
      omega
    case isFalse =>
      split
      all_goals
        refine ⟨_, rfl, fun h => ?_⟩
        rw [UInt8.toNat_ofNat'] at h
        omega

theorem isBlankText_of_startsPrinted {s : String} (h : startsPrinted s = true) :
    isBlankText s = false := by
  rw [← String.ofList_toList (s := s)] at h
  unfold isBlankText
  generalize s.toList = cs at h ⊢
  cases cs with
  | nil => cases h
  | cons c rest =>
    obtain ⟨b, hb, hc⟩ := head?_utf8EncodeChar c
    rw [startsPrinted, String.toByteArray_ofList, List.utf8Encode, List.toList_data_toByteArray,
      List.flatMap_cons, List.head?_append, hb, Option.some_or, Option.any_some, Bool.and_eq_true,
      decide_eq_true_eq, decide_eq_true_eq] at h
    rw [hc h.2] at h
    rw [List.all_cons, isBlank_of_printed h.1 h.2, Bool.false_and]

theorem isBlank_of_isHexDigit {c : Char} (h : isHexDigit c = true) : isBlank c = false := by
  refine isBlank_of_printed ?_ (ascii_of_isHexDigit h)
  rw [isHexDigit, hexDigit?_eq] at h
  grind

/-- The digits that are written are lower-case digits of their values. -/
theorem hexDigit?_hexDigit {n : Nat} (h : n < 16) : hexDigit? (hexDigit n) = some n := by
  revert n
  decide

theorem lowerAscii_hexDigit {n : Nat} (h : n < 16) : lowerAscii (hexDigit n) = hexDigit n := by
  revert n
  decide

/-! ## Trimming -/

theorem takeWhile_eq_replicate (c : Char) (cs : List Char) :
    cs.takeWhile (· == c) = List.replicate (cs.takeWhile (· == c)).length c := by
  rw [List.eq_replicate_iff]
  refine ⟨rfl, fun d hd => ?_⟩
  exact eq_of_beq (List.all_eq_true.mp List.all_takeWhile d hd)

theorem dropWhile_eq_self {p : Char → Bool} {cs : List Char} (h : ∀ c ∈ cs, p c = false) :
    cs.dropWhile p = cs := by
  cases cs with
  | nil => rfl
  | cons c rest => rw [List.dropWhile_cons, h c List.mem_cons_self]; rfl

theorem stripWhile_eq_self {p : Char → Bool} {cs : List Char} (h : ∀ c ∈ cs, p c = false) :
    stripWhile p cs = cs := by
  have hreverse : ∀ c ∈ cs.reverse, p c = false := fun c hc => h c (List.mem_reverse.mp hc)
  rw [stripWhile, dropEndWhile, dropWhile_eq_self h, dropWhile_eq_self hreverse,
    List.reverse_reverse]

theorem trim_ofList {cs : List Char} (h : ∀ c ∈ cs, isBlank c = false) :
    trim (String.ofList cs) = String.ofList cs := by
  rw [trim, String.toList_ofList, stripWhile_eq_self h]

/-- What is stripped is the front of what is left when the front is dropped. -/
theorem dropWhile_eq_stripWhile_append (p : Char → Bool) (cs : List Char) :
    ∃ rest, cs.dropWhile p = stripWhile p cs ++ rest := by
  have hsplit := List.takeWhile_append_dropWhile (p := p) (l := (cs.dropWhile p).reverse)
  refine ⟨((cs.dropWhile p).reverse.takeWhile p).reverse, ?_⟩
  rw [stripWhile, dropEndWhile, ← List.reverse_append, hsplit, List.reverse_reverse]

theorem stripWhile_head {p : Char → Bool} {cs rest : List Char} {c : Char}
    (h : stripWhile p cs = c :: rest) : p c = false := by
  obtain ⟨behind, hfront⟩ := dropWhile_eq_stripWhile_append p cs
  have hfirst := List.head?_dropWhile_not p cs
  rw [hfront, h] at hfirst
  simpa using hfirst

theorem stripWhile_eq_nil {p : Char → Bool} {cs : List Char}
    (h : ∀ c ∈ stripWhile p cs, p c = true) :
    stripWhile p cs = [] := by
  cases hs : stripWhile p cs with
  | nil => rfl
  | cons c rest =>
    rw [hs] at h
    have hc := h c List.mem_cons_self
    rw [stripWhile_head hs] at hc
    cases hc

theorem dropWhile_dropWhile (p : Char → Bool) (cs : List Char) :
    (cs.dropWhile p).dropWhile p = cs.dropWhile p := by
  have hfirst := List.head?_dropWhile_not p cs
  cases hs : cs.dropWhile p with
  | nil => rfl
  | cons c rest =>
    rw [hs] at hfirst
    rw [List.dropWhile_cons_of_neg (by simpa using hfirst)]

theorem dropWhile_stripWhile (p : Char → Bool) (cs : List Char) :
    (stripWhile p cs).dropWhile p = stripWhile p cs := by
  cases hs : stripWhile p cs with
  | nil => rfl
  | cons c rest => rw [List.dropWhile_cons_of_neg (by simp [stripWhile_head hs])]

theorem stripWhile_stripWhile (p : Char → Bool) (cs : List Char) :
    stripWhile p (stripWhile p cs) = stripWhile p cs := by
  conv => lhs; rw [stripWhile, dropWhile_stripWhile]
  rw [stripWhile, dropEndWhile, dropEndWhile, List.reverse_reverse, dropWhile_dropWhile]

theorem dropWhile_eq_self_iff {p : Char → Bool} {cs : List Char} :
    cs.dropWhile p = cs ↔ cs.head?.map p ≠ some true := by
  cases cs with
  | nil => simp
  | cons c rest =>
    rw [List.head?_cons, Option.map_some, Ne, Option.some_inj]
    constructor
    · intro h
      have hfirst := List.head?_dropWhile_not p (c :: rest)
      rw [h] at hfirst
      simpa using hfirst
    · exact fun h => List.dropWhile_cons_of_neg h

/-- What nothing is stripped of neither begins nor ends with what would be. -/
theorem stripWhile_eq_self_iff {p : Char → Bool} {cs : List Char} :
    stripWhile p cs = cs ↔ cs.head?.map p ≠ some true ∧ cs.getLast?.map p ≠ some true := by
  rw [← List.head?_reverse, ← dropWhile_eq_self_iff, ← dropWhile_eq_self_iff]
  constructor
  · intro h
    have hfront : cs.dropWhile p = cs := by
      rw [← h, dropWhile_stripWhile]
    rw [stripWhile, hfront, dropEndWhile, ← List.reverse_inj, List.reverse_reverse] at h
    exact ⟨hfront, h⟩
  · rintro ⟨hfront, hend⟩
    rw [stripWhile, hfront, dropEndWhile, hend, List.reverse_reverse]

/-- What is left over is bare of `p`, and everything around it is what `p` accepts. -/
theorem stripWhile_eq_iff {p : Char → Bool} {cs core : List Char} : stripWhile p cs = core ↔
    stripWhile p core = core ∧ ∃ front back, cs = front ++ (core ++ back) ∧
      (∀ c ∈ front, p c = true) ∧ ∀ c ∈ back, p c = true := by
  constructor
  · rintro rfl
    refine ⟨stripWhile_stripWhile p cs, cs.takeWhile p,
      ((cs.dropWhile p).reverse.takeWhile p).reverse, ?_, ?_, ?_⟩
    · rw [stripWhile, dropEndWhile, ← List.reverse_append, List.takeWhile_append_dropWhile,
        List.reverse_reverse, List.takeWhile_append_dropWhile]
    · exact List.all_eq_true.mp List.all_takeWhile
    · exact fun c hc => List.all_eq_true.mp List.all_takeWhile c (List.mem_reverse.mp hc)
  · rintro ⟨hbare, front, back, rfl, hfront, hback⟩
    rw [stripWhile, List.dropWhile_append_of_pos hfront]
    cases core with
    | nil =>
      have hnil : (back ++ []).dropWhile p = [] := List.dropWhile_append_of_pos hback
      rw [List.nil_append, ← List.append_nil back, hnil]
      rfl
    | cons c rest =>
      have hlast := dropWhile_eq_self_iff.mpr
        (List.head?_reverse (l := c :: rest) ▸ (stripWhile_eq_self_iff.mp hbare).2)
      rw [List.cons_append, List.dropWhile_cons_of_neg (by simp [stripWhile_head hbare]),
        ← List.cons_append,
        dropEndWhile, List.reverse_append,
          List.dropWhile_append_of_pos fun d hd => hback d (List.mem_reverse.mp hd),
        hlast, List.reverse_reverse]

theorem stripWhile_sublist (p : Char → Bool) (cs : List Char) : (stripWhile p cs).Sublist cs := by
  have hend (ds : List Char) : (dropEndWhile p ds).Sublist ds := by
    rw [dropEndWhile, ← List.reverse_sublist, List.reverse_reverse]
    exact List.dropWhile_sublist p
  exact (hend _).trans (List.dropWhile_sublist p)

theorem trim_of_isBlankText {s : String} (h : isBlankText s = true) : trim s = "" := by
  have hnil : stripWhile isBlank s.toList = [] :=
    stripWhile_eq_nil fun c hc =>
      List.all_eq_true.mp h c ((stripWhile_sublist isBlank s.toList).mem hc)
  rw [trim, hnil, String.ofList_nil]

theorem trim_eq_self_iff {s : String} :
    trim s = s ↔ s.toList.head?.map isBlank ≠ some true ∧
    s.toList.getLast?.map isBlank ≠ some true := by
  rw [trim, ← String.toList_inj, String.toList_ofList, stripWhile_eq_self_iff]

theorem trim_trim (s : String) : trim (trim s) = trim s := by
  rw [trim, trim, String.toList_ofList, stripWhile_stripWhile]

theorem isBlankText_trim (s : String) : isBlankText (trim s) = (trim s).isEmpty := by
  rw [Bool.eq_iff_iff]
  constructor
  · intro h
    rw [isBlankText, List.all_eq_true, trim, String.toList_ofList] at h
    rw [trim, stripWhile_eq_nil h]
    rfl
  · intro h
    rw [String.isEmpty_iff.mp h]
    rfl

/-! ## Values of characters -/

/-- The values of characters in an alphabet are below its length, and give the characters back. -/
theorem mapM_idxOf? {alphabet cs : List Char} {ds : List Nat}
    (h : cs.mapM (alphabet.idxOf? ·) = some ds)
    (filling : Char) : ds.map (alphabet.getD · filling) = cs ∧ ∀ d ∈ ds, d < alphabet.length := by
  induction cs generalizing ds with
  | nil =>
    cases h
    exact ⟨rfl, fun d hd => by cases hd⟩
  | cons c rest ih =>
    simp only [List.mapM_cons, Option.bind_eq_bind, Option.bind_eq_some_iff] at h
    obtain ⟨d, hd, tail, htail, h⟩ := h
    cases h
    obtain ⟨hlt, hc, -⟩ := List.idxOf?_eq_some_iff.mp hd
    obtain ⟨hrest, hall⟩ := ih htail
    constructor
    · rw [List.map_cons, hrest, List.getD_eq_getElem?_getD, List.getElem?_eq_getElem hlt, hc]
      rfl
    · intro e he
      rcases List.mem_cons.mp he with rfl | he
      · exact hlt
      · exact hall e he

/-! ## Lower case -/

theorem lowerFrom_of_ascii {cs : List Char} (h : ∀ c ∈ cs, c.toNat < 128) (before : List Char) :
    lowerFrom before cs = cs.map lowerAscii := by
  induction cs generalizing before with
  | nil => rfl
  | cons c rest ih =>
    have hc := h c List.mem_cons_self
    have hsigma : c ≠ 'Σ' := by
      rintro rfl
      exact absurd hc (by decide)
    rw [lowerFrom, if_neg hsigma, lowerChar, if_pos hc,
      ih fun d hd => h d (List.mem_cons_of_mem c hd)]
    rfl

/-- The images of the runs lie behind the upper-case ASCII letters. -/
theorem lt_shift_of_mem_lowerRuns : ∀ r ∈ lowerRuns, (90 : Int) < r.first + r.shift := by
  decide +kernel

theorem toNat_ofNat_le (n : Nat) : (Char.ofNat n).toNat = n ∨ (Char.ofNat n).toNat = 0 := by
  by_cases h : n.isValidChar
  · have hchar : Char.ofNat n = Char.ofNatAux n h := dif_pos h
    exact .inl (congrArg Char.toNat hchar)
  · have hchar : Char.ofNat n = Char.ofNat 0 := dif_neg h
    exact .inr (congrArg Char.toNat hchar)

/-- What a character is lower-cased to: an ASCII letter, the two characters of the dotted I, the
image under a run, or itself. -/
theorem lowerChar_cases (c : Char) :
    (c.toNat < 128 ∧ lowerChar c = [lowerAscii c]) ∨
    (c = 'İ' ∧ lowerChar c = ['i', Char.ofNat 0x307]) ∨
      (∃ r ∈ lowerRuns, r.first ≤ c.toNat ∧ c.toNat ≤ r.last ∧
        ∃ d, ((d.toNat : Int) = c.toNat + r.shift ∨ d.toNat = 0) ∧ lowerChar c = [d]) ∨
      128 ≤ c.toNat ∧ lowerChar c = [c] := by
  unfold lowerChar
  split
  · next hascii => exact .inl ⟨hascii, rfl⟩
  next hascii =>
  split
  · next hdotted => exact .inr (.inl ⟨hdotted, rfl⟩)
  split
  · next r hr =>
    have hcontains := List.find?_some hr
    simp only [CaseRun.contains, Bool.and_eq_true, decide_eq_true_eq] at hcontains
    refine .inr (.inr
      (.inl ⟨r, List.mem_of_find?_eq_some hr, hcontains.1.1, hcontains.1.2, _, ?_, rfl⟩))
    rcases toNat_ofNat_le (c.toNat + r.shift).toNat with hn | hn <;> omega
  · exact .inr (.inr (.inr ⟨Nat.le_of_not_lt hascii, rfl⟩))

theorem lowerAscii_of_mem_lowerChar {c d : Char} (h : d ∈ lowerChar c) : lowerAscii d = d := by
  rcases lowerChar_cases c with ⟨-, hc⟩ | ⟨-, hc⟩ | ⟨r, hr, hfirst, -, e, he, hc⟩ |
      ⟨hascii, hc⟩ <;> rw [hc] at h
  · rw [List.mem_singleton.mp h, lowerAscii_lowerAscii]
  · rcases List.mem_cons.mp h with rfl | h
    · decide
    · rw [List.mem_singleton.mp h]
      decide
  · have hshift := lt_shift_of_mem_lowerRuns r hr
    rw [List.mem_singleton.mp h, ← Char.toNat_inj, toNat_lowerAscii, if_neg (by omega)]
  · rw [List.mem_singleton.mp h, ← Char.toNat_inj, toNat_lowerAscii, if_neg (by omega)]

theorem lowerAscii_of_mem_lowerFrom {before cs : List Char} {d : Char}
    (h : d ∈ lowerFrom before cs) :
    lowerAscii d = d := by
  induction cs generalizing before with
  | nil => cases h
  | cons c rest ih =>
    rw [lowerFrom] at h
    rcases List.mem_append.mp h with h | h
    · split at h
      · split at h
        all_goals
          rw [List.mem_singleton.mp h]
          decide
      · exact lowerAscii_of_mem_lowerChar h
    · exact ih h

end CrossChain.Text
