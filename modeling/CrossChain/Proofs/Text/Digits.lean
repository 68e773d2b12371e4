import CrossChain.Proofs.Text
import Mathlib.Data.Nat.Digits.Lemmas

/-!
# Runs of digits

A run of characters is read when each of them is a digit (`mapM_eq_some_iff`), and what is read is
what the digits denote (`decNat?_eq_some_iff`, `hexNat?_eq_some_iff`). The number of hexadecimal
digits depends neither on the case of letters (`hexNat?_congr`) nor on zeros in front
(`hexNat?_padStart`).

`Denotes` says what digits denote without a reader, and the digits that a number is written in
denote it (`denotes_toDigits`). Hexadecimal digits may have a mark in front of them (`IsHexMark`),
which is not made of digits (`not_isMarked_of_digits`), so that a text with digits has a mark in at
most one way.
-/

namespace CrossChain.Text

variable {α β : Type} {f : α → Option β} {l : List α} {r : List β} {cs ds : List Char} {n : Nat}

/-- A list is read when each of its items is. -/
theorem mapM_eq_some_iff : l.mapM f = some r ↔ l.map f = r.map some := by
  induction l generalizing r with
  | nil =>
    rw [List.mapM_nil, List.map_nil, eq_comm (a := []), List.map_eq_nil_iff]
    exact ⟨fun h => (Option.some.inj h).symm, fun h => by rw [h]; rfl⟩
  | cons a rest ih =>
    rw [List.mapM_cons, List.map_cons, eq_comm (a := _ :: _), List.map_eq_cons_iff]
    constructor
    · intro h
      obtain ⟨b, hb, h⟩ := Option.bind_eq_some_iff.mp h
      obtain ⟨tail, htail, h⟩ := Option.bind_eq_some_iff.mp h
      exact ⟨b, tail, (Option.some.inj h).symm, hb.symm, (ih.mp htail).symm⟩
    · rintro ⟨b, tail, rfl, hb, htail⟩
      rw [← hb, ih.mpr htail.symm]
      rfl

theorem mapM_cons_eq (f : α → Option β) (a : α) (rest : List α) :
    (a :: rest).mapM f = (f a).bind fun b => (rest.mapM f).map (b :: ·) := by
  rw [List.mapM_cons]
  cases f a with
  | none => rfl
  | some b =>
    change (rest.mapM f >>= fun tail => some (b :: tail)) = (rest.mapM f).map (b :: ·)
    cases rest.mapM f <;> rfl

theorem exists_mapM_iff : (∃ r, l.mapM f = some r) ↔ ∀ a ∈ l, (f a).isSome = true := by
  constructor
  · rintro ⟨r, hr⟩ a ha
    have hmem : f a ∈ r.map some := mapM_eq_some_iff.mp hr ▸ List.mem_map_of_mem ha
    obtain ⟨b, -, hb⟩ := List.mem_map.mp hmem
    rw [← hb]
    rfl
  · intro h
    induction l with
    | nil => exact ⟨[], rfl⟩
    | cons a rest ih =>
      obtain ⟨ha, hrest⟩ := List.forall_mem_cons.mp h
      obtain ⟨b, hb⟩ := Option.isSome_iff_exists.mp ha
      obtain ⟨tail, htail⟩ := ih hrest
      rw [mapM_eq_some_iff] at htail
      exact ⟨b :: tail, mapM_eq_some_iff.mpr (by rw [List.map_cons, hb, htail]; rfl)⟩

/-! ## Numbers -/

/-- Digits denote the same number read from either end. -/
theorem ofDigits_eq (base : Nat) (ds : List Nat) :
    ofDigits base ds = Nat.ofDigits base ds.reverse := by
  suffices ∀ n, ds.foldl (fun n d => n * base + d) n =
      n * base ^ ds.length + Nat.ofDigits base ds.reverse by
    rw [ofDigits, this, Nat.zero_mul, Nat.zero_add]
  induction ds with
  | nil => simp
  | cons d rest ih =>
    intro n
    rw [List.foldl_cons, ih, List.reverse_cons, Nat.ofDigits_append, List.length_reverse,
      Nat.ofDigits_singleton, List.length_cons, Nat.pow_succ]
    ring

theorem decNat?_eq_some_iff : decNat? cs = some n ↔
    cs ≠ [] ∧ ∃ ds, cs.mapM decDigit? = some ds ∧ ofDigits 10 ds = n := by
  cases cs with
  | nil => simp [decNat?]
  | cons c rest =>
    rw [decNat?, List.isEmpty_cons, if_neg Bool.false_ne_true, Option.map_eq_some_iff]
    simp only [ne_eq, reduceCtorEq, not_false_eq_true, true_and]

theorem isBlank_of_isDecDigit {c : Char} (h : isDecDigit c = true) : isBlank c = false := by
  apply isBlank_of_isHexDigit
  unfold isDecDigit decDigit? at h
  unfold isHexDigit hexDigit?
  split at h
  · next hdigit => rw [if_pos hdigit]; rfl
  · cases h

theorem hexNat?_eq_some_iff : hexNat? cs = some n ↔
    cs ≠ [] ∧ ∃ ds, cs.map hexDigit? = ds.map some ∧ ofDigits 16 ds = n := by
  cases cs with
  | nil => simp [hexNat?]
  | cons c rest =>
    rw [hexNat?, List.isEmpty_cons, if_neg Bool.false_ne_true, Option.map_eq_some_iff]
    simp only [mapM_eq_some_iff, ne_eq, reduceCtorEq, not_false_eq_true, true_and]

/-- What is not empty and made of digits is a number. -/
theorem exists_hexNat?_iff : (∃ n, hexNat? cs = some n) ↔
    cs ≠ [] ∧ ∀ c ∈ cs, isHexDigit c = true := by
  have hdigits := exists_mapM_iff (f := hexDigit?) (l := cs)
  simp only [mapM_eq_some_iff] at hdigits
  simp only [hexNat?_eq_some_iff, exists_and_left, isHexDigit, ← hdigits]
  refine and_congr_right fun _ => ?_
  constructor
  · rintro ⟨_, ds, hds, -⟩
    exact ⟨ds, hds⟩
  · rintro ⟨ds, hds⟩
    exact ⟨_, ds, hds, rfl⟩

theorem hexNat?_congr (h : cs.map hexDigit? = ds.map hexDigit?) : hexNat? cs = hexNat? ds := by
  have hnil : cs = [] ↔ ds = [] := by
    rw [← List.map_eq_nil_iff (f := hexDigit?), h, List.map_eq_nil_iff]
  apply Option.ext
  intro n
  rw [hexNat?_eq_some_iff, hexNat?_eq_some_iff, Ne, hnil, h]

theorem hexNat?_zero_cons (h : cs ≠ []) : hexNat? ('0' :: cs) = hexNat? cs := by
  apply Option.ext
  intro n
  have hzero : hexDigit? '0' = some 0 := rfl
  simp only [hexNat?_eq_some_iff, List.map_cons, hzero, ne_eq, h, reduceCtorEq, not_false_eq_true,
    true_and]
  constructor
  · rintro ⟨ds, hds, hn⟩
    obtain ⟨d, tail, rfl, hd, htail⟩ := List.map_eq_cons_iff.mp hds.symm
    cases hd
    exact ⟨tail, htail.symm, hn⟩
  · rintro ⟨ds, hds, hn⟩
    exact ⟨0 :: ds, by rw [hds]; rfl, hn⟩

/-- Zeros in front do not count. -/
theorem hexNat?_padStart (width : Nat) (h : cs ≠ []) :
    hexNat? (padStart width '0' cs) = hexNat? cs := by
  rw [padStart]
  induction width - cs.length with
  | zero => rfl
  | succ k ih =>
    have hne : List.replicate k '0' ++ cs ≠ [] := List.append_ne_nil_of_right_ne_nil _ h
    rw [List.replicate_succ, List.cons_append, hexNat?_zero_cons hne, ih]

/-! ## Digits and what they denote -/

/-- A digit of a base and its value; letters stand for ten and more, in either case. -/
def IsDigit (base : Nat) (c : Char) (d : Nat) : Prop := d < base ∧ lowerAscii c = Nat.digitChar d

/-- What digits of a base denote, the last one being the units; no digits denote zero. -/
def Denotes (base : Nat) (cs : List Char) (n : Nat) : Prop :=
  ∃ ds, List.Forall₂ (IsDigit base) cs ds ∧ Nat.ofDigits base ds.reverse = n

theorem toNat_digitChar {d : Nat} (h : d < 16) :
    (Nat.digitChar d).toNat = if d < 10 then 48 + d else 87 + d := by
  revert d
  decide

theorem hexDigit?_eq_some_iff {c : Char} {d : Nat} : hexDigit? c = some d ↔ IsDigit 16 c d := by
  constructor
  · intro h
    have hlt := hexDigit?_lt h
    refine ⟨hlt, Char.toNat_inj.mp ?_⟩
    rw [toNat_lowerAscii, toNat_digitChar hlt]
    rw [hexDigit?_eq] at h
    grind
  · rintro ⟨hlt, hc⟩
    rw [← Char.toNat_inj, toNat_lowerAscii, toNat_digitChar hlt] at hc
    rw [hexDigit?_eq]
    grind

theorem decDigit?_eq_some_iff {c : Char} {d : Nat} : decDigit? c = some d ↔ IsDigit 10 c d := by
  have hcode : decDigit? c = if 48 ≤ c.toNat ∧ c.toNat ≤ 57 then some (c.toNat - 48) else none :=
    rfl
  rw [hcode, IsDigit, ← Char.toNat_inj, toNat_lowerAscii]
  constructor
  · intro h
    have hlt : d < 10 := by grind
    refine ⟨hlt, ?_⟩
    rw [toNat_digitChar (by omega)]
    grind
  · rintro ⟨hlt, hc⟩
    rw [toNat_digitChar (by omega)] at hc
    grind

theorem denotes_iff {base : Nat} {digit? : Char → Option Nat}
    (hdigit : ∀ {c d}, digit? c = some d ↔ IsDigit base c d) :
    Denotes base cs n ↔ ∃ ds, cs.mapM digit? = some ds ∧ ofDigits base ds = n := by
  have hrelation : IsDigit base = fun c d => digit? c = some d := by
    funext c d
    exact propext hdigit.symm
  simp only [Denotes, mapM_eq_some_iff, ← List.forall₂_eq_eq_eq, List.forall₂_map_left_iff,
    List.forall₂_map_right_iff, hrelation, ofDigits_eq]

theorem Denotes.forall_isDigit {base : Nat} (h : Denotes base cs n) :
    ∀ c ∈ cs, ∃ d, IsDigit base c d := by
  obtain ⟨ds, hds, -⟩ := h
  induction hds with
  | nil => exact List.forall_mem_nil _
  | cons hdigit _ ih => exact List.forall_mem_cons.mpr ⟨⟨_, hdigit⟩, ih⟩

theorem Denotes.forall_isHexDigit {base : Nat} (h : Denotes base cs n) (hbase : base ≤ 16) :
    ∀ c ∈ cs, isHexDigit c = true := by
  intro c hc
  obtain ⟨d, hlt, hd⟩ := h.forall_isDigit c hc
  rw [isHexDigit, hexDigit?_eq_some_iff.mpr ⟨hlt.trans_le hbase, hd⟩]
  rfl

theorem denotes_nil_iff {base : Nat} : Denotes base [] n ↔ n = 0 := by
  simp [Denotes, eq_comm]

/-- A digit behind a number is its new units. -/
theorem Denotes.concat {base d : Nat} {c : Char} (h : Denotes base cs n) (hc : IsDigit base c d) :
    Denotes base (cs ++ [c]) (n * base + d) := by
  obtain ⟨ds, hds, rfl⟩ := h
  refine ⟨ds ++ [d], List.rel_append hds (.cons hc .nil), ?_⟩
  rw [List.reverse_append, List.reverse_singleton, List.singleton_append, Nat.ofDigits_cons]
  ring

theorem isDigit_digitChar {d : Nat} (h : d < 16) : IsDigit 16 (Nat.digitChar d) d := by
  refine ⟨h, ?_⟩
  revert d
  decide

/-- The digits that a number is written in denote it. -/
theorem denotes_toDigits (n : Nat) : Denotes 16 (Nat.toDigits 16 n) n := by
  induction n using Nat.strongRecOn with
  | ind n ih =>
    rw [Nat.toDigits_eq_if (by decide)]
    split
    · next hlt =>
      have hone := (denotes_nil_iff.mpr rfl).concat (isDigit_digitChar hlt)
      rwa [Nat.zero_mul, Nat.zero_add] at hone
    · next hge =>
      have hfront := ih (n / 16) (by omega)
      have hunits : n % 16 < 16 := Nat.mod_lt n (by decide)
      have hall := hfront.concat (isDigit_digitChar hunits)
      rwa [Nat.div_add_mod'] at hall

/-! ## Marks of hexadecimal digits -/

/-- The two characters in front of hexadecimal digits, the second in either letter case. -/
def IsHexMark (cs : List Char) : Prop := cs = ['0', 'x'] ∨ cs = ['0', 'X']

/-- A mark stands in front, whatever is behind it. -/
def IsMarked (cs : List Char) : Prop := ∃ mark ds, IsHexMark mark ∧ cs = mark ++ ds

theorem IsHexMark.isMarked (h : IsHexMark cs) : IsMarked cs :=
  ⟨cs, [], h, (List.append_nil cs).symm⟩

theorem IsMarked.ne_nil (h : IsMarked cs) : cs ≠ [] := by
  obtain ⟨_, ds, rfl | rfl, rfl⟩ := h
  · exact List.cons_ne_nil _ _
  · exact List.cons_ne_nil _ _

/-- No digit is the letter of a mark. -/
theorem not_isMarked_of_digits (h : ∀ c ∈ cs, isHexDigit c = true) : ¬ IsMarked cs := by
  rintro ⟨_, ds, rfl | rfl, rfl⟩
  · cases h 'x' (by simp)
  · cases h 'X' (by simp)

theorem Denotes.not_isMarked {base : Nat} (h : Denotes base cs n) (hbase : base ≤ 16) :
    ¬ IsMarked cs :=
  not_isMarked_of_digits (h.forall_isHexDigit hbase)

theorem toList_markedHexText (n : Nat) :
    ("0x" ++ hexText n).toList = ['0', 'x'] ++ Nat.toDigits 16 n := by
  rw [String.toList_append]
  exact congrArg (['0', 'x'] ++ ·) String.toList_ofList

theorem trim_markedHexText (n : Nat) : trim ("0x" ++ hexText n) = "0x" ++ hexText n := by
  rw [← String.ofList_toList (s := "0x" ++ hexText n), toList_markedHexText]
  apply trim_ofList
  intro c hc
  rcases List.mem_append.mp hc with hc | hc
  · rcases List.mem_pair.mp hc with rfl | rfl <;> rfl
  · exact isBlank_of_isHexDigit ((denotes_toDigits n).forall_isHexDigit (Nat.le_refl 16) c hc)

/-! ## Padding -/

theorem length_padStart {width : Nat} (h : cs.length ≤ width) :
    (padStart width '0' cs).length = width := by
  rw [padStart, List.length_append, List.length_replicate, Nat.sub_add_cancel h]

theorem mem_padStart {width : Nat} {fill c : Char} (h : c ∈ padStart width fill cs) :
    c = fill ∨ c ∈ cs := by
  rcases List.mem_append.mp h with h | h
  · exact .inl (List.eq_of_mem_replicate h)
  · exact .inr h

theorem dropWhile_padStart (width : Nat) (cs : List Char) :
    (padStart width '0' cs).dropWhile (· == '0') = cs.dropWhile (· == '0') := by
  apply List.dropWhile_append_of_pos
  intro c hc
  rw [List.eq_of_mem_replicate hc]
  rfl

theorem padStart_zero_cons {width : Nat} (h : cs.length < width) :
    padStart width '0' ('0' :: cs) = padStart width '0' cs := by
  rw [padStart, padStart, List.length_cons,
    show width - cs.length = width - (cs.length + 1) + 1 by omega, List.replicate_succ',
    List.append_assoc]
  rfl

/-- Padding restores the zeros that were dropped. -/
theorem padStart_dropWhile {width : Nat} (h : cs.length ≤ width) :
    padStart width '0' (cs.dropWhile (· == '0')) = padStart width '0' cs := by
  induction cs with
  | nil => rfl
  | cons c rest ih =>
    rw [List.length_cons] at h
    by_cases hc : c = '0'
    · subst hc
      rw [padStart_zero_cons h, ← ih (by omega)]
      rfl
    · rw [List.dropWhile_cons_of_neg (by simpa using hc)]

end CrossChain.Text
