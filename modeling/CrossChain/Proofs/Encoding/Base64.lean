import CrossChain.Encoding.Base64
import CrossChain.Proofs.Text

/-!
# Base64 texts are read as the octets they were written from

Three octets are four values below 64. The characters of `urlSafe` are read as their values
(`value?_digit`), and none of them is the filling, so that octets are read back from the text that
they are written as (`decode?_encode`).

A text without filling is read as the octets of its values (`values_of_decode?`). The two alphabets
differ in their last two characters and agree on the values of all others (`Agrees`), so that a text
that both read has the same values in both (`Agrees.mapM_value?`).
-/

namespace CrossChain.Base64

theorem value?_digit {n : Nat} (h : n < 64) : urlSafe.value? (urlSafe.digit n) = some n := by
  revert n
  decide

theorem digit_ne_filling {n : Nat} (h : n < 64) : urlSafe.digit n ≠ '=' := by
  intro hfilling
  have hvalue := value?_digit h
  rw [hfilling] at hvalue
  cases hvalue

/-- A group that is not the last one, or is complete. -/
theorem decode?_group (a : Base64) (w x y : Char) {z : Char} (hz : z ≠ '=') (rest : List Char) :
    a.decode? (w :: x :: y :: z :: rest) = (do
      let n :=
        (← a.value? w) * 262144 + (← a.value? x) * 4096 + (← a.value? y) * 64 + (← a.value? z)
      return unpack n ++ (← a.decode? rest)) := by
  rw [decode?.eq_def]
  split
  case h_5 hother => exact (hother w x y z rest rfl).elim
  all_goals simp_all

theorem decode?_pair {a : Base64} {w x y : Char} (hy : y ≠ '=') :
    a.decode? [w, x, y, '='] = (do
      let n := (← a.value? w) * 4096 + (← a.value? x) * 64 + (← a.value? y)
      if n % 4 = 0 then some [UInt8.ofNat (n / 1024), UInt8.ofNat (n / 4 % 256)] else none) := by
  rw [decode?]
  exact hy

theorem unpack_octets (x y z : UInt8) :
    unpack (x.toNat * 65536 + y.toNat * 256 + z.toNat) = [x, y, z] := by
  have hx := x.toNat_lt
  have hy := y.toNat_lt
  have hz := z.toNat_lt
  have h₁ : (x.toNat * 65536 + y.toNat * 256 + z.toNat) / 65536 = x.toNat := by omega
  have h₂ : (x.toNat * 65536 + y.toNat * 256 + z.toNat) / 256 % 256 = y.toNat := by omega
  have h₃ : (x.toNat * 65536 + y.toNat * 256 + z.toNat) % 256 = z.toNat := by omega
  rw [unpack, h₁, h₂, h₃, UInt8.ofNat_toNat, UInt8.ofNat_toNat, UInt8.ofNat_toNat]

/-- Four values of six bits make the number that they were cut from. -/
theorem values_sum (n : Nat) :
    n / 262144 * 262144 + n / 4096 % 64 * 4096 + n / 64 % 64 * 64 + n % 64 = n := by
  omega

/-- Octets are read back from the text that they are written as. -/
theorem decode?_encode (bs : List UInt8) : urlSafe.decode? (urlSafe.encode bs) = some bs := by
  induction bs using encode.induct with
  | case1 x y z rest ih =>
    have hx := x.toNat_lt
    have hy := y.toNat_lt
    have hz := z.toNat_lt
    have hunpack := unpack_octets x y z
    simp only [encode]
    generalize hn : x.toNat * 65536 + y.toNat * 256 + z.toNat = n at hunpack ⊢
    rw [decode?_group _ _ _ _ (digit_ne_filling (by omega)), value?_digit (by omega),
      value?_digit (by omega), value?_digit (by omega), value?_digit (by omega), ih]
    simp only [Option.bind_eq_bind, Option.bind_some, Option.pure_def, values_sum, hunpack]
    rfl
  | case2 x y =>
    have hx := x.toNat_lt
    have hy := y.toNat_lt
    obtain ⟨n, hn⟩ : ∃ n, n = x.toNat * 65536 + y.toNat * 256 := ⟨_, rfl⟩
    simp only [encode, ← hn]
    have hsum : n / 262144 * 4096 + n / 4096 % 64 * 64 + n / 64 % 64 = n / 64 := by
      omega
    have hleft : n / 64 % 4 = 0 := by omega
    have hfirst : n / 64 / 1024 = x.toNat := by omega
    have hsecond : n / 64 / 4 % 256 = y.toNat := by omega
    rw [decode?_pair (digit_ne_filling (by omega)), value?_digit (by omega),
      value?_digit (by omega), value?_digit (by omega)]
    simp [hsum, hleft, hfirst, hsecond]
  | case3 x =>
    have hx := x.toNat_lt
    obtain ⟨n, hn⟩ : ∃ n, n = x.toNat * 65536 := ⟨_, rfl⟩
    simp only [encode, ← hn]
    have hsum : n / 262144 * 64 + n / 4096 % 64 = n / 4096 := by omega
    have hleft : n / 4096 % 16 = 0 := by omega
    have hfirst : n / 4096 / 16 = x.toNat := by omega
    rw [decode?, value?_digit (by omega), value?_digit (by omega)]
    simp [hsum, hleft, hfirst]
  | case4 => rfl

theorem length_encode (a : Base64) (bs : List UInt8) :
    (a.encode bs).length = (bs.length + 2) / 3 * 4 := by
  induction bs using encode.induct with
  | case1 x y z rest ih =>
    simp only [encode, List.length_cons, ih]
    omega
  | case2 x y => simp [encode]
  | case3 x => simp [encode]
  | case4 => rfl

theorem mem_encode {a : Base64} {bs : List UInt8} {c : Char} (h : c ∈ a.encode bs) :
    c = '=' ∨ ∃ n < 64, c = a.digit n := by
  induction bs using encode.induct with
  | case1 x y z rest ih =>
    have hx := x.toNat_lt
    have hy := y.toNat_lt
    have hz := z.toNat_lt
    simp only [encode, List.mem_cons] at h
    rcases h with h | h | h | h | h
    · exact .inr ⟨_, by omega, h⟩
    · exact .inr ⟨_, by omega, h⟩
    · exact .inr ⟨_, by omega, h⟩
    · exact .inr ⟨_, by omega, h⟩
    · exact ih h
  | case2 x y =>
    have hx := x.toNat_lt
    have hy := y.toNat_lt
    simp only [encode, List.mem_cons, List.not_mem_nil, or_false] at h
    rcases h with h | h | h | h
    · exact .inr ⟨_, by omega, h⟩
    · exact .inr ⟨_, by omega, h⟩
    · exact .inr ⟨_, by omega, h⟩
    · exact .inl h
  | case3 x =>
    have hx := x.toNat_lt
    simp only [encode, List.mem_cons, List.not_mem_nil, or_false] at h
    rcases h with h | h | h | h
    · exact .inr ⟨_, by omega, h⟩
    · exact .inr ⟨_, by omega, h⟩
    · exact .inl h
    · exact .inl h
  | case4 => cases h

/-! ## Values of complete texts -/

/-- The octets of groups of four values. -/
def ofValues : List Nat → List UInt8
  | w :: x :: y :: z :: rest => unpack (w * 262144 + x * 4096 + y * 64 + z) ++ ofValues rest
  | _ => []

section Values

variable {a a' : Base64} {cs : List Char} {vs vs' : List Nat}

theorem value?_eq (a : Base64) (c : Char) : a.value? c =
    if 65 ≤ c.toNat ∧ c.toNat ≤ 90 then some (c.toNat - 65)
    else if 97 ≤ c.toNat ∧ c.toNat ≤ 122 then some (c.toNat - 71)
    else if 48 ≤ c.toNat ∧ c.toNat ≤ 57 then some (c.toNat + 4)
    else if c = a.plus then some 62
    else if c = a.slash then some 63
    else none := rfl

theorem value?_lt {c : Char} {n : Nat} (h : a.value? c = some n) : n < 64 := by
  rw [value?_eq] at h
  grind

/-- No character has different values in alphabets that differ in their last two. -/
def Agrees (a a' : Base64) : Prop := ∀ c n n', a.value? c = some n → a'.value? c = some n' → n = n'

theorem agrees_self (a : Base64) : a.Agrees a := fun _ _ _ h h' => Option.some.inj (h.symm.trans h')

theorem agrees_standard : urlSafe.Agrees standard := by
  intro c n n' h h'
  unfold value? at h h'
  by_cases hupper : 'A' ≤ c ∧ c ≤ 'Z'
  · rw [if_pos hupper] at h h'
    exact Option.some.inj (h.symm.trans h')
  rw [if_neg hupper] at h h'
  by_cases hlower : 'a' ≤ c ∧ c ≤ 'z'
  · rw [if_pos hlower] at h h'
    exact Option.some.inj (h.symm.trans h')
  rw [if_neg hlower] at h h'
  by_cases hdigit : '0' ≤ c ∧ c ≤ '9'
  · rw [if_pos hdigit] at h h'
    exact Option.some.inj (h.symm.trans h')
  rw [if_neg hdigit] at h h'
  -- Neither of the last two characters of one alphabet is in the other.
  split at h
  · next hc => simp [hc, urlSafe, standard] at h'
  · split at h
    · next hc => simp [hc, urlSafe, standard] at h'
    · cases h

theorem agrees_of_known (h : a = urlSafe ∨ a = standard) (h' : a' = urlSafe ∨ a' = standard) :
    a.Agrees a' := by
  rcases h with rfl | rfl <;> rcases h' with rfl | rfl
  · exact agrees_self _
  · exact agrees_standard
  · exact fun c n n' hn hn' => (agrees_standard c n' n hn' hn).symm
  · exact agrees_self _

theorem mapM_append₃ {front middle back : List Char}
    (h : (front ++ middle ++ back).mapM a.value? = some vs) :
    ∃ fs ms bs, front.mapM a.value? = some fs ∧ middle.mapM a.value? = some ms ∧
    back.mapM a.value? = some bs ∧
      vs = fs ++ ms ++ bs := by
  rw [List.mapM_append, List.mapM_append] at h
  obtain ⟨fms, hfms, h⟩ := Option.bind_eq_some_iff.mp h
  obtain ⟨bs, hbs, h⟩ := Option.bind_eq_some_iff.mp h
  obtain ⟨fs, hfs, hfms⟩ := Option.bind_eq_some_iff.mp hfms
  obtain ⟨ms, hms, hfms⟩ := Option.bind_eq_some_iff.mp hfms
  cases hfms
  cases h
  exact ⟨fs, ms, bs, hfs, hms, hbs, rfl⟩

theorem mapM_value? (h : cs.mapM a.value? = some vs) :
    vs.length = cs.length ∧ ∀ v ∈ vs, v < 64 := by
  induction cs generalizing vs with
  | nil =>
    cases h
    exact ⟨rfl, fun v hv => (List.not_mem_nil hv).elim⟩
  | cons c rest ih =>
    rw [List.mapM_cons] at h
    obtain ⟨n, hn, h⟩ := Option.bind_eq_some_iff.mp h
    obtain ⟨ns, hns, h⟩ := Option.bind_eq_some_iff.mp h
    cases h
    obtain ⟨hlength, hlt⟩ := ih hns
    exact ⟨congrArg (· + 1) hlength, List.forall_mem_cons.mpr ⟨value?_lt hn, hlt⟩⟩

theorem Agrees.mapM_value? (hagree : a.Agrees a') (h : cs.mapM a.value? = some vs)
    (h' : cs.mapM a'.value? = some vs') : vs = vs' := by
  induction cs generalizing vs vs' with
  | nil =>
    cases h
    cases h'
    rfl
  | cons c rest ih =>
    rw [List.mapM_cons] at h h'
    obtain ⟨n, hn, h⟩ := Option.bind_eq_some_iff.mp h
    obtain ⟨ns, hns, h⟩ := Option.bind_eq_some_iff.mp h
    obtain ⟨n', hn', h'⟩ := Option.bind_eq_some_iff.mp h'
    obtain ⟨ns', hns', h'⟩ := Option.bind_eq_some_iff.mp h'
    cases h
    cases h'
    rw [hagree c n n' hn hn', ih hns hns']

/-- A text without filling is read as the octets of its values. -/
theorem values_of_decode? {bs : List UInt8} (h : a.decode? cs = some bs)
    (hlength : 4 * bs.length = 3 * cs.length) :
    ∃ vs, cs.mapM a.value? = some vs ∧ ofValues vs = bs := by
  induction cs using decode?.induct generalizing bs with
  | case1 =>
    cases h
    exact ⟨[], rfl, rfl⟩
  -- A group with filling has fewer octets than the length asks for.
  | case2 w x =>
    simp only [decode?, Option.bind_eq_bind, Option.bind_eq_some_iff] at h
    obtain ⟨_, -, _, -, h⟩ := h
    split at h
    · cases h
      simp at hlength
    · cases h
  | case3 w x y hfilling =>
    rw [decode?_pair hfilling] at h
    simp only [Option.bind_eq_bind, Option.bind_eq_some_iff] at h
    obtain ⟨_, -, _, -, _, -, h⟩ := h
    split at h
    · cases h
      simp at hlength
    · cases h
  | case4 w x y z rest htwo hone ih =>
    rw [decode?] at h
    rotate_left
    · exact htwo
    · exact hone
    simp only [Option.bind_eq_bind, Option.bind_eq_some_iff] at h
    obtain ⟨w', hw, x', hx, y', hy, z', hz, octets, hrest, h⟩ := h
    cases h
    obtain ⟨vs, hvs, rfl⟩ := ih hrest (by simp [unpack] at hlength; omega)
    refine ⟨w' :: x' :: y' :: z' :: vs, ?_, rfl⟩
    simp [List.mapM_cons, hw, hx, hy, hz, hvs]
  | case5 cs hempty htwo hone hgroup =>
    rw [decode?] at h
    · cases h
    all_goals assumption

end Values

end CrossChain.Base64
