import CrossChain.Proofs.Address.Hex
import CrossChain.Proofs.Address.Ton
import CrossChain.Proofs.Address.Ton.Checksum

/-!
# Edited Ton addresses

The friendly form of an account is 48 characters, which are values of six bits whose division leaves
nothing (`values_of_ofText?`). Where two adjacent characters are replaced by any others, at most
twelve bits differ, and twelve bits are not lost in a remainder of sixteen (`eq_of_edited`).

Main statement (`ofText?_edited`): the friendly form is read as the account, and a text that differs
from it in at most two adjacent characters is read as the account or not at all. It may be read, as
the standard alphabet and the one for links have a character each for the same value
(`ofText?_edited_sevens`).
-/

namespace CrossChain

namespace Ton

/-- The octets of values are fed as the values. -/
theorem foldl_ofValues {vs : List Nat} (hlt : ∀ v ∈ vs, v < 2 ^ 6) (hgroups : 4 ∣ vs.length)
    (r : UInt16) :
    (Base64.ofValues vs).foldl crcOctet r = vs.foldl (feed 6) r := by
  induction vs using Base64.ofValues.induct generalizing r with
  | case1 w x y z rest ih =>
    obtain ⟨hw, hx, hy, hz, hrest⟩ : w < 64 ∧ x < 64 ∧ y < 64 ∧ z < 64 ∧ ∀ v ∈ rest, v < 2 ^ 6 := by
      simpa using hlt
    have hfirst : (w * 262144 + x * 4096 + y * 64 + z) / 65536 = w * 2 ^ 2 + x / 16 := by omega
    have hsecond : (w * 262144 + x * 4096 + y * 64 + z) / 256 % 256 = x % 16 * 2 ^ 4 + y / 4 := by
      omega
    have hthird : (w * 262144 + x * 4096 + y * 64 + z) % 256 = y % 4 * 2 ^ 6 + z := by omega
    have hfed {r : UInt16} {k : Nat} (hk : k < 256) : crcOctet r (UInt8.ofNat k) = feed 8 r k := by
      rw [crcOctet_eq_feed, UInt8.toNat_ofNat_of_lt' hk]
    rw [Base64.ofValues, List.foldl_append, Base64.unpack, hfirst, hsecond, hthird]
    simp only [List.foldl_cons, List.foldl_nil]
    rw [hfed (by omega), hfed (by omega), hfed (by omega), feed_octets r hx hy hz]
    rw [List.length_cons, List.length_cons, List.length_cons, List.length_cons] at hgroups
    exact ih hrest (by omega) _
  | case2 vs hgroup =>
    rcases vs with _ | ⟨w, _ | ⟨x, _ | ⟨y, _ | ⟨z, rest⟩⟩⟩⟩
    · rfl
    · simp at hgroups
    · simp at hgroups
    · simp at hgroups
    · exact (hgroup w x y z rest rfl).elim

namespace Account

/-- What is read of octets is a body with its guard. -/
theorem crc16_of_ofOctets? {bs : List UInt8} {a : Account} (h : ofOctets? bs = some a) :
    bs.length = 36 ∧ crc16 bs = 0 := by
  unfold ofOctets? at h
  split at h
  · split at h
    · next hguarded =>
      refine ⟨hguarded.1, ?_⟩
      rw [← List.take_append_drop 34 (_ :: _ :: _), ← hguarded.2]
      exact crc16_guarded _
    · cases h
  · cases h

theorem length_of_ofRaw? {workchain hash : List Char} {a : Account}
    (h : ofRaw? workchain hash = some a) :
    hash.length = 64 := by
  simp only [ofRaw?, Option.bind_eq_bind, Option.bind_eq_some_iff] at h
  obtain ⟨w, -, bs, hbs, h⟩ := h
  split at h
  · next hlength => rw [(Address.of_octets?_eq_some hbs).1, hlength]
  · cases h

/-- A text of 48 characters is too short for the raw form, and is read as it stands. -/
theorem decode?_of_ofText? {s : String} {a : Account} (hs : s.toList.length = 48)
    (h : ofText? s = some a) :
    ∃ alphabet bs, (alphabet = Base64.urlSafe ∨ alphabet = Base64.standard) ∧
      alphabet.decode? s.toList = some bs ∧ ofOctets? bs = some a := by
  have hsublist := Text.stripWhile_sublist Text.isBlank s.toList
  have htrim : (Text.trim s).toList = Text.stripWhile Text.isBlank s.toList := String.toList_ofList
  unfold ofText? at h
  dsimp only at h
  rw [htrim] at h
  split at h
  · next hash hcolon =>
    have hshort := (List.dropWhile_sublist (· != ':')).trans hsublist |>.length_le
    rw [hcolon, List.length_cons, length_of_ofRaw? h, hs] at hshort
    omega
  · split at h
    · next hfull =>
      rw [hsublist.eq_of_length (hfull.trans hs.symm)] at h
      obtain ⟨bs, hbs, ha⟩ := Option.bind_eq_some_iff.mp h
      rcases Option.or_eq_some_iff.mp hbs with hbs | ⟨-, hbs⟩
      · exact ⟨.urlSafe, bs, .inl rfl, hbs, ha⟩
      · exact ⟨.standard, bs, .inr rfl, hbs, ha⟩
    · cases h

/-- The values of a friendly form. Their division leaves nothing. -/
theorem values_of_ofText? {s : String} {a : Account} (hs : s.toList.length = 48)
    (h : ofText? s = some a) :
    ∃ alphabet vs, (alphabet = Base64.urlSafe ∨ alphabet = Base64.standard) ∧
      s.toList.mapM alphabet.value? = some vs ∧ ofOctets? (Base64.ofValues vs) = some a ∧
      vs.foldl (feed 6) 0 = 0 := by
  obtain ⟨alphabet, bs, halphabet, hbs, ha⟩ := decode?_of_ofText? hs h
  obtain ⟨hlength, hcrc⟩ := crc16_of_ofOctets? ha
  obtain ⟨vs, hvs, rfl⟩ := Base64.values_of_decode? hbs (by rw [hlength, hs])
  obtain ⟨hcount, hlt⟩ := Base64.mapM_value? hvs
  refine ⟨alphabet, vs, halphabet, hvs, ha, ?_⟩
  rw [← foldl_ofValues hlt (by rw [hcount, hs]; decide)]
  exact hcrc

/-- At most `n` adjacent characters of a text are replaced, each by one character. -/
def Edited (n : Nat) (s s' : String) : Prop :=
  ∃ front old new back, s.toList = front ++ old ++ back ∧ s'.toList = front ++ new ++ back ∧
    new.length = old.length ∧ old.length ≤ n

/-- Where both texts are read, they are read as one account: twelve bits are not lost in the
division. -/
theorem eq_of_edited {s s' : String} {a a' : Account} (hs : s.toList.length = 48)
    (hedited : Edited 2 s s') (h : ofText? s = some a) (h' : ofText? s' = some a') : a = a' := by
  obtain ⟨front, old, new, back, hold, hnew, hlength, hle⟩ := hedited
  have hs' : s'.toList.length = 48 := by
    rw [← hs, hold, hnew]
    simp [hlength]
  obtain ⟨alphabet, vs, halphabet, hvs, ha, hzero⟩ := values_of_ofText? hs h
  obtain ⟨alphabet', vs', halphabet', hvs', ha', hzero'⟩ := values_of_ofText? hs' h'
  have hagrees : alphabet.Agrees alphabet' := Base64.agrees_of_known halphabet halphabet'
  rw [hold] at hvs
  rw [hnew] at hvs'
  obtain ⟨fronts, olds, backs, hfront, hvold, hback, rfl⟩ := Base64.mapM_append₃ hvs
  obtain ⟨fronts', news, backs', hfront', hvnew, hback', rfl⟩ := Base64.mapM_append₃ hvs'
  obtain rfl := hagrees.mapM_value? hfront hfront'
  obtain rfl := hagrees.mapM_value? hback hback'
  obtain ⟨hcount, hlt⟩ := Base64.mapM_value? hvold
  obtain ⟨hcount', hlt'⟩ := Base64.mapM_value? hvnew
  rw [List.foldl_append, List.foldl_append] at hzero hzero'
  have hmiddle := foldl_feed_left_injective 6 backs (hzero.trans hzero'.symm)
  obtain rfl := foldl_feed_right_injective hlt hlt' (by omega) (by omega) hmiddle
  exact Option.some.inj (ha.symm.trans ha')

/-- The friendly form of an account has 48 characters and is read as the account. Where at most two
adjacent characters are replaced, by whatever characters, nothing else is read. -/
theorem ofText?_edited {a : Account} (h : a.hash.length = 32) :
    a.text.length = 48 ∧ ofText? a.text = some a ∧
      ∀ s, Edited 2 a.text s → ofText? s = none ∨ ofText? s = some a := by
  have hlength : a.text.toList.length = 48 := by
    rw [text, String.toList_ofList, Base64.length_encode]
    simp [body, h, guard]
  refine ⟨hlength, ofText?_text h, fun s hs => ?_⟩
  cases hread : ofText? s with
  | none => exact .inl rfl
  | some b => rw [eq_of_edited hlength hs (ofText?_text h) hread]; exact .inr rfl

/-- An account whose friendly form ends with a character that the standard alphabet lacks. -/
def sevens : Account := ⟨bounceable, 0, List.replicate 31 7 ++ [24]⟩

/-- The standard character of the same value is read too, any other one is not. -/
theorem ofText?_edited_sevens :
    sevens.text = "EQAHBwcHBwcHBwcHBwcHBwcHBwcHBwcHBwcHBwcHBwcHGCG_" ∧
      ofText? "EQAHBwcHBwcHBwcHBwcHBwcHBwcHBwcHBwcHBwcHBwcHGCG/" = some sevens ∧
      ofText? "EQAHBwcHBwcHBwcHBwcHBwcHBwcHBwcHBwcHBwcHBwcHGCGA" = none := by
  have htext : sevens.text = "EQAHBwcHBwcHBwcHBwcHBwcHBwcHBwcHBwcHBwcHBwcHGCG_" := by decide +kernel
  have hedited : Edited 2 sevens.text "EQAHBwcHBwcHBwcHBwcHBwcHBwcHBwcHBwcHBwcHBwcHGCG/" := by
    refine ⟨"EQAHBwcHBwcHBwcHBwcHBwcHBwcHBwcHBwcHBwcHBwcHGCG".toList, ['_'], ['/'], [], ?_, ?_,
      rfl, by decide⟩
    · rw [htext]
      decide +kernel
    · decide +kernel
  refine ⟨htext, ?_, by decide +kernel⟩
  rcases (ofText?_edited (a := sevens) rfl).2.2 _ hedited with hnone | hsome
  · have hread : (ofText? "EQAHBwcHBwcHBwcHBwcHBwcHBwcHBwcHBwcHBwcHBwcHGCG/").isSome = true := by
      decide +kernel
    rw [hnone] at hread
    cases hread
  · exact hsome

end Account

end Ton

end CrossChain
