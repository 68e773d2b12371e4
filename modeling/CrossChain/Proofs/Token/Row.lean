import CrossChain.Proofs.Amount.Integer
import CrossChain.Proofs.Except
import CrossChain.Token.Basic
import Mathlib.Data.List.TakeWhile

/-!
# Rows of tokens

A row is a token if it names a chain and an address and if its supply is empty or a number: an
integer as nodes write them, or digits around a point (`IsNumber`). The token has the texts of the
row, trimmed, and the whole part of the number (`IsDecoded`).

What is behind the first point of a supply is never looked at. So a supply is read where it is a
number, and also where an integer stands in front of the first point of a text that is no number
(`IsMisread`, `supplyOf_eq_ok_iff`).

Main statement (`ofRow_isDecoded_iff`): a row is read as just said exactly when its supply is not
misread.
-/

namespace CrossChain

namespace Amount

variable {cs : List Char} {n : Nat} {digit? : Char → Option Nat}

theorem values?_of_mapM {ds : List Nat} (hmark : digit? '_' = none) (h : cs.mapM digit? = some ds) :
    values? digit? cs = some ds := by
  have hkept : cs.filter (· != '_') = cs := by
    rw [List.filter_eq_self]
    intro c hc
    rw [bne_iff_ne]
    rintro rfl
    have hsome := Text.exists_mapM_iff.mp ⟨ds, h⟩ '_' hc
    rw [hmark] at hsome
    cases hsome
  rw [values?, hkept, h]

theorem digit?_of_values? {ds : List Nat} {c : Char} (h : values? digit? cs = some ds) (hc : c ∈ cs)
    (hmark : c ≠ '_') : (digit? c).isSome = true :=
  Text.exists_mapM_iff.mp ⟨ds, h⟩ c (List.mem_filter.mpr ⟨hc, by simpa using hmark⟩)

/-- No integer has a point. -/
theorem not_mem_of_number? (h : number? cs = some n) : '.' ∉ cs := by
  intro hpoint
  unfold number? at h
  split at h
  · obtain ⟨ds, hds, -⟩ := Option.map_eq_some_iff.mp h
    have hmem := List.mem_of_ne_of_mem (by decide) (List.mem_of_ne_of_mem (by decide) hpoint)
    cases digit?_of_values? hds hmem (by decide)
  · obtain ⟨ds, hds, -⟩ := Option.map_eq_some_iff.mp h
    have hmem := List.mem_of_ne_of_mem (by decide) (List.mem_of_ne_of_mem (by decide) hpoint)
    cases digit?_of_values? hds hmem (by decide)
  · obtain ⟨ds, hds, -⟩ := Option.map_eq_some_iff.mp h
    cases digit?_of_values? hds hpoint (by decide)

/-- A run of decimal digits is an integer of the same value. -/
theorem integer?_of_decNat? (h : Text.decNat? cs = some n) :
    integer? (String.ofList cs) = some n := by
  obtain ⟨-, ds, hds, hn⟩ := Text.decNat?_eq_some_iff.mp h
  have hdigits := Text.exists_mapM_iff.mp ⟨ds, hds⟩
  have htrim : Text.trim (String.ofList cs) = String.ofList cs :=
    Text.trim_ofList fun c hc => Text.isBlank_of_isDecDigit (hdigits c hc)
  rw [integer?, htrim, String.toList_ofList]
  unfold number?
  split
  · cases hdigits 'x' (by simp)
  · cases hdigits 'X' (by simp)
  · rw [values?_of_mapM rfl hds, Option.map_some, hn]

end Amount

namespace Token

variable {text column : String} {n : Nat} {u : U256} {r : TokenRow} {t : Token}
  {before behind : List Char}

/-- Decimal digits stand on both sides of a point, at least one on each. -/
def IsDecimal (before behind : List Char) : Prop :=
  before ≠ [] ∧ behind ≠ [] ∧ ∀ c ∈ before ++ behind, Text.isDecDigit c = true

/-- A text is an unsigned number with a whole part: an integer as nodes write them, or a decimal
with one point. -/
def IsNumber (text : String) (whole : Nat) : Prop :=
  Amount.integer? text = some whole ∨
    ∃ before behind, text.toList = before ++ '.' :: behind ∧ IsDecimal before behind ∧
      Text.decNat? before = some whole

/-- A supply column stands for a number of units: for none when it is blank, else for the whole part
of its number. -/
def IsSupply (column : String) (supply : U256) : Prop :=
  (Text.trim column = "" ∧ supply = U256.zero) ∨
    (Text.trim column ≠ "" ∧ IsNumber (Text.trim column) supply.toNat)

/-- A row is a token: it names a chain and an address, its supply is a number, and the texts are
taken trimmed. -/
structure IsDecoded (r : TokenRow) (t : Token) : Prop where
  chainName : t.chainName = Text.trim r.chainName ∧ t.chainName ≠ ""
  address : t.address = Text.trim r.tokenAddress ∧ t.address ≠ ""
  name : t.name = Text.trim r.tokenName
  fullName : t.fullName = Text.trim r.fullName
  icon : t.icon = Text.nonEmpty? (Text.trim r.icon)
  decimals : t.decimals = r.decimals
  supply : IsSupply r.totalSupply t.totalSupply
  hasFreezeAuthority : t.hasFreezeAuthority = false

/-- An integer stands in front of the first point of a text, and the text is no decimal. -/
def IsMisread (text : String) (n : Nat) : Prop :=
  ∃ before behind, text.toList = before ++ '.' :: behind ∧ '.' ∉ before ∧
    ¬ IsDecimal before behind ∧
    Amount.integer? (String.ofList before) = some n

/-! ## Supplies -/

theorem takeWhile_point (h : '.' ∉ before) :
    (before ++ '.' :: behind).takeWhile (· != '.') = before := by
  rw [List.takeWhile_append_of_pos, List.takeWhile_cons_of_neg (by decide), List.append_nil]
  intro c hc
  rw [bne_iff_ne]
  rintro rfl
  exact h hc

theorem IsDecimal.not_mem (h : IsDecimal before behind) : '.' ∉ before := by
  intro hpoint
  cases h.2.2 '.' (List.mem_append_left _ hpoint)

theorem IsDecimal.exists_decNat? (h : IsDecimal before behind) :
    ∃ n, Text.decNat? before = some n := by
  obtain ⟨ds, hds⟩ := Text.exists_mapM_iff.mpr fun c hc => h.2.2 c (List.mem_append_left _ hc)
  exact ⟨_, Text.decNat?_eq_some_iff.mpr ⟨h.1, ds, hds, rfl⟩⟩

/-- There is one first point. -/
theorem eq_of_point {before' behind' : List Char}
    (h : before ++ '.' :: behind = before' ++ '.' :: behind')
    (hbefore : '.' ∉ before) (hbefore' : '.' ∉ before') : before = before' ∧ behind = behind' := by
  have hfront : before = before' :=
    (takeWhile_point hbefore).symm.trans ((congrArg _ h).trans (takeWhile_point hbefore'))
  subst hfront
  exact ⟨rfl, (List.cons.inj (List.append_cancel_left h)).2⟩

theorem not_isNumber_of_isMisread {m : Nat} (htrim : Text.trim text = text) (h : IsMisread text n) :
    ¬ IsNumber text m := by
  obtain ⟨before, behind, hsplit, hbefore, hdecimal, -⟩ := h
  rintro (hinteger | ⟨before', behind', hsplit', hdecimal', -⟩)
  · rw [Amount.integer?, htrim, hsplit] at hinteger
    exact Amount.not_mem_of_number? hinteger (by simp)
  · obtain ⟨rfl, rfl⟩ := eq_of_point (hsplit.symm.trans hsplit') hbefore hdecimal'.not_mem
    exact hdecimal hdecimal'

/-- What stands in front of the first point of a text is an integer when the text is a number, or
misread. -/
theorem integer?_takeWhile_iff (htrim : Text.trim text = text) :
    Amount.integer? (String.ofList (text.toList.takeWhile (· != '.'))) = some n ↔
      IsNumber text n ∨ IsMisread text n := by
  -- With a point the text is a decimal or misread, and without one all of it stands in front.
  by_cases hpoint : '.' ∈ text.toList
  · obtain ⟨before, behind, hsplit, hbefore⟩ := List.eq_append_cons_of_mem hpoint
    rw [hsplit, takeWhile_point hbefore]
    constructor
    · intro hn
      by_cases hdecimal : IsDecimal before behind
      · obtain ⟨m, hm⟩ := hdecimal.exists_decNat?
        rw [Amount.integer?_of_decNat? hm] at hn
        cases hn
        exact .inl (.inr ⟨before, behind, hsplit, hdecimal, hm⟩)
      · exact .inr ⟨before, behind, hsplit, hbefore, hdecimal, hn⟩
    · rintro ((hinteger | ⟨before', behind', hsplit', hdecimal', hn⟩) |
        ⟨before', behind', hsplit', hbefore', -, hn⟩)
      · rw [Amount.integer?, htrim] at hinteger
        exact absurd hpoint (Amount.not_mem_of_number? hinteger)
      · obtain ⟨rfl, rfl⟩ := eq_of_point (hsplit.symm.trans hsplit') hbefore hdecimal'.not_mem
        exact Amount.integer?_of_decNat? hn
      · obtain ⟨rfl, rfl⟩ := eq_of_point (hsplit.symm.trans hsplit') hbefore hbefore'
        exact hn
  · have hwhole : text.toList.takeWhile (· != '.') = text.toList := by
      refine List.takeWhile_eq_self_iff.mpr fun c hc => ?_
      rw [bne_iff_ne]
      rintro rfl
      exact hpoint hc
    rw [hwhole, String.ofList_toList]
    refine ⟨fun hn => .inl (.inl hn), ?_⟩
    rintro ((hinteger | ⟨before, behind, hsplit, -, -⟩) | ⟨before, behind, hsplit, -, -, -⟩)
    · exact hinteger
    · exact absurd (hsplit ▸ List.mem_append_right before List.mem_cons_self) hpoint
    · exact absurd (hsplit ▸ List.mem_append_right before List.mem_cons_self) hpoint

/-- A supply is read where it is a number, and where it is misread. -/
theorem supplyOf_eq_ok_iff :
    supplyOf column = .ok u ↔ IsSupply column u ∨ IsMisread (Text.trim column) u.toNat := by
  unfold supplyOf IsSupply
  by_cases hempty : Text.trim column = ""
  · have hmisread : ¬ IsMisread (Text.trim column) u.toNat := by
      rintro ⟨before, behind, hsplit, -⟩
      rw [hempty] at hsplit
      simp at hsplit
    rw [if_pos (String.isEmpty_iff.mpr hempty), Except.ok.injEq]
    constructor
    · exact fun hu => .inl (.inl ⟨hempty, hu.symm⟩)
    · rintro ((⟨-, hu⟩ | ⟨hne, -⟩) | h)
      · exact hu.symm
      · exact absurd hempty hne
      · exact absurd h hmisread
  · rw [if_neg (by simpa using hempty), Amount.parseInteger_eq_ok_iff,
      integer?_takeWhile_iff (Text.trim_trim column)]
    simp only [hempty, false_and, ne_eq, not_false_eq_true, true_and, false_or]

/-! ## Rows -/

/-- The token of a row with a supply. -/
def withSupply (r : TokenRow) (supply : U256) : Token :=
  ⟨Text.trim r.chainName, Text.trim r.tokenAddress, Text.trim r.tokenName, r.decimals,
    Text.trim r.fullName, supply,
    Text.nonEmpty? (Text.trim r.icon), false⟩

theorem isDecoded_iff : IsDecoded r t ↔ Text.trim r.chainName ≠ "" ∧ Text.trim r.tokenAddress ≠ "" ∧
    IsSupply r.totalSupply t.totalSupply ∧ t = withSupply r t.totalSupply := by
  constructor
  · rintro ⟨⟨hchain, hchain'⟩, ⟨haddress, haddress'⟩, hname, hfullName, hicon, hdecimals,
      hsupply, hfreeze⟩
    refine ⟨hchain ▸ hchain', haddress ▸ haddress', hsupply, ?_⟩
    rw [withSupply, ← hchain, ← haddress, ← hname, ← hdecimals, ← hfullName, ← hicon, ← hfreeze]
  · rintro ⟨hchain, haddress, hsupply, ht⟩
    generalize t.totalSupply = u at hsupply ht
    subst ht
    refine ⟨⟨rfl, hchain⟩, ⟨rfl, haddress⟩, rfl, rfl, ?_, rfl, hsupply, rfl⟩
    simp only [withSupply]

theorem ofRow_eq_ok_iff : ofRow r = .ok t ↔
    Text.trim r.chainName ≠ "" ∧ Text.trim r.tokenAddress ≠ "" ∧
    supplyOf r.totalSupply = .ok t.totalSupply ∧ t = withSupply r t.totalSupply := by
  unfold ofRow
  dsimp only
  by_cases hchain : Text.trim r.chainName = ""
  · simp [hchain]
  by_cases haddress : Text.trim r.tokenAddress = ""
  · simp [hchain, haddress]
  rw [if_neg (by simpa using hchain), if_neg (by simpa using haddress)]
  cases supplyOf r.totalSupply with
  | error e => simp
  | ok supply =>
    simp only [Except.ok.injEq]
    constructor
    · rintro rfl
      exact ⟨hchain, haddress, rfl, rfl⟩
    · rintro ⟨-, -, rfl, ht⟩
      exact ht.symm

/-- A row with a misread supply is read, and it is no token. -/
theorem not_isDecoded_of_isMisread (hchain : Text.trim r.chainName ≠ "")
    (haddress : Text.trim r.tokenAddress ≠ "")
    (hmisread : IsMisread (Text.trim r.totalSupply) u.toNat) :
    ofRow r = .ok (withSupply r u) ∧ ¬ IsDecoded r (withSupply r u) := by
  refine ⟨ofRow_eq_ok_iff.mpr ⟨hchain, haddress, supplyOf_eq_ok_iff.mpr (.inr hmisread), rfl⟩,
    fun hdecoded => ?_⟩
  rcases hdecoded.supply with ⟨hempty, -⟩ | ⟨-, hnumber⟩
  · obtain ⟨before, behind, hsplit, -⟩ := hmisread
    rw [hempty] at hsplit
    simp at hsplit
  · exact not_isNumber_of_isMisread (Text.trim_trim _) hmisread hnumber

/-- A row is the token that it is read as, exactly when no supply of it is misread. -/
theorem ofRow_isDecoded_iff (r : TokenRow) : (∀ t, ofRow r = .ok t ↔ IsDecoded r t) ↔
    ¬ (Text.trim r.chainName ≠ "" ∧ Text.trim r.tokenAddress ≠ "" ∧
      ∃ supply : U256, IsMisread (Text.trim r.totalSupply) supply.toNat) := by
  constructor
  · rintro hall ⟨hchain, haddress, supply, hmisread⟩
    obtain ⟨hread, hnot⟩ := not_isDecoded_of_isMisread hchain haddress hmisread
    exact hnot ((hall _).mp hread)
  · intro hnone t
    rw [ofRow_eq_ok_iff, isDecoded_iff, supplyOf_eq_ok_iff]
    refine and_congr_right fun hchain => and_congr_right fun haddress => and_congr_left fun _ => ?_
    exact or_iff_left fun hmisread => hnone ⟨hchain, haddress, _, hmisread⟩

/-- A row with a word behind the point of its supply is a token with the number in front of it. -/
theorem not_ofRow_isDecoded : ¬ ∀ (r : TokenRow) (t : Token), ofRow r = .ok t ↔ IsDecoded r t := by
  let r : TokenRow := ⟨"BAD", "Ethereum", "0xabc", 18, "", "1.lots", ""⟩
  have hmisread : IsMisread (Text.trim r.totalSupply) (⟨1, by decide⟩ : U256).toNat := by
    refine ⟨['1'], "lots".toList, by decide, by decide, fun hdecimal => ?_, by decide⟩
    cases hdecimal.2.2 'l' (by decide)
  obtain ⟨hread, hnot⟩ := not_isDecoded_of_isMisread (r := r) (by decide) (by decide) hmisread
  exact fun hall => hnot ((hall _ _).mp hread)

end Token

end CrossChain
