import CrossChain.Node.Solana
import CrossChain.Proofs.Except
import CrossChain.Proofs.Text.Utf8

/-!
# What account data say

Extensions stand one behind another, each with the octets of its kind and of its length; metadata
are texts with their lengths in front, behind a head of fixed length. The readers of account data
find exactly what is laid out that way: `extension?_eq_some_iff` for extensions, `text?_eq_some_iff`
for texts, `metadataBehind?_eq_some_iff` for metadata and `mintMetadata?_eq_some_iff` for those of a
mint. Of an account that is refused, the message is that of a text in it which is not read
(`exists_unread_text`), and it says that the text is cut off or where it is no text
(`textFault_cases`).

Main statement (`isSource_iff`): the names of a token are those of the first complete metadata
extension of its mint, if they can be read, else those of its metadata account, else unknown
(`IsSource`).
-/

namespace CrossChain.Solana

/-! ## Extensions -/

/-- An extension as it is laid out: two octets of kind and two of length, the low one first, and as
many octets of value as they say. -/
structure Extension where
  (k₀ k₁ l₀ l₁ : UInt8)
  value : List UInt8
  complete : value.length = littleEndian [l₀, l₁]

namespace Extension

def kind (e : Extension) : Nat := littleEndian [e.k₀, e.k₁]

def octets (e : Extension) : List UInt8 := e.k₀ :: e.k₁ :: e.l₀ :: e.l₁ :: e.value

end Extension

variable {kind skipped : Nat} {data rest value mint : List UInt8} {s : String} {m names : Metadata}

/-- The value of the first extension of a kind, where all extensions in front of it are complete. -/
def IsFirst (kind : Nat) (data value : List UInt8) : Prop :=
  ∃ (before : List Extension) (e : Extension) (tail : List UInt8),
    data = before.flatMap Extension.octets ++ (e.octets ++ tail) ∧
      (∀ x ∈ before, x.kind ≠ kind) ∧ e.kind = kind ∧ e.value = value

theorem extension?_octets_append (e : Extension) (tail : List UInt8) :
    extension? kind (e.octets ++ tail) =
      if e.kind = kind then some e.value else extension? kind tail := by
  have hfits : e.value.length ≤ (e.value ++ tail).length := by simp
  have htake : (e.value ++ tail).take e.value.length = e.value := List.take_left' rfl
  have hdrop : (e.value ++ tail).drop e.value.length = tail := List.drop_left' rfl
  have hdata : e.octets ++ tail = e.k₀ :: e.k₁ :: e.l₀ :: e.l₁ :: (e.value ++ tail) := rfl
  rw [hdata, extension?, ← e.complete, htake, hdrop]
  exact ite_congr (propext (and_iff_left hfits)) (fun _ => rfl) fun _ => rfl

theorem extension?_nil : extension? kind [] = none := by
  rw [extension?]
  simp

theorem extension?_eq_some_iff : extension? kind data = some value ↔ IsFirst kind data value := by
  constructor
  · intro h
    induction data using extension?.induct kind with
    | case1 k₀ k₁ l₀ l₁ rest length hfound =>
      rw [extension?, if_pos hfound, Option.some_inj] at h
      have hcomplete : (rest.take length).length = length := by
        rw [List.length_take, Nat.min_eq_left hfound.2]
      refine ⟨[], ⟨k₀, k₁, l₀, l₁, rest.take length, hcomplete⟩, rest.drop length, ?_,
        by simp, hfound.1, h⟩
      exact congrArg (k₀ :: k₁ :: l₀ :: l₁ :: ·) (List.take_append_drop length rest).symm
    | case2 k₀ k₁ l₀ l₁ rest length hother ih =>
      rw [extension?, if_neg hother] at h
      -- An extension that is cut off leaves nothing behind it to be found.
      have hfits : length ≤ rest.length := by
        refine Nat.le_of_not_lt fun hshort => ?_
        rw [List.drop_eq_nil_of_le (Nat.le_of_lt hshort), extension?_nil] at h
        cases h
      have hcomplete : (rest.take length).length = length := by
        rw [List.length_take, Nat.min_eq_left hfits]
      have hkind : littleEndian [k₀, k₁] ≠ kind := fun hk => hother ⟨hk, hfits⟩
      obtain ⟨before, e, tail, hdata, hbefore, he, hvalue⟩ := ih h
      refine ⟨⟨k₀, k₁, l₀, l₁, rest.take length, hcomplete⟩ :: before, e, tail, ?_, ?_, he, hvalue⟩
      · rw [List.flatMap_cons, List.append_assoc, ← hdata]
        exact congrArg (k₀ :: k₁ :: l₀ :: l₁ :: ·) (List.take_append_drop length rest).symm
      · exact List.forall_mem_cons.mpr ⟨hkind, hbefore⟩
    | case3 data hshort =>
      rw [extension?] at h
      · cases h
      · exact hshort
  · rintro ⟨before, e, tail, rfl, hbefore, hkind, rfl⟩
    induction before with
    | nil => rw [List.flatMap_nil, List.nil_append, extension?_octets_append, if_pos hkind]
    | cons x before ih =>
      obtain ⟨hx, hbefore⟩ := List.forall_mem_cons.mp hbefore
      rw [List.flatMap_cons, List.append_assoc, extension?_octets_append, if_neg hx, ih hbefore]

theorem not_isFirst_nil : ¬ IsFirst kind [] value := by
  rw [← extension?_eq_some_iff, extension?_nil]
  simp

/-! ## Metadata -/

/-- Octets write a text: its length in four octets, the low one first, and then the octets that
encode it. -/
def Writes (s : String) (octets : List UInt8) : Prop :=
  ∃ length body, octets = length ++ body ∧ length.length = 4 ∧ littleEndian length = body.length ∧
    Text.decode? body = some s

/-- Metadata stand behind a head of a fixed length: the name, the symbol and a link. Anything may
follow them. -/
def IsMetadata (skipped : Nat) (data : List UInt8) (m : Metadata) : Prop :=
  ∃ head name symbol link tail uri, data = head ++ (name ++ (symbol ++ (link ++ tail))) ∧
    head.length = skipped ∧
    Writes m.name name ∧ Writes m.symbol symbol ∧ Writes uri link

theorem text?_eq_some_iff : text? data = some (s, rest) ↔
    ∃ octets, data = octets ++ rest ∧ Writes s octets := by
  unfold text?
  dsimp only
  constructor
  · intro h
    split at h
    · cases h
    next hlong =>
    split at h
    · cases h
    next hfits =>
    obtain ⟨s, hs, h⟩ := Option.map_eq_some_iff.mp h
    cases h
    have hsplit := List.take_append_drop (numberAt data 0 4) (data.drop 4)
    refine ⟨data.take 4 ++ (data.drop 4).take (numberAt data 0 4), ?_, data.take 4, _,
      rfl, ?_, ?_, hs⟩
    · rw [List.append_assoc, hsplit, List.take_append_drop]
    · rw [List.length_take]
      omega
    · rw [List.length_take, Nat.min_eq_left (by omega)]
      rfl
  · rintro ⟨_, rfl, length, body, rfl, hlength, hbody, hs⟩
    have hnumber : numberAt (length ++ body ++ rest) 0 4 = body.length := by
      rw [numberAt, List.drop_zero, List.append_assoc, List.take_left' hlength, hbody]
    have hdrop : (length ++ body ++ rest).drop 4 = body ++ rest := by
      rw [List.append_assoc, List.drop_left' hlength]
    rw [if_neg (by simp only [List.length_append]; omega), hnumber, hdrop, List.take_left' rfl, hs,
      List.drop_left' rfl]
    simp

theorem metadataBehind?_eq_some_iff : metadataBehind? skipped data = some m ↔
    IsMetadata skipped data m := by
  unfold metadataBehind?
  constructor
  · intro h
    split at h
    · cases h
    next hlong =>
    obtain ⟨⟨name, data₁⟩, hname, h⟩ := Option.bind_eq_some_iff.mp h
    obtain ⟨⟨symbol, data₂⟩, hsymbol, h⟩ := Option.bind_eq_some_iff.mp h
    obtain ⟨⟨uri, tail⟩, hlink, h⟩ := Option.bind_eq_some_iff.mp h
    cases h
    obtain ⟨nameOctets, hdata, hname'⟩ := text?_eq_some_iff.mp hname
    obtain ⟨symbolOctets, rfl, hsymbol'⟩ := text?_eq_some_iff.mp hsymbol
    obtain ⟨linkOctets, rfl, hlink'⟩ := text?_eq_some_iff.mp hlink
    refine ⟨data.take skipped, nameOctets, symbolOctets, linkOctets, tail, uri, ?_, ?_, hname',
      hsymbol', hlink'⟩
    · rw [← hdata, List.take_append_drop]
    · rw [List.length_take]
      omega
  · rintro ⟨head, name, symbol, link, tail, uri, rfl, hhead, hname, hsymbol, hlink⟩
    rw [if_neg (by simp only [List.length_append]; omega), List.drop_left' hhead,
      text?_eq_some_iff.mpr ⟨name, rfl, hname⟩]
    dsimp only [Option.bind_eq_bind, Option.bind_some]
    rw [text?_eq_some_iff.mpr ⟨symbol, rfl, hsymbol⟩]
    dsimp only [Option.bind_some]
    rw [text?_eq_some_iff.mpr ⟨link, rfl, hlink⟩]
    rfl

/-- The metadata of a mint are those of its first complete extension for them. -/
theorem mintMetadata?_eq_some_iff : mintMetadata? mint = some m ↔
    ∃ value, IsFirst metadataExtension (mint.drop extensionsOffset) value ∧
    IsMetadata 64 value m := by
  unfold mintMetadata?
  split
  · next hshort =>
    rw [List.drop_eq_nil_of_le hshort]
    simp [not_isFirst_nil]
  · simp only [Option.bind_eq_some_iff, extension?_eq_some_iff, extensionMetadata?,
      metadataBehind?_eq_some_iff]

/-! ## Faults -/

/-- A text that is not read is cut off, or its octets have a fault, which is told. -/
theorem textFault_cases (h : text? data = none) : textFault data = "Unexpected length of input" ∨
    ∃ fault, Text.fault? 0 ((data.drop 4).take (numberAt data 0 4)) = some fault ∧
      textFault data = fault.message := by
  simp only [textFault]
  split
  · exact .inl rfl
  · next hlong =>
    refine .inr ?_
    have hfits : ¬ (data.drop 4).length < numberAt data 0 4 := by
      rw [List.length_drop]
      omega
    rw [text?, if_neg (by omega)] at h
    simp only [if_neg hfits, Option.map_eq_none_iff] at h
    obtain ⟨fault, hfault⟩ := Option.isSome_iff_exists.mp ((Text.isSome_fault?_iff 0 _).mpr h)
    exact ⟨fault, hfault, by rw [hfault]; rfl⟩

theorem text?_suffix (h : text? data = some (s, rest)) : rest <:+ data := by
  obtain ⟨octets, rfl, -⟩ := text?_eq_some_iff.mp h
  exact List.suffix_append octets rest

/-- Metadata that are not read have a text that is not read, and the fault is that of this text. -/
theorem exists_unread_text (h : accountMetadata? data = none) : ∃ unread, unread <:+ data ∧
    text? unread = none ∧ accountMetadataFault data = textFault unread := by
  have hname : data.drop 65 <:+ data := List.drop_suffix 65 data
  simp only [accountMetadata?, metadataBehind?] at h
  unfold accountMetadataFault
  cases hreadName : text? (data.drop 65) with
  | none => exact ⟨_, hname, hreadName, by simp only [hreadName]⟩
  | some name =>
    have hsymbol := (text?_suffix hreadName).trans hname
    cases hreadSymbol : text? name.2 with
    | none => exact ⟨_, hsymbol, hreadSymbol, by simp only [hreadName, hreadSymbol]⟩
    | some symbol =>
      have hlink := (text?_suffix hreadSymbol).trans hsymbol
      refine ⟨_, hlink, ?_, by simp only [hreadName, hreadSymbol]⟩
      split at h
      -- An account that ends within the head has no name, so this case is the first one again.
      · next hshort =>
        rw [List.drop_eq_nil_of_le (Nat.le_of_lt hshort)] at hreadName
        cases hreadName
      · rw [Option.eq_none_iff_forall_ne_some]
        simpa [hreadName, hreadSymbol] using h

/-! ## Names -/

/-- Where the names of a token are from: the extension of the mint, or else the metadata account, or
else nowhere. -/
inductive IsSource (account : Option (List UInt8)) (mint : List UInt8) : Metadata → Prop where
  | extension {value : List UInt8} {m : Metadata}
    (hfirst : IsFirst metadataExtension (mint.drop extensionsOffset) value)
      (hm : IsMetadata 64 value m) :
    IsSource account mint m
  | account {data : List UInt8} {m : Metadata}
    (hnone : ∀ value m, IsFirst metadataExtension (mint.drop extensionsOffset) value →
      ¬ IsMetadata 64 value m)
    (haccount : account = some data) (hm : IsMetadata 65 data m) : IsSource account mint m
  | unknown
    (hnone : ∀ value m, IsFirst metadataExtension (mint.drop extensionsOffset) value →
      ¬ IsMetadata 64 value m)
    (haccount : account = none) : IsSource account mint ⟨unknownName, unknownName⟩

theorem accountNames_eq_ok_iff {account : Option (List UInt8)} : accountNames account = .ok names ↔
    (∃ data, account = some data ∧ IsMetadata 65 data names) ∨
      account = none ∧ names = ⟨unknownName, unknownName⟩ := by
  unfold accountNames
  cases account with
  | none => simp [eq_comm]
  | some data =>
    simp only [Option.some.injEq, exists_eq_left', reduceCtorEq, false_and, or_false,
      ← metadataBehind?_eq_some_iff, accountMetadata?]
    cases metadataBehind? 65 data <;> simp

/-- A query takes the names of a token from their only source. -/
theorem isSource_iff {account : Option (List UInt8)} (h : accountNames account = .ok names) :
    IsSource account mint m ↔ m = (mintMetadata? mint).getD names := by
  have hnone : mintMetadata? mint = none ↔
      ∀ value m, IsFirst metadataExtension (mint.drop extensionsOffset) value →
        ¬ IsMetadata 64 value m := by
    rw [Option.eq_none_iff_forall_ne_some]
    simp only [ne_eq, mintMetadata?_eq_some_iff, not_exists, not_and]
    exact forall_comm
  constructor
  · intro hsource
    cases hsource with
    | extension hfirst hm => rw [mintMetadata?_eq_some_iff.mpr ⟨_, hfirst, hm⟩, Option.getD_some]
    | account hno haccount hm =>
      rw [hnone.mpr hno, Option.getD_none]
      exact Except.ok.inj ((accountNames_eq_ok_iff.mpr (.inl ⟨_, haccount, hm⟩)).symm.trans h)
    | unknown hno haccount =>
      rw [hnone.mpr hno, Option.getD_none]
      exact Except.ok.inj ((accountNames_eq_ok_iff.mpr (.inr ⟨haccount, rfl⟩)).symm.trans h)
  · rintro rfl
    cases hmint : mintMetadata? mint with
    | some m =>
      obtain ⟨value, hfirst, hm⟩ := mintMetadata?_eq_some_iff.mp hmint
      exact .extension hfirst hm
    | none =>
      rcases accountNames_eq_ok_iff.mp h with ⟨data, haccount, hm⟩ | ⟨haccount, rfl⟩
      · exact .account (hnone.mp hmint) haccount hm
      · exact .unknown (hnone.mp hmint) haccount

end CrossChain.Solana
