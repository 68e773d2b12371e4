import CrossChain.Proofs.Except
import CrossChain.Proofs.Token.Index
import CrossChain.Trial.Record

/-!
# Tokens that are added at run time

An addition enters a token under its texts as they are, while the lookups trim the texts that they
are given. Behind other tokens a token is found by its own key only (`latest_append_cons_eq_iff`),
so that the other lookups answer as without it (`agreeApartFrom_ofTokens`). A registry serves
nothing that is not listed (`Mirrors.mem_of_serves`), and behind a load nothing that neither a row
nor a chain provides (`isProvided_of_serves_build`).

Main statement (`addition_shows_iff`): however the registry came about, a token that is added is
found by its own texts exactly when they have no white space around them. All other lookups answer
as without it, and so it stays, whatever else is added and whatever reloads fail, until rows are
read again: then the registry is what it would be without it.
-/

namespace CrossChain.TokenIndex

/-- Rows are read; a reload that fails changes nothing. -/
def Event.isLoad : Event → Bool
  | .reload _ (.ok _) => true
  | _ => false

def Event.added? : Event → Option Token
  | .reload _ _ => none
  | .add t => some t
  | .addBare chain name address decimals =>
    some (Token.bare (Text.trim chain) (Text.trim address) (Text.trim name) decimals)

/-- A token is found by its own texts, or what has been added under the same key after it. -/
structure Shows (x : TokenIndex) (t : Token) (later : List Token) : Prop where
  byAddress : x.withAddress? t.chainName t.address =
    latest Token.addressKey (t :: later) t.addressKey
  byName : x.withName? t.chainName t.name = latest Token.nameKey (t :: later) t.nameKey

/-- The lookups that a token has nothing to do with, as their chain or their other text is another,
answer alike. -/
structure AgreeApartFrom (t : Token) (x y : TokenIndex) : Prop where
  withAddress? : ∀ chain address, Text.folded chain ≠ Text.folded t.chainName ∨
    Text.folded address ≠ Text.folded t.address →
      x.withAddress? chain address = y.withAddress? chain address
  withName? : ∀ chain name, Text.folded chain ≠ Text.folded t.chainName ∨
    Text.folded name ≠ Text.folded t.name → x.withName? chain name = y.withName? chain name
  addresses : ∀ chain, Text.folded chain ≠ Text.folded t.chainName →
    x.addresses chain = y.addresses chain

/-- A token is listed, or it is found by some address or by some symbol. -/
def Serves (x : TokenIndex) (t : Token) : Prop :=
  t ∈ x.all ∨ (∃ chain address, x.withAddress? chain address = some t) ∨
    ∃ chain name, x.withName? chain name = some t

/-- A token is that of a row that can be decoded, or the coin of a chain. -/
def IsProvided (chains : List Chain) (rows : List TokenRow) (t : Token) : Prop :=
  (∃ r ∈ rows, decode r = .ok t) ∨ ∃ c ∈ chains, t = Token.native c

/-! ## Runs without loads -/

theorem enter_of_not_isLoad {event : Event} (h : event.isLoad = false) (tokens : List Token) :
    enter tokens event = tokens ++ event.added?.toList := by
  cases event with
  | add t => rfl
  | addBare chain name address decimals => rfl
  | reload chains rows =>
    cases rows with
    | error e => exact (List.append_nil tokens).symm
    | ok rows => cases h

theorem entered_append (before : List Event) {later : List Event}
    (h : ∀ e ∈ later, e.isLoad = false) :
    entered (before ++ later) = entered before ++ later.filterMap Event.added? := by
  rw [entered, List.foldl_append, ← entered]
  generalize entered before = tokens
  induction later generalizing tokens with
  | nil => exact (List.append_nil tokens).symm
  | cons event rest ih =>
    obtain ⟨hevent, hrest⟩ := List.forall_mem_cons.mp h
    rw [List.foldl_cons, ih hrest, enter_of_not_isLoad hevent, List.append_assoc]
    cases hadded : event.added? <;> simp [hadded]

/-! ## Lists with one token more -/

section

variable {key : Token → String × String} {l m : List Token} {t : Token} {k : String × String}

theorem latest_append_cons :
    latest key (l ++ t :: m) k = (latest key (t :: m) k).or (latest key l k) := by
  simp only [latest, List.reverse_append, List.find?_append]

theorem latest_append_cons_of_ne (h : key t ≠ k) :
    latest key (l ++ t :: m) k = latest key (l ++ m) k := by
  simp [latest, h]

/-- Behind other tokens a token is found by its own key only. -/
theorem latest_append_cons_eq_iff :
    latest key (l ++ t :: m) k = latest key (t :: m) (key t) ↔ k = key t := by
  have hsome : (latest key (t :: m) (key t)).isSome := by simp [isSome_latest]
  obtain ⟨u, hu⟩ := Option.isSome_iff_exists.mp hsome
  have hkey : key u = key t := by simpa using List.find?_some hu
  rw [hu]
  constructor
  · intro hk
    have hkey' : key u = k := by simpa using List.find?_some hk
    rw [← hkey', hkey]
  · rintro rfl
    rw [latest_append_cons, hu, Option.some_or]

end

section

variable {l m : List Token} {t : Token}

theorem shows_ofTokens_iff : (ofTokens (l ++ t :: m)).Shows t m ↔
    Text.trim t.chainName = t.chainName ∧ Text.trim t.address = t.address ∧
    Text.trim t.name = t.name := by
  have haddress : (ofTokens (l ++ t :: m)).withAddress? t.chainName t.address =
      latest Token.addressKey (t :: m) t.addressKey ↔
        Text.trim t.chainName = t.chainName ∧ Text.trim t.address = t.address := by
    rw [(mirrors_ofTokens _).withAddress?, all_ofTokens, latest_append_cons_eq_iff,
      Token.addressKey, Prod.mk.injEq, Text.folded_eq_lower_iff, Text.folded_eq_lower_iff]
  have hname : (ofTokens (l ++ t :: m)).withName? t.chainName t.name =
      latest Token.nameKey (t :: m) t.nameKey ↔
        Text.trim t.chainName = t.chainName ∧ Text.trim t.name = t.name := by
    rw [(mirrors_ofTokens _).withName?, all_ofTokens, latest_append_cons_eq_iff, Token.nameKey,
      Prod.mk.injEq, Text.folded_eq_lower_iff, Text.folded_eq_lower_iff]
  constructor
  · rintro ⟨hbyAddress, hbyName⟩
    exact ⟨(haddress.mp hbyAddress).1, (haddress.mp hbyAddress).2, (hname.mp hbyName).2⟩
  · rintro ⟨hchain, haddress', hname'⟩
    exact ⟨haddress.mpr ⟨hchain, haddress'⟩, hname.mpr ⟨hchain, hname'⟩⟩

/-- A text that is not looked up like another does not find what stands under the other as it is. -/
theorem key_ne {a b a' b' : String}
    (h : Text.folded a ≠ Text.folded a' ∨ Text.folded b ≠ Text.folded b') :
    (Text.lower a', Text.lower b') ≠ (Text.folded a, Text.folded b) := by
  rw [Ne, Prod.mk.injEq]
  rintro ⟨ha, hb⟩
  rcases h with h | h
  · exact h (Text.folded_eq_of_lower_eq ha).symm
  · exact h (Text.folded_eq_of_lower_eq hb).symm

theorem agreeApartFrom_ofTokens (l m : List Token) (t : Token) :
    AgreeApartFrom t (ofTokens (l ++ t :: m)) (ofTokens (l ++ m)) where
  withAddress? chain address h := by
    rw [(mirrors_ofTokens _).withAddress?, (mirrors_ofTokens _).withAddress?, all_ofTokens,
      all_ofTokens, latest_append_cons_of_ne (key_ne h)]
  withName? chain name h := by
    rw [(mirrors_ofTokens _).withName?, (mirrors_ofTokens _).withName?, all_ofTokens, all_ofTokens,
      latest_append_cons_of_ne (key_ne h)]
  addresses chain h := by
    have hne : Text.lower t.chainName ≠ Text.folded chain :=
      fun heq => h (Text.folded_eq_of_lower_eq heq).symm
    simp only [addresses, ofTokens_eq, Lookup.find?_nested]
    simp [hne]

end

/-! ## Loads -/

theorem mem_foldl_enterCoin {chains : List Chain} {tokens : List Token} {t : Token}
    (h : t ∈ chains.foldl enterCoin tokens) : t ∈ tokens ∨ ∃ c ∈ chains, t = Token.native c := by
  induction chains generalizing tokens with
  | nil => exact .inl h
  | cons c rest ih =>
    rcases ih h with h | ⟨c', hc', ht⟩
    · rw [enterCoin] at h
      split at h
      · exact .inl h
      · rcases List.mem_append.mp h with h | h
        · exact .inl h
        · exact .inr ⟨c, List.mem_cons_self, List.mem_singleton.mp h⟩
    · exact .inr ⟨c', List.mem_cons_of_mem c hc', ht⟩

theorem Mirrors.mem_of_serves {x : TokenIndex} (hx : x.Mirrors) {t : Token} (h : x.Serves t) :
    t ∈ x.all := by
  rcases h with h | ⟨chain, address, h⟩ | ⟨chain, name, h⟩
  · exact h
  · rw [hx.withAddress?] at h
    exact List.mem_reverse.mp (List.mem_of_find?_eq_some h)
  · rw [hx.withName?] at h
    exact List.mem_reverse.mp (List.mem_of_find?_eq_some h)

theorem isProvided_of_serves_build {chains : List Chain} {rows : List TokenRow} {t : Token}
    (h : (build chains (Reload.decodeRows decode rows).1).Serves t) : IsProvided chains rows t := by
  rw [build_eq_ofTokens] at h
  have hmem := (mirrors_ofTokens _).mem_of_serves h
  rw [all_ofTokens, Reload.decodeRows_fst] at hmem
  rcases mem_foldl_enterCoin hmem with hrow | hcoin
  · obtain ⟨r, hr, hdecode⟩ := List.mem_filterMap.mp hrow
    exact .inl ⟨r, hr, except_toOption_eq_some.mp hdecode⟩
  · exact .inr hcoin

/-! ## Additions -/

/-- A token that is added is shown exactly when its texts are trimmed, whatever came before the
addition and whatever comes after it except that rows are read. -/
theorem addition_shows_iff (before : List Event) (t : Token) {later : List Event}
    (hlater : ∀ e ∈ later, e.isLoad = false) :
    let live := run (before ++ .add t :: later)
    let without := run (before ++ later)
    (live.Shows t (later.filterMap Event.added?) ↔
      Text.trim t.chainName = t.chainName ∧ Text.trim t.address = t.address ∧
        Text.trim t.name = t.name) ∧
    AgreeApartFrom t live without ∧
    ∀ chains rows, live.next (.reload chains (.ok rows)) =
      without.next (.reload chains (.ok rows)) ∧
      ∀ u, (live.next (.reload chains (.ok rows))).Serves u → IsProvided chains rows u := by
  intro live without
  have hlive : live = ofTokens (entered before ++ t :: later.filterMap Event.added?) := by
    have hevents : ∀ e ∈ Event.add t :: later, e.isLoad = false :=
      List.forall_mem_cons.mpr ⟨rfl, hlater⟩
    rw [← List.filterMap_cons_some (f := Event.added?) (a := .add t) rfl,
      ← entered_append before hevents]
    exact run_eq_ofTokens _
  have hwithout : without = ofTokens (entered before ++ later.filterMap Event.added?) := by
    rw [← entered_append before hlater]
    exact run_eq_ofTokens _
  rw [hlive, hwithout]
  exact ⟨shows_ofTokens_iff, agreeApartFrom_ofTokens _ _ t,
    fun chains rows => ⟨rfl, fun u hu => isProvided_of_serves_build hu⟩⟩

/-- A token stays over a reload that fails and an addition to its chain, and is gone when rows are
read. -/
theorem addition_shows_sample :
    let t := Token.bare "Base" "0x4eD4" "DEGEN" 18
    let rows := [Trial.tokenRow "Base" "0x1" "USDC" 6]
    let before := [Event.reload [] (.ok rows)]
    let later := [Event.reload [] (.error (.database "down")), .addBare "base" "DEGEN2" "0x2" 18]
    let live := run (before ++ .add t :: later)
    (∀ e ∈ later, e.isLoad = false) ∧ live.Shows t (later.filterMap Event.added?) ∧
      live.withName? " BASE" "degen" = some t ∧ AgreeApartFrom t live (run (before ++ later)) ∧
      live.next (.reload [] (.ok rows)) = (run (before ++ later)).next (.reload [] (.ok rows)) ∧
      (∀ u, (live.next (.reload [] (.ok rows))).Serves u → IsProvided [] rows u) ∧
      (live.next (.reload [] (.ok rows))).withName? "Base" "DEGEN" = none := by
  intro t rows before later live
  have hlater : ∀ e ∈ later, e.isLoad = false :=
    List.forall_mem_cons.mpr ⟨rfl, List.forall_mem_cons.mpr ⟨rfl, List.forall_mem_nil _⟩⟩
  obtain ⟨hshows, hagree, hload⟩ := addition_shows_iff before t hlater
  obtain ⟨hsame, hserved⟩ := hload [] rows
  exact ⟨hlater, hshows.mpr (by decide +kernel), by decide +kernel, hagree, hsame, hserved,
    by decide +kernel⟩

/-- A token that is added with a blank in front of its symbol or behind its address is not found by
it. -/
theorem not_shows_untrimmed :
    let t := Token.bare "A" "0x1" " T" 6
    let u := Token.bare "A" "0x1 " "T" 6
    (run [.add t]).withName? t.chainName t.name = none ∧ ¬ (run [.add t]).Shows t [] ∧
      (run [.add u]).withAddress? u.chainName u.address = none ∧ ¬ (run [.add u]).Shows u [] := by
  have hname : (run [.add (Token.bare "A" "0x1" " T" 6)]).withName? "A" " T" = none := by
    decide +kernel
  have haddress : (run [.add (Token.bare "A" "0x1 " "T" 6)]).withAddress? "A" "0x1 " = none := by
    decide +kernel
  refine ⟨hname, fun h => ?_, haddress, fun h => ?_⟩
  · exact Option.some_ne_none _ (h.byName.symm.trans hname)
  · exact Option.some_ne_none _ (h.byAddress.symm.trans haddress)

end CrossChain.TokenIndex
