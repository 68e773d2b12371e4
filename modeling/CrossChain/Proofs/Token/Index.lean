import CrossChain.Proofs.Hub.Reload
import CrossChain.Proofs.Lookup
import CrossChain.Proofs.Text.LetterCase
import CrossChain.Token.Index

/-!
# The token registry over time

However reloads and additions follow each other, the registry lists what they have entered
(`run_eq_ofTokens`), and its lookups find what was entered last under a key (`Mirrors`,
`mirrors_run`): nothing is ever replaced in the list. A token that is found by its own texts is
trimmed (`Mirrors.trim_of_found`), as the lookups trim what they are given.

Main statement (`isConsistent_run_iff`): the tokens that are listed have keys of their own and are
found by their own texts exactly when no key is entered twice since the last reload and every text
is trimmed. A hub does nothing else to its registry (`Hub.exists_tokens_eq_run`).
-/

namespace CrossChain

/-- The chain and the address of a token, as they are looked up. -/
def Token.addressKey (t : Token) : String × String := (Text.lower t.chainName, Text.lower t.address)

/-- The chain and the symbol of a token, as they are looked up. -/
def Token.nameKey (t : Token) : String × String := (Text.lower t.chainName, Text.lower t.name)

namespace TokenIndex

/-! ## Lookups -/

def find? (m : Lookup String (Lookup String Token)) (key : String × String) : Option Token :=
  (m.find? key.1).bind (·.find? key.2)

/-- What is listed last under a key. -/
def latest (key : Token → String × String) (tokens : List Token) (k : String × String) :
    Option Token :=
  tokens.reverse.find? (key · = k)

theorem latest_append (key : Token → String × String) (tokens : List Token) (t : Token)
    (k : String × String) :
    latest key (tokens ++ [t]) k = if key t = k then some t else latest key tokens k := by
  rw [latest, List.reverse_append, List.reverse_singleton, List.singleton_append, List.find?_cons]
  by_cases h : key t = k
  · simp [h]
  · simp [h, latest]

theorem isSome_latest (key : Token → String × String) (tokens : List Token) (k : String × String) :
    (latest key tokens k).isSome = tokens.any (key · = k) := by
  rw [Bool.eq_iff_iff, latest, List.find?_isSome, List.any_eq_true]
  simp only [List.mem_reverse]

/-- Where no two tokens share a key, each is the last under its own. -/
theorem latest_of_pairwise {key : Token → String × String} {tokens : List Token} {t : Token}
    (h : tokens.Pairwise (key · ≠ key ·)) (ht : t ∈ tokens) : latest key tokens (key t) = some t :=
  find?_reverse_of_pairwise h ht

/-- Both views, by address and by symbol, find for every key what is listed last under it. -/
structure Mirrors (x : TokenIndex) : Prop where
  byAddress : ∀ k, find? x.byAddress k = latest Token.addressKey x.all k
  byName : ∀ k, find? x.byName k = latest Token.nameKey x.all k

variable {x : TokenIndex}

theorem Mirrors.withAddress? (h : x.Mirrors) (chain address : String) :
    x.withAddress? chain address =
    latest Token.addressKey x.all (Text.folded chain, Text.folded address) := by
  rw [← h.byAddress, TokenIndex.withAddress?, find?]

theorem Mirrors.withName? (h : x.Mirrors) (chain name : String) : x.withName? chain name =
    latest Token.nameKey x.all (Text.folded chain, Text.folded name) := by
  rw [← h.byName, TokenIndex.withName?, find?]

theorem Mirrors.hasName (h : x.Mirrors) (chain name : String) :
    x.hasName chain name = x.all.any (·.nameKey = (Text.lower chain, Text.lower name)) := by
  rw [← isSome_latest, ← h.byName, TokenIndex.hasName, find?]
  cases x.byName.find? (Text.lower chain) <;> rfl

/-! ## Registries of lists -/

theorem ofTokens_concat (tokens : List Token) (t : Token) :
    ofTokens (tokens ++ [t]) = (ofTokens tokens).insert t := by
  rw [ofTokens, List.foldl_append]
  rfl

/-- The views are made of the list: a map by chain of maps, one entry a key. -/
theorem ofTokens_eq (tokens : List Token) :
    ofTokens tokens = ⟨.nested (Text.lower ·.chainName) (Text.lower ·.address) tokens,
      .nested (Text.lower ·.chainName) (Text.lower ·.name) tokens, tokens⟩ := by
  induction tokens using List.reverseRecOn with
  | nil => rfl
  | append_singleton tokens t ih =>
    rw [ofTokens_concat, ih, Lookup.nested_concat, Lookup.nested_concat]
    rfl

theorem all_ofTokens (tokens : List Token) : (ofTokens tokens).all = tokens := by
  rw [ofTokens_eq]

theorem mirrors_ofTokens (tokens : List Token) : (ofTokens tokens).Mirrors where
  byAddress k := by
    rw [ofTokens_eq, find?, Lookup.find?_nested_bind, latest]
    simp only [Token.addressKey, Prod.ext_iff]
  byName k := by
    rw [ofTokens_eq, find?, Lookup.find?_nested_bind, latest]
    simp only [Token.nameKey, Prod.ext_iff]

/-! ## Runs -/

/-- What may happen to the registry: a reload, a token that is added with all its fields, or one of
which only the least is known. -/
inductive Event where
  /-- A reload from a table that may not be readable, with the coins of the chains of that
  moment. -/
  | reload (chains : List Chain) (rows : Except Error (List TokenRow))
  | add (t : Token)
  | addBare (chain name address : String) (decimals : Int)

def next (x : TokenIndex) : Event → TokenIndex
  | .reload chains rows => (reload chains rows).live x
  | .add t => x.insert t
  | .addBare chain name address decimals => x.addBare chain name address decimals

def run (events : List Event) : TokenIndex := events.foldl next empty

/-- Enters the coin of a chain, unless a token of the chain has its symbol. -/
def enterCoin (tokens : List Token) (c : Chain) : List Token :=
  if tokens.any (·.nameKey = (Text.lower c.name, Text.lower c.gasToken.name)) then tokens
  else tokens ++ [Token.native c]

def enter (tokens : List Token) : Event → List Token
  | .reload chains (.ok rows) => chains.foldl enterCoin (Reload.decodeRows decode rows).1
  | .reload _ (.error _) => tokens
  | .add t => tokens ++ [t]
  | .addBare chain name address decimals =>
    tokens ++ [Token.bare (Text.trim chain) (Text.trim address) (Text.trim name) decimals]

/-- All that has been entered since the last reload, in its order. -/
def entered (events : List Event) : List Token := events.foldl enter []

theorem addCoin_ofTokens (tokens : List Token) (c : Chain) :
    (ofTokens tokens).addCoin c = ofTokens (enterCoin tokens c) := by
  rw [addCoin, enterCoin, (mirrors_ofTokens tokens).hasName, all_ofTokens]
  split
  · rfl
  · rw [ofTokens_concat]

theorem build_eq_ofTokens (chains : List Chain) (tokens : List Token) :
    build chains tokens = ofTokens (chains.foldl enterCoin tokens) := by
  rw [build]
  induction chains generalizing tokens with
  | nil => rfl
  | cons c rest ih => rw [List.foldl_cons, List.foldl_cons, addCoin_ofTokens, ih]

theorem next_ofTokens (tokens : List Token) (event : Event) :
    (ofTokens tokens).next event = ofTokens (enter tokens event) := by
  cases event with
  | add t => exact (ofTokens_concat tokens t).symm
  | addBare chain name address decimals => exact (ofTokens_concat tokens _).symm
  | reload chains rows =>
    cases rows with
    | error e => rfl
    | ok rows => exact build_eq_ofTokens chains _

/-- A run leads to the registry of all that it has entered. -/
theorem run_eq_ofTokens (events : List Event) : run events = ofTokens (entered events) := by
  suffices h :
      ∀ tokens, events.foldl next (ofTokens tokens) = ofTokens (events.foldl enter tokens) from h []
  induction events with
  | nil => exact fun _ => rfl
  | cons event rest ih =>
    exact fun tokens => by rw [List.foldl_cons, next_ofTokens, ih, List.foldl_cons]

theorem mirrors_run (events : List Event) :
    (run events).Mirrors ∧ (run events).all = entered events := by
  rw [run_eq_ofTokens]
  exact ⟨mirrors_ofTokens _, all_ofTokens _⟩

/-! ## Consistency -/

/-- Every token that is listed has a key of its own, and is found by its own texts. -/
structure IsConsistent (x : TokenIndex) : Prop where
  unique : x.all.Pairwise (·.addressKey ≠ ·.addressKey)
  found : ∀ t ∈ x.all, x.withAddress? t.chainName t.address = some t

/-- A token that is found by its own texts has no white space around them. -/
theorem Mirrors.trim_of_found (h : x.Mirrors) {t : Token}
    (ht : x.withAddress? t.chainName t.address = some t) :
    Text.trim t.chainName = t.chainName ∧ Text.trim t.address = t.address := by
  rw [h.withAddress?, latest] at ht
  have hkey := List.find?_some ht
  rw [decide_eq_true_eq, Token.addressKey, Prod.mk.injEq] at hkey
  exact ⟨Text.trim_eq_self_of_lower_eq hkey.1, Text.trim_eq_self_of_lower_eq hkey.2⟩

/-- The registry is consistent exactly as long as no key is entered twice since the last reload, be
it by two rows, by a row and the coin of a chain or by an addition, and as no text has white space
around it. -/
theorem isConsistent_run_iff (events : List Event) : (run events).IsConsistent ↔
    (entered events).Pairwise (·.addressKey ≠ ·.addressKey) ∧
      ∀ t ∈ entered events, Text.trim t.chainName = t.chainName ∧
      Text.trim t.address = t.address := by
  obtain ⟨hmirrors, hall⟩ := mirrors_run events
  rw [← hall]
  constructor
  · rintro ⟨hunique, hfound⟩
    exact ⟨hunique, fun t ht => hmirrors.trim_of_found (hfound t ht)⟩
  · rintro ⟨hunique, htrimmed⟩
    refine ⟨hunique, fun t ht => ?_⟩
    obtain ⟨hchain, haddress⟩ := htrimmed t ht
    rw [hmirrors.withAddress?, Text.folded, Text.folded, hchain, haddress]
    exact latest_of_pairwise hunique ht

/-- A token that is added again is listed twice, and one that is added with a blank in front of its
chain is not found. -/
theorem not_isConsistent_run :
    let t := Token.bare "A" "0x1" "T" 6
    let u := Token.bare " A" "0x1" "T" 6
    (run [.add t, .add t]).all = [t, t] ∧ ¬ (run [.add t, .add t]).IsConsistent ∧
      (run [.add u]).all = [u] ∧ (run [.add u]).withAddress? u.chainName u.address = none ∧
      ¬ (run [.add u]).IsConsistent := by
  have hmissing : (run [.add (Token.bare " A" "0x1" "T" 6)]).withAddress? " A" "0x1" = none := by
    decide +kernel
  refine ⟨rfl, fun h => ?_, rfl, hmissing, fun h => ?_⟩
  · exact (List.pairwise_cons.mp h.unique).1 _ List.mem_cons_self rfl
  · exact Option.some_ne_none _ ((h.found _ List.mem_cons_self).symm.trans hmissing)

end TokenIndex

/-! ## Registries of hubs -/

namespace Hub

variable {σ τ : Type}

theorem tokens_after (store : Store σ) (opener : Opener τ) (h : Hub σ τ) (event : Event σ τ) :
    ∃ es : List TokenIndex.Event,
      (h.after store opener event).tokens = es.foldl TokenIndex.next h.tokens := by
  cases event with
  | store change => exact ⟨[], rfl⟩
  | network change => exact ⟨[], rfl⟩
  | addToken t => exact ⟨[.add t], rfl⟩
  | addBare chain name address decimals => exact ⟨[.addBare chain name address decimals], rfl⟩
  | reload what =>
    cases what with
    | tokens => exact ⟨[.reload h.chains.all (store.tokens h.store)], rfl⟩
    | chains => exact ⟨[], rfl⟩
    | accounts => exact ⟨[], rfl⟩
    | makers => exact ⟨[], rfl⟩
    | fees => exact ⟨[], rfl⟩

/-- Whatever happens to a hub, its registry of tokens goes through a run. -/
theorem exists_tokens_eq_run (store : Store σ) (opener : Opener τ) {h : Hub σ τ}
    (hempty : h.tokens = .empty) (events : List (Event σ τ)) :
    ∃ es, (events.foldl (after store opener) h).tokens = TokenIndex.run es := by
  suffices hrun : ∀ h : Hub σ τ, ∃ es : List TokenIndex.Event,
      (events.foldl (after store opener) h).tokens = es.foldl TokenIndex.next h.tokens by
    obtain ⟨es, hes⟩ := hrun h
    exact ⟨es, by rw [hes, hempty, TokenIndex.run]⟩
  induction events with
  | nil => exact fun h => ⟨[], rfl⟩
  | cons event rest ih =>
    intro h
    obtain ⟨first, hfirst⟩ := tokens_after store opener h event
    obtain ⟨later, hlater⟩ := ih (h.after store opener event)
    exact ⟨first ++ later, by rw [List.foldl_cons, hlater, hfirst, List.foldl_append]⟩

end Hub

end CrossChain
