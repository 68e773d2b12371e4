import CrossChain.Proofs.Chain.Connector
import CrossChain.Proofs.Lookup
import CrossChain.Proofs.Text
import CrossChain.Transport.Http
import CrossChain.Trial.Record

/-!
# The four views of the chain registry

A generation is looked up by id, chain id, name and network code, and each view finds what was
connected last under a key (`ofChains_eq`). A chain whose key a later one takes is still listed, but
hidden in that view.

The keys of a chain are those of its row (`keys_of_connected`), so that keys can be compared before
anything is opened (`ChainKeys.Apart`). Main statement (`agreesOnMembership_reload_iff`): every
chain that is listed is found by all of its keys exactly when no two rows that were connected share
a chain id, a name or a network code.
-/

namespace CrossChain

/-- What a chain is looked up by. The letter case of its texts does not count, and a row has them
trimmed. -/
structure ChainKeys where
  id : Int
  chainId : String
  name : String
  networkCode : Int

/-- No view but the one by ids can confuse the two: their chain ids and their names differ in more
than their letter case, and their network codes differ. -/
def ChainKeys.Apart (k k' : ChainKeys) : Prop :=
  Text.lower k.chainId ≠ Text.lower k'.chainId ∧ Text.lower k.name ≠ Text.lower k'.name ∧
    k.networkCode ≠ k'.networkCode

def Chain.keys (c : Chain) : ChainKeys := ⟨c.id, c.chainId, c.name, c.networkCode⟩

def ChainRow.keys (r : ChainRow) : ChainKeys :=
  ⟨r.id, Text.trim r.chainId, Text.trim r.name, r.networkCode⟩

namespace ChainIndex

/-- Every chain that is listed is what each view finds by the chain's own key, so that none is
hidden behind a later one. -/
structure AgreesOnMembership (x : ChainIndex) : Prop where
  byId : ∀ c ∈ x.all, x.withId? c.id = some c
  byChainId : ∀ c ∈ x.all, x.withChainId? c.chainId = some c
  byName : ∀ c ∈ x.all, x.withName? c.name = some c
  byNetworkCode : ∀ c ∈ x.all, x.withNetworkCode? c.networkCode = some c

instance (x : ChainIndex) : Decidable x.AgreesOnMembership :=
  decidable_of_iff ((∀ c ∈ x.all, x.withId? c.id = some c) ∧
    (∀ c ∈ x.all, x.withChainId? c.chainId = some c) ∧
      (∀ c ∈ x.all, x.withName? c.name = some c) ∧
        ∀ c ∈ x.all, x.withNetworkCode? c.networkCode = some c)
    ⟨fun ⟨h₁, h₂, h₃, h₄⟩ => ⟨h₁, h₂, h₃, h₄⟩, fun ⟨h₁, h₂, h₃, h₄⟩ => ⟨h₁, h₂, h₃, h₄⟩⟩

/-! ## Views of a list of chains -/

theorem ofChains_eq (chains : List Chain) :
    ofChains chains = ⟨.keyed (·.id) chains, .keyed (Text.lower ·.chainId) chains,
      .keyed (Text.lower ·.name) chains, .keyed (·.networkCode) chains, chains⟩ := by
  suffices h : ∀ x : ChainIndex, chains.foldl insert x =
      ⟨chains.foldl (fun m c => m.insert c.id c) x.byId,
        chains.foldl (fun m c => m.insert (Text.lower c.chainId) c) x.byChainId,
        chains.foldl (fun m c => m.insert (Text.lower c.name) c) x.byName,
        chains.foldl (fun m c => m.insert c.networkCode c) x.byNetworkCode,
          x.all ++ chains⟩ from h empty
  induction chains with
  | nil =>
    intro x
    rw [List.append_nil]
    rfl
  | cons c rest ih =>
    intro x
    rw [List.foldl_cons, ih, insert, List.append_assoc]
    rfl

theorem all_ofChains (chains : List Chain) : (ofChains chains).all = chains := by
  rw [ofChains_eq]

/-- Chains whose texts have no white space around them are found by their texts as they are
entered. -/
theorem agreesOnMembership_ofChains_iff {chains : List Chain} (hids : chains.Pairwise (·.id ≠ ·.id))
    (htrimmed : ∀ c ∈ chains, Text.trim c.chainId = c.chainId ∧ Text.trim c.name = c.name) :
    (ofChains chains).AgreesOnMembership ↔ chains.Pairwise (·.keys.Apart ·.keys) := by
  have hnodup : chains.Nodup := hids.imp fun hne heq => hne (congrArg Chain.id heq)
  have hchainId : ∀ c ∈ chains, (ofChains chains).withChainId? c.chainId =
      (Lookup.keyed (Text.lower ·.chainId) chains).find? (Text.lower c.chainId) := fun c hc => by
    rw [withChainId?, Text.folded, (htrimmed c hc).1, ofChains_eq]
  have hname : ∀ c ∈ chains, (ofChains chains).withName? c.name =
      (Lookup.keyed (Text.lower ·.name) chains).find? (Text.lower c.name) := fun c hc => by
    rw [withName?, Text.folded, (htrimmed c hc).2, ofChains_eq]
  -- Two chains are apart when no view confuses them, and each view can be asked on its own.
  have hapart : chains.Pairwise (·.keys.Apart ·.keys) ↔
      (∀ c ∈ chains, (ofChains chains).withChainId? c.chainId = some c) ∧
        (∀ c ∈ chains, (ofChains chains).withName? c.name = some c) ∧
        ∀ c ∈ chains, (Lookup.keyed (·.networkCode) chains).find? c.networkCode = some c := by
    rw [Lookup.find?_keyed_iff hnodup]
    simp only [ChainKeys.Apart, List.pairwise_and_iff]
    refine and_congr ?_ (and_congr ?_ Iff.rfl)
    · exact (Lookup.find?_keyed_iff hnodup).symm.trans
        (forall₂_congr fun c hc => by rw [hchainId c hc]; rfl)
    · exact (Lookup.find?_keyed_iff hnodup).symm.trans
        (forall₂_congr fun c hc => by rw [hname c hc]; rfl)
  have hid : ∀ c ∈ chains, (Lookup.keyed (·.id) chains).find? c.id = some c :=
    (Lookup.find?_keyed_iff hnodup).mpr hids
  rw [hapart]
  constructor
  · rintro ⟨-, hbyChainId, hbyName, hbyNetworkCode⟩
    rw [all_ofChains] at hbyChainId hbyName hbyNetworkCode
    refine ⟨hbyChainId, hbyName, ?_⟩
    simpa only [withNetworkCode?, ofChains_eq] using hbyNetworkCode
  · rintro ⟨hbyChainId, hbyName, hbyNetworkCode⟩
    constructor <;> rw [all_ofChains]
    · simpa only [withId?, ofChains_eq] using hid
    · exact hbyChainId
    · exact hbyName
    · simpa only [withNetworkCode?, ofChains_eq] using hbyNetworkCode

/-! ## Generations of a reload -/

variable {τ : Type} {opener : Opener τ}

theorem keys_of_decode {r : ChainRow} {c : Chain} (h : decode r = .ok c) : c.keys = r.keys := by
  simp only [decode] at h
  split at h
  · cases h
  · split at h
    · cases h
    · cases h
      rfl

theorem keys_of_connected {r : ChainRow} {c : Chain} {x x' : Connector × τ}
    (h : connected opener r x = (.ok c, x')) : c.keys = r.keys := by
  unfold connected at h
  cases hd : decode r with
  | error alert => simp [hd] at h
  | ok chain =>
    rcases hc : Connector.connect opener chain x with ⟨e | client, x₁⟩ <;> simp only [hd, hc] at h
    · cases h
    · cases h
      rw [← keys_of_decode hd]
      rfl

theorem map_keys_connectAll (state : Connector × τ) (rows : List ChainRow) :
    (connectAll opener state rows).1.map Chain.keys =
      (connectable opener state rows).map ChainRow.keys := by
  unfold connectAll connectable
  exact Reload.map_decodeRowsWith (fun h => keys_of_connected h) state rows

/-- A relation between the keys of rows that are connected holds of their chains as well. -/
theorem pairwise_keys_connectAll {R : ChainKeys → ChainKeys → Prop} (state : Connector × τ)
    (rows : List ChainRow) : (connectAll opener state rows).1.Pairwise (R ·.keys ·.keys) ↔
      (connectable opener state rows).Pairwise (R ·.keys ·.keys) := by
  rw [← List.pairwise_map, map_keys_connectAll, List.pairwise_map]

theorem trimmed_of_mem_connectAll {state : Connector × τ} {rows : List ChainRow} {c : Chain}
    (h : c ∈ (connectAll opener state rows).1) :
    Text.trim c.chainId = c.chainId ∧ Text.trim c.name = c.name := by
  have hkeys := List.mem_map_of_mem (f := Chain.keys) h
  rw [map_keys_connectAll] at hkeys
  obtain ⟨r, -, hr⟩ := List.mem_map.mp hkeys
  obtain ⟨-, hchainId, hname, -⟩ := ChainKeys.mk.inj hr
  rw [← hchainId, ← hname]
  exact ⟨Text.trim_trim _, Text.trim_trim _⟩

/-- However a reload goes that reads rows with ids of their own, and whatever it finds live: the
views agree exactly when no two of the rows that it connects share a chain id, a name or a network
code. -/
theorem agreesOnMembership_reload_iff (opener : Opener τ) (state : Connector × τ)
    (previous : ChainIndex) {rows : List ChainRow} (hids : rows.Pairwise (·.id ≠ ·.id)) :
    ((reload opener (.ok rows) state).1.live previous).AgreesOnMembership ↔
      (connectable opener state rows).Pairwise fun r r' =>
        Text.folded r.chainId ≠ Text.folded r'.chainId ∧
        Text.folded r.name ≠ Text.folded r'.name ∧ r.networkCode ≠ r'.networkCode := by
  have hkept : (connectable opener state rows).Pairwise (·.id ≠ ·.id) :=
    hids.sublist (Reload.keptWith_sublist _ _ _)
  have hchains : (connectAll opener state rows).1.Pairwise (·.id ≠ ·.id) :=
    (pairwise_keys_connectAll (R := (·.id ≠ ·.id)) state rows).mpr hkept
  rw [reload_ok]
  exact (agreesOnMembership_ofChains_iff hchains fun c hc => trimmed_of_mem_connectAll hc).trans
    (pairwise_keys_connectAll state rows)

/-- The third row is left out, so that its network code does no harm. -/
theorem agreesOnMembership_reload_sample :
    let rows := [Trial.chainRow 1 " 1 " " Alpha " 42 5, Trial.chainRow 2 "2" "Beta" 42 0,
      Trial.chainRow 3 "3" " " 42 5]
    rows.Pairwise (·.id ≠ ·.id) ∧
      ((reload Http.offline.opener (.ok rows) (.start 0, 0)).1.live empty).AgreesOnMembership :=
  ⟨by decide, (agreesOnMembership_reload_iff _ _ _ (by decide)).mpr (by decide +kernel)⟩

/-- Rows with ids of their own are confused when they share a network code, or a chain id or a name
up to its letter case: both chains are listed, and the key of the first finds the second. -/
theorem not_agreesOnMembership_reload :
    let live (second : ChainRow) := (reload Http.offline.opener
      (.ok [Trial.chainRow 1 "a" "Alpha" 42 0, second]) (.start 0, 0)).1.live empty
    let x := live (Trial.chainRow 2 "b" "Beta" 42 0)
    let y := live (Trial.chainRow 2 "A" "Beta" 42 6)
    let z := live (Trial.chainRow 2 "b" "ALPHA" 42 6)
    (∀ l ∈ [x, y, z], l.all.map (·.id) = [1, 2] ∧ ¬ l.AgreesOnMembership) ∧
      (x.withNetworkCode? 0).map (·.id) = some 2 ∧ (y.withChainId? "a").map (·.id) = some 2 ∧
      (z.withName? "Alpha").map (·.id) = some 2 := by
  decide +kernel

end ChainIndex

end CrossChain
