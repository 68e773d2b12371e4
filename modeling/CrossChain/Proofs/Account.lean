import CrossChain.Account
import CrossChain.Proofs.Lookup
import CrossChain.Proofs.Reload
import CrossChain.Proofs.Text

/-!
# The views of the accounts

A generation of accounts is looked up by address and chain, by chain alone and by id. Each view is
that of a list of accounts (`ofAccounts_eq`), in which a later account takes the place of an earlier
one with the same keys; what each lookup finds is read off the list (`withAddress?_ofAccounts`,
`hasAddress_ofAccounts`, `addresses_ofAccounts`). With ids of their own and trimmed addresses, the
accounts are seen alike in all views (`agrees_ofAccounts`).

A reload decodes exactly the rows that have an address (`decode_eq`, `not_isOk_decode`). Main
statement (`accounts_published`): after it all views show the same accounts, and the account at an
address on a chain is that of the last row which places one there.
-/

namespace CrossChain

namespace AccountRow

def hasAddress (r : AccountRow) : Bool := !(Text.trim r.address).isEmpty

def account (r : AccountRow) : Account := ⟨r.id, r.chainId, Text.trim r.address⟩

/-- The row places an account on a chain, at an address that is compared trimmed and in lower case.
-/
def IsAt (r : AccountRow) (address : String) (chain : Int) : Prop :=
  r.hasAddress = true ∧ Text.folded r.address = Text.folded address ∧ r.chainId = chain

instance (r : AccountRow) (address : String) (chain : Int) : Decidable (r.IsAt address chain) :=
  inferInstanceAs (Decidable (_ ∧ _))

end AccountRow

namespace AccountIndex

/-! ## Views of a list of accounts -/

theorem ofAccounts_eq (accounts : List Account) :
    ofAccounts accounts =
      ⟨.keyed (·.id) accounts, .nested (Text.lower ·.address) (·.chain) accounts,
        .nested (·.chain) (Text.lower ·.address) accounts⟩ := by
  suffices h : ∀ x : AccountIndex, accounts.foldl insert x =
      ⟨accounts.foldl (fun m a => m.insert a.id a) x.byId,
        accounts.foldl (fun m a => m.insert (Text.lower a.address)
          (((m.find? (Text.lower a.address)).getD .empty).insert a.chain a)) x.byAddress,
        accounts.foldl (fun m a => m.insert a.chain
          (((m.find? a.chain).getD .empty).insert (Text.lower a.address) a)) x.byChain⟩ from h empty
  induction accounts with
  | nil => exact fun _ => rfl
  | cons a rest ih => exact fun x => ih _

variable {accounts : List Account}

theorem withAddress?_ofAccounts (address : String) (chain : Int) :
    (ofAccounts accounts).withAddress? address chain =
      accounts.reverse.find? fun a =>
        Text.lower a.address = Text.folded address ∧ a.chain = chain := by
  rw [ofAccounts_eq, withAddress?, Lookup.find?_nested_bind]

theorem hasAddress_ofAccounts (address : String) : (ofAccounts accounts).hasAddress address =
    accounts.any (Text.lower ·.address = Text.folded address) := by
  rw [ofAccounts_eq, hasAddress, Lookup.contains, Lookup.find?_nested]
  split
  · next h => exact h.symm
  · next h => exact (Bool.eq_false_iff.mpr h).symm

theorem addresses_ofAccounts (chain : Int) : (ofAccounts accounts).addresses chain =
    (Lookup.keyed (Text.lower ·.address) (accounts.filter (·.chain = chain))).values.map
      (·.address) := by
  rw [ofAccounts_eq, addresses, Lookup.find?_nested]
  cases hany : accounts.any (·.chain = chain) with
  | true => rw [if_pos rfl]
  | false =>
    have hnil : accounts.filter (·.chain = chain) = [] := by
      rw [List.filter_eq_nil_iff]
      exact List.any_eq_false.mp hany
    rw [hnil]
    rfl

/-- The views show the same accounts: what one of them finds, the others find by the same account's
keys, and no address is listed twice on a chain. -/
structure Agrees (x : AccountIndex) : Prop where
  hasAddress_iff : ∀ address, x.hasAddress address = true ↔
    ∃ chain a, x.withAddress? address chain = some a
  nodup_addresses : ∀ chain, (x.addresses chain).Nodup
  mem_addresses : ∀ chain s, s ∈ x.addresses chain ↔
    ∃ address a, x.withAddress? address chain = some a ∧ a.address = s
  withId? : ∀ address chain a, x.withAddress? address chain = some a → x.withId? a.id = some a

theorem of_withAddress?_eq_some {address : String} {chain : Int} {a : Account}
    (h : (ofAccounts accounts).withAddress? address chain = some a) :
    a ∈ accounts ∧ Text.lower a.address = Text.folded address := by
  rw [withAddress?_ofAccounts] at h
  have hkeys := List.find?_some h
  rw [decide_eq_true_eq] at hkeys
  exact ⟨List.mem_reverse.mp (List.mem_of_find?_eq_some h), hkeys.1⟩

/-- Accounts with ids of their own and without white space around their addresses are seen alike in
all views. -/
theorem agrees_ofAccounts (hids : accounts.Pairwise (·.id ≠ ·.id))
    (htrimmed : ∀ a ∈ accounts, Text.trim a.address = a.address) :
    (ofAccounts accounts).Agrees where
  hasAddress_iff address := by
    rw [hasAddress_ofAccounts, List.any_eq_true]
    constructor
    · rintro ⟨a, ha, hkey⟩
      refine ⟨a.chain, Option.isSome_iff_exists.mp ?_⟩
      rw [withAddress?_ofAccounts, List.find?_isSome]
      exact ⟨a, List.mem_reverse.mpr ha, by simpa using hkey⟩
    · rintro ⟨chain, a, ha⟩
      obtain ⟨hmem, hkey⟩ := of_withAddress?_eq_some ha
      exact ⟨a, hmem, by simpa using hkey⟩
  nodup_addresses chain := by
    rw [addresses_ofAccounts, List.Nodup, List.pairwise_map]
    exact (Lookup.isKeyed_keyed _ _).pairwise_values.imp fun hne heq =>
      hne (congrArg Text.lower heq)
  mem_addresses chain s := by
    have hvalue (a : Account) :
        a ∈ (Lookup.keyed (Text.lower ·.address) (accounts.filter (·.chain = chain))).values ↔
          accounts.reverse.find? (fun b =>
            Text.lower b.address = Text.lower a.address ∧ b.chain = chain) = some a := by
      rw [(Lookup.isKeyed_keyed _ _).mem_values, Lookup.find?_keyed_filter]
      simp only [and_comm]
    rw [addresses_ofAccounts, List.mem_map]
    constructor
    · rintro ⟨a, ha, rfl⟩
      rw [hvalue] at ha
      have hmem := List.mem_reverse.mp (List.mem_of_find?_eq_some ha)
      refine ⟨a.address, a, ?_, rfl⟩
      rwa [withAddress?_ofAccounts, Text.folded, htrimmed a hmem]
    · rintro ⟨address, a, ha, rfl⟩
      obtain ⟨-, hkey⟩ := of_withAddress?_eq_some ha
      rw [withAddress?_ofAccounts, ← hkey] at ha
      exact ⟨a, (hvalue a).mpr ha, rfl⟩
  withId? address chain a ha := by
    rw [withId?, ofAccounts_eq, Lookup.find?_keyed]
    exact find?_reverse_of_pairwise hids (of_withAddress?_eq_some ha).1

/-! ## Generations of a reload -/

theorem decode_eq (r : AccountRow) (h : r.hasAddress = true) : decode r = .ok r.account := by
  have hsome : (Text.trim r.address).isEmpty = false := by simpa [AccountRow.hasAddress] using h
  rw [decode, hsome]
  rfl

theorem not_isOk_decode (r : AccountRow) (h : r.hasAddress = false) : (decode r).isOk = false := by
  have hnone : (Text.trim r.address).isEmpty = true := by simpa [AccountRow.hasAddress] using h
  rw [decode, hnone]
  rfl

/-- What a reload of rows publishes and reports: all views agree, the account at an address is that
of the last row which places one there, and the rows with an address are counted. -/
structure Publishes (rows : List AccountRow) (x : AccountIndex) (report : ReloadReport) : Prop where
  agrees : x.Agrees
  withAddress? : ∀ address chain,
    x.withAddress? address chain =
      (rows.reverse.find? (·.IsAt address chain)).map AccountRow.account
  loaded : report.loaded = rows.countP (·.hasAddress)
  skipped : report.skipped = rows.countP fun r => !r.hasAddress

theorem withAddress?_ofAccounts_of_rows (rows : List AccountRow) (address : String) (chain : Int) :
    (ofAccounts ((rows.filter (·.hasAddress)).map AccountRow.account)).withAddress? address chain =
      (rows.reverse.find? (·.IsAt address chain)).map AccountRow.account := by
  rw [withAddress?_ofAccounts]
  refine find?_reverse_map_filter (fun r => ?_) rows
  rw [decide_eq_true_eq, decide_eq_true_eq]
  exact Iff.rfl

/-- Whatever rows with ids of their own a reload reads, and whatever it finds live, it publishes
what the rows say and counts the rows with an address. -/
theorem accounts_published {rows : List AccountRow} (hids : rows.Pairwise (·.id ≠ ·.id))
    (previous : AccountIndex) :
    ∃ report, (reload (.ok rows)).report = .ok report ∧
      Publishes rows ((reload (.ok rows)).live previous) report := by
  obtain ⟨hdecoded, hrefused⟩ := Reload.decodeRows_of_iff decode_eq not_isOk_decode rows
  have hreload : reload (.ok rows) = _ := Reload.ofTable_ok rows
  rw [hdecoded, hrefused] at hreload
  have haccounts : ((rows.filter (·.hasAddress)).map AccountRow.account).Pairwise (·.id ≠ ·.id) :=
    List.pairwise_map.mpr (hids.sublist List.filter_sublist)
  rw [hreload]
  refine ⟨_, rfl, ?_, withAddress?_ofAccounts_of_rows rows, ?_, rfl⟩
  · refine agrees_ofAccounts haccounts fun a ha => ?_
    obtain ⟨r, -, rfl⟩ := List.mem_map.mp ha
    exact Text.trim_trim r.address
  · have hsize :
        (Lookup.keyed (·.id) ((rows.filter (·.hasAddress)).map AccountRow.account)).values.length =
        rows.countP (·.hasAddress) := by
      rw [Lookup.values_keyed haccounts, List.length_map, List.countP_eq_length_filter]
    rw [Lookup.values, List.length_map] at hsize
    dsimp only
    rw [ofAccounts_eq]
    exact hsize

/-- Of two rows with one address on a chain the later counts, and a row without one is left out. -/
theorem accounts_published_sample :
    let rows : List AccountRow :=
      [⟨1, 10, " 0xAbC "⟩, ⟨2, 10, "0xabc"⟩, ⟨3, 11, "0xABC"⟩, ⟨4, 10, " "⟩]
    rows.Pairwise (·.id ≠ ·.id) ∧ (∃ report, (reload (.ok rows)).report = .ok report ∧
      Publishes rows ((reload (.ok rows)).live empty) report) ∧
        (rows.reverse.find? (·.IsAt "0xABC" 10)).map AccountRow.account = some ⟨2, 10, "0xabc"⟩ :=
  ⟨by decide, accounts_published (by decide) empty, by decide +kernel⟩

end AccountIndex

end CrossChain
