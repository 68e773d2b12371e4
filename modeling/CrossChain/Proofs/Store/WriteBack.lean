import CrossChain.Hub
import CrossChain.Proofs.Amount
import CrossChain.Proofs.Store.Database
import CrossChain.Proofs.Hub.Reload
import CrossChain.Store.Memory
import CrossChain.Trial.Record
import Mathlib.Data.List.TakeWhile

/-!
# Tokens written back

A token goes into a row and comes out of it again, through a store in memory or through the
reference database. The row of a tidy token (`Token.IsTidy`) denotes the token, but for its freeze
authority, for which a row has no column (`Token.ofRow_toRow`). In the database the row is the
record of its cells (`Database.tokenRow_tokenCells`), which is inserted where there is an id for it
(`Database.insertToken_of_room`) and refused where there is none (`Database.insertToken_of_full`).

Main statement (`Hub.writesBack_or_refused`): a token whose key no row has is found as it was
inserted, or else the store refuses it and is left as it was. A store refuses when it is made to
fail, has lost the table, or has run out of ids.
-/

namespace CrossChain

variable {σ τ : Type}

theorem Bits.lowSigned_eq_self {width : Nat} (hwidth : 0 < width) {n : Int}
    (h : Bits.holdsSigned width n = true) : Bits.lowSigned width n = n := by
  rw [Bits.holdsSigned, Bool.and_eq_true, decide_eq_true_iff, decide_eq_true_iff] at h
  have hcount : Bits.count width = 2 * Bits.count (width - 1) := by
    obtain ⟨w, rfl⟩ := Nat.exists_eq_add_one.mpr hwidth
    exact Nat.pow_succ'
  exact Int.bmod_eq_of_le_mul_two (by omega) (by omega)

/-- No row is found for the key of a token. A store that fails to look finds none, too. -/
def Store.LacksToken (store : Store σ) (t : Token) (s : σ) : Prop :=
  ∀ row, store.findToken t.chainName t.address s ≠ .ok (some row)

namespace Database

variable {d : Database} {table : Table}

def hasKey (chain address : String) (r : Record) : Bool :=
  (tokenKey chain address).all fun (column, value) => r.cell column == value

theorem findToken_eq (chain address : String) (d : Database) : store.findToken chain address d =
    match d.table tokenTable.name with
    | .ok t => .ok ((t.records.find? (hasKey chain address)).map tokenRow)
    | .error f => .error f.toError := by
  simp only [store, selectFirst, select]
  cases d.table tokenTable.name <;> rfl

theorem record_tokenCells (hs : table.schema = tokenTable) (id : Int) (row : TokenRow) :
    table.record id (tokenCells row) = ⟨id, tokenCells row⟩ := by
  rw [Table.record, hs]
  rfl

theorem tokenRow_tokenCells (row : TokenRow) (h : Bits.holdsSigned 32 row.decimals = true)
    (id : Int) :
    tokenRow ⟨id, tokenCells row⟩ = row := by
  have hdecimals : (tokenRow ⟨id, tokenCells row⟩).decimals = row.decimals :=
    Bits.lowSigned_eq_self (by decide) h
  calc tokenRow ⟨id, tokenCells row⟩ =
    { row with decimals := (tokenRow ⟨id, tokenCells row⟩).decimals } := rfl
    _ = row := by rw [hdecimals]

theorem cell_chainName (row : TokenRow) (id : Int) :
    Record.cell ⟨id, tokenCells row⟩ "chain_name" = .text row.chainName := rfl

theorem cell_tokenAddress (row : TokenRow) (id : Int) :
    Record.cell ⟨id, tokenCells row⟩ "token_address" = .text row.tokenAddress := rfl

theorem hasKey_tokenCells (row : TokenRow) (id : Int) :
    hasKey row.chainName row.tokenAddress ⟨id, tokenCells row⟩ = true := by
  simp [hasKey, tokenKey, cell_chainName, cell_tokenAddress]

/-- A record that agrees with that of a token on the key of the table has its key. -/
theorem agrees_tokenCells (r : Record) (row : TokenRow) (id : Int) :
    r.agrees ["chain_name", "token_address"] ⟨id, tokenCells row⟩ =
      hasKey row.chainName row.tokenAddress r := by
  have htext (c : Cell) (s : String) : (c == .text s && c != .null) = (c == .text s) := by
    cases c <;> simp
  simp only [Record.agrees, hasKey, tokenKey, List.all_cons, List.all_nil, cell_chainName,
    cell_tokenAddress, htext]

theorem unknown?_tokenCells (hs : table.schema = tokenTable) (row : TokenRow) :
    table.unknown? (tokenCells row) = none := by
  rw [Table.unknown?, hs]
  rfl

theorem insert_tokenCells (hs : table.schema = tokenTable) (hn : table.IsNumbered) (row : TokenRow)
    (habsent : ∀ r ∈ table.records, hasKey row.chainName row.tokenAddress r = false)
    (hroom : table.lastId < Table.maxId) :
    table.insert (tokenCells row) = .ok (table.withRecord ⟨table.lastId + 1, tokenCells row⟩) := by
  refine Table.insert_eq_ok.mpr ⟨unknown?_tokenCells hs row, table.lastId + 1,
    if_pos hroom, ?_, ?_, ?_⟩
  · rw [record_tokenCells hs, Table.missing?, hs]
    rfl
  · rw [record_tokenCells hs, Table.duplicate?, if_neg, hs]
    · refine List.find?_eq_none.mpr fun key hkey => ?_
      rw [List.mem_singleton.mp hkey, List.any_eq_true]
      rintro ⟨r, hr, hagrees⟩
      rw [agrees_tokenCells, habsent r hr] at hagrees
      cases hagrees
    · -- The next id is above all that are taken.
      rw [List.any_eq_true]
      rintro ⟨r, hr, hid⟩
      have hlast := hn r hr
      rw [eq_of_beq hid] at hlast
      exact absurd hlast (Int.not_le.mpr (Int.lt_succ _))
  · rw [record_tokenCells hs]

/-- The database with the row of a token behind all others. -/
def withToken (d : Database) (table : Table) (row : TokenRow) : Database :=
  { d with tables :=
      d.tables.insert tokenTable.name (table.withRecord ⟨table.lastId + 1, tokenCells row⟩) }

variable {t : Token}

theorem hasKey_of_lacksToken (htable : d.table tokenTable.name = .ok table)
    (h : store.LacksToken t d) :
    ∀ r ∈ table.records, hasKey t.chainName t.address r = false := by
  have hnone : table.records.find? (hasKey t.chainName t.address) = none := by
    refine Option.eq_none_iff_forall_ne_some.mpr fun r hr => h (tokenRow r) ?_
    rw [findToken_eq, htable]
    simp only [hr, Option.map_some]
  simpa using List.find?_eq_none.mp hnone

theorem schema_of_isSound (hd : IsSound d.tables) (htable : d.table tokenTable.name = .ok table) :
    table.schema = tokenTable :=
  (hd _ table (table_eq_ok.mp htable)).schema tokenTable (by simp [layout]) rfl

theorem insertToken_of_room (hd : IsSound d.tables) (htable : d.table tokenTable.name = .ok table)
    (habsent : ∀ r ∈ table.records, hasKey t.chainName t.address r = false)
    (hroom : table.lastId < Table.maxId) :
    store.insertToken t d = (.ok true, d.withToken table t.toRow) := by
  have hnumbered := (hd _ table (table_eq_ok.mp htable)).numbered
  have hrecord := insert_tokenCells (schema_of_isSound hd htable) hnumbered t.toRow habsent hroom
  simp only [store, insertToken, insert, htable, hrecord, except_ok_bind, except_pure, withToken]

theorem insertToken_of_full (hd : IsSound d.tables) (htable : d.table tokenTable.name = .ok table)
    (hfull : Table.maxId ≤ table.lastId) :
    store.insertToken t d = (.error Fault.full.toError, d) := by
  have hrecord : table.insert (tokenCells t.toRow) = .error .full :=
    Table.insert_of_newId (unknown?_tokenCells (schema_of_isSound hd htable) _)
      (if_neg (Int.not_lt.mpr hfull))
  simp only [store, insertToken, insert, htable, hrecord, except_ok_bind, except_error_bind,
    Fault.isConstraint, Bool.false_eq_true, if_false]

theorem insertToken_of_noTable {f : Fault} (htable : d.table tokenTable.name = .error f) :
    store.insertToken t d = (.error f.toError, d) := by
  have hfault : f = .noTable tokenTable.name := by
    unfold table at htable
    split at htable <;> cases htable
    rfl
  subst hfault
  simp only [store, insertToken, insert, htable, except_error_bind, Fault.isConstraint,
    Bool.false_eq_true, if_false]

theorem findToken_withToken (habsent : ∀ r ∈ table.records, hasKey t.chainName t.address r = false)
    (hdecimals : Bits.holdsSigned 32 t.decimals = true) :
    store.findToken t.chainName t.address (d.withToken table t.toRow) = .ok (some t.toRow) := by
  have hfound : (table.withRecord ⟨table.lastId + 1, tokenCells t.toRow⟩).records.find?
      (hasKey t.chainName t.address) = some ⟨table.lastId + 1, tokenCells t.toRow⟩ :=
    Table.find?_place (hasKey_tokenCells t.toRow _) habsent
  rw [findToken_eq, table_eq_ok.mpr (Lookup.find?_insert_self _ _ _)]
  simp only [hfound, Option.map_some, tokenRow_tokenCells t.toRow hdecimals]

end Database

namespace Token

/-- A token as rows can keep it: with trimmed texts, a chain name and an address, an icon that is
not empty if there is one, and decimals of 32 bits. -/
structure IsTidy (t : Token) : Prop where
  chainName : Text.trim t.chainName = t.chainName
  chainName_ne : t.chainName ≠ ""
  address : Text.trim t.address = t.address
  address_ne : t.address ≠ ""
  name : Text.trim t.name = t.name
  fullName : Text.trim t.fullName = t.fullName
  icon : ∀ icon ∈ t.icon, Text.trim icon = icon ∧ icon ≠ ""
  decimals : Bits.holdsSigned 32 t.decimals = true

theorem supplyOf_toText (u : U256) : supplyOf u.toText = .ok u := by
  have hdigits := Amount.isDigit_toText u
  have hempty : ¬ u.toText.isEmpty = true := by
    rw [Amount.toText_eq]
    simp [Nat.toDigits_ne_nil]
  have hwhole : u.toText.toList.takeWhile (· != '.') = u.toText.toList := by
    refine List.takeWhile_eq_self_iff.mpr fun c hc => ?_
    rw [bne_iff_ne]
    rintro rfl
    cases hdigits _ hc
  simp only [supplyOf, Text.trim_of_isDigit hdigits, if_neg hempty, hwhole, String.ofList_toList,
    Amount.parseInteger_toText]

theorem nonEmpty?_getD {icon : Option String} (h : ∀ s ∈ icon, Text.trim s = s ∧ s ≠ "") :
    Text.nonEmpty? (Text.trim (icon.getD "")) = icon := by
  cases icon with
  | none => rfl
  | some s =>
    obtain ⟨htrim, hne⟩ := h s rfl
    rw [Option.getD_some, htrim, Text.nonEmpty?, if_neg (by simpa using hne)]

/-- All that a row has no column for is lost. -/
theorem ofRow_toRow {t : Token} (h : t.IsTidy) :
    ofRow t.toRow = .ok { t with hasFreezeAuthority := false } := by
  unfold ofRow toRow
  simp only [h.chainName, h.address, h.name, h.fullName, supplyOf_toText, nonEmpty?_getD h.icon]
  rw [if_neg (by simpa using h.chainName_ne), if_neg (by simpa using h.address_ne)]

end Token

namespace MemoryTables

variable {m : MemoryTables} {t : Token}

theorem find_tokens_of_lacksToken (hm : m.failing = false) (h : store.LacksToken t m) :
    find m.tokens t.chainName t.address = none := by
  refine Option.eq_none_iff_forall_ne_some.mpr fun row hrow => h row ?_
  simp only [store, query, hm, Bool.false_eq_true, if_false, hrow]

theorem insertToken_of_lacksToken (hm : m.failing = false) (h : store.LacksToken t m) :
    store.insertToken t m = (.ok true, { m with tokens := m.tokens ++ [t.toRow] }) := by
  simp only [store, query, hm, Bool.false_eq_true, if_false, find_tokens_of_lacksToken hm h]

theorem findToken_append (hm : m.failing = false) (h : store.LacksToken t m) :
    store.findToken t.chainName t.address { m with tokens := m.tokens ++ [t.toRow] } =
      .ok (some t.toRow) := by
  have hfound : find (m.tokens ++ [t.toRow]) t.chainName t.address = some t.toRow := by
    have hself : find [t.toRow] t.chainName t.address = some t.toRow := by simp [find, Token.toRow]
    rw [find, List.find?_append, ← find, ← find, find_tokens_of_lacksToken hm h,
      Option.none_or, hself]
  simp only [store, query, hm, Bool.false_eq_true, if_false, hfound]

theorem insertToken_of_failing (hm : m.failing = true) :
    store.insertToken t m = (.error (.database "injected failure"), m) := by
  simp only [store, query, hm, if_true]

end MemoryTables

namespace Hub

variable {t : Token}

/-- The token is inserted, and is found as it was but for what rows have no column for. -/
def WritesBack (store : Store σ) (t : Token) (h : Hub σ τ) : Prop :=
  (h.storeToken store t).1 = .ok true ∧
    (h.storeToken store t).2.storedToken store t.chainName t.address =
      .ok (some { t with hasFreezeAuthority := false })

theorem writesBack_of_insertToken {store : Store σ} {h : Hub σ τ} {s : σ} (ht : t.IsTidy)
    (hinsert : store.insertToken t h.store = (.ok true, s))
    (hfind : store.findToken t.chainName t.address s = .ok (some t.toRow)) :
    h.WritesBack store t := by
  rw [WritesBack, storeToken, hinsert]
  refine ⟨rfl, ?_⟩
  simp only [storedToken, hfind, except_ok_bind, Token.ofRow_toRow ht, Except.mapError, except_pure]

theorem storeToken_of_refused {store : Store σ} {h : Hub σ τ} {e : Error}
    (hinsert : store.insertToken t h.store = (.error e, h.store)) :
    h.storeToken store t = (.error e, h) := by
  rw [storeToken, hinsert]

/-- A token that a store has no row for is written back, unless a store in memory is made to fail,
or a database has lost the table or has run out of ids. Then the token is refused, and nothing is
changed. -/
theorem writesBack_or_refused (ht : t.IsTidy) :
    (∀ h : Hub MemoryTables τ, MemoryTables.store.LacksToken t h.store →
      (h.store.failing = false → h.WritesBack MemoryTables.store t) ∧
      (h.store.failing = true →
        h.storeToken MemoryTables.store t = (.error (.database "injected failure"), h))) ∧
    ∀ h : Hub Database τ, h.store.Reached → Database.store.LacksToken t h.store →
      (∀ table, h.store.table Database.tokenTable.name = .ok table →
        (table.lastId < Database.Table.maxId → h.WritesBack Database.store t) ∧
        (Database.Table.maxId ≤ table.lastId →
          h.storeToken Database.store t = (.error Database.Fault.full.toError, h))) ∧
      ∀ f, h.store.table Database.tokenTable.name = .error f →
        h.storeToken Database.store t = (.error f.toError, h) := by
  refine ⟨fun h hlacks => ⟨fun hm => ?_, fun hm => ?_⟩,
    fun h hreached hlacks => ⟨fun table htable => ?_, fun f hf => ?_⟩⟩
  · exact writesBack_of_insertToken ht (MemoryTables.insertToken_of_lacksToken hm hlacks)
      (MemoryTables.findToken_append hm hlacks)
  · exact storeToken_of_refused (MemoryTables.insertToken_of_failing hm)
  · have habsent := Database.hasKey_of_lacksToken htable hlacks
    refine ⟨fun hroom => ?_, fun hfull => ?_⟩
    · exact writesBack_of_insertToken ht
        (Database.insertToken_of_room hreached.isSound htable habsent hroom)
        (Database.findToken_withToken habsent ht.decimals)
    · exact storeToken_of_refused (Database.insertToken_of_full hreached.isSound htable hfull)
  · exact storeToken_of_refused (Database.insertToken_of_noTable hf)

/-- A token of a mint that can be frozen, with every field in use. -/
def frozenMint : Token :=
  ⟨"Solana", "So11", "SOL", 9, "Wrapped SOL", U256.max, some "https://sol.test/icon", true⟩

theorem isTidy_frozenMint : frozenMint.IsTidy where
  chainName := by decide +kernel
  chainName_ne := by decide
  address := by decide +kernel
  address_ne := by decide
  name := by decide +kernel
  fullName := by decide +kernel
  icon := by decide +kernel
  decimals := by decide

theorem writesBack_or_refused_frozenMint :
    let h := blank MemoryTables.empty .empty
    let h' : Hub Database QueuedNetwork := { h with store := Database.fresh }
    frozenMint.IsTidy ∧ MemoryTables.store.LacksToken frozenMint h.store ∧
      h.WritesBack MemoryTables.store frozenMint ∧ h'.store.Reached ∧
      Database.store.LacksToken frozenMint h'.store ∧ h'.WritesBack Database.store frozenMint := by
  intro h h'
  have hlacks : MemoryTables.store.LacksToken frozenMint h.store := fun row hrow => by cases hrow
  have hreached : h'.store.Reached := .migrate .blank
  have hlacks' : Database.store.LacksToken frozenMint h'.store := fun row hrow => by cases hrow
  obtain ⟨hmemory, -⟩ := (writesBack_or_refused isTidy_frozenMint).1 h hlacks
  obtain ⟨htables, -⟩ := (writesBack_or_refused isTidy_frozenMint).2 h' hreached hlacks'
  obtain ⟨hroom, -⟩ := htables (Database.Table.empty Database.tokenTable) (by decide +kernel)
  exact ⟨isTidy_frozenMint, hlacks, hmemory rfl, hreached, hlacks', hroom (by decide)⟩

/-- What no column holds is lost, and a database can run out of ids. -/
theorem not_writesBack :
    let h := blank MemoryTables.empty .empty
    let last := ("id", .integer Database.Table.maxId) ::
      Database.tokenCells (Trial.tokenRow "Solana" "Last" "L" 9)
    frozenMint.IsTidy ∧ MemoryTables.store.LacksToken frozenMint h.store ∧
      (h.storeToken MemoryTables.store frozenMint).2.storedToken MemoryTables.store
        "Solana" "So11" ≠
        .ok (some frozenMint) ∧
      ∃ d, Database.fresh.insert "t_token_info" last = .ok d ∧
        Database.store.LacksToken frozenMint d ∧
        (storeToken Database.store frozenMint
          ({ h with store := d } : Hub Database QueuedNetwork)).1 =
          .error (.database "database or disk is full") := by
  intro h last
  have hlacks : MemoryTables.store.LacksToken frozenMint h.store := fun row hrow => by cases hrow
  have hback : h.WritesBack MemoryTables.store frozenMint :=
    writesBack_of_insertToken isTidy_frozenMint (MemoryTables.insertToken_of_lacksToken rfl hlacks)
      (MemoryTables.findToken_append rfl hlacks)
  refine ⟨isTidy_frozenMint, hlacks, fun heq => ?_, ?_⟩
  · cases hback.2.symm.trans heq
  · refine ⟨_, rfl, ?_, by decide +kernel⟩
    intro row hrow
    cases hrow

end Hub

end CrossChain
