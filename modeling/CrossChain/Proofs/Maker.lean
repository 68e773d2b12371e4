import CrossChain.Maker
import CrossChain.Proofs.Lookup
import CrossChain.Proofs.Reload
import CrossChain.Proofs.Text

/-!
# The views of the makers

Three tables are joined into groups: a row of the first opens a group (`openGroups_eq`), and the
rows of the other two put ordinary and security addresses into the groups that are there
(`filled_eq`, `find?_filled`). Groups are looked up by id, by environment and by their ordinary
addresses; each view is that of the list of groups in the order of their ids (`build_eq`).

Main statement (`makers_published`): after a reload every group has the addresses that the rows
place in it, in their order, and all views show these groups; the group of an address is that of the
last ordinary row that places it. The proof goes by the rows that are accepted, which are those with
an address and a group (`decode_eq`, `not_isOk_decode`, `publishes_build`).
-/

namespace CrossChain

theorem Backend.addressKey_trim (b : Backend) (address : String) :
    b.addressKey (Text.trim address) = b.addressKey address := by
  simp only [addressKey, Text.trim_trim]

namespace MakerAddressRow

/-- The row has an address and a group that is there. -/
def isAccepted (groups : List MakerGroupRow) (r : MakerAddressRow) : Bool :=
  !(Text.trim r.address).isEmpty && groups.any (·.id = r.groupId)

def makerAddress (r : MakerAddressRow) : MakerAddress :=
  ⟨r.id, r.groupId, Backend.ofCode r.backend, Text.trim r.address⟩

/-- The row places an address of a family, up to the spellings that the family does not tell
apart. -/
def Places (groups : List MakerGroupRow) (b : Backend) (address : String) (r : MakerAddressRow) :
    Prop :=
  r.isAccepted groups = true ∧ Backend.ofCode r.backend = b ∧
    b.addressKey r.address = b.addressKey address

instance (groups : List MakerGroupRow) (b : Backend) (address : String) (r : MakerAddressRow) :
    Decidable (r.Places groups b address) :=
  inferInstanceAs (Decidable (_ ∧ _))

end MakerAddressRow

namespace MakerIndex

/-! ## Groups with their addresses -/

theorem openGroups_eq (rows : List MakerGroupRow) :
    openGroups rows = Lookup.keyed (·.id) (rows.map openGroup) := by
  rw [Lookup.keyed, List.foldl_map]
  rfl

theorem find?_openGroups (rows : List MakerGroupRow) (id : Int) :
    (openGroups rows).find? id = (rows.reverse.find? (·.id = id)).map openGroup :=
  Lookup.find?_foldl_insert MakerGroupRow.id openGroup rows id

theorem contains_openGroups (rows : List MakerGroupRow) (id : Int) :
    (openGroups rows).contains id = rows.any (·.id = id) := by
  rw [Lookup.contains, find?_openGroups, Option.isSome_map, Bool.eq_iff_iff, List.find?_isSome,
    List.any_eq_true]
  simp only [List.mem_reverse]

/-- The groups with all their addresses. -/
def filled (groups : Lookup Int MakerGroup) (addresses security : List MakerAddress) :
    Lookup Int MakerGroup :=
  security.foldl attachSecurity (addresses.foldl attach groups)

theorem filled_eq (groups : Lookup Int MakerGroup) (addresses security : List MakerAddress) :
    filled groups addresses security =
      ((groups.gathered (·.group)
        (fun g a => { g with addresses := g.addresses ++ [a] }) addresses).gathered (·.group)
        (fun g a => { g with securityAddresses := g.securityAddresses ++ [a] }) security) := rfl

theorem foldl_addresses (as : List MakerAddress) (g : MakerGroup) :
    as.foldl (fun g a => { g with addresses := g.addresses ++ [a] }) g =
      { g with addresses := g.addresses ++ as } := by
  induction as generalizing g with
  | nil => simp
  | cons a rest ih => simp [ih]

theorem foldl_securityAddresses (as : List MakerAddress) (g : MakerGroup) :
    as.foldl (fun g a => { g with securityAddresses := g.securityAddresses ++ [a] }) g =
      { g with securityAddresses := g.securityAddresses ++ as } := by
  induction as generalizing g with
  | nil => simp
  | cons a rest ih => simp [ih]

theorem find?_filled (groups : Lookup Int MakerGroup) (addresses security : List MakerAddress)
    (id : Int) :
    (filled groups addresses security).find? id = (groups.find? id).map fun g =>
      { g with
        addresses := g.addresses ++ addresses.filter (·.group = id)
        securityAddresses := g.securityAddresses ++ security.filter (·.group = id) } := by
  rw [filled_eq, Lookup.find?_gathered, Lookup.find?_gathered, Option.map_map]
  congr 1
  funext g
  rw [Function.comp_apply, foldl_addresses, foldl_securityAddresses]

theorem isKeyed_filled {groups : Lookup Int MakerGroup} (h : groups.IsKeyed (·.id))
    (addresses security : List MakerAddress) :
    (filled groups addresses security).IsKeyed (·.id) := by
  rw [filled_eq]
  refine Lookup.IsKeyed.gathered ?_ (Lookup.IsKeyed.gathered ?_ h addresses) security
  · exact fun _ _ => rfl
  · exact fun _ _ => rfl

/-! ## Views of a list of groups -/

theorem foldl_insert_eq (groupOf : Lookup (Backend × String) Int) (gs : List MakerGroup) :
    gs.foldl insert { empty with groupOf := groupOf } =
      ⟨.grouped (Text.lower ·.env) gs, .keyed (·.id) gs, groupOf⟩ := by
  suffices h : ∀ x : MakerIndex, gs.foldl insert x =
      ⟨gs.foldl (fun m g =>
          m.insert (Text.lower g.env) (((m.find? (Text.lower g.env)).getD []) ++ [g])) x.byEnv,
        gs.foldl (fun m g => m.insert g.id g) x.byId, x.groupOf⟩ from h _
  induction gs with
  | nil => exact fun _ => rfl
  | cons g rest ih => exact fun x => ih _

/-- The groups as they are listed in a generation. -/
def sorted (groups : Lookup Int MakerGroup) : List MakerGroup :=
  groups.values.mergeSort fun a b => a.id ≤ b.id

/-- The groups of addresses; of addresses with one key the last counts. -/
def owners (addresses : List MakerAddress) : Lookup (Backend × String) Int :=
  addresses.foldl (fun m a => m.insert (addressKey a) a.group) .empty

theorem build_eq (groups : Lookup Int MakerGroup) (addresses security : List MakerAddress) :
    build groups addresses security =
      ⟨.grouped (Text.lower ·.env) (sorted (filled groups addresses security)),
        .keyed (·.id) (sorted (filled groups addresses security)),
        owners addresses⟩ :=
  foldl_insert_eq _ _

theorem mem_sorted {groups : Lookup Int MakerGroup} {g : MakerGroup} : g ∈ sorted groups ↔
    g ∈ groups.values :=
  (List.mergeSort_perm _ _).mem_iff

/-- Groups of different ids are sorted strictly. -/
theorem pairwise_sorted {groups : Lookup Int MakerGroup} (h : groups.IsKeyed (·.id)) :
    (sorted groups).Pairwise (·.id < ·.id) := by
  have hsorted : (sorted groups).Pairwise fun a b => decide (a.id ≤ b.id) = true :=
    List.pairwise_mergeSort (fun a b c hab hbc => by
      rw [decide_eq_true_eq] at hab hbc ⊢
      exact Int.le_trans hab hbc) (fun a b => by simpa using Int.le_total a.id b.id) groups.values
  have hapart : (sorted groups).Pairwise (·.id ≠ ·.id) :=
    ((List.mergeSort_perm _ _).pairwise_iff fun hne => hne.symm).mpr h.pairwise_values
  refine (List.pairwise_and_iff.mpr ⟨hsorted, hapart⟩).imp fun ⟨hle, hne⟩ => ?_
  exact Int.lt_iff_le_and_ne.mpr ⟨of_decide_eq_true hle, hne⟩

/-- The sorted groups are found by their ids as they were before. -/
theorem find?_keyed_sorted {groups : Lookup Int MakerGroup} (h : groups.IsKeyed (·.id)) (id : Int) :
    (Lookup.keyed (·.id) (sorted groups)).find? id = groups.find? id := by
  have hvalues : (Lookup.keyed (·.id) (sorted groups)).values = sorted groups :=
    Lookup.values_keyed ((pairwise_sorted h).imp Int.ne_of_lt)
  ext g
  rw [(Lookup.isKeyed_keyed _ _).find?_eq_some_iff, h.find?_eq_some_iff, hvalues, mem_sorted]

/-! ## Generations of a reload -/

theorem decode_eq {table : String} {groups : List MakerGroupRow} (r : MakerAddressRow)
    (h : r.isAccepted groups = true) : decode table (openGroups groups) r = .ok r.makerAddress := by
  simp only [MakerAddressRow.isAccepted, Bool.and_eq_true, Bool.not_eq_true'] at h
  rw [decode, contains_openGroups, h.1, h.2]
  rfl

theorem not_isOk_decode {table : String} {groups : List MakerGroupRow} (r : MakerAddressRow)
    (h : r.isAccepted groups = false) : (decode table (openGroups groups) r).isOk = false := by
  rw [decode, contains_openGroups]
  cases haddress : (Text.trim r.address).isEmpty with
  | true => rfl
  | false =>
    have hgroup : (groups.any (·.id = r.groupId)) = false := by
      simpa only [MakerAddressRow.isAccepted, haddress, Bool.not_false, Bool.true_and] using h
    rw [hgroup]
    rfl

/-- The addresses that rows place in a group, in their order. -/
def placed (groups : List MakerGroupRow) (rows : List MakerAddressRow) (id : Int) :
    List MakerAddress :=
  (rows.filter fun r => r.isAccepted groups && decide (r.groupId = id)).map (·.makerAddress)

/-- The group of an id: that of the last row with it, with the addresses that are placed there. -/
def group? (groups : List MakerGroupRow) (addresses security : List MakerAddressRow) (id : Int) :
    Option MakerGroup :=
  (groups.reverse.find? (·.id = id)).map fun g =>
    ⟨g.id, Text.trim g.groupName, Text.trim g.env, placed groups addresses id,
      placed groups security id⟩

/-- What a reload of the three tables publishes. The views by id and by environment show the same
groups, each of which is in the list of its environment and in no other. An address is found as the
last of its ordinary rows has it, and one that has only security rows is not found. -/
structure Publishes (groups : List MakerGroupRow) (addresses security : List MakerAddressRow)
    (x : MakerIndex) : Prop where
  withId? : ∀ id, x.withId? id = group? groups addresses security id
  mem_inEnv : ∀ env g, g ∈ x.inEnv env ↔
    x.withId? g.id = some g ∧ Text.folded env = Text.folded g.env
  ascending : ∀ env, (x.inEnv env).Pairwise (·.id < ·.id)
  groupOf? : ∀ b address,
    x.groupOf? b address = (addresses.reverse.find? (·.Places groups b address)).map (·.groupId)
  groupOf?_of_security : ∀ r ∈ security, (∀ r' ∈ addresses, ¬ r'.Places groups
    (.ofCode r.backend) r.address) →
    x.groupOf? (.ofCode r.backend) r.address = none

theorem trim_env_of_group? {groups : List MakerGroupRow} {addresses security : List MakerAddressRow}
    {id : Int} {g : MakerGroup} (h : group? groups addresses security id = some g) :
    Text.trim g.env = g.env := by
  obtain ⟨r, -, rfl⟩ := Option.map_eq_some_iff.mp h
  exact Text.trim_trim r.env

/-- The addresses of the rows that are accepted. -/
def accepted (groups : List MakerGroupRow) (rows : List MakerAddressRow) : List MakerAddress :=
  (rows.filter (·.isAccepted groups)).map (·.makerAddress)

variable {groups : List MakerGroupRow}

theorem filter_accepted (rows : List MakerAddressRow) (id : Int) :
    (accepted groups rows).filter (·.group = id) = placed groups rows id := by
  rw [accepted, List.filter_map, List.filter_filter, placed]
  refine congrArg (List.map _) (List.filter_congr fun r _ => ?_)
  exact Bool.and_comm _ _

theorem find?_owners (rows : List MakerAddressRow) (b : Backend) (address : String) :
    (owners (accepted groups rows)).find? (b, b.addressKey address) =
      (rows.reverse.find? (·.Places groups b address)).map (·.groupId) := by
  rw [owners, Lookup.find?_foldl_insert, accepted,
    find?_reverse_map_filter (q := (·.Places groups b address)) fun r => ?_, Option.map_map]
  · rfl
  · rw [decide_eq_true_eq, decide_eq_true_eq, addressKey, Prod.mk.injEq]
    refine and_congr_right fun _ => and_congr_right fun hb => ?_
    change _ ↔ (Backend.ofCode r.backend).addressKey (Text.trim r.address) = _
    rw [hb, Backend.addressKey_trim]

theorem find?_filled_accepted (addresses security : List MakerAddressRow) (id : Int) :
    (filled (openGroups groups) (accepted groups addresses) (accepted groups security)).find? id =
      group? groups addresses security id := by
  rw [find?_filled, find?_openGroups, filter_accepted, filter_accepted, Option.map_map]
  rfl

theorem publishes_build (addresses security : List MakerAddressRow) :
    Publishes groups addresses security
    (build (openGroups groups) (accepted groups addresses) (accepted groups security)) := by
  have hkeyed : (openGroups groups).IsKeyed (·.id) :=
    openGroups_eq groups ▸ Lookup.isKeyed_keyed _ _
  have hfilled := isKeyed_filled hkeyed (accepted groups addresses) (accepted groups security)
  have hgroups := @find?_filled_accepted groups addresses security
  have howners := @find?_owners groups addresses
  rw [build_eq]
  generalize filled (openGroups groups) (accepted groups addresses) (accepted groups security) = gs
    at hfilled hgroups
  constructor
  · exact fun id => (find?_keyed_sorted hfilled id).trans (hgroups id)
  · intro env g
    rw [inEnv, Lookup.getD_find?_grouped, MakerIndex.withId?, List.mem_filter, decide_eq_true_eq,
      mem_sorted, hfilled.mem_values, find?_keyed_sorted hfilled, hgroups]
    refine and_congr_right fun hg => ?_
    rw [Text.folded, Text.folded, trim_env_of_group? hg, eq_comm]
  · intro env
    rw [inEnv, Lookup.getD_find?_grouped]
    exact (pairwise_sorted hfilled).filter _
  · exact howners
  · intro r _ hr
    rw [MakerIndex.groupOf?, howners,
      List.find?_eq_none.mpr fun r' hr' => by simpa using hr r' (List.mem_reverse.mp hr')]
    rfl

/-- Whatever the tables hold and whatever a reload finds live, it publishes the groups of the rows
and counts the rows that it accepts and leaves out. -/
theorem makers_published (groups : List MakerGroupRow) (addresses security : List MakerAddressRow)
    (previous : MakerIndex) :
    (reload (.ok groups) (.ok addresses) (.ok security)).report.isOk = true ∧
      Publishes groups addresses security
        ((reload (.ok groups) (.ok addresses) (.ok security)).live previous) := by
  obtain ⟨hordinary, -⟩ := Reload.decodeRows_of_iff (@decode_eq addressTable groups)
    (@not_isOk_decode addressTable groups) addresses
  obtain ⟨hsecure, -⟩ := Reload.decodeRows_of_iff (@decode_eq securityTable groups)
    (@not_isOk_decode securityTable groups) security
  have hlive : (reload (.ok groups) (.ok addresses) (.ok security)).live previous =
      build (openGroups groups) (accepted groups addresses) (accepted groups security) := by
    rw [accepted, accepted, ← hordinary, ← hsecure]
    rfl
  refine ⟨rfl, ?_⟩
  rw [hlive]
  exact publishes_build addresses security

end MakerIndex

end CrossChain
