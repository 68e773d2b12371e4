import CrossChain.Backend
import CrossChain.Lookup
import CrossChain.Reload
import CrossChain.Store.Row
import CrossChain.Text.Folded

/-!
# Makers

Groups of addresses that make markets, each in an environment, with their ordinary and their
security addresses. Three tables make a generation, and a failure of any of the three queries keeps
the live one, since a group without its addresses would misroute funds.
-/

namespace CrossChain

structure MakerAddress where
  id : Int
  group : Int
  backend : Backend
  address : String
  deriving DecidableEq, Repr

/-- A group with its addresses, in the order of their rows. -/
structure MakerGroup where
  id : Int
  name : String
  env : String
  addresses : List MakerAddress
  securityAddresses : List MakerAddress
  deriving DecidableEq, Repr

structure MakerIndex where
  byEnv : Lookup String (List MakerGroup)
  byId : Lookup Int MakerGroup
  groupOf : Lookup (Backend × String) Int

namespace MakerIndex

def empty : MakerIndex := ⟨.empty, .empty, .empty⟩

/-! ## Look-ups -/

def inEnv (x : MakerIndex) (env : String) : List MakerGroup :=
  (x.byEnv.find? (Text.folded env)).getD []

def withId? (x : MakerIndex) (id : Int) : Option MakerGroup := x.byId.find? id

/-- The group that an ordinary address belongs to. -/
def groupOf? (x : MakerIndex) (b : Backend) (address : String) : Option Int :=
  x.groupOf.find? (b, b.addressKey address)

/-! ## Building -/

def groupTable : String := "t_maker_address_groups"

def addressTable : String := "t_maker_addresses"

def securityTable : String := "t_security_addresses"

def openGroup (r : MakerGroupRow) : MakerGroup :=
  ⟨r.id, Text.trim r.groupName, Text.trim r.env, [], []⟩

/-- The groups by id; of rows with one id the last counts. -/
def openGroups (rows : List MakerGroupRow) : Lookup Int MakerGroup :=
  rows.foldl (fun m r => m.insert r.id (openGroup r)) .empty

/-- The address of a row. An address and a known group are required. -/
def decode (table : String) (groups : Lookup Int MakerGroup) (r : MakerAddressRow) :
    Except Alert MakerAddress :=
  let address := Text.trim r.address
  if address.isEmpty then
    .error (Reload.skipped table (toString r.id) (.missingField "address"))
  else if groups.contains r.groupId then
    .ok ⟨r.id, r.groupId, Backend.ofCode r.backend, address⟩
  else
    .error (Reload.skipped table (toString r.id)
      (.invalidValue "group_id" s!"no group {r.groupId}"))

def addressKey (a : MakerAddress) : Backend × String := (a.backend, a.backend.addressKey a.address)

def attach (groups : Lookup Int MakerGroup) (a : MakerAddress) : Lookup Int MakerGroup :=
  groups.adjust a.group fun g => { g with addresses := g.addresses ++ [a] }

def attachSecurity (groups : Lookup Int MakerGroup) (a : MakerAddress) : Lookup Int MakerGroup :=
  groups.adjust a.group fun g => { g with securityAddresses := g.securityAddresses ++ [a] }

/-- Adds a finished group to its environment and under its id. -/
def insert (x : MakerIndex) (g : MakerGroup) : MakerIndex :=
  let env := Text.lower g.env
  { x with
    byEnv := x.byEnv.insert env (((x.byEnv.find? env).getD []) ++ [g])
    byId := x.byId.insert g.id g }

def build (groups : Lookup Int MakerGroup) (addresses security : List MakerAddress) : MakerIndex :=
  let filled := security.foldl attachSecurity (addresses.foldl attach groups)
  let groupOf := addresses.foldl (fun m a => m.insert (addressKey a) a.group) Lookup.empty
  let sorted := filled.values.mergeSort fun a b => a.id ≤ b.id
  sorted.foldl insert { empty with groupOf := groupOf }

def reload (groups : Except Error (List MakerGroupRow))
    (addresses security : Except Error (List MakerAddressRow)) : Reload MakerIndex :=
  match groups, addresses, security with
  | .error e, _, _ => Reload.queryFailed groupTable e
  | .ok _, .error e, _ => Reload.queryFailed addressTable e
  | .ok _, .ok _, .error e => Reload.queryFailed securityTable e
  | .ok groups, .ok addresses, .ok security =>
    let known := openGroups groups
    let (ordinary, ordinaryAlerts) := Reload.decodeRows (decode addressTable known) addresses
    let (secure, secureAlerts) := Reload.decodeRows (decode securityTable known) security
    let next := build known ordinary secure
    let alerts := ordinaryAlerts ++ secureAlerts
    ⟨.ok (next, ⟨next.byId.size, alerts.length⟩), alerts⟩

end MakerIndex

end CrossChain
