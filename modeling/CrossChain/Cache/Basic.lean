import CrossChain.Error
import CrossChain.Lookup

/-!
# Refreshing caches

A hit answers at once. When the value is older than the refresh window a background fetch of the key
is queued; its failure keeps the value. An entry that was not read for the expiry window is dropped,
and the next read fetches. Times are given by the caller; `get` is a read whose fetch ends before
the next step, `settle` runs the queued fetches.
-/

namespace CrossChain

structure RefreshPolicy where
  refreshAfter : Nat
  expireAfterIdle : Nat
  deriving DecidableEq, Repr

/-- A cached value. `refreshing` holds while a background fetch of the key is queued. -/
structure CacheEntry (α : Type) where
  value : α
  fetchedAt : Nat
  lastRead : Nat
  refreshing : Bool

/-- A cache: its entries and the keys whose background fetch is queued, oldest first. -/
structure Cache (α : Type) where
  policy : RefreshPolicy
  entries : Lookup String (CacheEntry α)
  queued : List String

namespace Cache

variable {α σ : Type}

/-- What loads the value of a key; it may change the state `σ` of what it reads. -/
abbrev Fetcher (σ α : Type) := String → σ → Except Error α × σ

def empty (policy : RefreshPolicy) : Cache α := ⟨policy, Lookup.empty, []⟩

def size (c : Cache α) : Nat := c.entries.size

def isEmpty (c : Cache α) : Bool := c.entries.isEmpty

/-- The entry has not been read for the expiry window. -/
def isIdle (p : RefreshPolicy) (now : Nat) (e : CacheEntry α) : Bool :=
  p.expireAfterIdle ≤ now - e.lastRead

/-- The value is old enough for a background fetch, and none is queued. -/
def isDue (p : RefreshPolicy) (now : Nat) (e : CacheEntry α) : Bool :=
  p.refreshAfter ≤ now - e.fetchedAt && !e.refreshing

/-- The value of a live entry. The read counts; an idle entry is dropped; a background fetch that is
due is queued. -/
def hit (c : Cache α) (now : Nat) (key : String) : Option α × Cache α :=
  match c.entries.find? key with
  | none => (none, c)
  | some e =>
    if isIdle c.policy now e then (none, { c with entries := c.entries.erase key })
    else
      let due := isDue c.policy now e
      let read := { e with lastRead := now, refreshing := e.refreshing || due }
      let queued := if due then c.queued ++ [key] else c.queued
      (some e.value, { c with entries := c.entries.insert key read, queued := queued })

/-- Makes the entry of a key that was fetched in the foreground. -/
def put (c : Cache α) (now : Nat) (key : String) (value : α) : Cache α :=
  { c with entries := c.entries.insert key ⟨value, now, now, false⟩ }

/-- Takes the result of a background fetch: a failure keeps the value, a dropped entry stays
dropped. -/
def refreshed (c : Cache α) (now : Nat) (key : String) (result : Except Error α) : Cache α :=
  { c with entries := c.entries.adjust key fun e =>
      match result with
      | .ok value => { e with value := value, fetchedAt := now, refreshing := false }
      | .error _ => { e with refreshing := false } }

/-- A read: a hit, or a fetch whose failure makes no entry. -/
def get (fetch : Fetcher σ α) (now : Nat) (key : String) (c : Cache α) (s : σ) :
    Except Error α × Cache α × σ :=
  match c.hit now key with
  | (some value, c) => (.ok value, c, s)
  | (none, c) =>
    match fetch key s with
    | (.ok value, s) => (.ok value, c.put now key value, s)
    | (.error e, s) => (.error e, c, s)

def getAll (fetch : Fetcher σ α) (now : Nat) (keys : List String) (c : Cache α) (s : σ) :
    List (Except Error α) × Cache α × σ :=
  match keys with
  | [] => ([], c, s)
  | key :: rest =>
    let (first, c, s) := c.get fetch now key s
    let (others, c, s) := getAll fetch now rest c s
    (first :: others, c, s)

def refreshAll (fetch : Fetcher σ α) (now : Nat) (keys : List String) (c : Cache α) (s : σ) :
    Cache α × σ :=
  match keys with
  | [] => (c, s)
  | key :: rest =>
    let (result, s) := fetch key s
    refreshAll fetch now rest (c.refreshed now key result) s

/-- Runs the queued background fetches to their ends. -/
def settle (fetch : Fetcher σ α) (now : Nat) (c : Cache α) (s : σ) : Cache α × σ :=
  refreshAll fetch now c.queued { c with queued := [] } s

def sweep (c : Cache α) (now : Nat) : Cache α :=
  { c with entries := c.entries.filter fun _ e => !isIdle c.policy now e }

def evictIdle (c : Cache α) (now : Nat) : Nat × Cache α :=
  let swept := c.sweep now
  (c.size - swept.size, swept)

end Cache

end CrossChain
