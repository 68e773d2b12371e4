import CrossChain.Cache.Basic

/-!
# Concurrent reads

Reads of one key that miss share one fetch: each takes the key's gate, and only the caller at the
front of a gate's queue may fetch. The gate of a key stands in a table from which the caller that
fetched removes it, while callers that took it before keep it. Events are the points at which a
caller waits: it arrives, its turn at the gate comes, or its fetch ends.
-/

namespace CrossChain.Cache

/-- Where a read stands. -/
inductive Caller (α : Type) where
  | waiting (key : String) (gate : Nat)
  | fetching (key : String) (gate : Nat)
  | finished (result : Except Error α)

/-- A cache with its gates and the reads begun so far. `queues` holds, for each gate, the callers
that have taken it, the holder first. -/
structure Flight (α : Type) where
  cache : Cache α
  gates : Lookup String Nat
  queues : List (List Nat)
  callers : List (Caller α)

inductive FlightEvent (α : Type) where
  | arrive (key : String)
  | resume (caller : Nat)
  | fetched (caller : Nat) (result : Except Error α)

namespace Flight

variable {α : Type}

def start (c : Cache α) : Flight α := ⟨c, Lookup.empty, [], []⟩

/-- The callers that have taken a gate, the holder first. -/
def queue (f : Flight α) (gate : Nat) : List Nat := f.queues.getD gate []

/-- The gate of a key, made if the table has none. -/
def gateOf (f : Flight α) (key : String) : Nat × Flight α :=
  match f.gates.find? key with
  | some gate => (gate, f)
  | none =>
    let gate := f.queues.length
    (gate, { f with gates := f.gates.insert key gate, queues := f.queues ++ [[]] })

def enqueue (f : Flight α) (gate caller : Nat) : Flight α :=
  { f with queues := f.queues.modify gate (· ++ [caller]) }

def release (f : Flight α) (gate : Nat) : Flight α :=
  { f with queues := f.queues.modify gate List.tail }

def setCaller (f : Flight α) (caller : Nat) (state : Caller α) : Flight α :=
  { f with callers := f.callers.set caller state }

/-- The holder of a gate looks once more for an entry, and fetches if there is none. -/
def enter (now : Nat) (f : Flight α) (caller : Nat) (key : String) (gate : Nat) : Flight α :=
  match f.cache.hit now key with
  | (some value, c) =>
    ({ f with cache := c }.setCaller caller (.finished (.ok value))).release gate
  | (none, c) => { f with cache := c }.setCaller caller (.fetching key gate)

/-- A new read, up to its first wait. -/
def arrive (now : Nat) (f : Flight α) (key : String) : Flight α :=
  let caller := f.callers.length
  match f.cache.hit now key with
  | (some value, c) => { f with cache := c, callers := f.callers ++ [.finished (.ok value)] }
  | (none, c) =>
    let (gate, f) := { f with cache := c }.gateOf key
    let free := (f.queue gate).isEmpty
    let f := { f with callers := f.callers ++ [Caller.waiting key gate] }.enqueue gate caller
    if free then f.enter now caller key gate else f

/-- A waiting caller goes on when it has become the holder of its gate. -/
def resume (now : Nat) (f : Flight α) (caller : Nat) : Flight α :=
  match f.callers[caller]? with
  | some (.waiting key gate) =>
    if (f.queue gate).head? = some caller then f.enter now caller key gate else f
  | _ => f

/-- A foreground fetch ends: a value makes the entry, the key's gate leaves the table and the holder
lets its own gate go. -/
def fetched (now : Nat) (f : Flight α) (caller : Nat) (result : Except Error α) : Flight α :=
  match f.callers[caller]? with
  | some (.fetching key gate) =>
    let cache := match result with
      | .ok value => f.cache.put now key value
      | .error _ => f.cache
    ({ f with cache := cache, gates := f.gates.erase key }.setCaller caller
      (.finished result)).release gate
  | _ => f

def step (now : Nat) (f : Flight α) : FlightEvent α → Flight α
  | .arrive key => f.arrive now key
  | .resume caller => f.resume now caller
  | .fetched caller result => f.fetched now caller result

def run (now : Nat) (f : Flight α) (events : List (FlightEvent α)) : Flight α :=
  events.foldl (step now) f

/-- The number of foreground fetches of a key in progress. -/
def fetchesOf (f : Flight α) (key : String) : Nat :=
  f.callers.countP fun
    | .fetching k _ => k == key
    | _ => false

end Flight

end CrossChain.Cache
