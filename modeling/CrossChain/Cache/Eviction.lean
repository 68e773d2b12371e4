import CrossChain.Cache.Basic

/-!
# Evictions beside other callers

An eviction reads the size of the map, drops the idle entries and reads the size again; other
callers may insert entries before, between and after the three. `run` follows such an order of
events, each at its time, and records what was read and how many entries were dropped.
-/

namespace CrossChain.Cache

/-- What may happen to the map while an eviction runs. -/
inductive EvictionEvent (α : Type) where
  | readSize
  | dropIdle
  | insert (key : String) (value : α)

/-- The map, the two sizes read and the number of entries dropped, as far as the eviction has
come. -/
structure Eviction (α : Type) where
  cache : Cache α
  before : Option Nat
  dropped : Option Nat
  after : Option Nat

namespace Eviction

variable {α : Type}

def start (c : Cache α) : Eviction α := ⟨c, none, none, none⟩

/-- One event; the eviction's own three come in their order. -/
def step (now : Nat) (e : Eviction α) : EvictionEvent α → Eviction α
  | .insert key value => { e with cache := e.cache.put now key value }
  | .readSize =>
    match e.before, e.dropped with
    | none, _ => { e with before := some e.cache.size }
    | some _, some _ => { e with after := some e.cache.size }
    | some _, none => e
  | .dropIdle =>
    match e.before, e.dropped with
    | some _, none =>
      let swept := e.cache.sweep now
      { e with cache := swept, dropped := some (e.cache.size - swept.size) }
    | _, _ => e

def run (e : Eviction α) (events : List (Nat × EvictionEvent α)) : Eviction α :=
  events.foldl (fun e x => e.step x.1 x.2) e

/-- The number an eviction answers: the difference of the sizes, none if it would be negative. -/
def answer (e : Eviction α) : Option Nat :=
  match e.before, e.after with
  | some before, some after => if after ≤ before then some (before - after) else none
  | _, _ => none

end Eviction

end CrossChain.Cache
