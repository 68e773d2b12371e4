import CrossChain.Cache.Eviction
import CrossChain.Proofs.Lookup

/-!
# The count of an eviction

An eviction reads the size of the map, drops the entries that are idle and reads the size again,
while other callers insert entries at any moment (`IsEviction`). What it has dropped and what is
left make up what it read at first and what was added since (`Balanced`); insertions and the three
operations keep this (`Balanced.insert`, `Balanced.operation`), and so does a run (`Balanced.run`).

Main statement (`isCounted_run_iff`): an eviction drops the entries that are idle at its second
operation. It answers their number exactly when no entry is added between its two reads of the size,
and its subtraction underflows exactly when more are added there than it drops.
-/

namespace CrossChain.Cache

variable {α : Type}

/-! ## Sizes -/

/-- The number of entries that have not been read for the expiry window. -/
def idle (c : Cache α) (now : Nat) : Nat :=
  c.entries.entries.countP fun e => isIdle c.policy now e.2

theorem size_sweep (c : Cache α) (now : Nat) : (c.sweep now).size + c.idle now = c.size := by
  have hparts :=
    List.length_eq_countP_add_countP (fun e => isIdle c.policy now e.2) (l := c.entries.entries)
  have hleft : (c.sweep now).size = c.entries.entries.countP fun e => !isIdle c.policy now e.2 :=
    List.countP_eq_length_filter.symm
  rw [hleft, idle, Nat.add_comm]
  simpa [size, Lookup.size] using hparts.symm

theorem size_put (c : Cache α) (now : Nat) (key : String) (value : α) :
    (c.put now key value).size = c.size + if c.entries.contains key then 0 else 1 :=
  Lookup.size_insert ..

/-! ## Orders of events -/

/-- The event is an operation of the eviction itself. -/
def EvictionEvent.isOperation : EvictionEvent α → Bool
  | .insert _ _ => false
  | .readSize | .dropIdle => true

/-- The operations among events, in their order. -/
def operations (events : List (Nat × EvictionEvent α)) : List (EvictionEvent α) :=
  (events.map (·.2)).filter EvictionEvent.isOperation

/-- An eviction beside other callers: its three operations are made in their order, and insertions
stand anywhere. -/
def IsEviction (events : List (Nat × EvictionEvent α)) : Prop :=
  operations events = [.readSize, .dropIdle, .readSize]

theorem operations_append (front back : List (Nat × EvictionEvent α)) :
    operations (front ++ back) = operations front ++ operations back := by
  rw [operations, List.map_append, List.filter_append]
  rfl

/-- What comes before an operation, and what behind it. -/
theorem exists_of_operations_eq_append {events : List (Nat × EvictionEvent α)}
    {before after : List (EvictionEvent α)}
    {operation : EvictionEvent α} (h : operations events = before ++ operation :: after) :
    ∃ front now back, events = front ++ (now, operation) :: back ∧ operations front = before := by
  obtain ⟨front, rest, hevents, hfront, hrest⟩ := List.filter_eq_append_iff.mp h
  obtain ⟨inserts, back, rfl, hinserts, -, -⟩ := List.filter_eq_cons_iff.mp hrest
  obtain ⟨front', rest', rfl, rfl, hrest'⟩ := List.map_eq_append_iff.mp hevents
  obtain ⟨inserts', back', rfl, rfl, hback⟩ := List.map_eq_append_iff.mp hrest'
  obtain ⟨⟨now, -⟩, back'', rfl, rfl, -⟩ := List.map_eq_cons_iff.mp hback
  refine ⟨front' ++ inserts', now, back'', (List.append_assoc ..).symm, ?_⟩
  rw [operations_append, ← List.append_nil before]
  exact congrArg₂ (· ++ ·) hfront (List.filter_eq_nil_iff.mpr hinserts)

namespace Eviction

variable {e : Eviction α} {n : Nat} {ops : List (EvictionEvent α)}

/-- An event adds an entry: a key without one is inserted between the two reads of the size. -/
def adds (e : Eviction α) : EvictionEvent α → Bool
  | .insert key _ => e.before.isSome && e.after.isNone && !e.cache.entries.contains key
  | _ => false

/-- The number of entries that events add between the two reads of the size. -/
def added (e : Eviction α) : List (Nat × EvictionEvent α) → Nat
  | [] => 0
  | (now, event) :: rest => (if e.adds event then 1 else 0) + (e.step now event).added rest

/-- The answer is the number of entries that were dropped. An eviction whose subtraction has
underflowed has no answer. -/
def IsCounted (e : Eviction α) : Prop := ∃ n, e.dropped = some n ∧ e.answer = some n

/-! ## The balance of an eviction -/

/-- An eviction, the number of entries added since its first read of the size and its operations to
come: what it has dropped and what is there make up what it read and what was added. -/
inductive Balanced : Eviction α → Nat → List (EvictionEvent α) → Prop
  | started {c} : Balanced ⟨c, none, none, none⟩ 0 [.readSize, .dropIdle, .readSize]
  | counted {c before n} (h : c.size = before + n) :
    Balanced ⟨c, some before, none, none⟩ n [.dropIdle, .readSize]
  | swept {c before dropped n} (h : c.size + dropped = before + n) :
    Balanced ⟨c, some before, some dropped, none⟩ n [.readSize]
  | ended {c before dropped after n} (h : after + dropped = before + n) :
    Balanced ⟨c, some before, some dropped, some after⟩ n []

theorem step_dropIdle {c : Cache α} {before now : Nat} :
    step now ⟨c, some before, none, none⟩ .dropIdle =
      ⟨c.sweep now, some before, some (c.idle now), none⟩ := by
  have hsize := c.size_sweep now
  have hidle : c.size - (c.sweep now).size = c.idle now := by omega
  rw [← hidle]
  rfl

theorem size_step_insert (hbefore : e.before.isSome) (hafter : e.after.isNone) (now : Nat)
    (key : String) (value : α) :
    (e.step now (.insert key value)).cache.size = e.cache.size +
      if e.adds (.insert key value) then 1 else 0 := by
  refine (e.cache.size_put now key value).trans ?_
  rw [adds, hbefore, hafter]
  cases e.cache.entries.contains key <;> rfl

theorem Balanced.insert (h : Balanced e n ops) (now : Nat) (key : String) (value : α) :
    Balanced (e.step now (.insert key value))
      (n + if e.adds (.insert key value) then 1 else 0) ops := by
  cases h with
  | started => exact .started
  | @counted c before n h =>
    have hsize := size_step_insert (e := ⟨c, some before, none, none⟩) rfl rfl now key value
    refine .counted (hsize.trans ?_)
    rw [h, Nat.add_assoc]
  | @swept c before dropped n h =>
    have hsize := size_step_insert (e := ⟨c, some before, some dropped, none⟩) rfl rfl now key value
    refine .swept ((congrArg (· + dropped) hsize).trans ?_)
    dsimp only
    rw [Nat.add_right_comm, h, Nat.add_assoc]
  | ended h => exact .ended h

theorem Balanced.operation {operation : EvictionEvent α} (h : Balanced e n (operation :: ops))
    (now : Nat) :
    Balanced (e.step now operation) n ops := by
  cases h with
  | started => exact .counted rfl
  | counted h =>
    rw [step_dropIdle]
    exact .swept ((size_sweep _ now).trans h)
  | swept h => exact .ended h

theorem Balanced.run (events : List (Nat × EvictionEvent α))
    (h : Balanced e n (operations events ++ ops)) :
    Balanced (e.run events) (n + e.added events) ops := by
  induction events generalizing e n with
  | nil => exact h
  | cons x rest ih =>
    obtain ⟨now, event⟩ := x
    rw [added, ← Nat.add_assoc]
    cases event with
    | insert key value => exact ih (h.insert now key value)
    | readSize => exact ih (h.operation now)
    | dropIdle => exact ih (h.operation now)

/-! ## The count -/

theorem dropped_step {d : Nat} (h : e.dropped = some d) (now : Nat) (event : EvictionEvent α) :
    (e.step now event).dropped = some d := by
  obtain ⟨c, before, dropped, after⟩ := e
  obtain rfl : dropped = some d := h
  cases event <;> cases before <;> rfl

theorem dropped_run {d : Nat} (h : e.dropped = some d) (events : List (Nat × EvictionEvent α)) :
    (e.run events).dropped = some d := by
  induction events generalizing e with
  | nil => exact h
  | cons x rest ih => exact ih (dropped_step h x.1 x.2)

theorem Balanced.dropped_dropIdle (h : Balanced e n (.dropIdle :: ops)) (now : Nat) :
    (e.step now .dropIdle).dropped = some (e.cache.idle now) := by
  cases h with
  | counted h => rw [step_dropIdle]

theorem Balanced.isCounted_iff {d : Nat} (h : Balanced e n []) (hd : e.dropped = some d) :
    (e.IsCounted ↔ n = 0) ∧ (e.answer = none ↔ d < n) := by
  cases h with
  | @ended c before dropped after n h =>
    obtain rfl : dropped = d := Option.some.inj hd
    have hanswer : (⟨c, some before, some dropped, some after⟩ : Eviction α).answer =
      if after ≤ before then some (before - after) else none := rfl
    rw [IsCounted, hanswer]
    by_cases hle : after ≤ before
    · rw [if_pos hle]
      simp
      omega
    · rw [if_neg hle]
      simp
      omega

/-- Beside any insertions an eviction drops the entries that are idle at its second operation; its
answer is their number exactly when none is added between its reads, and there is no answer when
more are. -/
theorem isCounted_run_iff (c : Cache α) {events : List (Nat × EvictionEvent α)}
    (h : IsEviction events) :
    ∃ front now back, events = front ++ (now, .dropIdle) :: back ∧
      ((start c).run events).dropped = some (((start c).run front).cache.idle now) ∧
      (((start c).run events).IsCounted ↔ (start c).added events = 0) ∧
      (((start c).run events).answer = none ↔
        ((start c).run front).cache.idle now < (start c).added events) := by
  have hended : Balanced ((start c).run events) (0 + (start c).added events) [] :=
    Balanced.run events (by rw [h]; exact .started)
  obtain ⟨front, now, back, hevents, hfront⟩ :=
    exists_of_operations_eq_append (show operations events = [.readSize] ++
      .dropIdle :: [.readSize] from h)
  have hread : Balanced ((start c).run front) (0 + (start c).added front) [.dropIdle, .readSize] :=
    Balanced.run front (by rw [hfront]; exact .started)
  have hdropped : ((start c).run events).dropped = some (((start c).run front).cache.idle now) := by
    rw [hevents, run, List.foldl_append, List.foldl_cons]
    exact dropped_run (hread.dropped_dropIdle now) back
  rw [Nat.zero_add] at hended
  exact ⟨front, now, back, hevents, hdropped, hended.isCounted_iff hdropped⟩

/-- An insertion before the eviction, and one under a key whose entry stays. -/
theorem isCounted_run_sample :
    let c : Cache Nat := (empty ⟨100, 4⟩).put 0 "a" 7
    let events : List (Nat × EvictionEvent Nat) :=
      [(2, .insert "b" 8), (5, .readSize), (5, .dropIdle), (6, .insert "b" 9), (6, .readSize)]
    IsEviction events ∧ ((start c).run events).IsCounted := by
  refine ⟨rfl, ?_⟩
  obtain ⟨-, -, -, -, -, hcounted, -⟩ := isCounted_run_iff ((empty ⟨100, 4⟩).put 0 "a" 7)
    (rfl : IsEviction [(2, .insert "b" 8), (5, .readSize), (5, .dropIdle), (6, .insert "b" 9),
      (6, .readSize)])
  exact hcounted.mpr rfl

/-- A new key is inserted between the last two operations: where nothing was idle there is no
answer, and for one idle entry that was dropped it is zero. -/
theorem not_isCounted_newcomer :
    let events : List (Nat × EvictionEvent Nat) :=
      [(5, .readSize), (5, .dropIdle), (5, .insert "b" 8), (5, .readSize)]
    let noneIdle := (start (empty ⟨100, 4⟩)).run events
    let oneIdle := (start ((empty ⟨100, 4⟩).put 0 "a" 7)).run events
    IsEviction events ∧ (noneIdle.answer = none ∧ ¬ noneIdle.IsCounted) ∧
      oneIdle.answer = some 0 ∧ ¬ oneIdle.IsCounted := by
  refine ⟨rfl, ⟨rfl, ?_⟩, rfl, ?_⟩
  · rintro ⟨n, -, hanswer⟩
    cases hanswer
  · rintro ⟨n, hdropped, hanswer⟩
    cases hdropped
    cases hanswer

end Eviction

end CrossChain.Cache
