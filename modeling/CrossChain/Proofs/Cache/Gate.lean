import CrossChain.Cache.Flight
import CrossChain.Proofs.Cache.Diary

/-!
# Queues at the gates

A read that has not ended has a place: its key and the gate that it waits or fetches at. In an
orderly cache (`Orderly`) every such read stands in the queue of its gate, and first if it fetches,
so that at most one read fetches at a gate.

A read joins a queue at its end (`Orderly.joined`), goes from waiting to fetching at its head
(`Orderly.hold`) and leaves it from there (`Orderly.leave`). Main statement (`Orderly.step`): every
event keeps a cache orderly. `Kept` are the parts of a read that other invariants have to be shown
for.
-/

namespace CrossChain.Cache

variable {α : Type}

/-! ## Callers and queues -/

/-- The key and the gate of a read that has not ended. -/
def Caller.place : Caller α → Option (String × Nat)
  | .waiting key gate | .fetching key gate => some (key, gate)
  | .finished _ => none

namespace Flight

variable {f : Flight α} {key : String} {gate caller : Nat}

def place (f : Flight α) (caller : Nat) : Option (String × Nat) :=
  f.callers[caller]?.bind Caller.place

theorem place_of_waiting (h : f.callers[caller]? = some (.waiting key gate)) :
    f.place caller = some (key, gate) := by
  rw [place, h]
  rfl

theorem place_of_fetching (h : f.callers[caller]? = some (.fetching key gate)) :
    f.place caller = some (key, gate) := by
  rw [place, h]
  rfl

theorem place_setCaller_finished (f : Flight α) (caller : Nat) (result : Except Error α) (i : Nat) :
    (f.setCaller caller (.finished result)).place i = if caller = i then none else f.place i := by
  simp only [place, setCaller, List.getElem?_set]
  split
  · split <;> rfl
  · rfl

theorem place_setCaller_fetching (h : f.place caller = some (key, gate)) (i : Nat) :
    (f.setCaller caller (.fetching key gate)).place i = f.place i := by
  simp only [place, setCaller, List.getElem?_set] at h ⊢
  split
  next heq =>
    subst heq
    rw [h]
    split
    · rfl
    next hlength => simp [List.getElem?_eq_none (Nat.le_of_not_lt hlength)] at h
  next => rfl

theorem fetching_of_set {callers : List (Caller α)} {state : Caller α} {i : Nat}
    (h : (callers.set caller state)[i]? = some (.fetching key gate)) :
    caller = i ∧ state = .fetching key gate ∨ caller ≠ i ∧
    callers[i]? = some (.fetching key gate) := by
  rw [List.getElem?_set] at h
  split at h
  next heq =>
    split at h <;> cases h
    exact .inl ⟨heq, rfl⟩
  next hne => exact .inr ⟨hne, h⟩

/-- A new read does not fetch before its turn at the gate. -/
theorem fetching_of_append {callers : List (Caller α)} {state : Caller α} {i : Nat}
    (h : (callers ++ [state])[i]? = some (.fetching key gate))
    (hstate : state ≠ .fetching key gate) :
    callers[i]? = some (.fetching key gate) := by
  rcases Nat.lt_or_ge i callers.length with hlt | hge
  · rwa [List.getElem?_append_left hlt] at h
  · rw [List.getElem?_append_right hge] at h
    exact absurd (List.mem_singleton.mp (List.mem_of_getElem? h)).symm hstate

theorem queue_enqueue (h : gate < f.queues.length) (g : Nat) :
    (f.enqueue gate caller).queue g = if gate = g then f.queue g ++ [caller] else f.queue g := by
  simp only [queue, enqueue, List.getD_eq_getElem?_getD, List.getElem?_modify]
  split
  next heq =>
    subst heq
    simp [h]
  next => simp

theorem queue_release (f : Flight α) (gate g : Nat) :
    (f.release gate).queue g = if gate = g then (f.queue g).tail else f.queue g := by
  simp only [queue, release, List.getD_eq_getElem?_getD, List.getElem?_modify]
  split
  · cases f.queues[g]? <;> rfl
  · simp

theorem gateOf_cases (f : Flight α) (key : String) :
    (∃ gate, f.gates.find? key = some gate ∧ f.gateOf key = (gate, f)) ∨
    (f.gates.find? key = none ∧ f.gateOf key =
      (f.queues.length,
        { f with gates := f.gates.insert key f.queues.length, queues := f.queues ++ [[]] })) := by
  cases h : f.gates.find? key with
  | some gate => exact .inl ⟨gate, rfl, by simp only [gateOf, h]⟩
  | none => exact .inr ⟨rfl, by simp only [gateOf, h]⟩

theorem gateOf_cache (f : Flight α) (c : Cache α) (key : String) :
    ({ f with cache := c }).gateOf key =
      ((f.gateOf key).1, { (f.gateOf key).2 with cache := c }) := by
  unfold gateOf
  cases f.gates.find? key <;> rfl

/-- A new gate has an empty queue, as one that was never made. -/
theorem queue_gateOf (f : Flight α) (key : String) (g : Nat) :
    (f.gateOf key).2.queue g = f.queue g := by
  rcases gateOf_cases f key with ⟨gate, -, hgate⟩ | ⟨-, hgate⟩ <;> rw [hgate]
  simp only [queue, List.getD_eq_getElem?_getD]
  rcases Nat.lt_trichotomy g f.queues.length with hlt | rfl | hgt
  · rw [List.getElem?_append_left hlt]
  · simp
  · rw [List.getElem?_eq_none (by simpa using Nat.succ_le_of_lt hgt),
      List.getElem?_eq_none (Nat.le_of_lt hgt)]

theorem find?_gateOf (f : Flight α) (key k : String) : (f.gateOf key).2.gates.find? k =
    if key = k then some (f.gateOf key).1 else f.gates.find? k := by
  rcases gateOf_cases f key with ⟨gate, hfind, hgate⟩ | ⟨-, hgate⟩ <;> rw [hgate]
  · split
    next heq => rw [← heq, hfind]
    next => rfl
  · exact Lookup.find?_insert ..

theorem callers_gateOf (f : Flight α) (key : String) : (f.gateOf key).2.callers = f.callers := by
  rcases gateOf_cases f key with ⟨gate, -, hgate⟩ | ⟨-, hgate⟩ <;> rw [hgate]

/-- A read takes the gate of its key and stands last in its queue. -/
def joined (f : Flight α) (key : String) : Flight α :=
  { (f.gateOf key).2 with callers := f.callers ++ [Caller.waiting key (f.gateOf key).1] }.enqueue
    (f.gateOf key).1
    f.callers.length

theorem arrive_cases (now : Nat) (f : Flight α) (key : String) :
    (∃ value c, f.cache.hit now key = (some value, c) ∧ f.arrive now key =
      { f with cache := c, callers := f.callers ++ [.finished (.ok value)] }) ∨
    ∃ c gate, f.cache.hit now key = (none, c) ∧ gate = (f.gateOf key).1 ∧
      (f.arrive now key = { f.joined key with cache := c } ∨
        f.queue gate = [] ∧
          f.arrive now key = { f.joined key with cache := c }.enter now f.callers.length key
            gate) := by
  rcases hhit : f.cache.hit now key with ⟨_ | value, c⟩
  · refine .inr ⟨c, _, rfl, rfl, ?_⟩
    simp only [arrive, hhit, gateOf_cache, callers_gateOf, List.isEmpty_iff]
    split
    next hfree => exact .inr ⟨(queue_gateOf f key _).symm.trans hfree, rfl⟩
    next => exact .inl rfl
  · exact .inl ⟨value, c, rfl, by simp only [arrive, hhit]⟩

/-! ## Queues -/

/-- Every read that has not ended stands in the queue of its gate, and first if it fetches. -/
structure Orderly (f : Flight α) : Prop where
  gate : ∀ {key gate}, f.gates.find? key = some gate → gate < f.queues.length
  waits : ∀ {i key gate}, f.place i = some (key, gate) → i ∈ f.queue gate
  holds : ∀ {i key gate}, f.callers[i]? = some (.fetching key gate) → (f.queue gate).head? = some i

theorem Orderly.withCache (h : Orderly f) (c : Cache α) : Orderly { f with cache := c } :=
  ⟨h.gate, h.waits, h.holds⟩

theorem Orderly.withoutGate (h : Orderly f) (key : String) :
    Orderly { f with gates := f.gates.erase key } where
  gate {k g} hfind := by
    have hfind : (f.gates.erase key).find? k = some g := hfind
    rw [Lookup.find?_erase] at hfind
    exact h.gate (Option.ite_none_left_eq_some.mp hfind).2
  waits := h.waits
  holds := h.holds

/-- The first of a queue leaves it. -/
theorem Orderly.leave (h : Orderly f) (hhead : (f.queue gate).head? = some caller)
    (result : Except Error α) :
    Orderly ((f.setCaller caller (.finished result)).release gate) where
  gate hfind := by
    have hlength : ((f.setCaller caller (.finished result)).release gate).queues.length =
        f.queues.length := List.length_modify ..
    rw [hlength]
    exact h.gate hfind
  waits {i k g} hplace := by
    have hplace : (if caller = i then none else f.place i) = some (k, g) :=
      (place_setCaller_finished f caller result i).symm.trans hplace
    obtain ⟨hne, hplace⟩ := Option.ite_none_left_eq_some.mp hplace
    -- Whoever has another place than the head keeps it when the head leaves.
    have hmem := h.waits hplace
    rw [queue_release]
    split
    next heq =>
      obtain ⟨rest, hqueue⟩ := List.head?_eq_some_iff.mp hhead
      change i ∈ (f.queue g).tail
      rw [← heq, hqueue] at hmem ⊢
      exact (List.mem_cons.mp hmem).resolve_left (Ne.symm hne)
    next => exact hmem
  holds {i k g} hcaller := by
    rcases fetching_of_set hcaller with ⟨-, heq⟩ | ⟨hne, hcaller⟩
    · cases heq
    · have hfirst := h.holds hcaller
      rw [queue_release, if_neg]
      · exact hfirst
      · rintro rfl
        exact hne (Option.some.inj (hhead.symm.trans hfirst))

theorem Orderly.hold (h : Orderly f) (hhead : (f.queue gate).head? = some caller)
    (hplace : f.place caller = some (key, gate)) :
    Orderly (f.setCaller caller (.fetching key gate)) where
  gate := h.gate
  waits {i k g} hi := h.waits ((place_setCaller_fetching hplace i).symm.trans hi)
  holds {i k g} hcaller := by
    rcases fetching_of_set hcaller with ⟨rfl, heq⟩ | ⟨-, hcaller⟩
    · cases heq
      exact hhead
    · exact h.holds hcaller

theorem Orderly.enter (h : Orderly f) (hhead : (f.queue gate).head? = some caller)
    (hplace : f.place caller = some (key, gate)) (now : Nat) :
    Orderly (f.enter now caller key gate) := by
  unfold Flight.enter
  rcases f.cache.hit now key with ⟨_ | value, c⟩
  · exact (h.withCache c).hold hhead hplace
  · exact (h.withCache c).leave hhead (.ok value)

theorem place_append (f : Flight α) (state : Caller α) (i : Nat) :
    ({ f with callers := f.callers ++ [state] }).place i =
      if f.callers.length = i then state.place else f.place i := by
  simp only [place]
  rcases Nat.lt_trichotomy i f.callers.length with hlt | rfl | hgt
  · rw [List.getElem?_append_left hlt, if_neg (Nat.ne_of_gt hlt)]
  · simp
  · rw [List.getElem?_eq_none (by simpa using Nat.succ_le_of_lt hgt), if_neg (Nat.ne_of_lt hgt),
      List.getElem?_eq_none (Nat.le_of_lt hgt)]

theorem place_joined (f : Flight α) (key : String) (i : Nat) : (f.joined key).place i =
    if f.callers.length = i then some (key, (f.gateOf key).1) else f.place i :=
  place_append f (.waiting key (f.gateOf key).1) i

theorem place_found (f : Flight α) (result : Except Error α) (i : Nat) :
    ({ f with callers := f.callers ++ [Caller.finished result] }).place i = f.place i := by
  rw [place_append]
  split
  next heq =>
    subst heq
    simp [place, Caller.place]
  next => rfl

theorem Orderly.gateOf_lt (h : Orderly f) (key : String) :
    f.queues.length ≤ (f.gateOf key).2.queues.length ∧
    (f.gateOf key).1 < (f.gateOf key).2.queues.length := by
  rcases gateOf_cases f key with ⟨gate, hfind, hgate⟩ | ⟨-, hgate⟩ <;> rw [hgate]
  · exact ⟨Nat.le_refl _, h.gate hfind⟩
  · simp

theorem Orderly.queue_joined (h : Orderly f) (key : String) (g : Nat) : (f.joined key).queue g =
    if (f.gateOf key).1 = g then f.queue g ++ [f.callers.length] else f.queue g :=
  (queue_enqueue (h.gateOf_lt key).2 g).trans (by rw [← queue_gateOf f key g])

theorem Orderly.joined (h : Orderly f) (key : String) : Orderly (f.joined key) where
  gate {k g} hfind := by
    have hfind : (if key = k then some (f.gateOf key).1 else f.gates.find? k) = some g :=
      (find?_gateOf f key k).symm.trans hfind
    rw [show (f.joined key).queues.length = (f.gateOf key).2.queues.length from
      List.length_modify ..]
    obtain ⟨hle, hlt⟩ := h.gateOf_lt key
    split at hfind
    · cases hfind
      exact hlt
    · exact Nat.lt_of_lt_of_le (h.gate hfind) hle
  waits {i k g} hplace := by
    rw [place_joined] at hplace
    rw [h.queue_joined]
    split at hplace
    next heq =>
      cases hplace
      simp [heq]
    next =>
      have hmem := h.waits hplace
      split <;> simp [hmem]
  holds {i k g} hcaller := by
    have hfirst := h.holds (fetching_of_append hcaller (by simp))
    rw [h.queue_joined]
    split
    · rw [List.head?_append, hfirst]
      rfl
    · exact hfirst

/-- What the parts of a read keep: a hit, its way into a queue and its turn at the gate. -/
structure Kept (now : Nat) (I : Flight α → Prop) : Prop where
  found : ∀ {f key value c}, I f → f.cache.hit now key = (some value, c) →
    I { f with cache := c, callers := f.callers ++ [.finished (.ok value)] }
  missed : ∀ {f key c}, I f → f.cache.hit now key = (none, c) → I { f.joined key with cache := c }
  enter : ∀ {f caller key gate}, I f → (f.queue gate).head? = some caller →
    f.callers[caller]? = some (.waiting key gate) → I (f.enter now caller key gate)

variable {now : Nat} {I : Flight α → Prop}

theorem Kept.arrive (h : Kept now I) (horderly : Orderly f) (hf : I f) (key : String) :
    I (f.arrive now key) := by
  rcases arrive_cases now f key with
    ⟨value, c, hhit, harrive⟩ | ⟨c, gate, hhit, rfl, harrive | ⟨hfree, harrive⟩⟩ <;> rw [harrive]
  · exact h.found hf hhit
  · exact h.missed hf hhit
  · refine h.enter (h.missed hf hhit) ?_ ?_
    · change ((f.joined key).queue _).head? = _
      rw [horderly.queue_joined, if_pos rfl, hfree]
      rfl
    · exact List.getElem?_concat_length

theorem Kept.resume (h : Kept now I) (hf : I f) (caller : Nat) : I (f.resume now caller) := by
  unfold Flight.resume
  split
  next key gate hcaller =>
    split
    next hhead => exact h.enter hf hhead hcaller
    next => exact hf
  next => exact hf

theorem kept_orderly (now : Nat) : Kept now (Orderly (α := α)) where
  found {f key value c} h _ :=
    ⟨h.gate, fun hplace => h.waits ((place_found f (.ok value) _).symm.trans hplace),
      fun hcaller => h.holds (fetching_of_append hcaller (by simp))⟩
  missed h _ := (h.joined _).withCache _
  enter h hhead hcaller := h.enter hhead (place_of_waiting hcaller) _

theorem Orderly.fetched (h : Orderly f) (now caller : Nat) (result : Except Error α) :
    Orderly (f.fetched now caller result) := by
  unfold Flight.fetched
  split
  next key gate hcaller =>
    exact ((h.withoutGate key).withCache _).leave (h.holds hcaller) result
  next => exact h

theorem Orderly.step (h : Orderly f) (now : Nat) (event : FlightEvent α) :
    Orderly (f.step now event) := by
  cases event with
  | arrive key => exact (kept_orderly now).arrive h h key
  | resume caller => exact (kept_orderly now).resume h caller
  | fetched caller result => exact h.fetched now caller result

theorem kept_policy (now : Nat) (p : RefreshPolicy) :
    Kept now fun f : Flight α => f.cache.policy = p where
  found {f k value c} h hhit := by
    rw [← h, ← policy_hit f.cache now k, hhit]
  missed {f k c} h hhit := by
    rw [← h, ← policy_hit f.cache now k, hhit]
  enter {f caller k gate} h _ _ := by
    rw [← h, ← policy_hit f.cache now k, Flight.enter]
    rcases f.cache.hit now k with ⟨_ | value, c⟩ <;> rfl

theorem Orderly.policy_step (h : Orderly f) (now : Nat) (event : FlightEvent α) :
    (f.step now event).cache.policy = f.cache.policy := by
  cases event with
  | arrive k => exact (kept_policy now _).arrive h rfl k
  | resume caller => exact (kept_policy now _).resume rfl caller
  | fetched caller result =>
    change (f.fetched now caller result).cache.policy = _
    unfold Flight.fetched
    split
    · cases result <;> rfl
    · rfl

end Flight

end CrossChain.Cache
