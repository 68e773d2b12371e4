import CrossChain.Proofs.Cache.Gate

/-!
# Concurrent reads of one key

A read that misses takes the gate of its key and fetches when its turn at the gate comes. Until the
first fetch ends, all reads of the key are gathered at one gate (`Gathered`), so that no two of them
fetch side by side (`Gathered.unique`). Behind a fetch that succeeds the key has a live entry, and
no read fetches it any more (`Filled`, `Gathered.filled`). `Reaches.inv` carries one or the other
through every order of events.

A fetch that fails takes the gate out of the table while reads still wait at it; the next of them
and a new read then both fetch (`two_fetches`). So does one whose entry expires in between.

Main statement (`fetchesOf_le_one_iff`): reads of a key that has no live entry share one fetch, in
every order of their events, exactly when the first fetch succeeds and the reads end within the
expiry window.
-/

namespace CrossChain.Cache

variable {α : Type}

/-! ## Reads of a live entry -/

/-- The key has an entry that was read at a time or later, so that it is live until the expiry
window from then has passed. -/
def IsReadSince (c : Cache α) (since : Nat) (key : String) : Prop :=
  ∃ e, c.entries.find? key = some e ∧ since ≤ e.lastRead

/-- While an entry is live reads keep it, and no read of its key misses. -/
theorem IsReadSince.hit {c : Cache α} {since now : Nat} {key : String} (h : c.IsReadSince since key)
    (hsince : since ≤ now) (hnow : now < since + c.policy.expireAfterIdle) (k : String) :
    (c.hit now k).2.IsReadSince since key ∧ ((c.hit now k).1 = none → k ≠ key) := by
  obtain ⟨e, he, hread⟩ := h
  rcases hit_cases c now k with ⟨e', he', -, hhit⟩ | ⟨hidle, hhit⟩ <;> rw [hhit]
  · refine ⟨?_, fun hnone => by cases hnone⟩
    simp only [IsReadSince, touched, Lookup.find?_insert]
    split
    · exact ⟨_, rfl, hsince⟩
    · exact ⟨e, he, hread⟩
  · have hne : k ≠ key := by
      rintro rfl
      have hwindow := of_decide_eq_true (hidle e he)
      omega
    exact ⟨⟨e, (Lookup.find?_erase ..).trans ((if_neg hne).trans he), hread⟩, fun _ => hne⟩

theorem IsReadSince.put {c : Cache α} {since now : Nat} {key : String} (h : c.IsReadSince since key)
    (hsince : since ≤ now) (k : String) (value : α) :
    (c.put now k value).IsReadSince since key := by
  obtain ⟨e, he, hread⟩ := h
  simp only [IsReadSince, Cache.put, Lookup.find?_insert]
  split
  · exact ⟨_, rfl, hsince⟩
  · exact ⟨e, he, hread⟩

namespace Flight

variable {f : Flight α} {key : String} {gate caller now : Nat}

/-! ## Before the first fetch ends -/

/-- The reads of a key that have not ended have all taken the gate that stands in the table. -/
def Gathered (key : String) (f : Flight α) : Prop :=
  ∀ {i gate}, f.place i = some (key, gate) → f.gates.find? key = some gate

/-- Two reads that fetch a key are one. -/
theorem Gathered.unique (h : Gathered key f) (horderly : Orderly f) {i j g g' : Nat}
    (hi : f.callers[i]? = some (.fetching key g)) (hj : f.callers[j]? = some (.fetching key g')) :
    i = j := by
  have hgate := (h (place_of_fetching hi)).symm.trans (h (place_of_fetching hj))
  cases hgate
  exact Option.some.inj ((horderly.holds hi).symm.trans (horderly.holds hj))

theorem kept_gathered (now : Nat) (key : String) : Kept now (Gathered (α := α) key) where
  found {f k value c} h _ i g hplace := h ((place_found f (.ok value) i).symm.trans hplace)
  missed {f k c} h _ := by
    intro i g hplace
    have hplace : (f.joined k).place i = some (key, g) := hplace
    change (f.gateOf k).2.gates.find? key = some g
    rw [place_joined] at hplace
    rw [find?_gateOf]
    split at hplace
    next =>
      cases hplace
      exact if_pos rfl
    next =>
      have hfind := h hplace
      split
      next heq =>
        subst heq
        rcases gateOf_cases f k with ⟨gate, hgate, hgateOf⟩ | ⟨hnone, -⟩
        · rw [hgateOf, ← hfind, hgate]
        · rw [hfind] at hnone
          cases hnone
      next => exact hfind
  enter {f caller k gate} h _ hcaller := by
    unfold Flight.enter
    rcases f.cache.hit now k with ⟨_ | value, c⟩ <;> intro i g hplace
    · exact h ((place_setCaller_fetching (place_of_waiting hcaller) i).symm.trans hplace)
    · have hplace : (if caller = i then none else f.place i) = some (key, g) :=
        (place_setCaller_finished f caller (.ok value) i).symm.trans hplace
      exact h (Option.ite_none_left_eq_some.mp hplace).2

/-- The event ends a fetch of the key, with whatever result, by the read that has this fetch in
progress. -/
def Ends (f : Flight α) (key : String) (event : FlightEvent α) : Prop :=
  ∃ caller gate result, event = .fetched caller result ∧
    f.callers[caller]? = some (.fetching key gate)

theorem Gathered.step (h : Gathered key f) (horderly : Orderly f) {event : FlightEvent α}
    (hends : ¬ f.Ends key event) (now : Nat) : Gathered key (f.step now event) := by
  cases event with
  | arrive k => exact (kept_gathered now key).arrive horderly h k
  | resume caller => exact (kept_gathered now key).resume h caller
  | fetched caller result =>
    change Gathered key (f.fetched now caller result)
    unfold Flight.fetched
    split
    next k gate hcaller =>
      intro i g hplace
      have hne : k ≠ key := by
        rintro rfl
        exact hends ⟨caller, gate, result, rfl, hcaller⟩
      have hplace : (if caller = i then none else f.place i) = some (key, g) :=
        (place_setCaller_finished f caller result i).symm.trans hplace
      change (f.gates.erase k).find? key = some g
      rw [Lookup.find?_erase, if_neg hne]
      exact h (Option.ite_none_left_eq_some.mp hplace).2
    next => exact h

/-! ## After the first fetch has succeeded -/

/-- The key has an entry that was read since a time, and no read fetches it. This holds from the end
of the first fetch on, if it succeeds. -/
structure Filled (p : RefreshPolicy) (since : Nat) (key : String) (f : Flight α) : Prop where
  policy : f.cache.policy = p
  entry : f.cache.IsReadSince since key
  unfetched : ∀ {i gate : Nat}, f.callers[i]? ≠ some (.fetching key gate)

variable {p : RefreshPolicy} {since : Nat}

theorem Filled.leave (h : Filled p since key f) (caller : Nat)
    (result : Except Error α) (gate : Nat) :
    Filled p since key ((f.setCaller caller (.finished result)).release gate) := by
  refine ⟨h.policy, h.entry, fun {i g} hcaller => ?_⟩
  rcases fetching_of_set hcaller with ⟨-, heq⟩ | ⟨-, hcaller⟩
  · cases heq
  · exact h.unfetched hcaller

theorem kept_filled (hsince : since ≤ now) (hnow : now < since + p.expireAfterIdle) (key : String) :
    Kept now (Filled (α := α) p since key) where
  found {f k value c} h hhit := by
    obtain ⟨hentry, -⟩ := h.entry.hit hsince (h.policy.symm ▸ hnow) k
    rw [hhit] at hentry
    refine ⟨(kept_policy now p).found h.policy hhit, hentry, fun hcaller => ?_⟩
    exact h.unfetched (fetching_of_append hcaller (by simp))
  missed {f k c} h hhit := by
    obtain ⟨hentry, -⟩ := h.entry.hit hsince (h.policy.symm ▸ hnow) k
    rw [hhit] at hentry
    refine ⟨(kept_policy now p).missed h.policy hhit, hentry, fun hcaller => ?_⟩
    exact h.unfetched (fetching_of_append hcaller (by simp))
  enter {f caller k gate} h hhead hcaller := by
    obtain ⟨hentry, hother⟩ := h.entry.hit hsince (h.policy.symm ▸ hnow) k
    have hpolicy := (kept_policy now p).enter h.policy hhead hcaller
    unfold Flight.enter at hpolicy ⊢
    rcases hhit : f.cache.hit now k with ⟨_ | value, c⟩ <;> rw [hhit] at hpolicy hentry hother
    · refine ⟨hpolicy, hentry, fun {i g} hi => ?_⟩
      rcases fetching_of_set hi with ⟨-, heq⟩ | ⟨-, hi⟩
      · cases heq
        exact hother rfl rfl
      · exact h.unfetched hi
    · have hcache : Filled p since key { f with cache := c } := ⟨hpolicy, hentry, h.unfetched⟩
      exact hcache.leave caller (.ok value) gate

theorem Filled.step (h : Filled p since key f) (horderly : Orderly f) (hsince : since ≤ now)
    (hnow : now < since + p.expireAfterIdle) (event : FlightEvent α) :
    Filled p since key (f.step now event) := by
  cases event with
  | arrive k => exact (kept_filled hsince hnow key).arrive horderly h k
  | resume caller => exact (kept_filled hsince hnow key).resume h caller
  | fetched caller result =>
    change Filled p since key (f.fetched now caller result)
    unfold Flight.fetched
    split
    next k gate _ =>
      cases result with
      | error e =>
        have hgates :
            Filled p since key { f with gates := f.gates.erase k } :=
            ⟨h.policy, h.entry, h.unfetched⟩
        exact hgates.leave caller (.error e) gate
      | ok value =>
        have hput : Filled p since key
          { f with cache := f.cache.put now k value, gates := f.gates.erase k } :=
          ⟨h.policy, h.entry.put hsince k value, h.unfetched⟩
        exact hput.leave caller (.ok value) gate
    next => exact h

/-- The first fetch succeeds: no read fetches the key any more. -/
theorem Gathered.filled (h : Gathered key f) (horderly : Orderly f) (hpolicy : f.cache.policy = p)
    (hsince : since ≤ now) (hcaller : f.callers[caller]? = some (.fetching key gate)) (value : α) :
    Filled p since key (f.fetched now caller (.ok value)) := by
  simp only [Flight.fetched, hcaller]
  refine ⟨hpolicy, ⟨_, Lookup.find?_insert_self .., hsince⟩, fun {i g} hi => ?_⟩
  rcases fetching_of_set hi with ⟨-, heq⟩ | ⟨hne, hi⟩
  · cases heq
  · exact hne (h.unique horderly hcaller hi)

/-! ## Interleavings -/

/-- What reads that begin with a cache can reach, between two times, in any order of their events.
`results` are the results of the fetches of a key in the order in which they end; `n` of them have
ended. -/
inductive Reaches (c : Cache α) (key : String) (results : Nat → Except Error α) (since stop : Nat) :
    (now n : Nat) → Flight α → Prop
  | start : Reaches c key results since stop since 0 (start c)
  | ended {now n f now' caller gate} : Reaches c key results since stop now n f → now ≤ now' →
    now' ≤ stop →
    f.callers[caller]? = some (.fetching key gate) →
    Reaches c key results since stop now' (n + 1) (f.step now' (.fetched caller (results n)))
  | other {now n f now' event} : Reaches c key results since stop now n f → now ≤ now' →
    now' ≤ stop →
    ¬ f.Ends key event → Reaches c key results since stop now' n (f.step now' event)

/-- A read that misses and finds no gate in the table makes one and fetches. -/
theorem arrive_of_miss (hmiss : (f.cache.hit now key).1 = none) (hgate : f.gates.find? key = none) :
    f.arrive now key = ⟨(f.cache.hit now key).2, f.gates.insert key f.queues.length,
      f.queues ++ [[f.callers.length]], f.callers ++ [.fetching key f.queues.length]⟩ := by
  have hagain := hit_of_find?_eq_none (find?_of_miss hmiss) now
  have hqueue (queues : List (List Nat)) (i : Nat) :
      (queues ++ [[]]).modify queues.length (· ++ [i]) = queues ++ [[i]] := by
    induction queues with
    | nil => rfl
    | cons queue rest ih => exact congrArg (queue :: ·) ih
  rcases hhit : f.cache.hit now key with ⟨value, c⟩
  rw [hhit] at hmiss hagain
  cases hmiss
  simp [arrive, hhit, gateOf, hgate, queue, enqueue, Flight.enter, hagain, setCaller, hqueue]

/-- The first fetch leaves no live entry: the read behind it, on its gate, and a new read, on a gate
of its own, both fetch. -/
theorem two_fetches {c : Cache α} {later : Nat} {result : Except Error α}
    (hmiss : (c.hit now key).1 = none)
    (hlost : ∀ value, result = .ok value → c.policy.expireAfterIdle ≤ later - now) :
    let f₁ := (start c).step now (.arrive key)
    let f₂ := f₁.step now (.arrive key)
    let f₃ := f₂.step now (.fetched 0 result)
    let f₄ := f₃.step later (.arrive key)
    let f₅ := f₄.step later (.resume 1)
    f₂.callers[0]? = some (.fetching key 0) ∧
      f₅.callers = [.finished result, .fetching key 0, .fetching key 1] := by
  intro f₁ f₂ f₃ f₄ f₅
  -- The states are computed one after the other, from what is known of the cache in each.
  have h₁ : f₁ = ⟨(c.hit now key).2, ⟨[(key, 0)]⟩, [[0]], [.fetching key 0]⟩ :=
    arrive_of_miss hmiss rfl
  have hnone := find?_of_miss hmiss
  have hpolicy := policy_hit c now key
  generalize (c.hit now key).2 = c₁ at h₁ hnone hpolicy
  have h₂ : f₂ = ⟨c₁, ⟨[(key, 0)]⟩, [[0, 1]], [.fetching key 0, .waiting key 0]⟩ := by
    simp [f₂, h₁, Flight.step, arrive, hit_of_find?_eq_none hnone, gateOf, Lookup.find?,
      queue, enqueue]
  have h₃ : ∃ c₃, (c₃.hit later key).1 = none ∧
      f₃ = ⟨c₃, ⟨[]⟩, [[1]], [.finished result, .waiting key 0]⟩ := by
    cases result with
    | error e =>
      refine ⟨c₁, congrArg Prod.fst (hit_of_find?_eq_none hnone later), ?_⟩
      simp [f₃, h₂, Flight.step, Flight.fetched, Lookup.erase, setCaller, release]
    | ok value =>
      refine ⟨c₁.put now key value, ?_, ?_⟩
      · have hidle : isIdle c₁.policy later ⟨value, now, now, false⟩ = true :=
          decide_eq_true (hpolicy ▸ hlost value rfl)
        simp [Cache.hit, Cache.put, hidle]
      · simp [f₃, h₂, Flight.step, Flight.fetched, Lookup.erase, setCaller, release]
  obtain ⟨c₃, hmiss₃, h₃⟩ := h₃
  have h₄ : f₄ = ⟨(c₃.hit later key).2, ⟨[(key, 1)]⟩, [[1], [2]],
      [.finished result, .waiting key 0, .fetching key 1]⟩ := by
    change f₃.arrive later key = _
    rw [h₃]
    exact arrive_of_miss hmiss₃ rfl
  refine ⟨congrArg (·.callers[0]?) h₂, ?_⟩
  have hnone₃ := find?_of_miss hmiss₃
  simp [f₅, h₄, Flight.step, Flight.resume, queue, Flight.enter, hit_of_find?_eq_none hnone₃,
    setCaller]

theorem not_ends_arrive (f : Flight α) (key k : String) : ¬ f.Ends key (.arrive k) := by
  rintro ⟨_, _, _, h, -⟩
  cases h

theorem not_ends_resume (f : Flight α) (key : String) (caller : Nat) :
    ¬ f.Ends key (.resume caller) := by
  rintro ⟨_, _, _, h, -⟩
  cases h

/-- Until the first fetch ends the reads are gathered at one gate; from then on the key has a live
entry. -/
theorem Reaches.inv {c : Cache α} {results : Nat → Except Error α} {since stop n : Nat}
    (h : Reaches c key results since stop now n f) (hstop : stop < since + c.policy.expireAfterIdle)
    (hok : ∃ value, results 0 = .ok value) : since ≤ now ∧ Orderly f ∧ f.cache.policy = c.policy ∧
      (n = 0 ∧ Gathered key f ∨ n ≠ 0 ∧ Filled c.policy since key f) := by
  induction h with
  | start =>
    refine ⟨Nat.le_refl _, ⟨fun h => ?_, fun h => ?_, fun h => ?_⟩, rfl, .inl ⟨rfl, fun h => ?_⟩⟩
    all_goals cases h
  | @ended now n f now' caller gate h hnow hnow' hcaller ih =>
    obtain ⟨hsince, horderly, hpolicy, ⟨rfl, hgathered⟩ | ⟨-, hfilled⟩⟩ := ih
    · obtain ⟨value, hvalue⟩ := hok
      have hsince := Nat.le_trans hsince hnow
      refine ⟨hsince, horderly.step .., (horderly.policy_step ..).trans hpolicy,
        .inr ⟨Nat.one_ne_zero, ?_⟩⟩
      rw [hvalue]
      exact hgathered.filled horderly hpolicy hsince hcaller value
    · exact absurd hcaller hfilled.unfetched
  | @other now n f now' event h hnow hnow' hends ih =>
    obtain ⟨hsince, horderly, hpolicy, hphase⟩ := ih
    have hsince := Nat.le_trans hsince hnow
    refine ⟨hsince, horderly.step .., (horderly.policy_step ..).trans hpolicy, ?_⟩
    rcases hphase with ⟨hn, hgathered⟩ | ⟨hn, hfilled⟩
    · exact .inl ⟨hn, hgathered.step horderly hends now'⟩
    · exact .inr ⟨hn, hfilled.step horderly hsince (Nat.lt_of_le_of_lt hnow' hstop) event⟩

theorem fetchesOf_le_one (h : ∀ {i j g g' : Nat}, f.callers[i]? = some (.fetching key g) →
    f.callers[j]? = some (.fetching key g') → i = j) : f.fetchesOf key ≤ 1 := by
  rw [fetchesOf]
  generalize f.callers = callers at h
  induction callers with
  | nil => exact Nat.zero_le 1
  | cons caller rest ih =>
    have hrest : rest.countP _ ≤ 1 := ih fun hi hj => Nat.succ.inj (h hi hj)
    cases caller with
    | waiting k g => exact hrest
    | finished result => exact hrest
    | fetching k g =>
      by_cases hkey : k = key
      · subst hkey
        rw [List.countP_cons_of_pos (by simp)]
        refine Nat.succ_le_succ (Nat.le_of_eq (List.countP_eq_zero.mpr ?_))
        rintro (_ | ⟨k', g'⟩ | _) hmem hfetch
        · cases hfetch
        · obtain rfl : k' = k := eq_of_beq hfetch
          obtain ⟨j, hj⟩ := List.mem_iff_getElem?.mp hmem
          exact Nat.zero_ne_add_one j (h rfl hj)
        · cases hfetch
      · rw [List.countP_cons_of_neg (by simpa using hkey)]
        exact hrest

/-- Reads of a key without a live entry have at most one fetch in progress, in every order of their
events, exactly when the first fetch succeeds and they end within the expiry window. -/
theorem fetchesOf_le_one_iff {c : Cache α} {key : String} {since : Nat}
    (hmiss : (c.hit since key).1 = none) (results : Nat → Except Error α) (d : Nat) :
    (∀ {now n f}, Reaches c key results since (since + d) now n f → f.fetchesOf key ≤ 1) ↔
      d < c.policy.expireAfterIdle ∧ ∃ value, results 0 = .ok value := by
  constructor
  · intro h
    -- Where the first fetch leaves no live entry, five events lead to two fetches at once.
    refine Classical.byContradiction fun hneg => ?_
    have hlost : ∀ value, results 0 = .ok value → c.policy.expireAfterIdle ≤ since + d - since := by
      intro value hvalue
      rw [Nat.add_sub_cancel_left]
      exact Nat.le_of_not_lt fun hd => hneg ⟨hd, value, hvalue⟩
    obtain ⟨hfirst, hlast⟩ := two_fetches hmiss hlost
    have hd : since ≤ since + d := Nat.le_add_right since d
    have hstart : Reaches c key results since (since + d) since 0 (start c) := .start
    have hreach := hstart
      |>.other (Nat.le_refl since) hd (not_ends_arrive _ key key)
      |>.other (Nat.le_refl since) hd (not_ends_arrive _ key key)
      |>.ended (Nat.le_refl since) hd hfirst
      |>.other hd (Nat.le_refl _) (not_ends_arrive _ key key)
      |>.other (Nat.le_refl _) (Nat.le_refl _) (not_ends_resume _ key 1)
    have hone := h hreach
    rw [fetchesOf, hlast] at hone
    simp at hone
  · rintro ⟨hd, hok⟩ now n f h
    obtain ⟨-, horderly, -, ⟨-, hgathered⟩ | ⟨-, hfilled⟩⟩ :=
      h.inv (Nat.add_lt_add_left hd since) hok
    · exact fetchesOf_le_one fun hi hj => hgathered.unique horderly hi hj
    · exact fetchesOf_le_one fun hi _ => absurd hi hfilled.unfetched

/-- No entry of the key, a first fetch that succeeds, and reads that end a second before the
expiry. -/
theorem fetchesOf_le_one_sample :
    let c : Cache Nat := empty ⟨1800, 3600⟩
    (c.hit 0 "a").1 = none ∧
      ∀ {now n f}, Reaches c "a" (fun i => .ok i) 0 (0 + 3599) now n f → f.fetchesOf "a" ≤ 1 :=
  ⟨rfl, (fetchesOf_le_one_iff rfl _ 3599).mpr ⟨by decide, 0, rfl⟩⟩

/-- The first fetch fails; the read behind it and a new read fetch side by side. -/
theorem fetchesOf_eq_two_of_failed :
    ((start (empty ⟨1800, 3600⟩ : Cache Nat)).run 0 [.arrive "a", .arrive "a",
      .fetched 0 (.error (.network "down")), .resume 1, .arrive "a"]).fetchesOf "a" = 2 := by
  decide

end Flight

end CrossChain.Cache
