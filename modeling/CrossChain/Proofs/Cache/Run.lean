import CrossChain.Proofs.Cache.Diary

/-!
# Runs of a cache

Four invariants of runs, each kept by reads, evictions and settling. Every entry holds what was
fetched last under its key (`IsCurrent`). While no time reaches the expiry window, every key that
was fetched successfully has an entry, and no key is queued twice (`IsComplete`); while none reaches
the refresh window either, nothing is queued and no key is fetched successfully twice (`IsStill`).
Where the expiry window is zero, nothing is queued (`IsTransient`).

Main statement (`moments_isFaithful`): at every step of a run a read answers with what was fetched
last under its key, and what is queued, kept and fetched again is what the windows of the cache
allow. A failed refresh leaves the value in its place.
-/

namespace CrossChain.Cache

variable {α σ : Type}

namespace Diary

variable {fetch : Fetcher σ α} {now : Nat} {d : Diary σ α} {I : Diary σ α → Prop}

/-! ## Entries hold what was fetched last -/

/-- Every entry holds what was fetched last under its key. Later failures leave it the last one, as
they have no value. -/
def IsCurrent (d : Diary σ α) : Prop :=
  ∀ e ∈ d.cache.entries.entries, lastValue e.1 d.log = some e.2.value

theorem IsCurrent.value (h : IsCurrent d) {key : String} {e : CacheEntry α}
    (he : d.cache.entries.find? key = some e) : lastValue key d.log = some e.value :=
  h _ (Lookup.mem_entries_of_find?_eq_some he)

theorem IsCurrent.read (h : IsCurrent d) (key : String) :
    IsCurrent (d.read fetch now key).after := by
  rcases read_cases fetch now d key with ⟨e, he, -, hread⟩ |
      ⟨-, result, source, hread⟩ <;> rw [hread]
  · intro x hx
    have hvalue := h.value he
    rcases Lookup.mem_entries_insert hx with rfl | hx
    · exact hvalue
    · exact h x hx
  · have herased : ∀ x ∈ (d.cache.entries.erase key).entries,
        lastValue x.1 (d.log ++ [⟨key, result⟩]) = some x.2.value := by
      intro x hx
      obtain ⟨hx, hne⟩ := List.mem_filter.mp hx
      rw [lastValue_append_of_failed, h x hx]
      intro f hf hkey
      cases List.mem_singleton.mp hf
      exact absurd hkey.symm (of_decide_eq_true hne)
    cases result with
    | error err => exact herased
    | ok value =>
      intro x hx
      rcases Lookup.mem_entries_insert hx with rfl | hx
      · exact lastValue_append_ok key d.log value
      · exact herased x hx

theorem IsCurrent.refresh (h : IsCurrent d) (key : String) :
    IsCurrent (d.refresh fetch now key) := by
  intro x hx
  simp only [Diary.refresh] at hx ⊢
  obtain ⟨e, he, rfl⟩ := List.mem_map.mp hx
  split
  next hkey =>
    subst hkey
    cases hresult : (fetch e.1 d.source).1 with
    | ok value => exact lastValue_append_ok e.1 d.log value
    | error err =>
      rw [lastValue_append_of_failed (by simp [Except.isOk, Except.toBool])]
      exact h e he
  next hkey =>
    rw [lastValue_append_of_failed (by simp [Ne.symm hkey])]
    exact h e he

/-- What background fetches keep is kept by settling, where it does not hang on what is queued. -/
theorem settle_of_refresh (h : ∀ {d : Diary σ α} (key : String), I d → I (d.refresh fetch now key))
    (hd : I { d with cache := { d.cache with queued := [] } }) : I (d.next fetch now .settle) := by
  rw [settle_eq]
  generalize { d with cache := { d.cache with queued := [] } } = d' at hd ⊢
  induction d.cache.queued generalizing d' with
  | nil => exact hd
  | cons key rest ih => exact ih _ (h key hd)

theorem kept_isCurrent (fetch : Fetcher σ α) (now : Nat) :
    Kept fetch now (IsCurrent (σ := σ) (α := α)) where
  read key h := h.read key
  evict h := fun x hx => h x (List.mem_filter.mp hx).1
  settle h := settle_of_refresh (fun key hd => hd.refresh key) h

/-! ## Entries that never expire -/

theorem isIdle_of_lt {p : RefreshPolicy} (h : now < p.expireAfterIdle) (e : CacheEntry α) :
    isIdle p now e = false :=
  decide_eq_false fun hidle => by omega

/-- Every key that was fetched successfully has an entry, and no key is queued twice. -/
structure IsComplete (p : RefreshPolicy) (d : Diary σ α) : Prop where
  policy : d.cache.policy = p
  found : ∀ key, d.cache.entries.find? key = none → lastValue key d.log = none
  nodup : d.cache.queued.Nodup
  refreshing : ∀ key ∈ d.cache.queued, ∃ e, d.cache.entries.find? key = some e ∧ e.refreshing = true

variable {p : RefreshPolicy}

theorem IsComplete.not_queued (h : IsComplete p d) {key : String}
    (hkey : ∀ e, d.cache.entries.find? key = some e → e.refreshing = false) :
    key ∉ d.cache.queued := by
  intro hqueued
  obtain ⟨e, he, hrefreshing⟩ := h.refreshing key hqueued
  rw [hkey e he] at hrefreshing
  cases hrefreshing

theorem IsComplete.find?_eq_none (h : IsComplete p d) (hnow : now < p.expireAfterIdle)
    {key : String}
    (hidle : ∀ e, d.cache.entries.find? key = some e → isIdle d.cache.policy now e = true) :
    d.cache.entries.find? key = none := by
  refine Option.eq_none_iff_forall_ne_some.mpr fun e he => ?_
  have hlive := isIdle_of_lt (h.policy.symm ▸ hnow) e
  rw [hidle e he] at hlive
  cases hlive

theorem IsComplete.touched (h : IsComplete p d) {key : String} {e : CacheEntry α}
    (he : d.cache.entries.find? key = some e) :
    IsComplete p { d with cache := d.cache.touched now key e } where
  policy := h.policy
  found k hk := by
    simp only [Cache.touched, Lookup.find?_insert] at hk
    split at hk
    · cases hk
    · exact h.found k hk
  nodup := by
    cases hdue : isDue d.cache.policy now e with
    | false => simpa [Cache.touched, hdue] using h.nodup
    -- An entry that is due is not refreshing, so that its key is not in the queue yet.
    | true =>
      have hnew : key ∉ d.cache.queued := h.not_queued fun e' he' => by
        cases he.symm.trans he'
        simpa using (Bool.and_eq_true_iff.mp hdue).2
      simp only [Cache.touched, hdue, if_true]
      refine List.nodup_append.mpr ⟨h.nodup, by simp, fun k hk k' hk' heq => hnew ?_⟩
      rw [← List.mem_singleton.mp hk', ← heq]
      exact hk
  refreshing k hk := by
    have hqueued : isDue d.cache.policy now e = true ∧ k = key ∨ k ∈ d.cache.queued := by
      simp only [Cache.touched] at hk
      split at hk
      next hdue => exact (List.mem_append.mp hk).symm.imp_left fun hk =>
        ⟨hdue, List.mem_singleton.mp hk⟩
      next => exact .inr hk
    simp only [Cache.touched, Lookup.find?_insert]
    by_cases hkey : key = k
    · subst hkey
      refine ⟨_, if_pos rfl, ?_⟩
      rcases hqueued with ⟨hdue, -⟩ | hk
      · simp [hdue]
      · obtain ⟨e', he', hrefreshing⟩ := h.refreshing key hk
        cases he.symm.trans he'
        simp [hrefreshing]
    · rw [if_neg hkey]
      exact h.refreshing k (hqueued.resolve_left fun hk => hkey hk.2.symm)

/-- A fetch in the foreground is made for a key that has no entry. -/
theorem IsComplete.filled (h : IsComplete p d) {key : String}
    (hkey : d.cache.entries.find? key = none) (result : Except Error α) (source : σ) :
    IsComplete p ⟨d.cache.filled now key result, source, d.log ++ [⟨key, result⟩]⟩ := by
  have hnew : key ∉ d.cache.queued := h.not_queued fun e he => by simp [hkey] at he
  unfold Cache.filled
  rw [Lookup.erase_eq_self hkey]
  cases result with
  | error err =>
    refine ⟨h.policy, fun k hk => ?_, h.nodup, h.refreshing⟩
    rw [lastValue_append_of_failed (by simp [Except.isOk, Except.toBool])]
    exact h.found k hk
  | ok value =>
    refine ⟨h.policy, fun k hk => ?_, h.nodup, fun k hk => ?_⟩
    · simp only [put, Lookup.find?_insert] at hk
      split at hk
      · cases hk
      next hne =>
        rw [lastValue_append_of_failed (by simp [hne])]
        exact h.found k hk
    · have hne : key ≠ k := fun heq => hnew (heq ▸ hk)
      simp only [put, Lookup.find?_insert_of_ne _ _ hne]
      exact h.refreshing k hk

theorem IsComplete.read (h : IsComplete p d) (hnow : now < p.expireAfterIdle) (key : String) :
    IsComplete p (d.read fetch now key).after := by
  rcases read_cases fetch now d key with ⟨e, he, -, hread⟩ |
      ⟨hidle, result, source, hread⟩ <;> rw [hread]
  · exact h.touched he
  · exact h.filled (h.find?_eq_none hnow hidle) result source

theorem IsComplete.evict (h : IsComplete p d) (hnow : now < p.expireAfterIdle) :
    IsComplete p { d with cache := d.cache.sweep now } := by
  have hsweep : d.cache.sweep now = d.cache := by
    rw [sweep, Lookup.filter, List.filter_eq_self.mpr]
    intro e _
    rw [isIdle_of_lt (h.policy.symm ▸ hnow)]
    rfl
  rw [hsweep]
  exact h

/-- A background fetch takes no entry away and makes none. -/
theorem find?_refresh (fetch : Fetcher σ α) (now : Nat) (d : Diary σ α) (key k : String) :
    (d.refresh fetch now key).cache.entries.find? k = none ↔ d.cache.entries.find? k = none := by
  simp only [Diary.refresh, refreshed, Lookup.find?_adjust]
  split
  · exact Option.map_eq_none_iff
  · exact Iff.rfl

theorem IsComplete.refresh (h : IsComplete p d) (hqueued : d.cache.queued = []) {key : String}
    (hkey : d.cache.entries.find? key ≠ none) : IsComplete p (d.refresh fetch now key) := by
  refine ⟨h.policy, fun k hk => ?_, ?_, ?_⟩
  · have hk' := (find?_refresh fetch now d key k).mp hk
    have hne : key ≠ k := fun heq => hkey (heq ▸ hk')
    simp only [Diary.refresh]
    rw [lastValue_append_of_failed (by simp [hne])]
    exact h.found k hk'
  all_goals simp [Diary.refresh, refreshed, hqueued]

theorem IsComplete.refreshes (h : IsComplete p d) (hqueued : d.cache.queued = [])
    {keys : List String} (hkeys : ∀ key ∈ keys, d.cache.entries.find? key ≠ none) :
    IsComplete p (keys.foldl (Diary.refresh fetch now) d) := by
  induction keys generalizing d with
  | nil => exact h
  | cons key rest ih =>
    obtain ⟨hkey, hrest⟩ := List.forall_mem_cons.mp hkeys
    refine ih (h.refresh hqueued hkey) hqueued fun k hk => ?_
    rw [Ne, find?_refresh]
    exact hrest k hk

theorem IsComplete.settle (h : IsComplete p d) : IsComplete p (d.next fetch now .settle) := by
  rw [settle_eq]
  refine IsComplete.refreshes ?_ rfl fun key hk => ?_
  · exact ⟨h.policy, h.found, List.nodup_nil, fun key hk => by cases hk⟩
  · obtain ⟨e, he, -⟩ := h.refreshing key hk
    rw [he]
    exact Option.some_ne_none e

theorem kept_isComplete (fetch : Fetcher σ α) (hnow : now < p.expireAfterIdle) :
    Kept fetch now (IsComplete (σ := σ) (α := α) p) where
  read key h := h.read hnow key
  evict h := h.evict hnow
  settle h := h.settle

/-! ## Values that are never refreshed -/

/-- Nothing is queued, and no key was fetched successfully twice. This is kept until the refresh
window is reached. -/
structure IsStill (p : RefreshPolicy) (d : Diary σ α) : Prop extends IsComplete p d where
  unqueued : d.cache.queued = []
  once : ∀ key, (successes key d.log).length ≤ 1

theorem IsStill.read (h : IsStill p d) (hexpire : now < p.expireAfterIdle)
    (hrefresh : now < p.refreshAfter) (key : String) : IsStill p (d.read fetch now key).after := by
  refine ⟨h.toIsComplete.read hexpire key, ?_, fun k => ?_⟩ <;>
    rcases read_cases fetch now d key with ⟨e, -, -, hread⟩ |
        ⟨hidle, result, source, hread⟩ <;> rw [hread]
  · have hfresh : isDue d.cache.policy now e = false := by
      rw [isDue, h.policy, decide_eq_false (by omega), Bool.false_and]
    simp [Cache.touched, hfresh, h.unqueued]
  · cases result <;> exact h.unqueued
  · exact h.once k
  · have hmiss : d.cache.entries.find? key = none := h.find?_eq_none hexpire hidle
    by_cases hkey : key = k
    · subst hkey
      have hnone : successes key d.log = [] := successes_eq_nil_iff.mpr (h.found key hmiss)
      rw [successes, List.filter_append, ← successes, hnone]
      exact List.length_filter_le _ _
    · rw [successes, List.filter_append, ← successes, List.filter_cons_of_neg (by simp [hkey])]
      simpa using h.once k

theorem kept_isStill (fetch : Fetcher σ α) (hexpire : now < p.expireAfterIdle)
    (hrefresh : now < p.refreshAfter) : Kept fetch now (IsStill (σ := σ) (α := α) p) where
  read key h := h.read hexpire hrefresh key
  evict h := ⟨h.toIsComplete.evict hexpire, h.unqueued, h.once⟩
  settle {d} h := by
    refine ⟨h.toIsComplete.settle, ?_, ?_⟩ <;> rw [settle_eq, h.unqueued]
    · rfl
    · exact h.once

/-! ## Entries that expire at once -/

/-- The expiry window is zero, so that no entry is ever live when it is read, and nothing is queued.
-/
structure IsTransient (d : Diary σ α) : Prop where
  window : d.cache.policy.expireAfterIdle = 0
  unqueued : d.cache.queued = []

theorem IsTransient.read (h : IsTransient d) (key : String) :
    IsTransient (d.read fetch now key).after := by
  rcases read_cases fetch now d key with ⟨e, -, hlive, -⟩ | ⟨-, result, source, hread⟩
  · rw [isIdle, h.window, decide_eq_true (Nat.zero_le _)] at hlive
    cases hlive
  · rw [hread]
    cases result <;> exact ⟨h.window, h.unqueued⟩

theorem kept_isTransient (fetch : Fetcher σ α) (now : Nat) :
    Kept fetch now (IsTransient (σ := σ) (α := α)) where
  read key h := h.read key
  evict h := ⟨h.window, h.unqueued⟩
  settle {d} h := by
    rw [settle_eq, h.unqueued]
    exact ⟨h.window, rfl⟩

/-! ## Fetches are written down -/

theorem kept_log (fetch : Fetcher σ α) (now : Nat) (log : List (Fetch α)) :
    Kept fetch now fun d : Diary σ α => log <+: d.log where
  read {d} key h := by
    rcases read_cases fetch now d key with ⟨e, -, -, hread⟩ |
        ⟨-, result, source, hread⟩ <;> rw [hread]
    · exact h
    · exact h.trans (List.prefix_append ..)
  evict h := h
  settle h := settle_of_refresh (I := fun d => log <+: d.log)
    (fun key hd => hd.trans (List.prefix_append ..)) h

/-- Settling fetches what is queued, each key as often as it stands in the queue. -/
theorem settle_spec (fetch : Fetcher σ α) (now : Nat) (d : Diary σ α) :
    (d.next fetch now .settle).cache.queued = [] ∧
      (d.next fetch now .settle).log.map (·.key) = d.log.map (·.key) ++ d.cache.queued := by
  rw [settle_eq]
  suffices h : ∀ (keys : List String) (d : Diary σ α),
      (keys.foldl (refresh fetch now) d).cache.queued = d.cache.queued ∧
        (keys.foldl (refresh fetch now) d).log.map (·.key) = d.log.map (·.key) ++ keys from h _ _
  intro keys
  induction keys with
  | nil => exact fun d => ⟨rfl, (List.append_nil _).symm⟩
  | cons key rest ih =>
    intro d
    obtain ⟨hqueued, hlog⟩ := ih (d.refresh fetch now key)
    refine ⟨hqueued, hlog.trans ?_⟩
    simp only [Diary.refresh, List.map_append, List.map_cons, List.map_nil, List.append_assoc,
      List.singleton_append]

end Diary

/-! ## Runs -/

/-- The value that a cache has for a key. -/
def valueOf (c : Cache α) (key : String) : Option α := (c.entries.find? key).map (·.value)

/-- No time of the run reaches the window, so that nothing in it is ever as old as the window is
long. -/
def Never (window : Nat) (steps : List (Nat × Step)) : Prop := ∀ s ∈ steps, s.1 < window

instance (window : Nat) (steps : List (Nat × Step)) : Decidable (Never window steps) :=
  inferInstanceAs (Decidable (∀ s ∈ steps, s.1 < window))

namespace Reading

/-- A read answers with what was fetched last under its key. If it fetches itself it answers with
the result of the fetch, and a failure leaves no entry of the key and every other entry as it
was. -/
structure IsFaithful (r : Reading σ α) : Prop where
  last : ∀ value, r.result = .ok value → lastValue r.key r.after.log = some value
  fetched : r.after.log = r.before.log ∧ r.result.isOk ∨
    r.after.log = r.before.log ++ [⟨r.key, r.result⟩]
  failed : ∀ f e, r.after.log = r.before.log ++ [f] → f.result = .error e → r.result = .error e ∧
    ∀ key, r.after.cache.entries.find? key =
      if r.key = key then none else r.before.cache.entries.find? key

/-- A key that was fetched successfully before is found, and not fetched: the read leaves the
fetches as they are. -/
def Finds (r : Reading σ α) : Prop :=
  (∃ f ∈ r.before.log, f.key = r.key ∧ f.result.isOk) → r.result.isOk ∧ r.after.log = r.before.log

end Reading

namespace Diary

variable {fetch : Fetcher σ α} {now : Nat} {d : Diary σ α} {p : RefreshPolicy}

theorem IsCurrent.isFaithful (h : IsCurrent d) (key : String) :
    (d.read fetch now key).IsFaithful := by
  rcases read_cases fetch now d key with ⟨e, he, -, hread⟩ |
      ⟨-, result, source, hread⟩ <;> rw [hread]
  · refine ⟨fun value hvalue => ?_, .inl ⟨rfl, rfl⟩, fun f err hlog => ?_⟩
    · cases hvalue
      exact h.value he
    · simp at hlog
  · refine ⟨fun value hvalue => ?_, .inr rfl, fun f err hlog hf => ?_⟩
    · cases hvalue
      exact lastValue_append_ok key d.log value
    · obtain rfl : (⟨key, result⟩ : Fetch α) = f := by simpa using hlog
      cases hf
      exact ⟨rfl, fun k => Lookup.find?_erase ..⟩

theorem IsComplete.finds (h : IsComplete p d) (hnow : now < p.expireAfterIdle) (key : String) :
    (d.read fetch now key).Finds := by
  rcases read_cases fetch now d key with ⟨e, -, -, hread⟩ |
      ⟨hidle, result, source, hread⟩ <;> rw [hread]
  · exact fun _ => ⟨rfl, rfl⟩
  · rintro ⟨f, hf, hkey, hok⟩
    have hnone := lastValue_eq_none_iff.mp (h.found key (h.find?_eq_none hnow hidle)) f hf hkey
    rw [hok] at hnone
    cases hnone

theorem IsComplete.valueOf_eq (h : IsComplete p d) (hcurrent : IsCurrent d) (key : String) :
    valueOf d.cache key = lastValue key d.log := by
  rw [valueOf]
  cases hfind : d.cache.entries.find? key with
  | none => exact (h.found key hfind).symm
  | some e => exact (hcurrent.value hfind).symm

end Diary

namespace Moment

/-- The reads of a step. -/
def readings (fetch : Fetcher σ α) (m : Moment σ α) : List (Reading σ α) :=
  match m.step with
  | .get key => [m.before.read fetch m.now key]
  | .join keys => m.before.readAll fetch m.now keys
  | .evict | .settle => []

/-- What the cache answers to the reads of a step. -/
def answers (fetch : Fetcher σ α) (m : Moment σ α) : List (Except Error α) :=
  match m.step with
  | .get key => [(m.before.cache.get fetch.recorded m.now key (m.before.source, m.before.log)).1]
  | .join keys =>
    (m.before.cache.getAll fetch.recorded m.now keys (m.before.source, m.before.log)).1
  | .evict | .settle => []

/-- The fetches that end in a step. -/
def fetches (m : Moment σ α) : List (Fetch α) := m.after.log.drop m.before.log.length

theorem answers_eq (fetch : Fetcher σ α) (m : Moment σ α) :
    m.answers fetch = (m.readings fetch).map (·.result) := by
  unfold answers readings
  cases m.step with
  | get key => rfl
  | join keys => exact (Diary.getAll_eq keys m.before).1
  | evict => rfl
  | settle => rfl

/-- What every read keeps holds before each read of a step. -/
theorem before_readings {fetch : Fetcher σ α} {m : Moment σ α} {I : Diary σ α → Prop}
    (h : Diary.Kept fetch m.now I) (hm : I m.before) :
    ∀ r ∈ m.readings fetch, I r.before ∧ r = r.before.read fetch m.now r.key := by
  unfold readings
  cases m.step with
  | get key =>
    intro r hr
    cases List.mem_singleton.mp hr
    exact ⟨hm, rfl⟩
  | join keys => exact h.readAll hm keys
  | evict | settle =>
    intro r hr
    cases hr

/-- What the windows of a cache allow at a step of a run: which reads fetch, which values stay, and
what is queued and settled. -/
structure IsFaithful (fetch : Fetcher σ α) (p : RefreshPolicy) (steps : List (Nat × Step))
    (m : Moment σ α) : Prop where
  log : m.after.log = m.before.log ++ m.fetches
  answers : m.answers fetch = (m.readings fetch).map (·.result)
  reads : ∀ r ∈ m.readings fetch, r.IsFaithful
  finds : Never p.expireAfterIdle steps → ∀ r ∈ m.readings fetch, r.Finds
  /-- A failed fetch leaves the value in its place. -/
  stays : Never p.expireAfterIdle steps →
    ∀ key, (∀ f ∈ m.fetches, f.key = key → f.result.isOk = false) →
    valueOf m.after.cache key = valueOf m.before.cache key
  /-- Settling fetches what is queued. -/
  settled : m.step = .settle → m.fetches.map (·.key) = m.before.cache.queued ∧
    m.after.cache.queued = []
  /-- No key is queued twice. -/
  nodup : p.expireAfterIdle = 0 ∨ Never p.expireAfterIdle steps → m.after.cache.queued.Nodup
  once : Never p.expireAfterIdle steps → Never p.refreshAfter steps →
    ∀ key, (successes key m.after.log).length ≤ 1

end Moment

namespace Diary

theorem isComplete_start (p : RefreshPolicy) (source : σ) :
    IsComplete p (start p source : Diary σ α) :=
  ⟨rfl, fun _ _ => rfl, List.nodup_nil, fun _ hk => by cases hk⟩

/-- At each step of every run reads answer with what was fetched last, and the windows are kept. No
assumption is made on the fetches or on the order of the times. -/
theorem moments_isFaithful (fetch : Fetcher σ α) (p : RefreshPolicy) (source : σ)
    {steps : List (Nat × Step)} {m : Moment σ α} (hm : m ∈ (start p source).moments fetch steps) :
    m.IsFaithful fetch p steps := by
  obtain ⟨hmem, hafter⟩ := mem_moments hm
  obtain ⟨hcurrent, hcurrent'⟩ :=
    kept_moments (fun s _ => kept_isCurrent fetch s.1) (fun e he => by cases he) hm
  -- Entries that never expire are an invariant only where no time reaches the window.
  have hcomplete (hexpire : Never p.expireAfterIdle steps) :
      IsComplete p m.before ∧ IsComplete p m.after :=
    kept_moments (fun s hs => kept_isComplete fetch (hexpire s hs)) (isComplete_start p source) hm
  have hlog : m.after.log = m.before.log ++ m.fetches :=
    have hprefix : m.before.log <+: m.after.log :=
      hafter ▸ (kept_log ..).next (List.prefix_refl _) m.step
    (List.prefix_iff_eq_append.mp hprefix).symm
  constructor
  case log => exact hlog
  case answers => exact m.answers_eq fetch
  case reads =>
    intro r hr
    obtain ⟨hbefore, hread⟩ := Moment.before_readings (kept_isCurrent fetch m.now) hcurrent r hr
    exact hread ▸ hbefore.isFaithful r.key
  case finds =>
    intro hexpire r hr
    obtain ⟨hbefore, hread⟩ :=
      Moment.before_readings (kept_isComplete fetch (hexpire _ hmem)) (hcomplete hexpire).1 r hr
    exact hread ▸ hbefore.finds (hexpire _ hmem) r.key
  case stays =>
    intro hexpire key hfailed
    obtain ⟨hbefore, hafter⟩ := hcomplete hexpire
    rw [hbefore.valueOf_eq hcurrent, hafter.valueOf_eq hcurrent', hlog,
      lastValue_append_of_failed hfailed]
  case settled =>
    intro hsettle
    obtain ⟨hqueued, hkeys⟩ := settle_spec fetch m.now m.before
    rw [hsettle] at hafter
    rw [← hafter] at hqueued hkeys
    rw [hlog, List.map_append, List.append_cancel_left_eq] at hkeys
    exact ⟨hkeys, hqueued⟩
  case nodup =>
    rintro (hzero | hexpire)
    · have htransient := (kept_moments (fun s _ => kept_isTransient fetch s.1) ⟨hzero, rfl⟩ hm).2
      rw [htransient.unqueued]
      exact List.nodup_nil
    · exact (hcomplete hexpire).2.nodup
  case once =>
    intro hexpire hrefresh
    exact (kept_moments (fun s hs => kept_isStill fetch (hexpire s hs) (hrefresh s hs))
      ⟨isComplete_start p source, rfl, fun _ => Nat.zero_le 1⟩ hm).2.once

/-- A refresh fails, and the value of the first fetch is read once more beside a key that is new. -/
theorem moments_isFaithful_sample :
    let fetch : Fetcher Nat Nat :=
      fun _ n => (if n = 1 then .error (.network "down") else .ok n, n + 1)
    let p : RefreshPolicy := ⟨0, 100⟩
    let steps : List (Nat × Step) :=
      [(0, .get "a"), (1, .get "a"), (2, .settle), (3, .join ["a", "b"])]
    ∃ m ∈ (start p 0).moments fetch steps,
      m.answers fetch = [.ok 0, .ok 2] ∧ Never p.expireAfterIdle steps ∧
        m.IsFaithful fetch p steps := by
  intro fetch p steps
  have hm : ((start p 0).moments fetch steps)[3] ∈ (start p 0).moments fetch steps :=
    List.getElem_mem _
  exact ⟨_, hm, rfl, by decide, moments_isFaithful fetch p 0 hm⟩

end Diary

end CrossChain.Cache
