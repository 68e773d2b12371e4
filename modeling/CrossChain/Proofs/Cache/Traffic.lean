import CrossChain.Proofs.Cache.Flight

/-!
# Everything that happens to a cache

Reads come and wait at their gates, fetches of reads and in the background read the source at one
moment and hand over their result at a later one, idle entries are evicted, and the source changes
on its own: `Traffic` is a cache with all this in progress, and `Reached` are the states that some
order of these events leads to.

Main statement (`Reached.isFetched`): in every order a read ends with what a fetch of its own key
ended with, and only keys that were asked for are fetched. What fetches and changes keep of the
source holds in every state (`Reached.keeps`).
-/

namespace CrossChain.Cache

variable {α σ : Type}

/-! ## Events -/

/-- A cache with its reads and background fetches in progress, and the source that they read. -/
structure Traffic (σ α : Type) where
  flight : Flight α
  source : σ
  /-- The keys of the reads, in the order in which they arrived. -/
  asked : List String
  /-- What the fetches of reads ended with. -/
  results : List (Nat × Except Error α)
  /-- The background fetches whose results have not been taken. -/
  pending : List (Fetch α)
  /-- All fetches that have ended. -/
  log : List (Fetch α)

namespace Traffic

def start (policy : RefreshPolicy) (source : σ) : Traffic σ α :=
  ⟨.start (empty policy), source, [], [], [], []⟩

def withCache (x : Traffic σ α) (c : Cache α) : Traffic σ α :=
  { x with flight := { x.flight with cache := c } }

/-- A fetch of a key, written down. -/
def fetch (fetcher : Fetcher σ α) (x : Traffic σ α) (key : String) : Traffic σ α :=
  { x with source := (fetcher key x.source).2, log := x.log ++ [⟨key, (fetcher key x.source).1⟩] }

/-- The next event, at any time. A fetch reads the source at one event and hands over its result at
another, and in between the source may change as `change` says. -/
inductive Next (fetcher : Fetcher σ α) (change : σ → σ → Prop) (x : Traffic σ α) :
    Traffic σ α → Prop where
  | arrive (now : Nat) (key : String) :
    Next fetcher change x { x with flight := x.flight.arrive now key, asked := x.asked ++ [key] }
  | resume (now caller : Nat) : Next fetcher change x
    { x with flight := x.flight.resume now caller }
  /-- The fetch of a read reads the source. -/
  | fetch {caller gate : Nat} {key : String}
    (hcaller : x.flight.callers[caller]? = some (.fetching key gate))
    (hnew : ∀ r ∈ x.results, r.1 ≠ caller) :
    Next fetcher change x
      { x.fetch fetcher key with results := x.results ++ [(caller, (fetcher key x.source).1)] }
  /-- A read takes what its fetch ended with. -/
  | fetched (now : Nat) {caller : Nat} {result : Except Error α}
    (hresult : (caller, result) ∈ x.results) :
    Next fetcher change x { x with flight := x.flight.fetched now caller result }
  /-- A background fetch reads the source. -/
  | background {before after : List String} {key : String}
    (hqueued : x.flight.cache.queued = before ++ key :: after) :
    Next fetcher change x
      { (x.fetch fetcher key).withCache { x.flight.cache with queued := before ++ after } with
        pending := x.pending ++ [⟨key, (fetcher key x.source).1⟩] }
  /-- The cache takes what a background fetch ended with. -/
  | refreshed (now : Nat) {before after : List (Fetch α)} {f : Fetch α}
    (hpending : x.pending = before ++ f :: after) :
    Next fetcher change x
      { x.withCache (x.flight.cache.refreshed now f.key f.result) with pending := before ++ after }
  | evict (now : Nat) : Next fetcher change x (x.withCache (x.flight.cache.sweep now))
  /-- A read that has found an idle entry may drop what stands in its place by then. -/
  | drop (key : String) :
    Next fetcher change x
      (x.withCache { x.flight.cache with entries := x.flight.cache.entries.erase key })
  | change {source : σ} (hchange : change x.source source) : Next fetcher change x
    { x with source := source }

/-- What events lead to, in any order, from an empty cache over a source. -/
inductive Reached (fetcher : Fetcher σ α) (change : σ → σ → Prop) (policy : RefreshPolicy)
    (source : σ) :
    Traffic σ α → Prop where
  | start : Reached fetcher change policy source (start policy source)
  | next {x y : Traffic σ α} : Reached fetcher change policy source x → Next fetcher change x y →
    Reached fetcher change policy source y

end Traffic

/-! ## Where values come from -/

/-- Every entry holds what a fetch of its key ended with, and what is queued for a refresh was asked
for. -/
structure IsFetched (asked : List String) (log : List (Fetch α)) (c : Cache α) : Prop where
  entries : ∀ e ∈ c.entries.entries, ⟨e.1, .ok e.2.value⟩ ∈ log
  queued : ∀ key ∈ c.queued, key ∈ asked

namespace IsFetched

variable {asked : List String} {log : List (Fetch α)} {c : Cache α} {key : String}

theorem mono (h : IsFetched asked log c) {asked' : List String} {log' : List (Fetch α)}
    (hasked : asked ⊆ asked') (hlog : log ⊆ log') : IsFetched asked' log' c :=
  ⟨fun e he => hlog (h.entries e he), fun k hk => hasked (h.queued k hk)⟩

theorem erase (h : IsFetched asked log c) (key : String) :
    IsFetched asked log { c with entries := c.entries.erase key } :=
  ⟨fun e he => h.entries e (List.mem_filter.mp he).1, h.queued⟩

theorem sweep (h : IsFetched asked log c) (now : Nat) : IsFetched asked log (c.sweep now) :=
  ⟨fun e he => h.entries e (List.mem_filter.mp he).1, h.queued⟩

theorem value (h : IsFetched asked log c) {e : CacheEntry α} (he : c.entries.find? key = some e) :
    ⟨key, .ok e.value⟩ ∈ log :=
  h.entries (key, e) (Lookup.mem_entries_of_find?_eq_some he)

theorem put (h : IsFetched asked log c) {value : α} (hvalue : ⟨key, .ok value⟩ ∈ log) (now : Nat) :
    IsFetched asked log (c.put now key value) := by
  refine ⟨fun e he => ?_, h.queued⟩
  rcases Lookup.mem_entries_insert he with rfl | he
  · exact hvalue
  · exact h.entries e he

theorem refreshed (h : IsFetched asked log c) {result : Except Error α}
    (hresult : ⟨key, result⟩ ∈ log)
    (now : Nat) : IsFetched asked log (c.refreshed now key result) := by
  refine ⟨fun e he => ?_, h.queued⟩
  obtain ⟨e', he', rfl⟩ := List.mem_map.mp he
  have hentry := h.entries e' he'
  split
  · next hkey =>
    subst hkey
    cases result with
    | ok value => exact hresult
    | error e => exact hentry
  · exact hentry

/-- A read of a key that was asked for answers with what a fetch of the key ended with, if it
answers at once. -/
theorem hit (h : IsFetched asked log c) (hkey : key ∈ asked) (now : Nat) :
    IsFetched asked log (c.hit now key).2 ∧ ∀ value, (c.hit now key).1 = some value →
    ⟨key, .ok value⟩ ∈ log := by
  rcases hit_cases c now key with ⟨e, he, -, hhit⟩ | ⟨-, hhit⟩ <;> rw [hhit]
  · have hlog : ⟨key, .ok e.value⟩ ∈ log := h.value he
    refine ⟨⟨fun e' he' => ?_, fun k hk => ?_⟩, fun value hvalue => ?_⟩
    · rcases Lookup.mem_entries_insert he' with rfl | he'
      · exact hlog
      · exact h.entries e' he'
    · simp only [touched] at hk
      split at hk
      · rcases List.mem_append.mp hk with hk | hk
        · exact h.queued k hk
        · exact List.mem_singleton.mp hk ▸ hkey
      · exact h.queued k hk
    · cases hvalue
      exact hlog
  · refine ⟨h.erase key, fun value hvalue => ?_⟩
    cases hvalue

end IsFetched

/-- A read of a key is one of that key, and what it has ended with a fetch of the key ended with. -/
def Caller.IsOf (log : List (Fetch α)) (key : String) : Caller α → Prop
  | .waiting k _ | .fetching k _ => k = key
  | .finished result => ⟨key, result⟩ ∈ log

theorem Caller.IsOf.mono {log log' : List (Fetch α)} (hlog : log ⊆ log') {key : String}
    {state : Caller α} (h : state.IsOf log key) : state.IsOf log' key := by
  cases state with
  | waiting k gate => exact h
  | fetching k gate => exact h
  | finished result => exact hlog h

namespace Flight

/-- The reads are of the keys asked, in the order in which they were asked, and what has ended has
ended as a fetch of its own key. -/
structure IsFetched (asked : List String) (log : List (Fetch α)) (f : Flight α) : Prop where
  cache : f.cache.IsFetched asked log
  length : f.callers.length = asked.length
  callers : ∀ {i : Nat} {state : Caller α} {key : String},
    f.callers[i]? = some state → asked[i]? = some key → state.IsOf log key

namespace IsFetched

variable {asked : List String} {log : List (Fetch α)} {f : Flight α} {key : String}
  {caller gate now : Nat}

theorem mono (h : f.IsFetched asked log) {log' : List (Fetch α)} (hlog : log ⊆ log') :
    f.IsFetched asked log' :=
  ⟨h.cache.mono (List.Subset.refl _) hlog, h.length,
    fun hstate hkey => (h.callers hstate hkey).mono hlog⟩

theorem withCache (h : f.IsFetched asked log) {c : Cache α} (hc : c.IsFetched asked log) :
    IsFetched asked log { f with cache := c } :=
  ⟨hc, h.length, h.callers⟩

/-- Who waits or fetches has asked for the key. -/
theorem asked_of_placed (h : f.IsFetched asked log) {state : Caller α}
    (hstate : f.callers[caller]? = some state)
    (hplace : state.place = some (key, gate)) : asked[caller]? = some key := by
  have hlt : caller < asked.length := h.length ▸ (List.getElem?_eq_some_iff.mp hstate).1
  have hasked := List.getElem?_eq_getElem hlt
  have hof := h.callers hstate hasked
  cases state <;> cases hplace
  all_goals rw [hasked, hof]

theorem setCaller (h : f.IsFetched asked log) (hkey : asked[caller]? = some key) {state : Caller α}
    (hstate : state.IsOf log key) : (f.setCaller caller state).IsFetched asked log := by
  refine ⟨h.cache, (List.length_set ..).trans h.length, fun {i state' key'} hstate' hkey' => ?_⟩
  have hset : (f.callers.set caller state)[i]? = some state' := hstate'
  rw [List.getElem?_set] at hset
  split at hset
  · next heq =>
    subst heq
    cases hkey.symm.trans hkey'
    split at hset
    · cases hset
      exact hstate
    · cases hset
  · exact h.callers hset hkey'

theorem enter (h : f.IsFetched asked log) (hcaller : f.callers[caller]? = some (.waiting key gate))
    (now : Nat) :
    (f.enter now caller key gate).IsFetched asked log := by
  have hkey := h.asked_of_placed hcaller rfl
  obtain ⟨hcache, hvalue⟩ := h.cache.hit (List.mem_of_getElem? hkey) now
  unfold Flight.enter
  rcases hhit : f.cache.hit now key with ⟨_ | value, c⟩ <;> rw [hhit] at hcache hvalue
  · exact (h.withCache hcache).setCaller hkey rfl
  · have hof : (Caller.finished (.ok value)).IsOf log key := hvalue value rfl
    have hset := (h.withCache hcache).setCaller hkey hof
    exact ⟨hset.cache, hset.length, hset.callers⟩

theorem append (h : f.IsFetched asked log) {c : Cache α} (hc : c.IsFetched (asked ++ [key]) log)
    {state : Caller α} (hstate : state.IsOf log key) :
    IsFetched (asked ++ [key]) log { f with cache := c, callers := f.callers ++ [state] } := by
  refine ⟨hc, by simp [h.length], fun {i state' key'} hstate' hkey' => ?_⟩
  rcases Nat.lt_or_ge i asked.length with hlt | hge
  · rw [List.getElem?_append_left (h.length ▸ hlt)] at hstate'
    rw [List.getElem?_append_left hlt] at hkey'
    exact h.callers hstate' hkey'
  · rw [List.getElem?_append_right (h.length ▸ hge)] at hstate'
    rw [List.getElem?_append_right hge] at hkey'
    cases List.mem_singleton.mp (List.mem_of_getElem? hstate')
    cases List.mem_singleton.mp (List.mem_of_getElem? hkey')
    exact hstate

theorem arrive (h : f.IsFetched asked log) (now : Nat) (key : String) :
    (f.arrive now key).IsFetched (asked ++ [key]) log := by
  have hasked := h.cache.mono (List.subset_append_left asked [key]) (List.Subset.refl log)
  obtain ⟨hcache, hvalue⟩ := hasked.hit (List.mem_append_right asked List.mem_cons_self) now
  rcases arrive_cases now f key with
    ⟨value, c, hhit, harrive⟩ | ⟨c, gate, hhit, rfl, harrive | ⟨-, harrive⟩⟩ <;> rw [harrive] <;>
    rw [hhit] at hcache hvalue
  · exact h.append hcache (hvalue value rfl)
  all_goals
    have hjoined : IsFetched (asked ++ [key]) log { f.joined key with cache := c } :=
      have hwaiting : (Caller.waiting (α := α) key (f.gateOf key).1).IsOf log key := rfl
      have happended := h.append hcache hwaiting
      ⟨happended.cache, happended.length, happended.callers⟩
  · exact hjoined
  · exact hjoined.enter List.getElem?_concat_length now

theorem resume (h : f.IsFetched asked log) (now caller : Nat) :
    (f.resume now caller).IsFetched asked log := by
  unfold Flight.resume
  split
  · next key gate hcaller =>
    split
    · exact h.enter hcaller now
    · exact h
  · exact h

theorem fetched (h : f.IsFetched asked log) (hkey : asked[caller]? = some key)
    {result : Except Error α} (hresult : ⟨key, result⟩ ∈ log) (now : Nat) :
    (f.fetched now caller result).IsFetched asked log := by
  unfold Flight.fetched
  split
  · next k gate hcaller =>
    obtain rfl : k = key := h.callers hcaller hkey
    cases result with
    | ok value =>
      have hof : (Caller.finished (.ok value)).IsOf log k := hresult
      have hset := (h.withCache (h.cache.put hresult now)).setCaller hkey hof
      exact ⟨hset.cache, hset.length, hset.callers⟩
    | error e =>
      have hof : (Caller.finished (.error e)).IsOf log k := hresult
      have hset := h.setCaller hkey hof
      exact ⟨hset.cache, hset.length, hset.callers⟩
  · exact h

end IsFetched

end Flight

namespace Traffic

/-- Everything that is kept or was answered is what a fetch of its own key ended with. -/
structure IsFetched (x : Traffic σ α) : Prop where
  flight : x.flight.IsFetched x.asked x.log
  results : ∀ r ∈ x.results, ∃ key, x.asked[r.1]? = some key ∧ ⟨key, r.2⟩ ∈ x.log
  pending : ∀ f ∈ x.pending, f ∈ x.log
  asked : ∀ f ∈ x.log, f.key ∈ x.asked

variable {fetcher : Fetcher σ α} {change : σ → σ → Prop} {policy : RefreshPolicy} {source : σ}
  {x y : Traffic σ α} {key : String}

theorem isFetched_start (policy : RefreshPolicy) (source : σ) :
    (start policy source : Traffic σ α).IsFetched where
  flight := ⟨⟨nofun, nofun⟩, rfl, nofun⟩
  results := nofun
  pending := nofun
  asked := nofun

theorem IsFetched.withCache (h : x.IsFetched) {c : Cache α} (hc : c.IsFetched x.asked x.log) :
    (x.withCache c).IsFetched :=
  ⟨h.flight.withCache hc, h.results, h.pending, h.asked⟩

theorem IsFetched.fetch (h : x.IsFetched) (hkey : key ∈ x.asked) :
    (x.fetch fetcher key).IsFetched where
  flight := h.flight.mono (List.subset_append_left ..)
  results r hr := by
    obtain ⟨k, hk, hlog⟩ := h.results r hr
    exact ⟨k, hk, List.mem_append_left _ hlog⟩
  pending f hf := List.mem_append_left _ (h.pending f hf)
  asked := List.forall_mem_append.mpr ⟨h.asked, List.forall_mem_singleton.mpr hkey⟩

theorem IsFetched.next (h : x.IsFetched) (hnext : Next fetcher change x y) : y.IsFetched := by
  -- Only the beginnings of fetches add to what was fetched. All other events hand on what is there.
  cases hnext with
  | arrive now key =>
    refine ⟨h.flight.arrive now key, fun r hr => ?_, h.pending,
      fun f hf => List.mem_append_left _ (h.asked f hf)⟩
    obtain ⟨k, hk, hlog⟩ := h.results r hr
    exact ⟨k, by rw [List.getElem?_append_left (List.getElem?_eq_some_iff.mp hk).1, hk], hlog⟩
  | resume now caller => exact ⟨h.flight.resume now caller, h.results, h.pending, h.asked⟩
  | @fetch caller gate key hcaller hnew =>
    have hkey := h.flight.asked_of_placed hcaller rfl
    have hfetch : (x.fetch fetcher key).IsFetched := h.fetch (List.mem_of_getElem? hkey)
    refine ⟨hfetch.flight, List.forall_mem_append.mpr ⟨hfetch.results, ?_⟩,
      hfetch.pending, hfetch.asked⟩
    rw [List.forall_mem_singleton]
    exact ⟨key, hkey, List.mem_append_right _ List.mem_cons_self⟩
  | fetched now hresult =>
    obtain ⟨key, hkey, hlog⟩ := h.results _ hresult
    exact ⟨h.flight.fetched hkey hlog now, h.results, h.pending, h.asked⟩
  | @background before after key hqueued =>
    have hmem (k : String) (hk : k ∈ before ++ key :: after) : k ∈ x.asked :=
      h.flight.cache.queued k (hqueued ▸ hk)
    have hfetch : (x.fetch fetcher key).IsFetched := h.fetch (hmem key (by simp))
    have hcache := hfetch.withCache (c := { x.flight.cache with queued := before ++ after })
      ⟨hfetch.flight.cache.entries,
        fun k hk => hmem k (((List.sublist_cons_self key after).append_left before).subset hk)⟩
    refine ⟨hcache.flight, hcache.results,
      List.forall_mem_append.mpr ⟨hcache.pending, ?_⟩, hcache.asked⟩
    rw [List.forall_mem_singleton]
    exact List.mem_append_right _ List.mem_cons_self
  | @refreshed now before after f hpending =>
    have hmem (g : Fetch α) (hg : g ∈ before ++ f :: after) : g ∈ x.log :=
      h.pending g (hpending ▸ hg)
    have hcache := h.withCache (h.flight.cache.refreshed (hmem f (by simp)) now)
    exact ⟨hcache.flight, hcache.results,
      fun g hg => hmem g (((List.sublist_cons_self f after).append_left before).subset hg),
        hcache.asked⟩
  | evict now => exact h.withCache (h.flight.cache.sweep now)
  | drop key => exact h.withCache (h.flight.cache.erase key)
  | change hchange => exact ⟨h.flight, h.results, h.pending, h.asked⟩

/-- In every order of events, what is kept or answered is what a fetch of its own key ended with. -/
theorem Reached.isFetched (h : Reached fetcher change policy source x) : x.IsFetched := by
  induction h with
  | start => exact isFetched_start policy source
  | next _ hnext ih => exact ih.next hnext

/-- What fetches and changes of the source keep holds of every source and the fetches from it. -/
theorem Reached.keeps {I : σ → List (Fetch α) → Prop} (h : Reached fetcher change policy source x)
    (hstart : I source [])
    (hfetch : ∀ key s log, I s log → I (fetcher key s).2 (log ++ [⟨key, (fetcher key s).1⟩]))
    (hchange : ∀ s s' log, change s s' → I s log → I s' log) : I x.source x.log := by
  induction h with
  | start => exact hstart
  | next _ hnext ih =>
    cases hnext with
    | fetch _ _ | background _ => exact hfetch _ _ _ ih
    | change hstep => exact hchange _ _ _ hstep ih
    | arrive _ _ | resume _ _ | fetched _ _ | refreshed _ _ | evict _ | drop _ => exact ih

end Traffic

end CrossChain.Cache
