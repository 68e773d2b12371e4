import CrossChain.Cache.Basic
import CrossChain.Proofs.Except

/-!
# Diaries of a cache

A diary holds a cache, the state of what it reads and all fetches that have ended (`Diary`), and a
run is a list of steps, each at its time (`moments`). The reads of a `join` are reads one after the
other (`getAll_eq`), and settling makes the background fetches that are queued (`settle_eq`). A read
finds a live entry, or it fetches and its result is that of the fetch (`get_cases`).

`lastValue` is the value of the last successful fetch of a key, which failures and fetches of other
keys leave alone (`lastValue_append_of_failed`). Main statement (`kept_moments`): what single reads,
evictions and settling keep (`Kept`) holds before and after every step of a run.
-/

namespace CrossChain.Cache

variable {α σ : Type}

/-! ## Reads and background fetches -/

/-- What a read of a live entry leaves. -/
def touched (c : Cache α) (now : Nat) (key : String) (e : CacheEntry α) : Cache α :=
  let due := isDue c.policy now e
  { c with
    entries := c.entries.insert key { e with lastRead := now, refreshing := e.refreshing || due }
    queued := if due then c.queued ++ [key] else c.queued }

/-- What a fetch in the foreground leaves: its value, or no entry. -/
def filled (c : Cache α) (now : Nat) (key : String) (result : Except Error α) : Cache α :=
  let c := { c with entries := c.entries.erase key }
  match result with
  | .ok value => c.put now key value
  | .error _ => c

theorem hit_cases (c : Cache α) (now : Nat) (key : String) :
    (∃ e, c.entries.find? key = some e ∧ isIdle c.policy now e = false ∧
      c.hit now key = (some e.value, c.touched now key e)) ∨
    ((∀ e, c.entries.find? key = some e → isIdle c.policy now e = true) ∧
      c.hit now key = (none, { c with entries := c.entries.erase key })) := by
  cases h : c.entries.find? key with
  | none =>
    refine .inr ⟨fun e he => (by cases he), ?_⟩
    rw [Lookup.erase_eq_self h]
    simp only [hit, h]
  | some e =>
    cases hidle : isIdle c.policy now e with
    | true =>
      refine .inr ⟨fun e' he' => ?_, ?_⟩
      · cases he'
        exact hidle
      · simp only [hit, h, hidle, if_true]
    | false =>
      refine .inl ⟨e, rfl, hidle, ?_⟩
      simp only [hit, h, hidle]
      rfl

theorem policy_hit (c : Cache α) (now : Nat) (key : String) :
    (c.hit now key).2.policy = c.policy := by
  rcases hit_cases c now key with ⟨e, -, -, hhit⟩ | ⟨-, hhit⟩
  · exact congrArg (·.2.policy) hhit
  · exact congrArg (·.2.policy) hhit

theorem hit_of_find?_eq_none {c : Cache α} {key : String} (h : c.entries.find? key = none)
    (now : Nat) :
    c.hit now key = (none, c) := by
  simp only [Cache.hit, h]

/-- A miss leaves no entry. -/
theorem find?_of_miss {c : Cache α} {now : Nat} {key : String} (h : (c.hit now key).1 = none) :
    (c.hit now key).2.entries.find? key = none := by
  rcases hit_cases c now key with ⟨e, -, -, hhit⟩ | ⟨-, hhit⟩ <;> rw [hhit] at h ⊢
  · cases h
  · exact (Lookup.find?_erase ..).trans (if_pos rfl)

/-- A read finds a live entry, or it fetches and its result is that of the fetch. -/
theorem get_cases (fetch : Fetcher σ α) (now : Nat) (key : String) (c : Cache α) (s : σ) :
    (∃ e, c.entries.find? key = some e ∧ isIdle c.policy now e = false ∧
      c.get fetch now key s = (.ok e.value, c.touched now key e, s)) ∨
    ((∀ e, c.entries.find? key = some e → isIdle c.policy now e = true) ∧
      c.get fetch now key s =
        ((fetch key s).1, c.filled now key (fetch key s).1, (fetch key s).2)) := by
  rcases hit_cases c now key with ⟨e, he, hlive, hhit⟩ | ⟨hidle, hhit⟩
  · refine .inl ⟨e, he, hlive, ?_⟩
    simp only [get, hhit]
  · refine .inr ⟨hidle, ?_⟩
    rcases hfetch : fetch key s with ⟨err | value, s'⟩ <;> simp only [get, hhit, hfetch, filled]

/-! ## Diaries -/

/-- A fetch that has ended, in the foreground or in the background, with its value or its error. -/
structure Fetch (α : Type) where
  key : String
  result : Except Error α

/-- A fetcher that writes down what it fetches. -/
def Fetcher.recorded (fetch : Fetcher σ α) : Fetcher (σ × List (Fetch α)) α := fun key s =>
  let (result, source) := fetch key s.1
  (result, source, s.2 ++ [⟨key, result⟩])

/-- A cache, the state of what it reads, and all fetches that have ended, in their order. -/
structure Diary (σ α : Type) where
  cache : Cache α
  source : σ
  log : List (Fetch α)

/-- What callers do with a cache. The reads of a `join` begin together, and `settle` lets the
background fetches that are queued run to their ends. -/
inductive Step where
  | get (key : String)
  | join (keys : List String)
  | evict
  | settle

/-- A read that has ended, between what was before and what is after it. -/
structure Reading (σ α : Type) where
  key : String
  before : Diary σ α
  result : Except Error α
  after : Diary σ α

/-- A step of a run: its time, and the diary before it and after it. -/
structure Moment (σ α : Type) where
  now : Nat
  step : Step
  before : Diary σ α
  after : Diary σ α

namespace Diary

def start (policy : RefreshPolicy) (source : σ) : Diary σ α := ⟨empty policy, source, []⟩

/-- The diary that an operation leaves. -/
def of (x : Cache α × σ × List (Fetch α)) : Diary σ α := ⟨x.1, x.2.1, x.2.2⟩

def read (fetch : Fetcher σ α) (now : Nat) (d : Diary σ α) (key : String) : Reading σ α :=
  let (result, left) := d.cache.get fetch.recorded now key (d.source, d.log)
  ⟨key, d, result, of left⟩

/-- Reads one after the other. -/
def readAll (fetch : Fetcher σ α) (now : Nat) (d : Diary σ α) : List String → List (Reading σ α)
  | [] => []
  | key :: rest =>
    let r := d.read fetch now key
    r :: r.after.readAll fetch now rest

def next (fetch : Fetcher σ α) (now : Nat) (d : Diary σ α) : Step → Diary σ α
  | .get key => of (d.cache.get fetch.recorded now key (d.source, d.log)).2
  | .join keys => of (d.cache.getAll fetch.recorded now keys (d.source, d.log)).2
  | .evict => { d with cache := (d.cache.evictIdle now).2 }
  | .settle => of (d.cache.settle fetch.recorded now (d.source, d.log))

def moments (fetch : Fetcher σ α) (d : Diary σ α) : List (Nat × Step) → List (Moment σ α)
  | [] => []
  | (now, step) :: rest =>
    let d' := d.next fetch now step
    ⟨now, step, d, d'⟩ :: d'.moments fetch rest

/-- A background fetch of a key. -/
def refresh (fetch : Fetcher σ α) (now : Nat) (d : Diary σ α) (key : String) : Diary σ α :=
  let (result, source) := fetch key d.source
  ⟨d.cache.refreshed now key result, source, d.log ++ [⟨key, result⟩]⟩

variable {fetch : Fetcher σ α} {now : Nat} {d : Diary σ α}

theorem read_cases (fetch : Fetcher σ α) (now : Nat) (d : Diary σ α) (key : String) :
    (∃ e, d.cache.entries.find? key = some e ∧ isIdle d.cache.policy now e = false ∧
      d.read fetch now key = ⟨key, d, .ok e.value, { d with cache := d.cache.touched now key e }⟩) ∨
    ((∀ e, d.cache.entries.find? key = some e → isIdle d.cache.policy now e = true) ∧
      ∃ result source, d.read fetch now key =
        ⟨key, d, result, ⟨d.cache.filled now key result, source, d.log ++ [⟨key, result⟩]⟩⟩) := by
  rcases get_cases fetch.recorded now key d.cache (d.source, d.log) with ⟨e, he, hlive, hget⟩ |
      ⟨hidle, hget⟩
  · refine .inl ⟨e, he, hlive, ?_⟩
    simp only [read, hget, of]
  · refine .inr ⟨hidle, (fetch key d.source).1, (fetch key d.source).2, ?_⟩
    simp only [read, hget, Fetcher.recorded, of]

/-- The reads of a `join` are reads one after the other. -/
theorem getAll_eq (keys : List String) (d : Diary σ α) :
    (d.cache.getAll fetch.recorded now keys (d.source, d.log)).1 =
        (d.readAll fetch now keys).map (·.result) ∧
      d.next fetch now (.join keys) = keys.foldl (fun d key => (d.read fetch now key).after) d := by
  induction keys generalizing d with
  | nil => exact ⟨rfl, rfl⟩
  | cons key rest ih =>
    obtain ⟨hresults, hnext⟩ := ih (d.read fetch now key).after
    refine ⟨?_, ?_⟩
    · rw [readAll, List.map_cons, ← hresults]
      rfl
    · rw [List.foldl_cons, ← hnext]
      rfl

theorem settle_eq (fetch : Fetcher σ α) (now : Nat) (d : Diary σ α) :
    d.next fetch now .settle =
      d.cache.queued.foldl (refresh fetch now)
        { d with cache := { d.cache with queued := [] } } := by
  suffices h : ∀ (keys : List String) (d : Diary σ α),
      of (refreshAll fetch.recorded now keys d.cache (d.source, d.log)) =
        keys.foldl (refresh fetch now) d from
    h d.cache.queued { d with cache := { d.cache with queued := [] } }
  intro keys
  induction keys with
  | nil => exact fun d => rfl
  | cons key rest ih => exact fun d => ih (d.refresh fetch now key)

end Diary

/-! ## The last value fetched -/

/-- The value of the last successful fetch of a key. -/
def lastValue (key : String) (log : List (Fetch α)) : Option α :=
  log.reverse.findSome? fun f => if f.key = key then f.result.toOption else none

/-- The successful fetches of a key. -/
def successes (key : String) (log : List (Fetch α)) : List (Fetch α) :=
  log.filter fun f => f.key = key && f.result.isOk

theorem lastValue_append (key : String) (log fetches : List (Fetch α)) :
    lastValue key (log ++ fetches) = (lastValue key fetches).or (lastValue key log) := by
  rw [lastValue, List.reverse_append, List.findSome?_append]
  rfl

theorem lastValue_eq_none_iff {key : String} {log : List (Fetch α)} :
    lastValue key log = none ↔ ∀ f ∈ log, f.key = key → f.result.isOk = false := by
  rw [lastValue, List.findSome?_eq_none_iff]
  simp only [List.mem_reverse]
  refine forall₂_congr fun f _ => ?_
  by_cases hkey : f.key = key
  · cases f.result <;> simp [hkey, Except.toOption, Except.isOk, Except.toBool]
  · simp [hkey]

theorem successes_eq_nil_iff {key : String} {log : List (Fetch α)} :
    successes key log = [] ↔ lastValue key log = none := by
  rw [lastValue_eq_none_iff, successes, List.filter_eq_nil_iff]
  refine forall₂_congr fun f _ => ?_
  by_cases hkey : f.key = key <;> simp [hkey]

/-- Failures do not count, nor do fetches of other keys. -/
theorem lastValue_append_of_failed {key : String} {log fetches : List (Fetch α)}
    (h : ∀ f ∈ fetches, f.key = key → f.result.isOk = false) :
    lastValue key (log ++ fetches) = lastValue key log := by
  rw [lastValue_append, lastValue_eq_none_iff.mpr h, Option.none_or]

theorem lastValue_append_ok (key : String) (log : List (Fetch α)) (value : α) :
    lastValue key (log ++ [⟨key, .ok value⟩]) = some value := by
  rw [lastValue_append]
  simp [lastValue, Except.toOption]

namespace Diary

variable {fetch : Fetcher σ α} {now : Nat} {d : Diary σ α}

/-! ## What a run keeps -/

/-- What reads, evictions and settling keep at a time. An invariant of a run needs these three and
nothing else. -/
structure Kept (fetch : Fetcher σ α) (now : Nat) (I : Diary σ α → Prop) : Prop where
  read : ∀ {d : Diary σ α} (key : String), I d → I (d.read fetch now key).after
  evict : ∀ {d : Diary σ α}, I d → I { d with cache := d.cache.sweep now }
  settle : ∀ {d : Diary σ α}, I d → I (d.next fetch now .settle)

variable {I : Diary σ α → Prop}

theorem Kept.next (h : Kept fetch now I) (hd : I d) (step : Step) : I (d.next fetch now step) := by
  cases step with
  | get key => exact h.read key hd
  | join keys =>
    rw [(getAll_eq keys d).2]
    induction keys generalizing d with
    | nil => exact hd
    | cons key rest ih => exact ih (h.read key hd)
  | evict => exact h.evict hd
  | settle => exact h.settle hd

theorem mem_moments {steps : List (Nat × Step)} {m : Moment σ α} (hm : m ∈ d.moments fetch steps) :
    (m.now, m.step) ∈ steps ∧ m.after = m.before.next fetch m.now m.step := by
  induction steps generalizing d with
  | nil => cases hm
  | cons s rest ih =>
    rcases List.mem_cons.mp hm with rfl | hm
    · exact ⟨List.mem_cons_self, rfl⟩
    · exact (ih hm).imp_left (List.mem_cons_of_mem _)

/-- What every step keeps holds before and after each step of a run. -/
theorem kept_moments {steps : List (Nat × Step)} (h : ∀ s ∈ steps, Kept fetch s.1 I) (hd : I d)
    {m : Moment σ α} (hm : m ∈ d.moments fetch steps) : I m.before ∧ I m.after := by
  induction steps generalizing d with
  | nil => cases hm
  | cons s rest ih =>
    obtain ⟨hs, hrest⟩ := List.forall_mem_cons.mp h
    rcases List.mem_cons.mp hm with rfl | hm
    · exact ⟨hd, hs.next hd s.2⟩
    · exact ih hrest (hs.next hd s.2) hm

/-- What every read keeps holds before each of several reads. -/
theorem Kept.readAll (h : Kept fetch now I) (hd : I d) (keys : List String) :
    ∀ r ∈ d.readAll fetch now keys, I r.before ∧ r = r.before.read fetch now r.key := by
  induction keys generalizing d with
  | nil =>
    intro r hr
    cases hr
  | cons key rest ih =>
    intro r hr
    rcases List.mem_cons.mp hr with rfl | hr
    · exact ⟨hd, rfl⟩
    · exact ih (h.read key hd) r hr

end Diary

end CrossChain.Cache
