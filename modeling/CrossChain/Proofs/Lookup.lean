import CrossChain.Lookup
import Mathlib.Data.List.Induction

/-!
# Maps of keyed entries

A map that is filled from a list by a key finds what is listed last under a key (`find?_keyed`), and
its values are the entries that are found so (`IsKeyed`, `IsKeyed.mem_values`). Every entry of a
list without repetitions is found by its own key exactly when no two of them share one
(`find?_keyed_iff`); then none takes the place of another (`values_keyed`).

Values may be added to: `gathered` puts every entry of a list into the value under its key, in the
order of the list (`find?_gathered`), and `grouped` starts with none. A map of maps that is filled
by two keys has under the first what its entries fill (`find?_nested`) and finds by both what is
listed last under both (`find?_nested_bind`).
-/

namespace CrossChain

variable {κ ι α β : Type} [DecidableEq κ] [DecidableEq ι]

/-- Where no two entries share a key, each is the first under its own. -/
theorem find?_of_pairwise {key : β → κ} {l : List β} {b : β} (h : l.Pairwise (key · ≠ key ·))
    (hb : b ∈ l) :
    l.find? (key · = key b) = some b := by
  induction l with
  | nil => cases hb
  | cons a rest ih =>
    obtain ⟨ha, hrest⟩ := List.pairwise_cons.mp h
    rcases List.mem_cons.mp hb with rfl | hb
    · simp
    · rw [List.find?_cons_of_neg (by simpa using ha b hb)]
      exact ih hrest hb

/-- It is the last one, too. -/
theorem find?_reverse_of_pairwise {key : β → κ} {l : List β} {b : β}
    (h : l.Pairwise (key · ≠ key ·)) (hb : b ∈ l) : l.reverse.find? (key · = key b) = some b :=
  find?_of_pairwise (List.pairwise_reverse.mpr (h.imp fun hne => hne.symm))
    (List.mem_reverse.mpr hb)

/-- The last of the values of chosen entries that has a property is that of the last entry chosen
for it. -/
theorem find?_reverse_map_filter {isKept : β → Bool} {value : β → α} {p : α → Bool} {q : β → Bool}
    (h : ∀ b, q b = true ↔ isKept b = true ∧ p (value b) = true) (l : List β) :
    ((l.filter isKept).map value).reverse.find? p = (l.reverse.find? q).map value := by
  rw [← List.map_reverse, List.find?_map, ← List.filter_reverse, List.find?_filter]
  refine congrArg (Option.map value) (congrArg (List.find? · l.reverse) ?_)
  funext b
  rw [Bool.eq_iff_iff, h, decide_eq_true_eq]
  rfl

namespace Lookup

/-- The map of a list, each entry under its key; a later one takes the place of an earlier one. -/
def keyed (key : β → κ) (l : List β) : Lookup κ β := l.foldl (fun m b => m.insert (key b) b) empty

theorem find?_foldl_insert (key : β → κ) (value : β → α) (l : List β) (k : κ) :
    (l.foldl (fun m b => m.insert (key b) (value b)) empty).find? k =
      (l.reverse.find? (key · = k)).map value := by
  suffices h : ∀ m : Lookup κ α, (l.foldl (fun m b => m.insert (key b) (value b)) m).find? k =
      ((l.reverse.find? (key · = k)).map value).or (m.find? k) by
    rw [h, find?_empty, Option.or_none]
  induction l with
  | nil => exact fun _ => rfl
  | cons b rest ih =>
    intro m
    rw [List.foldl_cons, ih, List.reverse_cons, List.find?_append, Option.map_or, Option.or_assoc,
      find?_insert]
    by_cases hb : key b = k <;> simp [hb]

theorem find?_keyed (key : β → κ) (l : List β) (k : κ) :
    (keyed key l).find? k = l.reverse.find? (key · = k) :=
  (find?_foldl_insert key (·) l k).trans Option.map_id'

/-- An entry that shares its key with a later one is not found by it. -/
theorem find?_keyed_iff {key : β → κ} {l : List β} (h : l.Nodup) :
    (∀ b ∈ l, (keyed key l).find? (key b) = some b) ↔ l.Pairwise (key · ≠ key ·) := by
  constructor
  · intro hfound
    refine h.imp_of_mem fun {a b} ha hb hne hkey => hne ?_
    have hsame : some a = some b := by rw [← hfound a ha, ← hfound b hb, hkey]
    exact Option.some.inj hsame
  · intro hkeys b hb
    rw [find?_keyed]
    exact find?_reverse_of_pairwise hkeys hb

theorem keyed_concat (key : β → κ) (l : List β) (b : β) :
    keyed key (l ++ [b]) = (keyed key l).insert (key b) b := by
  rw [keyed, List.foldl_append]
  rfl

/-! ## Keys and values -/

theorem keys_insert_of_isSome {m : Lookup κ β} {k : κ} (h : (m.find? k).isSome) (v : β) :
    (m.insert k v).keys = m.keys := by
  obtain ⟨es⟩ := m
  change (place k v es).map (·.1) = es.map (·.1)
  induction es with
  | nil => cases h
  | cons e rest ih =>
    obtain ⟨k', v'⟩ := e
    rw [place]
    split
    · next heq => rw [List.map_cons, List.map_cons, heq]
    · next hne =>
      have hrest : (find? ⟨rest⟩ k : Option β).isSome := by
        rwa [find?, List.find?_cons_of_neg (by simpa using hne)] at h
      rw [List.map_cons, List.map_cons, ih hrest]

/-- An insertion adds an entry exactly when its key has none. -/
theorem size_insert (m : Lookup κ β) (k : κ) (v : β) :
    (m.insert k v).size = m.size + if m.contains k then 0 else 1 := by
  cases hfind : m.find? k with
  | some v' =>
    have hkeys :=
      congrArg List.length (keys_insert_of_isSome (by rw [hfind]; rfl : (m.find? k).isSome) v)
    rw [keys, List.length_map, keys, List.length_map] at hkeys
    rw [contains, hfind]
    exact hkeys
  | none =>
    rw [size, entries_insert_of_find?_eq_none hfind, List.length_append, contains, hfind]
    rfl

theorem nodup_keys_insert {m : Lookup κ β} (h : m.keys.Nodup) (k : κ) (v : β) :
    (m.insert k v).keys.Nodup := by
  cases hfind : m.find? k with
  | some v' => rwa [keys_insert_of_isSome (by rw [hfind]; rfl)]
  | none =>
    rw [keys, entries_insert_of_find?_eq_none hfind, List.map_append, List.nodup_append]
    refine ⟨h, List.pairwise_singleton _ _, fun j hj j' hj' => ?_⟩
    obtain ⟨e, he, rfl⟩ := List.mem_map.mp hj
    rw [List.mem_singleton.mp hj']
    exact find?_eq_none_iff.mp hfind e he

/-- Each key is there once, at a value that has it. So the values are the entries, and each is found
by its own key. -/
structure IsKeyed (key : β → κ) (m : Lookup κ β) : Prop where
  key_eq : ∀ e ∈ m.entries, key e.2 = e.1
  nodup : m.keys.Nodup

omit [DecidableEq κ] in
theorem isKeyed_empty {key : β → κ} : (empty : Lookup κ β).IsKeyed key where
  key_eq _ he := by cases he
  nodup := List.nodup_nil

namespace IsKeyed

variable {key : β → κ} {m : Lookup κ β}

theorem insert (h : m.IsKeyed key) (v : β) : (m.insert (key v) v).IsKeyed key where
  key_eq e he := by
    rcases mem_entries_insert he with rfl | he
    · rfl
    · exact h.key_eq e he
  nodup := nodup_keys_insert h.nodup _ _

theorem adjust (h : m.IsKeyed key) (k : κ) {f : β → β} (hf : ∀ v, key (f v) = key v) :
    (m.adjust k f).IsKeyed key where
  key_eq e he := by
    obtain ⟨e', he', rfl⟩ := List.mem_map.mp he
    split
    · exact (hf _).trans (h.key_eq e' he')
    · exact h.key_eq e' he'
  nodup := by
    have hkeys : (m.adjust k f).keys = m.keys := by
      rw [keys, Lookup.adjust, List.map_map]
      refine List.map_congr_left fun e _ => ?_
      rw [Function.comp_apply]
      split <;> rfl
    rw [hkeys]
    exact h.nodup

omit [DecidableEq κ] in
theorem pairwise_values (h : m.IsKeyed key) : m.values.Pairwise (key · ≠ key ·) := by
  have hkeys : m.values.map key = m.keys := by
    rw [values, List.map_map]
    exact List.map_congr_left h.key_eq
  rw [← List.pairwise_map, hkeys]
  exact h.nodup

/-- The values are what is found by its own key. -/
theorem mem_values (h : m.IsKeyed key) {v : β} : v ∈ m.values ↔ m.find? (key v) = some v := by
  constructor
  · intro hv
    obtain ⟨e, he, rfl⟩ := List.mem_map.mp hv
    have hfirst : m.entries.find? (fun e' => e'.1 = key e.2) = some e := by
      rw [h.key_eq e he]
      exact find?_of_pairwise (List.pairwise_map.mp h.nodup) he
    rw [find?, hfirst]
    rfl
  · intro hv
    exact List.mem_map.mpr ⟨_, mem_entries_of_find?_eq_some hv, rfl⟩

theorem find?_eq_some_iff (h : m.IsKeyed key) {k : κ} {v : β} :
    m.find? k = some v ↔ v ∈ m.values ∧ key v = k := by
  constructor
  · intro hv
    have hkey : key v = k := h.key_eq _ (mem_entries_of_find?_eq_some hv)
    exact ⟨h.mem_values.mpr (hkey ▸ hv), hkey⟩
  · rintro ⟨hv, rfl⟩
    exact h.mem_values.mp hv

end IsKeyed

theorem isKeyed_keyed (key : β → κ) (l : List β) : (keyed key l).IsKeyed key := by
  suffices h : ∀ m : Lookup κ β, m.IsKeyed key →
    (l.foldl (fun m b => m.insert (key b) b) m).IsKeyed key from
    h empty isKeyed_empty
  induction l with
  | nil => exact fun m hm => hm
  | cons b rest ih => exact fun m hm => ih _ (hm.insert b)

/-- Where no two entries share a key, none takes the place of another. -/
theorem values_keyed {key : β → κ} {l : List β} (h : l.Pairwise (key · ≠ key ·)) :
    (keyed key l).values = l := by
  induction l using List.reverseRecOn with
  | nil => rfl
  | append_singleton l b ih =>
    obtain ⟨hl, -, hb⟩ := List.pairwise_append.mp h
    have hnew : (keyed key l).find? (key b) = none := by
      rw [find?_keyed, List.find?_eq_none]
      intro a ha
      simpa using hb a (List.mem_reverse.mp ha) b (List.mem_singleton_self b)
    rw [keyed_concat, values, entries_insert_of_find?_eq_none hnew, List.map_append]
    exact congrArg (· ++ [b]) (ih hl)

/-! ## Values that are added to -/

/-- Every entry of a list is put into the value under its key, in the order of the list. -/
def gathered (key : β → κ) (put : α → β → α) (m : Lookup κ α) (l : List β) : Lookup κ α :=
  l.foldl (fun m b => m.adjust (key b) (put · b)) m

theorem find?_gathered (key : β → κ) (put : α → β → α) (m : Lookup κ α) (l : List β) (k : κ) :
    (gathered key put m l).find? k = (m.find? k).map fun v =>
      (l.filter (key · = k)).foldl put v := by
  induction l generalizing m with
  | nil => exact Option.map_id'.symm
  | cons b rest ih =>
    rw [gathered, List.foldl_cons, ← gathered, ih, find?_adjust]
    by_cases hb : key b = k
    · rw [if_pos hb, Option.map_map, List.filter_cons_of_pos (by simpa using hb)]
      rfl
    · rw [if_neg hb, List.filter_cons_of_neg (by simpa using hb)]

theorem IsKeyed.gathered {id : α → κ} {key : β → κ} {put : α → β → α}
    (hput : ∀ v b, id (put v b) = id v)
    {m : Lookup κ α} (h : m.IsKeyed id) (l : List β) : (m.gathered key put l).IsKeyed id := by
  induction l generalizing m with
  | nil => exact h
  | cons b rest ih => exact ih (h.adjust (key b) (hput · b))

/-- The map of the entries of a list under each key, in their order. -/
def grouped (key : β → κ) (l : List β) : Lookup κ (List β) :=
  l.foldl (fun m b => m.insert (key b) (((m.find? (key b)).getD []) ++ [b])) empty

theorem getD_find?_grouped (key : β → κ) (l : List β) (k : κ) :
    ((grouped key l).find? k).getD [] = l.filter (key · = k) := by
  suffices h : ∀ m : Lookup κ (List β), ((l.foldl (fun m b =>
      m.insert (key b) (((m.find? (key b)).getD []) ++ [b])) m).find? k).getD [] =
        (m.find? k).getD [] ++ l.filter (key · = k) from h empty
  induction l with
  | nil => exact fun m => (List.append_nil _).symm
  | cons b rest ih =>
    intro m
    rw [List.foldl_cons, ih, find?_insert]
    by_cases hb : key b = k <;> simp [hb]

/-! ## Maps of maps -/

/-- The map of maps of a list, each entry under two keys. -/
def nested (key : β → κ) (inner : β → ι) (l : List β) : Lookup κ (Lookup ι β) :=
  l.foldl (fun m b => m.insert (key b) (((m.find? (key b)).getD empty).insert (inner b) b)) empty

theorem nested_concat (key : β → κ) (inner : β → ι) (l : List β) (b : β) :
    nested key inner (l ++ [b]) = (nested key inner l).insert (key b)
      ((((nested key inner l).find? (key b)).getD empty).insert (inner b) b) := by
  rw [nested, List.foldl_append]
  rfl

/-- Under a key stands the map of its entries, and none if there are no such. -/
theorem find?_nested (key : β → κ) (inner : β → ι) (l : List β) (k : κ) :
    (nested key inner l).find? k =
      if l.any (key · = k) then some (keyed inner (l.filter (key · = k))) else none := by
  induction l using List.reverseRecOn with
  | nil => rfl
  | append_singleton l b ih =>
    rw [nested_concat, find?_insert, List.any_append, List.filter_append]
    by_cases hk : key b = k
    · subst hk
      -- A map that is not there yet is begun empty, as that of no entries is.
      have hbefore : ((nested key inner l).find? (key b)).getD empty =
          keyed inner (l.filter (key · = key b)) := by
        rw [ih]
        split
        · rfl
        · next hnone =>
          have hnil : l.filter (key · = key b) = [] := by
            rw [List.filter_eq_nil_iff]
            intro a ha hkey
            exact hnone (List.any_eq_true.mpr ⟨a, ha, hkey⟩)
          rw [hnil]
          rfl
      rw [if_pos rfl, hbefore]
      simp [keyed_concat]
    · simp [hk, ih]

theorem find?_keyed_filter (key : β → κ) (inner : β → ι) (l : List β) (k : κ) (i : ι) :
    (keyed inner (l.filter (key · = k))).find? i = l.reverse.find? fun b =>
      key b = k ∧ inner b = i := by
  rw [find?_keyed, ← List.filter_reverse, List.find?_filter]
  simp

/-- Two keys find what is listed last under both. -/
theorem find?_nested_bind (key : β → κ) (inner : β → ι) (l : List β) (k : κ) (i : ι) :
    ((nested key inner l).find? k).bind (·.find? i) = l.reverse.find? fun b =>
      key b = k ∧ inner b = i := by
  rw [find?_nested]
  split
  · rw [Option.bind_some, find?_keyed_filter]
  · next hnone =>
    rw [Option.bind_none, eq_comm, List.find?_eq_none]
    intro b hb hkeys
    refine hnone (List.any_eq_true.mpr ⟨b, List.mem_reverse.mp hb, ?_⟩)
    simpa using (of_decide_eq_true hkeys).1

end Lookup

end CrossChain
