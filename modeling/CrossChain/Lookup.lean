/-!
# Finite maps

A map as the list of its pairs, each key once, in the order in which the keys were first added.
Main statement: after `insert` a key finds the new value and every other key what it found before.
-/

namespace CrossChain

/-- A finite map. -/
structure Lookup (κ α : Type) where
  entries : List (κ × α)

namespace Lookup

variable {κ α : Type} [DecidableEq κ]

def empty : Lookup κ α := ⟨[]⟩

instance : Inhabited (Lookup κ α) := ⟨empty⟩

def find? (m : Lookup κ α) (k : κ) : Option α :=
  (m.entries.find? fun e => e.1 = k).map (·.2)

def contains (m : Lookup κ α) (k : κ) : Bool := (m.find? k).isSome

/-- Puts a value at the place of its key, or at the end. -/
def place (k : κ) (v : α) : List (κ × α) → List (κ × α)
  | [] => [(k, v)]
  | (k', v') :: rest => if k' = k then (k, v) :: rest else (k', v') :: place k v rest

def insert (m : Lookup κ α) (k : κ) (v : α) : Lookup κ α := ⟨place k v m.entries⟩

def erase (m : Lookup κ α) (k : κ) : Lookup κ α := ⟨m.entries.filter fun e => e.1 ≠ k⟩

def adjust (m : Lookup κ α) (k : κ) (f : α → α) : Lookup κ α :=
  ⟨m.entries.map fun e => if e.1 = k then (e.1, f e.2) else e⟩

def filter (m : Lookup κ α) (p : κ → α → Bool) : Lookup κ α :=
  ⟨m.entries.filter fun e => p e.1 e.2⟩

def size (m : Lookup κ α) : Nat := m.entries.length

def isEmpty (m : Lookup κ α) : Bool := m.entries.isEmpty

def keys (m : Lookup κ α) : List κ := m.entries.map (·.1)

def values (m : Lookup κ α) : List α := m.entries.map (·.2)

@[simp]
theorem find?_empty (k : κ) : (empty : Lookup κ α).find? k = none := rfl

theorem find?_insert (m : Lookup κ α) (k j : κ) (v : α) :
    (m.insert k v).find? j = if k = j then some v else m.find? j := by
  obtain ⟨es⟩ := m
  simp only [insert, find?]
  induction es with
  | nil => by_cases h : k = j <;> simp [place, h]
  | cons e rest ih =>
    obtain ⟨k', v'⟩ := e
    by_cases h : k' = k
    · subst h
      by_cases hj : k' = j <;> simp [place, hj]
    · by_cases hj : k' = j
      · subst hj
        have : k ≠ k' := fun e => h e.symm
        simp [place, h, this]
      · simp [place, h, hj, ih]

@[simp]
theorem find?_insert_self (m : Lookup κ α) (k : κ) (v : α) : (m.insert k v).find? k = some v := by
  simp [find?_insert]

theorem find?_insert_of_ne (m : Lookup κ α) {k j : κ} (v : α) (h : k ≠ j) :
    (m.insert k v).find? j = m.find? j := by
  simp [find?_insert, h]

theorem find?_eq_none_iff {m : Lookup κ α} {k : κ} : m.find? k = none ↔
    ∀ e ∈ m.entries, e.1 ≠ k := by
  simp [find?, List.find?_eq_none]

/-- A new key goes to the end. -/
theorem entries_insert_of_find?_eq_none {m : Lookup κ α} {k : κ} (h : m.find? k = none) (v : α) :
    (m.insert k v).entries = m.entries ++ [(k, v)] := by
  rw [find?_eq_none_iff] at h
  obtain ⟨es⟩ := m
  change place k v es = es ++ [(k, v)]
  induction es with
  | nil => rfl
  | cons e rest ih =>
    obtain ⟨hne, hrest⟩ := List.forall_mem_cons.mp h
    rw [place, if_neg hne, ih hrest, List.cons_append]

theorem mem_entries_of_find?_eq_some {m : Lookup κ α} {k : κ} {v : α} (h : m.find? k = some v) :
    (k, v) ∈ m.entries := by
  obtain ⟨e, hfind, rfl⟩ := Option.map_eq_some_iff.mp h
  have hkey : e.1 = k := by simpa using List.find?_some hfind
  rw [← hkey]
  exact List.mem_of_find?_eq_some hfind

theorem mem_entries_insert {m : Lookup κ α} {k : κ} {v : α} {e : κ × α}
    (h : e ∈ (m.insert k v).entries) : e = (k, v) ∨ e ∈ m.entries := by
  obtain ⟨es⟩ := m
  change e ∈ place k v es at h
  induction es with
  | nil => exact .inl (List.mem_singleton.mp h)
  | cons e' rest ih =>
    rw [place] at h
    split at h
    · exact (List.mem_cons.mp h).imp_right (List.mem_cons_of_mem _)
    · rcases List.mem_cons.mp h with rfl | h
      · exact .inr List.mem_cons_self
      · exact (ih h).imp_right (List.mem_cons_of_mem _)

theorem find?_erase (m : Lookup κ α) (k j : κ) :
    (m.erase k).find? j = if k = j then none else m.find? j := by
  obtain ⟨es⟩ := m
  simp only [erase, find?]
  induction es with
  | nil => simp
  | cons e rest ih =>
    by_cases hk : e.1 = k
    · rw [List.filter_cons_of_neg (by simp [hk]), ih]
      by_cases hj : k = j
      · rw [if_pos hj, if_pos hj]
      · rw [if_neg hj, if_neg hj, List.find?_cons_of_neg (by simpa [hk] using hj)]
    · rw [List.filter_cons_of_pos (by simp [hk])]
      by_cases hj : e.1 = j
      · have hne : k ≠ j := fun h => hk (hj.trans h.symm)
        rw [if_neg hne, List.find?_cons_of_pos (by simpa using hj),
          List.find?_cons_of_pos (by simpa using hj)]
      · rw [List.find?_cons_of_neg (by simpa using hj),
          List.find?_cons_of_neg (by simpa using hj), ih]

/-- A key that is not there cannot be taken away. -/
theorem erase_eq_self {m : Lookup κ α} {k : κ} (h : m.find? k = none) : m.erase k = m := by
  rw [find?_eq_none_iff] at h
  obtain ⟨es⟩ := m
  rw [erase, List.filter_eq_self.mpr (by simpa using h)]

theorem find?_adjust (m : Lookup κ α) (k j : κ) (f : α → α) :
    (m.adjust k f).find? j = if k = j then (m.find? j).map f else m.find? j := by
  obtain ⟨es⟩ := m
  simp only [adjust, find?]
  induction es with
  | nil => simp
  | cons e rest ih =>
    by_cases hj : e.1 = j
    · by_cases hk : e.1 = k
      · simp [hj, ← hk]
      · have hne : k ≠ j := fun h => hk (hj.trans h.symm)
        rw [List.map_cons, if_neg hk, if_neg hne, List.find?_cons_of_pos (by simpa using hj),
          List.find?_cons_of_pos (by simpa using hj)]
    · have hne : (if e.1 = k then (e.1, f e.2) else e).1 ≠ j := by
        split <;> exact hj
      rw [List.map_cons, List.find?_cons_of_neg (by simpa using hne), ih,
        List.find?_cons_of_neg (by simpa using hj)]

end Lookup

end CrossChain
