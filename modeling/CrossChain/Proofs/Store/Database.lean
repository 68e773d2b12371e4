import CrossChain.Proofs.Except
import CrossChain.Store.Database

/-!
# The reference database over time

Rows can be inserted with ids of their own, tables can be cleared and dropped, and still every
reference table that is there has its shape and ids up to the greatest so far (`Fits`,
`Table.IsNumbered`). An insertion is accepted when its columns are there, there is an id for it and
no constraint is broken (`Table.insert_eq_ok`); where there is no id it is refused before its
constraints are looked at (`Table.insert_of_newId`).

Main statement (`Reached.isSound`): every database that can be reached is sound, so that what is
called like a reference table is one.
-/

namespace CrossChain.Database

namespace Table

variable {t t' : Table} {given : List (String × Cell)}

/-- Every id is at most the greatest so far, so that the next one is new. -/
def IsNumbered (t : Table) : Prop := ∀ r ∈ t.records, r.id ≤ t.lastId

theorem mem_place {r s : Record} {l : List Record} : s ∈ place r l ↔ s = r ∨ s ∈ l := by
  induction l with
  | nil => simp [place]
  | cons a rest ih =>
    rw [place]
    split
    · rw [List.mem_cons, ih, List.mem_cons, or_left_comm]
    · rw [List.mem_cons]

/-- Wherever a record is placed, it is found by what it has apart from all others. -/
theorem find?_place {p : Record → Bool} {r : Record} {l : List Record} (hr : p r = true)
    (hl : ∀ s ∈ l, p s = false) : (place r l).find? p = some r := by
  induction l with
  | nil => simp [place, hr]
  | cons a rest ih =>
    obtain ⟨ha, hrest⟩ := List.forall_mem_cons.mp hl
    rw [place]
    split
    · rw [List.find?_cons_of_neg (by simp [ha]), ih hrest]
    · rw [List.find?_cons_of_pos hr]

/-- The table with one more record. -/
def withRecord (t : Table) (r : Record) : Table :=
  { t with records := place r t.records, lastId := max t.lastId r.id }

theorem IsNumbered.withRecord (h : t.IsNumbered) (r : Record) : (t.withRecord r).IsNumbered := by
  intro s hs
  change s.id ≤ max t.lastId r.id
  rcases mem_place.mp hs with rfl | hs
  · exact Int.le_max_right ..
  · exact Int.le_trans (h s hs) (Int.le_max_left ..)

/-- The first of the values that is for no column. -/
def unknown? (t : Table) (given : List (String × Cell)) : Option (String × Cell) :=
  given.find? fun g => !(g.1 == "id" || t.schema.columns.any (·.name == g.1))

/-- A row is inserted when its columns are there, there is an id for it, and no constraint is
broken. -/
theorem insert_eq_ok : t.insert given = .ok t' ↔
    t.unknown? given = none ∧ ∃ id, t.newId ((List.lookup "id" given).getD .null) = .ok id ∧
      t.missing? (t.record id given) = none ∧ t.duplicate? (t.record id given) = none ∧
      t.withRecord (t.record id given) = t' := by
  unfold insert
  cases hknown : t.unknown? given with
  | some g =>
    rw [unknown?] at hknown
    simp only [hknown, except_throw, except_error_bind, reduceCtorEq, false_and]
  | none =>
    rw [unknown?] at hknown
    simp only [hknown, except_bind_eq_ok, true_and]
    refine exists_congr fun id => and_congr_right fun _ => ?_
    cases hmissing : t.missing? (t.record id given) with
    | some c => simp
    | none =>
      cases hdup : t.duplicate? (t.record id given) with
      | some key => simp
      | none => simp only [except_pure, Except.ok.injEq, true_and, withRecord, record]

/-- A row for which there is no id is refused before its constraints are looked at. -/
theorem insert_of_newId {f : Fault} (hknown : t.unknown? given = none)
    (hid : t.newId ((List.lookup "id" given).getD .null) = .error f) :
    t.insert given = .error f := by
  rw [unknown?] at hknown
  simp only [insert, hknown, hid, except_error_bind]

theorem isNumbered_empty (s : Schema) : (empty s).IsNumbered := fun r hr => by cases hr

theorem isNumbered_clear (t : Table) : t.clear.IsNumbered := fun r hr => by cases hr

theorem IsNumbered.insert (ht : t.IsNumbered) (h : t.insert given = .ok t') : t'.IsNumbered := by
  obtain ⟨-, id, -, -, -, rfl⟩ := insert_eq_ok.mp h
  exact ht.withRecord _

theorem schema_insert (h : t.insert given = .ok t') : t'.schema = t.schema := by
  obtain ⟨-, id, -, -, -, rfl⟩ := insert_eq_ok.mp h
  rfl

end Table

/-! ## Reference tables -/

/-- The databases that come of setting the reference tables up, inserting rows, and clearing and
dropping tables. -/
inductive Reached : Database → Prop
  | blank : Reached blank
  | migrate {d : Database} : Reached d → Reached d.migrate
  | insert {d d' : Database} {name : String} {given : List (String × Cell)} :
    Reached d → d.insert name given = .ok d' → Reached d'
  | clear {d d' : Database} {name : String} : Reached d → d.clear name = .ok d' → Reached d'
  | drop {d d' : Database} {name : String} : Reached d → d.drop name = .ok d' → Reached d'

/-- A table that may stand under a name: whatever is called like a reference table has its shape. -/
structure Fits (name : String) (t : Table) : Prop where
  schema : ∀ s ∈ layout, s.name = name → t.schema = s
  numbered : t.IsNumbered

/-- All tables fit their names: whatever stands under the name of a reference table is one. -/
def IsSound (tables : Lookup String Table) : Prop :=
  ∀ name t, tables.find? name = some t → Fits name t

variable {d : Database} {name : String} {tables : Lookup String Table}

theorem table_eq_ok {t : Table} : d.table name = .ok t ↔ d.tables.find? name = some t := by
  unfold table
  cases d.tables.find? name with
  | some t' => simp
  | none => simp

theorem IsSound.insert {t : Table} (h : IsSound tables) (ht : Fits name t) :
    IsSound (tables.insert name t) := by
  intro name' t' hfind
  rw [Lookup.find?_insert] at hfind
  split at hfind
  · next heq =>
    cases heq
    cases hfind
    exact ht
  · exact h name' t' hfind

theorem IsSound.erase (h : IsSound tables) : IsSound (tables.erase name) := by
  intro name' t hfind
  rw [Lookup.find?_erase] at hfind
  split at hfind
  · cases hfind
  · exact h name' t hfind

theorem eq_of_name : ∀ s ∈ layout, ∀ s' ∈ layout, s'.name = s.name → s = s' := by
  decide +kernel

theorem isSound_foldl {schemas : List Schema} (hschemas : ∀ s ∈ schemas, s ∈ layout)
    (h : IsSound tables) :
    IsSound (schemas.foldl (fun tables s => tables.insert s.name (Table.empty s)) tables) := by
  induction schemas generalizing tables with
  | nil => exact h
  | cons s rest ih =>
    obtain ⟨hs, hrest⟩ := List.forall_mem_cons.mp hschemas
    exact ih hrest (h.insert ⟨fun s' hs' hname => eq_of_name s hs s' hs' hname,
      Table.isNumbered_empty s⟩)

theorem IsSound.migrate (h : IsSound d.tables) : IsSound d.migrate.tables := by
  unfold Database.migrate
  split
  · exact h
  · exact isSound_foldl (fun _ hs => hs) h

theorem Reached.isSound (h : Reached d) : IsSound d.tables := by
  induction h with
  | blank => exact fun name t hfind => by cases hfind
  | migrate _ ih => exact ih.migrate
  | insert _ h ih =>
    obtain ⟨t, ht, h⟩ := except_bind_eq_ok.mp h
    obtain ⟨t', hinsert, h⟩ := except_bind_eq_ok.mp h
    cases h
    have hfits := ih _ t (table_eq_ok.mp ht)
    refine ih.insert ⟨fun s hs hname => ?_, hfits.numbered.insert hinsert⟩
    rw [Table.schema_insert hinsert]
    exact hfits.schema s hs hname
  | clear _ h ih =>
    obtain ⟨t, ht, h⟩ := except_bind_eq_ok.mp h
    cases h
    exact ih.insert ⟨(ih _ t (table_eq_ok.mp ht)).schema, t.isNumbered_clear⟩
  | drop _ h ih =>
    obtain ⟨t, ht, h⟩ := except_bind_eq_ok.mp h
    cases h
    exact ih.erase

end CrossChain.Database
