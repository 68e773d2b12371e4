import CrossChain.FeeTable.Index
import CrossChain.Proofs.Except
import CrossChain.Proofs.Lookup
import CrossChain.Proofs.Reload

/-!
# Published fee tables

The fee tables of a generation are seen in two views, by route and all in their order. Both have the
same tables, one for each route (`Agrees`), as an insertion replaces the table of its route in both
(`Agrees.insert`, with `mem_replaceFirst` for the list).

Main statement (`publishes_reload`): what a reload publishes is what the rows denote that no later
row of their route replaces (`Stands`).
-/

namespace CrossChain.FeeIndex

variable {x : FeeIndex} {t u : FeeTable} {l : List FeeTable}

theorem routes_replaceFirst (t : FeeTable) (l : List FeeTable) :
    (replaceFirst t l).map (·.route) = l.map (·.route) := by
  induction l with
  | nil => rfl
  | cons u rest ih =>
    rw [replaceFirst]
    split
    · next h => rw [List.map_cons, List.map_cons, h]
    · rw [List.map_cons, List.map_cons, ih]

/-- Among tables of different routes, one takes the place of the one with its route. -/
theorem mem_replaceFirst (hroutes : (l.map (·.route)).Nodup) (hmem : t.route ∈ l.map (·.route)) :
    u ∈ replaceFirst t l ↔ u = t ∨ u ∈ l ∧ u.route ≠ t.route := by
  induction l with
  | nil => cases hmem
  | cons v rest ih =>
    obtain ⟨hv, hrest⟩ := List.nodup_cons.mp hroutes
    rw [replaceFirst]
    split
    · -- The table at the head is the one that goes, and no other has its route.
      next heq =>
      have hothers (hu : u ∈ rest) : u.route ≠ t.route := fun h =>
        hv (List.mem_map.mpr ⟨u, hu, h.trans heq.symm⟩)
      rw [List.mem_cons, List.mem_cons]
      refine or_congr_right ⟨fun hu => ⟨.inr hu, hothers hu⟩, ?_⟩
      rintro ⟨rfl | hu, hne⟩
      · exact absurd heq hne
      · exact hu
    · next hne =>
      have hbehind : t.route ∈ rest.map (·.route) := by
        rcases List.mem_cons.mp hmem with h | h
        · exact absurd h.symm hne
        · exact h
      rw [List.mem_cons, ih hrest hbehind, List.mem_cons]
      constructor
      · rintro (rfl | rfl | ⟨hu, hroute⟩)
        · exact .inr ⟨.inl rfl, hne⟩
        · exact .inl rfl
        · exact .inr ⟨.inr hu, hroute⟩
      · rintro (rfl | ⟨rfl | hu, hroute⟩)
        · exact .inr (.inl rfl)
        · exact .inl rfl
        · exact .inr (.inr ⟨hu, hroute⟩)

/-- The two views agree: what is listed is what is found by its own route, and a route has one
table. -/
structure Agrees (x : FeeIndex) : Prop where
  mem : ∀ t, t ∈ x.all ↔ x.byRoute.find? t.route = some t
  route : ∀ r t, x.byRoute.find? r = some t → t.route = r
  apart : (x.all.map (·.route)).Nodup

theorem agrees_empty : empty.Agrees where
  mem t := by simp [empty]
  route r t h := by cases h
  apart := List.nodup_nil

namespace Agrees

variable (hx : x.Agrees)

include hx

theorem mem_routes (r : Route) : r ∈ x.all.map (·.route) ↔ x.byRoute.contains r = true := by
  rw [List.mem_map, Lookup.contains, Option.isSome_iff_exists]
  constructor
  · rintro ⟨t, ht, rfl⟩
    exact ⟨t, (hx.mem t).mp ht⟩
  · rintro ⟨t, ht⟩
    obtain rfl := hx.route r t ht
    exact ⟨t, (hx.mem t).mpr ht, rfl⟩

theorem mem_insert (t u : FeeTable) : u ∈ (x.insert t).all ↔
    u = t ∨ u ∈ x.all ∧ u.route ≠ t.route := by
  have hmem := hx.mem_routes t.route
  rw [FeeIndex.insert]
  dsimp only
  split
  · next hcontains => exact mem_replaceFirst hx.apart (hmem.mpr hcontains)
  · next hnew =>
    have hothers (hu : u ∈ x.all) : u.route ≠ t.route := fun h =>
      hnew (hmem.mp (List.mem_map.mpr ⟨u, hu, h⟩))
    rw [List.mem_append, List.mem_singleton, or_comm]
    exact or_congr_right ⟨fun hu => ⟨hu, hothers hu⟩, And.left⟩

theorem insert (t : FeeTable) : (x.insert t).Agrees where
  mem u := by
    rw [hx.mem_insert, hx.mem]
    change _ ↔ (x.byRoute.insert t.route t).find? u.route = some u
    rw [Lookup.find?_insert]
    split
    · next h =>
      rw [Option.some_inj]
      constructor
      · rintro (rfl | ⟨-, hne⟩)
        · rfl
        · exact absurd h.symm hne
      · exact fun heq => .inl heq.symm
    · next h =>
      constructor
      · rintro (rfl | ⟨hu, -⟩)
        · exact absurd rfl h
        · exact hu
      · exact fun hu => .inr ⟨hu, Ne.symm h⟩
  route r u h := by
    change (x.byRoute.insert t.route t).find? r = some u at h
    rw [Lookup.find?_insert] at h
    split at h
    · next heq =>
      cases h
      exact heq
    · exact hx.route r u h
  apart := by
    have hmem := hx.mem_routes t.route
    -- A known route keeps its place in the list, and a new one goes behind the others.
    rw [FeeIndex.insert]
    dsimp only
    split
    · rw [routes_replaceFirst]
      exact hx.apart
    · next hnew =>
      rw [List.map_append, List.map_singleton, List.nodup_append]
      refine ⟨hx.apart, List.pairwise_singleton _ _, fun r hr r' hr' heq => ?_⟩
      rw [List.mem_singleton] at hr'
      exact hnew (hmem.mp (hr' ▸ heq ▸ hr))

end Agrees

theorem agrees_ofTables (tables : List FeeTable) : (ofTables tables).Agrees := by
  suffices h : ∀ x : FeeIndex, x.Agrees →
    (tables.foldl FeeIndex.insert x).Agrees from h empty agrees_empty
  induction tables with
  | nil => exact fun x hx => hx
  | cons t rest ih => exact fun x hx => ih _ (hx.insert t)

theorem byRoute_ofTables (tables : List FeeTable) :
    (ofTables tables).byRoute = Lookup.keyed (·.route) tables := by
  suffices h : ∀ x : FeeIndex, (tables.foldl FeeIndex.insert x).byRoute =
      tables.foldl (fun m t => m.insert t.route t) x.byRoute from h empty
  induction tables with
  | nil => exact fun x => rfl
  | cons t rest ih => exact fun x => ih _

/-- A table of a generation, in either view: it is listed, or it is found for some route. -/
def Publishes (x : FeeIndex) (t : FeeTable) : Prop :=
  t ∈ x.all ∨ ∃ token source target, x.find? token source target = some t

theorem publishes_ofTables {tables : List FeeTable} :
    (ofTables tables).Publishes t ↔ tables.reverse.find? (·.route = t.route) = some t := by
  have hagrees := agrees_ofTables tables
  rw [← Lookup.find?_keyed, ← byRoute_ofTables]
  constructor
  · rintro (hall | ⟨token, source, target, hfind⟩)
    · exact (hagrees.mem t).mp hall
    · rw [hagrees.route _ t hfind]
      exact hfind
  · exact fun h => .inl ((hagrees.mem t).mpr h)

/-- The last of the values that have a property comes of the last row whose value has it. -/
theorem find?_reverse_filterMap {ρ α : Type} {f : ρ → Option α} {p : α → Bool} {rows : List ρ}
    {a : α} :
    (rows.filterMap f).reverse.find? p = some a ↔ p a = true ∧ ∃ before r behind,
      rows = before ++ r :: behind ∧ f r = some a ∧ ∀ r' ∈ behind, ∀ a', f r' = some a' →
      p a' = false := by
  rw [List.find?_eq_some_iff_append]
  refine and_congr_right fun _ => ⟨?_, ?_⟩
  · rintro ⟨later, earlier, hsplit, hlater⟩
    have hvalues : rows.filterMap f = earlier.reverse ++ a :: later.reverse := by
      rw [← List.reverse_reverse (rows.filterMap f), hsplit, List.reverse_append, List.reverse_cons,
        List.append_assoc, List.singleton_append]
    obtain ⟨front, rest, rfl, -, hrest⟩ := List.filterMap_eq_append_iff.mp hvalues
    obtain ⟨between, r, behind, rfl, -, hr, hbehind⟩ := List.filterMap_eq_cons_iff.mp hrest
    refine ⟨front ++ between, r, behind, (List.append_assoc ..).symm, hr, fun r' hr' a' ha' => ?_⟩
    have hmem : a' ∈ later := by
      rw [← List.mem_reverse, ← hbehind]
      exact List.mem_filterMap.mpr ⟨r', hr', ha'⟩
    simpa using hlater a' hmem
  · rintro ⟨before, r, behind, rfl, hr, hbehind⟩
    refine ⟨(behind.filterMap f).reverse, (before.filterMap f).reverse, ?_, fun a' ha' => ?_⟩
    · rw [List.filterMap_append, List.filterMap_cons_some hr, List.reverse_append,
        List.reverse_cons, List.append_assoc, List.singleton_append]
    · obtain ⟨r', hr', hfr'⟩ := List.mem_filterMap.mp (List.mem_reverse.mp ha')
      rw [hbehind r' hr' a' hfr']
      rfl

theorem route_of_decode {r : FeeRow} (h : decode r = .ok t) :
    t.route = Route.of (Text.trim r.tokenName) (Text.trim r.fromChain) (Text.trim r.toChain) := by
  have h := except_mapError_eq_ok.mp h
  obtain ⟨first, -, h⟩ := except_bind_eq_ok.mp h
  obtain ⟨second, -, h⟩ := except_bind_eq_ok.mp h
  obtain ⟨third, -, h⟩ := except_bind_eq_ok.mp h
  obtain ⟨fourth, -, h⟩ := except_bind_eq_ok.mp h
  cases h
  rfl

/-- A row denotes the table that stands for its route: no row behind it has a table for that
route. -/
def Stands (rows : List FeeRow) (r : FeeRow) (t : FeeTable) : Prop :=
  decode r = .ok t ∧ ∃ before behind, rows = before ++ r :: behind ∧
    ∀ r' ∈ behind, ∀ t', decode r' = .ok t' → t'.route ≠ t.route

/-- The published tables are those that stand. -/
theorem publishes_reload (rows : List FeeRow) (previous : FeeIndex) (t : FeeTable) :
    ((reload (.ok rows)).live previous).Publishes t ↔ ∃ r, Stands rows r t := by
  have hlive : (reload (.ok rows)).live previous = ofTables (Reload.decodeRows decode rows).1 := by
    rw [reload, Reload.ofTable_ok, Reload.live]
  rw [hlive, publishes_ofTables, Reload.decodeRows_fst, find?_reverse_filterMap]
  simp only [except_toOption_eq_some, decide_eq_true_eq, decide_eq_false_iff_not, true_and, Stands]
  constructor
  · rintro ⟨before, r, behind, hrows, hr, hbehind⟩
    exact ⟨r, hr, before, behind, hrows, hbehind⟩
  · rintro ⟨r, hr, before, behind, hrows, hbehind⟩
    exact ⟨before, r, behind, hrows, hr, hbehind⟩

end CrossChain.FeeIndex
