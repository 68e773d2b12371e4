import CrossChain.Proofs.FeeTable.Index
import CrossChain.Proofs.Text
import Mathlib.Data.List.Induction

/-!
# The list of the fee tables

The tables of a generation are listed in the order in which their routes first appear, and a table
that takes the place of another stands where that one stood (`Agrees.routes_insert`,
`routes_ofTables`). As each route has one table, a lookup is a search of the list
(`Agrees.find?_eq`).

Main statement (`fees_listed`): after a reload there is one table for each route with a row that
denotes one, in the order of the first such rows, and it is what the last of them denotes; a lookup
searches this list.
-/

namespace CrossChain

/-- An element is kept where it first appears. -/
theorem eraseDups_concat {α : Type} [DecidableEq α] (l : List α) (a : α) :
    (l ++ [a]).eraseDups = if a ∈ l then l.eraseDups else l.eraseDups ++ [a] := by
  rw [List.eraseDups_append, List.removeAll]
  by_cases h : a ∈ l
  · rw [if_pos h, List.filter_cons_of_neg (by simpa using h)]
    simp
  · rw [if_neg h, List.filter_cons_of_pos (by simpa using h)]
    simp [List.eraseDups_cons]

/-- The route that a row is about. -/
def FeeRow.route (r : FeeRow) : Route := Route.of r.tokenName r.fromChain r.toChain

namespace FeeIndex

variable {x : FeeIndex} {t : FeeTable}

/-! ## Order -/

/-- A table of a new route goes behind the others, and one of a known route changes no route. -/
theorem Agrees.routes_insert (hx : x.Agrees) (t : FeeTable) : (x.insert t).all.map (·.route) =
    if t.route ∈ x.all.map (·.route) then x.all.map (·.route)
    else x.all.map (·.route) ++ [t.route] := by
  have hmem := hx.mem_routes t.route
  rw [FeeIndex.insert]
  by_cases hknown : t.route ∈ x.all.map (·.route)
  · rw [if_pos hknown, if_pos (hmem.mp hknown), routes_replaceFirst]
  · rw [if_neg hknown, if_neg (mt hmem.mpr hknown), List.map_append, List.map_singleton]

theorem ofTables_concat (tables : List FeeTable) (t : FeeTable) :
    ofTables (tables ++ [t]) = (ofTables tables).insert t := by
  rw [ofTables, List.foldl_append]
  rfl

/-- The routes are those of the tables, each where it first appears. -/
theorem routes_ofTables (tables : List FeeTable) :
    (ofTables tables).all.map (·.route) = (tables.map (·.route)).eraseDups := by
  induction tables using List.reverseRecOn with
  | nil => rfl
  | append_singleton tables t ih =>
    rw [ofTables_concat, (agrees_ofTables tables).routes_insert, ih, List.map_append,
      List.map_singleton, eraseDups_concat]
    simp only [List.mem_eraseDups]

/-! ## Lookups -/

/-- Where each route has one table, a lookup is a search of the list. -/
theorem Agrees.find?_eq (hx : x.Agrees) (token source target : String) :
    x.find? token source target = x.all.find? (·.route = Route.of token source target) := by
  rw [FeeIndex.find?]
  cases hfind : x.byRoute.find? (Route.of token source target) with
  | none =>
    rw [eq_comm, List.find?_eq_none]
    intro t ht hroute
    rw [← of_decide_eq_true hroute, (hx.mem t).mp ht] at hfind
    cases hfind
  | some t =>
    have hroute := hx.route _ t hfind
    rw [← hroute] at hfind ⊢
    exact (find?_of_pairwise (List.pairwise_map.mp hx.apart) ((hx.mem t).mpr hfind)).symm

/-! ## Generations of a reload -/

theorem route_eq_of_decode {r : FeeRow} (h : decode r = .ok t) : t.route = r.route := by
  rw [route_of_decode h, FeeRow.route]
  simp only [Route.of, Text.folded, Text.trim_trim]

theorem routes_decodeRows (rows : List FeeRow) : (Reload.decodeRows decode rows).1.map (·.route) =
    (rows.filter fun r => (decode r).isOk).map FeeRow.route := by
  induction rows with
  | nil => rfl
  | cons r rest ih =>
    cases h : decode r with
    | ok t => simp [Reload.decodeRows, h, ih, Except.isOk, Except.toBool, route_eq_of_decode h]
    | error alert => simp [Reload.decodeRows, h, ih, Except.isOk, Except.toBool]

/-- What a reload of rows publishes and reports. The list has the routes of the rows that denote a
table, each once and where it first appears, and the table of the last row of each; a lookup finds
what is listed. -/
structure Lists (rows : List FeeRow) (x : FeeIndex) (report : ReloadReport) : Prop where
  routes : x.all.map (·.route) = ((rows.filter fun r => (decode r).isOk).map FeeRow.route).eraseDups
  apart : x.all.Pairwise (·.route ≠ ·.route)
  stands : ∀ t ∈ x.all, ∃ r, Stands rows r t
  find? : ∀ token source target,
    x.find? token source target = x.all.find? (·.route = Route.of token source target)
  loaded : report.loaded = x.all.length

/-- Whatever rows a reload reads, and whatever it finds live, it lists the tables of the rows and
counts the rows that denote one. -/
theorem fees_listed (rows : List FeeRow) (previous : FeeIndex) :
    ∃ report, (reload (.ok rows)).report = .ok report ∧
      Lists rows ((reload (.ok rows)).live previous) report := by
  have hreload : reload (.ok rows) = _ := Reload.ofTable_ok rows
  have hstands := publishes_reload rows previous
  rw [hreload] at hstands ⊢
  have hagrees := agrees_ofTables (Reload.decodeRows decode rows).1
  refine ⟨_, rfl, ?_, List.pairwise_map.mp hagrees.apart, fun t ht => ?_, hagrees.find?_eq, rfl⟩
  · rw [← routes_decodeRows]
    exact routes_ofTables _
  · exact (hstands t).mp (.inl ht)

end FeeIndex

end CrossChain
