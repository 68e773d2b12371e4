import CrossChain.Reload

/-!
# Rows that are left out

A reload decodes the rows of a table one by one and raises an alert for each that it skips. `kept`
are the rows that can be decoded and `refused` the alerts of the others; together they are as many
as the rows (`length_kept_add_refused`).

Leaving out beforehand the rows that a reload skips changes nothing but its alerts: what is decoded
of the rows that are kept is what is decoded of all of them (`decodeRows_kept`, `ofTable_kept`).
Where decoding changes a state, as the opening of transports does, this needs a row that is left out
to leave the state alike (`decodeRowsWith_keptWith`).
-/

namespace CrossChain.Reload

variable {γ ρ α β σ : Type}

def kept (decode : ρ → Except Alert α) (rows : List ρ) : List ρ :=
  rows.filter fun row => (decode row).isOk

/-- The alerts of the rows that cannot be decoded, in their order. -/
def refused (decode : ρ → Except Alert α) (rows : List ρ) : List Alert :=
  rows.filterMap fun row =>
    match decode row with
    | .ok _ => none
    | .error alert => some alert

section

variable {decode : ρ → Except Alert α} {row : ρ} {rest : List ρ}

theorem kept_cons_ok {a : α} (h : decode row = .ok a) :
    kept decode (row :: rest) = row :: kept decode rest := by
  rw [kept, List.filter_cons_of_pos (by rw [h]; rfl)]
  rfl

theorem kept_cons_error {alert : Alert} (h : decode row = .error alert) :
    kept decode (row :: rest) = kept decode rest := by
  rw [kept, List.filter_cons_of_neg (by rw [h]; exact Bool.false_ne_true)]
  rfl

theorem refused_cons_ok {a : α} (h : decode row = .ok a) :
    refused decode (row :: rest) = refused decode rest := by
  simp [refused, h]

theorem refused_cons_error {alert : Alert} (h : decode row = .error alert) :
    refused decode (row :: rest) = alert :: refused decode rest := by
  simp [refused, h]

end

theorem length_kept_add_refused (decode : ρ → Except Alert α) (rows : List ρ) :
    rows.length = (kept decode rows).length + (refused decode rows).length := by
  induction rows with
  | nil => rfl
  | cons row rest ih =>
    cases h : decode row with
    | ok a =>
      rw [kept_cons_ok h, refused_cons_ok h, List.length_cons, List.length_cons]
      omega
    | error alert =>
      rw [kept_cons_error h, refused_cons_error h, List.length_cons, List.length_cons]
      omega

/-- The alerts that decoding raises are those of the rows that cannot be decoded. -/
theorem decodeRows_alerts (decode : ρ → Except Alert α) (rows : List ρ) :
    (decodeRows decode rows).2 = refused decode rows := by
  induction rows with
  | nil => rfl
  | cons row rest ih =>
    cases h : decode row with
    | ok a => simp [decodeRows, h, ih, refused_cons_ok h]
    | error alert => simp [decodeRows, h, ih, refused_cons_error h]

theorem decodeRows_fst (decode : ρ → Except Alert α) (rows : List ρ) :
    (decodeRows decode rows).1 = rows.filterMap fun row => (decode row).toOption := by
  induction rows with
  | nil => rfl
  | cons row rest ih => cases h : decode row <;> simp [decodeRows, h, ih, Except.toOption]

/-- Where the rows that can be decoded are those with a property, their values are decoded in their
order. -/
theorem decodeRows_of_iff {decode : ρ → Except Alert α} {isKept : ρ → Bool} {value : ρ → α}
    (hkept : ∀ row, isKept row = true → decode row = .ok (value row))
    (hleft : ∀ row, isKept row = false → (decode row).isOk = false) (rows : List ρ) :
    (decodeRows decode rows).1 = (rows.filter isKept).map value ∧
      (refused decode rows).length = rows.countP fun row => !isKept row := by
  induction rows with
  | nil => exact ⟨rfl, rfl⟩
  | cons row rest ih =>
    obtain ⟨hvalues, hcount⟩ := ih
    cases hrow : isKept row with
    | true =>
      have hok := hkept row hrow
      simp [decodeRows, hok, hvalues, hrow, refused_cons_ok hok, hcount]
    | false =>
      have herror := hleft row hrow
      cases hdecode : decode row with
      | ok a =>
        rw [hdecode] at herror
        cases herror
      | error alert => simp [decodeRows, hdecode, hvalues, hrow, refused_cons_error hdecode, hcount]

theorem decodeRows_kept (decode : ρ → Except Alert α) (rows : List ρ) :
    decodeRows decode (kept decode rows) = ((decodeRows decode rows).1, []) := by
  induction rows with
  | nil => rfl
  | cons row rest ih =>
    cases h : decode row with
    | ok a => simp [kept_cons_ok h, decodeRows, h, ih]
    | error alert => simp [kept_cons_error h, decodeRows, h, ih]

/-! ## Decoding that changes a state -/

/-- The rows that are decoded when decoding starts in a state. -/
def keptWith (decode : ρ → σ → Except Alert α × σ) (s : σ) : List ρ → List ρ
  | [] => []
  | row :: rest =>
    match decode row s with
    | (.ok _, s) => row :: keptWith decode s rest
    | (.error _, s) => keptWith decode s rest

/-- The alerts of the others, in their order. -/
def refusedWith (decode : ρ → σ → Except Alert α × σ) (s : σ) : List ρ → List Alert
  | [] => []
  | row :: rest =>
    match decode row s with
    | (.ok _, s) => refusedWith decode s rest
    | (.error alert, s) => alert :: refusedWith decode s rest

theorem length_keptWith_add_refusedWith (decode : ρ → σ → Except Alert α × σ) (s : σ)
    (rows : List ρ) :
    rows.length = (keptWith decode s rows).length + (refusedWith decode s rows).length := by
  induction rows generalizing s with
  | nil => rfl
  | cons row rest ih =>
    rcases h : decode row s with ⟨alert | a, s'⟩
    all_goals
      have hrest := ih s'
      simp only [keptWith, refusedWith, h, List.length_cons]
      omega

theorem decodeRowsWith_alerts (decode : ρ → σ → Except Alert α × σ) (s : σ) (rows : List ρ) :
    (decodeRowsWith decode s rows).2.1 = refusedWith decode s rows := by
  induction rows generalizing s with
  | nil => rfl
  | cons row rest ih =>
    rcases h : decode row s with ⟨alert | a, s'⟩
    · simp [decodeRowsWith, refusedWith, h, ih s']
    · simp [decodeRowsWith, refusedWith, h, ih s']

theorem keptWith_sublist (decode : ρ → σ → Except Alert α × σ) (s : σ) (rows : List ρ) :
    (keptWith decode s rows).Sublist rows := by
  induction rows generalizing s with
  | nil => exact .slnil
  | cons row rest ih =>
    rcases hrow : decode row s with ⟨alert | a, s'⟩ <;> simp only [keptWith, hrow]
    · exact (ih s').cons row
    · exact (ih s').cons_cons row

/-- What can be read off the rows that are kept is read off what is decoded. -/
theorem map_decodeRowsWith {decode : ρ → σ → Except Alert α × σ} {view : α → β} {source : ρ → β}
    (h : ∀ {row s a s'}, decode row s = (.ok a, s') → view a = source row) (s : σ) (rows : List ρ) :
    (decodeRowsWith decode s rows).1.map view = (keptWith decode s rows).map source := by
  induction rows generalizing s with
  | nil => rfl
  | cons row rest ih =>
    rcases hrow : decode row s with ⟨alert | a, s'⟩
    · simp [decodeRowsWith, keptWith, hrow, ih s']
    · simp [decodeRowsWith, keptWith, hrow, ih s', h hrow]

/-- Where a row that is left out leaves the state like the one that never saw it, the rows that are
kept are decoded alike. `view` is what counts of a decoded row. -/
theorem decodeRowsWith_keptWith {decode : ρ → σ → Except Alert α × σ} (alike : σ → σ → Prop)
    (view : α → β)
    (hkept : ∀ {row s t a s'}, alike s t → decode row s = (.ok a, s') →
      ∃ b t', decode row t = (.ok b, t') ∧ view b = view a ∧ alike s' t')
    (hleft : ∀ {row s t alert s'}, alike s t → decode row s = (.error alert, s') → alike s' t)
    {s t : σ} (h : alike s t) (rows : List ρ) :
    (decodeRowsWith decode t (keptWith decode s rows)).1.map view =
        (decodeRowsWith decode s rows).1.map view ∧
      (decodeRowsWith decode t (keptWith decode s rows)).2.1 = [] := by
  induction rows generalizing s t with
  | nil => exact ⟨rfl, rfl⟩
  | cons row rest ih =>
    rcases hs : decode row s with ⟨alert | a, s'⟩
    · obtain ⟨hdecoded, halerts⟩ := ih (hleft h hs)
      simp [decodeRowsWith, keptWith, hs, hdecoded, halerts]
    · obtain ⟨b, t', ht, hview, h'⟩ := hkept h hs
      obtain ⟨hdecoded, halerts⟩ := ih h'
      simp [decodeRowsWith, keptWith, hs, ht, hview, hdecoded, halerts]

/-! ## Reloads of one table -/

variable {table : String} {decode : ρ → Except Alert α} {build : List α → γ × Nat}

theorem ofTable_ok (rows : List ρ) :
    ofTable table decode build (.ok rows) =
      ⟨.ok ((build (decodeRows decode rows).1).1,
        ⟨(build (decodeRows decode rows).1).2, (refused decode rows).length⟩),
        refused decode rows⟩ := by
  rw [← decodeRows_alerts]
  rfl

theorem ofTable_kept (rows : List ρ) :
    ofTable table decode build (.ok (kept decode rows)) =
      ⟨.ok ((build (decodeRows decode rows).1).1, ⟨(build (decodeRows decode rows).1).2, 0⟩),
        []⟩ := by
  simp [ofTable, decodeRows_kept]

end CrossChain.Reload
