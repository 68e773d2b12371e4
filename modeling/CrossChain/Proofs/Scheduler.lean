import CrossChain.Scheduler

/-!
# Runs of scheduled tasks

A loop that goes on waits for the first run that is not yet due and has raised the alerts of the
runs before (`Waits`); one that has ended does nothing any more (`step_of_stopped`). Every event but
a stop lets the loop wait on (`Waits.step`), and a stop ends it (`Waits.step_stop`), so that a run
of events leads to one or the other (`Goes.run`).

Main statement (`trace_onTime`): at every event the loop has run its task once for each interval
that has passed before it was told to stop (`activeTime`), and it has raised the alerts of these
runs. Neither the ends of the runs nor a `false` on the channel (`Goes.step_signal_false`) nor how
the time that passes is cut into pieces (`step_advance_add`) makes a difference.
-/

namespace CrossChain

namespace ScheduleEvent

/-- The event ends the loop. -/
def isStop : ScheduleEvent → Bool
  | advance _ => false
  | signal stop => stop
  | senderDropped => true

def duration : ScheduleEvent → Nat
  | advance duration => duration
  | _ => 0

end ScheduleEvent

/-- The alerts of the first runs of a task. -/
def Task.alerts (t : Task) (runs : Nat) : List Alert :=
  (List.range runs).filterMap fun n => t.alert? (n + 1)

theorem Task.alerts_succ (t : Task) (runs : Nat) :
    t.alerts (runs + 1) = t.alerts runs ++ (t.alert? (runs + 1)).toList := by
  rw [alerts, alerts, List.range_succ, List.filterMap_append]
  congr 1

namespace Schedule

variable {t : Task} {s : Schedule}

/-! ## The clock -/

theorem advanceTo_of_not_due {time : Nat}
    (h : ¬ (s.stopped = false ∧ s.nextRun ≤ time ∧ 0 < s.interval)) :
    advanceTo t time s = { s with now := time } := by
  rw [advanceTo, dif_neg h]

theorem advanceTo_of_due {time : Nat} (h : s.stopped = false ∧ s.nextRun ≤ time ∧ 0 < s.interval) :
    advanceTo t time s = advanceTo t time (runOnce t s) := by
  rw [advanceTo, dif_pos h]

theorem now_advanceTo (t : Task) (time : Nat) (s : Schedule) : (advanceTo t time s).now = time := by
  fun_induction advanceTo t time s with
  | case1 s h ih => exact ih
  | case2 s h => rfl

/-- Where the clock stands does not count until a run is due. -/
theorem advanceTo_now (time now : Nat) :
    advanceTo t time { s with now := now } = advanceTo t time s := by
  by_cases h : s.stopped = false ∧ s.nextRun ≤ time ∧ 0 < s.interval
  · rw [advanceTo_of_due h, advanceTo_of_due (s := { s with now := now }) h]
    rfl
  · rw [advanceTo_of_not_due h, advanceTo_of_not_due (s := { s with now := now }) h]

theorem advanceTo_advanceTo {time time' : Nat} (h : time ≤ time') :
    advanceTo t time' (advanceTo t time s) = advanceTo t time' s := by
  fun_induction advanceTo t time s with
  | case1 s hdue ih => rw [ih, ← advanceTo_of_due ⟨hdue.1, Nat.le_trans hdue.2.1 h, hdue.2.2⟩]
  | case2 s hdue => rw [advanceTo_now]

/-- Time that passes in two pieces passes as in one. -/
theorem step_advance_add (t : Task) (s : Schedule) (a b : Nat) :
    step t (step t s (.advance a)) (.advance b) = step t s (.advance (a + b)) := by
  simp only [step, now_advanceTo]
  rw [advanceTo_advanceTo (by omega), Nat.add_assoc]

/-! ## Waiting loops -/

/-- The loop waits for the first run that is not yet due, and has raised the alerts of those
before. -/
structure Waits (t : Task) (s : Schedule) : Prop where
  stopped : s.stopped = false
  channel : s.channel = false
  interval : 0 < s.interval
  runs : s.runs = s.now / s.interval
  nextRun : s.nextRun = (s.runs + 1) * s.interval
  alerts : s.alerts = t.alerts s.runs

theorem Waits.start {interval : Nat} (h : 0 < interval) : Waits t (start interval false) where
  stopped := rfl
  channel := rfl
  interval := h
  runs := (Nat.zero_div interval).symm
  nextRun := by simp [Schedule.start, wait]
  alerts := rfl

theorem Waits.runOnce (h : Waits t s) : Waits t (runOnce t s) where
  stopped := h.channel
  channel := h.channel
  interval := h.interval
  runs := by
    simp only [Schedule.runOnce, wait, h.nextRun]
    exact (Nat.mul_div_cancel _ h.interval).symm
  nextRun := by
    simp only [Schedule.runOnce, wait, h.nextRun]
    exact (Nat.succ_mul _ _).symm
  alerts := by
    simp only [Schedule.runOnce, wait, h.alerts]
    exact (t.alerts_succ s.runs).symm

theorem Waits.advanceTo {time : Nat} (h : Waits t s) (htime : s.now ≤ time) :
    Waits t (advanceTo t time s) ∧ (Schedule.advanceTo t time s).interval = s.interval := by
  fun_induction Schedule.advanceTo t time s with
  | case1 s hdue ih => exact ih h.runOnce hdue.2.1
  | case2 s hdue =>
    have hlt : time < (s.runs + 1) * s.interval := by
      rw [← h.nextRun]
      exact Nat.lt_of_not_le fun hle => hdue ⟨h.stopped, hle, h.interval⟩
    have hle : s.runs * s.interval ≤ time := by
      rw [h.runs]
      exact Nat.le_trans (Nat.div_mul_le_self _ _) htime
    have hruns : s.runs = time / s.interval := (Nat.div_eq_of_lt_le hle hlt).symm
    exact ⟨⟨h.stopped, h.channel, h.interval, hruns, h.nextRun, h.alerts⟩, rfl⟩

/-! ## Events -/

/-- An event that is no stop lets the loop wait on. -/
theorem Waits.step (h : Waits t s) {e : ScheduleEvent} (he : e.isStop = false) :
    Waits t (step t s e) ∧ (Schedule.step t s e).now = s.now + e.duration ∧
      (Schedule.step t s e).interval = s.interval := by
  cases e with
  | advance duration =>
    obtain ⟨hwaits, hinterval⟩ := h.advanceTo (Nat.le_add_right s.now duration)
    exact ⟨hwaits, now_advanceTo t _ s, hinterval⟩
  | signal stop =>
    cases he
    simp only [Schedule.step, h.stopped]
    exact ⟨⟨rfl, rfl, h.interval, h.runs, h.nextRun, h.alerts⟩, rfl, rfl⟩
  | senderDropped => cases he

theorem Waits.step_stop (h : Waits t s) {e : ScheduleEvent} (he : e.isStop = true) :
    (Schedule.step t s e).stopped = true ∧ (Schedule.step t s e).runs = s.runs ∧
      (Schedule.step t s e).alerts = s.alerts := by
  cases e with
  | advance duration => cases he
  | signal stop =>
    cases he
    simp [Schedule.step, h.stopped]
  | senderDropped => exact ⟨rfl, rfl, rfl⟩

/-- A loop that has ended does nothing any more. -/
theorem step_of_stopped (h : s.stopped = true) (e : ScheduleEvent) :
    (step t s e).stopped = true ∧ (step t s e).runs = s.runs ∧ (step t s e).alerts = s.alerts := by
  cases e with
  | advance duration =>
    rw [step, advanceTo_of_not_due (by simp [h])]
    exact ⟨h, rfl, rfl⟩
  | signal stop => simp [step, h]
  | senderDropped => exact ⟨rfl, rfl, rfl⟩

/-- The loop has ended, or it waits for its next run. Every event leads from the one or the other to
the one or the other. -/
def Goes (t : Task) (s : Schedule) : Prop := s.stopped = true ∨ Waits t s

theorem Goes.start {interval : Nat} (h : 0 < interval) (signalled : Bool) :
    Goes t (start interval signalled) := by
  cases signalled with
  | true => exact .inl rfl
  | false => exact .inr (.start h)

theorem Goes.step (h : Goes t s) (e : ScheduleEvent) : Goes t (step t s e) := by
  rcases h with h | h
  · exact .inl (step_of_stopped h e).1
  · cases he : e.isStop with
    | true => exact .inl (h.step_stop he).1
    | false => exact .inr (h.step he).1

/-- A `false` on the channel changes nothing. -/
theorem Goes.step_signal_false (h : Goes t s) : Schedule.step t s (.signal false) = s := by
  rcases h with h | h
  · simp [Schedule.step, h]
  · have hchannel := h.channel
    have hstopped := h.stopped
    obtain ⟨interval, now, nextRun, runs, channel, stopped, alerts⟩ := s
    subst hchannel hstopped
    rfl

/-! ## Runs -/

def run (t : Task) (s : Schedule) (events : List ScheduleEvent) : Schedule :=
  events.foldl (step t) s

theorem run_cons (t : Task) (s : Schedule) (e : ScheduleEvent) (rest : List ScheduleEvent) :
    s.run t (e :: rest) = (step t s e).run t rest := rfl

theorem run_append (t : Task) (s : Schedule) (events later : List ScheduleEvent) :
    s.run t (events ++ later) = (s.run t events).run t later := List.foldl_append

/-- The states behind each event are those that the events up to it lead to. -/
theorem getElem?_trace (t : Task) (s : Schedule) (events : List ScheduleEvent) {n : Nat}
    (h : n < events.length) : (s.trace t events)[n]? = some (s.run t (events.take (n + 1))) := by
  induction events generalizing s n with
  | nil => cases h
  | cons e rest ih =>
    cases n with
    | zero => rfl
    | succ n => exact ih (step t s e) (Nat.lt_of_succ_lt_succ h)

theorem Goes.run (h : Goes t s) (events : List ScheduleEvent) : Goes t (s.run t events) := by
  induction events generalizing s with
  | nil => exact h
  | cons e rest ih => exact ih (h.step e)

/-- The time that passes before the first stop. -/
def activeTime (signalled : Bool) (events : List ScheduleEvent) : Nat :=
  if signalled then 0 else ((events.takeWhile fun e => !e.isStop).map ScheduleEvent.duration).foldr
    (· + ·) 0

theorem activeTime_cons (e : ScheduleEvent) (rest : List ScheduleEvent) :
    activeTime false (e :: rest) = if e.isStop then 0 else e.duration + activeTime false rest := by
  cases he : e.isStop <;> simp [activeTime, he]

/-- What is to be seen of a loop after some events: how often it has run, which alerts it has
raised, whether it has ended and where its clock stands. -/
structure OnTime (t : Task) (interval : Nat) (signalled : Bool) (events : List ScheduleEvent)
    (s : Schedule) : Prop where
  runs : s.runs = activeTime signalled events / interval
  stopped : s.stopped = true ↔ signalled = true ∨ ∃ e ∈ events, e.isStop = true
  alerts : s.alerts = t.alerts s.runs

theorem run_of_stopped (h : s.stopped = true) (events : List ScheduleEvent) :
    (s.run t events).stopped = true ∧ (s.run t events).runs = s.runs ∧
    (s.run t events).alerts = s.alerts := by
  induction events generalizing s with
  | nil => exact ⟨h, rfl, rfl⟩
  | cons e rest ih =>
    obtain ⟨hstopped, hruns, halerts⟩ := step_of_stopped (t := t) h e
    rw [← hruns, ← halerts]
    exact ih hstopped

theorem Waits.run (h : Waits t s) (events : List ScheduleEvent) :
    (s.run t events).runs = (s.now + activeTime false events) / s.interval ∧
      ((s.run t events).stopped = true ↔ ∃ e ∈ events, e.isStop = true) ∧
      (s.run t events).alerts = t.alerts (s.run t events).runs := by
  induction events generalizing s with
  | nil => exact ⟨h.runs, by simp [Schedule.run, h.stopped], h.alerts⟩
  | cons e rest ih =>
    rw [activeTime_cons, run_cons]
    cases he : e.isStop with
    | true =>
      obtain ⟨hstep, hstepRuns, hstepAlerts⟩ := h.step_stop he
      obtain ⟨hstopped, hruns, halerts⟩ := run_of_stopped (t := t) hstep rest
      rw [hruns, halerts, hstepRuns, hstepAlerts]
      exact ⟨h.runs, iff_of_true hstopped ⟨e, List.mem_cons_self, he⟩, h.alerts⟩
    | false =>
      obtain ⟨hwaits, hnow, hinterval⟩ := h.step he
      obtain ⟨hruns, hstopped, halerts⟩ := ih hwaits
      rw [hnow, hinterval, Nat.add_assoc] at hruns
      exact ⟨hruns, hstopped.trans (by simp [he]), halerts⟩

theorem onTime_run (t : Task) {interval : Nat} (h : 0 < interval) (signalled : Bool)
    (events : List ScheduleEvent) :
    OnTime t interval signalled events ((start interval signalled).run t events) := by
  cases signalled with
  | true =>
    obtain ⟨hstopped, hruns, halerts⟩ :=
      run_of_stopped (t := t) (s := start interval true) rfl events
    refine ⟨?_, iff_of_true hstopped (.inl rfl), ?_⟩
    · rw [hruns, activeTime, if_pos rfl, Nat.zero_div]
      rfl
    · rw [hruns, halerts]
      rfl
  | false =>
    obtain ⟨hruns, hstopped, halerts⟩ := (Waits.start h).run events
    refine ⟨?_, by simpa using hstopped, halerts⟩
    rw [hruns, show (start interval false).now = 0 from rfl, Nat.zero_add]
    rfl

/-- At every event of a run the loop has been on time. A `false` may be left out of the events, and
time that passes in one piece may pass in two; how the runs of the task end makes no difference to
the loop. -/
theorem trace_onTime (t : Task) {interval : Nat} (h : 0 < interval) (signalled : Bool)
    (events : List ScheduleEvent) :
    (∀ n < events.length, ∃ s, ((start interval signalled).trace t events)[n]? = some s ∧
      OnTime t interval signalled (events.take (n + 1)) s) ∧
    (∀ before after, events = before ++ .signal false :: after →
      (start interval signalled).run t events = (start interval signalled).run t
        (before ++ after)) ∧
    (∀ before a b after, events = before ++ .advance (a + b) :: after →
      (start interval signalled).run t events =
        (start interval signalled).run t (before ++ .advance a :: .advance b :: after)) ∧
    ∀ t' : Task, ((start interval signalled).run t' events).runs =
      ((start interval signalled).run t events).runs ∧
      ((start interval signalled).run t' events).stopped =
        ((start interval signalled).run t events).stopped := by
  have honTime := fun t => onTime_run t h signalled events
  refine ⟨fun n hn => ⟨_, getElem?_trace t _ events hn, onTime_run t h signalled _⟩, ?_, ?_, ?_⟩
  · rintro before after rfl
    have hgoes := (Goes.start (t := t) h signalled).run before
    rw [run_append, run_append]
    exact congrArg (Schedule.run t · after) hgoes.step_signal_false
  · rintro before a b after rfl
    rw [run_append, run_append]
    exact congrArg (Schedule.run t · after) (step_advance_add t _ a b).symm
  · intro t'
    refine ⟨(honTime t').runs.trans (honTime t).runs.symm, ?_⟩
    rw [Bool.eq_iff_iff, (honTime t').stopped, (honTime t).stopped]

/-- Three runs of which the second crashes; the time after the stop does not count. -/
theorem trace_onTime_sample :
    let t : Task := ⟨"chains", fun n => if n = 2 then .panicked "boom" else .failed⟩
    let events := [.advance 2500, .signal false, .advance 600, .signal true, .advance 5000]
    0 < 1000 ∧ ∃ s, ((start 1000 false).trace t events)[4]? = some s ∧ s.runs = 3 ∧
      s.stopped = true ∧
      s.alerts = [.taskPanicked "chains" "boom"] := by
  intro t events
  obtain ⟨s, hs, honTime⟩ := (trace_onTime t (by decide : 0 < 1000) false events).1 4 (by decide)
  have hruns : s.runs = 3 := honTime.runs.trans (by decide)
  refine ⟨by decide, s, hs, hruns, ?_, ?_⟩
  · exact honTime.stopped.mpr (.inr ⟨.signal true, by decide, rfl⟩)
  · rw [honTime.alerts, hruns]
    rfl

end Schedule

end CrossChain
