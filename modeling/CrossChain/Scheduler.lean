import CrossChain.Alert

/-!
# Scheduled tasks

A task that runs at fixed intervals until it is told to stop, on a clock that only moves by
`advance`. A crash of the task raises an alert and a failure is ignored; neither ends the loop. The
loop listens to a channel, before each wait and while it waits: `true` stops it, and so does the
loss of its sender; `false` lets the wait go on.
-/

namespace CrossChain

inductive RunEnd where
  | finished
  | failed
  | panicked (message : String)
  deriving DecidableEq, Repr

/-- A task: its name and how its runs end, numbered from one. -/
structure Task where
  name : String
  run : Nat → RunEnd

/-- The alert that a run of the task raises. -/
def Task.alert? (t : Task) (n : Nat) : Option Alert :=
  match t.run n with
  | .panicked message => some (.taskPanicked t.name message)
  | _ => none

inductive ScheduleEvent where
  | advance (duration : Nat)
  | signal (stop : Bool)
  | senderDropped
  deriving DecidableEq, Repr

/-- The loop of a scheduled task: the clock, the time of the next run, the runs so far, the value on
the channel, whether the loop has ended, and the alerts raised. -/
structure Schedule where
  interval : Nat
  now : Nat
  nextRun : Nat
  runs : Nat
  channel : Bool
  stopped : Bool
  alerts : List Alert

namespace Schedule

/-- Begins the wait for the next run, with a look at the channel. -/
def wait (s : Schedule) : Schedule :=
  { s with nextRun := s.now + s.interval, stopped := s.channel }

/-- A loop that starts at time zero. -/
def start (interval : Nat) (signalled : Bool) : Schedule :=
  wait ⟨interval, 0, 0, 0, signalled, false, []⟩

/-- The wait is over: the task runs and the next wait begins. -/
def runOnce (t : Task) (s : Schedule) : Schedule :=
  wait { s with
    now := s.nextRun, runs := s.runs + 1, alerts := s.alerts ++ (t.alert? (s.runs + 1)).toList }

/-- Lets the clock reach a time, with the runs that are due on the way. -/
def advanceTo (t : Task) (time : Nat) (s : Schedule) : Schedule :=
  if _h : s.stopped = false ∧ s.nextRun ≤ time ∧ 0 < s.interval then advanceTo t time (runOnce t s)
  else { s with now := time }
termination_by time + 1 - s.nextRun
decreasing_by simp only [runOnce, wait]; omega

/-- What the loop does at an event; one that has ended listens no more. -/
def step (t : Task) (s : Schedule) : ScheduleEvent → Schedule
  | .advance duration => advanceTo t (s.now + duration) s
  | .signal stop => if s.stopped then s else { s with channel := stop, stopped := stop }
  | .senderDropped => { s with stopped := true }

/-- The states behind each event. -/
def trace (t : Task) (s : Schedule) : List ScheduleEvent → List Schedule
  | [] => []
  | e :: rest => let s := step t s e; s :: trace t s rest

end Schedule

end CrossChain
