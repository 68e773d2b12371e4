import CrossChain.TimeOfDay
import Mathlib.Tactic.Ring

/-!
# The wait of a daily task

A daily task waits from a time of day to the next occurrence of another. The wait ends later on the
same day (`untilNext_of_lt`), within the second (`untilNext_of_eq`), or on the next day
(`untilNext_of_le`). Times of day count leap seconds, as a second that lasts two: a fraction beyond
the second marks one (`IsLeap`).

An instant is shown in an offset, and the clock of the offset goes on with the instant
(`later_seconds`). Main statement (`untilNext_isWait`): from any instant the wait is longer than
nothing and at most a day, and ends exactly at the time of day, apart from what the leap second at
the end of a day makes of the first second after it. `untilNext_eq_zero_iff` and `untilNext_le_iff`
say exactly when there is nothing to wait for (`IsSpent`) and when there is more than a day
(`IsBeyond`).
-/

namespace CrossChain

namespace TimeOfDay

variable {now t : TimeOfDay}

/-- The time is in a leap second: its fraction counts on beyond the second that it belongs to. -/
def IsLeap (t : TimeOfDay) : Prop := second ≤ t.nanos

instance (t : TimeOfDay) : Decidable t.IsLeap := inferInstanceAs (Decidable (second ≤ t.nanos))

theorem eq_of_seconds_of_nanos {s t : TimeOfDay} (hseconds : s.seconds = t.seconds)
    (hnanos : s.nanos = t.nanos) :
    s = t := by
  cases s
  cases t
  congr

/-- The nanoseconds since the second began, whether it is a leap second or not. -/
def fraction (t : TimeOfDay) : Nat := if t.IsLeap then t.nanos - second else t.nanos

theorem nanos_of_leap (h : t.IsLeap) : t.nanos = t.fraction + second := by
  rw [fraction, if_pos h]
  exact (Nat.sub_add_cancel h).symm

theorem nanos_of_not_leap (h : ¬ t.IsLeap) : t.nanos = t.fraction := by
  rw [fraction, if_neg h]

theorem fraction_lt (t : TimeOfDay) : t.fraction < second := by
  by_cases h : t.IsLeap
  · have hnanos := t.nanos_lt
    rw [nanos_of_leap h] at hnanos
    exact Nat.lt_of_add_lt_add_right hnanos
  · rw [← nanos_of_not_leap h]
    exact Nat.lt_of_not_le h

theorem seconds_nextDay (t : TimeOfDay) : (nextDay t).seconds = t.seconds := by
  rw [nextDay, apply_ite TimeOfDay.seconds, ite_self]

theorem nanos_nextDay (t : TimeOfDay) : (nextDay t).nanos = t.fraction := by
  rw [nextDay, apply_ite TimeOfDay.nanos]
  rfl

theorem not_leap_nextDay (t : TimeOfDay) : ¬ (nextDay t).IsLeap := by
  rw [IsLeap, nanos_nextDay]
  exact Nat.not_le.mpr t.fraction_lt

theorem le_or_lt (t now : TimeOfDay) : le t now = true ∨ now.seconds < t.seconds ∨
    now.seconds = t.seconds ∧ now.nanos < t.nanos := by
  rw [le, Bool.or_eq_true, Bool.and_eq_true, decide_eq_true_eq, decide_eq_true_eq, beq_iff_eq]
  omega

theorem le_iff : le t now = true ↔
    t.seconds < now.seconds ∨ t.seconds = now.seconds ∧ t.nanos ≤ now.nanos := by
  rw [le, Bool.or_eq_true, Bool.and_eq_true, decide_eq_true_eq, decide_eq_true_eq, beq_iff_eq]

/-- To a later second of the day; a leap second that is left behind counts. -/
theorem since_of_lt (h : now.seconds < t.seconds) :
    t.since now = ((t.seconds : Int) - now.seconds) * second + (t.nanos - now.fraction) := by
  rw [since, if_pos h]
  by_cases hleap : now.IsLeap
  · rw [if_pos (show second ≤ now.nanos from hleap), nanos_of_leap hleap]
    push_cast
    ring
  · rw [if_neg (show ¬ second ≤ now.nanos from hleap), nanos_of_not_leap hleap]
    ring

/-- Within a second, or back to a time that is no leap second. -/
theorem since_of_le (h : t.seconds ≤ now.seconds) (hleap : t.seconds = now.seconds ∨ ¬ t.IsLeap) :
    t.since now = ((t.seconds : Int) - now.seconds) * second + (t.nanos - now.nanos) := by
  rw [since, if_neg (Nat.not_lt.mpr h)]
  split
  · next hlt =>
    rw [if_neg (show ¬ second ≤ t.nanos from hleap.resolve_left (Nat.ne_of_lt hlt)), Int.add_zero]
  · rw [Int.add_zero]

/-! ## The wait -/

/-- The wait ends later on the same day. -/
theorem untilNext_of_lt (h : now.seconds < t.seconds) :
    (untilNext now t : Int) = ((t.seconds : Int) - now.seconds) * second +
      (t.nanos - now.fraction) := by
  have hfraction := now.fraction_lt
  have hnot : ¬ le t now = true := fun hle => by
    have := le_iff.mp hle
    omega
  rw [untilNext, if_neg hnot, since_of_lt h, Int.toNat_of_nonneg]
  simp only [second, Nat.cast_ofNat] at hfraction ⊢
  omega

/-- The wait ends within the second. -/
theorem untilNext_of_eq (h : now.seconds = t.seconds) (hnanos : now.nanos < t.nanos) :
    (untilNext now t : Int) = t.nanos - now.nanos := by
  have hnot : ¬ le t now = true := fun hle => by
    have := le_iff.mp hle
    omega
  rw [untilNext, if_neg hnot, since_of_le (Nat.le_of_eq h.symm) (.inl h.symm), h, Int.sub_self,
    Int.zero_mul, Int.zero_add, Int.toNat_of_nonneg]
  omega

/-- The wait ends on the next day, or at once if that lies behind. -/
theorem untilNext_of_le (h : le t now = true) : (untilNext now t : Int) =
    max 0 (((day : Int) + t.seconds - now.seconds) * second + (t.fraction - now.nanos)) := by
  have hseconds : t.seconds ≤ now.seconds := by
    have := le_iff.mp h
    omega
  rw [untilNext, if_pos h, since_of_le, seconds_nextDay, nanos_nextDay, Int.toNat_eq_max, max_comm]
  · push_cast
    ring_nf
  · rwa [seconds_nextDay]
  · exact .inr (not_leap_nextDay t)

/-- `now` stands in the leap second at the end of a day, and `t` in the first second of the next is
no later in its second. -/
def IsSpent (now t : TimeOfDay) : Prop :=
  now.seconds + 1 = day ∧ now.IsLeap ∧ t.seconds = 0 ∧ t.fraction ≤ now.fraction

/-- `now` stands in the first second of a day, and `t` in the leap second at its end is later in its
second. -/
def IsBeyond (now t : TimeOfDay) : Prop :=
  now.seconds = 0 ∧ t.seconds + 1 = day ∧ t.IsLeap ∧ now.fraction < t.fraction

/-- There is nothing to wait for only at the turn of a day with a leap second. -/
theorem untilNext_eq_zero_iff : untilNext now t = 0 ↔ IsSpent now t := by
  have hnow := now.fraction_lt
  have ht := t.fraction_lt
  have hday := now.seconds_lt
  unfold IsSpent
  rcases le_or_lt t now with hle | hlt | ⟨heq, hnanos⟩
  · have hwait := untilNext_of_le hle
    have horder := le_iff.mp hle
    by_cases hleap : now.IsLeap
    · rw [nanos_of_leap hleap] at hwait horder
      simp only [hleap, true_and, second, day, Nat.cast_ofNat, Nat.cast_add] at *
      omega
    · rw [nanos_of_not_leap hleap] at hwait horder
      simp only [hleap, false_and, and_false, iff_false, second, day, Nat.cast_ofNat] at *
      omega
  · have hwait := untilNext_of_lt hlt
    simp only [second, day, Nat.cast_ofNat] at *
    omega
  · have hwait := untilNext_of_eq heq hnanos
    have hturn : ¬ (now.seconds + 1 = day ∧ t.seconds = 0) := by
      rw [heq, day]
      omega
    omega

/-- The wait is longer than a day only over the leap second at the end of the day, and by less than
a second. -/
theorem untilNext_of_isBeyond (h : IsBeyond now t) :
    untilNext now t + now.fraction = day * second + t.fraction := by
  obtain ⟨hfirst, hlast, hleap, -⟩ := h
  have hlt : now.seconds < t.seconds := by
    rw [day] at hlast
    omega
  have hwait := untilNext_of_lt hlt
  rw [nanos_of_leap hleap] at hwait
  simp only [second, day, Nat.cast_ofNat, Nat.cast_add] at *
  omega

theorem untilNext_le_iff : untilNext now t ≤ day * second ↔ ¬ IsBeyond now t := by
  constructor
  · intro hle hbeyond
    have hwait := untilNext_of_isBeyond hbeyond
    have hfraction := hbeyond.2.2.2
    omega
  · intro hnot
    have hnow := now.fraction_lt
    have ht := t.fraction_lt
    have hday := t.seconds_lt
    -- On the next day, later on the same day, or within the second.
    rcases le_or_lt t now with hle | hlt | ⟨heq, hnanos⟩
    · have hwait := untilNext_of_le hle
      have horder := le_iff.mp hle
      by_cases hleap : t.IsLeap
      · rw [nanos_of_leap hleap] at horder
        simp only [second, day, Nat.cast_ofNat] at *
        omega
      · rw [nanos_of_not_leap hleap] at horder
        simp only [second, day, Nat.cast_ofNat] at *
        omega
    · have hwait := untilNext_of_lt hlt
      unfold IsBeyond at hnot
      by_cases hleap : t.IsLeap
      · rw [nanos_of_leap hleap] at hwait
        simp only [hleap, true_and, second, day, Nat.cast_ofNat, Nat.cast_add] at *
        omega
      · rw [nanos_of_not_leap hleap] at hwait
        simp only [second, day, Nat.cast_ofNat] at *
        omega
    · have hwait := untilNext_of_eq heq hnanos
      have hnanos := t.nanos_lt
      simp only [second, day] at *
      omega

/-- Between times that are no leap seconds the wait is one of whole seconds, up to the time on the
same day or, if that has passed, on the next. -/
theorem exists_seconds (hnow : ¬ now.IsLeap) (ht : ¬ t.IsLeap) : ∃ k,
    now.nanos + untilNext now t = k * second + t.nanos ∧
      now.seconds + k = t.seconds + if le t now then day else 0 := by
  have hday := now.seconds_lt
  have hnanos := now.fraction_lt
  rw [← nanos_of_not_leap hnow] at hnanos
  by_cases hle : le t now = true
  · have hwait := untilNext_of_le hle
    have horder := le_iff.mp hle
    rw [← nanos_of_not_leap ht] at hwait
    refine ⟨day + t.seconds - now.seconds, ?_, ?_⟩
    · simp only [second, day, Nat.cast_ofNat] at *
      omega
    · rw [if_pos hle, day]
      omega
  · refine ⟨t.seconds - now.seconds, ?_, ?_⟩
    · rcases (le_or_lt t now).resolve_left hle with hlt | ⟨heq, hlater⟩
      · have hwait := untilNext_of_lt hlt
        rw [← nanos_of_not_leap hnow] at hwait
        simp only [second] at *
        omega
      · have hwait := untilNext_of_eq heq hlater
        simp only [second] at *
        omega
    · have horder := (le_or_lt t now).resolve_left hle
      rw [if_neg hle]
      omega

end TimeOfDay

/-- An instant: the day and the time of day at offset zero, and the offset, in seconds, at which it
is shown. -/
structure Instant where
  day : Int
  time : TimeOfDay
  offset : Int

namespace Instant

open TimeOfDay (second day)

variable {i : Instant} {t : TimeOfDay}

/-- The seconds since the start of the day at offset zero, as they are shown. -/
def shifted (i : Instant) : Int := i.time.seconds + i.offset

/-- The day that is shown. -/
def localDay (i : Instant) : Int := i.day + i.shifted / TimeOfDay.day

/-- The time of day that is shown; a leap second is shown as one in every offset. -/
def localTime (i : Instant) : TimeOfDay where
  seconds := (i.shifted % TimeOfDay.day).toNat
  nanos := i.time.nanos
  seconds_lt := by
    have := Int.emod_lt_of_pos i.shifted (show (0 : Int) < TimeOfDay.day by decide)
    rw [TimeOfDay.day] at *
    omega
  nanos_lt := i.time.nanos_lt

/-- The time of day so many nanoseconds after midnight, days left out. -/
def timeAt (nanos : Nat) : TimeOfDay where
  seconds := nanos / second % TimeOfDay.day
  nanos := nanos % second
  seconds_lt := Nat.mod_lt _ (by decide)
  nanos_lt := Nat.lt_of_lt_of_le (Nat.mod_lt _ (by decide)) (by decide)

/-- The instant so many nanoseconds later. The rest of a leap second passes within it. -/
def later (i : Instant) (d : Nat) : Instant :=
  if h : i.time.IsLeap ∧ i.time.nanos + d < 2 * second then
    { i with time := { i.time with nanos := i.time.nanos + d, nanos_lt := h.2 } }
  else
    let total := i.time.seconds * second + i.time.fraction + d
    { i with day := i.day + (total / (TimeOfDay.day * second) : Nat), time := timeAt total }

/-- What the wait of a daily task is to be: longer than nothing, at most a day, and up to the time
of day. -/
structure IsNextRun (i : Instant) (t : TimeOfDay) (d : Nat) : Prop where
  future : 0 < d
  within : d ≤ TimeOfDay.day * second
  lands : ¬ i.time.IsLeap → ¬ t.IsLeap → (i.later d).localTime = t

/-- What the wait is. It is longer than a day where a leap second at the end of the day stands
between, and of the turn of a day with a leap second it is left open whether anything is waited
for. -/
structure IsWait (i : Instant) (t : TimeOfDay) (d : Nat) : Prop where
  future : 0 < d ∨ TimeOfDay.IsSpent i.localTime t
  within : d ≤ TimeOfDay.day * second ∨
    TimeOfDay.IsBeyond i.localTime t ∧
      d + i.localTime.fraction = TimeOfDay.day * second + t.fraction
  lands : ¬ i.time.IsLeap → ¬ t.IsLeap → (i.later d).localTime = t ∧
    ((i.later d).localDay = i.localDay ∨ (i.later d).localDay = i.localDay + 1)

/-! ## The end of the wait -/

theorem seconds_localTime (i : Instant) : (i.localTime.seconds : Int) = i.shifted % TimeOfDay.day :=
  Int.toNat_of_nonneg (Int.emod_nonneg _ (by decide))

/-- Whole seconds later the clock of an offset stands as many seconds later. -/
theorem later_seconds (hi : ¬ i.time.IsLeap) {d k nanos : Nat} (hnanos : nanos < second)
    (hd : i.time.nanos + d = k * second + nanos) :
    (i.later d).localTime.nanos = nanos ∧
      (i.later d).localTime.seconds = (i.localTime.seconds + k) % TimeOfDay.day ∧
      (i.later d).localDay = i.localDay + ((i.localTime.seconds + k) / TimeOfDay.day : Nat) := by
  have htotal :
      i.time.seconds * second + i.time.nanos + d = nanos + second * (i.time.seconds + k) := by
    rw [Nat.add_assoc, hd]
    ring
  have hquotient : (nanos + second * (i.time.seconds + k)) / second = i.time.seconds + k := by
    rw [Nat.add_mul_div_left _ _ (by decide), Nat.div_eq_of_lt hnanos, Nat.zero_add]
  -- No leap second is left behind, so that the nanoseconds of the day are divided as they are.
  have hlater : i.later d = ⟨i.day + ((i.time.seconds + k) / TimeOfDay.day : Nat),
      timeAt (nanos + second * (i.time.seconds + k)), i.offset⟩ := by
    rw [later, dif_neg fun h => hi h.1, ← TimeOfDay.nanos_of_not_leap hi]
    dsimp only
    rw [htotal, Nat.mul_comm TimeOfDay.day, ← Nat.div_div_eq_div_mul, hquotient]
  have hlocal := seconds_localTime i
  have hlocal' := seconds_localTime (i.later d)
  have hseconds : (i.later d).time.seconds = (i.time.seconds + k) % TimeOfDay.day := by
    rw [hlater]
    exact congrArg (· % TimeOfDay.day) hquotient
  have hday : (i.later d).day = i.day + ((i.time.seconds + k) / TimeOfDay.day : Nat) := by
    rw [hlater]
  have hoffset : (i.later d).offset = i.offset := by rw [hlater]
  refine ⟨?_, ?_, ?_⟩
  · change (i.later d).time.nanos = _
    rw [hlater]
    exact (Nat.add_mul_mod_self_left _ _ _).trans (Nat.mod_eq_of_lt hnanos)
  · rw [shifted, hseconds, hoffset] at hlocal'
    rw [shifted] at hlocal
    simp only [TimeOfDay.day, Nat.cast_ofNat] at *
    omega
  · rw [localDay, localDay, shifted, hseconds, hoffset, hday]
    rw [shifted] at hlocal ⊢
    simp only [TimeOfDay.day, Nat.cast_ofNat] at *
    omega

/-- The wait of a daily task, from any instant to any time of day. -/
theorem untilNext_isWait (i : Instant) (t : TimeOfDay) :
    IsWait i t (TimeOfDay.untilNext i.localTime t) where
  future := by
    rcases Nat.eq_zero_or_pos (TimeOfDay.untilNext i.localTime t) with hzero | hpos
    · exact .inr (TimeOfDay.untilNext_eq_zero_iff.mp hzero)
    · exact .inl hpos
  within := by
    by_cases hbeyond : TimeOfDay.IsBeyond i.localTime t
    · exact .inr ⟨hbeyond, TimeOfDay.untilNext_of_isBeyond hbeyond⟩
    · exact .inl (TimeOfDay.untilNext_le_iff.mpr hbeyond)
  lands hi ht := by
    have hregular : ¬ i.localTime.IsLeap := hi
    obtain ⟨k, hnanos, hseconds⟩ := TimeOfDay.exists_seconds hregular ht
    have hday : t.seconds < TimeOfDay.day := t.seconds_lt
    obtain ⟨hfraction, hshown, hlocal⟩ := later_seconds hi (Nat.lt_of_not_le ht) hnanos
    rw [hseconds] at hshown hlocal
    by_cases hle : TimeOfDay.le t i.localTime = true
    · rw [if_pos hle, Nat.add_mod_right, Nat.mod_eq_of_lt hday] at hshown
      rw [if_pos hle, Nat.add_div_right _ (by decide), Nat.div_eq_of_lt hday] at hlocal
      exact ⟨TimeOfDay.eq_of_seconds_of_nanos hshown hfraction, .inr hlocal⟩
    · rw [if_neg hle, Nat.add_zero, Nat.mod_eq_of_lt hday] at hshown
      rw [if_neg hle, Nat.add_zero, Nat.div_eq_of_lt hday, Nat.cast_zero, Int.add_zero] at hlocal
      exact ⟨TimeOfDay.eq_of_seconds_of_nanos hshown hfraction, .inl hlocal⟩

/-- From midnight to the leap second at the end of the day there is more than a day; from that leap
second to the midnight at its end there is nothing. -/
theorem not_isNextRun :
    let midnight : TimeOfDay := ⟨0, 0, by decide, by decide⟩
    let leap : TimeOfDay := ⟨86399, 1500000000, by decide, by decide⟩
    ¬ IsNextRun ⟨0, midnight, 0⟩ leap (TimeOfDay.untilNext (localTime ⟨0, midnight, 0⟩) leap) ∧
      ¬ IsNextRun ⟨0, leap, 0⟩ midnight
        (TimeOfDay.untilNext (localTime ⟨0, leap, 0⟩) midnight) := by
  intro midnight leap
  refine ⟨fun h => ?_, fun h => ?_⟩
  · exact absurd h.within (by decide)
  · exact absurd h.future (by decide)

end Instant

end CrossChain
