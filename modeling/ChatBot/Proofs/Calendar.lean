/-
  ChatBot.Proofs.Calendar — every day lies in one month, and what going back in time means.

  A date is a month, a day of it and a time of day (`monthAt`, `dayAt`, `timeAt`).

  Proved:
  - `monthOf_spec`, `monthOf_eq`: `monthOf` finds the one month that holds a day, for every
    day there is. It guesses by the mean month, from which the calendar never strays by a
    month.
  - `minusSeconds_eq_some`, `minusMonths_eq_some`: what is found some seconds or months
    before a supported instant is what the words say, and nothing is found exactly when
    that is not supported.
  - `MonthsBefore.lt`: more months before is earlier.
-/
import ChatBot.Calendar

namespace ChatBot.Calendar

/-! ## Days and months -/

theorem monthStart_lt {a b : Int} (h : a < b) : monthStart a < monthStart b := by
  dsimp only [monthStart]
  omega

theorem monthStart_le {a b : Int} (h : a ≤ b) : monthStart a ≤ monthStart b := by
  rcases Int.lt_or_eq_of_le h with h | rfl
  · exact Int.le_of_lt (monthStart_lt h)
  · exact Int.le_refl _

theorem monthOf_spec (day : Int) : monthStart (monthOf day) ≤ day ∧ day < monthStart (monthOf day + 1) := by
  have hguess : monthStart ((day + 719468) * 4800 / 146097 + 2 - 1) ≤ day ∧
      day < monthStart ((day + 719468) * 4800 / 146097 + 2 + 1 + 1) := by
    dsimp only [monthStart]
    omega
  unfold monthOf
  generalize (day + 719468) * 4800 / 146097 + 2 = guess at hguess ⊢
  dsimp only
  split
  · rename_i hbefore
    rw [Int.sub_add_cancel]
    exact ⟨hguess.1, hbefore⟩
  split
  · rename_i hafter
    exact ⟨hafter, hguess.2⟩
  · omega

theorem monthStart_le_iff (month day : Int) : monthStart month ≤ day ↔ month ≤ monthOf day := by
  obtain ⟨hfrom, hto⟩ := monthOf_spec day
  constructor
  · intro h
    rcases Int.lt_or_le (monthOf day) month with hlt | hge
    · have hle : monthStart (monthOf day + 1) ≤ monthStart month := monthStart_le hlt
      omega
    · exact hge
  · intro h
    exact Int.le_trans (monthStart_le h) hfrom

/-- No other month holds the day. -/
theorem monthOf_eq {day month : Int} (hfrom : monthStart month ≤ day) (hto : day < monthStart (month + 1)) :
    monthOf day = month := by
  have hle := (monthStart_le_iff month day).mp hfrom
  have hnext := monthStart_le_iff (month + 1) day
  omega

/-! ## Dates -/

def monthAt (t : Instant) : Int := monthOf (t / secondsPerDay)

/-- The day of the month, from 0 on. -/
def dayAt (t : Instant) : Int := t / secondsPerDay - monthStart (monthAt t)

def timeAt (t : Instant) : Int := t % secondsPerDay

theorem monthLength_pos (month : Int) : 0 < monthLength month :=
  Int.sub_pos.mpr (monthStart_lt (Int.lt_succ month))

theorem dayAt_bounds (t : Instant) : 0 ≤ dayAt t ∧ dayAt t < monthLength (monthAt t) := by
  obtain ⟨hfrom, hto⟩ := monthOf_spec (t / secondsPerDay)
  unfold dayAt monthLength monthAt
  omega

theorem timeAt_bounds (t : Instant) : 0 ≤ timeAt t ∧ timeAt t < secondsPerDay := by
  unfold timeAt secondsPerDay
  omega

/-- An instant is its date. -/
theorem eq_of_date (t : Instant) : (monthStart (monthAt t) + dayAt t) * secondsPerDay + timeAt t = t := by
  unfold dayAt timeAt secondsPerDay
  omega

theorem monthAt_le {s t : Instant} (h : s ≤ t) : monthAt s ≤ monthAt t :=
  (monthStart_le_iff _ _).mp (Int.le_trans (monthOf_spec _).1 (Int.ediv_le_ediv (by decide) h))

theorem lt_of_monthAt {s t : Instant} (h : monthAt s < monthAt t) : s < t :=
  Int.not_le.mp fun hle => Int.not_le.mpr h (monthAt_le hle)

/-- The date of an instant that is made from a date. -/
theorem date_eq (month day time : Int) (hday : 0 ≤ day ∧ day < monthLength month)
    (htime : 0 ≤ time ∧ time < secondsPerDay) :
    monthAt ((monthStart month + day) * secondsPerDay + time) = month ∧
      dayAt ((monthStart month + day) * secondsPerDay + time) = day ∧
      timeAt ((monthStart month + day) * secondsPerDay + time) = time := by
  have hdays : ((monthStart month + day) * secondsPerDay + time) / secondsPerDay = monthStart month + day := by
    unfold secondsPerDay at htime ⊢
    omega
  have hmonth : monthAt ((monthStart month + day) * secondsPerDay + time) = month := by
    rw [monthAt, hdays]
    unfold monthLength at hday
    exact monthOf_eq (by omega) (by omega)
  refine ⟨hmonth, ?_, ?_⟩
  · rw [dayAt, hmonth, hdays]
    omega
  · unfold timeAt secondsPerDay at *
    omega

theorem earliest_le_iff (t : Instant) : earliest ≤ t ↔ firstMonth ≤ monthAt t := by
  rw [monthAt, ← monthStart_le_iff]
  dsimp only [earliest, secondsPerDay, Instant]
  omega

theorem le_latest_iff (t : Instant) : t ≤ latest ↔ monthAt t ≤ lastMonth := by
  have hmonth : monthStart (lastMonth + 1) ≤ t / secondsPerDay ↔ lastMonth + 1 ≤ monthAt t := monthStart_le_iff ..
  dsimp only [latest, secondsPerDay, Instant] at *
  omega

/-! ## Going back -/

theorem minusSeconds_eq_some {now start : Instant} (hlate : now ≤ latest) (seconds : Nat) :
    minusSeconds now seconds = some start ↔ start + seconds = now ∧ earliest ≤ start := by
  dsimp only [minusSeconds, Instant] at *
  split
  · rename_i hout
    simp only [Bool.or_eq_true, decide_eq_true_eq] at hout
    refine ⟨fun h => (nomatch h), fun h => ?_⟩
    omega
  · rename_i hin
    simp only [Bool.or_eq_true, decide_eq_true_eq] at hin
    rw [Option.some.injEq]
    omega

/-- So many months lie between; the time of day is kept, and so is the day of the month
    where the earlier month has one. -/
structure MonthsBefore (months : Nat) (start now : Instant) : Prop where
  month : monthAt start + months = monthAt now
  day : dayAt start = min (dayAt now) (monthLength (monthAt start) - 1)
  time : timeAt start = timeAt now

/-- There is one such instant. -/
theorem monthsBefore_iff {months : Nat} {start now : Instant} : MonthsBefore months start now ↔
    start = (monthStart (monthAt now - months) + min (dayAt now) (monthLength (monthAt now - months) - 1)) *
      secondsPerDay + timeAt now := by
  constructor
  · rintro ⟨hmonth, hday, htime⟩
    have htarget : monthAt start = monthAt now - months := by omega
    rw [← htarget, ← hday, ← htime]
    exact (eq_of_date start).symm
  · rintro rfl
    have hday := dayAt_bounds now
    have hlength := monthLength_pos (monthAt now - months)
    obtain ⟨hmonth, hday', htime⟩ := date_eq (monthAt now - months)
      (min (dayAt now) (monthLength (monthAt now - months) - 1)) (timeAt now) (by omega) (timeAt_bounds now)
    refine ⟨by omega, ?_, htime⟩
    rw [hmonth]
    exact hday'

theorem monthsBefore_zero (now : Instant) : MonthsBefore 0 now now where
  month := Int.add_zero _
  day := by
    obtain ⟨-, hday⟩ := dayAt_bounds now
    omega
  time := rfl

/-- More months before is earlier, whatever the day. -/
theorem MonthsBefore.lt {months more : Nat} {start further now : Instant} (h : MonthsBefore months start now)
    (h' : MonthsBefore more further now) (hless : months < more) : further < start := by
  have hmonth := h.month
  have hmonth' := h'.month
  exact lt_of_monthAt (by omega)

theorem minusMonths_eq_some {now start : Instant} (hlate : now ≤ latest) (months : Nat) :
    minusMonths now months = some start ↔ MonthsBefore months start now ∧ earliest ≤ start := by
  rw [le_latest_iff] at hlate
  rw [earliest_le_iff]
  have hmonths : minusMonths now months =
      if monthAt now - months < firstMonth || lastMonth < monthAt now - months then none
      else some ((monthStart (monthAt now - months) + min (dayAt now) (monthLength (monthAt now - months) - 1)) *
        secondsPerDay + timeAt now) := rfl
  rw [hmonths]
  split
  · rename_i hout
    simp only [Bool.or_eq_true, decide_eq_true_eq] at hout
    refine ⟨fun h => (nomatch h), fun ⟨hbefore, hearly⟩ => ?_⟩
    have hmonth := hbefore.month
    omega
  · rename_i hin
    simp only [Bool.or_eq_true, decide_eq_true_eq] at hin
    rw [Option.some.injEq, eq_comm, ← monthsBefore_iff]
    refine ⟨fun hbefore => ⟨hbefore, ?_⟩, And.left⟩
    have hmonth := hbefore.month
    omega

end ChatBot.Calendar
