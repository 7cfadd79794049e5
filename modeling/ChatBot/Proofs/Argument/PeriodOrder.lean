/-
  ChatBot.Proofs.Argument.PeriodOrder — going back in time, and how far.

  A larger amount of the same unit reaches back further (`Unit.Precedes.lt`): by seconds
  because it is more of them, by months because another month is another month's days, to
  whichever day of it the date is moved. Nothing but the earliest instant stops it, so what
  can be reached with an amount can be reached with every smaller one.

  Proved:
  - `periods_go_back`: amounts of a unit give strictly ordered instants before now; a text
    names nothing, all of time or a range from before now until now; and the constraint on
    periods refuses the value of a text only where a start is asked for and there is none.
-/
import ChatBot.Argument.Validation
import ChatBot.Proofs.Argument.Periods

namespace ChatBot.TimeRange

/-! ## Amounts of a unit -/

theorem Unit.length_pos (unit : Unit) :
    (∀ n, unit.length = .seconds n → 0 < n) ∧ ∀ n, unit.length = .months n → 0 < n := by
  cases unit <;> exact ⟨by rintro n ⟨⟩ <;> decide, by rintro n ⟨⟩ <;> decide⟩

theorem Unit.precedes_zero (unit : Unit) (now : Instant) : unit.Precedes 0 now now := by
  unfold Precedes
  cases unit.length with
  | seconds n => exact Int.add_zero now
  | months n => exact Calendar.monthsBefore_zero now

/-- The larger amount reaches back further. -/
theorem Unit.Precedes.lt {unit : Unit} {amount more : Nat} {start further now : Instant}
    (h : unit.Precedes amount start now) (h' : unit.Precedes more further now) (hless : amount < more) :
    further < start := by
  obtain ⟨hseconds, hmonths⟩ := unit.length_pos
  unfold Precedes at h h'
  cases hlength : unit.length with
  | seconds n =>
    rw [hlength] at h h'
    have hmul : n * amount < n * more := Nat.mul_lt_mul_of_pos_left hless (hseconds n hlength)
    dsimp only [Instant] at *
    omega
  | months n =>
    rw [hlength] at h h'
    exact h.lt h' (Nat.mul_lt_mul_of_pos_left hless (hmonths n hlength))

/-- What a larger amount reaches, a smaller one does not miss. -/
theorem Unit.before_of_less {now further : Instant} (late : now ≤ Calendar.latest) {unit : Unit} {amount more : Nat}
    (hless : amount < more) (h : unit.before now more = some further) :
    ∃ start, unit.before now amount = some start ∧ further < start := by
  obtain ⟨hmore, hearly⟩ := (before_eq_some late unit more).mp h
  obtain ⟨start, hamount⟩ := unit.exists_precedes amount now
  have hlt : further < start := hamount.lt hmore hless
  exact ⟨start, (before_eq_some late unit amount).mpr ⟨hamount, Int.le_trans hearly (Int.le_of_lt hlt)⟩, hlt⟩

theorem Unit.before_lt {now start : Instant} (late : now ≤ Calendar.latest) {unit : Unit} {amount : Nat}
    (hpos : 0 < amount) (h : unit.before now amount = some start) : start < now := by
  obtain ⟨hprecedes, -⟩ := (before_eq_some late unit amount).mp h
  exact (unit.precedes_zero now).lt hprecedes hpos

/-! ## Ranges -/

/-- All the ranges that texts name. -/
theorem parse_cases (text : String) {now : Instant} (late : now ≤ Calendar.latest) :
    parse text now = none ∨ parse text now = some overall ∨
      ∃ start, start < now ∧ parse text now = some ⟨some start, some now⟩ := by
  cases hoverall : namesOverall text with
  | true => exact .inr (.inl (by rw [parse, if_pos hoverall]))
  | false =>
    cases hp : findPeriod text with
    | none =>
      refine .inl ?_
      rw [parse, if_neg (by simp [hoverall]), hp]
      rfl
    | some period =>
      obtain ⟨amount, unit⟩ := period
      have hparse := parse_of_period hoverall hp now
      cases hstart : unit.before now amount with
      | none => exact .inl (by rw [hparse, hstart]; rfl)
      | some start =>
        exact .inr (.inr ⟨start, Unit.before_lt late (findPeriod_pos hp) hstart, by rw [hparse, hstart]; rfl⟩)

theorem checkPeriod_overall (requireStart emptyWithoutStart : Bool) :
    Validator.checkPeriod requireStart emptyWithoutStart overall =
      if requireStart && overall.isOverall then some "please specify a time period (e.g. `week`, `3 months`)"
      else none := by
  cases requireStart <;> cases emptyWithoutStart <;> rfl

/-- A range that begins before it ends is fine. -/
theorem checkPeriod_of_lt (requireStart emptyWithoutStart : Bool) {start stop : Instant} (h : start < stop) :
    Validator.checkPeriod requireStart emptyWithoutStart ⟨some start, some stop⟩ = none := by
  have hfine : (if start > stop then some "the start of the period must be before its end" else none) = none :=
    if_neg (Int.not_lt.mpr (Int.le_of_lt h))
  cases emptyWithoutStart <;> exact hfine

/-- Periods go strictly back, and further with every amount. -/
theorem periods_go_back (now : Instant) (late : now ≤ Calendar.latest) :
    (∀ (unit : Unit) (a b : Nat) (y : Instant), 0 < a → a < b → unit.before now b = some y →
      ∃ x, unit.before now a = some x ∧ y < x ∧ x < now) ∧
    (∀ text, parse text now = none ∨ parse text now = some overall ∨
      ∃ start, start < now ∧ parse text now = some ⟨some start, some now⟩) ∧
    ∀ (text : String) (requireStart emptyWithoutStart : Bool), ∃ range,
      Transform.timeRange now text = some (.period range) ∧
      Validator.violation (.timeRange requireStart emptyWithoutStart) (some (.period range)) =
        if requireStart && range.isOverall then some "please specify a time period (e.g. `week`, `3 months`)"
        else none := by
  refine ⟨?_, fun text => parse_cases text late, ?_⟩
  · intro unit a b y hpos hless h
    obtain ⟨x, hx, hlt⟩ := Unit.before_of_less late hless h
    exact ⟨x, hx, hlt, Unit.before_lt late hpos hx⟩
  · intro text requireStart emptyWithoutStart
    refine ⟨(parse text now).getD overall, rfl, ?_⟩
    rw [Validator.violation]
    rcases parse_cases text late with h | h | ⟨start, hstart, h⟩
    · rw [h]
      exact checkPeriod_overall requireStart emptyWithoutStart
    · rw [h]
      exact checkPeriod_overall requireStart emptyWithoutStart
    · have hsome : ((⟨some start, some now⟩ : TimeRange).isOverall) = false := rfl
      rw [h, Option.getD_some, hsome, Bool.and_false]
      exact checkPeriod_of_lt requireStart emptyWithoutStart hstart

/-- From the last day of March 2024, two months reach the last day of January, and one month a
    day of February. -/
theorem periods_go_back_march :
    (1711886400 : Instant) ≤ Calendar.latest ∧ 0 < 1 ∧ 1 < 2 ∧
      Unit.month.before 1711886400 2 = some 1706702400 ∧
      ∃ x, Unit.month.before 1711886400 1 = some x ∧ 1706702400 < x ∧ x < (1711886400 : Instant) := by
  have late : (1711886400 : Instant) ≤ Calendar.latest := by decide
  have htwo : Unit.month.before 1711886400 2 = some 1706702400 := rfl
  obtain ⟨hback, -, -⟩ := periods_go_back 1711886400 late
  exact ⟨late, by decide, by decide, htwo, hback .month 1 2 _ (by decide) (by decide) htwo⟩

end ChatBot.TimeRange
