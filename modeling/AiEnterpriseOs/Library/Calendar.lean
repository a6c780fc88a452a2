import Mathlib.Order.Lattice

/-!
# The proleptic Gregorian calendar

Dates of the years one to `9999`, counted by days. A date that comes later by
year, month and day has the greater count, and the next day the next one.
-/

namespace AiEnterpriseOs.Library.Calendar

/-- How much the pieces `1`, …, `last - 1` measure together. -/
def before (length : Nat → Nat) : Nat → Nat
  | 0 => 0
  | 1 => 0
  | last + 2 => before length (last + 1) + length (last + 1)

theorem before_next (length : Nat → Nat) {piece : Nat} (counted : 1 ≤ piece) :
    before length (piece + 1) = before length piece + length piece := by
  cases piece with
  | zero => omega
  | succ piece => rfl

theorem before_add_le (length : Nat → Nat) {piece later : Nat} (counted : 1 ≤ piece)
    (less : piece < later) : before length piece + length piece ≤ before length later := by
  induction later with
  | zero => omega
  | succ later ih =>
    rw [before_next length (by omega)]
    rcases Nat.lt_or_eq_of_le (Nat.le_of_lt_succ less) with earlier | same
    · exact (ih earlier).trans (Nat.le_add_right _ _)
    · rw [same]

def isLeap (year : Nat) : Bool :=
  year % 4 == 0 && (year % 100 != 0 || year % 400 == 0)

def daysInMonth (year month : Nat) : Nat :=
  match month with
  | 2 => if isLeap year then 29 else 28
  | 4 | 6 | 9 | 11 => 30
  | _ => 31

def daysBeforeMonth (year month : Nat) : Nat := before (daysInMonth year) month

def daysInYear (year : Nat) : Nat := daysBeforeMonth year 13

def daysBeforeYear (year : Nat) : Nat := before daysInYear year

@[ext] structure Date where
  year : Nat
  month : Nat
  day : Nat
  yearBounds : 1 ≤ year ∧ year ≤ 9999
  monthBounds : 1 ≤ month ∧ month ≤ 12
  dayBounds : 1 ≤ day ∧ day ≤ daysInMonth year month
  deriving DecidableEq

theorem days_in_month_bounds (year month : Nat) :
    1 ≤ daysInMonth year month ∧ daysInMonth year month ≤ 31 := by
  unfold daysInMonth
  split
  · split <;> omega
  all_goals omega

namespace Date

def ordinal (date : Date) : Nat :=
  daysBeforeYear date.year + daysBeforeMonth date.year date.month + date.day

/-- The order of dates by year, month and day. -/
def Earlier (first second : Date) : Prop :=
  first.year < second.year ∨ first.year = second.year ∧
    (first.month < second.month ∨ first.month = second.month ∧ first.day < second.day)

theorem day_le_year (date : Date) :
    daysBeforeMonth date.year date.month + date.day ≤ daysInYear date.year := by
  have yearEnd : date.month < 13 := Nat.lt_succ_of_le date.monthBounds.2
  have monthEnds := before_add_le (daysInMonth date.year) date.monthBounds.1 yearEnd
  have day := date.dayBounds.2
  simp only [daysBeforeMonth, daysInYear]
  omega

theorem ordinal_lt {first second : Date} (earlier : Earlier first second) :
    first.ordinal < second.ordinal := by
  have secondDay := second.dayBounds.1
  simp only [ordinal]
  rcases earlier with year | ⟨year, month | ⟨month, day⟩⟩
  · have firstDay := first.day_le_year
    have yearEnds := before_add_le daysInYear first.yearBounds.1 year
    simp only [daysBeforeYear]
    omega
  · have firstDay := first.dayBounds.2
    have monthEnds := before_add_le (daysInMonth first.year) first.monthBounds.1 month
    rw [← year]
    simp only [daysBeforeMonth]
    omega
  · rw [← year, ← month]
    omega

theorem field_cases (left right : Nat) {less equal greater : Prop} (rest : less ∨ equal ∨ greater) :
    (left < right ∨ left = right ∧ less) ∨ (left = right ∧ equal) ∨
      (right < left ∨ right = left ∧ greater) := by
  rcases Nat.lt_trichotomy left right with smaller | same | larger
  · exact Or.inl (Or.inl smaller)
  · rcases rest with less | equal | greater
    · exact Or.inl (Or.inr ⟨same, less⟩)
    · exact Or.inr (Or.inl ⟨same, equal⟩)
    · exact Or.inr (Or.inr (Or.inr ⟨same.symm, greater⟩))
  · exact Or.inr (Or.inr (Or.inl larger))

theorem earlier_or_eq (first second : Date) :
    Earlier first second ∨ first = second ∨ Earlier second first := by
  have days := Nat.lt_trichotomy first.day second.day
  have months := field_cases first.month second.month days
  rcases field_cases first.year second.year months with earlier | ⟨year, month, day⟩ | later
  · exact Or.inl earlier
  · exact Or.inr (Or.inl (Date.ext year month day))
  · exact Or.inr (Or.inr later)

/-- The calendar ends with its last year. -/
def tomorrow (date : Date) : Option Date :=
  if days : date.day < daysInMonth date.year date.month then
    some { date with
      day := date.day + 1
      dayBounds := ⟨Nat.le_add_left 1 date.day, days⟩ }
  else if months : date.month < 12 then
    some { date with
      month := date.month + 1
      day := 1
      monthBounds := ⟨Nat.le_add_left 1 date.month, months⟩
      dayBounds := ⟨le_rfl, (days_in_month_bounds date.year (date.month + 1)).1⟩ }
  else if years : date.year < 9999 then
    some {
      year := date.year + 1
      month := 1
      day := 1
      yearBounds := ⟨Nat.le_add_left 1 date.year, years⟩
      monthBounds := ⟨le_rfl, Nat.le_add_left 1 11⟩
      dayBounds := ⟨le_rfl, (days_in_month_bounds (date.year + 1) 1).1⟩ }
  else none

theorem ordinal_tomorrow {date next : Date} (follows : date.tomorrow = some next) :
    next.ordinal = date.ordinal + 1 := by
  have dayEnd := date.dayBounds.2
  have monthEnd := date.monthBounds.2
  unfold tomorrow at follows
  split at follows
  next days =>
    cases follows
    rfl
  next monthOver =>
    have full : date.day = daysInMonth date.year date.month := by omega
    split at follows
    next months =>
      cases follows
      simp only [ordinal, daysBeforeMonth, before_next _ date.monthBounds.1]
      omega
    next yearOver =>
      have december : date.month = 12 := by omega
      split at follows
      next years =>
        cases follows
        have yearDays : daysInYear date.year =
            daysBeforeMonth date.year date.month + daysInMonth date.year date.month := by
          rw [december]
          rfl
        have january : daysBeforeMonth (date.year + 1) 1 = 0 := rfl
        simp only [ordinal, daysBeforeYear, before_next _ date.yearBounds.1, january, yearDays]
        omega
      next lastYear => cases follows

theorem tomorrow_none_iff (date : Date) :
    date.tomorrow = none ↔ date.year = 9999 ∧ date.month = 12 ∧ date.day = 31 := by
  have dayEnd := date.dayBounds.2
  have monthEnd := date.monthBounds.2
  have yearEnd := date.yearBounds.2
  unfold tomorrow
  constructor
  · intro last
    split at last
    next => cases last
    next monthOver =>
      split at last
      next => cases last
      next yearOver =>
        split at last
        next => cases last
        next lastYear =>
          have december : date.month = 12 := by omega
          rw [december] at monthOver dayEnd
          have days : daysInMonth date.year 12 = 31 := rfl
          omega
  · rintro ⟨year, month, day⟩
    have days : daysInMonth date.year date.month = 31 := by rw [month]; rfl
    rw [dif_neg (by omega), dif_neg (by omega), dif_neg (by omega)]

end Date

end AiEnterpriseOs.Library.Calendar
