import AiEnterpriseOs.Library.Calendar
import Mathlib.Data.String.Basic
import Mathlib.Tactic.Ring

/-!
# ISO texts of times

Times of day to the microsecond in UTC, and the texts `isoformat` writes of
them. A text without microseconds is shorter, but the texts are ordered as the
times are.
-/

/-!
## Numbers of a fixed width

A number written with a fixed count of decimal digits, zeros in front. The
texts of one width are ordered as the numbers are, whatever follows them, and a
number is read back from the front of a text.
-/

namespace AiEnterpriseOs.Library

/-- `f"{number:0{width}d}"` of a number that has no more digits. -/
def padded : Nat → Nat → List Char
  | 0, _ => []
  | width + 1, number => (number / 10 ^ width).digitChar :: padded width (number % 10 ^ width)

def readDigit (letter : Char) : Option Nat :=
  if letter.isDigit then some (letter.toNat - 48) else none

/-- The number of that many digits in front of a text, and what follows. -/
def readPadded : Nat → List Char → Option (Nat × List Char)
  | 0, letters => some (0, letters)
  | _ + 1, [] => none
  | width + 1, letter :: rest => do
      let digit ← readDigit letter
      let (number, suffix) ← readPadded width rest
      some (digit * 10 ^ width + number, suffix)

theorem digit_char_lt {left right : Nat} (less : left < right) (digit : right < 10) :
    left.digitChar < right.digitChar := by
  rw [Char.lt_def, UInt32.lt_iff_toNat_lt]
  have leftValue := Nat.toNat_digitChar_of_lt_ten (Nat.lt_trans less digit)
  have rightValue := Nat.toNat_digitChar_of_lt_ten digit
  rw [Char.toNat] at leftValue rightValue
  omega

theorem read_digit_char {digit : Nat} (small : digit < 10) :
    readDigit digit.digitChar = some digit := by
  rw [readDigit, Nat.isDigit_digitChar, if_pos (decide_eq_true small),
    Nat.toNat_digitChar_of_lt_ten small]
  congr 1
  omega

theorem lead_digit_lt {width number : Nat} (fits : number < 10 ^ (width + 1)) :
    number / 10 ^ width < 10 := by
  apply Nat.div_lt_of_lt_mul
  rwa [← pow_succ]

theorem padded_append_lt {width left right : Nat} (less : left < right)
    (fits : right < 10 ^ width) (leftRest rightRest : List Char) :
    padded width left ++ leftRest < padded width right ++ rightRest := by
  induction width generalizing left right with
  | zero =>
    rw [pow_zero] at fits
    omega
  | succ width ih =>
    rw [padded, padded, List.cons_append, List.cons_append, List.cons_lt_cons_iff]
    have positive : 0 < 10 ^ width := Nat.pow_pos (by decide)
    have leading : left / 10 ^ width ≤ right / 10 ^ width :=
      Nat.div_le_div_right (Nat.le_of_lt less)
    rcases Nat.lt_or_eq_of_le leading with smaller | same
    · exact Or.inl (digit_char_lt smaller (lead_digit_lt fits))
    · right
      constructor
      · rw [same]
      · apply ih
        · have leftParts := Nat.div_add_mod left (10 ^ width)
          have rightParts := Nat.div_add_mod right (10 ^ width)
          rw [same] at leftParts
          omega
        · exact Nat.mod_lt right positive

theorem read_padded {width number : Nat} (fits : number < 10 ^ width) (suffix : List Char) :
    readPadded width (padded width number ++ suffix) = some (number, suffix) := by
  induction width generalizing number with
  | zero =>
    have none : number = 0 := by
      rw [pow_zero] at fits
      omega
    rw [none]
    rfl
  | succ width ih =>
    have positive : 0 < 10 ^ width := Nat.pow_pos (by decide)
    rw [padded, List.cons_append, readPadded, read_digit_char (lead_digit_lt fits),
      ih (Nat.mod_lt number positive)]
    have parts := Nat.div_add_mod' number (10 ^ width)
    simp only [Option.bind_eq_bind, Option.bind_some, parts]

end AiEnterpriseOs.Library

namespace AiEnterpriseOs.Library

open Calendar

@[ext] structure DateTime where
  date : Date
  hour : Nat
  minute : Nat
  second : Nat
  microsecond : Nat
  hourBound : hour < 24
  minuteBound : minute < 60
  secondBound : second < 60
  microsecondBound : microsecond < 1000000
  deriving DecidableEq

namespace DateTime

/-- Microseconds since the day before the first of the calendar. -/
def instant (time : DateTime) : Nat :=
  (((time.date.ordinal * 24 + time.hour) * 60 + time.minute) * 60 + time.second) * 1000000 +
    time.microsecond

/-- The order of the fields, the greatest unit first. -/
def Earlier (first second : DateTime) : Prop :=
  Date.Earlier first.date second.date ∨ first.date = second.date ∧
    (first.hour < second.hour ∨ first.hour = second.hour ∧
      (first.minute < second.minute ∨ first.minute = second.minute ∧
        (first.second < second.second ∨ first.second = second.second ∧
          first.microsecond < second.microsecond)))

theorem instant_lt {first second : DateTime} (earlier : Earlier first second) :
    first.instant < second.instant := by
  have hours := first.hourBound
  have minutes := first.minuteBound
  have seconds := first.secondBound
  have microseconds := first.microsecondBound
  simp only [instant]
  rcases earlier with day | ⟨day, hour | ⟨hour, minute | ⟨minute, second | ⟨second, micro⟩⟩⟩⟩
  · have ordinals := Date.ordinal_lt day
    omega
  all_goals
    rw [day]
    omega

theorem earlier_or_eq (first second : DateTime) :
    Earlier first second ∨ first = second ∨ Earlier second first := by
  have microseconds := Nat.lt_trichotomy first.microsecond second.microsecond
  have seconds := Date.field_cases first.second second.second microseconds
  have minutes := Date.field_cases first.minute second.minute seconds
  rcases Date.earlier_or_eq first.date second.date with earlier | same | later
  · exact Or.inl (Or.inl earlier)
  · rcases Date.field_cases first.hour second.hour minutes with less | equal | greater
    · exact Or.inl (Or.inr ⟨same, less⟩)
    · obtain ⟨hour, minute, second, microsecond⟩ := equal
      exact Or.inr (Or.inl (DateTime.ext same hour minute second microsecond))
    · exact Or.inr (Or.inr (Or.inr ⟨same.symm, greater⟩))
  · exact Or.inr (Or.inr (Or.inl later))

/-- `time + timedelta(microseconds=1)`; none is an `OverflowError`. -/
def plusMicrosecond (time : DateTime) : Option DateTime :=
  if micro : time.microsecond + 1 < 1000000 then
    some { time with microsecond := time.microsecond + 1, microsecondBound := micro }
  else if second : time.second + 1 < 60 then
    some { time with
      second := time.second + 1
      microsecond := 0
      secondBound := second
      microsecondBound := by decide }
  else if minute : time.minute + 1 < 60 then
    some { time with
      minute := time.minute + 1
      second := 0
      microsecond := 0
      minuteBound := minute
      secondBound := by decide
      microsecondBound := by decide }
  else if hour : time.hour + 1 < 24 then
    some { time with
      hour := time.hour + 1
      minute := 0
      second := 0
      microsecond := 0
      hourBound := hour
      minuteBound := by decide
      secondBound := by decide
      microsecondBound := by decide }
  else
    time.date.tomorrow.map fun next => {
      date := next
      hour := 0
      minute := 0
      second := 0
      microsecond := 0
      hourBound := by decide
      minuteBound := by decide
      secondBound := by decide
      microsecondBound := by decide }

theorem instant_plus {time next : DateTime} (follows : time.plusMicrosecond = some next) :
    next.instant = time.instant + 1 := by
  have hours := time.hourBound
  have minutes := time.minuteBound
  have seconds := time.secondBound
  have microseconds := time.microsecondBound
  unfold plusMicrosecond at follows
  split at follows
  next =>
    cases follows
    simp only [instant]
    omega
  next =>
    split at follows
    next =>
      cases follows
      simp only [instant]
      omega
    next =>
      split at follows
      next =>
        cases follows
        simp only [instant]
        omega
      next =>
        split at follows
        next =>
          cases follows
          simp only [instant]
          omega
        next =>
          obtain ⟨tomorrow, found, same⟩ := Option.map_eq_some_iff.mp follows
          cases same
          simp only [instant, Date.ordinal_tomorrow found]
          omega

/-- The last microsecond of the calendar. -/
def IsLast (time : DateTime) : Prop :=
  (time.date.year = 9999 ∧ time.date.month = 12 ∧ time.date.day = 31) ∧
    time.hour = 23 ∧ time.minute = 59 ∧ time.second = 59 ∧ time.microsecond = 999999

theorem plus_none_iff (time : DateTime) : time.plusMicrosecond = none ↔ time.IsLast := by
  have hours := time.hourBound
  have minutes := time.minuteBound
  have seconds := time.secondBound
  have microseconds := time.microsecondBound
  unfold plusMicrosecond IsLast
  rw [← Date.tomorrow_none_iff]
  constructor
  · intro overflow
    split at overflow
    next => cases overflow
    next =>
      split at overflow
      next => cases overflow
      next =>
        split at overflow
        next => cases overflow
        next =>
          split at overflow
          next => cases overflow
          next => exact ⟨Option.map_eq_none_iff.mp overflow, by omega⟩
  · rintro ⟨last, hour, minute, second, micro⟩
    rw [dif_neg (by omega), dif_neg (by omega), dif_neg (by omega), dif_neg (by omega), last]
    rfl

/-! ## The text of a time -/

/-- The microseconds, left out where they are zero, and the offset of UTC. -/
def fractionText (microsecond : Nat) : List Char :=
  if microsecond = 0 then "+00:00".toList
  else '.' :: padded 6 microsecond ++ "+00:00".toList

def isoText (time : DateTime) : List Char :=
  padded 4 time.date.year ++ '-' :: (padded 2 time.date.month ++ '-' ::
    (padded 2 time.date.day ++ 'T' :: (padded 2 time.hour ++ ':' ::
      (padded 2 time.minute ++ ':' :: (padded 2 time.second ++ fractionText time.microsecond)))))

def isoformat (time : DateTime) : String :=
  String.ofList time.isoText

/-- The offset comes before the point, so a text that leaves the microseconds
out comes first of its second. -/
theorem fraction_text_lt {first second : Nat} (less : first < second)
    (bound : second < 1000000) : fractionText first < fractionText second := by
  unfold fractionText
  rw [if_neg (show second ≠ 0 by omega)]
  split
  · rw [List.cons_append]
    exact List.cons_lt_cons_iff.mpr (Or.inl (by decide))
  · apply List.cons_lt_cons_iff.mpr
    right
    exact ⟨rfl, padded_append_lt less bound _ _⟩

theorem after_field_lt {first second : List Char} (width number : Nat) (letter : Char)
    (less : first < second) :
    padded width number ++ letter :: first < padded width number ++ letter :: second :=
  List.append_left_lt (List.cons_lt_cons_iff.mpr (Or.inr ⟨rfl, less⟩))

theorem date_widths (date : Date) :
    date.year < 10 ^ 4 ∧ date.month < 10 ^ 2 ∧ date.day < 10 ^ 2 := by
  have years := date.yearBounds.2
  have months := date.monthBounds.2
  have days := date.dayBounds.2
  have longest := (days_in_month_bounds date.year date.month).2
  omega

theorem iso_text_lt {first second : DateTime} (earlier : Earlier first second) :
    first.isoText < second.isoText := by
  obtain ⟨years, months, days⟩ := date_widths second.date
  have hours := second.hourBound
  have minutes := second.minuteBound
  have seconds := second.secondBound
  unfold isoText
  rcases earlier with (year | ⟨year, rest⟩) | ⟨sameDate, rest⟩
  · exact padded_append_lt year years _ _
  · rw [year]
    apply after_field_lt
    rcases rest with month | ⟨month, day⟩
    · exact padded_append_lt month months _ _
    · rw [month]
      apply after_field_lt
      exact padded_append_lt day days _ _
  · rw [sameDate]
    apply after_field_lt
    apply after_field_lt
    apply after_field_lt
    rcases rest with hour | ⟨hour, rest⟩
    · exact padded_append_lt hour (by omega) _ _
    · rw [hour]
      apply after_field_lt
      rcases rest with minute | ⟨minute, rest⟩
      · exact padded_append_lt minute (by omega) _ _
      · rw [minute]
        apply after_field_lt
        rcases rest with second' | ⟨sameSecond, micro⟩
        · exact padded_append_lt second' (by omega) _ _
        · rw [sameSecond]
          exact List.append_left_lt (fraction_text_lt micro second.microsecondBound)

theorem isoformat_lt_of_earlier {first second : DateTime} (earlier : Earlier first second) :
    first.isoformat < second.isoformat := by
  rw [String.lt_iff_toList_lt, isoformat, isoformat, String.toList_ofList, String.toList_ofList]
  exact iso_text_lt earlier

theorem isoformat_lt_iff (first second : DateTime) :
    first.isoformat < second.isoformat ↔ first.instant < second.instant := by
  rcases earlier_or_eq first second with earlier | same | later
  · exact iff_of_true (isoformat_lt_of_earlier earlier) (instant_lt earlier)
  · rw [same]
    exact iff_of_false (lt_irrefl _) (Nat.lt_irrefl _)
  · exact iff_of_false (lt_asymm (isoformat_lt_of_earlier later)) (Nat.lt_asymm (instant_lt later))

/-! ## Reading a text back -/

def expect (letter : Char) : List Char → Option (List Char)
  | [] => none
  | head :: rest => if head = letter then some rest else none

def readFraction (letters : List Char) : Option Nat :=
  if letters = "+00:00".toList then some 0
  else do
    let letters ← expect '.' letters
    let (microsecond, letters) ← readPadded 6 letters
    if letters = "+00:00".toList then some microsecond else none

def ofFields (year month day hour minute second microsecond : Nat) : Option DateTime :=
  if dates : (1 ≤ year ∧ year ≤ 9999) ∧ (1 ≤ month ∧ month ≤ 12) ∧
      1 ≤ day ∧ day ≤ daysInMonth year month then
    if times : hour < 24 ∧ minute < 60 ∧ second < 60 ∧ microsecond < 1000000 then
      some {
        date := {
          year := year
          month := month
          day := day
          yearBounds := dates.1
          monthBounds := dates.2.1
          dayBounds := dates.2.2 }
        hour := hour
        minute := minute
        second := second
        microsecond := microsecond
        hourBound := times.1
        minuteBound := times.2.1
        secondBound := times.2.2.1
        microsecondBound := times.2.2.2 }
    else none
  else none

/-- `datetime.fromisoformat` of a text in UTC written as `isoformat` writes it;
the other forms that it knows are not read here. -/
def fromisoformat (text : String) : Option DateTime := do
  let (year, letters) ← readPadded 4 text.toList
  let letters ← expect '-' letters
  let (month, letters) ← readPadded 2 letters
  let letters ← expect '-' letters
  let (day, letters) ← readPadded 2 letters
  let letters ← expect 'T' letters
  let (hour, letters) ← readPadded 2 letters
  let letters ← expect ':' letters
  let (minute, letters) ← readPadded 2 letters
  let letters ← expect ':' letters
  let (second, letters) ← readPadded 2 letters
  let microsecond ← readFraction letters
  ofFields year month day hour minute second microsecond

@[simp] theorem expect_cons (letter : Char) (rest : List Char) :
    expect letter (letter :: rest) = some rest := by
  rw [expect, if_pos rfl]

theorem read_fraction_text {microsecond : Nat} (bound : microsecond < 1000000) :
    readFraction (fractionText microsecond) = some microsecond := by
  unfold fractionText
  split
  next zero =>
    rw [zero, readFraction, if_pos rfl]
  next fraction =>
    have pointed : '.' :: padded 6 microsecond ++ "+00:00".toList ≠ "+00:00".toList := by
      rw [List.cons_append]
      intro same
      exact absurd (List.cons.inj same).1 (by decide)
    rw [readFraction]
    generalize "+00:00".toList = offset at pointed ⊢
    rw [if_neg pointed, List.cons_append, expect_cons]
    simp only [Option.bind_eq_bind, Option.bind_some]
    rw [read_padded bound, Option.bind_some, if_pos rfl]

theorem of_fields_self (time : DateTime) :
    ofFields time.date.year time.date.month time.date.day time.hour time.minute time.second
      time.microsecond = some time := by
  rw [ofFields, dif_pos ⟨time.date.yearBounds, time.date.monthBounds, time.date.dayBounds⟩,
    dif_pos ⟨time.hourBound, time.minuteBound, time.secondBound, time.microsecondBound⟩]

theorem fromisoformat_isoformat (time : DateTime) : fromisoformat time.isoformat = some time := by
  obtain ⟨years, months, days⟩ := date_widths time.date
  have hours : time.hour < 10 ^ 2 := Nat.lt_trans time.hourBound (by decide)
  have minutes : time.minute < 10 ^ 2 := Nat.lt_trans time.minuteBound (by decide)
  have seconds : time.second < 10 ^ 2 := Nat.lt_trans time.secondBound (by decide)
  rw [isoformat, fromisoformat, String.toList_ofList, isoText]
  simp only [Option.bind_eq_bind, Option.bind_some, read_padded years, read_padded months,
    read_padded days, read_padded hours, read_padded minutes, read_padded seconds, expect_cons]
  rw [read_fraction_text time.microsecondBound, Option.bind_some]
  exact of_fields_self time

end DateTime

end AiEnterpriseOs.Library
