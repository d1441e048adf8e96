import DocumentMapping.Calendar.Date

/-!
# Day numbers

Different dates have different day numbers. Years are counted from a 1st of March here, as they are
in the definition of the number, so that a leap day is the last day of its year.
-/

namespace DocumentMapping

namespace Calendar

/-- The day number before the 1st of March of a year, up to a constant. -/
def marchStart (year : Int) : Int :=
  365 * year + year / 4 - year / 100 + year / 400

/-- A year that ends in February has the leap day of the calendar year in which it ends. -/
theorem marchStart_succ (year : Int) :
    marchStart (year + 1) = marchStart year + if isLeapYear (year + 1) then 366 else 365 := by
  unfold marchStart isLeapYear
  by_cases h4 : (year + 1) % 4 = 0 <;> by_cases h100 : (year + 1) % 100 = 0 <;>
    by_cases h400 : (year + 1) % 400 = 0 <;> simp [h4, h100, h400] <;> omega

theorem marchStart_mono {first second : Int} (h : first ≤ second) :
    marchStart first ≤ marchStart second := by
  unfold marchStart
  omega

end Calendar

namespace Date

/-- The year of a date when years begin in March. -/
def marchYear (date : Date) : Int :=
  if date.month ≤ 2 then date.year - 1 else date.year

/-- The month of a date when March has number zero. -/
def marchMonth (date : Date) : Int :=
  if date.month ≤ 2 then date.month + 9 else date.month - 3

/-- The number of days from the start of March to the month of a date. -/
def monthStart (date : Date) : Int :=
  (153 * date.marchMonth + 2) / 5

theorem dayNumber_eq (date : Date) :
    date.dayNumber = Calendar.marchStart date.marchYear + date.monthStart + date.day - 306 :=
  rfl

/-- The day of a date lies within its month. -/
theorem day_le_daysInMonth (date : Date) :
    1 ≤ date.day ∧ date.day ≤ Calendar.daysInMonth date.year date.month :=
  date.isDate.2.2

theorem month_bounds (date : Date) : 1 ≤ date.month ∧ date.month ≤ 12 := by
  have hday := date.day_le_daysInMonth
  unfold Calendar.daysInMonth at hday
  split at hday <;> omega

/-- The days of a month other than February end before the next month starts. -/
theorem monthStart_add_day_le (date : Date) (h : date.month ≠ 2) :
    date.monthStart + date.day ≤ (153 * (date.marchMonth + 1) + 2) / 5 := by
  have hmonth := date.month_bounds
  have hday := date.day_le_daysInMonth.2
  unfold monthStart marchMonth
  unfold Calendar.daysInMonth at hday
  split at hday <;> split <;> omega

/-- The days of a year that starts in March end before the next one starts. -/
theorem monthStart_add_day_le_year (date : Date) :
    date.monthStart + date.day ≤
      if Calendar.isLeapYear (date.marchYear + 1) then 366 else 365 := by
  have hmonth := date.month_bounds
  by_cases hfebruary : date.month = 2
  · have hday := date.day_le_daysInMonth.2
    have hyear : date.marchYear + 1 = date.year := by
      unfold marchYear
      split <;> omega
    have hstart : date.monthStart = 337 := by
      simp [monthStart, marchMonth, hfebruary]
    rw [hyear, hstart]
    simp only [hfebruary, Calendar.daysInMonth] at hday
    split at hday <;> split <;> omega
  · have hday := date.monthStart_add_day_le hfebruary
    have hmarch : date.marchMonth ≤ 10 := by
      unfold marchMonth
      split <;> omega
    split <;> omega

/-- A date of an earlier year that starts in March has a smaller number. -/
theorem dayNumber_lt_of_marchYear_lt {x y : Date} (h : x.marchYear < y.marchYear) :
    x.dayNumber < y.dayNumber := by
  have hfit := x.monthStart_add_day_le_year
  have hnext := Calendar.marchStart_succ x.marchYear
  have hlater : Calendar.marchStart (x.marchYear + 1) ≤ Calendar.marchStart y.marchYear :=
    Calendar.marchStart_mono (by omega)
  have hday := y.day_le_daysInMonth.1
  have hstart : 0 ≤ y.monthStart := by
    have hmonth := y.month_bounds
    unfold monthStart marchMonth
    split <;> omega
  rw [dayNumber_eq, dayNumber_eq]
  omega

/-- In one year that starts in March, a date of an earlier month has a smaller number. -/
theorem dayNumber_lt_of_marchMonth_lt {x y : Date} (hyear : x.marchYear = y.marchYear)
    (h : x.marchMonth < y.marchMonth) : x.dayNumber < y.dayNumber := by
  have hx := x.month_bounds
  have hy := y.month_bounds
  have hfebruary : x.month ≠ 2 := by
    -- February is the last month, so nothing is later than it
    intro hmonth
    unfold marchMonth at h
    split at h <;> split at h <;> omega
  have hfit := x.monthStart_add_day_le hfebruary
  have hday := y.day_le_daysInMonth.1
  have hstart : (153 * (x.marchMonth + 1) + 2) / 5 ≤ y.monthStart := by
    unfold monthStart
    omega
  rw [dayNumber_eq, dayNumber_eq, hyear]
  omega

/-- A date is given by its year and month from March on and its day. -/
theorem eq_of_march {x y : Date} (hyear : x.marchYear = y.marchYear)
    (hmonth : x.marchMonth = y.marchMonth) (hday : x.day = y.day) : x = y := by
  have hx := x.month_bounds
  have hy := y.month_bounds
  have hmonths : x.month = y.month := by
    unfold marchMonth at hmonth
    split at hmonth <;> split at hmonth <;> omega
  have hyears : x.year = y.year := by
    unfold marchYear at hyear
    rw [hmonths] at hyear
    split at hyear <;> omega
  cases x
  cases y
  cases hyears
  cases hmonths
  cases hday
  rfl

/-- Different dates have different day numbers. -/
theorem dayNumber_inj {x y : Date} : x.dayNumber = y.dayNumber ↔ x = y := by
  refine ⟨fun heq => ?_, fun heq => heq ▸ rfl⟩
  have hyear : x.marchYear = y.marchYear := by
    rcases Int.lt_trichotomy x.marchYear y.marchYear with hlt | hsame | hgt
    · have := dayNumber_lt_of_marchYear_lt hlt
      omega
    · exact hsame
    · have := dayNumber_lt_of_marchYear_lt hgt
      omega
  have hmonth : x.marchMonth = y.marchMonth := by
    rcases Int.lt_trichotomy x.marchMonth y.marchMonth with hlt | hsame | hgt
    · have := dayNumber_lt_of_marchMonth_lt hyear hlt
      omega
    · exact hsame
    · have := dayNumber_lt_of_marchMonth_lt hyear.symm hgt
      omega
  refine eq_of_march hyear hmonth ?_
  have hstart : x.monthStart = y.monthStart := by rw [monthStart, monthStart, hmonth]
  rw [dayNumber_eq, dayNumber_eq, hyear, hstart] at heq
  omega

end Date

end DocumentMapping
