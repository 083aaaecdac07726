/-!
# Days of the calendar

Days are counted in the Gregorian calendar, carried on before its introduction; year 0 comes before
year 1, and years before it are negative. A `Date` is always a day that exists.

## Main definitions

* `Date` — a day, with `Date.ofYmd?` building one from its numbers
* `Date.dayNumber` — the days since the first day of year 1
* `Date.weekday` — the day of the week, 0 for Monday
-/

namespace Baseball

/-- Whether a year has 366 days. -/
def isLeapYear (year : Int) : Bool := year % 4 == 0 && (year % 100 != 0 || year % 400 == 0)

/-- How many days a month has, 0 for a number that names no month. -/
def daysInMonth (year : Int) (month : Nat) : Nat :=
  match month with
  | 1 | 3 | 5 | 7 | 8 | 10 | 12 => 31
  | 4 | 6 | 9 | 11 => 30
  | 2 => if isLeapYear year then 29 else 28
  | _ => 0

/-- The first and the last year that dates reach. -/
def yearRange : Int × Int := (-262143, 262142)

/-- Whether three numbers name a day within the range of dates. -/
def IsDate (year : Int) (month day : Nat) : Prop :=
  yearRange.1 ≤ year ∧ year ≤ yearRange.2 ∧ 1 ≤ day ∧ day ≤ daysInMonth year month

instance (year : Int) (month day : Nat) : Decidable (IsDate year month day) :=
  inferInstanceAs (Decidable (_ ∧ _ ∧ _ ∧ _))

/-- A day of the calendar. -/
@[ext]
structure Date where
  year : Int
  month : Nat
  day : Nat
  isDate : IsDate year month day
deriving DecidableEq

namespace Date

/-- The day with the given numbers, if there is one. -/
def ofYmd? (year : Int) (month day : Nat) : Option Date :=
  if h : IsDate year month day then some ⟨year, month, day, h⟩ else none

instance : Inhabited Date := ⟨⟨1, 1, 1, by decide⟩⟩

/-- Earlier days come first. -/
instance : Ord Date := ⟨compareLex (compareOn year) (compareLex (compareOn month) (compareOn day))⟩

/-- The days of a year before a month begins. -/
def daysBeforeMonth (year : Int) (month : Nat) : Nat :=
  (List.range month).foldl (fun days m => days + daysInMonth year m) 0

/-- The days from the first day of year 1 to the first day of `year`, negative before it. -/
def daysBeforeYear (year : Int) : Int :=
  let past := year - 1
  365 * past + past.fdiv 4 - past.fdiv 100 + past.fdiv 400

/-- The days from the first day of year 1, which is day 0, to this day. -/
def dayNumber (d : Date) : Int :=
  daysBeforeYear d.year + daysBeforeMonth d.year d.month + (d.day - 1 : Nat)

/-- The day of the week, 0 for Monday. The first day of year 1 was a Monday. -/
def weekday (d : Date) : Nat := (d.dayNumber % 7).toNat

@[simp]
theorem ofYmd?_self (d : Date) : ofYmd? d.year d.month d.day = some d := by
  simp [ofYmd?, d.isDate]

theorem month_le (d : Date) : d.month ≤ 12 := by
  have := d.isDate.2.2
  unfold daysInMonth at this
  split at this <;> omega

theorem daysInMonth_le (year : Int) (month : Nat) : daysInMonth year month ≤ 31 := by
  unfold daysInMonth
  split
  case h_12 => split <;> omega
  all_goals omega

theorem day_le (d : Date) : d.day ≤ 31 :=
  Nat.le_trans d.isDate.2.2.2 (daysInMonth_le _ _)

end Date

end Baseball
