/-!
# Calendar dates

`Date` is a day of the proleptic Gregorian calendar with a year from -262143 to 262142. Dates are
ordered by `Date.rank`, which grows from day to day (with gaps at the ends of months), and `next?`
and `prev?` step over the ends of months and years.
-/

namespace CampusView.Time

/-- A year with 366 days. -/
def isLeapYear (year : Int) : Bool :=
  year % 4 == 0 && (year % 100 != 0 || year % 400 == 0)

/-- The number of days of a month. -/
def daysInMonth (year : Int) (month : Nat) : Nat :=
  if month = 2 then (if isLeapYear year then 29 else 28)
  else if month = 4 ∨ month = 6 ∨ month = 9 ∨ month = 11 then 30
  else 31

/-- The first year there is. -/
def minYear : Int := -262143

/-- The last year there is. -/
def maxYear : Int := 262142

/-- A year, month and day that name a date. -/
def IsDate (year : Int) (month day : Nat) : Prop :=
  (minYear ≤ year ∧ year ≤ maxYear) ∧ (1 ≤ month ∧ month ≤ 12) ∧
    (1 ≤ day ∧ day ≤ daysInMonth year month)

instance (year : Int) (month day : Nat) : Decidable (IsDate year month day) :=
  inferInstanceAs (Decidable (_ ∧ _ ∧ _))

/-- A day of the proleptic Gregorian calendar. -/
structure Date where
  year : Int
  month : Nat
  day : Nat
  isDate : IsDate year month day
deriving DecidableEq, Repr

namespace Date

/-- The date with these parts, if there is one. -/
def of? (year : Int) (month day : Nat) : Option Date :=
  if h : IsDate year month day then some ⟨year, month, day, h⟩ else none

/-- A number that grows with the date. -/
def rank (d : Date) : Int := (d.year * 13 + d.month) * 32 + d.day

/-- Earlier or the same day. -/
instance : LE Date := ⟨fun a b => a.rank ≤ b.rank⟩

instance (a b : Date) : Decidable (a ≤ b) := inferInstanceAs (Decidable (a.rank ≤ b.rank))

/-- The day after. -/
def next? (d : Date) : Option Date :=
  (of? d.year d.month (d.day + 1)).or ((of? d.year (d.month + 1) 1).or (of? (d.year + 1) 1 1))

/-- The day before. -/
def prev? (d : Date) : Option Date :=
  (of? d.year d.month (d.day - 1)).or
    ((of? d.year (d.month - 1) (daysInMonth d.year (d.month - 1))).or (of? (d.year - 1) 12 31))

end Date

end CampusView.Time
