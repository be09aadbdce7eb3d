import CampusView.Time.Date
import CampusView.Time.Duration

/-!
# Instants

`Instant` is a point in time in UTC, exact to the nanosecond. A leap second is the last second of
a minute with a billion nanoseconds or more, and reads as second 60.
-/

namespace CampusView.Time

/-- Seconds in a day. -/
def secondsPerDay : Nat := 86400

/-- A time of day, exact to the nanosecond. -/
structure TimeOfDay where
  second : Nat
  nano : Nat
  bounds : second < secondsPerDay ∧ nano < 2 * nanosPerSecond
deriving DecidableEq, Repr

namespace TimeOfDay

/-- The time of day with these parts. Second 60 is the leap second after second 59. -/
def of? (hour minute second nano : Nat) : Option TimeOfDay :=
  if h : hour < 24 ∧ minute < 60 ∧ second ≤ 60 ∧ nano < nanosPerSecond then
    if hs : second = 60 then
      some ⟨hour * 3600 + minute * 60 + 59, nanosPerSecond + nano, by unfold secondsPerDay; omega⟩
    else some ⟨hour * 3600 + minute * 60 + second, nano, by unfold secondsPerDay; omega⟩
  else none

/-- The hour. -/
def hour (t : TimeOfDay) : Nat := t.second / 3600

/-- The minute of the hour. -/
def minute (t : TimeOfDay) : Nat := t.second / 60 % 60

/-- The second of the minute, 60 in a leap second. -/
def secondOfMinute (t : TimeOfDay) : Nat := t.second % 60 + t.nano / nanosPerSecond

/-- The nanoseconds of the second. -/
def fraction (t : TimeOfDay) : Nat := t.nano % nanosPerSecond

end TimeOfDay

/-- A point in time, in UTC. -/
structure Instant where
  date : Date
  time : TimeOfDay
deriving DecidableEq, Repr

namespace Instant

/-- A number that grows with time. -/
def rank (i : Instant) : Int :=
  (i.date.rank * secondsPerDay + i.time.second) * (2 * nanosPerSecond) + i.time.nano

/-- Earlier or at the same time. -/
instance : LE Instant := ⟨fun a b => a.rank ≤ b.rank⟩

/-- Earlier. -/
instance : LT Instant := ⟨fun a b => a.rank < b.rank⟩

instance (a b : Instant) : Decidable (a ≤ b) := inferInstanceAs (Decidable (a.rank ≤ b.rank))

instance (a b : Instant) : Decidable (a < b) := inferInstanceAs (Decidable (a.rank < b.rank))

/-- The instant at which a clock that is `offset` seconds ahead of UTC shows this date and time. -/
def ofLocal? (date : Date) (time : TimeOfDay) (offset : Int) : Option Instant :=
  let s : Int := time.second - offset
  let day? := if s < 0 then date.prev? else if secondsPerDay ≤ s then date.next? else some date
  let second := (s % secondsPerDay).toNat
  if h : second < secondsPerDay ∧ time.nano < 2 * nanosPerSecond then
    day?.map fun date => ⟨date, second, time.nano, h⟩
  else none

/-- The instant `n` nanoseconds later, within the day. At the end of the day it stays. -/
def tick (i : Instant) (n : Nat) : Instant :=
  let total := i.time.second * nanosPerSecond + i.time.nano + n
  if h : total / nanosPerSecond < secondsPerDay ∧ total % nanosPerSecond < 2 * nanosPerSecond then
    ⟨i.date, total / nanosPerSecond, total % nanosPerSecond, h⟩
  else i

end Instant

end CampusView.Time
