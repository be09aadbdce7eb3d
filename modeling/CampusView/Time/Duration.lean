/-!
# Lengths of time

Lengths of time and readings of the monotonic clock are natural numbers of nanoseconds.
`durationText` is the form in which a message names a length of time: in the largest of `s`, `ms`,
`µs` and `ns` of which it holds at least one, with as many fraction digits as it needs.
-/

namespace CampusView.Time

/-- A length of time, or a reading of the monotonic clock, in nanoseconds. -/
abbrev Nanos := Nat

/-- Nanoseconds in a second. -/
def nanosPerSecond : Nat := 1000000000

/-- This many microseconds. -/
def micros (n : Nat) : Nanos := n * 1000

/-- This many milliseconds. -/
def millis (n : Nat) : Nanos := n * 1000000

/-- This many seconds. -/
def seconds (n : Nat) : Nanos := n * nanosPerSecond

/-- The digits of `n` in `width` places, without zeros at the end. -/
def trimmedDigits (width n : Nat) : List Char :=
  let ds := Nat.toDigits 10 n
  ((List.replicate (width - ds.length) '0' ++ ds).reverse.dropWhile (· = '0')).reverse

/-- A number of units of `10 ^ places` nanoseconds with its fraction and the name of the unit. -/
def inUnits (places : Nat) (unit : String) (n : Nanos) : String :=
  let size := Nat.pow 10 places
  let fraction := trimmedDigits places (n % size)
  String.ofList (Nat.toDigits 10 (n / size) ++
    (if fraction.isEmpty then [] else '.' :: fraction)) ++ unit

/-- A length of time as a message names it. -/
def durationText (n : Nanos) : String :=
  if seconds 1 ≤ n then inUnits 9 "s" n
  else if millis 1 ≤ n then inUnits 6 "ms" n
  else if micros 1 ≤ n then inUnits 3 "µs" n
  else inUnits 0 "ns" n

end CampusView.Time
