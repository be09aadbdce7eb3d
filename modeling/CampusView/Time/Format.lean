import CampusView.Time.Instant
import CampusView.Text.Blank
import CampusView.Json.Codec

/-!
# Dates and instants as text

* `Date.parse?` reads `2016-08-24`; the year may carry a sign and then have any number of digits.
* `Instant.parse?` reads RFC 3339 strictly, `Instant.parseLoose?` reads the same parts with fewer
  digits, signed years, blanks between the parts and `UTC` for the offset.
* `Instant.parseCompact?` reads `20160824093000Z`.
* An instant is written in RFC 3339 with as many fraction digits as it needs, none, three, six or
  nine. A year outside 0 to 9999 is written with its sign.
-/

namespace CampusView.Time

open CampusView.Text (isBlank trimStartChars)

/-! ### Reading parts -/

/-- What was read of a text, and the rest of the text. -/
abbrev Scan (α : Type) := List Char → Option (α × List Char)

/-- An ASCII digit. -/
def isDigit (c : Char) : Bool := '0' ≤ c && c ≤ '9'

/-- The value of a run of digits. -/
def digitsValue (cs : List Char) : Nat := cs.foldl (fun n c => 10 * n + (c.toNat - '0'.toNat)) 0

/-- At least one digit and at most `most`. -/
def scanUpTo (most : Nat) : Scan Nat := fun cs =>
  let ds := (cs.take most).takeWhile isDigit
  if ds.isEmpty then none else some (digitsValue ds, cs.drop ds.length)

/-- As many digits as there are, at least one. -/
def scanAll : Scan Nat := fun cs => scanUpTo cs.length cs

/-- Exactly `n` digits. -/
def scanExactly (n : Nat) : Scan Nat := fun cs =>
  let ds := cs.take n
  if ds.length = n ∧ ds.all isDigit then some (digitsValue ds, cs.drop n) else none

/-- This character. -/
def scanChar (c : Char) : List Char → Option (List Char)
  | [] => none
  | d :: cs => if d = c then some cs else none

/-- A year of up to four digits, or a sign and any number of digits. Blanks may stand before it. -/
def scanYear : Scan Int := fun cs =>
  match trimStartChars cs with
  | '-' :: r => (scanAll r).map fun (n, r) => (-(n : Int), r)
  | '+' :: r => (scanAll r).map fun (n, r) => ((n : Int), r)
  | cs => (scanUpTo 4 cs).map fun (n, r) => ((n : Int), r)

/-- A number of up to two digits. Blanks may stand before it. -/
def scanTwo : Scan Nat := fun cs => scanUpTo 2 (trimStartChars cs)

/-- The fraction of a second after its point, in nanoseconds. Digits after the ninth are dropped. -/
def scanFraction : Scan Nat
  | '.' :: cs => do
    let ds := (cs.take 9).takeWhile isDigit
    if ds.isEmpty then none
    else some (digitsValue ds * Nat.pow 10 (9 - ds.length), cs.dropWhile isDigit)
  | cs => some (0, cs)

/-- An offset from UTC in seconds. `Z` is no offset; else a sign, two digits of hours, what
`between` reads, and two digits of minutes. -/
def scanOffset (between : List Char → Option (List Char)) : Scan Int
  | [] => none
  | c :: cs =>
    if c = 'Z' ∨ c = 'z' then some (0, cs)
    else if c = '+' ∨ c = '-' ∨ c = '\u2212' then do
      let (hours, cs) ← scanExactly 2 cs
      let cs ← between cs
      let (minutes, cs) ← scanExactly 2 cs
      let seconds : Int := hours * 3600 + minutes * 60
      if minutes < 60 ∧ seconds < secondsPerDay then
        some (if c = '+' then seconds else -seconds, cs)
      else none
    else none

/-! ### Reading dates and instants -/

/-- Year, month and day with hyphens between them. `gap` is what may stand before a hyphen. -/
def scanDate (gap : List Char → List Char) : Scan Date := fun cs => do
  let (year, cs) ← scanYear cs
  let cs ← scanChar '-' (gap cs)
  let (month, cs) ← scanTwo cs
  let cs ← scanChar '-' (gap cs)
  let (day, cs) ← scanTwo cs
  return (← Date.of? year month day, cs)

/-- The date that a text writes. -/
def Date.parse? (s : String) : Option Date := do
  let (date, rest) ← scanDate id s.toList
  if rest.isEmpty then some date else none

/-- The date that a text writes, with blanks allowed between its parts and after it. -/
def Date.parseLoose? (s : String) : Option Date := do
  let (date, rest) ← scanDate trimStartChars s.toList
  if (trimStartChars rest).isEmpty then some date else none

/-- What separates a date from a time. -/
def scanSeparator : List Char → Option (List Char)
  | c :: cs => if c = 'T' ∨ c = 't' ∨ c = ' ' then some cs else none
  | [] => none

/-- A date and time as a clock shows it, with the offset of that clock. -/
structure Stamp where
  date : Date
  time : TimeOfDay
  offset : Int

/-- The instant of a stamp. -/
def Stamp.instant? (s : Stamp) : Option Instant := Instant.ofLocal? s.date s.time s.offset

/-- The stamp that a text writes in RFC 3339. -/
def Stamp.parse? (s : String) : Option Stamp := do
  let (year, cs) ← scanExactly 4 s.toList
  let cs ← scanChar '-' cs
  let (month, cs) ← scanExactly 2 cs
  let cs ← scanChar '-' cs
  let (day, cs) ← scanExactly 2 cs
  let cs ← scanSeparator cs
  let (hour, cs) ← scanExactly 2 cs
  let cs ← scanChar ':' cs
  let (minute, cs) ← scanExactly 2 cs
  let cs ← scanChar ':' cs
  let (second, cs) ← scanExactly 2 cs
  let (nano, cs) ← scanFraction cs
  let (offset, cs) ← scanOffset (scanChar ':') cs
  if cs.isEmpty then
    return ⟨← Date.of? year month day, ← TimeOfDay.of? hour minute second nano, offset⟩
  else none

/-- The instant that a text writes in RFC 3339. -/
def Instant.parse? (s : String) : Option Instant := (Stamp.parse? s).bind Stamp.instant?

/-- An offset from UTC in seconds in the loose form. -/
def scanLooseOffset : Scan Int := fun cs =>
  match cs with
  | u :: t :: c :: r =>
    if u.toUpper = 'U' ∧ t.toUpper = 'T' ∧ c.toUpper = 'C' then some (0, r)
    else scanOffset (fun cs => some (cs.dropWhile fun c => c = ':' || isBlank c)) cs
  | cs => scanOffset (fun cs => some (cs.dropWhile fun c => c = ':' || isBlank c)) cs

/-- The instant that a text writes in the loose form. -/
def Instant.parseLoose? (s : String) : Option Instant := do
  let (date, cs) ← scanDate trimStartChars s.toList
  let cs ← scanSeparator cs
  let (hour, cs) ← scanTwo cs
  let cs ← scanChar ':' (trimStartChars cs)
  let (minute, cs) ← scanTwo cs
  let cs ← scanChar ':' (trimStartChars cs)
  let (second, cs) ← scanTwo cs
  let (nano, cs) ← scanFraction cs
  let (offset, cs) ← scanLooseOffset (trimStartChars cs)
  if (trimStartChars cs).isEmpty then
    Instant.ofLocal? date (← TimeOfDay.of? hour minute second nano) offset
  else none

/-- The instant that a text writes as year, month, day, hour, minute and second, run together and
closed by `Z`. -/
def Instant.parseCompact? (s : String) : Option Instant := do
  let (year, cs) ← scanYear s.toList
  let (month, cs) ← scanTwo cs
  let (day, cs) ← scanTwo cs
  let (hour, cs) ← scanTwo cs
  let (minute, cs) ← scanTwo cs
  let (second, cs) ← scanTwo cs
  let cs ← scanChar 'Z' cs
  if cs.isEmpty then
    return ⟨← Date.of? year month day, ← TimeOfDay.of? hour minute second 0⟩
  else none

/-! ### Writing -/

/-- A number in at least `width` digits. -/
def padded (width n : Nat) : List Char :=
  let ds := Nat.toDigits 10 n
  List.replicate (width - ds.length) '0' ++ ds

/-- A year: four digits from 0 to 9999, and otherwise a sign and at least four digits. -/
def yearChars (year : Int) : List Char :=
  if 0 ≤ year ∧ year ≤ 9999 then padded 4 year.toNat
  else (if year < 0 then '-' else '+') :: padded 4 year.natAbs

/-- A date as year, month and day with hyphens between them. -/
def Date.toChars (d : Date) : List Char :=
  yearChars d.year ++ '-' :: padded 2 d.month ++ '-' :: padded 2 d.day

/-- A date as year, month and day with hyphens between them. -/
def Date.toText (d : Date) : String := String.ofList d.toChars

/-- The fraction of a second in as many digits as it needs. -/
def fractionChars (nano : Nat) : List Char :=
  if nano = 0 then []
  else if nano % 1000000 = 0 then '.' :: padded 3 (nano / 1000000)
  else if nano % 1000 = 0 then '.' :: padded 6 (nano / 1000)
  else '.' :: padded 9 nano

/-- An instant in RFC 3339, with this text for the offset. -/
def Instant.charsWith (offset : List Char) (i : Instant) : List Char :=
  i.date.toChars ++ 'T' :: padded 2 i.time.hour ++ ':' :: padded 2 i.time.minute ++
    ':' :: padded 2 i.time.secondOfMinute ++ fractionChars i.time.fraction ++ offset

/-- An instant in RFC 3339 with `Z` for the offset. -/
def Instant.toText (i : Instant) : String := String.ofList (i.charsWith ['Z'])

/-- An instant in RFC 3339 with a numeric offset. -/
def Instant.toOffsetText (i : Instant) : String :=
  String.ofList (i.charsWith ['+', '0', '0', ':', '0', '0'])

/-- An instant as year, month, day, hour, minute and second, run together and closed by `Z`. -/
def Instant.toCompactText (i : Instant) : String :=
  String.ofList (yearChars i.date.year ++ padded 2 i.date.month ++ padded 2 i.date.day ++
    padded 2 i.time.hour ++ padded 2 i.time.minute ++ padded 2 i.time.secondOfMinute ++ ['Z'])

instance : Json.Encode Instant := ⟨fun i => .string i.toText⟩
instance : Json.Decode Instant := ⟨.text, fun v => v.toText?.bind Instant.parseLoose?⟩

end CampusView.Time
