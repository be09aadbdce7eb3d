import CampusView.Json.Binary64

/-!
# Numbers of JSON

An integer that fits in 64 bits, with or without a sign, stays an integer; every other number is a
double. The two never mix: `1` and `1.0` are different numbers.

* `Number.ofLiteral?` is the number that a literal is read as. A literal with more digits than 64
  bits hold is cut off, and a double may miss the nearest one to it in the last place
  (`Binary64.ofParts?`).
* `Number.toChars` writes a number. Integers are written in full. A double always shows a point or
  an exponent: positional when its first digit stands at a power of ten from -5 to 15, and
  otherwise one digit before the point and an exponent with its sign.
-/

namespace CampusView.Json

/-- One more than the largest signed integer of 64 bits. -/
def signedBound : Int := 9223372036854775808

/-- One more than the largest unsigned integer of 64 bits. -/
def unsignedBound : Int := 18446744073709551616

/-- An integer that fits in 64 bits, with or without a sign. -/
def FitsIn64 (i : Int) : Prop := -signedBound ≤ i ∧ i < unsignedBound

instance (i : Int) : Decidable (FitsIn64 i) := inferInstanceAs (Decidable (_ ∧ _))

/-- A 64-bit integer, signed or unsigned, or a double. -/
inductive Number
  | int (value : Int) (bounds : FitsIn64 value)
  | real (value : Binary64)
deriving DecidableEq, Repr

/-- The parts of a number literal: sign, digits before and after the point, power of ten. -/
structure Literal where
  negative : Bool
  whole : List Char
  fraction : Option (List Char)
  power : Option Int

namespace Number

/-- A number with one more decimal digit. -/
def pushDigit (n : Nat) (c : Char) : Nat := 10 * n + (c.toNat - '0'.toNat)

/-- The value of a run of decimal digits. -/
def ofDigits (cs : List Char) : Nat := cs.foldl pushDigit 0

/-- An integer as a number, if it fits in 64 bits. -/
def ofInt? (i : Int) : Option Number :=
  if h : FitsIn64 i then some (.int i h) else none

/-- The number `n` with digits appended as long as it fits in 64 bits, and the digits from the first
one that does not fit. -/
def appendDigits (n : Nat) : List Char → Nat × List Char
  | [] => (n, [])
  | c :: cs =>
    if (pushDigit n c : Int) < unsignedBound then appendDigits (pushDigit n c) cs else (n, c :: cs)

/-- The number that a literal is read as. None when it is beyond the largest double. The literal
`-0` is a double, since no integer carries its sign. -/
def ofLiteral? (l : Literal) : Option Number :=
  let real := fun significand exponent =>
    (Binary64.ofParts? l.negative significand exponent).map Number.real
  let (n, cut) := appendDigits 0 l.whole
  match l.fraction, l.power, cut with
  | none, none, [] =>
    if l.negative ∧ n = 0 then real 0 0
    else match ofInt? (if l.negative then -(n : Int) else n) with
      | some k => some k
      | none => real n 0
  | fraction, power, cut =>
    -- a digit of the whole part that was cut off still counts as a place, one after the point not
    let digits := fraction.getD []
    let (n, rest) := appendDigits n digits
    real n (cut.length + power.getD 0 - (digits.length - rest.length : Nat))

/-- The value as a signed 64-bit integer, if it is one. -/
def toSigned? : Number → Option Int
  | .int i _ => if i < signedBound then some i else none
  | .real _ => none

/-- The value as a natural number, if it is one. -/
def toNat? : Number → Option Nat
  | .int i _ => if 0 ≤ i then some i.toNat else none
  | .real _ => none

/-- The decimal digits of a natural number. -/
def natChars (n : Nat) : List Char := Nat.toDigits 10 n

/-- An integer in decimal. -/
def intChars (i : Int) : List Char :=
  if i < 0 then '-' :: natChars i.natAbs else natChars i.natAbs

/-- A decimal in the notation of doubles. -/
def decimalChars (d : Decimal) : List Char :=
  let ds := natChars d.digits
  let point : Int := ds.length + d.exponent
  if d.digits = 0 then ['0', '.', '0']
  else if 0 ≤ d.exponent ∧ point ≤ 16 then
    ds ++ List.replicate d.exponent.toNat '0' ++ ['.', '0']
  else if 0 < point ∧ point ≤ 16 then
    ds.take point.toNat ++ '.' :: ds.drop point.toNat
  else if -5 < point ∧ point ≤ 0 then
    ['0', '.'] ++ List.replicate (-point).toNat '0' ++ ds
  else
    let power := point - 1
    ds.take 1 ++ (if ds.length = 1 then [] else '.' :: ds.drop 1) ++
      ['e', if power < 0 then '-' else '+'] ++ natChars power.natAbs

/-- A number as it is written. -/
def toChars : Number → List Char
  | .int i _ => intChars i
  | .real x => (if x.negative then ['-'] else []) ++ decimalChars x.shortest

/-- A number as it is written. -/
def toText (n : Number) : String := String.ofList n.toChars

end Number

end CampusView.Json
