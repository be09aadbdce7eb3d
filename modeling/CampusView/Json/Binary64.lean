/-!
# Binary floating-point numbers of 64 bits

A number that is no 64-bit integer is kept as a double. Everything is exact arithmetic on natural
numbers.

* `Binary64` is `± mantissa · 2 ^ exponent`.
* `ofRatio?` and `ofDecimal?` give the double nearest to a fraction or a decimal, ties to the even
  mantissa, and fail when that is too large for any double.
* `ofParts?` is how a literal is read: the digits are rounded to a double, and the product or
  quotient with a power of ten is rounded once more. So it may miss the nearest double.
* `shortest` is the decimal with the fewest digits that the number is the nearest double to, and of
  those the nearest to it.
-/

namespace CampusView.Json

/-- The finite number `± mantissa · 2 ^ exponent`. -/
structure Binary64 where
  negative : Bool
  mantissa : Nat
  exponent : Int
deriving DecidableEq, Repr

/-- The decimal `digits · 10 ^ exponent`. -/
structure Decimal where
  digits : Nat
  exponent : Int
deriving DecidableEq, Repr

namespace Decimal

/-- The same decimal without trailing zeros; `fuel` bounds how many are dropped. -/
def stripZeros : Nat → Decimal → Decimal
  | 0, d => d
  | fuel + 1, d =>
    if d.digits ≠ 0 ∧ d.digits % 10 = 0 then stripZeros fuel ⟨d.digits / 10, d.exponent + 1⟩ else d

/-- How many decimal digits a number is written with. -/
def width (n : Nat) : Nat := (Nat.toDigits 10 n).length

/-- The same decimal without trailing zeros. -/
def normalize (d : Decimal) : Decimal := stripZeros (width d.digits) d

end Decimal

namespace Binary64

/-- The exponent of the subnormal numbers. -/
def minExponent : Int := -1074

/-- The exponent of the largest numbers. -/
def maxExponent : Int := 971

/-- The mantissas of normal numbers start here, at the 52nd power of two, and end below its double.
-/
def hidden : Nat := 4503599627370496

/-- A quotient rounded to the nearest integer, a half to the even one. -/
def roundDiv (num den : Nat) : Nat :=
  let q := num / den
  let twice := 2 * (num % den)
  if twice < den then q
  else if twice = den then q + q % 2
  else q + 1

/-- Numerator and denominator of `num / den / base ^ e`. -/
def unscale (base num den : Nat) (e : Int) : Nat × Nat :=
  if 0 ≤ e then (num, den * base.pow e.toNat) else (num * base.pow (-e).toNat, den)

/-- The exponent that leaves `num / den` a mantissa of 53 bits, or the least exponent there is. -/
def placeOf (num den : Nat) : Int :=
  let e : Int := (num.log2 : Int) - den.log2 - 53
  let (n, d) := unscale 2 num den e
  max minExponent (if n / d < 2 * hidden then e else e + 1)

/-- The double nearest to `± num / den`; none when that is beyond the largest double. -/
def ofRatio? (negative : Bool) (num den : Nat) : Option Binary64 :=
  if num = 0 then some ⟨negative, 0, minExponent⟩
  else
    let e := placeOf num den
    let (n, d) := unscale 2 num den e
    let q := roundDiv n d
    let (m, e) := if q = 2 * hidden then (hidden, e + 1) else (q, e)
    if maxExponent < e then none else some ⟨negative, m, e⟩

/-- The double nearest to `± digits · 10 ^ exponent`; none when that is beyond the largest double.
-/
def ofDecimal? (negative : Bool) (d : Decimal) : Option Binary64 :=
  let magnitude : Int := Decimal.width d.digits + d.exponent
  if d.digits = 0 ∨ magnitude < -330 then some ⟨negative, 0, minExponent⟩
  else if 310 < magnitude then none
  else
    let (num, den) := unscale 10 d.digits 1 (-d.exponent)
    ofRatio? negative num den

/-- Numerator and denominator of the absolute value. -/
def ratio (x : Binary64) : Nat × Nat := unscale 2 x.mantissa 1 (-x.exponent)

/-! ### Reading -/

/-- `x · y` rounded to the nearest double, with the sign of `x`. -/
def times? (x y : Binary64) : Option Binary64 :=
  let (a, b) := x.ratio
  let (c, d) := y.ratio
  ofRatio? x.negative (a * c) (b * d)

/-- `x / y` rounded to the nearest double, with the sign of `x`. -/
def over? (x y : Binary64) : Option Binary64 :=
  let (a, b) := x.ratio
  let (c, d) := y.ratio
  ofRatio? x.negative (a * d) (b * c)

/-- The exponent of the largest power of ten among the doubles. -/
def largestPower : Nat := 308

/-- The double nearest to a power of ten. -/
def powerOfTen? (k : Nat) : Option Binary64 := ofRatio? false (Nat.pow 10 k) 1

/-- `x` divided by the largest power of ten, so many times, or until nothing is left. -/
def lowered? : Nat → Binary64 → Option Binary64
  | 0, x => some x
  | steps + 1, x =>
    if x.mantissa = 0 then some x
    else do lowered? steps (← x.over? (← powerOfTen? largestPower))

/-- `± significand · 10 ^ exponent` as it is read: rounded to a double without the power, and again
with it. None when it is beyond the largest double. -/
def ofParts? (negative : Bool) (significand : Nat) (exponent : Int) : Option Binary64 := do
  let x ← ofRatio? negative significand 1
  if x.mantissa = 0 then return x
  else if exponent < 0 then
    let k := exponent.natAbs
    let steps := (k - 1) / largestPower
    (← lowered? steps x).over? (← powerOfTen? (k - largestPower * steps))
  else if exponent ≤ largestPower then x.times? (← powerOfTen? exponent.toNat)
  else none

/-! ### Writing -/

/-- The exponent of the first decimal digit of `num / den`. -/
def leadingPlace (num den : Nat) : Int :=
  let k : Int := (Decimal.width num : Int) - Decimal.width den
  let (n, d) := unscale 10 num den k
  if d ≤ n then k else k - 1

/-- The decimal on the grid of `10 ^ place` that is nearest to `x` and rounds back to it, if the two
neighbours of `x` on that grid hold one. -/
def onGrid? (x : Binary64) (place : Int) : Option Decimal :=
  let (num, den) := x.ratio
  let (n, d) := unscale 10 num den place
  let below : Decimal := ⟨n / d, place⟩
  let above : Decimal := ⟨n / d + 1, place⟩
  let nearer := roundDiv n d
  let (first, second) := if nearer = n / d then (below, above) else (above, below)
  [first, second].find? fun c => ofDecimal? x.negative c == some x

/-- The value of `x` written out in full. -/
def inFull (x : Binary64) : Decimal :=
  if 0 ≤ x.exponent then ⟨x.mantissa * Nat.pow 2 x.exponent.toNat, 0⟩
  else ⟨x.mantissa * Nat.pow 5 (-x.exponent).toNat, x.exponent⟩

/-- The decimal with the fewest digits that rounds back to `x`, and of those the nearest to `x`. -/
def shortest (x : Binary64) : Decimal :=
  if x.mantissa = 0 then ⟨0, 0⟩
  else
    let (num, den) := x.ratio
    let lead := leadingPlace num den
    let found := (List.range 17).findSome? fun (k : Nat) => x.onGrid? (lead - k)
    (found.getD x.inFull).normalize

end Binary64

end CampusView.Json
