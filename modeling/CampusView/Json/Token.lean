import CampusView.Json.Number

/-!
# Tokens of JSON text

`tokens` cuts a text into tokens. Text that no token matches ends the list with `Token.stuck`, so
a reader that goes through the tokens from the left meets the first fault first. Two faults are
left to the reader, because a value that is only passed over may have them:

* a number too large for a double is `number none`;
* a string with half of a surrogate pair is `string none`.
-/

namespace CampusView.Json

/-- A token of JSON text. -/
inductive Token
  | openArray
  | closeArray
  | openObject
  | closeObject
  | comma
  | colon
  | null
  | bool (b : Bool)
  | number (n : Option Number)
  | string (s : Option String)
  | stuck
deriving DecidableEq, Repr

/-! ### Strings -/

/-- The value of a hexadecimal digit. -/
def hexValue? (c : Char) : Option Nat :=
  if '0' ≤ c ∧ c ≤ '9' then some (c.toNat - '0'.toNat)
  else if 'a' ≤ c ∧ c ≤ 'f' then some (c.toNat - 'a'.toNat + 10)
  else if 'A' ≤ c ∧ c ≤ 'F' then some (c.toNat - 'A'.toNat + 10)
  else none

/-- The value of four hexadecimal digits. -/
def hexQuad? (a b c d : Char) : Option Nat := do
  return 4096 * (← hexValue? a) + 256 * (← hexValue? b) + 16 * (← hexValue? c) + (← hexValue? d)

/-- The character that a backslash and this letter stand for. -/
def shortEscape? : Char → Option Char
  | '"' => some '"'
  | '\\' => some '\\'
  | '/' => some '/'
  | 'b' => some '\x08'
  | 'f' => some '\x0c'
  | 'n' => some '\n'
  | 'r' => some '\r'
  | 't' => some '\t'
  | _ => none

/-- The first half of a surrogate pair. -/
def isHighSurrogate (n : Nat) : Bool := 0xD800 ≤ n && n ≤ 0xDBFF

/-- The second half of a surrogate pair. -/
def isLowSurrogate (n : Nat) : Bool := 0xDC00 ≤ n && n ≤ 0xDFFF

/-- What stands in a string: a character, or half of a surrogate pair. -/
abbrev Piece := Char ⊕ Nat

/-- The pieces of a string up to its closing quote, and the text after it. The pieces read so far
are given in reverse. -/
def stringPieces (acc : List Piece) : List Char → Option (List Piece × List Char)
  | '"' :: r => some (acc.reverse, r)
  | '\\' :: 'u' :: a :: b :: c :: d :: r =>
    match hexQuad? a b c d with
    | some n =>
      if isHighSurrogate n || isLowSurrogate n then stringPieces (.inr n :: acc) r
      else stringPieces (.inl (Char.ofNat n) :: acc) r
    | none => none
  | '\\' :: e :: r =>
    match shortEscape? e with
    | some c => stringPieces (.inl c :: acc) r
    | none => none
  | c :: r => if c < ' ' then none else stringPieces (.inl c :: acc) r
  | [] => none

/-- The characters of a string whose surrogates come in pairs. -/
def joinPieces (acc : List Char) : List Piece → Option (List Char)
  | [] => some acc.reverse
  | .inl c :: ps => joinPieces (c :: acc) ps
  | .inr high :: .inr low :: ps =>
    if isHighSurrogate high && isLowSurrogate low then
      joinPieces (Char.ofNat (0x10000 + 0x400 * (high - 0xD800) + (low - 0xDC00)) :: acc) ps
    else none
  | .inr _ :: _ => none

/-- The string token that starts after an opening quote. -/
def scanString (cs : List Char) : Option (Token × List Char) :=
  (stringPieces [] cs).map fun (ps, r) => (.string ((joinPieces [] ps).map String.ofList), r)

/-! ### Numbers -/

/-- The decimal digits. -/
def isDigit (c : Char) : Bool := '0' ≤ c && c ≤ '9'

/-- The digits of a whole number: a zero alone, or digits of which the first is no zero. -/
def scanWhole : List Char → Option (List Char × List Char)
  | '0' :: r => if r.head?.any isDigit then none else some (['0'], r)
  | cs =>
    let ds := cs.takeWhile isDigit
    if ds.isEmpty then none else some (ds, cs.dropWhile isDigit)

/-- The digits after a point, if there is one. -/
def scanFraction : List Char → Option (Option (List Char) × List Char)
  | '.' :: r =>
    let ds := r.takeWhile isDigit
    if ds.isEmpty then none else some (some ds, r.dropWhile isDigit)
  | cs => some (none, cs)

/-- The sign of an exponent. -/
def scanSign : List Char → Bool × List Char
  | '-' :: r => (true, r)
  | '+' :: r => (false, r)
  | cs => (false, cs)

/-- The power of ten, if there is one. -/
def scanPower : List Char → Option (Option Int × List Char)
  | [] => some (none, [])
  | e :: cs =>
    if e = 'e' ∨ e = 'E' then
      let (negative, r) := scanSign cs
      let ds := r.takeWhile isDigit
      let n : Int := Number.ofDigits ds
      if ds.isEmpty then none
      else some (some (if negative then -n else n), r.dropWhile isDigit)
    else some (none, e :: cs)

/-- The number token that a text starts with. -/
def scanNumber (cs : List Char) : Option (Token × List Char) := do
  let (negative, cs) := match cs with
    | '-' :: r => (true, r)
    | cs => (false, cs)
  let (whole, cs) ← scanWhole cs
  let (fraction, cs) ← scanFraction cs
  let (power, cs) ← scanPower cs
  return (.number (Number.ofLiteral? ⟨negative, whole, fraction, power⟩), cs)

/-! ### Tokens -/

/-- White space between tokens. -/
def isSpace (c : Char) : Bool := c = ' ' || c = '\n' || c = '\t' || c = '\r'

/-- The token that a text starts with. -/
def scanToken : List Char → Option (Token × List Char)
  | '[' :: r => some (.openArray, r)
  | ']' :: r => some (.closeArray, r)
  | '\x7b' :: r => some (.openObject, r)
  | '\x7d' :: r => some (.closeObject, r)
  | ',' :: r => some (.comma, r)
  | ':' :: r => some (.colon, r)
  | '"' :: r => scanString r
  | 'n' :: 'u' :: 'l' :: 'l' :: r => some (.null, r)
  | 't' :: 'r' :: 'u' :: 'e' :: r => some (.bool true, r)
  | 'f' :: 'a' :: 'l' :: 's' :: 'e' :: r => some (.bool false, r)
  | cs => scanNumber cs

/-- The tokens of a text; `fuel` bounds how many. -/
def tokensWithin : Nat → List Char → List Token
  | 0, _ => []
  | fuel + 1, cs =>
    match cs.dropWhile isSpace with
    | [] => []
    | cs =>
      match scanToken cs with
      | some (t, r) => t :: tokensWithin fuel r
      | none => [.stuck]

/-- The tokens of a text. A token takes at least one character, so their number is bounded by the
length of the text. -/
def tokens (s : String) : List Token :=
  let cs := s.toList
  tokensWithin cs.length cs

end CampusView.Json
