import CampusView.Json.Value

/-!
# Writing JSON text

`Value.toText` writes a value without white space. In a string the quote and the backslash are
escaped, and so are the control characters, by a letter where JSON has one and otherwise by four
hexadecimal digits in lower case; everything else stands as it is.
-/

namespace CampusView.Json

/-- A digit in lower-case hexadecimal. -/
def hexDigit (n : Nat) : Char := if n < 10 then Char.ofNat (48 + n) else Char.ofNat (87 + n)

/-- A character as it stands in a string. -/
def escapeChar (c : Char) : List Char :=
  if c = '"' then ['\\', '"']
  else if c = '\\' then ['\\', '\\']
  else if c = '\x08' then ['\\', 'b']
  else if c = '\t' then ['\\', 't']
  else if c = '\n' then ['\\', 'n']
  else if c = '\x0c' then ['\\', 'f']
  else if c = '\r' then ['\\', 'r']
  else if c < ' ' then ['\\', 'u', '0', '0', hexDigit (c.toNat / 16), hexDigit (c.toNat % 16)]
  else [c]

/-- A string between its quotes. -/
def stringChars (s : String) : List Char := '"' :: s.toList.flatMap escapeChar ++ ['"']

mutual

/-- A value as it is written. -/
def Value.toChars : Value → List Char
  | .null => ['n', 'u', 'l', 'l']
  | .bool true => ['t', 'r', 'u', 'e']
  | .bool false => ['f', 'a', 'l', 's', 'e']
  | .number n => n.toChars
  | .string s => stringChars s
  | .array xs => '[' :: itemsChars xs ++ [']']
  | .object ms => '\x7b' :: membersChars ms ++ ['\x7d']

/-- Items with commas between them. -/
def itemsChars : List Value → List Char
  | [] => []
  | [x] => x.toChars
  | x :: y :: xs => x.toChars ++ ',' :: itemsChars (y :: xs)

/-- Members with commas between them. -/
def membersChars : List (String × Value) → List Char
  | [] => []
  | [(k, v)] => stringChars k ++ ':' :: v.toChars
  | (k, v) :: m :: ms => stringChars k ++ ':' :: v.toChars ++ ',' :: membersChars (m :: ms)

end

/-- A value as it is written. -/
def Value.toText (v : Value) : String := String.ofList v.toChars

end CampusView.Json
