import CampusView.Text.Split

/-!
# Request targets

`targetPath?` gives the path that a request target names, without query and fragment. A target is
a path that begins with a slash, a URI with scheme and authority, an authority alone, or a star;
an authority alone names the empty path. Anything else is malformed.

`percentDecoded?` decodes a part of a path.
-/

namespace CampusView.Http

/-! ### Paths -/

/-- Neither the space nor a control character of ASCII. -/
def isGraphic (c : Char) : Bool := ' ' < c && c ≠ '\x7f'

/-- A character of a path. Most have to be percent-encoded, but not all are refused that should
be. -/
def isPathChar (c : Char) : Bool := isGraphic c && !"#<>?`".toList.contains c

/-- A character of a query. -/
def isQueryChar (c : Char) : Bool := isGraphic c && !"\"#<>".toList.contains c

/-- A query, if there is one, and a fragment, if there is one. What a fragment holds does not
matter. -/
def isQueryAndFragment : List Char → Bool
  | [] => true
  | '#' :: _ => true
  | '?' :: r => ((r.dropWhile isQueryChar).head?.all (· = '#'))
  | _ => false

/-- The path before query and fragment. -/
def pathBeforeQuery? (cs : List Char) : Option (List Char) :=
  if isQueryAndFragment (cs.dropWhile isPathChar) then some (cs.takeWhile isPathChar) else none

/-! ### Authorities -/

/-- A character of an authority. -/
def isAuthorityChar (c : Char) : Bool := c.isAlphanum || "!$%&'()*+,-.:;=@[]_~".toList.contains c

/-- What is known of an authority of which a part was read. -/
structure AuthorityScan where
  /-- The colons of the host so far. -/
  colons : Nat := 0
  opened : Bool := false
  closed : Bool := false
  /-- The host so far has a percent sign. -/
  percent : Bool := false
  /-- The last character was an at sign. -/
  afterAt : Bool := false

/-- Read one more character of an authority. -/
def AuthorityScan.step (s : AuthorityScan) (c : Char) : Option AuthorityScan :=
  let s := { s with afterAt := false }
  match c with
  | ':' => if s.colons < 8 then some { s with colons := s.colons + 1 } else none
  | '[' => if s.percent || s.opened then none else some { s with opened := true }
  | ']' => if !s.opened || s.closed then none
      else some { s with closed := true, colons := 0, percent := false }
  | '@' => some { s with afterAt := true, colons := 0, percent := false }
  | '%' => some { s with percent := true }
  | _ => if isAuthorityChar c then some s else none

/-- An authority: user information up to an at sign, a host, which may be an address in brackets,
and a number after a colon. It may be empty. -/
def isAuthority (cs : List Char) : Bool :=
  match cs.foldlM AuthorityScan.step {} with
  | some s => s.opened = s.closed && s.colons ≤ 1 && !s.afterAt && !s.percent
  | none => false

/-- A character that cannot stand in an authority because it ends it. -/
def endsAuthority (c : Char) : Bool := c = '/' || c = '?' || c = '#'

/-! ### Targets -/

/-- A character of a scheme. -/
def isSchemeChar (c : Char) : Bool := c.isAlphanum || "+-.~".toList.contains c

/-- The longest scheme there may be. -/
def maxSchemeLength : Nat := 64

/-- The longest target there may be, in bytes. -/
def maxTargetLength : Nat := 65534

/-- The scheme of a target and what follows `://`, if it has a scheme. -/
def splitScheme? (cs : List Char) : Option (List Char × List Char) :=
  match cs.dropWhile isSchemeChar with
  | ':' :: '/' :: '/' :: r => some (cs.takeWhile isSchemeChar, r)
  | _ => none

/-- The path that a request target names; none if the target is malformed. -/
def targetPath? (target : String) : Option String :=
  let cs := target.toList
  if cs.isEmpty || maxTargetLength < target.utf8ByteSize then none
  else if cs = ['*'] then some "*"
  else if cs.head? = some '/' then (pathBeforeQuery? cs).map String.ofList
  else match splitScheme? cs with
    | some (scheme, r) =>
      let authority := r.takeWhile fun c => !endsAuthority c
      let rest := r.dropWhile fun c => !endsAuthority c
      if scheme.length ≤ maxSchemeLength && !authority.isEmpty && isAuthority authority then
        (pathBeforeQuery? rest).map fun path => if path.isEmpty then "/" else String.ofList path
      else none
    | none => if isAuthority cs then some "" else none

/-! ### Percent-encoding -/

/-- The value of a hexadecimal digit. -/
def hexDigitValue? (b : UInt8) : Option UInt8 :=
  if 48 ≤ b ∧ b ≤ 57 then some (b - 48)
  else if 65 ≤ b ∧ b ≤ 70 then some (b - 55)
  else if 97 ≤ b ∧ b ≤ 102 then some (b - 87)
  else none

/-- Bytes with every percent sign and two hexadecimal digits replaced by the byte they stand for. -/
def percentDecodedBytes : List UInt8 → List UInt8
  | [] => []
  | 37 :: h :: l :: r =>
    match hexDigitValue? h, hexDigitValue? l with
    | some x, some y => (16 * x + y) :: percentDecodedBytes r
    | _, _ => 37 :: percentDecodedBytes (h :: l :: r)
  | b :: r => b :: percentDecodedBytes r

/-- A percent-encoded text. None if the bytes are no text. -/
def percentDecoded? (s : String) : Option String :=
  String.fromUTF8? ⟨(percentDecodedBytes s.toUTF8.toList).toArray⟩

end CampusView.Http
