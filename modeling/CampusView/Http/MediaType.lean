import CampusView.Http.Headers

/-!
# Media types

`MediaType.parse?` reads a media type such as `application/problem+json; charset=utf-8`. The
parameters have to be well formed and are dropped.
-/

namespace CampusView.Http

/-- A media type in lower case. -/
structure MediaType where
  type : String
  /-- The subtype up to its last plus sign. -/
  subtype : String
  /-- What follows the last plus sign of the subtype. -/
  suffix : Option String
deriving DecidableEq, Repr

namespace MediaType

/-- A character of a quoted parameter. -/
def isQuotedChar (c : Char) : Bool := ' ' ≤ c && c ≠ '\x7f'

/-- What follows the opening quote of a quoted parameter. The text in quotes has at least one
character. -/
def afterQuoted? : List Char → Option (List Char)
  | c :: r =>
    if isQuotedChar c then
      match r.dropWhile fun c => c ≠ '"' && isQuotedChar c with
      | '"' :: r => some r
      | _ => none
    else none
  | [] => none

/-- The parameters, read in at most `fuel` steps, are well formed. -/
def areParametersWithin : Nat → List Char → Bool
  | 0, _ => false
  | _, [] => true
  | fuel + 1, ' ' :: r => areParametersWithin fuel r
  | fuel + 1, cs =>
    match cs.takeWhile isTokenChar, cs.dropWhile isTokenChar with
    | _ :: _, '=' :: '"' :: r =>
      match (afterQuoted? r).map (List.dropWhile (· = ' ')) with
      | some [] => true
      | some (';' :: r) => areParametersWithin fuel r
      | _ => false
    | _ :: _, '=' :: r =>
      match r.takeWhile isTokenChar, r.dropWhile isTokenChar with
      | _, [] => true
      | _ :: _, ';' :: r => areParametersWithin fuel r
      | _, _ => false
    | _, _ => false

/-- The parameters are well formed. Every step takes a character. -/
def areParameters (cs : List Char) : Bool := areParametersWithin (cs.length + 1) cs

/-- A text in lower case. -/
def lower (cs : List Char) : String := Text.lowerAscii (String.ofList cs)

/-- The subtype and its suffix. A plus sign at the beginning belongs to the subtype. -/
def splitSuffix (cs : List Char) : String × Option String :=
  match (Text.splitOn '+' cs.tail).reverse with
  | last :: before :: more =>
    let head := ['+'].intercalate (before :: more).reverse
    (lower (cs.take 1 ++ head), some (lower last))
  | _ => (lower cs, none)

/-- The media type that a text names. -/
def parse? (s : String) : Option MediaType :=
  match s.toList.takeWhile isTokenChar, s.toList.dropWhile isTokenChar with
  | c :: cs, '/' :: r =>
    let sub := r.takeWhile isTokenChar
    let (subtype, suffix) := splitSuffix sub
    let mediaType : MediaType := ⟨lower (c :: cs), subtype, suffix⟩
    match r.dropWhile isTokenChar with
    | [] => some mediaType
    | ';' :: parameters => if !sub.isEmpty && areParameters parameters then some mediaType else none
    | _ => none
  | _, _ => none

/-- The media type of JSON, or of a format that is written in JSON. -/
def isJson (m : MediaType) : Bool :=
  m.type == "application" && (m.subtype == "json" || m.suffix == some "json")

end MediaType

end CampusView.Http
