import CampusView.Json.Number

/-!
# JSON values

`Value` is a JSON value. The members of an object are a list of names and values: a value that was
read has them in the order of their names, each name once (`Members.ofList`), while a record that
is about to be written lists them in the order it wants them written.
-/

namespace CampusView.Json

/-- A JSON value. -/
inductive Value
  | null
  | bool (b : Bool)
  | number (n : Number)
  | string (s : String)
  | array (items : List Value)
  | object (members : List (String × Value))
deriving Repr, Inhabited

/-- The members of an object. -/
abbrev Members := List (String × Value)

namespace Members

/-- Put a member in its place among members in the order of their names. A member of that name is
replaced. -/
def insert (k : String) (v : Value) : Members → Members
  | [] => [(k, v)]
  | (k', v') :: ms =>
    if k < k' then (k, v) :: (k', v') :: ms
    else if k = k' then (k, v) :: ms
    else (k', v') :: insert k v ms

/-- The members in the order of their names, the last one of each name. -/
def ofList (ms : Members) : Members := ms.foldl (fun acc m => insert m.1 m.2 acc) []

/-- The members whose name is not listed. -/
def without (names : List String) (ms : Members) : Members :=
  ms.filter fun m => !names.contains m.1

end Members

namespace Value

/-- An integer as a value. Beyond 64 bits there is no such number, and the value is null. -/
def ofInt (i : Int) : Value := (Number.ofInt? i).elim null number

/-- A natural number as a value. -/
def ofNat (n : Nat) : Value := ofInt n

/-- The member of that name; none when there is none or the value is no object. -/
def get? (k : String) : Value → Option Value
  | object ms => ms.lookup k
  | _ => none

/-- The text, if the value is one. -/
def toText? : Value → Option String
  | string s => some s
  | _ => none

/-- The flag, if the value is one. -/
def toBool? : Value → Option Bool
  | bool b => some b
  | _ => none

/-- The items, if the value is an array. -/
def items? : Value → Option (List Value)
  | array xs => some xs
  | _ => none

/-- The members, if the value is an object. -/
def members? : Value → Option Members
  | object ms => some ms
  | _ => none

/-- The value is null. -/
def isNull : Value → Bool
  | null => true
  | _ => false

end Value

end CampusView.Json
