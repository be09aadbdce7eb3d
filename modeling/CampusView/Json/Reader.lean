import CampusView.Json.Token
import CampusView.Json.Value

/-!
# Reading JSON text

A text is read under a *shape*, which says which of its parts are wanted. Under `Shape.any`
everything is read. Under a record the members that are not named are passed over: they have to be
well formed, but they may nest to any depth and hold numbers of any size, while a named member
that comes twice is refused.

Reading goes from left to right and stops at the first fault. `Fault.malformed` is text that is no
JSON or nests too deep, `Fault.mismatch` is JSON of another shape.
-/

namespace CampusView.Json

/-- Which parts of a text are wanted. -/
inductive Shape
  /-- Any value, in full. -/
  | any
  /-- A string. -/
  | text
  /-- The inner shape, or null. -/
  | optional (inner : Shape)
  /-- An array with items of one shape. -/
  | list (item : Shape)
  /-- An object with these members, or an array with their values in this order. -/
  | record (members : List (String × Shape))

/-- Why a text cannot be read. -/
inductive Fault
  | malformed
  | mismatch
deriving DecidableEq, Repr

/-- How deep arrays and objects may nest. -/
def maxDepth : Nat := 127

/-- What was read at the beginning of a list of tokens, and the tokens after it. -/
abbrev WithRest (α : Type) := α × List Token

/-! ### Values in full -/

mutual

/-- Read a value in full, nested at most `depth` deep. -/
def readValue (fuel depth : Nat) (ts : List Token) : Except Fault (WithRest Value) :=
  match fuel with
  | 0 => .error .malformed
  | fuel + 1 =>
    match ts with
    | .null :: r => .ok (.null, r)
    | .bool b :: r => .ok (.bool b, r)
    | .number (some n) :: r => .ok (.number n, r)
    | .string (some s) :: r => .ok (.string s, r)
    | .openArray :: r =>
      match depth, r with
      | 0, _ => .error .malformed
      | _, .closeArray :: r => .ok (.array [], r)
      | depth + 1, r => do
        let (xs, r) ← readItems fuel depth r
        return (.array xs, r)
    | .openObject :: r =>
      match depth, r with
      | 0, _ => .error .malformed
      | _, .closeObject :: r => .ok (.object [], r)
      | depth + 1, r => do
        let (ms, r) ← readMembers fuel depth r
        return (.object (Members.ofList ms), r)
    | _ => .error .malformed

/-- Read the items of an array up to its end. -/
def readItems (fuel depth : Nat) (ts : List Token) : Except Fault (WithRest (List Value)) :=
  match fuel with
  | 0 => .error .malformed
  | fuel + 1 => do
    let (x, r) ← readValue fuel depth ts
    match r with
    | .comma :: r => do
      let (xs, r) ← readItems fuel depth r
      return (x :: xs, r)
    | .closeArray :: r => return ([x], r)
    | _ => .error .malformed

/-- Read the members of an object up to its end. -/
def readMembers (fuel depth : Nat) (ts : List Token) : Except Fault (WithRest Members) :=
  match fuel with
  | 0 => .error .malformed
  | fuel + 1 =>
    match ts with
    | .string (some k) :: .colon :: r => do
      let (v, r) ← readValue fuel depth r
      match r with
      | .comma :: r => do
        let (ms, r) ← readMembers fuel depth r
        return ((k, v) :: ms, r)
      | .closeObject :: r => return ([(k, v)], r)
      | _ => .error .malformed
    | _ => .error .malformed

end

/-! ### Values that are passed over -/

mutual

/-- Pass over a value. -/
def skipValue (fuel : Nat) (ts : List Token) : Except Fault (List Token) :=
  match fuel with
  | 0 => .error .malformed
  | fuel + 1 =>
    match ts with
    | .null :: r => .ok r
    | .bool _ :: r => .ok r
    | .number _ :: r => .ok r
    | .string _ :: r => .ok r
    | .openArray :: .closeArray :: r => .ok r
    | .openArray :: r => skipItems fuel r
    | .openObject :: .closeObject :: r => .ok r
    | .openObject :: r => skipMembers fuel r
    | _ => .error .malformed

/-- Pass over the items of an array up to its end. -/
def skipItems (fuel : Nat) (ts : List Token) : Except Fault (List Token) :=
  match fuel with
  | 0 => .error .malformed
  | fuel + 1 => do
    match ← skipValue fuel ts with
    | .comma :: r => skipItems fuel r
    | .closeArray :: r => return r
    | _ => .error .malformed

/-- Pass over the members of an object up to its end. -/
def skipMembers (fuel : Nat) (ts : List Token) : Except Fault (List Token) :=
  match fuel with
  | 0 => .error .malformed
  | fuel + 1 =>
    match ts with
    | .string _ :: .colon :: r => do
      match ← skipValue fuel r with
      | .comma :: r => skipMembers fuel r
      | .closeObject :: r => return r
      | _ => .error .malformed
    | _ => .error .malformed

end

/-! ### Values of a shape -/

/-- The fault of a text that goes on with these tokens where another kind of value is wanted. -/
def faultAt : List Token → Fault
  | .null :: _ => .mismatch
  | .bool _ :: _ => .mismatch
  | .number (some _) :: _ => .mismatch
  | .string (some _) :: _ => .mismatch
  | .openArray :: _ => .mismatch
  | .openObject :: _ => .mismatch
  | _ => .malformed

mutual

/-- Read a value of a shape. -/
def readShape (fuel depth : Nat) (shape : Shape) (ts : List Token) :
    Except Fault (WithRest Value) :=
  match fuel with
  | 0 => .error .malformed
  | fuel + 1 =>
    match shape, ts with
    | .any, ts => readValue (fuel + 1) depth ts
    | .text, .string (some s) :: r => .ok (.string s, r)
    | .optional _, .null :: r => .ok (.null, r)
    | .optional inner, ts => readShape fuel depth inner ts
    | .list item, .openArray :: r =>
      match depth, r with
      | 0, _ => .error .malformed
      | _, .closeArray :: r => .ok (.array [], r)
      | depth + 1, r => do
        let (xs, r) ← readList fuel depth item r
        return (.array xs, r)
    | .record shapes, .openArray :: r =>
      match depth, r with
      | 0, _ => .error .malformed
      | _, .closeArray :: r => .ok (.array [], r)
      | depth + 1, r => do
        let (xs, r) ← readPlaces fuel depth (shapes.map Prod.snd) r
        return (.array xs, r)
    | .record shapes, .openObject :: r =>
      match depth, r with
      | 0, _ => .error .malformed
      | _, .closeObject :: r => .ok (.object [], r)
      | depth + 1, r => do
        let (ms, r) ← readNamed fuel depth shapes [] r
        return (.object (Members.ofList ms), r)
    | _, ts => .error (faultAt ts)
termination_by structural fuel

/-- Read the items of one shape up to the end of their array. -/
def readList (fuel depth : Nat) (item : Shape) (ts : List Token) :
    Except Fault (WithRest (List Value)) :=
  match fuel with
  | 0 => .error .malformed
  | fuel + 1 => do
    let (x, r) ← readShape fuel depth item ts
    match r with
    | .comma :: r => do
      let (xs, r) ← readList fuel depth item r
      return (x :: xs, r)
    | .closeArray :: r => return ([x], r)
    | _ => .error .malformed
termination_by structural fuel

/-- Read the values of a record in order up to the end of their array. The last ones may be
missing. -/
def readPlaces (fuel depth : Nat) (shapes : List Shape) (ts : List Token) :
    Except Fault (WithRest (List Value)) :=
  match fuel, shapes with
  | fuel + 1, shape :: shapes => do
    let (x, r) ← readShape fuel depth shape ts
    match r with
    | .comma :: r => do
      let (xs, r) ← readPlaces fuel depth shapes r
      return (x :: xs, r)
    | .closeArray :: r => return ([x], r)
    | _ => .error .malformed
  | _, _ => .error .malformed
termination_by structural fuel

/-- Read the members of a record up to its end. `seen` names those read so far. -/
def readNamed (fuel depth : Nat) (shapes : List (String × Shape)) (seen : List String)
    (ts : List Token) : Except Fault (WithRest Members) :=
  match fuel with
  | 0 => .error .malformed
  | fuel + 1 =>
    match ts with
    | .string (some k) :: r => do
      if seen.contains k then .error .mismatch
      else match r with
        | .colon :: r =>
          match shapes.lookup k with
          | some shape => do
            let (v, r) ← readShape fuel depth shape r
            match r with
            | .comma :: r => do
              let (ms, r) ← readNamed fuel depth shapes (k :: seen) r
              return ((k, v) :: ms, r)
            | .closeObject :: r => return ([(k, v)], r)
            | _ => .error .malformed
          | none => do
            match ← skipValue fuel r with
            | .comma :: r => readNamed fuel depth shapes seen r
            | .closeObject :: r => return ([], r)
            | _ => .error .malformed
        | _ => .error .malformed
    | _ => .error .malformed
termination_by structural fuel

end

/-- Read a text under a shape. Every step of a reading takes a token or opens one level of a
value, so twice the number of tokens bounds its length. -/
def read (shape : Shape) (text : String) : Except Fault Value := do
  let ts := tokens text
  let (v, r) ← readShape (2 * ts.length + 2) maxDepth shape ts
  if r.isEmpty then return v else .error .malformed

/-- The value that a text stands for. -/
def parse? (text : String) : Option Value := (read .any text).toOption

end CampusView.Json
