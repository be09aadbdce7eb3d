import CampusView.Json.Reader
import CampusView.Json.Printer

/-!
# Types with a JSON form

* `Encode` and `Decode` say how a type is written as JSON and read from it. `Decode.shape` is the
  shape under which a text is read.
* A record is read from an object, where members that it does not have are ignored, or from an
  array with its values in the order of declaration. `Value.record?` opens either, and
  `Record.get?`, `Record.option?` and `Record.getD?` take a member that has to be there, an
  optional one, or one with a default.
-/

namespace CampusView.Json

/-- A type whose values are written as JSON. -/
class Encode (α : Type) where
  /-- The JSON form of a value. -/
  encode : α → Value

/-- A type whose values are read from JSON. -/
class Decode (α : Type) where
  /-- What of a text is read. -/
  shape : Shape
  /-- The value of that JSON form. -/
  decode? : Value → Option α

export Encode (encode)
export Decode (decode?)

/-- The text of a value. -/
def encodeText [Encode α] (x : α) : String := (encode x).toText

/-- The value of a text. -/
def decodeText? [Decode α] (text : String) : Option α := do
  decode? (← (read (Decode.shape α) text).toOption)

/-! ### Scalars, lists and optional values -/

instance : Encode Value := ⟨id⟩
instance : Decode Value := ⟨.any, some⟩

instance : Encode Bool := ⟨.bool⟩
instance : Decode Bool := ⟨.any, Value.toBool?⟩

instance : Encode String := ⟨.string⟩
instance : Decode String := ⟨.text, Value.toText?⟩

instance [Encode α] : Encode (List α) := ⟨fun xs => .array (xs.map encode)⟩
instance [Decode α] : Decode (List α) :=
  ⟨.list (Decode.shape α), fun v => v.items?.bind fun xs => xs.mapM decode?⟩

instance [Encode α] : Encode (Option α) := ⟨fun x => x.elim .null encode⟩
instance [Decode α] : Decode (Option α) :=
  ⟨.optional (Decode.shape α), fun v => if v.isNull then some none else (decode? v).map some⟩

/-- A natural number below a bound. -/
def decodeBelow? (bound : Nat) : Value → Option Nat
  | .number n => n.toNat?.filter (· < bound)
  | _ => none

instance : Encode UInt8 := ⟨fun n => .ofNat n.toNat⟩
instance : Decode UInt8 := ⟨.any, fun v => (decodeBelow? UInt8.size v).map UInt8.ofNat⟩

instance : Encode UInt16 := ⟨fun n => .ofNat n.toNat⟩
instance : Decode UInt16 := ⟨.any, fun v => (decodeBelow? UInt16.size v).map UInt16.ofNat⟩

instance : Encode UInt64 := ⟨fun n => .ofNat n.toNat⟩
instance : Decode UInt64 := ⟨.any, fun v => (decodeBelow? UInt64.size v).map UInt64.ofNat⟩

/-! ### Records -/

/-- The members a record has, with their shapes, in the order of declaration. -/
abbrev Layout := List (String × Shape)

/-- A record that is being read. -/
structure Record where
  /-- The member of that name, if it is there. -/
  find? : String → Option Value
  /-- The record was written as an array. -/
  positional : Bool

/-- Open an object, or an array that is not longer than the record, as a record. -/
def Value.record? (layout : Layout) : Value → Option Record
  | .object ms => some ⟨fun k => ms.lookup k, false⟩
  | .array xs =>
    if xs.length ≤ layout.length then
      some ⟨fun k => ((layout.map Prod.fst).zip xs).lookup k, true⟩
    else none
  | _ => none

namespace Record

/-- A member that has to be there. -/
def get? [Decode α] (r : Record) (k : String) : Option α := (r.find? k).bind decode?

/-- A member that an object may leave out. -/
def option? [Decode α] (r : Record) (k : String) : Option (Option α) :=
  match r.find? k with
  | some v => decode? v
  | none => if r.positional then none else some none

/-- A member with a default. A null is no missing member. -/
def getD? [Decode α] (r : Record) (k : String) (default : α) : Option α :=
  match r.find? k with
  | some v => decode? v
  | none => some default

end Record

end CampusView.Json
