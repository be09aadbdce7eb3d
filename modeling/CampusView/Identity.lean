import CampusView.Json.Codec

/-!
# Identities

A person is known by a user id. Other campus systems know the same person by ids of their own,
which the crosswalk gives as `CorrelatedIds`.
-/

namespace CampusView

open Json

/-- The user id of a person. -/
structure Uid where
  text : String
deriving DecidableEq, Repr, Inhabited

/-- The ids by which other systems know a person. -/
structure CorrelatedIds where
  studentId : Option String
  campusSolutionsId : Option String
  delegateUserId : Option String
deriving DecidableEq, Repr

/-- An id of the new student system has at least ten bytes. -/
def isCampusSolutionsId (id : String) : Bool := 10 ≤ id.utf8ByteSize

instance : Encode Uid := ⟨fun u => .string u.text⟩
instance : Decode Uid := ⟨.text, fun v => v.toText?.map Uid.mk⟩

/-- The members of `CorrelatedIds`. -/
def CorrelatedIds.layout : Layout := [
  ("student_id", .optional .text),
  ("campus_solutions_id", .optional .text),
  ("delegate_user_id", .optional .text)]

instance : Encode CorrelatedIds := ⟨fun ids => .object [
  ("student_id", encode ids.studentId),
  ("campus_solutions_id", encode ids.campusSolutionsId),
  ("delegate_user_id", encode ids.delegateUserId)]⟩

instance : Decode CorrelatedIds := ⟨.record CorrelatedIds.layout, fun v => do
  let r ← v.record? CorrelatedIds.layout
  return {
    studentId := ← r.option? "student_id"
    campusSolutionsId := ← r.option? "campus_solutions_id"
    delegateUserId := ← r.option? "delegate_user_id" }⟩

end CampusView
