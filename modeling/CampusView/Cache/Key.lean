import CampusView.Identity

/-!
# Cache keys

A key is a path of segments with slashes between them. Everything that is cached of a user lies
under the key of that user, so that it can be forgotten at once. The stamps of feeds lie apart,
because they outlive the feeds.

An id becomes one segment: `segment` escapes the slashes in it, and the escape character first.
-/

namespace CampusView.Cache.Key

/-- One character of a segment. -/
def escape (c : Char) : List Char :=
  if c = '%' then ['%', '2', '5']
  else if c = '/' then ['%', '2', 'F']
  else [c]

/-- A text as one segment of a path. -/
def segment (raw : String) : String := String.ofList (raw.toList.flatMap escape)

/-- Everything cached of a user. -/
def user (uid : Uid) : String := "users/" ++ segment uid.text

/-- The status feed of a user in one view. -/
def status (uid : Uid) (view : String) : String := user uid ++ "/status/" ++ segment view

/-- The academics feed of a user. -/
def academics (uid : Uid) : String := user uid ++ "/academics"

/-- Whether a user is a held applicant. -/
def admission (uid : Uid) : String := user uid ++ "/auth-validation"

/-- The stamps of all views of a user. -/
def stamps (uid : Uid) : String := "last-modified/" ++ segment uid.text

/-- The stamp of the status feed of a user in one view. -/
def stamp (uid : Uid) (view : String) : String := stamps uid ++ "/" ++ segment view

end CampusView.Cache.Key
