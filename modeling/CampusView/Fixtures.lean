import CampusView.Campus
import CampusView.Folder
import CampusView.LegacyRecord
import CampusView.StudentRecord

/-!
# Campus systems out of files

`Fixtures.campus` answers for the campus systems out of a folder. What a system tells about
somebody is the file `kind/uid.json`, where the kind names a directory. A file that is not there
means that nobody is known, and one that cannot be read that the system failed. Only plain ids
name files.
-/

namespace CampusView.Fixtures

open Json Time

/-- A character of a plain id. -/
def isPlainChar (c : Char) : Bool := c.isAlphanum || c = '-' || c = '_'

/-- Letters and digits of ASCII, hyphens and underscores, and at least one. -/
def isPlain (uid : Uid) : Bool := !uid.text.isEmpty && uid.text.toList.all isPlainChar

/-- The longest name that a file may have. -/
def maxNameLength : Nat := 255

/-- The text of the file of a kind about somebody. -/
def readFile (folder : Folder) (kind : String) (uid : Uid) : Lookup String :=
  let name := uid.text ++ ".json"
  let path := kind ++ "/" ++ name
  if isPlain uid then
    match folder.entry? kind with
    | none => .notFound
    | some (.file _) => .errored (path ++ ": not a directory")
    | some .directory =>
      if maxNameLength < name.utf8ByteSize then .errored (path ++ ": name too long")
      else match folder.entry? path with
        | none => .notFound
        | some .directory => .errored (path ++ ": is a directory")
        | some (.file text) => .found text
  else .notFound

/-- What the file of a kind about somebody holds. -/
def readAs (α : Type) [Decode α] (folder : Folder) (kind : String) (uid : Uid) : Lookup α :=
  match readFile folder kind uid with
  | .found text =>
    match decodeText? text with
    | some value => .found value
    | none => .errored (kind ++ "/" ++ uid.text ++ ".json: malformed")
  | .notFound => .notFound
  | .errored details => .errored details

/-- The members of a file about a delegate. -/
structure DelegateFile where
  students : List DelegateStudent := []

instance : Decode DelegateFile :=
  let layout : Layout := [("students", Decode.shape (List DelegateStudent))]
  ⟨.record layout, fun v => do
    let r ← v.record? layout
    return { students := ← r.getD? "students" [] }⟩

/-- A record of the legacy system. It has to be an object. -/
structure LegacyFile where
  members : Members

instance : Decode LegacyFile := ⟨.any, fun v => v.members?.map LegacyFile.mk⟩

/-- The ids that the crosswalk knows. -/
def crosswalk (folder : Folder) (uid : Uid) : Lookup CorrelatedIds :=
  readAs CorrelatedIds folder "crosswalk" uid

/-- The legacy record. -/
def legacy (folder : Folder) (uid : Uid) : Lookup LegacyFile :=
  readAs LegacyFile folder "legacy" uid

/-- The student record. -/
def student (folder : Folder) (uid : Uid) : Lookup Value :=
  (readAs Value folder "modern" uid).map StudentRecord.unwrap

/-- What the campus systems answer at `now` out of a folder. -/
def campus (folder : Folder) (now : Instant) : Campus
  | .legacy, uid => (legacy folder uid).map fun r => LegacyRecord.bagAt r.members now
  | .modern, uid => (student folder uid).map fun r =>
      StudentRecord.bagOn r (crosswalk folder uid).found? now.date
  | .crosswalk, uid => crosswalk folder uid
  | .delegateStudents, uid => (readAs DelegateFile folder "delegates" uid).map DelegateFile.students
  | .userAuth, uid => readAs UserAuth folder "auth" uid
  | .courseHistory, uid => readAs CourseHistory folder "history" uid
  | .linkedAccounts, uid => readAs LinkedAccounts folder "accounts" uid
  | .academics, uid => readAs AcademicsFeed folder "academics" uid
  | .directory, uid => (legacy folder uid).mapFound fun r => LegacyRecord.directory? r.members
  | .recordAffiliations, uid => (student folder uid).map StudentRecord.affiliations

end CampusView.Fixtures
