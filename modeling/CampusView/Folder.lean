import CampusView.Text.Split

/-!
# Folders

A folder holds files and directories by their paths, with a slash between the parts of a path.
Writing a file makes the directories above it.
-/

namespace CampusView

/-- What is found at a path. -/
inductive FolderEntry
  | file (text : String)
  | directory
deriving DecidableEq, Repr

/-- Files and directories by path. -/
structure Folder where
  /-- What is found at a path. -/
  entry? : String → Option FolderEntry

namespace Folder

/-- An empty folder. -/
def empty : Folder := ⟨fun _ => none⟩

instance : EmptyCollection Folder := ⟨empty⟩
instance : Inhabited Folder := ⟨empty⟩

/-- Put something at a path, or take away what is there. -/
def put (f : Folder) (path : String) (entry : Option FolderEntry) : Folder :=
  ⟨fun p => if p = path then entry else f.entry? p⟩

/-- The paths of the directories above a path. -/
def parents (path : String) : List String :=
  let parts := Text.splitOn '/' path.toList
  (List.range (parts.length - 1)).map fun n =>
    String.ofList (['/'].intercalate (parts.take (n + 1)))

/-- Put something at a path, with the directories above it. -/
def add (f : Folder) (path : String) (entry : FolderEntry) : Folder :=
  ((parents path).foldl (fun f p => f.put p (some .directory)) f).put path (some entry)

end Folder

end CampusView
