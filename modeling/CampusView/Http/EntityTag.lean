import CampusView.Text.Blank
import CampusView.Text.Split

/-!
# Entity tags

A client that holds a copy sends the tags of its copies along. `tagMatches` says whether the copy
is still current: whether the tag of the server is listed, weak or not, or the list has a star.
-/

namespace CampusView.Http

/-- The text without the marks `W/` of weak tags at its beginning. -/
def withoutWeakMarks : List Char → List Char
  | 'W' :: '/' :: cs => withoutWeakMarks cs
  | cs => cs

theorem withoutWeakMarks_suffix (cs : List Char) : withoutWeakMarks cs <:+ cs := by
  fun_induction withoutWeakMarks cs with
  | case1 cs ih => exact ih.trans (List.suffix_append ['W', '/'] cs)
  | case2 cs h => exact List.suffix_rfl

/-- A tag in quotes. -/
def quotedTag (hash : String) : String := "\"" ++ hash ++ "\""

/-- A list of tags with commas between them, as a client sends it, names the tag of the server. -/
def tagMatches (sent tag : String) : Bool :=
  (Text.splitOn ',' sent.toList).any fun piece =>
    let candidate := Text.trimChars piece
    candidate = ['*'] || withoutWeakMarks candidate = tag.toList

end CampusView.Http
