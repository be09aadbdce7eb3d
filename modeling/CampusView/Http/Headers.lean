import CampusView.Text.Split

/-!
# Header fields

`Headers.ofList?` takes the fields of a request as they come and refuses malformed ones. The case
of a name does not matter, and names are kept in lower case. A field may come several times; then
the first one counts.

A value may hold characters beyond ASCII, but `text?` gives only values of visible characters,
blanks and tabs.
-/

namespace CampusView.Http

/-- A character of a token, such as a method, the name of a field or a part of a media type. -/
def isTokenChar (c : Char) : Bool := c.isAlphanum || "!#$%&'*+-.^_`|~".toList.contains c

/-- A token has at least one character. -/
def isToken (s : String) : Bool := !s.isEmpty && s.toList.all isTokenChar

/-- A character of a value: no control character but the tab. -/
def isValueChar (c : Char) : Bool := c = '\t' || (' ' ≤ c && c ≠ '\x7f')

/-- A character of a value that is a text: a visible one of ASCII, a blank or a tab. -/
def isTextChar (c : Char) : Bool := c = '\t' || (' ' ≤ c && c ≤ '~')

/-- The header fields of a request. -/
structure Headers where
  /-- Names in lower case with their values, in the order in which they came. -/
  fields : List (String × String)

namespace Headers

/-- Header fields as they come. None if one of them is malformed. -/
def ofList? (fields : List (String × String)) : Option Headers :=
  if fields.all fun f => isToken f.1 && f.2.toList.all isValueChar then
    some ⟨fields.map fun f => (Text.lowerAscii f.1, f.2)⟩
  else none

/-- The value of the first field of that name. -/
def value? (h : Headers) (name : String) : Option String := h.fields.lookup name

/-- The value of the first field of that name, if it is a text. -/
def text? (h : Headers) (name : String) : Option String :=
  (h.value? name).filter fun v => v.toList.all isTextChar

end Headers

end CampusView.Http
