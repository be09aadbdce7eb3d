import CampusView.Text.UpperTable

/-!
# Upper case

Codes of affiliations are compared in upper case. `upper` is Unicode's full upper-case mapping: a
letter may become several, as `ß` becomes `SS`, and characters without case stay as they are.
-/

namespace CampusView.Text

/-- The upper case of a character, which may be several characters. -/
def upperChars (c : Char) : List Char :=
  if c.toNat < 0x80 then [c.toUpper]
  else match upperExpansions.lookup c.toNat with
    | some codes => codes.map Char.ofNat
    | none =>
      match upperRuns.find? fun r =>
          r.first ≤ c.toNat && c.toNat ≤ r.last && (c.toNat - r.first) % r.step == 0 with
      | some r => [Char.ofNat ((c.toNat : Int) + r.shift).toNat]
      | none => [c]

/-- A text in upper case. -/
def upper (s : String) : String := String.ofList (s.toList.flatMap upperChars)

end CampusView.Text
