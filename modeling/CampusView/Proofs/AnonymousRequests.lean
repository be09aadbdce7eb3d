import CampusView.Proofs.ForwardedSession

/-!
# Requests of nobody

A request for which nobody is signed in is refused with 401 at every endpoint that answers for its
own user, once it comes to the question who is signed in (`answer_of_anonymous`). A body is read
before that, so a request with a body that is refused, for its type, size, text or shape, never
comes to it (`anonymous_refused_iff`).
-/

namespace CampusView

open Json Http

section

variable {settings : Settings} {u : Conduct} {w : Site} {r : Request} {session : SessionRecord}
  {e : Endpoint} {ctx : Context}

/-- The response to somebody who is not signed in. -/
def Response.unauthenticated : Response := .of (.error .unauthenticated)

/-- The endpoint takes the body of the request. -/
def Endpoint.TakesBody (e : Endpoint) (r : Request) : Prop :=
  e = .preferredName → ∃ name, nameOfBody r = .ok name

/-- An endpoint that answers for its own user opens a request, and refuses it if nobody is signed
in. -/
theorem answer_of_anonymous (hown : ∀ segment, e ≠ .user segment) (hbody : e.TakesBody r) :
    ∃ respond : Context → Program Response,
      answer settings r e session = authenticate settings session >>= respond ∧
        ∀ ctx, ctx.auth.userId = none → respond ctx = pure .unauthenticated := by
  have hsubject : ∀ ctx : Context, ctx.auth.userId = none →
      subject ctx.auth = .error .unauthenticated := fun ctx h => subject_eq_error_iff.2 ⟨h, rfl⟩
  cases e with
  | status =>
    refine ⟨_, rfl, fun ctx h => ?_⟩
    simp only [statusFeed, hsubject ctx h]
    rfl
  | preferredName =>
    obtain ⟨name, hname⟩ := hbody rfl
    refine ⟨fun ctx => do return .of ((← setPreferredName ctx.auth name).map encode),
      by simp only [answer, answerPreferredName, hname], fun ctx h => ?_⟩
    simp only [setPreferredName, writer, hsubject ctx h]
    rfl
  | firstLogin =>
    refine ⟨_, rfl, fun ctx h => ?_⟩
    simp only [recordFirstLogin, writer, hsubject ctx h]
    rfl
  | academics =>
    refine ⟨_, rfl, fun ctx h => ?_⟩
    simp only [academicsFeed, hsubject ctx h]
    rfl
  | delegateStudents =>
    refine ⟨_, rfl, fun ctx h => ?_⟩
    simp only [delegateStudents, hsubject ctx h]
    rfl
  | user segment => exact absurd rfl (hown segment)

/-- An endpoint that does not take the body refuses it, and does nothing else. -/
theorem answer_of_not_takesBody (h : ¬e.TakesBody r) :
    ∃ status ≠ 401, answer settings r e session = pure (.bare status) := by
  obtain ⟨rfl, hname⟩ : e = .preferredName ∧ ¬∃ name, nameOfBody r = .ok name :=
    Classical.not_imp.1 h
  cases hread : nameOfBody r with
  | ok name => exact absurd ⟨name, hread⟩ hname
  | error status =>
    refine ⟨status, ?_, by simp only [answer, answerPreferredName, hread]⟩
    have hrefused := nameOfBody_eq_error hread
    omega

/-- A request for the head alone is answered with the same status, and does the same. -/
theorem runUnder_handle (hendpoint : Endpoint.ofPath? r.path = some e)
    (htakes : e.takes r.method = true) :
    ((handle settings r session).runUnder u w).1.status =
        ((answer settings r e session).runUnder u w).1.status ∧
      ((handle settings r session).runUnder u w).2 =
        ((answer settings r e session).runUnder u w).2 := by
  simp only [handle, hendpoint, if_pos htakes, Program.runUnder_bind]
  split <;> exact ⟨rfl, rfl⟩

/-- **A request of nobody is refused with 401**, unless its body is refused before: whoever is not
signed in, since the session has no id or since they are a held applicant, leaves the store as it
was at every endpoint that answers for its own user. -/
theorem anonymous_refused_iff (hendpoint : Endpoint.ofPath? r.path = some e)
    (hown : ∀ segment, e ≠ .user segment) (htakes : e.takes r.method = true)
    (hanonymous : ((authenticate settings session).runUnder u w).1.auth.userId = none) :
    ((handle settings r session).runUnder u w).2.store = w.store ∧
      (((handle settings r session).runUnder u w).1.status = 401 ↔
        (e = .preferredName → ∃ name, nameOfBody r = .ok name)) := by
  obtain ⟨hstatus, hafter⟩ := @runUnder_handle settings u w r session e hendpoint htakes
  rw [hstatus, hafter]
  by_cases hbody : e.TakesBody r
  · obtain ⟨respond, hanswer, hrespond⟩ := @answer_of_anonymous settings r session e hown hbody
    rw [hanswer, Program.runUnder_bind, hrespond _ hanonymous]
    exact ⟨(silent_authenticate settings session).store u w, fun _ => hbody, fun _ => rfl⟩
  · obtain ⟨status, hne, hanswer⟩ := @answer_of_not_takesBody settings r session e hbody
    rw [hanswer]
    exact ⟨rfl, fun h => absurd h hne, fun h => absurd h hbody⟩

end

/-- A session whose id is no scalar. -/
def listedSession : SessionRecord := ⟨[(SessionKey.userId, .array [.string "61889"])]⟩

/-- A request to change the preferred name. -/
def nameRequest (headers : Headers) (body : String) : Request :=
  { method := "POST", path := "/my/preferred_name", headers, body := body.toUTF8 }

/-- A request with a body that can be read. -/
def namedRequest : Request :=
  nameRequest ⟨[("content-type", "application/json")]⟩ "\x7b\"preferredName\":\"Oski\"\x7d"

/-- The name of nobody is not changed. -/
theorem anonymous_refused_iff_listed :
    let response := (handle {} namedRequest listedSession).runUnder .silent (Site.prompt ∅)
    response.2.store = ∅ ∧ response.1.status = 401 := by
  have hname : nameOfBody namedRequest = .ok "Oski" := by
    simp only [nameOfBody, namedRequest, nameRequest, textOfBytes_toUTF8]
    rfl
  obtain ⟨hstore, hstatus⟩ := @anonymous_refused_iff {} .silent (Site.prompt ∅) namedRequest
    listedSession .preferredName (by decide) nofun (by decide) rfl
  exact ⟨hstore, hstatus.2 fun _ => ⟨"Oski", hname⟩⟩

/-- A request without a body is refused for its type before anybody asks who is signed in. -/
theorem anonymous_refused_otherwise :
    (nameRequest ⟨[]⟩ "").session.entries = [] ∧
      Endpoint.ofPath? (nameRequest ⟨[]⟩ "").path = some .preferredName ∧
      Endpoint.preferredName.takes (nameRequest ⟨[]⟩ "").method = true ∧
      ((authenticate {} (nameRequest ⟨[]⟩ "").session).runUnder .silent
        (Site.prompt ∅)).1.auth.userId = none ∧
      ((handle {} (nameRequest ⟨[]⟩ "")).runUnder .silent (Site.prompt ∅)).1.status = 415 := by
  refine ⟨by decide, by decide, by decide, by decide, by decide⟩

end CampusView
