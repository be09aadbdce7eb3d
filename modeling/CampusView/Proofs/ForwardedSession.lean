import CampusView.Api
import CampusView.Proofs.Authorship
import CampusView.Proofs.Json.Members
import CampusView.Proofs.ViewClassification

/-!
# Sessions that the gateway hands on

The gateway hands on a session as header fields, and the fields of viewers say that somebody looks
at the site as somebody else. Of a field that comes several times the first one counts, and a value
that is no text is passed over.

* `id?_handedOn`: an id of the session is what its field says, without the blanks at its ends.
* `isDirect_handedOn_iff` says which header fields hand on the session of somebody who signed in as
  themselves.
* A viewer whose field counts and who is not the user is never lost on the way: nobody is direct,
  and whatever the request asks for, it writes user data only to delete a user, as an administrator
  (`viewer_kept`). A viewer whose field does not count may be lost (`viewer_lost`).
-/

namespace CampusView

open Http Json

/-! ### What the fields say -/

namespace Gateway

/-- The session that header fields hand on; an anonymous one if there is none. -/
def handedOn (headers : Headers) : SessionRecord := (session? headers).getD ⟨[]⟩

/-- The field of the user id. -/
def userField : String := "x-session-user-id"

/-- The fields of viewers, with the keys of their values. -/
def viewerFields : List (String × String) := [
  ("x-session-original-user-id", SessionKey.viewer),
  ("x-session-original-advisor-user-id", SessionKey.advisorViewer),
  ("x-session-original-delegate-user-id", SessionKey.delegateViewer)]

theorem mem_sessionFields_of_mem_viewerFields {f : String × String} (hf : f ∈ viewerFields) :
    f ∈ sessionFields := by
  simp only [viewerFields, sessionFields, List.mem_cons] at hf ⊢
  tauto

section

variable {headers : Headers}

theorem handedOn_eq (headers : Headers) : handedOn headers = ⟨entries headers⟩ := by
  rw [handedOn, session?]
  cases entries headers <;> rfl

theorem fieldText?_eq_some_iff {name v : String} :
    fieldText? headers name = some v ↔
      ∃ t, headers.text? name = some t ∧ Text.isBlankText t = false ∧ Text.trim t = v := by
  simp [fieldText?, Option.map_eq_some_iff, Option.filter_eq_some_iff, and_assoc]

theorem lookup_entries {f : String × String} (hf : f ∈ sessionFields) :
    (entries headers).lookup f.2 = (fieldText? headers f.1).map Value.string := by
  rw [← Members.lookup_filterMap (fun name => (fieldText? headers name).map Value.string)
    (by decide : (sessionFields.map Prod.snd).Nodup) hf]
  simp only [entries, Option.map_map]
  rfl

/-- An id of the session is what its field says. -/
theorem id?_handedOn {f : String × String} (hf : f ∈ sessionFields) :
    (handedOn headers).id? f.2 = (fieldText? headers f.1).map Uid.mk := by
  rw [handedOn_eq, SessionRecord.id?, SessionRecord.get?, lookup_entries hf]
  cases hv : fieldText? headers f.1 with
  | none => rfl
  | some v =>
    obtain ⟨t, -, hblank, rfl⟩ := fieldText?_eq_some_iff.1 hv
    simp [hblank]

/-- The viewers of the session are those whose fields say who they are. -/
theorem mem_viewers_handedOn {v : Uid} :
    v ∈ (Authentication.ofSession (handedOn headers)).viewers ↔
      ∃ f ∈ viewerFields, fieldText? headers f.1 = some v.text := by
  have hid : ∀ f ∈ viewerFields, (handedOn headers).id? f.2 = some v ↔
      fieldText? headers f.1 = some v.text := by
    intro f hf
    rw [id?_handedOn (mem_sessionFields_of_mem_viewerFields hf)]
    cases v
    simp [Option.map_eq_some_iff]
  have hviewers : v ∈ (Authentication.ofSession (handedOn headers)).viewers ↔
      ∃ f ∈ viewerFields, (handedOn headers).id? f.2 = some v := by
    simp [Authentication.viewers, Authentication.ofSession, viewerFields, @eq_comm _ (some v)]
  rw [hviewers]
  exact exists_congr fun f => and_congr_right (hid f)

/-- Somebody signed in as themselves exactly if the field of the user id counts, the session is not
only vouched for by the learning system, and no field of a viewer that counts says anything else. -/
theorem isDirect_handedOn_iff :
    (Authentication.ofSession (handedOn headers)).isDirect = true ↔
      ∃ user, fieldText? headers userField = some user ∧
        (handedOn headers).flag SessionKey.ltiOnly = false ∧
        ∀ f ∈ viewerFields, ∀ v, fieldText? headers f.1 = some v → v = user := by
  have huser : (Authentication.ofSession (handedOn headers)).userId =
      (fieldText? headers userField).map Uid.mk :=
    id?_handedOn (by decide : (userField, SessionKey.userId) ∈ sessionFields)
  rw [Authentication.isDirect_iff, huser]
  constructor
  · rintro ⟨uid, huid, hlti, hviewers⟩
    obtain ⟨user, hfield, rfl⟩ := Option.map_eq_some_iff.1 huid
    refine ⟨user, hfield, hlti, fun f hf v hv => ?_⟩
    exact congrArg Uid.text (hviewers ⟨v⟩ (mem_viewers_handedOn.2 ⟨f, hf, hv⟩))
  · rintro ⟨user, hfield, hlti, hviewers⟩
    refine ⟨⟨user⟩, by rw [hfield]; rfl, hlti, fun v hv => ?_⟩
    obtain ⟨f, hf, hv⟩ := mem_viewers_handedOn.1 hv
    rw [← hviewers f hf v.text hv]

end

/-! ### Fields that name somebody else -/

/-- The value is not blank, and differs from the user id by more than blanks at its ends. -/
def NamesOther (headers : Headers) (value : String) : Prop :=
  Text.isBlankText value = false ∧
    (headers.value? userField).map Text.trim ≠ some (Text.trim value)

instance (headers : Headers) (value : String) : Decidable (NamesOther headers value) :=
  inferInstanceAs (Decidable (_ ∧ _))

/-- A field of a viewer names somebody else, in any of its occurrences. -/
def MentionsOther (headers : Headers) : Prop :=
  ∃ f ∈ viewerFields, ∃ field ∈ headers.fields, field.1 = f.1 ∧ NamesOther headers field.2

instance (headers : Headers) : Decidable (MentionsOther headers) :=
  inferInstanceAs (Decidable (∃ f ∈ viewerFields, _))

/-- A field of a viewer counts and names somebody else: its first value is a text. -/
def ShowsOther (headers : Headers) : Prop :=
  ∃ f ∈ viewerFields, ∃ value ∈ headers.text? f.1, NamesOther headers value

instance (headers : Headers) : Decidable (ShowsOther headers) :=
  inferInstanceAs (Decidable (∃ f ∈ viewerFields, _))

theorem not_isDirect_of_showsOther {headers : Headers} (h : ShowsOther headers) :
    (Authentication.ofSession (handedOn headers)).isDirect = false := by
  obtain ⟨f, hf, value, htext, hblank, hother⟩ := h
  rw [Bool.eq_false_iff]
  intro hdirect
  obtain ⟨user, huser, -, hviewers⟩ := isDirect_handedOn_iff.1 hdirect
  obtain ⟨t, ht, -, rfl⟩ := fieldText?_eq_some_iff.1 huser
  have hvalue : headers.value? userField = some t := (Option.filter_eq_some_iff.1 ht).1
  have hsame := hviewers f hf _ (fieldText?_eq_some_iff.2 ⟨value, htext, hblank, rfl⟩)
  rw [hvalue, hsame] at hother
  exact hother rfl

end Gateway

/-! ### What such a request does -/

/-- The endpoint writes the data of the user of a request. -/
def Endpoint.writesUserData : Endpoint → Bool
  | preferredName | firstLogin => true
  | _ => false

/-- The request asks to delete a user. -/
def Request.AsksToDelete (r : Request) (uid : Uid) : Prop :=
  ∃ segment, Endpoint.ofPath? r.path = some (.user segment) ∧
    percentDecoded? segment = some uid.text

theorem Response.status_of_isRefusal {e : ServiceError} (h : e.isRefusal = true) :
    400 ≤ e.status := by
  cases e with
  | unauthenticated => decide
  | forbidden refusal => exact (by decide : 400 ≤ 403)
  | store fault => cases h

section

variable (settings : Settings) {session : SessionRecord} {r : Request}

/-- Only somebody who signed in as themselves can turn out to be held. -/
theorem authenticate_of_not_isDirect
    (h : (Authentication.ofSession session).isDirect = false) :
    authenticate settings session = pure { auth := .ofSession session } := by
  unfold authenticate
  dsimp only
  cases (Authentication.ofSession session).userId with
  | none => rfl
  | some uid => rw [h]; rfl

theorem writer_of_not_isDirect {auth : Authentication} (h : auth.isDirect = false) :
    ∃ e, writer auth = .error e ∧ e.isRefusal = true := by
  cases hwriter : writer auth with
  | ok uid =>
    rw [(writer_eq_ok_iff.1 hwriter).2] at h
    cases h
  | error e => exact ⟨e, rfl, isRefusal_of_writer hwriter⟩

/-- A body is refused for its type, its size, its text or its shape. -/
theorem nameOfBody_eq_error {status : Nat} (h : nameOfBody r = .error status) :
    status = 415 ∨ status = 413 ∨ status = 400 ∨ status = 422 := by
  unfold nameOfBody at h
  dsimp only at h
  split at h
  · cases h; decide
  · split at h
    · cases h; decide
    · split at h
      · cases h; decide
      · cases h; decide
      · split at h
        · cases h
        · cases h; decide

theorem status_of_nameOfBody {status : Nat} (h : nameOfBody r = .error status) :
    400 ≤ status := by
  rcases nameOfBody_eq_error h with rfl | rfl | rfl | rfl <;> decide

/-- A request that is not of somebody who signed in as themselves is refused before anything is
done, where it would write the data of its user. -/
theorem answer_of_not_isDirect (h : (Authentication.ofSession r.session).isDirect = false)
    {e : Endpoint} (he : e.writesUserData = true) :
    ∃ response, answer settings r e = pure response ∧ 400 ≤ response.status := by
  obtain ⟨error, hwriter, herror⟩ := writer_of_not_isDirect h
  have hauth := authenticate_of_not_isDirect settings h
  have hstatus := Response.status_of_isRefusal herror
  cases e with
  | firstLogin =>
    refine ⟨.of (.error error), ?_, hstatus⟩
    simp only [answer, hauth, pure_bind, recordFirstLogin, hwriter]
    rfl
  | preferredName =>
    cases hname : nameOfBody r with
    | error status =>
      refine ⟨.bare status, ?_, status_of_nameOfBody hname⟩
      simp only [answer, answerPreferredName, hname]
    | ok name =>
      refine ⟨.of (.error error), ?_, hstatus⟩
      simp only [answer, answerPreferredName, hname, hauth, pure_bind, setPreferredName, hwriter]
      rfl
  | _ => cases he

/-- The other endpoints only read, but for the one that deletes a user. -/
theorem silent_answer {e : Endpoint} (hwrites : e.writesUserData = false)
    (huser : ∀ segment, e ≠ .user segment) : (answer settings r e).Silent fun _ => True := by
  have hauth := silent_authenticate settings r.session
  cases e with
  | preferredName => cases hwrites
  | firstLogin => cases hwrites
  | user segment => exact absurd rfl (huser segment)
  | status =>
    refine hauth.bind fun ctx _ => (silent_statusFeed settings ctx).bind fun shown _ => ?_
    obtain ⟨result, ctx'⟩ := shown
    cases result with
    | error e => trivial
    | ok feed =>
      dsimp only
      split <;> trivial
  | academics =>
    exact hauth.bind fun ctx _ => (silent_academicsFeed settings ctx).bind fun _ _ => trivial
  | delegateStudents =>
    exact hauth.bind fun ctx _ =>
      (silent_delegateStudents settings ctx.auth).bind fun _ _ => trivial

/-- A user is deleted after asking for the authority of an administrator. -/
theorem restrained_answerDelete (u : Conduct)
    (h : (Authentication.ofSession r.session).isDirect = false) (segment : String) :
    (answerDelete settings r segment).Restrained u
      (fun past uid => percentDecoded? segment = some uid.text ∧
        Administers settings u (.ofSession r.session) past)
      (fun _ _ => True) [] := by
  unfold answerDelete
  cases hdecoded : percentDecoded? segment with
  | none => trivial
  | some target =>
    dsimp only
    rw [authenticate_of_not_isDirect settings h, pure_bind]
    have hdelete := @restrained_deleteUser settings u r.session { auth := .ofSession r.session }
      ⟨target⟩
    refine (hdelete.mono_allowed ?_).bind fun _ _ _ => trivial
    rintro past uid (_ | _ | hadministers)
    exact ⟨rfl, hadministers⟩

/-- A request that is not of somebody who signed in as themselves writes user data only to delete a
user, as an administrator, and is refused where it would write the data of its own user. -/
theorem restrained_handle_of_not_isDirect (u : Conduct)
    (h : (Authentication.ofSession r.session).isDirect = false) :
    (handle settings r).Restrained u
      (fun past uid => r.AsksToDelete uid ∧ Administers settings u (.ofSession r.session) past)
      (fun _ response =>
        (Endpoint.ofPath? r.path).any Endpoint.writesUserData = true → 400 ≤ response.status)
      [] := by
  unfold handle
  cases hendpoint : Endpoint.ofPath? r.path with
  | none => exact fun h => nomatch h
  | some e =>
    dsimp only
    split
    · cases hwrites : e.writesUserData with
      | true =>
        obtain ⟨response, hresponse, hstatus⟩ := answer_of_not_isDirect settings h hwrites
        rw [hresponse, pure_bind]
        intro _
        split <;> exact hstatus
      | false =>
        have hanswer : (answer settings r e).Restrained u
            (fun past uid => r.AsksToDelete uid ∧
              Administers settings u (.ofSession r.session) past) (fun _ _ => True) [] := by
          -- a deletion is restrained by what was asked for, and all that is left is silent
          by_cases huser : ∃ segment, e = .user segment
          · obtain ⟨segment, rfl⟩ := huser
            refine (restrained_answerDelete settings u h segment).mono_allowed ?_
            rintro past uid ⟨hdecoded, hadministers⟩
            exact ⟨⟨segment, hendpoint, hdecoded⟩, hadministers⟩
          · have hsilent : (answer settings r e).Silent fun _ => True :=
              silent_answer settings hwrites fun segment he => huser ⟨segment, he⟩
            exact (hsilent.restrained u _ []).mono fun _ _ _ => trivial
        refine hanswer.bind fun past response _ => ?_
        intro hany
        rw [Option.any_some, hwrites] at hany
        cases hany
    · exact fun _ => (by decide : 400 ≤ 405)

end

/-! ### Viewers that are kept, and viewers that are lost -/

open Gateway

/-- **A viewer whose field counts is never lost.** If the first value of a viewer's field is a text
and names somebody else than the user, then nobody is direct, neither in the session that the
gateway hands on nor in the request that is opened for it. However the campus systems behave and
whatever others do meanwhile, a request with these fields writes user data only to delete a user,
after it learned that the viewer who counts is an active superuser. Where it would write the data of
its own user it is refused. -/
theorem viewer_kept (headers : Headers) (h : ShowsOther headers) :
    (Authentication.ofSession (handedOn headers)).isDirect = false ∧
      ∀ (settings : Settings) (u : Conduct) (r : Request), r.headers = headers →
        (authenticate settings r.session).Silent (fun ctx => ctx.auth.isDirect = false) ∧
          (handle settings r).Restrained u
            (fun past uid => r.AsksToDelete uid ∧
              Administers settings u (.ofSession (handedOn headers)) past)
            (fun _ response => (Endpoint.ofPath? r.path).any Endpoint.writesUserData = true →
              400 ≤ response.status) [] := by
  have hdirect := not_isDirect_of_showsOther h
  refine ⟨hdirect, ?_⟩
  rintro settings u r rfl
  refine ⟨?_, restrained_handle_of_not_isDirect settings u hdirect⟩
  have hopened : authenticate settings r.session = pure { auth := .ofSession r.session } :=
    authenticate_of_not_isDirect settings hdirect
  rw [hopened]
  exact hdirect

/-- The request to keep the first login that comes with these fields. -/
def firstLoginRequest (headers : Headers) : Request :=
  { method := "POST", path := "/my/record_first_login", headers, body := .empty }

/-- The fields of an advisor's view, with blanks around the id and with a second value. -/
def advisorFields : Headers := ⟨[
  ("x-session-user-id", "61889"),
  ("x-session-original-advisor-user-id", " 2040 "),
  ("x-session-original-advisor-user-id", "61889")]⟩

/-- The advisor is kept, and cannot keep the first login of the user. -/
theorem viewer_kept_advisor :
    ShowsOther advisorFields ∧
      (Authentication.ofSession (handedOn advisorFields)).isDirect = false ∧
      (handle {} (firstLoginRequest advisorFields)).Restrained (.steady ∅ fun _ => 0)
        (fun past uid => (firstLoginRequest advisorFields).AsksToDelete uid ∧
          Administers {} (.steady ∅ fun _ => 0) (.ofSession (handedOn advisorFields)) past)
        (fun _ response => 400 ≤ response.status) [] := by
  have h : ShowsOther advisorFields := by decide
  obtain ⟨hdirect, hrequest⟩ := viewer_kept advisorFields h
  obtain ⟨-, hhandle⟩ := hrequest {} (.steady ∅ fun _ => 0) (firstLoginRequest advisorFields) rfl
  exact ⟨h, hdirect, hhandle.mono fun _ response hresponse => hresponse (by decide)⟩

/-- A viewer's field whose first value is blank. -/
def repeatedField : Headers := ⟨[
  ("x-session-user-id", "61889"),
  ("x-session-original-user-id", ""),
  ("x-session-original-user-id", "2040")]⟩

/-- A viewer's field whose value has a character beyond ASCII. -/
def foreignField : Headers := ⟨[
  ("x-session-user-id", "61889"),
  ("x-session-original-user-id", "2040\u00e9")]⟩

/-- The fields of an administrator's view. -/
def administratorFields : Headers := ⟨[
  ("x-session-user-id", "61889"),
  ("x-session-original-user-id", "2040")]⟩

/-- The fields can come with a request, one of a viewer mentions somebody else, and still the
request is one of the user, which writes their data. -/
def LosesViewer (headers : Headers) : Prop :=
  (Headers.ofList? headers.fields).map Headers.fields = some headers.fields ∧
    MentionsOther headers ∧ (Authentication.ofSession (handedOn headers)).isDirect = true ∧
      ((handle {} (firstLoginRequest headers)).run (Site.prompt ∅)).2.store.row? ⟨"61889"⟩ ≠ none

/-- The request of an administrator who views the site as a user, to delete that user. -/
def deleteRequest : Request :=
  { method := "DELETE"
    path := "/admin/users/61889"
    headers := administratorFields
    body := .empty }

/-- A site that keeps data of the user, and knows of the administrator. -/
def administeredSite : Site :=
  let campus := (∅ : Campus).set .userAuth ⟨"2040"⟩ (.found { isSuperuser := true, active := true })
  { Site.prompt campus with store := (∅ : Store).put ⟨"61889"⟩ (some {}) }

/-- Only the first value of a field counts, and only if it is a text. An administrator deletes the
user as whom they view the site. -/
theorem viewer_lost :
    LosesViewer repeatedField ∧ LosesViewer foreignField ∧
      MentionsOther administratorFields ∧
      administeredSite.store.row? ⟨"61889"⟩ ≠ none ∧
      ((handle {} deleteRequest).run administeredSite).2.store.row? ⟨"61889"⟩ = none := by
  have hdeleted :
      ((handle {} deleteRequest).run administeredSite).2.store.row? ⟨"61889"⟩ = none := by
    -- the bytes of the id in the path are only evaluated by the kernel
    decide +kernel
  refine ⟨⟨?_, ?_, ?_, ?_⟩, ⟨?_, ?_, ?_, ?_⟩, ?_, ?_, hdeleted⟩
  all_goals decide

end CampusView
