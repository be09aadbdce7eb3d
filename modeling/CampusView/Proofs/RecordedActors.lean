import CampusView.Proofs.Authorship
import CampusView.Proofs.ViewIsolation

/-!
# Who is named in the records

Two rules read the same fields of a session: `authority?` says whose authority governs a request,
and `realUserId?` who is named in the records, such as the log of deletions (`deleteUserLogged`).
Both look for a viewer first. After that `realUserId?` looks for a Canvas id, and only then asks who
vouches for the user; `authority?` does not look at Canvas ids.

* `authority?_eq_user` and `authority?_eq_everybody` say whose authority it can be.
* `recorded_by_authority`: the records name the user whose authority is used, also in the log of a
  deletion. The one exception is a user without a viewer who masquerades in Canvas, though more than
  the learning system vouches for them (`vouchedMasquerade?`). There the records name the Canvas id.
-/

namespace CampusView

namespace Authentication

/-- The LTI marker, with the Canvas id of somebody who masquerades. -/
def ltiName : Option Uid → String
  | none => ltiMarker
  | some canvas => ltiMarker ++ ": masquerading Canvas ID " ++ canvas.text

/-- The Canvas id of somebody who masquerades without a viewer, though more than the learning system
vouches for the user. -/
def vouchedMasquerade? (a : Authentication) : Option Uid :=
  if a.firstViewer?.isNone && !a.ltiOnly then a.canvasMasquerade else none

/-- The name is that of the user, or of the vouched masquerade of that user. -/
def RecordsAs (a : Authentication) (uid : Uid) (name : String) : Prop :=
  match a.vouchedMasquerade? with
  | none => name = uid.text
  | some canvas => a.userId = some uid ∧ name = ltiName (some canvas)

section

variable {a : Authentication} {uid : Uid}

/-- The authority of a user is used if it is the viewer who counts, or if there is no viewer and
more than the learning system vouches for the user who signed in. -/
theorem authority?_eq_user (h : a.authority? = some (.user uid)) :
    (∃ user, a.userId = some user ∧ a.firstViewer? = some uid) ∨
      a.userId = some uid ∧ a.firstViewer? = none ∧ a.ltiOnly = false := by
  cases huser : a.userId with
  | none => simp [authority?, huser] at h
  | some user =>
    cases hviewer : a.firstViewer? with
    | some viewer =>
      obtain rfl : viewer = uid := by simpa [authority?, huser, hviewer] using h
      exact .inl ⟨user, rfl, rfl⟩
    | none =>
      cases hlti : a.ltiOnly with
      | true => simp [authority?, huser, hviewer, hlti] at h
      | false =>
        obtain rfl : user = uid := by simpa [authority?, huser, hviewer, hlti] using h
        exact .inr ⟨rfl, rfl, rfl⟩

/-- What everybody may do is used for users without a viewer for whom only the learning system
vouches. -/
theorem authority?_eq_everybody (h : a.authority? = some .everybody) :
    ∃ user, a.userId = some user ∧ a.firstViewer? = none ∧ a.ltiOnly = true := by
  cases huser : a.userId with
  | none => simp [authority?, huser] at h
  | some user =>
    cases hviewer : a.firstViewer? with
    | some viewer => simp [authority?, huser, hviewer] at h
    | none => exact ⟨user, rfl, rfl, by simpa [authority?, huser, hviewer] using h⟩

theorem realUserId?_of_user (h : a.authority? = some (.user uid)) :
    ∃ name, a.realUserId? = some name ∧ a.RecordsAs uid name := by
  rcases authority?_eq_user h with ⟨user, huser, hviewer⟩ | ⟨huser, hviewer, hlti⟩
  · have hvouched : a.vouchedMasquerade? = none := by simp [vouchedMasquerade?, hviewer]
    exact ⟨uid.text, by simp [realUserId?, huser, hviewer], by simp [RecordsAs, hvouched]⟩
  · have hvouched : a.vouchedMasquerade? = a.canvasMasquerade := by
      simp [vouchedMasquerade?, hviewer, hlti]
    cases hcanvas : a.canvasMasquerade with
    | none =>
      exact ⟨uid.text, by simp [realUserId?, huser, hviewer, hcanvas, hlti],
        by simp [RecordsAs, hvouched, hcanvas]⟩
    | some canvas =>
      exact ⟨ltiName (some canvas), by simp [realUserId?, huser, hviewer, hcanvas, ltiName],
        by simp [RecordsAs, hvouched, hcanvas, huser]⟩

theorem realUserId?_of_everybody (h : a.authority? = some .everybody) :
    a.realUserId? = some (ltiName a.canvasMasquerade) := by
  obtain ⟨user, huser, hviewer, hlti⟩ := authority?_eq_everybody h
  cases hcanvas : a.canvasMasquerade <;>
    simp [realUserId?, huser, hviewer, hcanvas, hlti, ltiName]

/-- Where nobody's authority is used, nobody is signed in. -/
theorem realUserId?_of_nobody (h : a.authority? = none) : a.realUserId? = none := by
  cases huser : a.userId with
  | none => simp [realUserId?, huser]
  | some user =>
    obtain ⟨authority, hauthority⟩ := exists_authority? (a := a) (by simp [huser])
    simp [h] at hauthority

end

end Authentication

/-! ### The log of deletions -/

/-- A line of the log: whose data is removed, and who is named for it. -/
structure Removal where
  target : Uid
  actor : String
deriving DecidableEq, Repr

/-- `deleteUser`, together with the line that is logged before the data is removed. -/
def deleteUserLogged (settings : Settings) (auth : Authentication) (target : Uid) :
    Program (Except ServiceError Bool × Option Removal) :=
  match subject auth with
  | .error e => return (.error e, none)
  | .ok _ => do
    let actor ← Program.perform (.inquire settings.timeout (askAuthority auth))
    if actor.found?.any UserAuth.canAdministrate then
      let line : Removal := { target, actor := auth.realUserId?.getD "" }
      let deleted ← Program.perform (.deleteUser target)
      Program.perform (.invalidate (Cache.Key.user target))
      Program.perform (.invalidate (Cache.Key.stamps target))
      return (.ok deleted, some line)
    else return (.error (.forbidden .notAdministrator), none)

section

variable {settings : Settings} {auth : Authentication} {target : Uid}

/-- The log changes nothing about a deletion. -/
theorem fst_deleteUserLogged :
    Prod.fst <$> deleteUserLogged settings auth target = deleteUser settings auth target := by
  unfold deleteUserLogged deleteUser
  cases subject auth with
  | error e => rfl
  | ok user =>
    rw [map_bind]
    refine bind_congr fun actor => ?_
    split <;> rfl

/-- A deletion is refused and not logged, or it is logged after the one call that was made told of
an active superuser, whose authority governs the request. -/
theorem runUnder_deleteUserLogged (u : Conduct) (w : Site) :
    let r := (deleteUserLogged settings auth target).runUnder u w
    ((∃ e, r.1.1 = .error e) ∧ r.1.2 = none) ∨
      (∃ deleted, r.1.1 = .ok deleted) ∧
        r.1.2 = some { target, actor := auth.realUserId?.getD "" } ∧
        ∃ uid rights, auth.authority? = some (.user uid) ∧
          r.2.calls = w.calls ++ [⟨.userAuth, uid⟩] ∧
          u.answers settings.timeout w.calls.length .userAuth uid = .found rights ∧
          rights.active = true ∧ rights.isSuperuser = true := by
  intro r
  cases hsubject : subject auth with
  | error e =>
    have hr : r = ((.error e, none), w) := by
      simp only [r, deleteUserLogged, hsubject, Program.runUnder_pure]
    exact .inl ⟨⟨e, by rw [hr]⟩, by rw [hr]⟩
  | ok user =>
    simp only [r, deleteUserLogged, hsubject]
    rw [Program.runUnder_bind]
    split
    · rename_i hcan
      obtain ⟨uid, rights, hauthority, hask, hrights⟩ :=
        @ask_of_canAdministrate auth (w.meets u settings.timeout) hcan
      rw [hask]
      exact .inr ⟨⟨_, rfl⟩, rfl, uid, rights, hauthority, rfl, hrights⟩
    · exact .inl ⟨⟨_, rfl⟩, rfl⟩

end

/-! ### Who is recorded -/

open Authentication

/-- **The records name the user whose authority is used**, unless the user has no viewer and
masquerades in Canvas, though more than the learning system vouches for them. Then they name the
Canvas id. Where it is everybody's authority they hold the LTI marker, and where it is nobody's they
name nobody. So a deletion is logged exactly if it is carried out, and the line names the user whose
record authorised it, with the same exception. -/
theorem recorded_by_authority (a : Authentication) :
    (∀ uid, a.authority? = some (.user uid) →
        ∃ name, a.realUserId? = some name ∧ a.RecordsAs uid name) ∧
      (a.authority? = some .everybody → a.realUserId? = some (ltiName a.canvasMasquerade)) ∧
      (a.authority? = none → a.realUserId? = none) ∧
      ∀ (settings : Settings) (u : Conduct) (w : Site) (target : Uid),
        let r := (deleteUserLogged settings a target).runUnder u w
        (deleteUser settings a target).runUnder u w = (r.1.1, r.2) ∧
          r.1.2.isSome = r.1.1.isOk ∧
          ∀ line ∈ r.1.2, line.target = target ∧
            ∃ uid rights, a.authority? = some (.user uid) ∧
              r.2.calls = w.calls ++ [⟨.userAuth, uid⟩] ∧
              u.answers settings.timeout w.calls.length .userAuth uid = .found rights ∧
              rights.active = true ∧ rights.isSuperuser = true ∧ a.RecordsAs uid line.actor := by
  refine ⟨fun uid => realUserId?_of_user, realUserId?_of_everybody, realUserId?_of_nobody, ?_⟩
  intro settings u w target r
  refine ⟨by rw [← fst_deleteUserLogged, Program.runUnder_map], ?_⟩
  rcases @runUnder_deleteUserLogged settings a target u w with
    ⟨⟨e, hrefused⟩, hsilent⟩ | ⟨⟨deleted, hdeleted⟩, hlogged, uid, rights, hauthority, hrights⟩
  · refine ⟨by rw [hsilent, hrefused]; rfl, ?_⟩
    rw [hsilent]
    rintro line ⟨⟩
  · refine ⟨by rw [hlogged, hdeleted]; rfl, ?_⟩
    rw [hlogged]
    rintro line ⟨⟩
    obtain ⟨hcalls, hfound, hactive, hsuperuser⟩ := hrights
    obtain ⟨name, hname, hrecords⟩ := realUserId?_of_user hauthority
    refine ⟨rfl, uid, rights, hauthority, hcalls, hfound, hactive, hsuperuser, ?_⟩
    rw [hname]
    exact hrecords

/-- The answer to a request to delete a user, the line that is logged, and the site after it, on a
campus where somebody is an administrator. -/
def deletionOf (a : Authentication) (target : Uid) :
    (Except ServiceError Bool × Option Removal) × Site :=
  let campus := administrator ⟨"2040"⟩
  (deleteUserLogged {} a target).runUnder (.steady campus fun _ => 0) (Site.prompt campus)

/-- An administrator looks at the site as somebody for whom only the learning system vouches, while
somebody masquerades there. -/
def administratorView : Authentication where
  userId := some ⟨"61889"⟩
  viewer := some ⟨"2040"⟩
  canvasMasquerade := some ⟨"99"⟩
  ltiOnly := true

/-- Wherever the session comes from, the administrator is named. -/
theorem recorded_by_authority_administratorView :
    administratorView.authority? = some (.user ⟨"2040"⟩) ∧
      administratorView.realUserId? = some "2040" ∧
      ∃ line, (deletionOf administratorView ⟨"61889"⟩).1.2 = some line ∧ line.actor = "2040" := by
  obtain ⟨huser, -, -, hdeletion⟩ := recorded_by_authority administratorView
  have hauthority : administratorView.authority? = some (.user ⟨"2040"⟩) := by decide
  obtain ⟨name, hname, hrecords⟩ := huser ⟨"2040"⟩ hauthority
  obtain ⟨-, hlogged, hline⟩ := hdeletion {} (.steady (administrator ⟨"2040"⟩) fun _ => 0)
    (Site.prompt (administrator ⟨"2040"⟩)) ⟨"61889"⟩
  obtain ⟨line, hsome⟩ := Option.isSome_iff_exists.1 (hlogged.trans (by decide))
  obtain ⟨-, uid, rights, hauthority', -, -, -, -, hactor⟩ := hline line hsome
  rw [hauthority] at hauthority'
  obtain rfl : ⟨"2040"⟩ = uid := by simpa using hauthority'
  exact ⟨hauthority, hname.trans (congrArg some hrecords), line, hsome, hactor⟩

/-- Somebody signed in and masquerades in Canvas. -/
def canvasUser : Authentication where
  userId := some ⟨"2040"⟩
  canvasMasquerade := some ⟨"99"⟩

/-- The record of the user authorises the deletion, and the log does not name the user. -/
theorem canvasUser_recorded :
    canvasUser.authority? = some (.user ⟨"2040"⟩) ∧ canvasUser.realUserId? ≠ some "2040" ∧
      (deletionOf canvasUser ⟨"61889"⟩).1 = (.ok false, some {
        target := ⟨"61889"⟩
        actor := "Authenticated through LTI: masquerading Canvas ID 99" }) ∧
      (deletionOf canvasUser ⟨"61889"⟩).2.calls = [⟨.userAuth, ⟨"2040"⟩⟩] := by
  decide

end CampusView
