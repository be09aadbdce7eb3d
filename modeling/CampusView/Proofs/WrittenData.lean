import CampusView.Proofs.Ledger

/-!
# What was written is shown

`Operation.changes?` names the user whose data an operation may change. Nothing else changes the row
of that user (`Ledger.row?_run`), so a feed that is composed after the last change shows what was
written (`Operation.shows_effect`). `UserFeed.Shows` says for each kind of write what that is.
-/

namespace CampusView

open Json Time

/-- The user whose data an operation of a session may change: nobody, if the session may not write.
-/
def Operation.changes? (auth : Authentication) : Operation → Option Uid
  | setPreferredName _ | recordFirstLogin => (writer auth).toOption
  | deleteUser target => some target
  | statusFeed | academicsFeed | delegateStudents => none

/-- In one of these sessions the turn may change data of the user. -/
def Turn.Changes (sessions : List Authentication) (uid : Uid) (t : Turn) : Prop :=
  ∃ number op auth, t.errand = .within number op ∧ sessions[number]? = some auth ∧
    op.changes? auth = some uid

/-- The feed shows what was written when the operation was answered so: the name without blanks at
its ends, the instant of the first login that was answered, or nothing of what was deleted.
`reported` is the name that campus systems report, which is shown when there is no other. -/
def UserFeed.Shows (f : UserFeed) (reported : String) : Operation → Reply → Prop
  | .setPreferredName value, .userData (.ok _) =>
    f.preferredName = if Text.isBlankText value then reported else Text.trim value
  | .recordFirstLogin, .userData (.ok data) =>
    f.firstLoginAt = data.firstLoginAt ∧ data.firstLoginAt.isSome
  | .deleteUser _, .deleted (.ok _) => f.preferredName = reported ∧ f.firstLoginAt = none
  | _, _ => True

section

variable {settings : Settings} {campus : Campus} {auth : Authentication} {uid : Uid} {s : Store}
  {now : Instant} {op : Operation}

/-! ### A feed shows the data it is composed of -/

theorem preferredName_freshFeed (settings : Settings) (campus : Campus) (auth : Authentication)
    (uid : Uid) (data : Option UserData) :
    (freshFeed settings campus auth uid data).preferredName =
      (data.bind UserData.preferredName).getD
        (freshFeed settings campus auth uid none).preferredName := by
  cases data with
  | none => rfl
  | some data =>
    obtain ⟨u, name, login⟩ := data
    cases name <;> rfl

theorem firstLoginAt_freshFeed (settings : Settings) (campus : Campus) (auth : Authentication)
    (uid : Uid) (data : Option UserData) :
    (freshFeed settings campus auth uid data).firstLoginAt = data.bind UserData.firstLoginAt := rfl

/-! ### A write and what is kept then -/

/-- What is answered after a change is what can be read then. -/
theorem Store.data?_change {f : StoredRow → StoredRow} {data : UserData}
    (h : (s.change uid f).1 = .ok data) : (s.change uid f).2.data? uid = some data := by
  have hrow : (s.change uid f).2.row? uid = some (f ((s.row? uid).getD {})) := if_pos rfl
  rw [Store.data?_of_some hrow]
  exact congrArg Except.toOption h

theorem StoredRow.preferredName_of_read {row : StoredRow} {data : UserData}
    (h : row.read uid = .ok data) : data.preferredName = row.preferredName := by
  unfold StoredRow.read at h
  split at h
  · obtain rfl := Except.ok.inj h
    rfl
  · split at h
    · obtain rfl := Except.ok.inj h
      rfl
    · cases h

theorem StoredRow.firstLoginAt_of_read {row : StoredRow} {data : UserData}
    (h : row.read uid = .ok data) (hlogin : row.firstLogin.isSome) : data.firstLoginAt.isSome := by
  unfold StoredRow.read at h
  split at h
  · next hnone =>
    rw [hnone] at hlogin
    cases hlogin
  · split at h
    · obtain rfl := Except.ok.inj h
      rfl
    · cases h

/-- Who may write data may change their own. -/
theorem writer_of_toOption (h : (writer auth).toOption = some uid) : writer auth = .ok uid := by
  cases hwriter : writer auth with
  | error e =>
    rw [hwriter] at h
    cases h
  | ok u =>
    rw [hwriter] at h
    rw [Option.some.inj h]

section

variable {view : Authentication}

/-- A name that was kept is shown. -/
theorem Operation.shows_setPreferredName (hwriter : writer auth = .ok uid) (value : String) :
    (freshFeed settings campus view uid
      (((setPreferredName value).effect campus now auth s).data? uid)).Shows
        (freshFeed settings campus view uid none).preferredName (setPreferredName value)
          ((setPreferredName value).answer settings campus s now auth) := by
  have heffect : (setPreferredName value).effect campus now auth s =
      (s.setName uid (preferredName? value)).2 := by simp only [effect, hwriter]
  have hanswer : (setPreferredName value).answer settings campus s now auth =
      .userData ((s.setName uid (preferredName? value)).1.mapError .store) := by
    simp only [answer, hwriter]
    rfl
  rw [hanswer, heffect]
  cases hname : (s.setName uid (preferredName? value)).1 with
  | error fault => trivial
  | ok data =>
    have hread := StoredRow.preferredName_of_read hname
    have hdata : (s.setName uid (preferredName? value)).2.data? uid = some data :=
      Store.data?_change hname
    show UserFeed.preferredName _ = _
    rw [preferredName_freshFeed, hdata, Option.bind_some, hread]
    show (preferredName? value).getD _ = _
    unfold preferredName?
    split <;> rfl

/-- A first login that was kept is shown. -/
theorem Operation.shows_recordFirstLogin (hwriter : writer auth = .ok uid) :
    (freshFeed settings campus view uid
      ((recordFirstLogin.effect campus now auth s).data? uid)).Shows
        (freshFeed settings campus view uid none).preferredName recordFirstLogin
          (recordFirstLogin.answer settings campus s now auth) := by
  have heffect : recordFirstLogin.effect campus now auth s = (s.recordLogin uid now).2 := by
    simp only [effect, hwriter]
  have hanswer : recordFirstLogin.answer settings campus s now auth =
      .userData ((s.recordLogin uid now).1.mapError .store) := by
    simp only [answer, hwriter]
    rfl
  rw [hanswer, heffect]
  cases hlogin : (s.recordLogin uid now).1 with
  | error fault => trivial
  | ok data =>
    have hsome : data.firstLoginAt.isSome := by
      refine StoredRow.firstLoginAt_of_read hlogin ?_
      show (Option.or _ _).isSome
      simp
    have hdata : (s.recordLogin uid now).2.data? uid = some data := Store.data?_change hlogin
    refine And.intro ?_ hsome
    rw [firstLoginAt_freshFeed, hdata, Option.bind_some]

/-- Nothing is shown of data that was deleted. -/
theorem Operation.shows_deleteUser :
    (freshFeed settings campus view uid
      (((deleteUser uid).effect campus now auth s).data? uid)).Shows
        (freshFeed settings campus view uid none).preferredName (deleteUser uid)
          ((deleteUser uid).answer settings campus s now auth) := by
  cases hsubject : subject auth with
  | error e =>
    have hanswer : (deleteUser uid).answer settings campus s now auth = .deleted (.error e) := by
      simp only [answer, hsubject]
      rfl
    rw [hanswer]
    trivial
  | ok u =>
    cases hactor : ((askAuthority auth).answer campus).found?.any UserAuth.canAdministrate with
    | false =>
      have hanswer : (deleteUser uid).answer settings campus s now auth =
          .deleted (.error (.forbidden .notAdministrator)) := by
        simp only [answer, hsubject, hactor]
        rfl
      rw [hanswer]
      trivial
    | true =>
      have hgone : ((deleteUser uid).effect campus now auth s).data? uid = none := by
        simp only [effect, hsubject, hactor]
        exact Store.data?_of_none (if_pos rfl)
      have hanswer : (deleteUser uid).answer settings campus s now auth =
          .deleted (.ok (s.row? uid).isSome) := by
        simp only [answer, hsubject, hactor]
        rfl
      rw [hgone, hanswer]
      exact And.intro rfl rfl

/-- A feed that is composed of what an operation leaves shows what it wrote. -/
theorem Operation.shows_effect (hchanges : op.changes? auth = some uid) :
    (freshFeed settings campus view uid ((op.effect campus now auth s).data? uid)).Shows
      (freshFeed settings campus view uid none).preferredName op
        (op.answer settings campus s now auth) := by
  cases op with
  | statusFeed | academicsFeed | delegateStudents => cases hchanges
  | setPreferredName value => exact shows_setPreferredName (writer_of_toOption hchanges) value
  | recordFirstLogin => exact shows_recordFirstLogin (writer_of_toOption hchanges)
  | deleteUser target =>
    obtain rfl := Option.some.inj hchanges
    exact shows_deleteUser

end

/-- An operation leaves the rows of users whose data it does not change. -/
theorem Operation.row?_effect (h : op.changes? auth ≠ some uid) :
    (op.effect campus now auth s).row? uid = s.row? uid := by
  cases op with
  | statusFeed | academicsFeed | delegateStudents => rfl
  | setPreferredName value =>
    cases hwriter : writer auth with
    | error e => simp only [Operation.effect, hwriter]
    | ok u =>
      simp only [Operation.changes?, hwriter] at h
      have hne : uid ≠ u := fun heq => h (congrArg some heq.symm)
      simp only [Operation.effect, hwriter, Store.row?_setName, if_neg hne]
  | recordFirstLogin =>
    cases hwriter : writer auth with
    | error e => simp only [Operation.effect, hwriter]
    | ok u =>
      simp only [Operation.changes?, hwriter] at h
      have hne : uid ≠ u := fun heq => h (congrArg some heq.symm)
      simp only [Operation.effect, hwriter, Store.row?_recordLogin, if_neg hne]
  | deleteUser target =>
    have hne : uid ≠ target := fun heq => h (congrArg some heq.symm)
    simp only [Operation.effect]
    split
    · rw [Store.row?_delete, if_neg hne]
    · rfl

/-! ### Turns after the last change -/

namespace Ledger

variable {l : Ledger} {t : Turn} {ts us : List Turn}

theorem run_append :
    l.run settings campus (ts ++ us) =
      ((l.run settings campus ts).1 ++ ((l.run settings campus ts).2.run settings campus us).1,
        ((l.run settings campus ts).2.run settings campus us).2) := by
  induction ts generalizing l with
  | nil => rfl
  | cons t ts ih => rw [List.cons_append, run, ih, run, List.cons_append]

theorem length_run : (l.run settings campus ts).1.length = ts.length := by
  induction ts generalizing l with
  | nil => rfl
  | cons t ts ih => rw [run, List.length_cons, ih, List.length_cons]

/-- A session keeps its number. -/
theorem sessions_turn (settings : Settings) (campus : Campus) (t : Turn) (l : Ledger) :
    l.sessions <+: (l.turn settings campus t).2.sessions := by
  unfold turn
  split
  · exact List.prefix_append _ _
  · split <;> exact List.prefix_refl _

theorem sessions_run (settings : Settings) (campus : Campus) (ts : List Turn) (l : Ledger) :
    l.sessions <+: (l.run settings campus ts).2.sessions := by
  induction ts generalizing l with
  | nil => exact List.prefix_refl _
  | cons t ts ih => exact (sessions_turn settings campus t l).trans (ih _)

theorem row?_turn (h : ¬t.Changes l.sessions uid) :
    (l.turn settings campus t).2.store.row? uid = l.store.row? uid := by
  unfold turn
  cases herrand : t.errand with
  | enter session => rfl
  | within number op =>
    cases hsession : l.sessions[number]? with
    | none => simp only [hsession]
    | some auth =>
      simp only [hsession]
      exact Operation.row?_effect fun hchanges => h ⟨number, op, auth, herrand, hsession, hchanges⟩

/-- Turns leave the row of a user whose data none of them changes. -/
theorem row?_run (h : ∀ t ∈ ts, ¬t.Changes (l.run settings campus ts).2.sessions uid) :
    (l.run settings campus ts).2.store.row? uid = l.store.row? uid := by
  induction ts generalizing l with
  | nil => rfl
  | cons t ts ih =>
    obtain ⟨ht, hts⟩ := List.forall_mem_cons.1 h
    rw [run, ih hts]
    -- a session that is open in this turn is the same at the end
    refine row?_turn fun ⟨number, op, auth, herrand, hsession, hchanges⟩ => ht ?_
    obtain ⟨later, hlater⟩ :=
      (sessions_turn settings campus t l).trans (sessions_run settings campus ts _)
    refine ⟨number, op, auth, herrand, ?_, hchanges⟩
    rw [run, ← hlater, List.getElem?_append_left (List.getElem?_eq_some_iff.1 hsession).1, hsession]

/-- What one of the turns is answered. -/
theorem getElem?_run : (l.run settings campus (ts ++ t :: us)).1[ts.length]? =
    some ((l.run settings campus ts).2.turn settings campus t).1 := by
  have hlength := @length_run settings campus l ts
  rw [run_append, List.getElem?_append_right hlength.le, hlength, Nat.sub_self, run,
    List.getElem?_cons_zero]

/-- After its last change the row of a user stays as that turn left it. -/
theorem row?_run_append
    (h : ∀ t' ∈ us, ¬t'.Changes (l.run settings campus (ts ++ t :: us)).2.sessions uid) :
    (l.run settings campus (ts ++ t :: us)).2.store.row? uid =
      ((l.run settings campus ts).2.turn settings campus t).2.store.row? uid := by
  rw [run_append, run] at h ⊢
  exact row?_run h

end Ledger

end

end CampusView
