import CampusView.Proofs.KeptData
import CampusView.Store.History

/-!
# What failed writes leave

A write answers with what it leaves, so it may be made and yet fail. A name that is set in a row
that cannot be read is never seen, since what makes the row unreadable stays until the row is
deleted (`Alike.run`). But a first login in a year that does not have four digits makes a row
unreadable, and this is seen (`leavesNoTrace_iff`).
-/

namespace CampusView.Store

open Time

/-! ### Rows and stores that look alike -/

/-- The rows are the same, or differ in the name and cannot be read. -/
def AlikeRows (row row' : Option StoredRow) : Prop :=
  row' = row ∨ ∃ r name, r.Unreadable ∧ row = some r ∧ row' = some { r with preferredName := name }

/-- The stores differ at most in the names of rows that cannot be read. -/
def Alike (s s' : Store) : Prop := ∀ uid, AlikeRows (s.row? uid) (s'.row? uid)

section

variable {s s' : Store} {a : Access} {uid : Uid}

theorem firstLogin_getD (row : Option StoredRow) :
    (row.getD {}).firstLogin = row.bind StoredRow.firstLogin := by
  cases row <;> rfl

/-- A login that is kept stays, also if it cannot be read. -/
theorem onRow_recordLogin {row : StoredRow} {text : String} (h : row.firstLogin = some text)
    (uid : Uid) (at_ : Instant) : (Access.recordLogin uid at_).onRow (some row) = some row := by
  obtain ⟨name, login⟩ := row
  obtain rfl : login = some text := h
  rfl

theorem AlikeRows.onRow {row row' : Option StoredRow} (h : AlikeRows row row') (a : Access) :
    AlikeRows (a.onRow row) (a.onRow row') := by
  rcases h with rfl | ⟨r, name, hr, rfl, rfl⟩
  · exact .inl rfl
  · cases a with
    | get uid => exact .inr ⟨r, name, hr, rfl, rfl⟩
    | setName uid name' => exact .inl rfl
    | delete uid => exact .inl rfl
    | recordLogin uid at_ =>
      obtain ⟨text, hlogin, hparse⟩ := hr
      have hlogin' : StoredRow.firstLogin { r with preferredName := name } = some text := hlogin
      exact .inr ⟨r, name, ⟨text, hlogin, hparse⟩, onRow_recordLogin hlogin uid at_,
        onRow_recordLogin hlogin' uid at_⟩

/-- A row that cannot be read gives no data. -/
theorem get_of_unreadable {row : StoredRow} (h : s.row? uid = some row) (hrow : row.Unreadable) :
    s.get uid = .error .unreadableLogin := by
  rw [get, h]
  simp only [hrow.read uid]
  rfl

theorem Alike.get (h : Alike s s') (uid : Uid) : s'.get uid = s.get uid := by
  rcases h uid with heq | ⟨row, name, hrow, hs, hs'⟩
  · rw [Store.get, Store.get, heq]
  · rw [get_of_unreadable hs hrow, get_of_unreadable hs' hrow]

theorem Alike.run (h : Alike s s') (a : Access) : Alike (a.run s).2 (a.run s').2 := by
  intro u
  rw [Access.row?_run, Access.row?_run]
  split
  · exact (h u).onRow a
  · exact h u

theorem Alike.after (h : Alike s s') (later : List Access) :
    Alike (s.after later) (s'.after later) := by
  induction later generalizing s s' with
  | nil => exact h
  | cons a rest ih => exact ih (h.run a)

/-! ### Accesses that fail -/

/-- The access records a first login in a year that does not have four digits. -/
def Spoils (s : Store) (a : Access) : Prop :=
  ∃ uid at_, a = .recordLogin uid at_ ∧ (s.row? uid).bind StoredRow.firstLogin = none ∧
    ¬FourDigits at_.date.year

/-- An access that fails leaves a store that looks alike, unless it spoils the row. -/
theorem alike_of_isFault (h : (a.run s).1.IsFault) (hspoils : ¬s.Spoils a) :
    Alike s (a.run s).2 := by
  intro u
  rw [Access.row?_run]
  split
  · next hu =>
    subst hu
    cases a with
    | get uid => exact .inl rfl
    | delete uid => exact h.elim
    | setName uid name =>
      obtain ⟨fault, hfault⟩ := h
      obtain ⟨text, hlogin, hparse⟩ := StoredRow.unreadable_of_read hfault
      change ((s.row? uid).getD {}).firstLogin = some text at hlogin
      rw [firstLogin_getD] at hlogin
      obtain ⟨row, hrow, hlogin⟩ := Option.bind_eq_some_iff.1 hlogin
      exact .inr ⟨row, name, ⟨text, hlogin, hparse⟩, hrow, by rw [Access.uid, hrow]; rfl⟩
    | recordLogin uid at_ =>
      obtain ⟨fault, hfault⟩ := h
      obtain ⟨text, hlogin, hparse⟩ := StoredRow.unreadable_of_read hfault
      change ((s.row? uid).getD {}).firstLogin.or (some at_.toOffsetText) = some text at hlogin
      rw [firstLogin_getD] at hlogin
      cases hkept : (s.row? uid).bind StoredRow.firstLogin with
      | none =>
        rw [hkept, Option.none_or] at hlogin
        obtain rfl := Option.some.inj hlogin
        refine absurd ⟨uid, at_, rfl, hkept, fun hyear => ?_⟩ hspoils
        rw [Instant.parse?_toOffsetText hyear] at hparse
        cases hparse
      | some kept =>
        obtain ⟨row, hrow, hlogin⟩ := Option.bind_eq_some_iff.1 hkept
        left
        rw [Access.uid, hrow, onRow_recordLogin hlogin]
  · exact .inl rfl

/-- A row that was spoiled cannot be read, though it could be read before. -/
theorem get_of_spoils (h : s.Spoils a) :
    (a.run s).2.get a.uid = .error .unreadableLogin ∧ ∃ data, s.get a.uid = .ok data := by
  obtain ⟨uid, at_, rfl, hnone, hyear⟩ := h
  rw [← firstLogin_getD] at hnone
  constructor
  · refine get_of_unreadable ((Access.row?_run _ _ _).trans (if_pos rfl)) ?_
    refine ⟨at_.toOffsetText, ?_, Instant.parse?_toOffsetText_eq_none hyear⟩
    show ((s.row? uid).getD {}).firstLogin.or _ = _
    rw [hnone, Option.none_or]
  · cases hrow : s.row? uid with
    | none => exact ⟨none, by rw [Access.uid, get, hrow]⟩
    | some row =>
      obtain ⟨name, login⟩ := row
      rw [hrow] at hnone
      obtain rfl : login = none := hnone
      exact ⟨some ⟨uid, name, none⟩, by rw [Access.uid, get, hrow]; rfl⟩

/-- **A failed write leaves no trace**, unless it records a first login in a year that does not have
four digits. -/
theorem leavesNoTrace_iff (h : (a.run s).1.IsFault) : s.LeavesNoTrace a ↔ ¬s.Spoils a := by
  constructor
  · intro htrace hspoils
    obtain ⟨hafter, data, hbefore⟩ := get_of_spoils hspoils
    have hget := htrace [] a.uid
    rw [show (a.run s).2.after [] = (a.run s).2 from rfl, show s.after [] = s from rfl, hafter,
      hbefore] at hget
    cases hget
  · exact fun hspoils later uid => ((alike_of_isFault h hspoils).after later).get uid

end

/-- A login on the first day of a year of five digits. -/
def lateLogin : Access := .recordLogin ⟨"61889"⟩ ⟨⟨12345, 1, 1, by decide⟩, ⟨3600, 0, by decide⟩⟩

/-- The late login fails, and from then on nothing can be read of the user, of whom nothing was kept
before. -/
theorem lateLogin_leaves_trace :
    (lateLogin.run ∅).1.IsFault ∧ (∅ : Store).get ⟨"61889"⟩ = .ok none ∧
      ((lateLogin.run ∅).2.get ⟨"61889"⟩ = .error .unreadableLogin) ∧
        ¬(∅ : Store).LeavesNoTrace lateLogin := by
  have hget : (lateLogin.run ∅).2.get ⟨"61889"⟩ = .error .unreadableLogin := by rfl
  exact ⟨⟨.unreadableLogin, rfl⟩, rfl, hget, fun h => nomatch (h [] ⟨"61889"⟩).symm.trans hget⟩

/-- A name that is set after the late login is not seen either, so it leaves no trace. -/
theorem leavesNoTrace_iff_afterLateLogin :
    ((Access.setName ⟨"61889"⟩ (some "Oski")).run (lateLogin.run ∅).2).1.IsFault ∧
      (lateLogin.run ∅).2.LeavesNoTrace (.setName ⟨"61889"⟩ (some "Oski")) := by
  have hfault : ((Access.setName ⟨"61889"⟩ (some "Oski")).run (lateLogin.run ∅).2).1.IsFault :=
    ⟨.unreadableLogin, rfl⟩
  exact ⟨hfault, (leavesNoTrace_iff hfault).2 fun ⟨_, _, hlogin, _⟩ => nomatch hlogin⟩

end CampusView.Store
