import CampusView.Proofs.Time.Text
import CampusView.Store

/-!
# The data that can be read

`Store.data?` is what can be read of the data kept of a user. A write of the data of one user leaves
what can be read of others (`data?_put_of_ne`), and a write that cannot be read back leaves what can
be read of anybody (`data?_setName_of_error`, `data?_recordLogin_of_error`), since then nothing
could be read before.
-/

namespace CampusView

open Time

/-! ### Rows that cannot be read -/

/-- The text of the first login is no instant. -/
def StoredRow.Unreadable (row : StoredRow) : Prop :=
  ∃ text, row.firstLogin = some text ∧ Instant.parse? text = none

theorem StoredRow.Unreadable.read {row : StoredRow} (h : row.Unreadable) (uid : Uid) :
    row.read uid = .error .unreadableLogin := by
  obtain ⟨text, hlogin, hparse⟩ := h
  simp only [StoredRow.read, hlogin, hparse]

theorem StoredRow.unreadable_of_read {row : StoredRow} {uid : Uid} {fault : StoreFault}
    (h : row.read uid = .error fault) : row.Unreadable := by
  unfold StoredRow.read at h
  cases hlogin : row.firstLogin with
  | none => simp only [hlogin, reduceCtorEq] at h
  | some text =>
    cases hparse : Instant.parse? text with
    | none => exact ⟨text, hlogin, hparse⟩
    | some at_ => simp only [hlogin, hparse, reduceCtorEq] at h

theorem StoredRow.regular_of_read {row : StoredRow} {uid : Uid} {d : UserData}
    (h : row.read uid = .ok d) : ∀ i ∈ d.firstLoginAt, Regular i := by
  unfold StoredRow.read at h
  intro i hi
  cases hlogin : row.firstLogin with
  | none =>
    simp only [hlogin] at h
    obtain rfl := Except.ok.inj h
    cases hi
  | some text =>
    cases hparse : Instant.parse? text with
    | none => simp only [hlogin, hparse, reduceCtorEq] at h
    | some at_ =>
      simp only [hlogin, hparse] at h
      obtain rfl := Except.ok.inj h
      obtain rfl := Option.some.inj hi
      exact Instant.regular_of_parse? hparse

namespace Store

/-! ### Reading -/

/-- The data kept of a user, as far as it can be read. -/
def data? (s : Store) (uid : Uid) : Option UserData := (s.get uid).toOption.bind id

variable {s : Store} {u uid : Uid}

theorem data?_of_none (h : s.row? uid = none) : s.data? uid = none := by
  rw [data?, get, h]
  rfl

theorem data?_of_some {row : StoredRow} (h : s.row? uid = some row) :
    s.data? uid = (row.read uid).toOption := by
  simp only [data?, get, h]
  cases row.read uid <;> rfl

theorem data?_of_unreadable {row : StoredRow} (h : s.row? uid = some row) (hrow : row.Unreadable) :
    s.data? uid = none := by
  rw [data?_of_some h, hrow.read]
  rfl

theorem data?_congr {s' : Store} (h : s'.row? uid = s.row? uid) : s'.data? uid = s.data? uid := by
  rw [data?, data?, get, get, h]

/-- The data that can be read has a regular instant. -/
theorem regular_data? {d : UserData} (h : s.data? uid = some d) :
    ∀ i ∈ d.firstLoginAt, Regular i := by
  cases hrow : s.row? uid with
  | none =>
    rw [data?_of_none hrow] at h
    cases h
  | some row =>
    rw [data?_of_some hrow] at h
    cases hread : row.read uid with
    | error fault =>
      rw [hread] at h
      cases h
    | ok d' =>
      rw [hread] at h
      obtain rfl := Option.some.inj h
      exact StoredRow.regular_of_read hread

/-! ### Writing -/

theorem data?_put_of_ne (h : u ≠ uid) (row : Option StoredRow) :
    (s.put uid row).data? u = s.data? u :=
  data?_congr (by rw [row?_put, if_neg h])

/-- A name that cannot be read back was set in a row that could not be read before. -/
theorem data?_setName_of_error {name : Option String} {fault : StoreFault}
    (h : (s.setName uid name).1 = .error fault) (u : Uid) :
    (s.setName uid name).2.data? u = s.data? u := by
  by_cases hu : u = uid
  · subst hu
    obtain ⟨text, hlogin, hparse⟩ := StoredRow.unreadable_of_read h
    cases hrow : s.row? u with
    | none =>
      rw [hrow] at hlogin
      cases hlogin
    | some row =>
      rw [hrow] at hlogin
      rw [data?_of_unreadable hrow ⟨text, hlogin, hparse⟩]
      have hrow' : (s.setName u name).2.row? u = some { row with preferredName := name } := by
        rw [row?_setName, if_pos rfl, hrow]
        rfl
      exact data?_of_unreadable hrow' ⟨text, hlogin, hparse⟩
  · exact data?_put_of_ne hu _

/-- A login in a year of four digits is only unreadable if another text was kept already. -/
theorem data?_recordLogin_of_error {at_ : Instant} (hyear : FourDigits at_.date.year)
    {fault : StoreFault} (h : (s.recordLogin uid at_).1 = .error fault) (u : Uid) :
    (s.recordLogin uid at_).2.data? u = s.data? u := by
  by_cases hu : u = uid
  · subst hu
    obtain ⟨text, hlogin, hparse⟩ := StoredRow.unreadable_of_read h
    cases hkept : ((s.row? u).getD {}).firstLogin with
    | none =>
      simp only [hkept, Option.none_or] at hlogin
      obtain rfl := Option.some.inj hlogin
      rw [Instant.parse?_toOffsetText hyear] at hparse
      cases hparse
    | some kept =>
      cases hrow : s.row? u with
      | none =>
        rw [hrow] at hkept
        cases hkept
      | some row =>
        -- the row stays as it is
        apply data?_congr
        have hlogin' : row.firstLogin = some kept := by rwa [hrow] at hkept
        rw [row?_recordLogin, if_pos rfl, hrow]
        show some (StoredRow.mk row.preferredName (row.firstLogin.or _)) = _
        rw [hlogin', Option.some_or, ← hlogin']
  · exact data?_put_of_ne hu _

end Store

end CampusView
