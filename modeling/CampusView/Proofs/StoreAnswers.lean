import CampusView.Proofs.KeptData
import CampusView.Store.History
import Mathlib.Data.List.Induction

/-!
# The store and the history of its accesses

The row of a user after some accesses can be told from the accesses (`row?_after`): an access makes
of the row what it makes of the history. So every access is answered what the accesses before it say
(`answers_eq_expected`), where an instant is read back from the text that was written of it.
-/

namespace CampusView

open Time

/-! ### Data and rows -/

/-- The row in which data is written. -/
def UserData.written (d : UserData) : StoredRow where
  preferredName := d.preferredName
  firstLogin := d.firstLoginAt.map Instant.toOffsetText

/-- Data as it is read back. -/
def UserData.settled (d : UserData) : UserData :=
  { d with firstLoginAt := d.firstLoginAt.map Instant.settled }

theorem UserData.settled_self {d : UserData} (h : ∀ i ∈ d.firstLoginAt, Regular i) :
    d.settled = d := by
  obtain ⟨uid, name, login⟩ := d
  cases login with
  | none => rfl
  | some i => simp only [settled, Option.map_some, Instant.settled_self (h i rfl)]

/-- Data is read back, if the first login was in a year of four digits. -/
theorem UserData.read_written {d : UserData} (h : ∀ i ∈ d.firstLoginAt, FourDigits i.date.year) :
    d.written.read d.uid = .ok d.settled := by
  obtain ⟨uid, name, login⟩ := d
  cases login with
  | none => rfl
  | some i =>
    simp only [StoredRow.read, written, settled, Option.map_some,
      Instant.parse?_toOffsetText (h i rfl)]

namespace Store

/-- What comes back, with the instants as they are read back. -/
def Answer.settled : Answer → Answer
  | found data => .found (data.map (Option.map UserData.settled))
  | written data => .written (data.map UserData.settled)
  | deleted existed => .deleted existed

/-- What an access makes of data: the last name counts, and the first login. -/
def Access.change (a : Access) (d : UserData) : UserData :=
  { d with
    preferredName := a.name?.getD d.preferredName
    firstLoginAt := d.firstLoginAt.or a.login? }

theorem Access.change_get (uid : Uid) (d : UserData) : (get uid).change d = d := by
  simp [change, name?, login?]

/-! ### The history after an access -/

section

variable {uid : Uid} {past : List Access} {a : Access} {i : Instant}

theorem recent_concat_of_ne (h : a.uid ≠ uid) : recent uid (past ++ [a]) = recent uid past := by
  simp [recent, List.filter_append, h]

theorem recent_concat (h : a.uid = uid) (hdelete : a ≠ .delete uid) :
    recent uid (past ++ [a]) = recent uid past ++ [a] := by
  simp [recent, List.filter_append, h, hdelete]

theorem recent_concat_delete : recent uid (past ++ [.delete uid]) = [] := by
  simp [recent, List.filter_append, Access.uid]

theorem isKept_concat (h : a.uid = uid) (hdelete : a ≠ .delete uid) :
    isKept uid (past ++ [a]) = (isKept uid past || a.isWrite) := by
  simp [isKept, recent_concat h hdelete]

theorem keptData_concat (h : a.uid = uid) (hdelete : a ≠ .delete uid) :
    keptData uid (past ++ [a]) = a.change (keptData uid past) := by
  simp only [keptData, recent_concat h hdelete, List.filterMap_append, Access.change]
  congr 1
  · cases hname : a.name? <;> simp [hname]
  · cases hlogin : a.login? <;> simp [hlogin, List.head?_append]

theorem keptData_of_not_isKept (h : isKept uid past = false) : keptData uid past = { uid } := by
  have hname : ∀ a ∈ recent uid past, a.name? = none ∧ a.login? = none := fun a ha => by
    have hread := List.any_eq_false.1 h a ha
    cases a <;> simp_all [Access.isWrite, Access.name?, Access.login?]
  simp only [keptData, List.filterMap_eq_nil_iff.2 fun a ha => (hname a ha).1,
    List.filterMap_eq_nil_iff.2 fun a ha => (hname a ha).2]
  rfl

/-- The first login was recorded. -/
theorem mem_of_firstLoginAt (h : i ∈ (keptData uid past).firstLoginAt) :
    .recordLogin uid i ∈ past := by
  have hmem := List.mem_of_mem_head? h
  obtain ⟨a, ha, hlogin⟩ := List.mem_filterMap.1 hmem
  obtain ⟨hpast, huid⟩ := List.mem_filter.1 ((List.rtakeWhile_suffix _ _).subset ha)
  cases a with
  | recordLogin u j =>
    obtain rfl : u = uid := of_decide_eq_true huid
    obtain rfl := Option.some.inj hlogin
    exact hpast
  | _ => cases hlogin

end

/-! ### The row after an access -/

section

variable {a : Access}

theorem after_concat (s : Store) (past : List Access) (a : Access) :
    s.after (past ++ [a]) = (a.run (s.after past)).2 := List.foldl_append ..

/-- A write answers with the row that it leaves. -/
theorem run_of_isWrite (h : a.isWrite = true) (s : Store) :
    ∃ row, (a.run s).2.row? a.uid = some row ∧ (a.run s).1 = .written (row.read a.uid) := by
  cases a with
  | setName uid name => exact ⟨_, if_pos rfl, rfl⟩
  | recordLogin uid at_ => exact ⟨_, if_pos rfl, rfl⟩
  | get uid => cases h
  | delete uid => cases h

/-- A write changes the row of the user, or an empty one if there is none. -/
theorem Access.onRow_of_isWrite {row : Option StoredRow} {d : UserData} (hwrite : a.isWrite = true)
    (hrow : row.getD {} = d.written) : a.onRow row = some (a.change d).written := by
  cases a with
  | setName uid name => simp [onRow, hrow, UserData.written, change, name?, login?]
  | recordLogin uid at_ =>
    cases hlogin : d.firstLoginAt <;>
      simp [onRow, hrow, UserData.written, change, name?, login?, hlogin]
  | get uid => cases hwrite
  | delete uid => cases hwrite

end

/-- The row of a user is told by the accesses. -/
theorem row?_after (uid : Uid) (past : List Access) :
    (after ∅ past).row? uid =
      if isKept uid past then some (keptData uid past).written else none := by
  induction past using List.reverseRecOn with
  | nil => rfl
  | append_singleton past a ih =>
    rw [after_concat, Access.row?_run]
    by_cases huid : uid = a.uid
    · rw [if_pos huid]
      cases hwrite : a.isWrite with
      | true =>
        have hdelete : a ≠ .delete uid := fun h => by simp [h, Access.isWrite] at hwrite
        have hrow : ((after ∅ past).row? uid).getD {} = (keptData uid past).written := by
          rw [ih]
          cases hkept : isKept uid past with
          | true => rfl
          | false =>
            rw [keptData_of_not_isKept hkept]
            rfl
        rw [Access.onRow_of_isWrite hwrite hrow, isKept_concat huid.symm hdelete, hwrite,
          Bool.or_true, if_pos rfl, keptData_concat huid.symm hdelete]
      | false =>
        cases a with
        | get u =>
          have hdelete : Access.get u ≠ .delete uid := nofun
          rw [isKept_concat huid.symm hdelete, keptData_concat huid.symm hdelete,
            Access.change_get, hwrite, Bool.or_false]
          exact ih
        | delete u =>
          obtain rfl : uid = u := huid
          rw [isKept, recent_concat_delete]
          rfl
        | setName u name => cases hwrite
        | recordLogin u at_ => cases hwrite
    · rw [if_neg huid, ih, isKept, keptData, isKept, keptData, recent_concat_of_ne (Ne.symm huid)]

/-! ### Answers -/

section

variable {past accesses : List Access} {a : Access}

/-- What holds of all instants that are recorded holds of the first login. -/
theorem firstLoginAt_of_recorded {P : Instant → Prop}
    (h : ∀ uid i, .recordLogin uid i ∈ past ++ [a] → P i) (uid : Uid) :
    (∀ i ∈ (keptData uid past).firstLoginAt, P i) ∧
      ∀ i ∈ (keptData uid (past ++ [a])).firstLoginAt, P i :=
  ⟨fun i hi => h uid i (List.mem_append_left _ (mem_of_firstLoginAt hi)),
    fun i hi => h uid i (mem_of_firstLoginAt hi)⟩

/-- A write is answered the data that is kept then. -/
theorem run_after_of_isWrite (hyears : ∀ uid i, .recordLogin uid i ∈ past ++ [a] →
    FourDigits i.date.year) (hwrite : a.isWrite = true) :
    (a.run (after ∅ past)).1 = .written (.ok (keptData a.uid (past ++ [a])).settled) := by
  obtain ⟨row, hrow, hanswer⟩ := run_of_isWrite hwrite (after ∅ past)
  have hdelete : a ≠ .delete a.uid := fun h => by rw [h] at hwrite; cases hwrite
  rw [← after_concat, row?_after, isKept_concat rfl hdelete, hwrite, Bool.or_true,
    if_pos rfl] at hrow
  obtain rfl := Option.some.inj hrow
  exact hanswer.trans (congrArg Answer.written
    (UserData.read_written (firstLoginAt_of_recorded hyears a.uid).2))

/-- An access is answered what the accesses before it say. -/
theorem run_after (hyears : ∀ uid i, .recordLogin uid i ∈ past ++ [a] → FourDigits i.date.year) :
    (a.run (after ∅ past)).1 = (a.expected past).settled := by
  cases a with
  | get uid =>
    have hread := UserData.read_written (firstLoginAt_of_recorded hyears uid).1
    change (keptData uid past).written.read uid = _ at hread
    simp only [Access.run, get, row?_after, Access.expected]
    cases isKept uid past with
    | false => rfl
    | true =>
      simp only [if_true, hread]
      rfl
  | setName uid name => exact run_after_of_isWrite hyears rfl
  | recordLogin uid at_ => exact run_after_of_isWrite hyears rfl
  | delete uid =>
    simp only [Access.run, delete, row?_after, Access.expected]
    cases isKept uid past <;> rfl

/-- Regular instants are read back as they were written. -/
theorem Access.settled_expected (h : ∀ uid i, .recordLogin uid i ∈ past ++ [a] → Regular i) :
    (a.expected past).settled = a.expected past := by
  have hkept := fun uid => UserData.settled_self (firstLoginAt_of_recorded h uid).1
  have hwritten := fun uid => UserData.settled_self (firstLoginAt_of_recorded h uid).2
  cases a with
  | get uid =>
    simp only [expected, Answer.settled, Except.map]
    cases isKept uid past with
    | false => rfl
    | true => simp [hkept]
  | setName uid name => simp [expected, Answer.settled, Except.map, hwritten]
  | recordLogin uid at_ => simp [expected, Answer.settled, Except.map, hwritten]
  | delete uid => rfl

/-- What is answered is told by the store after the accesses before. -/
theorem answers_eq_mapIdx (s : Store) (accesses : List Access) :
    s.answers accesses = accesses.mapIdx fun n a => (a.run (s.after (accesses.take n))).1 := by
  induction accesses generalizing s with
  | nil => rfl
  | cons a rest ih =>
    rw [answers, ih, List.mapIdx_cons]
    rfl

end

/-- **The store is a map.** As long as all logins are in years of four digits, every access of a
store is answered what the accesses before it say, with the first login as it is read back, which is
as it was recorded if it was regular. And no access changes what is kept of others. -/
theorem answers_eq_expected {accesses : List Access}
    (hyears : ∀ uid i, .recordLogin uid i ∈ accesses → FourDigits i.date.year) :
    answers ∅ accesses = (expected accesses).map Answer.settled ∧
      ((∀ uid i, .recordLogin uid i ∈ accesses → Regular i) →
        answers ∅ accesses = expected accesses) ∧
      ∀ (s : Store) (a : Access) (uid : Uid), uid ≠ a.uid → (a.run s).2.get uid = s.get uid := by
  have hbefore : ∀ {n : Nat} {a b : Access}, accesses[n]? = some a →
      b ∈ accesses.take n ++ [a] → b ∈ accesses := by
    intro n a b ha hb
    rcases List.mem_append.1 hb with hb | hb
    · exact List.mem_of_mem_take hb
    · exact List.mem_singleton.1 hb ▸ List.mem_of_getElem? ha
  have hanswers : answers ∅ accesses = (expected accesses).map Answer.settled := by
    refine List.ext_getElem? fun n => ?_
    rw [answers_eq_mapIdx, expected, List.getElem?_mapIdx, List.getElem?_map, List.getElem?_mapIdx,
      Option.map_map]
    refine Option.map_congr fun a ha => ?_
    exact run_after fun uid i hi => hyears uid i (hbefore ha hi)
  refine ⟨hanswers, fun hregular => ?_, fun s a uid h => ?_⟩
  · rw [hanswers]
    refine List.ext_getElem? fun n => ?_
    rw [expected, List.getElem?_map, List.getElem?_mapIdx, Option.map_map]
    refine Option.map_congr fun a ha => ?_
    exact Access.settled_expected fun uid i hi => hregular uid i (hbefore ha hi)
  · rw [get, get, Access.row?_run, if_neg h]

/-- A name and two logins of one user, with a read of another in between. Then the name is cleared,
and the data is deleted. -/
def logins (first second : Instant) : List Access := [
  .setName ⟨"61889"⟩ (some "Oski"),
  .recordLogin ⟨"61889"⟩ first,
  .get ⟨"1000"⟩,
  .recordLogin ⟨"61889"⟩ second,
  .setName ⟨"61889"⟩ none,
  .delete ⟨"61889"⟩,
  .get ⟨"61889"⟩,
  .delete ⟨"61889"⟩]

/-- The first login stays, also when the name is cleared, until the data is deleted. -/
theorem answers_eq_expected_logins :
    let first : Instant := ⟨⟨2016, 8, 24, by decide⟩, ⟨34200, 500, by decide⟩⟩
    let second : Instant := ⟨⟨2016, 8, 25, by decide⟩, ⟨34200, 0, by decide⟩⟩
    answers ∅ (logins first second) = [
      .written (.ok ⟨⟨"61889"⟩, some "Oski", none⟩),
      .written (.ok ⟨⟨"61889"⟩, some "Oski", some first⟩),
      .found (.ok none),
      .written (.ok ⟨⟨"61889"⟩, some "Oski", some first⟩),
      .written (.ok ⟨⟨"61889"⟩, none, some first⟩),
      .deleted true,
      .found (.ok none),
      .deleted false] := by
  intro first second
  have hlogins : ∀ uid i, .recordLogin uid i ∈ logins first second →
      FourDigits i.date.year ∧ Regular i := by
    intro uid i hi
    have hi : i = first ∨ i = second := by
      simp only [logins, List.mem_cons, Access.recordLogin.injEq, reduceCtorEq, List.not_mem_nil,
        false_or, or_false] at hi
      exact hi.imp And.right And.right
    rcases hi with rfl | rfl <;> exact ⟨⟨by decide, by decide⟩, fun h => absurd h (by decide)⟩
  obtain ⟨-, hregular, -⟩ := answers_eq_expected fun uid i hi => (hlogins uid i hi).1
  rw [hregular fun uid i hi => (hlogins uid i hi).2]
  rfl

end Store

end CampusView
