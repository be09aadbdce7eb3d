import CampusView.Feed
import CampusView.Proofs.AcademicsCodec
import CampusView.Proofs.Time.Text

/-!
# Feeds read back from the cache

A status feed is read back from the text that is kept of it, if the first login is regular
(`UserFeed.Regular.decodeText?`), and so is the time of its last change
(`LastModified.decodeText?_of_regular`).
-/

namespace CampusView

open Json Time

/-! ### Parts of a feed -/

section Parts

variable {depth : Nat}

theorem lossless_uid (uid : Uid) : Lossless 0 depth uid :=
  ⟨.string _, reads_text depth _, rfl⟩

theorem lossless_optionString (s : Option String) : Lossless 1 depth s := by
  refine Lossless.option (fun t ht => ?_) fun _ _ => lossless_string _
  exact nomatch (ht : Value.string t = .null)

theorem lossless_instant {i : Instant} (h : Regular i) : Lossless 0 depth i := by
  refine ⟨.string i.toText, reads_text depth i.toText, ?_⟩
  show (Value.string i.toText).toText?.bind Instant.parseLoose? = some i
  rw [Value.toText?, Option.bind_some]
  exact Instant.parseLoose?_toText h

theorem lossless_optionInstant {i : Option Instant} (h : ∀ j ∈ i, Regular j) :
    Lossless 1 depth i := by
  refine Lossless.option (fun j hj => ?_) fun j hj => lossless_instant (h j hj)
  exact nomatch (hj : Value.string j.toText = .null)

theorem Role.name_injective {r q : Role} (h : r.name = q.name) : r = q := by
  cases r <;> cases q <;> first | rfl | exact absurd h (by decide)

theorem Role.nodup_all : Role.all.Nodup := by decide

/-- The flags of a set are found under the names of their roles. -/
theorem RoleSet.lookup_flags (s : RoleSet) (r : Role) {roles : List Role} (hr : roles.Nodup) :
    ((roles.filterMap fun q => (s.recorded q).map fun held => (q, held)).map
      fun p => (p.1.name, Value.bool p.2)).lookup r.name =
        if r ∈ roles then (s.recorded r).map Value.bool else none := by
  induction roles with
  | nil => rfl
  | cons q roles ih =>
    obtain ⟨hq, hroles⟩ := List.nodup_cons.1 hr
    rw [List.filterMap_cons]
    by_cases hrq : r = q
    · subst hrq
      cases s.recorded r <;> simp [ih hroles, hq]
    · have hname : (r.name == q.name) = false :=
        beq_false_of_ne fun h => hrq (Role.name_injective h)
      cases h : s.recorded q <;> simp [ih hroles, hrq, List.lookup_cons, hname]

theorem RoleSet.nodup_names (s : RoleSet) :
    ((s.toList.map fun p => (p.1.name, Value.bool p.2)).map Prod.fst).Nodup := by
  have hroles : (s.toList.map Prod.fst).Sublist Role.all := by
    unfold RoleSet.toList
    generalize Role.all = roles
    induction roles with
    | nil => exact List.Sublist.slnil
    | cons q roles ih =>
      rw [List.filterMap_cons]
      cases s.recorded q with
      | none => exact ih.cons q
      | some held => exact ih.cons_cons q
  have hnames := (hroles.nodup Role.nodup_all).map (f := Role.name) fun _ _ => Role.name_injective
  rwa [List.map_map] at hnames ⊢

theorem lossless_roles (s : RoleSet) : Lossless 0 (depth + 1) s := by
  have hfits : (encode s).Fits (depth + 1) := .object fun m hm => by
    obtain ⟨p, -, rfl⟩ := List.mem_map.1 hm
    exact .bool _
  refine ⟨hfits, reads_any hfits, congrArg some (RoleSet.ext fun r => ?_)⟩
  show ((Members.ofList (sortedMembers _)).lookup r.name).bind Value.toBool? = s.recorded r
  rw [lookup_sorted s.nodup_names, RoleSet.toList, RoleSet.lookup_flags s r Role.nodup_all,
    if_pos r.mem_all]
  cases s.recorded r <;> rfl

theorem lossless_privileges (p : PrivilegeSet) : Lossless 0 (depth + 1) p := by
  refine Lossless.record rfl rfl
    (by decide : (PrivilegeSet.layout.map Prod.fst).Nodup) ?_ ?_
  · simp only [List.forall_mem_cons, List.not_mem_nil, false_implies, implies_true, and_true]
    exact ⟨(lossless_bool _).member rfl, (lossless_bool _).member rfl,
      (lossless_bool _).member rfl, (lossless_bool _).member rfl⟩
  · intro ms h
    simp only [decode?, Value.record?, Record.getD?, h]
    rfl

theorem lossless_lastModified {m : LastModified} (h : Regular m.timestamp) :
    Lossless 0 (depth + 1) m := by
  refine Lossless.record rfl rfl
    (by decide : (LastModified.layout.map Prod.fst).Nodup) ?_ fun ms hms => ?_
  · simp only [List.forall_mem_cons, List.not_mem_nil, false_implies, implies_true, and_true]
    exact ⟨(lossless_string _).member rfl, (lossless_instant h).member rfl⟩
  · have hhash := (@lossless_string depth m.hash).get? (r := ⟨fun k => ms.lookup k, false⟩)
      (hms "hash")
    have htime := (@lossless_instant depth _ h).get? (r := ⟨fun k => ms.lookup k, false⟩)
      (hms "timestamp")
    simp only [decode?, Value.record?, Option.bind_eq_bind, Option.bind_some, hhash, htime]
    rfl

end Parts

/-! ### The status feed -/

namespace UserFeed

/-- The members of a feed that are always written. -/
def fixedMembers (f : UserFeed) : Members := [
  ("isSuperuser", .bool f.isSuperuser),
  ("isViewer", .bool f.isViewer),
  ("isDirectlyAuthenticated", .bool f.isDirectlyAuthenticated),
  ("firstLoginAt", encode f.firstLoginAt),
  ("firstName", .string f.firstName),
  ("lastName", .string f.lastName),
  ("fullName", .string f.fullName),
  ("givenFirstName", .string f.givenFirstName),
  ("givenFullName", .string f.givenFullName),
  ("preferredName", .string f.preferredName),
  ("roles", encode f.roles),
  ("uid", encode f.uid),
  ("sid", encode f.sid),
  ("campusSolutionsID", encode f.campusSolutionsId),
  ("officialBmailAddress", encode f.officialBmailAddress),
  ("isCampusSolutionsStudent", .bool f.isCampusSolutionsStudent),
  ("isDelegateUser", .bool f.isDelegateUser),
  ("showSisProfileUI", .bool f.showSisProfileUi),
  ("hasDashboardTab", .bool f.hasDashboardTab),
  ("hasAcademicsTab", .bool f.hasAcademicsTab),
  ("canViewGrades", .bool f.canViewGrades),
  ("hasFinancialsTab", .bool f.hasFinancialsTab),
  ("hasToolboxTab", .bool f.hasToolboxTab),
  ("hasCanvasAccount", .bool f.hasCanvasAccount),
  ("hasGoogleAccessToken", .bool f.hasGoogleAccessToken),
  ("hasStudentHistory", .bool f.hasStudentHistory),
  ("hasInstructorHistory", .bool f.hasInstructorHistory),
  ("inEducationAbroadProgram", .bool f.inEducationAbroadProgram),
  ("googleEmail", encode f.googleEmail),
  ("canvasEmail", encode f.canvasEmail),
  ("noStudentId", .bool f.noStudentId)]

theorem encode_eq (f : UserFeed) : encode f = .object (f.fixedMembers ++
    optionalMember "delegateViewAsPrivileges" (f.delegateViewAsPrivileges.map encode) ++
    optionalMember "lastModified" (f.lastModified.map encode)) := rfl

/-- The instants of a feed are regular. -/
structure Regular (f : UserFeed) : Prop where
  firstLoginAt : ∀ i ∈ f.firstLoginAt, Time.Regular i
  lastModified : ∀ m ∈ f.lastModified, Time.Regular m.timestamp

theorem fixedMembers_read {depth : Nat} {f : UserFeed} (h : ∀ i ∈ f.firstLoginAt, Time.Regular i) :
    ∀ m ∈ f.fixedMembers, MemberReads layout (depth + 1) m := by
  simp only [fixedMembers, List.forall_mem_cons, List.not_mem_nil, false_implies, implies_true,
    and_true]
  exact ⟨(lossless_bool f.isSuperuser).member rfl, (lossless_bool f.isViewer).member rfl,
    (lossless_bool f.isDirectlyAuthenticated).member rfl, (lossless_optionInstant h).member rfl,
    (lossless_string f.firstName).member rfl, (lossless_string f.lastName).member rfl,
    (lossless_string f.fullName).member rfl, (lossless_string f.givenFirstName).member rfl,
    (lossless_string f.givenFullName).member rfl, (lossless_string f.preferredName).member rfl,
    (lossless_roles f.roles).member rfl, (lossless_uid f.uid).member rfl,
    (lossless_optionString f.sid).member rfl,
    (lossless_optionString f.campusSolutionsId).member rfl,
    (lossless_optionString f.officialBmailAddress).member rfl,
    (lossless_bool f.isCampusSolutionsStudent).member rfl,
    (lossless_bool f.isDelegateUser).member rfl, (lossless_bool f.showSisProfileUi).member rfl,
    (lossless_bool f.hasDashboardTab).member rfl, (lossless_bool f.hasAcademicsTab).member rfl,
    (lossless_bool f.canViewGrades).member rfl, (lossless_bool f.hasFinancialsTab).member rfl,
    (lossless_bool f.hasToolboxTab).member rfl, (lossless_bool f.hasCanvasAccount).member rfl,
    (lossless_bool f.hasGoogleAccessToken).member rfl,
    (lossless_bool f.hasStudentHistory).member rfl,
    (lossless_bool f.hasInstructorHistory).member rfl,
    (lossless_bool f.inEducationAbroadProgram).member rfl,
    (lossless_optionString f.googleEmail).member rfl,
    (lossless_optionString f.canvasEmail).member rfl, (lossless_bool f.noStudentId).member rfl⟩

theorem nodup_members (f : UserFeed) :
    ((f.fixedMembers ++
      optionalMember "delegateViewAsPrivileges" (f.delegateViewAsPrivileges.map encode) ++
      optionalMember "lastModified" (f.lastModified.map encode)).map Prod.fst).Nodup := by
  have hlayout : (layout.map Prod.fst).Nodup := by decide
  rw [List.map_append, List.map_append]
  refine List.Sublist.nodup ?_ hlayout
  exact ((List.Sublist.refl _).append (names_optionalMember _ _)).append (names_optionalMember _ _)

/-- A member that is left out when there is none is read when there is one. -/
theorem optionalMember_reads {α : Type} [Encode α] [Decode α] {depth : Nat} {k : String}
    {x : Option α} (hshape : layout.lookup k = some (Decode.shape (Option α)))
    (hne : ∀ y : α, encode y ≠ .null) (h : ∀ y ∈ x, Lossless 0 depth y) :
    ∀ m ∈ optionalMember k (x.map encode), MemberReads layout depth m := by
  cases x with
  | none => exact fun m hm => absurd hm List.not_mem_nil
  | some y => exact List.forall_mem_singleton.2 ((lossless_some (hne y) (h y rfl)).member hshape)

theorem encode_privileges_ne_null (p : PrivilegeSet) : encode p ≠ .null := fun h => nomatch h

theorem encode_lastModified_ne_null (m : LastModified) : encode m ≠ .null := fun h => nomatch h

/-- A feed is read back from the value that is written of it. -/
theorem lossless {depth : Nat} {f : UserFeed} (h : f.Regular) : Lossless 0 (depth + 2) f := by
  have hprivileges : ∀ p ∈ f.delegateViewAsPrivileges, Lossless 0 (depth + 1) p :=
    fun p _ => lossless_privileges p
  have hlast : ∀ m ∈ f.lastModified, Lossless 0 (depth + 1) m :=
    fun m hm => lossless_lastModified (h.lastModified m hm)
  refine Lossless.record (encode_eq f) rfl f.nodup_members ?_ fun ms hms => ?_
  · rw [List.forall_mem_append, List.forall_mem_append]
    exact ⟨⟨fixedMembers_read h.firstLoginAt,
      optionalMember_reads rfl encode_privileges_ne_null hprivileges⟩,
      optionalMember_reads rfl encode_lastModified_ne_null hlast⟩
  · obtain ⟨r, hr, hfind, hpositional⟩ : ∃ r, Value.record? layout (.object ms) = some r ∧
        (∀ k, r.find? k = ms.lookup k) ∧ r.positional = false := ⟨_, rfl, fun _ => rfl, rfl⟩
    simp only [← hfind] at hms
    have hbool : ∀ {k b}, r.find? k = some (.bool b) → r.get? k = some b :=
      (@lossless_bool depth _).get?
    have hstring : ∀ {k s}, r.find? k = some (.string s) → r.get? k = some s :=
      (@lossless_string depth _).get?
    have hoptional : ∀ {k} {s : Option String}, r.find? k = some (encode s).sorted →
        r.option? k = some s := (@lossless_optionString depth _).option?
    have hlogin : ∀ {k}, r.find? k = some (encode f.firstLoginAt).sorted →
        r.option? k = some f.firstLoginAt :=
      (@lossless_optionInstant depth _ h.firstLoginAt).option?
    have hroles : ∀ {k}, r.find? k = some (encode f.roles).sorted → r.get? k = some f.roles :=
      (@lossless_roles depth _).get?
    have huid : ∀ {k}, r.find? k = some (encode f.uid).sorted → r.get? k = some f.uid :=
      (@lossless_uid depth _).get?
    have hview : r.option? "delegateViewAsPrivileges" = some f.delegateViewAsPrivileges := by
      refine Lossless.optionalMember (fun p _ => encode_privileges_ne_null p) hprivileges
        hpositional ?_
      rw [hms]
      cases f.delegateViewAsPrivileges <;> cases f.lastModified <;> rfl
    have hmodified : r.option? "lastModified" = some f.lastModified := by
      refine Lossless.optionalMember (fun m _ => encode_lastModified_ne_null m) hlast hpositional ?_
      rw [hms]
      cases f.delegateViewAsPrivileges <;> cases f.lastModified <;> rfl
    refine bind_of_some hr ?_
    refine bind_of_some (hbool (hms "isSuperuser")) ?_
    refine bind_of_some (hbool (hms "isViewer")) ?_
    refine bind_of_some (hbool (hms "isDirectlyAuthenticated")) ?_
    refine bind_of_some (hlogin (hms "firstLoginAt")) ?_
    refine bind_of_some (hstring (hms "firstName")) ?_
    refine bind_of_some (hstring (hms "lastName")) ?_
    refine bind_of_some (hstring (hms "fullName")) ?_
    refine bind_of_some (hstring (hms "givenFirstName")) ?_
    refine bind_of_some (hstring (hms "givenFullName")) ?_
    refine bind_of_some (hstring (hms "preferredName")) ?_
    refine bind_of_some (hroles (hms "roles")) ?_
    refine bind_of_some (huid (hms "uid")) ?_
    refine bind_of_some (hoptional (hms "sid")) ?_
    refine bind_of_some (hoptional (hms "campusSolutionsID")) ?_
    refine bind_of_some (hoptional (hms "officialBmailAddress")) ?_
    refine bind_of_some (hbool (hms "isCampusSolutionsStudent")) ?_
    refine bind_of_some (hbool (hms "isDelegateUser")) ?_
    refine bind_of_some (hbool (hms "showSisProfileUI")) ?_
    refine bind_of_some (hbool (hms "hasDashboardTab")) ?_
    refine bind_of_some (hbool (hms "hasAcademicsTab")) ?_
    refine bind_of_some (hbool (hms "canViewGrades")) ?_
    refine bind_of_some (hbool (hms "hasFinancialsTab")) ?_
    refine bind_of_some (hbool (hms "hasToolboxTab")) ?_
    refine bind_of_some (hbool (hms "hasCanvasAccount")) ?_
    refine bind_of_some (hbool (hms "hasGoogleAccessToken")) ?_
    refine bind_of_some (hbool (hms "hasStudentHistory")) ?_
    refine bind_of_some (hbool (hms "hasInstructorHistory")) ?_
    refine bind_of_some (hbool (hms "inEducationAbroadProgram")) ?_
    refine bind_of_some (hoptional (hms "googleEmail")) ?_
    refine bind_of_some (hoptional (hms "canvasEmail")) ?_
    refine bind_of_some (hbool (hms "noStudentId")) ?_
    refine bind_of_some hview (bind_of_some hmodified ?_)
    rfl

theorem Regular.decodeText? {f : UserFeed} (h : f.Regular) :
    decodeText? (encodeText f) = some f :=
  ((@UserFeed.lossless 125 _ h).mono (Nat.zero_le 2)).decodeText?

end UserFeed

theorem LastModified.decodeText?_of_regular {m : LastModified} (h : Regular m.timestamp) :
    decodeText? (encodeText m) = some m :=
  ((@lossless_lastModified 126 _ h).mono (Nat.zero_le 2)).decodeText?

end CampusView
