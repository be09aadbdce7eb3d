import CampusView.Proofs.Json.Readable

/-!
# Values that are kept by writing and reading

`Lossless slack depth x` says that `x` is read back from what it is written as, where nothing nests
deeper than `depth`; `slack` bounds how many shapes a reader opens without taking a token. There is
one law for each kind of value, and a record is lossless if its members are
(`Lossless.record`). A value that is lossless at the greatest depth is read back from its text
(`Lossless.decodeText?`).
-/

namespace CampusView.Json

/-- The value is read back from what it is written as. -/
structure Lossless {α : Type} [Encode α] [Decode α] (slack depth : Nat) (x : α) : Prop where
  fits : (encode x).Fits depth
  reads : Reads slack (Decode.shape α) depth (encode x)
  decodes : decode? (encode x).sorted = some x

section

variable {α : Type} [Encode α] [Decode α] {slack slack' depth : Nat} {x : α}

theorem Lossless.mono (h : Lossless slack depth x) (hle : slack ≤ slack') :
    Lossless slack' depth x :=
  ⟨h.fits, h.reads.mono hle, h.decodes⟩

/-- A lossless value is read back from its text. -/
theorem Lossless.decodeText? (h : Lossless 2 maxDepth x) : decodeText? (encodeText x) = some x := by
  rw [decodeText?_encodeText h.fits h.reads, h.decodes]

/-! ### Scalars and optional values -/

theorem lossless_bool (b : Bool) : Lossless 0 depth b := ⟨.bool b, reads_any (.bool b), rfl⟩

theorem lossless_string (s : String) : Lossless 0 depth s :=
  ⟨.string s, reads_text depth s, rfl⟩

theorem lossless_none : Lossless 0 depth (none : Option α) :=
  ⟨.null, reads_null _ depth, rfl⟩

theorem Value.isNull_eq_false {v : Value} (h : v ≠ .null) : v.isNull = false := by
  cases v <;> first | rfl | exact absurd rfl h

theorem Value.sorted_ne_null {v : Value} (h : v ≠ .null) : v.sorted ≠ .null := by
  cases v <;> simp_all [Value.sorted]

theorem lossless_some (hne : encode x ≠ .null) (h : Lossless slack depth x) :
    Lossless (slack + 1) depth (some x) := by
  refine ⟨h.fits, reads_optional hne h.reads, ?_⟩
  show (if (encode x).sorted.isNull then some none else (decode? (encode x).sorted).map some) = _
  rw [if_neg (by simp [Value.isNull_eq_false (Value.sorted_ne_null hne)]), h.decodes]
  rfl

theorem Lossless.option (hne : ∀ x : α, encode x ≠ .null) {x : Option α}
    (h : ∀ y ∈ x, Lossless slack depth y) : Lossless (slack + 1) depth x := by
  cases x with
  | none => exact lossless_none.mono (Nat.zero_le _)
  | some x => exact lossless_some (hne x) (h x rfl)

end

/-! ### Records -/

/-- A member of a record that is read under the shape the layout has for it. -/
def MemberReads (layout : Layout) (depth : Nat) (m : String × Value) : Prop :=
  ∃ shape, layout.lookup m.1 = some shape ∧ m.2.Fits depth ∧ Reads 2 shape depth m.2

theorem Lossless.member {α : Type} [Encode α] [Decode α] {slack depth : Nat} {x : α}
    {layout : Layout} {k : String} (h : Lossless slack depth x)
    (hshape : layout.lookup k = some (Decode.shape α)) (hslack : slack ≤ 2 := by decide) :
    MemberReads layout depth (k, encode x) := ⟨_, hshape, h.fits, h.reads.mono hslack⟩

theorem fits_record {layout : Layout} {depth : Nat} {ms : Members}
    (h : ∀ m ∈ ms, MemberReads layout depth m) : (Value.object ms).Fits (depth + 1) :=
  .object fun m hm => (h m hm).choose_spec.2.1

theorem reads_memberwise {layout : Layout} {depth : Nat} {ms : Members}
    (hnames : (ms.map Prod.fst).Nodup) (h : ∀ m ∈ ms, MemberReads layout depth m) :
    Reads 0 (.record layout) (depth + 1) (.object ms) :=
  reads_record hnames fun m hm => ⟨_, (h m hm).choose_spec.1, (h m hm).choose_spec.2.2⟩

/-- A member that was put in its place holds its own value in order. -/
theorem lookup_sorted {ms : Members} (hnames : (ms.map Prod.fst).Nodup) (k : String) :
    (Members.ofList (sortedMembers ms)).lookup k = (ms.lookup k).map Value.sorted := by
  have hfst : (sortedMembers ms).map Prod.fst = ms.map Prod.fst := by
    rw [sortedMembers_eq, List.map_map]
    rfl
  rw [Members.lookup_ofList, Members.lookup_reverse (hfst ▸ hnames), sortedMembers_eq]
  clear hnames hfst
  induction ms with
  | nil => rfl
  | cons m ms ih =>
    rw [List.map_cons, Members.lookup_cons, Members.lookup_cons, ih]
    split <;> rfl

section Found

variable {α : Type} [Encode α] [Decode α] {slack depth : Nat} {x : α} {r : Record} {k : String}

/-- A lossless member is taken from the record that holds it. -/
theorem Lossless.get? (h : Lossless slack depth x)
    (hfind : r.find? k = some (encode x).sorted) : r.get? k = some x := by
  rw [Record.get?, hfind, Option.bind_some, h.decodes]

theorem Lossless.option? {x : Option α} (h : Lossless slack depth x)
    (hfind : r.find? k = some (encode x).sorted) : r.option? k = some x := by
  simp only [Record.option?, hfind, h.decodes]

/-- A member that is left out when there is none. -/
theorem Lossless.optionalMember {x : Option α} (h : ∀ y ∈ x, encode y ≠ .null)
    (hx : ∀ y ∈ x, Lossless slack depth y) (hr : r.positional = false)
    (hfind : r.find? k = x.map fun y => (encode y).sorted) : r.option? k = some x := by
  cases x with
  | none => simp [Record.option?, hfind, hr]
  | some y =>
    exact (lossless_some (h y rfl) (hx y rfl)).option? (x := Option.some y) hfind

end Found

/-- A record is lossless if its members are read, and decoding finds them. -/
theorem Lossless.record {α : Type} [Encode α] [Decode α] {depth : Nat} {x : α} {layout : Layout}
    {ms : Members} (hencode : encode x = .object ms) (hshape : Decode.shape α = .record layout)
    (hnames : (ms.map Prod.fst).Nodup) (h : ∀ m ∈ ms, MemberReads layout depth m)
    (hdecode : ∀ ms', (∀ k, List.lookup k ms' = (ms.lookup k).map Value.sorted) →
      decode? (.object ms') = some x) : Lossless 0 (depth + 1) x := by
  refine ⟨?_, ?_, ?_⟩
  · rw [hencode]
    exact fits_record h
  · rw [hencode, hshape]
    exact reads_memberwise hnames h
  · rw [hencode]
    exact hdecode _ (lookup_sorted hnames)

end CampusView.Json
