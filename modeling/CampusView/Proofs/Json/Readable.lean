import CampusView.Proofs.Json.Reading

/-!
# What reading returns

A value that was read nests no deeper than allowed, and the members of its objects are in order,
each name once. If the numbers of the text are read back, the value is `Readable`
(`readable_of_read`), and so it is read back from its own text.
-/

namespace CampusView.Json

/-- The members of all objects are in order, each name once. -/
inductive Value.Ordered : Value → Prop
  | null : Ordered .null
  | bool (b : Bool) : Ordered (.bool b)
  | number (n : Number) : Ordered (.number n)
  | string (s : String) : Ordered (.string s)
  | array {xs : List Value} (h : ∀ x ∈ xs, Ordered x) : Ordered (.array xs)
  | object {ms : Members} (h : ∀ m ∈ ms, Ordered m.2) (hs : Members.Sorted ms) :
    Ordered (.object ms)

theorem Value.Ordered.sorted_eq {v : Value} (h : v.Ordered) : v.sorted = v := by
  induction h with
  | null | bool | number | string => rfl
  | @array xs _ ih =>
    rw [Value.sorted, sortedItems_eq, List.map_congr_left ih, List.map_id']
  | @object ms _ hs ih =>
    have hms : sortedMembers ms = ms := by
      rw [sortedMembers_eq]
      conv_rhs => rw [← List.map_id ms]
      exact List.map_congr_left fun m hm => by rw [ih m hm]; rfl
    rw [Value.sorted, hms, Members.ofList_eq_self hs]

/-- What reading returns at a depth, where numbers are read back. -/
structure Value.Readable (depth : Nat) (v : Value) : Prop where
  fits : v.Fits depth
  ordered : v.Ordered

theorem Value.Readable.mono {depth depth' : Nat} {v : Value} (h : v.Readable depth)
    (hle : depth ≤ depth') : v.Readable depth' := ⟨h.fits.mono hle, h.ordered⟩

theorem Value.Readable.array {depth : Nat} {xs : List Value} (h : ∀ x ∈ xs, x.Readable depth) :
    (Value.array xs).Readable (depth + 1) :=
  ⟨.array fun x hx => (h x hx).fits, .array fun x hx => (h x hx).ordered⟩

theorem Value.Readable.object {depth : Nat} {ms : Members} (h : ∀ m ∈ ms, m.2.Readable depth) :
    (Value.object (Members.ofList ms)).Readable (depth + 1) :=
  ⟨.object fun m hm => (h m (Members.mem_ofList hm)).fits,
    .object (fun m hm => (h m (Members.mem_ofList hm)).ordered) (Members.sorted_ofList ms)⟩

theorem Value.Readable.array_nil {depth : Nat} (h : depth ≠ 0) :
    (Value.array []).Readable depth := by
  obtain ⟨depth, rfl⟩ := Nat.exists_eq_succ_of_ne_zero h
  exact .array fun _ hx => absurd hx List.not_mem_nil

theorem Value.Readable.object_nil {depth : Nat} (h : depth ≠ 0) :
    (Value.object []).Readable depth := by
  obtain ⟨depth, rfl⟩ := Nat.exists_eq_succ_of_ne_zero h
  exact @Value.Readable.object _ [] fun _ hm => absurd hm List.not_mem_nil

/-! ### Readings that succeed -/

section Ensures

variable {α β : Type}

/-- If the reading succeeds, the result is as `P` says. -/
def Ensures (P : α → Prop) (x : Except Fault α) : Prop := ∀ a, x = .ok a → P a

theorem ensures_error (P : α → Prop) (e : Fault) : Ensures P (.error e) := fun _ h => nomatch h

theorem ensures_ok {P : α → Prop} {a : α} (h : P a) : Ensures P (.ok a) := by
  rintro b hb
  obtain rfl := Except.ok.inj hb
  exact h

theorem ensures_bind {P : α → Prop} {Q : β → Prop} {x : Except Fault α}
    {f : α → Except Fault β} (hx : Ensures P x) (hf : ∀ a, P a → Ensures Q (f a)) :
    Ensures Q (x >>= f) := by
  cases x with
  | error e => exact ensures_error Q e
  | ok a => exact hf a (hx a rfl)

/-- If the reading succeeds, it returns what is as `P` says, and leaves exact tokens. -/
def Yields (P : α → Prop) : Except Fault (WithRest α) → Prop :=
  Ensures fun p => P p.1 ∧ ExactTokens p.2

variable {P : α → Prop} {Q : β → Prop}

theorem yields_error (e : Fault) : Yields P (.error e) := ensures_error _ e

theorem yields_ok {a : α} {r : List Token} (ha : P a) (hr : ExactTokens r) :
    Yields P (.ok (a, r)) := ensures_ok ⟨ha, hr⟩

theorem yields_bind {x : Except Fault (WithRest α)}
    {f : WithRest α → Except Fault (WithRest β)} (hx : Yields P x)
    (hf : ∀ a r, P a → ExactTokens r → Yields Q (f (a, r))) : Yields Q (x >>= f) :=
  ensures_bind hx fun p hp => hf p.1 p.2 hp.1 hp.2

end Ensures

theorem ExactTokens.tail {t : Token} {ts : List Token} (h : ExactTokens (t :: ts)) :
    ExactTokens ts := fun u hu => h u (List.mem_cons_of_mem _ hu)

/-! ### Values in full -/

/-- What the readers of values in full return within some number of steps. -/
structure ReadersYield (fuel : Nat) : Prop where
  value : ∀ {depth ts}, ExactTokens ts →
    Yields (fun v => v.Readable depth) (readValue fuel depth ts)
  items : ∀ {depth ts}, ExactTokens ts →
    Yields (fun xs => ∀ x ∈ xs, x.Readable depth) (readItems fuel depth ts)
  members : ∀ {depth ts}, ExactTokens ts →
    Yields (fun ms => ∀ m ∈ ms, m.2.Readable depth) (readMembers fuel depth ts)

theorem readersYield (fuel : Nat) : ReadersYield fuel := by
  induction fuel with
  | zero => exact ⟨fun _ => yields_error _, fun _ => yields_error _, fun _ => yields_error _⟩
  | succ fuel ih =>
    refine ⟨fun {depth ts} hts => ?_, fun {depth ts} hts => ?_, fun {depth ts} hts => ?_⟩
    · unfold readValue
      split
      · exact yields_ok ⟨.null, .null⟩ hts.tail
      · exact yields_ok ⟨.bool _, .bool _⟩ hts.tail
      · exact yields_ok ⟨.number (hts _ List.mem_cons_self), .number _⟩ hts.tail
      · exact yields_ok ⟨.string _, .string _⟩ hts.tail
      · split
        · exact yields_error _
        · next hdepth => exact yields_ok (.array_nil hdepth) hts.tail.tail
        · exact yields_bind (ih.items hts.tail) fun xs r hxs hr => yields_ok (.array hxs) hr
      · split
        · exact yields_error _
        · next hdepth => exact yields_ok (.object_nil hdepth) hts.tail.tail
        · exact yields_bind (ih.members hts.tail) fun ms r hms hr => yields_ok (.object hms) hr
      · exact yields_error _
    · unfold readItems
      refine yields_bind (ih.value hts) fun x r hx hr => ?_
      dsimp only
      split
      · refine yields_bind (ih.items hr.tail) fun xs r hxs hr => yields_ok ?_ hr
        exact List.forall_mem_cons.2 ⟨hx, hxs⟩
      · exact yields_ok (List.forall_mem_singleton.2 hx) hr.tail
      · exact yields_error _
    · unfold readMembers
      split
      · refine yields_bind (ih.value hts.tail.tail) fun v r hv hr => ?_
        dsimp only
        split
        · refine yields_bind (ih.members hr.tail) fun ms r hms hr => yields_ok ?_ hr
          exact List.forall_mem_cons.2 ⟨hv, hms⟩
        · exact yields_ok (List.forall_mem_singleton.2 hv) hr.tail
        · exact yields_error _
      · exact yields_error _

/-! ### Values that are passed over -/

/-- If the text can be passed over, the tokens after it are exact. -/
def Skips : Except Fault (List Token) → Prop := Ensures ExactTokens

/-- What is left when values are passed over within some number of steps. -/
structure SkippersLeave (fuel : Nat) : Prop where
  value : ∀ {ts}, ExactTokens ts → Skips (skipValue fuel ts)
  items : ∀ {ts}, ExactTokens ts → Skips (skipItems fuel ts)
  members : ∀ {ts}, ExactTokens ts → Skips (skipMembers fuel ts)

theorem skippersLeave (fuel : Nat) : SkippersLeave fuel := by
  induction fuel with
  | zero =>
    exact ⟨fun _ => ensures_error _ _, fun _ => ensures_error _ _, fun _ => ensures_error _ _⟩
  | succ fuel ih =>
    refine ⟨fun {ts} hts => ?_, fun {ts} hts => ?_, fun {ts} hts => ?_⟩
    · unfold skipValue
      split
      · exact ensures_ok hts.tail
      · exact ensures_ok hts.tail
      · exact ensures_ok hts.tail
      · exact ensures_ok hts.tail
      · exact ensures_ok hts.tail.tail
      · exact ih.items hts.tail
      · exact ensures_ok hts.tail.tail
      · exact ih.members hts.tail
      · exact ensures_error _ _
    · unfold skipItems
      refine ensures_bind (ih.value hts) fun r hr => ?_
      split
      · exact ih.items hr.tail
      · exact ensures_ok hr.tail
      · exact ensures_error _ _
    · unfold skipMembers
      split
      · refine ensures_bind (ih.value hts.tail.tail) fun r hr => ?_
        split
        · exact ih.members hr.tail
        · exact ensures_ok hr.tail
        · exact ensures_error _ _
      · exact ensures_error _ _

/-! ### Values of a shape -/

/-- What the readers of values of a shape return within some number of steps. -/
structure ShapersYield (fuel : Nat) : Prop where
  shape : ∀ {depth shape ts}, ExactTokens ts →
    Yields (fun v => v.Readable depth) (readShape fuel depth shape ts)
  list : ∀ {depth item ts}, ExactTokens ts →
    Yields (fun xs => ∀ x ∈ xs, x.Readable depth) (readList fuel depth item ts)
  places : ∀ {depth shapes ts}, ExactTokens ts →
    Yields (fun xs => ∀ x ∈ xs, x.Readable depth) (readPlaces fuel depth shapes ts)
  named : ∀ {depth shapes seen ts}, ExactTokens ts →
    Yields (fun ms => ∀ m ∈ ms, m.2.Readable depth) (readNamed fuel depth shapes seen ts)

section

variable {fuel : Nat} (ih : ShapersYield fuel)

include ih

theorem ShapersYield.readShape_succ {depth : Nat} {shape : Shape} {ts : List Token}
    (hts : ExactTokens ts) :
    Yields (fun v => v.Readable depth) (readShape (fuel + 1) depth shape ts) := by
  unfold readShape
  split
  · exact (readersYield (fuel + 1)).value hts
  · exact yields_ok ⟨.string _, .string _⟩ hts.tail
  · exact yields_ok ⟨.null, .null⟩ hts.tail
  · exact ih.shape hts
  · split
    · exact yields_error _
    · next hdepth => exact yields_ok (.array_nil hdepth) hts.tail.tail
    · exact yields_bind (ih.list hts.tail) fun xs r hxs hr => yields_ok (.array hxs) hr
  · split
    · exact yields_error _
    · next hdepth => exact yields_ok (.array_nil hdepth) hts.tail.tail
    · exact yields_bind (ih.places hts.tail) fun xs r hxs hr => yields_ok (.array hxs) hr
  · split
    · exact yields_error _
    · next hdepth => exact yields_ok (.object_nil hdepth) hts.tail.tail
    · exact yields_bind (ih.named hts.tail) fun ms r hms hr => yields_ok (.object hms) hr
  · exact yields_error _

theorem ShapersYield.readList_succ {depth : Nat} {item : Shape} {ts : List Token}
    (hts : ExactTokens ts) :
    Yields (fun xs => ∀ x ∈ xs, x.Readable depth) (readList (fuel + 1) depth item ts) := by
  unfold readList
  refine yields_bind (ih.shape hts) fun x r hx hr => ?_
  dsimp only
  split
  · refine yields_bind (ih.list hr.tail) fun xs r hxs hr => yields_ok ?_ hr
    exact List.forall_mem_cons.2 ⟨hx, hxs⟩
  · exact yields_ok (List.forall_mem_singleton.2 hx) hr.tail
  · exact yields_error _

theorem ShapersYield.readPlaces_succ {depth : Nat} {shapes : List Shape} {ts : List Token}
    (hts : ExactTokens ts) :
    Yields (fun xs => ∀ x ∈ xs, x.Readable depth) (readPlaces (fuel + 1) depth shapes ts) := by
  unfold readPlaces
  split
  · next heq =>
    obtain rfl := Nat.succ.inj heq
    refine yields_bind (ih.shape hts) fun x r hx hr => ?_
    dsimp only
    split
    · refine yields_bind (ih.places hr.tail) fun xs r hxs hr => yields_ok ?_ hr
      exact List.forall_mem_cons.2 ⟨hx, hxs⟩
    · exact yields_ok (List.forall_mem_singleton.2 hx) hr.tail
    · exact yields_error _
  · exact yields_error _

theorem ShapersYield.readNamed_succ {depth : Nat} {shapes : Layout} {seen : List String}
    {ts : List Token} (hts : ExactTokens ts) :
    Yields (fun ms => ∀ m ∈ ms, m.2.Readable depth)
      (readNamed (fuel + 1) depth shapes seen ts) := by
  unfold readNamed
  split
  · split
    · exact yields_error _
    · split
      · split
        · -- a name of the layout
          refine yields_bind (ih.shape hts.tail.tail) fun v r hv hr => ?_
          dsimp only
          split
          · refine yields_bind (ih.named hr.tail) fun ms r hms hr => yields_ok ?_ hr
            exact List.forall_mem_cons.2 ⟨hv, hms⟩
          · exact yields_ok (List.forall_mem_singleton.2 hv) hr.tail
          · exact yields_error _
        · -- another name, whose value is passed over
          refine ensures_bind ((skippersLeave fuel).value hts.tail.tail) fun r hr => ?_
          split
          · exact ih.named hr.tail
          · exact ensures_ok ⟨fun _ hm => absurd hm List.not_mem_nil, hr.tail⟩
          · exact ensures_error _ _
      · exact yields_error _
  · exact yields_error _

end

theorem shapersYield (fuel : Nat) : ShapersYield fuel := by
  induction fuel with
  | zero =>
    exact ⟨fun _ => yields_error _, fun _ => yields_error _, fun _ => yields_error _,
      fun _ => yields_error _⟩
  | succ fuel ih =>
    exact ⟨ih.readShape_succ, ih.readList_succ, ih.readPlaces_succ, ih.readNamed_succ⟩

/-- What was read is readable, if the numbers of the text are read back. -/
theorem readable_of_read {shape : Shape} {text : String} {v : Value}
    (hts : ExactTokens (tokens text)) (h : read shape text = .ok v) : v.Readable maxDepth := by
  suffices hread : Ensures (fun v => v.Readable maxDepth) (read shape text) from hread v h
  refine ensures_bind ((shapersYield _).shape hts) fun p hp => ?_
  obtain ⟨v, r⟩ := p
  dsimp only
  split
  · exact ensures_ok hp.1
  · exact ensures_error _ _

end CampusView.Json
