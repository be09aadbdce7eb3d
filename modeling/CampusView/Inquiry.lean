import CampusView.Campus

/-!
# Inquiries

An `Inquiry` asks campus systems several questions at once and makes one answer of theirs. Its
calls are known before any of them is answered, they are made together, and it takes as long as
the slowest of them.

A system may answer each call otherwise, also when it is asked the same question twice. So
`outcome` is given the campus that each call meets, and `answer` is what comes out when all calls
meet the same.

Inquiries are put together with `<$>` and `<*>`; there is no way to let one question depend on the
answer to another.
-/

namespace CampusView

open Time

/-- Questions to campus systems, asked at once. -/
structure Inquiry (α : Type) where
  /-- The calls to be made. -/
  calls : List Call
  /-- What is made of the answers, where call `n` meets the campus `met n`. -/
  outcome : (met : Nat → Campus) → α

namespace Inquiry

instance : Applicative Inquiry where
  pure a := ⟨[], fun _ => a⟩
  seq f q := ⟨f.calls ++ (q ()).calls, fun met =>
    f.outcome met ((q ()).outcome fun n => met (f.calls.length + n))⟩

/-- One question. -/
def ask (s : System) (uid : Uid) : Inquiry (Lookup s.Answer) :=
  ⟨[⟨s, uid⟩], fun met => met 0 s uid⟩

/-- One question that is asked only if `wanted`; else nothing is known. -/
def askIf (wanted : Bool) (s : System) (uid : Uid) : Inquiry (Lookup s.Answer) :=
  if wanted then ask s uid else pure .notFound

/-- What is made of the answers of one campus. -/
def answer (q : Inquiry α) (c : Campus) : α := q.outcome fun _ => c

/-- How long the calls take together, when each may take no longer than the limit. -/
def duration (q : Inquiry α) (limit : Nanos) (delay : Nat → System → Nanos) : Nanos :=
  q.calls.zipIdx.foldl (fun longest (call, n) =>
    max longest (min (delay n call.system) (wholeMillis limit))) 0

section

variable (f : α → β) (g : Inquiry (α → β)) (q : Inquiry α) (a : α) (c : Campus)
  (met : Nat → Campus)

@[simp] theorem calls_pure : (pure a : Inquiry α).calls = [] := rfl

@[simp] theorem answer_pure : (pure a : Inquiry α).answer c = a := rfl

@[simp] theorem outcome_pure : (pure a : Inquiry α).outcome met = a := rfl

@[simp] theorem calls_seq : (g <*> q).calls = g.calls ++ q.calls := rfl

@[simp] theorem answer_seq : (g <*> q).answer c = g.answer c (q.answer c) := rfl

@[simp] theorem outcome_seq : (g <*> q).outcome met =
    g.outcome met (q.outcome fun n => met (g.calls.length + n)) := rfl

@[simp] theorem calls_map : (f <$> q).calls = q.calls := rfl

@[simp] theorem answer_map : (f <$> q).answer c = f (q.answer c) := rfl

@[simp] theorem outcome_map : (f <$> q).outcome met = f (q.outcome met) := by
  show f (q.outcome fun n => met (0 + n)) = _
  simp only [Nat.zero_add]

@[simp] theorem calls_ask (s : System) (uid : Uid) : (ask s uid).calls = [⟨s, uid⟩] := rfl

@[simp] theorem answer_ask (s : System) (uid : Uid) : (ask s uid).answer c = c s uid := rfl

@[simp] theorem outcome_ask (s : System) (uid : Uid) :
    (ask s uid).outcome met = met 0 s uid := rfl

end

end Inquiry

end CampusView
