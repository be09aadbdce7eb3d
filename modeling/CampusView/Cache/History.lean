import CampusView.Cache

/-!
# Accesses of the cache

`answersBy` gives what a sequence of accesses of one cache is answered, each with what the clock
reads then. `Kept` says from the accesses before it what a reader should be given: the last text
written under the key, if its time lasts and nothing forgot it since. An invalidation forgets by
paths, so it is described by the segments between the slashes of a key.
-/

namespace CampusView.Cache

open Time

/-! ### Paths -/

/-- The segments of a key. -/
def Key.segments (key : String) : List (List Char) := Text.splitOn '/' key.toList

/-- The path of `root` leads to the key and ends before it. -/
def Key.IsAncestor (root key : String) : Prop := segments root <+: segments key ∧ root ≠ key

/-! ### Accesses -/

/-- What is done with a cache. -/
inductive Access
  | read (key : String)
  | write (key value : String) (ttl : Nanos)
  | invalidate (root : String)
deriving DecidableEq, Repr

/-- After the access nothing is left of what was kept under the key before. -/
def Access.Replaces (key : String) : Access → Prop
  | read _ => False
  | write k _ _ => k = key
  | invalidate root => root = key ∨ Key.IsAncestor root key

/-- An access, and what the clock reads then. -/
structure TimedAccess where
  clock : Nanos
  access : Access
deriving DecidableEq, Repr

/-- A way to keep a text under a key from some time on. -/
abbrev Writer := Cache → Nanos → String → String → Nanos → Cache

/-- Keep a text under a key for `ttl`, and leave what has expired. -/
def put : Writer := fun c now key value ttl =>
  ⟨fun k => if k = key then some ⟨value, now + ttl⟩ else c.entry? k⟩

namespace TimedAccess

/-- What a reader is given. Nothing else is answered. -/
def answer (c : Cache) (a : TimedAccess) : Option String :=
  match a.access with
  | .read key => c.read a.clock key
  | _ => none

/-- The cache after an access, where `write` keeps texts. -/
def stepBy (write : Writer) (c : Cache) (a : TimedAccess) : Cache :=
  match a.access with
  | .read _ => c
  | .write key value ttl => write c a.clock key value ttl
  | .invalidate root => c.invalidate root

end TimedAccess

/-- The cache after a sequence of accesses, where `write` keeps texts. -/
def afterBy (write : Writer) (accesses : List TimedAccess) : Cache :=
  accesses.foldl (TimedAccess.stepBy write) ∅

/-- What a sequence of accesses is answered from a cache on, where `write` keeps texts. -/
def answersBy (write : Writer) : Cache → List TimedAccess → List (Option String)
  | _, [] => []
  | c, a :: rest => a.answer c :: answersBy write (a.stepBy write c) rest

/-- What a sequence of accesses of an empty cache is answered. -/
def answers (accesses : List TimedAccess) : List (Option String) :=
  answersBy Cache.write ∅ accesses

/-- The clock does not run back. -/
def InOrder (accesses : List TimedAccess) : Prop := accesses.Pairwise fun a b => a.clock ≤ b.clock

/-! ### What should be kept -/

/-- The last of the accesses that wrote under the key wrote this text, its time lasts, and nothing
forgot it since. -/
def Kept (past : List TimedAccess) (now : Nanos) (key value : String) : Prop :=
  ∃ before written ttl after, past = before ++ ⟨written, .write key value ttl⟩ :: after ∧
    now < written + ttl ∧ ∀ a ∈ after, ¬a.access.Replaces key

end CampusView.Cache
