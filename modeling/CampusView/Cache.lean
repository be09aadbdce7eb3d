import CampusView.Text.Split
import CampusView.Time.Duration

/-!
# The cache

The cache keeps texts under keys for a limited time. `read` gives a text while its time lasts,
`write` replaces what was there, and `invalidate` forgets a key and every key below it. A write
also drops what has expired, which no reader can tell.

The cache is a function from keys to entries, and the monotonic clock is an argument.
-/

namespace CampusView

open Time

/-- A text that is kept until some time. -/
structure CacheEntry where
  value : String
  expiresAt : Nanos
deriving DecidableEq, Repr

/-- The entry still lasts. -/
def CacheEntry.isLive (now : Nanos) (e : CacheEntry) : Bool := now < e.expiresAt

/-- Texts that are kept for a limited time. -/
structure Cache where
  /-- What is kept under a key, expired or not. -/
  entry? : String → Option CacheEntry

namespace Cache

@[ext] theorem ext {a b : Cache} (h : ∀ k, a.entry? k = b.entry? k) : a = b := by
  cases a
  cases b
  congr
  exact funext h

/-- Nothing kept. -/
def empty : Cache := ⟨fun _ => none⟩

instance : EmptyCollection Cache := ⟨empty⟩
instance : Inhabited Cache := ⟨empty⟩

/-- `key` is `root` or lies below it. -/
def covers (root key : String) : Bool :=
  key == root || (Text.stripStart? (root ++ "/") key).isSome

/-- The text under a key, while it lasts. -/
def read (c : Cache) (now : Nanos) (key : String) : Option String :=
  ((c.entry? key).filter (CacheEntry.isLive now)).map CacheEntry.value

/-- Keep a text under a key for `ttl`, and drop what has expired. -/
def write (c : Cache) (now : Nanos) (key value : String) (ttl : Nanos) : Cache :=
  ⟨fun k =>
    if k = key then some ⟨value, now + ttl⟩ else (c.entry? k).filter (CacheEntry.isLive now)⟩

/-- Forget a key and every key below it. -/
def invalidate (c : Cache) (root : String) : Cache :=
  ⟨fun k => if covers root k then none else c.entry? k⟩

section

variable (c : Cache) (now later : Nanos) (k key root value : String) (ttl : Nanos)

@[simp] theorem read_empty : (∅ : Cache).read now key = none := rfl

@[simp] theorem read_invalidate :
    (c.invalidate root).read now key = if covers root key then none else c.read now key := by
  by_cases h : covers root key <;> simp [read, invalidate, h]

/-- What a write does to later reads: the drop of expired entries is not seen. -/
theorem read_write (h : now ≤ later) :
    (c.write now key value ttl).read later k =
      if k = key then (if later < now + ttl then some value else none) else c.read later k := by
  by_cases hk : k = key
  · by_cases hl : later < now + ttl <;>
      simp [read, write, hk, hl, CacheEntry.isLive, Option.filter]
  · simp only [read, write, hk, if_false]
    cases he : c.entry? k with
    | none => rfl
    | some e =>
      by_cases h₁ : later < e.expiresAt
      · have h₂ : now < e.expiresAt := Nat.lt_of_le_of_lt h h₁
        simp [Option.filter, CacheEntry.isLive, h₁, h₂]
      · by_cases h₂ : now < e.expiresAt <;> simp [Option.filter, CacheEntry.isLive, h₁, h₂]

end

end Cache

end CampusView
