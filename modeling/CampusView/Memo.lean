import CampusView.Feed
import CampusView.Program

/-!
# Values in the cache

`cached` and `remember` read and keep values of a type in the cache. A text that is no value of
the type is as good as none, so `cachedOr` computes then. A computation that fails is not kept.

`stamp` gives the time of the last change of something with a content hash: as long as the hash
stays the same, so does the time.
-/

namespace CampusView

open Json Time

namespace Program

/-- The value in the cache under a key. -/
def cached [Decode α] (key : String) : Program (Option α) := do
  return (← perform (.readCache key)).bind decodeText?

/-- Keep a value in the cache. -/
def remember [Encode α] (key : String) (value : α) (ttl : Nanos) : Program Unit :=
  perform (.writeCache key (encodeText value) ttl)

/-- The value in the cache under a key, else the computed one, which is kept as long as it says. -/
def cachedOr [Encode α] [Decode α] (key : String) (compute : Program (Except ε (α × Nanos))) :
    Program (Except ε α) := do
  match ← cached key with
  | some value => return .ok value
  | none =>
    match ← compute with
    | .error e => return .error e
    | .ok (value, ttl) =>
      remember key value ttl
      return .ok value

end Program

/-- How long the time of a change is kept. It is meant to outlive the feed it belongs to. -/
def stampTtl : Nanos := seconds 604800

/-- The time of the last change of what has this hash. -/
def stamp (key hash : String) : Program LastModified := do
  let last : Option LastModified ← Program.cached key
  match last.filter fun m => m.hash == hash with
  | some m => return m
  | none =>
    let m : LastModified := ⟨hash, ← Program.perform .readClock⟩
    Program.remember key m stampTtl
    return m

end CampusView
