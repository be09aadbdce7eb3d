import CampusView.Proofs.AcademicsCodec
import CampusView.Proofs.Standing
import Mathlib.Data.Set.Basic

/-!
# What the cache holds is current

`Current` says of a key and a text in the cache that the text is what would be written there now:
the page of a user, or the feed of a user in some session of a given set. What is read of a current
text is the feed itself (`Current.eq_freshFeed`), or the page as it is read back
(`Current.eq_reread`), which is the page itself if its numbers are read back (`reread_freshPage`). A
write to the store leaves everything current that is not forgotten with its user
(`Current.of_invalidated`).
-/

namespace CampusView

open Json Time

/-- The page of a user, as the campus system answers. A user without a record has an empty one. -/
def freshPage (campus : Campus) (uid : Uid) : AcademicsFeed :=
  (campus .academics uid).found?.getD {}

/-- The page as it is read from its text, or the page itself if that cannot be read. -/
def AcademicsFeed.reread (f : AcademicsFeed) : AcademicsFeed :=
  (decodeText? (encodeText f)).getD f

theorem AcademicsFeed.Kept.reread_eq {f : AcademicsFeed} (h : f.Kept 120) : f.reread = f := by
  rw [AcademicsFeed.reread, (h.lossless.mono (Nat.zero_le 2)).decodeText?, Option.getD_some]

/-- Academics pages are read from texts whose numbers are read back. -/
def Campus.ExactAcademics (campus : Campus) : Prop :=
  ∀ uid page, campus .academics uid = .found page →
    ∃ text, ExactTokens (tokens text) ∧ decodeText? text = some page

theorem Campus.ExactAcademics.within {campus : Campus} (h : campus.ExactAcademics) (limit : Nanos)
    (delay : System → Nanos) : (campus.within limit delay).ExactAcademics := by
  intro uid page hpage
  unfold Campus.within Lookup.within at hpage
  split at hpage
  · exact h uid page hpage
  · cases hpage

/-- A page whose numbers are read back is read back from the cache. -/
theorem reread_freshPage {campus : Campus} (h : campus.ExactAcademics) (uid : Uid) :
    (freshPage campus uid).reread = freshPage campus uid := by
  have hempty : ({} : AcademicsFeed).Kept 120 :=
    AcademicsFeed.kept_of_decodeText? (by decide : ExactTokens (tokens "[]")) rfl
  apply AcademicsFeed.Kept.reread_eq
  unfold freshPage
  cases hpage : campus .academics uid with
  | found page =>
    obtain ⟨text, hexact, htext⟩ := h uid page hpage
    exact AcademicsFeed.kept_of_decodeText? hexact htext
  | notFound => exact hempty
  | errored details => exact hempty

/-- The text is what would be kept now under the key, where feeds are those of sessions of `S`. -/
inductive Current (S : Set Authentication) (settings : Settings) (campus : Campus) (store : Store) :
    String → String → Prop
  | stamp (uid : Uid) (view text : String) :
      Current S settings campus store (Cache.Key.stamp uid view) text
  | page (uid : Uid) :
      Current S settings campus store (Cache.Key.academics uid) (encodeText (freshPage campus uid))
  | feed {auth : Authentication} {uid : Uid} (hauth : auth ∈ S) (huid : auth.userId = some uid) :
      Current S settings campus store (Cache.Key.status uid (viewKey auth))
        (encodeText (freshFeed settings campus auth uid (store.data? uid)))

namespace Current

variable {S : Set Authentication} {settings : Settings} {campus : Campus} {store store' : Store}
  {key text : String} {uid : Uid}

theorem of_data (h : Current S settings campus store key text)
    (hdata : ∀ u, store'.data? u = store.data? u) : Current S settings campus store' key text := by
  cases h with
  | stamp u view text => exact .stamp u view text
  | page u => exact .page u
  | @feed auth u hauth hu => exact hdata u ▸ .feed hauth hu

/-- What is not forgotten with a user stays current when only the data of that user changes. -/
theorem of_invalidated (hkey : Cache.covers (Cache.Key.user uid) key = false)
    (h : Current S settings campus store key text)
    (hdata : ∀ u, u ≠ uid → store'.data? u = store.data? u) :
    Current S settings campus store' key text := by
  cases h with
  | stamp u view text => exact .stamp u view text
  | page u => exact .page u
  | @feed auth u hauth hu =>
    rw [Cache.covers_user_status, decide_eq_false_iff_not] at hkey
    exact hdata u (Ne.symm hkey) ▸ .feed hauth hu

/-- What is kept under the key of a page is its text. -/
theorem eq_encodeText (h : Current S settings campus store (Cache.Key.academics uid) text) :
    text = encodeText (freshPage campus uid) := by
  generalize hkey : Cache.Key.academics uid = key at h
  cases h with
  | stamp u view text => exact absurd hkey.symm (Cache.Key.stamp_ne_academics u uid view)
  | page u =>
    obtain rfl := Cache.Key.academics_inj hkey
    rfl
  | feed hauth hu => exact absurd hkey (Cache.Key.academics_ne_status _ _ _)

/-- What is read under the key of a page is the page as it is read back. -/
theorem eq_reread (h : Current S settings campus store (Cache.Key.academics uid) text)
    {page : AcademicsFeed} (hpage : decodeText? text = some page) :
    page = (freshPage campus uid).reread := by
  rw [AcademicsFeed.reread, ← h.eq_encodeText, hpage, Option.getD_some]

/-- What is read under the key of a session of `S` is the feed of that session, if sessions of one
view have the same standing. -/
theorem eq_freshFeed (hS : ∀ a ∈ S, ∀ b ∈ S, a.SameView b → a.SameStanding b)
    {b : Authentication} (hb : b ∈ S) (huid : b.userId = some uid)
    (h : Current S settings campus store (Cache.Key.status uid (viewKey b)) text) {f : UserFeed}
    (hf : decodeText? text = some f) :
    f = freshFeed settings campus b uid (store.data? uid) := by
  generalize hkey : Cache.Key.status uid (viewKey b) = key at h
  cases h with
  | stamp u view text => exact absurd hkey.symm (Cache.Key.stamp_ne_status u uid view _)
  | page u => exact absurd hkey.symm (Cache.Key.academics_ne_status _ _ _)
  | @feed a u ha hu =>
    obtain ⟨rfl, hview⟩ := Cache.Key.status_inj hkey
    have hsame : b.SameView a := ⟨by rw [huid]; rfl, huid.trans hu.symm, hview⟩
    rw [decodeText?_freshFeed] at hf
    obtain rfl := Option.some.inj hf
    exact (freshFeed_congr hsame (hS b hb a ha hsame) _ _ _ _).symm

end Current

end CampusView
