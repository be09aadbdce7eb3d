import CampusView.Proofs.Json.Digits
import CampusView.Time.Format
import Mathlib.Data.List.TakeWhile
import Mathlib.Tactic.Common

/-!
# Instants read back from their text

* A clock never shows a leap second but at the end of a minute; such an instant is `Regular`, and
  every instant that was read is (`regular_of_parse?`).
* A regular instant is read back from its text in the loose form (`parseLoose?_toText`).
* An instant in a year of four digits is read back from RFC 3339 as `Instant.settled`, which is the
  instant itself if it is regular (`parse?_toOffsetText`). Of another year nothing is read back
  (`parse?_toOffsetText_eq_none`).
-/

namespace CampusView.Time

open CampusView.Text (isBlank trimStartChars trimStartChars_cons)

/-- A step of a scan that succeeds. -/
theorem bind_of_some {α β : Type} {x : Option α} {a : α} {f : α → Option β} {y : Option β}
    (h : x = some a) (hf : f a = y) : x >>= f = y := by
  rw [h]
  exact hf

/-! ### Digits -/

theorem digitsValue_eq (cs : List Char) : digitsValue cs = Json.Number.ofDigits cs := rfl

theorem padded_eq (w n : Nat) :
    padded w n =
      List.replicate (w - (Nat.toDigits 10 n).length) '0' ++ Json.Number.natChars n := rfl

theorem all_isDigit_padded (w n : Nat) : (padded w n).all isDigit := by
  rw [padded_eq, List.all_append, Bool.and_eq_true, List.all_eq_true, List.all_eq_true]
  exact ⟨fun c hc => by rw [List.eq_of_mem_replicate hc]; rfl,
    fun c hc => Json.Number.isDigit_of_mem_natChars hc⟩

@[simp] theorem digitsValue_padded (w n : Nat) : digitsValue (padded w n) = n := by
  rw [digitsValue_eq, padded_eq, Json.Number.ofDigits_append, Json.Number.ofDigits_replicate_zero,
    Json.Number.ofDigits_natChars, Nat.mul_zero, Nat.zero_add]

theorem padded_ne_nil (w n : Nat) : padded w n ≠ [] := by
  simp [padded]

theorem length_padded {w n : Nat} (hw : 0 < w) (h : n < 10 ^ w) : (padded w n).length = w := by
  have hlen := (Nat.length_toDigits_le_iff (by decide) hw).2 h
  simp only [padded, List.length_append, List.length_replicate]
  omega

/-- No digit follows. -/
def EndsDigits (r : List Char) : Prop := ∀ c ∈ r.head?, isDigit c = false

theorem takeWhile_digits {ds r : List Char} (hd : ds.all isDigit) (hr : EndsDigits r) :
    (ds ++ r).takeWhile isDigit = ds ∧ (ds ++ r).dropWhile isDigit = r := by
  rw [List.all_eq_true] at hd
  rw [List.takeWhile_append_of_pos hd, List.dropWhile_append_of_pos hd]
  cases r with
  | nil => simp
  | cons c r => simp [hr c rfl]

/-- The digits at the start of a text, of at most so many characters of it. -/
theorem takeWhile_take_digits {most : Nat} {ds r : List Char} (hd : ds.all isDigit)
    (hlen : ds.length ≤ most) (hr : ds.length = most ∨ EndsDigits r) :
    ((ds ++ r).take most).takeWhile isDigit = ds := by
  have hends : EndsDigits (r.take (most - ds.length)) := by
    rcases hr with h | h
    · rw [h, Nat.sub_self, List.take_zero]
      exact fun c hc => nomatch hc
    · intro c hc
      cases r with
      | nil => simp at hc
      | cons d r =>
        cases hm : most - ds.length with
        | zero => simp [hm] at hc
        | succ k =>
          rw [hm] at hc
          exact h c hc
  rw [List.take_append, List.take_of_length_le hlen]
  exact (takeWhile_digits hd hends).1

/-- Digits are scanned up to the end of the run, or up to as many as are asked for. -/
theorem scanUpTo_digits {most : Nat} {ds r : List Char} (hd : ds.all isDigit) (hne : ds ≠ [])
    (hlen : ds.length ≤ most) (hr : ds.length = most ∨ EndsDigits r) :
    scanUpTo most (ds ++ r) = some (digitsValue ds, r) := by
  simp [scanUpTo, takeWhile_take_digits hd hlen hr, hne]

theorem scanExactly_padded {w n : Nat} (hw : 0 < w) (h : n < 10 ^ w) (r : List Char) :
    scanExactly w (padded w n ++ r) = some (n, r) := by
  have hlen := length_padded hw h
  have htake : (padded w n ++ r).take w = padded w n := by
    rw [List.take_append_of_le_length hlen.ge, List.take_of_length_le hlen.le]
  have hdrop : (padded w n ++ r).drop w = r := List.drop_left' hlen
  simp only [scanExactly, htake, hdrop, hlen, all_isDigit_padded, digitsValue_padded, and_self,
    if_true]

theorem isBlank_of_isDigit {c : Char} (h : isDigit c) : isBlank c = false := by
  simp only [isDigit, Bool.and_eq_true, decide_eq_true_eq] at h
  have h0 : 48 ≤ c.toNat := h.1
  have h9 : c.toNat ≤ 57 := h.2
  simp only [isBlank, Bool.or_eq_false_iff, Bool.and_eq_false_imp, beq_eq_false_iff_ne,
    decide_eq_false_iff_not, decide_eq_true_eq]
  omega

/-- Digits start with a digit, and so with no blank and no sign. -/
theorem head_padded (w n : Nat) (r : List Char) :
    ∃ c cs, padded w n ++ r = c :: cs ∧ isDigit c := by
  cases h : padded w n with
  | nil => exact absurd h (padded_ne_nil w n)
  | cons c cs =>
    have hall := all_isDigit_padded w n
    rw [h, List.all_cons, Bool.and_eq_true] at hall
    exact ⟨c, cs ++ r, rfl, hall.1⟩

theorem trimStartChars_padded (w n : Nat) (r : List Char) :
    trimStartChars (padded w n ++ r) = padded w n ++ r := by
  obtain ⟨c, cs, h, hc⟩ := head_padded w n r
  rw [h, trimStartChars_cons (isBlank_of_isDigit hc)]

theorem scanTwo_padded {n : Nat} (h : n < 100) (r : List Char) :
    scanTwo (padded 2 n ++ r) = some (n, r) := by
  have hlen := length_padded (w := 2) (by decide) h
  rw [scanTwo, trimStartChars_padded,
    scanUpTo_digits (all_isDigit_padded 2 n) (padded_ne_nil 2 n) hlen.le (.inl hlen),
    digitsValue_padded]

/-! ### Dates -/

theorem scanAll_padded (w n : Nat) {r : List Char} (hr : EndsDigits r) :
    scanAll (padded w n ++ r) = some (n, r) := by
  rw [scanAll, scanUpTo_digits (all_isDigit_padded w n) (padded_ne_nil w n) (by simp) (.inr hr),
    digitsValue_padded]

theorem scanYear_yearChars (year : Int) {r : List Char} (hr : EndsDigits r) :
    scanYear (yearChars year ++ r) = some (year, r) := by
  unfold yearChars
  split
  · next h =>
    have hlen := length_padded (w := 4) (n := year.toNat) (by decide) (by omega)
    have hscan := scanUpTo_digits (all_isDigit_padded 4 year.toNat) (padded_ne_nil 4 year.toNat)
      hlen.le (.inr hr)
    obtain ⟨c, cs, hcs, hc⟩ := head_padded 4 year.toNat r
    rw [scanYear, trimStartChars_padded]
    rw [hcs] at hscan ⊢
    split
    · next heq => cases heq; exact absurd hc (by decide)
    · next heq => cases heq; exact absurd hc (by decide)
    · rw [hscan, digitsValue_padded]
      show some ((year.toNat : Int), r) = some (year, r)
      rw [Int.toNat_of_nonneg h.1]
  · split
    · next h =>
      rw [scanYear, List.cons_append, trimStartChars_cons (by decide)]
      simp only [scanAll_padded 4 year.natAbs hr, Option.map_some]
      congr 2
      omega
    · next h =>
      rw [scanYear, List.cons_append, trimStartChars_cons (by decide)]
      simp only [scanAll_padded 4 year.natAbs hr, Option.map_some]
      congr 2
      omega

theorem Date.of?_self (d : Date) : Date.of? d.year d.month d.day = some d := by
  rw [Date.of?, dif_pos d.isDate]

theorem daysInMonth_le (year : Int) (month : Nat) : daysInMonth year month ≤ 31 := by
  unfold daysInMonth
  split_ifs <;> decide

theorem Date.parts_lt (d : Date) : d.month < 100 ∧ d.day < 100 := by
  obtain ⟨-, hm, hd⟩ := d.isDate
  have := daysInMonth_le d.year d.month
  omega

theorem scanDate_toChars {gap : List Char → List Char} (hgap : ∀ r, gap ('-' :: r) = '-' :: r)
    (d : Date) (r : List Char) : scanDate gap (d.toChars ++ r) = some (d, r) := by
  obtain ⟨hm, hd⟩ := d.parts_lt
  have hends : ∀ r, EndsDigits ('-' :: r) := fun r c hc => by
    obtain rfl := Option.some.inj hc
    rfl
  simp only [scanDate, Date.toChars, List.append_assoc, List.cons_append,
    scanYear_yearChars d.year (hends _), Option.bind_eq_bind, Option.bind_some, hgap, scanChar,
    if_true, scanTwo_padded hm, scanTwo_padded hd, Date.of?_self]
  rfl

/-! ### Times of day -/

/-- A leap second comes only at the end of a minute. -/
def Regular (i : Instant) : Prop := nanosPerSecond ≤ i.time.nano → i.time.second % 60 = 59

theorem TimeOfDay.parts_lt (t : TimeOfDay) :
    t.hour < 24 ∧ t.minute < 60 ∧ t.secondOfMinute ≤ 60 ∧ t.fraction < nanosPerSecond := by
  have hbounds := t.bounds
  simp only [hour, minute, secondOfMinute, fraction, secondsPerDay, nanosPerSecond] at hbounds ⊢
  omega

theorem TimeOfDay.eq_of_parts {s t : TimeOfDay} (hs : s.second = t.second)
    (hn : s.nano = t.nano) : s = t := by
  cases s
  cases t
  simp_all

/-- A time of day as it is read back: a leap second that is not at the end of a minute becomes part
of the second after it. -/
def TimeOfDay.settled (t : TimeOfDay) : TimeOfDay :=
  if h : nanosPerSecond ≤ t.nano ∧ t.second % 60 ≠ 59 then
    ⟨t.second + 1, t.nano - nanosPerSecond, by
      have hbounds := t.bounds
      unfold secondsPerDay at hbounds ⊢
      omega⟩
  else t

/-- An instant as it is read back. -/
def Instant.settled (i : Instant) : Instant := { i with time := i.time.settled }

theorem TimeOfDay.settled_self (t : TimeOfDay) (h : nanosPerSecond ≤ t.nano → t.second % 60 = 59) :
    t.settled = t := dif_neg fun hleap => hleap.2 (h hleap.1)

theorem Instant.settled_self {i : Instant} (h : Regular i) : i.settled = i := by
  rw [settled, i.time.settled_self h]

theorem TimeOfDay.of?_parts (t : TimeOfDay) :
    TimeOfDay.of? t.hour t.minute t.secondOfMinute t.fraction = some t.settled := by
  have hbounds := t.bounds
  have hsecond : t.secondOfMinute = t.second % 60 + t.nano / nanosPerSecond := rfl
  rw [TimeOfDay.of?, dif_pos t.parts_lt, settled]
  simp only [secondsPerDay, nanosPerSecond] at hbounds hsecond
  by_cases hleap : t.secondOfMinute = 60
  · rw [dif_pos hleap, dif_neg (by unfold nanosPerSecond; omega)]
    refine congrArg some (eq_of_parts ?_ ?_) <;>
      simp only [hour, minute, fraction, nanosPerSecond] <;> omega
  · rw [dif_neg hleap]
    split
    all_goals
      next hsettles =>
        unfold nanosPerSecond at hsettles
        refine congrArg some (eq_of_parts ?_ ?_) <;>
          simp only [hour, minute, fraction, nanosPerSecond] <;> omega

theorem TimeOfDay.of?_self (t : TimeOfDay) (h : nanosPerSecond ≤ t.nano → t.second % 60 = 59) :
    TimeOfDay.of? t.hour t.minute t.secondOfMinute t.fraction = some t := by
  rw [t.of?_parts, t.settled_self h]

theorem scanFraction_padded {w n : Nat} (hw : 0 < w) (hw9 : w ≤ 9) (hn : n < 10 ^ w)
    {r : List Char} (hr : EndsDigits r) :
    scanFraction ('.' :: padded w n ++ r) = some (n * 10 ^ (9 - w), r) := by
  have hlen := length_padded hw hn
  have hall := all_isDigit_padded w n
  rw [List.cons_append, scanFraction]
  simp [takeWhile_take_digits hall (hlen.le.trans hw9) (.inr hr), (takeWhile_digits hall hr).2,
    padded_ne_nil, hlen]

/-- The fraction of a second is scanned up to what cannot belong to it. -/
theorem scanFraction_fractionChars {nano : Nat} (h : nano < nanosPerSecond) {r : List Char}
    (hr : ∀ c ∈ r.head?, isDigit c = false ∧ c ≠ '.') :
    scanFraction (fractionChars nano ++ r) = some (nano, r) := by
  have hends : EndsDigits r := fun c hc => (hr c hc).1
  unfold nanosPerSecond at h
  unfold fractionChars
  split_ifs with h0 h6 h3
  · subst h0
    rw [List.nil_append, scanFraction.eq_def]
    split
    · exact absurd rfl (hr _ rfl).2
    · rfl
  · rw [scanFraction_padded (by decide) (by decide) (by omega) hends]
    congr 2
    omega
  · rw [scanFraction_padded (by decide) (by decide) (by omega) hends]
    congr 2
    omega
  · rw [scanFraction_padded (by decide) (by decide) (by omega) hends]
    congr 2
    omega

theorem TimeOfDay.clock_lt (t : TimeOfDay) :
    t.hour < 100 ∧ t.minute < 100 ∧ t.secondOfMinute < 100 := by
  have := t.parts_lt
  omega

/-! ### Instants -/

theorem Instant.ofLocal?_utc (i : Instant) : Instant.ofLocal? i.date i.time 0 = some i := by
  have hbounds := i.time.bounds
  have hs : ((i.time.second : Int) - 0) % secondsPerDay = i.time.second := by
    unfold secondsPerDay at hbounds ⊢
    omega
  unfold Instant.ofLocal?
  simp only [hs, Int.toNat_natCast, hbounds, and_self, dif_pos]
  rw [if_neg (by omega), if_neg (by omega)]
  rfl

/-- An instant is read back from its text in the loose form. -/
theorem Instant.parseLoose?_toText {i : Instant} (h : Regular i) :
    Instant.parseLoose? i.toText = some i := by
  obtain ⟨hh, hm, hs⟩ := i.time.clock_lt
  have hgap : ∀ r, trimStartChars ('-' :: r) = '-' :: r := fun r => trimStartChars_cons (by decide)
  have hcolon : ∀ r, trimStartChars (':' :: r) = ':' :: r := fun r =>
    trimStartChars_cons (by decide)
  have hfraction := scanFraction_fractionChars (r := ['Z']) i.time.parts_lt.2.2.2
    (fun c hc => by obtain rfl := Option.some.inj hc; decide)
  simp only [Instant.parseLoose?, Instant.toText, String.toList_ofList, Instant.charsWith,
    List.append_assoc, List.cons_append, scanDate_toChars hgap, Option.bind_eq_bind,
    Option.bind_some, scanSeparator, scanTwo_padded hh, scanTwo_padded hm, scanTwo_padded hs,
    hcolon, scanChar, if_true, hfraction, TimeOfDay.of?_self i.time h, true_or]
  rw [trimStartChars_cons (by decide)]
  exact Instant.ofLocal?_utc i

/-! ### RFC 3339 -/

/-- A year that RFC 3339 can write. -/
def FourDigits (year : Int) : Prop := 0 ≤ year ∧ year ≤ 9999

theorem scanOffset_utc :
    scanOffset (scanChar ':') ['+', '0', '0', ':', '0', '0'] = some (0, []) := by
  decide

theorem scanChar_self (c : Char) (cs : List Char) : scanChar c (c :: cs) = some cs := if_pos rfl

/-- The text of an instant in RFC 3339 shows its parts. -/
theorem Stamp.parse?_toOffsetText {i : Instant} (hy : FourDigits i.date.year) :
    Stamp.parse? i.toOffsetText = some ⟨i.date, i.time.settled, 0⟩ := by
  obtain ⟨hh, hm, hs⟩ := i.time.clock_lt
  obtain ⟨hmonth, hday⟩ := i.date.parts_lt
  have hyear : yearChars i.date.year = padded 4 i.date.year.toNat := if_pos hy
  have hyear' : i.date.year.toNat < 10 ^ 4 := by
    have := hy.2
    omega
  have hfraction := scanFraction_fractionChars (r := ['+', '0', '0', ':', '0', '0'])
    i.time.parts_lt.2.2.2 (fun c hc => by obtain rfl := Option.some.inj hc; decide)
  have hdate : Date.of? (i.date.year.toNat : Int) i.date.month i.date.day = some i.date := by
    rw [Int.toNat_of_nonneg hy.1, Date.of?_self]
  have htwo : ∀ {n : Nat}, n < 100 → ∀ r, scanExactly 2 (padded 2 n ++ r) = some (n, r) :=
    fun h r => scanExactly_padded (by decide) h r
  have htext : i.toOffsetText.toList = padded 4 i.date.year.toNat ++ '-' ::
      (padded 2 i.date.month ++ '-' :: (padded 2 i.date.day ++ 'T' ::
        (padded 2 i.time.hour ++ ':' :: (padded 2 i.time.minute ++
          ':' :: (padded 2 i.time.secondOfMinute ++
            (fractionChars i.time.fraction ++ ['+', '0', '0', ':', '0', '0'])))))) := by
    simp only [Instant.toOffsetText, String.toList_ofList, Instant.charsWith, Date.toChars, hyear,
      List.append_assoc, List.cons_append]
  -- every part is read off the front of what is left
  unfold Stamp.parse?
  rw [htext]
  refine bind_of_some (scanExactly_padded (by decide) hyear' _) ?_
  refine bind_of_some (scanChar_self _ _) (bind_of_some (htwo hmonth _) ?_)
  refine bind_of_some (scanChar_self _ _) (bind_of_some (htwo hday _) ?_)
  refine bind_of_some (show scanSeparator ('T' :: _) = _ from rfl) (bind_of_some (htwo hh _) ?_)
  refine bind_of_some (scanChar_self _ _) (bind_of_some (htwo hm _) ?_)
  refine bind_of_some (scanChar_self _ _) (bind_of_some (htwo hs _) ?_)
  refine bind_of_some hfraction (bind_of_some scanOffset_utc (bind_of_some hdate ?_))
  exact bind_of_some i.time.of?_parts rfl

/-- An instant in a year of four digits is read back from its text in RFC 3339. -/
theorem Instant.parse?_toOffsetText {i : Instant} (hy : FourDigits i.date.year) :
    Instant.parse? i.toOffsetText = some i.settled := by
  rw [Instant.parse?, Stamp.parse?_toOffsetText hy]
  exact Instant.ofLocal?_utc i.settled

/-- An instant in another year is not, since the year is written with a sign. -/
theorem Instant.parse?_toOffsetText_eq_none {i : Instant} (hy : ¬FourDigits i.date.year) :
    Instant.parse? i.toOffsetText = none := by
  have hyear : yearChars i.date.year =
      (if i.date.year < 0 then '-' else '+') :: padded 4 i.date.year.natAbs := if_neg hy
  have hsign : isDigit (if i.date.year < 0 then '-' else '+') = false := by split <;> rfl
  generalize (if i.date.year < 0 then '-' else '+') = sign at hyear hsign
  obtain ⟨rest, htext⟩ : ∃ rest, i.toOffsetText.toList = sign :: rest := by
    simp [toOffsetText, charsWith, Date.toChars, hyear]
  have hscan : scanExactly 4 (sign :: rest) = none := if_neg fun h => by simp [hsign] at h
  rw [Instant.parse?, Stamp.parse?, htext, hscan]
  rfl

/-! ### What was read is regular -/

theorem TimeOfDay.regular_of_of? {h m s n : Nat} {t : TimeOfDay}
    (ht : TimeOfDay.of? h m s n = some t) : nanosPerSecond ≤ t.nano → t.second % 60 = 59 := by
  unfold TimeOfDay.of? at ht
  split at ht
  · split at ht <;> obtain rfl := Option.some.inj ht <;> simp only <;> omega
  · cases ht

/-- Offsets are whole minutes. -/
theorem scanOffset_minutes {between : List Char → Option (List Char)} {cs r : List Char}
    {offset : Int} (h : scanOffset between cs = some (offset, r)) : offset % 60 = 0 := by
  cases cs with
  | nil => cases h
  | cons c cs =>
    rw [scanOffset] at h
    split at h
    · obtain ⟨rfl, -⟩ := Prod.mk.inj (Option.some.inj h)
      rfl
    · split at h
      · simp only [Option.bind_eq_bind, Option.bind_eq_some_iff] at h
        obtain ⟨hours, -, rest, -, minutes, -, h⟩ := h
        split at h
        · obtain ⟨rfl, -⟩ := Prod.mk.inj (Option.some.inj h)
          split <;> omega
        · cases h
      · cases h

theorem Instant.regular_of_ofLocal? {d : Date} {t : TimeOfDay} {offset : Int} {i : Instant}
    (h : Instant.ofLocal? d t offset = some i) (ho : offset % 60 = 0)
    (ht : nanosPerSecond ≤ t.nano → t.second % 60 = 59) : Regular i := by
  unfold Instant.ofLocal? at h
  simp only at h
  split at h
  · obtain ⟨date, -, rfl⟩ := Option.map_eq_some_iff.1 h
    intro hleap
    have hlast := ht hleap
    simp only [secondsPerDay]
    omega
  · cases h

theorem Instant.regular_of_parse? {s : String} {i : Instant} (h : Instant.parse? s = some i) :
    Regular i := by
  obtain ⟨⟨date, time, offset⟩, hs, hi⟩ := Option.bind_eq_some_iff.1 h
  unfold Stamp.parse? at hs
  -- only the offset and what comes after it matter
  iterate 12 obtain ⟨_, -, hs⟩ := Option.bind_eq_some_iff.1 hs
  obtain ⟨⟨_, _⟩, ho, hs⟩ := Option.bind_eq_some_iff.1 hs
  obtain ⟨-, hs⟩ := Option.ite_none_right_eq_some.1 hs
  obtain ⟨d, -, hs⟩ := Option.bind_eq_some_iff.1 hs
  obtain ⟨t, ht, heq⟩ := Option.bind_eq_some_iff.1 hs
  cases Option.some.inj heq
  exact Instant.regular_of_ofLocal? hi (scanOffset_minutes ho) (TimeOfDay.regular_of_of? ht)

end CampusView.Time
