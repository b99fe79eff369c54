import SensorGateway.Proofs.TimedMap.Entry

/-!
Expiry loses nothing by being counted in whole milliseconds. A span is cut down to its whole
milliseconds and to the largest word, but instants are whole milliseconds within a word, so
no comparison with the age of an entry comes out differently than it would with the span as
it is. All of it can be computed in machine words.
-/

namespace SensorGateway

namespace Span

/-- A span in nanoseconds, as it is. -/
def exactNanos (span : Span) : Nat :=
  span.seconds.toNat * 1000000000 + span.nanos.val

/-- Spans are compared by their seconds first and then by their nanoseconds. -/
instance : LE Span :=
  ⟨fun a b => a.seconds < b.seconds ∨ a.seconds = b.seconds ∧ a.nanos ≤ b.nanos⟩

theorem le_iff_exactNanos_le {a b : Span} : a ≤ b ↔ a.exactNanos ≤ b.exactNanos := by
  show a.seconds < b.seconds ∨ a.seconds = b.seconds ∧ a.nanos ≤ b.nanos ↔ _
  rw [UInt64.lt_iff_toNat_lt, ← UInt64.toNat_inj, Fin.le_def, exactNanos, exactNanos]
  have ha := a.nanos.isLt
  have hb := b.nanos.isLt
  omega

theorem wholeMillis_eq (span : Span) :
    span.seconds.toNat * 1000 + span.nanos.val / 1000000 = span.exactNanos / 1000000 := by
  rw [exactNanos]
  omega

theorem millis_eq (span : Span) : span.millis = min (span.exactNanos / 1000000) maxWord := by
  rw [millis, wholeMillis_eq]

theorem millis_le (span : Span) : span.millis ≤ maxWord :=
  Nat.min_le_right _ _

/-- Milliseconds that fit a word are within a span exactly if they are within its whole
milliseconds. -/
theorem le_millis_iff {span : Span} {n : Nat} (hn : n ≤ maxWord) :
    n ≤ span.millis ↔ n * 1000000 ≤ span.exactNanos := by
  rw [millis_eq, Nat.le_min, Nat.le_div_iff_mul_le (by decide)]
  exact and_iff_left hn

theorem millis_mono {a b : Span} (h : a ≤ b) : a.millis ≤ b.millis := by
  have hwithin : a.millis * 1000000 ≤ a.exactNanos :=
    (le_millis_iff a.millis_le).1 (Nat.le_refl _)
  exact (le_millis_iff a.millis_le).2 (Nat.le_trans hwithin (le_iff_exactNanos_le.1 h))

end Span

/-! ### Machine words -/

/-- A number in a word of so many bits. There is none if it does not fit. -/
def inWord (bits n : Nat) : Option Nat :=
  if n < Nat.pow 2 bits then some n else none

theorem inWord_of_lt {bits n : Nat} (h : n < Nat.pow 2 bits) : inWord bits n = some n :=
  if_pos h

/-- The milliseconds of a span, computed in words: the seconds as milliseconds and the sum in
128 bits, what the nanoseconds add in 32 bits, the result in 64 bits. -/
def Span.millisInWords (span : Span) : Option Nat := do
  let whole ← inWord 128 (span.seconds.toNat * 1000)
  let rest ← inWord 32 (span.nanos.val / 1000000)
  let total ← inWord 128 (whole + rest)
  inWord 64 (min total maxWord)

def Stamped.ageInWord {α : Type} (entry : Stamped α) (tp : Nat) : Option Nat := do
  let stamp ← inWord 64 entry.stamp
  let now ← inWord 64 tp
  inWord 64 (if stamp ≤ now then now - stamp else 0)

theorem Span.millisInWords_eq (span : Span) : span.millisInWords = some span.millis := by
  have hseconds := span.seconds.toNat_lt
  have hnanos := span.nanos.isLt
  have hmillis := span.millis_le
  have hrest : span.nanos.val / 1000000 < 2 ^ 32 := by omega
  have hsum : span.seconds.toNat * 1000 + span.nanos.val / 1000000 < 2 ^ 64 * 1000 := by omega
  have htotal := Nat.lt_of_lt_of_le hsum (by decide : 2 ^ 64 * 1000 ≤ 2 ^ 128)
  have hwhole := Nat.lt_of_le_of_lt (Nat.le_add_right _ _) htotal
  have hlast : span.millis < 2 ^ 64 := by
    rw [maxWord] at hmillis
    omega
  simp only [millisInWords, inWord_of_lt hwhole, inWord_of_lt hrest, inWord_of_lt htotal,
    Option.bind_eq_bind, Option.bind_some]
  rw [← millis, inWord_of_lt hlast]

theorem Stamped.ageInWord_eq {α : Type} (value : α) (t tp : UInt64) :
    (Stamped.mk value t.toNat).ageInWord tp.toNat =
      some ((Stamped.mk value t.toNat).age tp.toNat) := by
  have ht := t.toNat_lt
  have htp := tp.toNat_lt
  have hage : (if t.toNat ≤ tp.toNat then tp.toNat - t.toNat else 0) = tp.toNat - t.toNat := by
    split <;> omega
  simp only [ageInWord, inWord_of_lt ht, inWord_of_lt htp, Option.bind_eq_bind,
    Option.bind_some, hage]
  exact inWord_of_lt (Nat.lt_of_le_of_lt (Nat.sub_le _ _) htp)

/-! ### Expiry -/

namespace TimedMap

variable {κ α : Type} [DecidableEq κ]

/-- A value written at one instant, under a span and as of another instant. Whether it is
fresh, is found and survives an eviction is said by comparing the time that has passed with
the span as it is. No number on the way leaves the word it is held in. -/
structure ExpiresExactly (m : TimedMap κ α) (k : κ) (v : α) (span : Span) (t tp : UInt64) :
    Prop where
  fresh : (Stamped.mk v t.toNat).isFresh tp.toNat span.millis = true ↔
    (tp.toNat - t.toNat) * 1000000 ≤ span.exactNanos
  found : ∀ w, (m.upsert t.toNat k v).lookup span k tp.toNat = some w ↔
    w = v ∧ (tp.toNat - t.toNat) * 1000000 ≤ span.exactNanos
  contained : (m.upsert t.toNat k v).contains span k tp.toNat = true ↔
    (tp.toNat - t.toNat) * 1000000 ≤ span.exactNanos
  survives : ∀ entry, ((m.upsert t.toNat k v).evict span tp.toNat).get? k = some entry ↔
    entry = ⟨v, t.toNat⟩ ∧ (tp.toNat - t.toNat) * 1000000 ≤ span.exactNanos
  spanInWords : span.millisInWords = some span.millis
  ageInWord : (Stamped.mk v t.toNat).ageInWord tp.toNat = some (tp.toNat - t.toNat)

theorem expiresExactly (m : TimedMap κ α) (k : κ) (v : α) (span : Span) (t tp : UInt64) :
    m.ExpiresExactly k v span t tp := by
  -- no age is beyond a word, so a bound that was cut down to a word decides as before
  have hage : tp.toNat - t.toNat ≤ maxWord :=
    Nat.le_trans (Nat.sub_le _ _) (Nat.le_of_lt_succ tp.toNat_lt)
  have hfresh : (Stamped.mk v t.toNat).isFresh tp.toNat span.millis = true ↔
      (tp.toNat - t.toNat) * 1000000 ≤ span.exactNanos := by
    rw [Stamped.isFresh, decide_eq_true_iff, Stamped.age]
    exact Span.le_millis_iff hage
  have hheld : (m.upsert t.toNat k v).get? k = some ⟨v, t.toNat⟩ := by
    rw [get?_upsert, if_pos rfl]
  have hfound : ∀ w, (m.upsert t.toNat k v).lookup span k tp.toNat = some w ↔
      w = v ∧ (tp.toNat - t.toNat) * 1000000 ≤ span.exactNanos := by
    intro w
    simp only [lookup_eq_some_iff, hheld, Option.some.injEq, Stamped.mk.injEq]
    constructor
    · rintro ⟨stamp, ⟨rfl, rfl⟩, hle⟩
      exact ⟨rfl, (Span.le_millis_iff hage).1 hle⟩
    · rintro ⟨rfl, hle⟩
      exact ⟨t.toNat, ⟨rfl, rfl⟩, (Span.le_millis_iff hage).2 hle⟩
  refine ⟨hfresh, hfound, ?_, ?_, span.millisInWords_eq, Stamped.ageInWord_eq v t tp⟩
  · rw [contains_iff_exists_lookup]
    simp only [hfound, exists_eq_left]
  · intro entry
    rw [get?_evict, hheld, Option.filter_eq_some_iff, Option.some.injEq]
    constructor
    · rintro ⟨rfl, hisFresh⟩
      exact ⟨rfl, hfresh.1 hisFresh⟩
    · rintro ⟨rfl, hle⟩
      exact ⟨rfl, hfresh.2 hle⟩

/-- The milliseconds of a span are its whole milliseconds, at most the largest word; entries
expire as exactly as if spans were not cut down; and what is fresh under a span is fresh under
every longer one. -/
theorem expiry_loses_nothing :
    (∀ span : Span, span.millis = min (span.exactNanos / 1000000) maxWord) ∧
      (∀ (m : TimedMap κ α) (k : κ) (v : α) (span : Span) (t tp : UInt64),
        m.ExpiresExactly k v span t tp) ∧
      ∀ (shorter longer : Span), shorter ≤ longer → ∀ (entry : Stamped α) (tp : Nat),
        entry.isFresh tp shorter.millis = true → entry.isFresh tp longer.millis = true := by
  refine ⟨Span.millis_eq, expiresExactly, ?_⟩
  intro shorter longer hle entry tp hfresh
  have hmillis := Span.millis_mono hle
  rw [Stamped.isFresh_iff] at hfresh ⊢
  omega

/-- Both spans have more milliseconds than a word can hold, and all time has passed. -/
theorem expiry_loses_nothing_longSpans :
    let shorter : Span := ⟨18446744073709552, 0⟩
    let longer : Span := ⟨18446744073709551615, 999999999⟩
    let entry : Stamped Nat := ⟨7, 0⟩
    shorter ≤ longer ∧ entry.isFresh maxWord shorter.millis = true ∧
      entry.isFresh maxWord longer.millis = true := by
  intro shorter longer entry
  have hle : shorter ≤ longer := .inl (by decide)
  have hfresh : entry.isFresh maxWord shorter.millis = true := by decide
  obtain ⟨-, -, hmono⟩ := @expiry_loses_nothing Nat Nat _
  exact ⟨hle, hfresh, hmono shorter longer hle entry maxWord hfresh⟩

end TimedMap

end SensorGateway
