import SensorGateway.Environment
import SensorGateway.Proofs.Text.Natural

/-!
How settings are read from the environment. Each follows one variable that holds a number. Most
allow blanks around it; the size of a page does not, and with a blank beside its number it is
left at the default.
-/

namespace SensorGateway

open Text (WritesNumber WritesPaddedNumber)

/-- A setting that follows the variable `name` in an environment: the number written there is
what the setting means, any other text and none at all leave it at the default, and nothing
else is read. -/
structure ReadsNumber {β : Type} (writes : List Char → Nat → Prop) (means : β → Nat → Prop)
    (name : String) (default : β) (setting : Environment → β) (env : Environment) : Prop where
  number : ∀ text n, env name = some text → writes text.toList n → means (setting env) n
  other : ∀ text, env name = some text → (∀ n, ¬writes text.toList n) → setting env = default
  unset : env name = none → setting env = default
  alone : ∀ env', env name = env' name → setting env = setting env'

/-- A reader that accepts what is written, and nothing else, with a default behind it. -/
theorem ReadsNumber.of_getD {β : Type} {writes : List Char → Nat → Prop}
    {means : β → Nat → Prop} {name : String} {default : β} {setting : Environment → β}
    {read : List Char → Option Nat} (ofNumber : Nat → β)
    (hread : ∀ cs n, read cs = some n ↔ writes cs n)
    (hmeans : ∀ cs n, writes cs n → means (ofNumber n) n)
    (hsetting : ∀ env, setting env =
      (((env name).bind fun text => read text.toList).map ofNumber).getD default)
    (env : Environment) : ReadsNumber writes means name default setting env where
  number text n htext hwrites := by
    have hnumber : setting env = ofNumber n := by
      simp [hsetting, htext, (hread _ n).2 hwrites]
    exact hnumber ▸ hmeans _ n hwrites
  other text htext hno := by
    have hnone : read text.toList = none :=
      Option.eq_none_iff_forall_ne_some.2 fun n h => hno n ((hread _ n).1 h)
    simp [hsetting, htext, hnone]
  unset hnone := by simp [hsetting, hnone]
  alone env' heq := by rw [hsetting, hsetting, heq]

/-- A length of time of so many whole seconds. -/
def Span.IsSeconds (span : Span) (n : Nat) : Prop :=
  span.seconds.toNat = n ∧ span.nanos.val = 0

theorem Span.isSeconds_ofSeconds {n : Nat} (hn : n < 2 ^ 64) :
    (Span.ofSeconds (UInt64.ofNat n)).IsSeconds n :=
  ⟨UInt64.toNat_ofNat_of_lt' hn, rfl⟩

/-- Lengths of time are read as whole seconds, with blanks around them. -/
theorem readsNumber_seconds (name : String) (default : Span) (env : Environment) :
    ReadsNumber WritesPaddedNumber Span.IsSeconds name default
      (fun env => (env.seconds? name).getD default) env :=
  .of_getD _ (fun _ _ => Text.natural?_trim_eq_some_iff)
    (fun _ _ h => Span.isSeconds_ofSeconds h.lt) (fun _ => rfl) env

theorem readsNumber_number (name : String) (default : Nat) (env : Environment) :
    ReadsNumber WritesPaddedNumber Eq name default
      (fun env => (env.number? name).getD default) env := by
  refine .of_getD id (fun _ _ => Text.natural?_trim_eq_some_iff) (fun _ _ _ => rfl) ?_ env
  intro env
  rw [Option.map_id_fun, id]
  rfl

theorem readsNumber_bareNumber (name : String) (default : Nat) (env : Environment) :
    ReadsNumber WritesNumber Eq name default
      (fun env => (env.bareNumber? name).getD default) env := by
  refine .of_getD id (fun _ _ => Text.natural?_eq_some_iff) (fun _ _ _ => rfl) ?_ env
  intro env
  rw [Option.map_id_fun, id]
  rfl

/-- A setting that is read without blanks is as it would be with them, unless there are blanks
around a number other than the default. -/
theorem ReadsNumber.padded_iff {name : String} {default : Nat} {setting : Environment → Nat}
    {env : Environment} (h : ReadsNumber WritesNumber Eq name default setting env) :
    ReadsNumber WritesPaddedNumber Eq name default setting env ↔
      ∀ text n, env name = some text → WritesPaddedNumber text.toList n →
        Text.trim text.toList = text.toList ∨ n = default := by
  have hlost : ∀ text, env name = some text → Text.trim text.toList ≠ text.toList →
      setting env = default := by
    intro text htext hblanks
    exact h.other text htext fun n hwrites => hblanks (Text.writesNumber_iff.1 hwrites).1
  constructor
  · intro hpadded text n htext hwrites
    refine or_iff_not_imp_left.2 fun hblanks => ?_
    have hnumber : setting env = n := hpadded.number text n htext hwrites
    exact hnumber.symm.trans (hlost text htext hblanks)
  · intro hharmless
    refine ⟨fun text n htext hwrites => ?_, fun text htext hno => ?_, h.unset, h.alone⟩
    · by_cases hblanks : Text.trim text.toList = text.toList
      · exact h.number text n htext (Text.writesNumber_iff.2 ⟨hblanks, hwrites⟩)
      · obtain rfl := (hharmless text n htext hwrites).resolve_left hblanks
        exact hlost text htext hblanks
    · exact h.other text htext fun n hwrites => hno n (Text.writesNumber_iff.1 hwrites).2

/-- The times and the capacity of buffers, each read from its own variable. -/
structure ReadsPadded (env : Environment) : Prop where
  timeout : ReadsNumber WritesPaddedNumber Span.IsSeconds "SG_CACHE_TIMEOUT_SECS"
    ({} : AuthorizationConfig).timeout (fun env => (AuthorizationConfig.ofEnvironment env).timeout)
    env
  reloadInterval : ReadsNumber WritesPaddedNumber Span.IsSeconds "SG_RELOAD_INTERVAL_SECS"
    ({} : ReloadSettings).reloadInterval
    (fun env => (ReloadSettings.ofEnvironment env).reloadInterval) env
  startDelay : ReadsNumber WritesPaddedNumber Span.IsSeconds "SG_RELOAD_START_DELAY_SECS"
    ({} : ReloadSettings).startDelay (fun env => (ReloadSettings.ofEnvironment env).startDelay)
    env
  scanInterval : ReadsNumber WritesPaddedNumber Span.IsSeconds "SG_TIMEOUT_SCAN_INTERVAL_SECS"
    ({} : ReloadSettings).scanInterval
    (fun env => (ReloadSettings.ofEnvironment env).scanInterval) env
  capacity : ReadsNumber WritesPaddedNumber Eq "SG_BUFFER_CAPACITY"
    ({} : IngestionConfig).capacity (fun env => (IngestionConfig.ofEnvironment env).capacity) env

abbrev ReadsPageSize (writes : List Char → Nat → Prop) : Environment → Prop :=
  ReadsNumber writes Eq "SG_RELOAD_PAGE_SIZE" ({} : ReloadSettings).pageSize
    fun env => (ReloadSettings.ofEnvironment env).pageSize

/-- Settings are read by number. The size of a page is read without blanks around it, which
makes a difference to the others exactly if there are blanks around a number that is not the
default. -/
theorem settings_read_by_number (env : Environment) :
    ReadsPadded env ∧ ReadsPageSize WritesNumber env ∧
      (ReadsPageSize WritesPaddedNumber env ↔
        ∀ text n, env "SG_RELOAD_PAGE_SIZE" = some text → WritesPaddedNumber text.toList n →
          Text.trim text.toList = text.toList ∨ n = ({} : ReloadSettings).pageSize) := by
  have hpadded : ReadsPadded env :=
    { timeout := readsNumber_seconds _ _ env
      reloadInterval := readsNumber_seconds _ _ env
      startDelay := readsNumber_seconds _ _ env
      scanInterval := readsNumber_seconds _ _ env
      capacity := readsNumber_number _ _ env }
  have hbare : ReadsPageSize WritesNumber env := readsNumber_bareNumber _ _ env
  exact ⟨hpadded, hbare, hbare.padded_iff⟩

/-- An environment that sets the size of a page and nothing else, with a blank on each side. -/
def paddedPageSize : Environment := fun name =>
  if name = "SG_RELOAD_PAGE_SIZE" then some " 5 " else none

/-- So the size of a page is not read as the other numbers are. -/
theorem padded_pageSize_is_lost :
    paddedPageSize "SG_RELOAD_PAGE_SIZE" = some " 5 " ∧ WritesPaddedNumber " 5 ".toList 5 ∧
      (ReloadSettings.ofEnvironment paddedPageSize).pageSize = 10000 ∧
      ¬ReadsPageSize WritesPaddedNumber paddedPageSize := by
  have hset : paddedPageSize "SG_RELOAD_PAGE_SIZE" = some " 5 " := by decide
  have hwrites : WritesPaddedNumber " 5 ".toList 5 :=
    Text.natural?_trim_eq_some_iff.1 (by decide)
  have hsize : (ReloadSettings.ofEnvironment paddedPageSize).pageSize = 10000 := by decide
  refine ⟨hset, hwrites, hsize, fun h => ?_⟩
  have hfive : (ReloadSettings.ofEnvironment paddedPageSize).pageSize = 5 :=
    h.number _ _ hset hwrites
  exact absurd (hsize.symm.trans hfive) (by decide)

end SensorGateway
