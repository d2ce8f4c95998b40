import KefLsx.Core.Text
import KefLsx.Runtime.Encodable

/-!
# Options

The options form of the config flow, the options that it stores, and the runtime that
`async_create_runtime` makes of them. Whole percentages are stored as fractions and rounded back,
the standby time is stored as a number or `None`, and the source as its folded name. Whatever is
stored, the form shows what is in force, and sending it unchanged changes nothing.
-/

namespace KefLsx

open Text

/-- The built-in functions that read the options. -/
structure OptionReader where
  casefold : Text → Text
  /-- `int` of a string. -/
  int : Text → Except ValueError ℤ
  repr : Text → String
  casefold_ascii : ∀ s : Text, (∀ c ∈ s, c.toNat < 0x80) → casefold s = lower s
  int_decimal : ∀ n : ℕ, int (Nat.toDigits 10 n) = .ok n

/-- `source.value`. -/
def Source.value : Source → Text
  | .wifi => ['W', 'i', 'f', 'i']
  | .bluetooth => ['B', 'l', 'u', 'e', 't', 'o', 'o', 't', 'h']
  | .aux => ['A', 'u', 'x']
  | .opt => ['O', 'p', 't']

/-- `list(Source)`. -/
def Source.all : List Source := [.wifi, .bluetooth, .aux, .opt]

namespace Options

variable (reader : OptionReader)

/-- `WAKE_SOURCES`. -/
def wakeSources : List Text := Source.all.map fun source => reader.casefold source.value

/-- `coerce_source` of a configured string. -/
def coerceSource (source : Text) : Except ValueError Source :=
  match Source.all.find? fun candidate =>
    reader.casefold candidate.value = reader.casefold source with
  | some candidate => .ok candidate
  | none => .error ⟨"Unsupported LSX source: " ++ reader.repr source⟩

/-- A fraction that a whole percentage is stored as. The code has the double next to it, which
is rounded back to the same percentage as the exact fraction; of other fractions this is not so. -/
abbrev Fraction := {x : ℚ // ∃ percentage : ℤ, x = percentage / 100}

/-- `percentage / 100`. -/
def Fraction.ofPercentage (percentage : ℤ) : Fraction := ⟨percentage / 100, percentage, rfl⟩

/-- `DEFAULT_MAX_VOLUME`. -/
def defaultMaxVolume : Fraction := ⟨1 / 2, 50, by norm_num⟩

/-- `DEFAULT_VOLUME_STEP`. -/
def defaultVolumeStep : Fraction := ⟨1 / 20, 5, by norm_num⟩

/-- `entry.options`; a key may be missing. -/
structure Stored where
  preferredWakeSource : Option Text := none
  maximumVolume : Option Fraction := none
  volumeStep : Option Fraction := none
  inverseOrientation : Option Bool := none
  standbyTime : Option (Option ℤ) := none
deriving DecidableEq

/-- What is sent from the form, with the whole percentages that its sliders have. -/
structure Input where
  preferredWakeSource : Option Text
  maximumVolume : ℤ
  volumeStep : ℤ
  inverseOrientation : Bool
  standbyTime : Text
deriving DecidableEq

/-- `STANDBY_NEVER`. -/
def standbyNever : Text := ['n', 'e', 'v', 'e', 'r']

/-- `STANDBY_SELECTOR_VALUES`. -/
def standbySelectorValues : List Text := [standbyNever, ['2', '0'], ['6', '0']]

/-- `_standby_to_selector`. -/
def standbyToSelector : Option ℤ → Text
  | none => standbyNever
  | some (.ofNat minutes) => Nat.toDigits 10 minutes
  | some (.negSucc n) => '-' :: Nat.toDigits 10 (n + 1)

/-- `_standby_from_selector`. -/
def standbyFromSelector (value : Text) : Except ValueError (Option ℤ) :=
  if value = standbyNever then .ok none else (reader.int value).map some

/-- The suggestion and the defaults of `_options_schema`, as they would be sent. -/
def form (options : Stored) : Input where
  preferredWakeSource := options.preferredWakeSource
  maximumVolume := pyRound ((options.maximumVolume.getD defaultMaxVolume).val * 100)
  volumeStep := pyRound ((options.volumeStep.getD defaultVolumeStep).val * 100)
  inverseOrientation := options.inverseOrientation.getD false
  standbyTime := standbyToSelector (options.standbyTime.getD none)

/-- The selectors of `_options_schema` accept the input. -/
structure Accepts (input : Input) : Prop where
  source : ∀ name ∈ input.preferredWakeSource, name ∈ wakeSources reader
  maximum : 1 ≤ input.maximumVolume ∧ input.maximumVolume ≤ 100
  step : 1 ≤ input.volumeStep ∧ input.volumeStep ≤ 25
  standby : input.standbyTime ∈ standbySelectorValues

/-- `async_step_init` with an input: the options that it stores. -/
def stepInit (input : Input) : Except ValueError Stored := do
  let standby ← standbyFromSelector reader input.standbyTime
  return {
    preferredWakeSource := input.preferredWakeSource.filter fun name => name ≠ []
    maximumVolume := some (.ofPercentage input.maximumVolume)
    volumeStep := some (.ofPercentage input.volumeStep)
    inverseOrientation := some input.inverseOrientation
    standbyTime := some standby }

/-- The options of the runtime that `async_create_runtime` makes. -/
def config (options : Stored) : Except ValueError Config := do
  let preferred ← options.preferredWakeSource.mapM (coerceSource reader)
  return .ofOptions preferred (options.maximumVolume.getD defaultMaxVolume).val
    (options.volumeStep.getD defaultVolumeStep).val (options.inverseOrientation.getD false)
    (options.standbyTime.getD none)

end Options

/-! ### Rounding -/

lemma pyRound_intCast (n : ℤ) : pyRound n = n := by
  simp [pyRound]

/-- A percentage is stored as a fraction and rounded back. -/
lemma pyRound_ofPercentage (n : ℤ) : pyRound ((Options.Fraction.ofPercentage n).val * 100) = n := by
  have hback : (Options.Fraction.ofPercentage n).val * 100 = n :=
    div_mul_cancel₀ _ (by norm_num)
  rw [hback, pyRound_intCast]

namespace Options

variable {reader : OptionReader} {options : Stored} {input : Input} {cfg : Config}

/-! ### The fields -/

@[simp] lemma casefold_value (source : Source) :
    reader.casefold source.value = lower source.value :=
  reader.casefold_ascii _ (by cases source <;> simp [Source.value])

@[simp] lemma casefold_lower_value (source : Source) :
    reader.casefold (lower source.value) = lower source.value := by
  rw [reader.casefold_ascii _ (by cases source <;> simp [Source.value, lower])]
  cases source <;> decide

/-- A configured string is the source whose name it is, up to its case. -/
lemma coerceSource_eq_ok_iff {name : Text} {source : Source} :
    coerceSource reader name = .ok source ↔ reader.casefold name = lower source.value := by
  have hinjective : ∀ a b : Source, lower a.value = lower b.value → a = b := by
    intro a b
    cases a <;> cases b <;> decide
  unfold coerceSource
  cases hfind : Source.all.find? fun candidate =>
      reader.casefold candidate.value = reader.casefold name with
  | some candidate =>
    have hname : lower candidate.value = reader.casefold name := by
      simpa using List.find?_some hfind
    rw [Except.ok.injEq, ← hname]
    exact ⟨fun h => h ▸ rfl, hinjective candidate source⟩
  | none =>
    refine iff_of_false nofun fun hname => ?_
    have hmem : source ∈ Source.all := by cases source <;> decide
    have hdiffers := List.find?_eq_none.mp hfind source hmem
    exact hdiffers (by simpa using hname.symm)

lemma exists_of_mem_wakeSources {name : Text} (h : name ∈ wakeSources reader) :
    ∃ source : Source, name = lower source.value := by
  obtain ⟨source, -, rfl⟩ := List.mem_map.mp h
  exact ⟨source, casefold_value source⟩

lemma mem_wakeSources (source : Source) : lower source.value ∈ wakeSources reader := by
  have hmem : source ∈ Source.all := by cases source <;> decide
  exact List.mem_map.mpr ⟨source, hmem, casefold_value source⟩

/-- The selector values are the standby times that speakers have. -/
lemma standbyFromSelector_of_mem (reader : OptionReader) {value : Text}
    (h : value ∈ standbySelectorValues) :
    ∃ standby, standbyFromSelector reader value = .ok standby ∧
      standbyToSelector standby = value ∧
      (standby = none ∨ standby = some 20 ∨ standby = some 60) := by
  simp only [standbySelectorValues, List.mem_cons, List.not_mem_nil, or_false] at h
  rcases h with rfl | rfl | rfl
  · exact ⟨none, rfl, rfl, .inl rfl⟩
  · refine ⟨some 20, ?_, by decide, .inr (.inl rfl)⟩
    have hint : reader.int ['2', '0'] = .ok 20 := reader.int_decimal 20
    rw [standbyFromSelector, if_neg (by decide), hint]
    rfl
  · refine ⟨some 60, ?_, by decide, .inr (.inr rfl)⟩
    have hint : reader.int ['6', '0'] = .ok 60 := reader.int_decimal 60
    rw [standbyFromSelector, if_neg (by decide), hint]
    rfl

/-! ### What is in force -/

/-- The options in force, as the form shows them. -/
def shown (cfg : Config) : Input where
  preferredWakeSource := cfg.preferredWakeSource.map fun source => lower source.value
  maximumVolume := cfg.maximumVolume
  volumeStep := cfg.volumeStep
  inverseOrientation := cfg.inverseOrientation
  standbyTime := standbyToSelector cfg.standbyTime

/-- What an accepted input puts in force. -/
structure InForce (reader : OptionReader) (input : Input) (options : Stored) (cfg : Config) :
    Prop where
  stored : stepInit reader input = .ok options
  config : config reader options = .ok cfg
  form : form options = input
  shown : shown cfg = input
  settable : cfg.SettableStandby
  timing : cfg.timing = {}

/-- The source of an accepted input. -/
lemma source_of_accepts (h : Accepts reader input) : ∃ preferred : Option Source,
    input.preferredWakeSource = preferred.map (fun source => lower source.value) ∧
    input.preferredWakeSource.filter (fun name => name ≠ []) = input.preferredWakeSource ∧
    input.preferredWakeSource.mapM (coerceSource reader) = .ok preferred := by
  cases hname : input.preferredWakeSource with
  | none => exact ⟨none, rfl, rfl, rfl⟩
  | some name =>
    obtain ⟨source, rfl⟩ := exists_of_mem_wakeSources (h.source name hname)
    have hcoerced : coerceSource reader (lower source.value) = .ok source :=
      coerceSource_eq_ok_iff.mpr (casefold_lower_value source)
    refine ⟨some source, rfl, ?_, ?_⟩
    · cases source <;> rfl
    · simp [Option.mapM, hcoerced]

/-- What the selectors accept is stored, shown and in force. -/
lemma inForce_of_accepts (h : Accepts reader input) :
    ∃ options cfg, InForce reader input options cfg := by
  obtain ⟨standby, hstandby, hselector, hsettable⟩ :=
    standbyFromSelector_of_mem reader h.standby
  obtain ⟨preferred, hpreferred, hfilter, hcoerced⟩ := source_of_accepts h
  let options : Stored := {
    preferredWakeSource := input.preferredWakeSource
    maximumVolume := some (.ofPercentage input.maximumVolume)
    volumeStep := some (.ofPercentage input.volumeStep)
    inverseOrientation := some input.inverseOrientation
    standbyTime := some standby }
  let cfg : Config := .ofOptions preferred (Fraction.ofPercentage input.maximumVolume).val
    (Fraction.ofPercentage input.volumeStep).val input.inverseOrientation standby
  have hmaximum : cfg.maximumVolume = input.maximumVolume := by
    obtain ⟨hlow, hhigh⟩ := h.maximum
    simp only [cfg, Config.ofOptions, pyRound_ofPercentage]
    omega
  have hstep : cfg.volumeStep = input.volumeStep := by
    obtain ⟨hlow, -⟩ := h.step
    simp only [cfg, Config.ofOptions, pyRound_ofPercentage]
    omega
  refine ⟨options, cfg, ?_, ?_, ?_, ?_, hsettable, rfl⟩
  · rw [stepInit, hstandby, hfilter]
    rfl
  · rw [config, show options.preferredWakeSource = input.preferredWakeSource from rfl, hcoerced]
    rfl
  · simp only [form, options, Option.getD_some, pyRound_ofPercentage, hselector]
  · have hfields : shown cfg = ⟨input.preferredWakeSource, input.maximumVolume, input.volumeStep,
        input.inverseOrientation, input.standbyTime⟩ := by
      simp only [shown, hmaximum, hstep, Input.mk.injEq]
      exact ⟨hpreferred.symm, trivial, trivial, rfl, hselector⟩
    exact hfields

/-- The options of an entry: none at first, and then what was sent last. -/
inductive Saved (reader : OptionReader) : Stored → Prop where
  | initial : Saved reader {}
  | sent (input : Input) (options : Stored) (h : Accepts reader input)
      (hstored : stepInit reader input = .ok options) : Saved reader options

/-- The form can be sent as it is shown. -/
lemma accepts_shown (reader : OptionReader) (hsettable : cfg.SettableStandby)
    (hstep : cfg.volumeStep ≤ 25) : Accepts reader (shown cfg) := by
  refine ⟨?_, ⟨?_, ?_⟩, ⟨?_, ?_⟩, ?_⟩
  · intro name hname
    obtain ⟨source, -, rfl⟩ := Option.map_eq_some_iff.mp hname
    exact mem_wakeSources source
  · exact cfg.maximumVolume_pos
  · exact cfg.maximumVolume_le
  · exact cfg.volumeStep_pos
  · exact hstep
  · rcases hsettable with h | h | h <;> simp only [shown, h] <;> decide

/-- The form tells apart what is in force. -/
lemma eq_of_shown {cfg cfg' : Config} (h : shown cfg = shown cfg')
    (htiming : cfg.timing = cfg'.timing) (hsettable : cfg.SettableStandby)
    (hsettable' : cfg'.SettableStandby) : cfg = cfg' := by
  have hinjective : Function.Injective fun source : Source => lower source.value := by
    intro a b
    cases a <;> cases b <;> decide
  simp only [shown, Input.mk.injEq] at h
  obtain ⟨hpreferred, hmaximum, hstep, hinverse, hstandby⟩ := h
  have hpreferred' := Option.map_injective hinjective hpreferred
  have hstandby' : cfg.standbyTime = cfg'.standbyTime := by
    rcases hsettable with h | h | h <;> rcases hsettable' with h' | h' | h' <;>
      simp only [h, h'] at hstandby ⊢ <;> revert hstandby <;> decide
  obtain ⟨⟩ := cfg
  obtain ⟨⟩ := cfg'
  simp only [Config.mk.injEq]
  exact ⟨hpreferred', hmaximum, hstep, hinverse, hstandby', htiming⟩

/-- Sending the form as it is shown puts the same options in force. -/
lemma inForce_of_shown (reader : OptionReader) (hsettable : cfg.SettableStandby)
    (hstep : cfg.volumeStep ≤ 25) (htiming : cfg.timing = {}) :
    ∃ options, InForce reader (shown cfg) options cfg := by
  obtain ⟨options, cfg', hforce⟩ :=
    inForce_of_accepts (accepts_shown reader hsettable hstep)
  obtain rfl : cfg' = cfg :=
    eq_of_shown hforce.shown (hforce.timing.trans htiming.symm) hforce.settable hsettable
  exact ⟨options, hforce⟩

/-- Whatever is saved is in force, and the form shows it and can be sent as it is. -/
lemma shown_of_saved (h : Saved reader options) : ∃ cfg : Config,
    config reader options = .ok cfg ∧ form options = shown cfg ∧ cfg.SettableStandby ∧
    cfg.volumeStep ≤ 25 ∧ cfg.timing = {} := by
  cases h with
  | initial =>
    have hmaximum : pyRound (defaultMaxVolume.val * 100) = 50 := by
      rw [show defaultMaxVolume = .ofPercentage 50 by norm_num [defaultMaxVolume,
        Fraction.ofPercentage], pyRound_ofPercentage]
    have hstep : pyRound (defaultVolumeStep.val * 100) = 5 := by
      rw [show defaultVolumeStep = .ofPercentage 5 by norm_num [defaultVolumeStep,
        Fraction.ofPercentage], pyRound_ofPercentage]
    refine ⟨.ofOptions none defaultMaxVolume.val defaultVolumeStep.val, rfl, ?_, .inl rfl, ?_, rfl⟩
    · simp only [form, shown, Config.ofOptions, Option.getD_none, hmaximum, hstep]
      rfl
    · simp only [Config.ofOptions, hstep]
      decide
  | sent input options haccepts hstored =>
    obtain ⟨options', cfg, hforce⟩ := inForce_of_accepts haccepts
    obtain rfl : options' = options := Except.ok.inj (hforce.stored.symm.trans hstored)
    have hstep : cfg.volumeStep = input.volumeStep := congrArg Input.volumeStep hforce.shown
    refine ⟨cfg, hforce.config, hforce.form.trans hforce.shown.symm, hforce.settable, ?_,
      hforce.timing⟩
    exact hstep.trans_le haccepts.step.2

/-- What the selectors accept, in whole percentages, is stored without an error, and the form then
shows it. From all options saved so there is a runtime; the form shows what the runtime uses, and
sending the form unchanged puts the same in force. Such a runtime never stops on an encoder that
raises, whatever it is asked and whatever the speaker does. -/
theorem saved_in_force (reader : OptionReader) :
    (∀ input, Accepts reader input → ∃ options, stepInit reader input = .ok options ∧
      form options = input) ∧
    ∀ options, Saved reader options → ∃ cfg, config reader options = .ok cfg ∧
      form options = shown cfg ∧
      (∃ options', stepInit reader (form options) = .ok options' ∧
        config reader options' = .ok cfg) ∧
      ∀ {ρ : Type} [Client ρ] (env : Env) (s : Runtime ρ),
        Transition.Reachable (Runtime.step env cfg) {} s →
        ∀ error, s.worker ≠ some (.crashed error) := by
  refine ⟨?_, ?_⟩
  · intro input haccepts
    obtain ⟨options, cfg, hforce⟩ := inForce_of_accepts haccepts
    exact ⟨options, hforce.stored, hforce.form⟩
  · intro options hsaved
    obtain ⟨cfg, hconfig, hform, hsettable, hstep, htiming⟩ := shown_of_saved hsaved
    obtain ⟨options', hforce⟩ := inForce_of_shown reader hsettable hstep htiming
    refine ⟨cfg, hconfig, hform, ⟨options', ?_, hforce.config⟩, ?_⟩
    · rw [hform, hforce.stored]
    · intro ρ _ env s hreach
      exact Runtime.not_crashed_of_reachable hreach hsettable

/-- A maximum of 57 % and a step of 7 % are stored, shown and in force. -/
theorem saved_in_force_aux : ∃ (reader : OptionReader) (options : Stored) (cfg : Config),
    stepInit reader ⟨some ['a', 'u', 'x'], 57, 7, true, ['6', '0']⟩ = .ok options ∧
    form options = ⟨some ['a', 'u', 'x'], 57, 7, true, ['6', '0']⟩ ∧
    config reader options = .ok cfg ∧ cfg.maximumVolume = 57 ∧ cfg.volumeStep = 7 := by
  let reader : OptionReader := {
    casefold := lower
    int := fun s => .ok (Nat.ofDigitChars 10 s 0)
    repr := fun s => String.ofList ('\'' :: s ++ ['\''])
    casefold_ascii := fun _ _ => rfl
    int_decimal := fun n => by rw [Nat.ofDigitChars_ten_toDigits] }
  let input : Input := ⟨some ['a', 'u', 'x'], 57, 7, true, ['6', '0']⟩
  have haccepts : Accepts reader input := by
    refine ⟨?_, by decide, by decide, by decide⟩
    intro name hname
    cases hname
    exact mem_wakeSources .aux
  obtain ⟨options, hstored, hform⟩ := (saved_in_force reader).1 input haccepts
  obtain ⟨cfg, hconfig, hshown, -⟩ := (saved_in_force reader).2 options
    (.sent input options haccepts hstored)
  rw [hform] at hshown
  exact ⟨reader, options, cfg, hstored, hform, hconfig,
    (congrArg Input.maximumVolume hshown).symm, (congrArg Input.volumeStep hshown).symm⟩

end Options

end KefLsx
