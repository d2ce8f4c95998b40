import Mathlib.Data.Rat.Floor
import KefLsx.Core.Future
import KefLsx.Client.Exchange

/-!
# Data of the runtime

`models.py`, and the records and options of `runtime.py`: the snapshot that is published to all
entities, the queue entries, the timing budgets and the options as the constructor clamps them.

A command is its kind together with the value slot that kind uses, so a volume never stands in
the slot of a source. The clock is `ℚ`; a `datetime` is the number of its microseconds.
-/

namespace KefLsx

/-- Clock readings and delays. Exact numbers stand for the doubles of the code, whose sums and
differences are rounded. -/
abbrev Time := ℚ

abbrev DateTime := ℤ

/-! ### Published state -/

/-- Last state confirmed by, or optimistically sent to, the speaker. -/
structure SpeakerState where
  powerOn : Option Bool := none
  source : Option Source := none
  volume : Option ℤ := none
  muted : Option Bool := none
deriving DecidableEq

/-- Communication health with hysteresis separate from speaker state. -/
structure CommunicationHealth where
  available : Bool := true
  stale : Bool := false
  degraded : Bool := false
  consecutiveFailures : ℕ := 0
  lastChannelSuccess : Option DateTime := none
  lastStateSuccess : Option DateTime := none
  lastError : Option String := none
deriving DecidableEq

inductive ControlKind where
  | turnOn
  | turnOff
  | selectSource
  | setVolume
  | volumeUp
  | volumeDown
  | mute
  | unmute
deriving DecidableEq

namespace ControlKind

/-- `{"turn_on", "turn_off", "select_source"}`: the kinds that write the source register. -/
def isSource : ControlKind → Bool
  | turnOn | turnOff | selectSource => true
  | _ => false

/-- `{"set_volume", "volume_up", "volume_down", "mute", "unmute"}`. -/
def isVolume : ControlKind → Bool
  | setVolume | volumeUp | volumeDown | mute | unmute => true
  | _ => false

/-- `{"volume_up", "volume_down", "mute", "unmute"}`: the kinds that need the current volume. -/
def isRelative : ControlKind → Bool
  | volumeUp | volumeDown | mute | unmute => true
  | _ => false

end ControlKind

/-- Outcome of the most recently accepted explicit command. The code has no field `id`: it
names the queue entry that the record was made for. -/
structure CommandResult where
  id : ℕ
  command : ControlKind
  submittedAt : DateTime
  completedAt : Option DateTime := none
  writeAttempted : Bool := false
  acknowledged : Bool := false
  verified : Option Bool := none
  error : Option String := none
deriving DecidableEq

/-- Atomic publication from the runtime to all entities. -/
structure RuntimeSnapshot where
  speaker : SpeakerState := {}
  health : CommunicationHealth := {}
  lastCommand : Option CommandResult := none
deriving DecidableEq

/-! ### Queue entries -/

/-- A control kind and its `value`. The power commands have none until they are executed. -/
inductive Command where
  | turnOn (value : Option Source)
  | turnOff (value : Option Source)
  | selectSource (value : Source)
  | setVolume (value : ℤ)
  | volumeUp
  | volumeDown
  | mute
  | unmute
deriving DecidableEq

def Command.kind : Command → ControlKind
  | turnOn _ => .turnOn
  | turnOff _ => .turnOff
  | selectSource _ => .selectSource
  | setVolume _ => .setVolume
  | volumeUp => .volumeUp
  | volumeDown => .volumeDown
  | mute => .mute
  | unmute => .unmute

/-- `_Control`. Entries are numbered by `id` in the order of their acceptance; `waiters` are the
numbers of the callers' futures. -/
structure Control where
  id : ℕ
  command : Command
  deadline : Time
  waiters : List ℕ
  result : CommandResult
deriving DecidableEq

/-- What a control's future is failed with: a client's error, or `TimeoutError`. -/
inductive ControlError where
  | lsx (error : LsxError)
  | timeout (message : String)
deriving DecidableEq

/-- `type(error).__name__`. -/
def ControlError.name : ControlError → String
  | lsx error => error.type.name
  | timeout _ => "TimeoutError"

def deadlineExpired : ControlError :=
  .timeout "Control deadline expired"

/-- The result that `_finish_control_error` stores. -/
def Control.failedResult (job : Control) (completedAt : DateTime) (error : ControlError)
    (attempted : Bool) : CommandResult :=
  { job.result with
    completedAt := some completedAt
    writeAttempted := attempted
    acknowledged := false
    error := some error.name }

/-- The result that `_async_control` stores for an acknowledged control. -/
def Control.acknowledgedResult (job : Control) (completedAt : DateTime) : CommandResult :=
  { job.result with
    completedAt := some completedAt
    writeAttempted := true
    acknowledged := true
    verified := none }

/-! ### Timing -/

/-- Explicit scheduling and health budgets. `verificationDelays_ne_nil` and `failureThreshold_pos`
are side conditions that the code does not check: a plan has a first delay, and it takes a failure
to become unavailable. -/
structure RuntimeTiming where
  controlDeadline : Time := 8
  retryDelay : Time := 3 / 10
  verificationDelays : List Time := [1, 2, 4]
  staleAfter : Time := 45
  unavailableAfter : Time := 120
  failureThreshold : ℕ := 4
  shutdownTimeout : Time := 2
  volumePollInterval : Time := 300
  verificationDelays_ne_nil : verificationDelays ≠ [] := by decide
  failureThreshold_pos : 0 < failureThreshold := by decide

/-! ### Options -/

/-- `round` of Python: to the nearest integer, a tie to the even one. It stands for the rounding of
doubles where an exact fraction is given: the two agree on the fractions of whole percentages, and
may differ where the product with 100 is a tie, as 0.575 * 100 is here but not of doubles. -/
def pyRound (x : ℚ) : ℤ :=
  let below := ⌊x⌋
  let rest := x - below
  if rest < 1 / 2 then below
  else if 1 / 2 < rest then below + 1
  else if below % 2 = 0 then below
  else below + 1

/-- The options of a runtime, as its constructor stores them. -/
structure Config where
  preferredWakeSource : Option Source := none
  maximumVolume : ℤ
  volumeStep : ℤ
  inverseOrientation : Bool := false
  standbyTime : Option ℤ := none
  timing : RuntimeTiming := {}
  maximumVolume_pos : 1 ≤ maximumVolume
  maximumVolume_le : maximumVolume ≤ 100
  volumeStep_pos : 1 ≤ volumeStep

namespace Config

/-- `KefLsxRuntime.__init__`, from options whose source names have been coerced; `pyRound` rounds
the products exactly. -/
def ofOptions (preferredWakeSource : Option Source := none) (maximumVolume : ℚ := 1 / 2)
    (volumeStep : ℚ := 1 / 20) (inverseOrientation : Bool := false)
    (standbyTime : Option ℤ := none) (timing : RuntimeTiming := {}) : Config where
  preferredWakeSource := preferredWakeSource
  maximumVolume := max 1 (min 100 (pyRound (maximumVolume * 100)))
  volumeStep := max 1 (pyRound (volumeStep * 100))
  inverseOrientation := inverseOrientation
  standbyTime := standbyTime
  timing := timing
  maximumVolume_pos := le_max_left _ _
  maximumVolume_le := max_le (by norm_num) (min_le_left _ _)
  volumeStep_pos := le_max_left _ _

end Config

/-- The calls that entities make. -/
inductive Request where
  | turnOn
  | turnOff
  | selectSource (source : Source)
  | setVolume (volume : ℚ)
  | volumeUp
  | volumeDown
  | mute (muted : Bool)

/-- `async_turn_on` to `async_mute`: the kind and value that each call submits; `pyRound` rounds the
product exactly. -/
def Config.submitted (cfg : Config) : Request → Command
  | .turnOn => .turnOn none
  | .turnOff => .turnOff none
  | .selectSource source => .selectSource source
  | .setVolume volume => .setVolume (min cfg.maximumVolume (max 0 (pyRound (volume * 100))))
  | .volumeUp => .volumeUp
  | .volumeDown => .volumeDown
  | .mute muted => if muted then .mute else .unmute

/-! ### What a command writes and what it expects -/

/-- `_source_for_power_command`: an explicit override, the cached source, or the safe optical
fallback. -/
def Config.sourceForPowerCommand (cfg : Config) (speaker : SpeakerState) : Source :=
  (cfg.preferredWakeSource.or speaker.source).getD .opt

/-- The value that `_execute_control` leaves in the entry: a power command chooses its source
anew. -/
def Config.executed (cfg : Config) (speaker : SpeakerState) : Command → Command
  | .turnOn _ => .turnOn (some (cfg.sourceForPowerCommand speaker))
  | .turnOff _ => .turnOff (some (cfg.sourceForPowerCommand speaker))
  | command => command

/-- The request that `_execute_control` hands to the client, or the `ValueError` of the encoder.
-/
def Config.request (cfg : Config) (speaker : SpeakerState) (command : Command) :
    Except ValueError (List UInt8) :=
  let volume := speaker.volume.getD 0
  let muted := speaker.muted.getD false
  match command with
  | .turnOn _ =>
    encodeSetSource (cfg.sourceForPowerCommand speaker) cfg.standbyTime cfg.inverseOrientation true
  | .turnOff _ =>
    encodeSetSource (cfg.sourceForPowerCommand speaker) cfg.standbyTime cfg.inverseOrientation false
  | .selectSource source => encodeSetSource source cfg.standbyTime cfg.inverseOrientation true
  | .setVolume value => encodeSetVolume value muted
  | .volumeUp => encodeSetVolume (min cfg.maximumVolume (volume + cfg.volumeStep)) muted
  | .volumeDown => encodeSetVolume (max 0 (volume - cfg.volumeStep)) muted
  | .mute => encodeSetVolume volume true
  | .unmute => encodeSetVolume volume false

/-- `_expected_state`: the state expected if a control write took effect. -/
def Config.expectedState (cfg : Config) (state : SpeakerState) (command : Command) :
    SpeakerState :=
  let volume := state.volume.getD 0
  let muted := state.muted.getD false
  match command with
  | .turnOn value => { state with powerOn := some true, source := value }
  | .turnOff _ => { state with powerOn := some false }
  | .selectSource source => { state with powerOn := some true, source := some source }
  | .setVolume value => { state with volume := some value, muted := some muted }
  | .volumeUp =>
    { state with
      volume := some (min cfg.maximumVolume (volume + cfg.volumeStep)), muted := some muted }
  | .volumeDown =>
    { state with volume := some (max 0 (volume - cfg.volumeStep)), muted := some muted }
  | .mute => { state with volume := some volume, muted := some true }
  | .unmute => { state with volume := some volume, muted := some false }

@[simp] lemma Config.kind_executed (cfg : Config) (speaker : SpeakerState) (command : Command) :
    (cfg.executed speaker command).kind = command.kind := by
  cases command <;> rfl

/-- Whatever an execution left in the entry, the next one writes the request that it would have
written without. -/
@[simp] lemma Config.request_executed (cfg : Config) (speaker speaker' : SpeakerState)
    (command : Command) :
    cfg.request speaker' (cfg.executed speaker command) = cfg.request speaker' command := by
  cases command <;> rfl

end KefLsx
