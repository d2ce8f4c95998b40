import KefLsx.Runtime.Callers
import KefLsx.Runtime.Finality
import KefLsx.Runtime.Publication

/-!
# The diagnostic sensors

`sensor.py` over the published snapshot. The sensor of the last command tells the newest thing that
happened to any command, an acceptance or a completion, in every run; what verification finds does
not show.
-/

namespace KefLsx

/-- The kinds of `DESCRIPTIONS`. -/
inductive SensorKind where
  | status
  | lastSuccess
  | failures
  | command
deriving DecidableEq

inductive SensorValue where
  | text (value : String)
  | time (value : Option DateTime)
  | count (value : ℕ)
deriving DecidableEq

namespace Sensor

/-- The value of the sensor `last_command_result`; an empty error counts as none. -/
def commandResult : Option CommandResult → String
  | none => "idle"
  | some result =>
    if result.acknowledged then "acknowledged"
    else (result.error.filter fun error => error ≠ "").getD "pending"

/-- `native_value`. -/
def nativeValue (snapshot : RuntimeSnapshot) : SensorKind → SensorValue
  | .status =>
    .text (if !snapshot.health.available then "unavailable"
      else if snapshot.health.degraded then "degraded"
      else "healthy")
  | .lastSuccess => .time snapshot.health.lastChannelSuccess
  | .failures => .count snapshot.health.consecutiveFailures
  | .command => .text (commandResult snapshot.lastCommand)

end Sensor

/-- What is told of a completion. -/
def Outcome.told (outcome : Outcome) : String :=
  (outcome.error?.map ControlError.name).getD "acknowledged"

/-- What is told of an entry of the log. -/
def Obs.told? {ρ : Type} : Obs ρ → Option String
  | accepted .. => some "pending"
  | completed _ outcome _ => some outcome.told
  | _ => none

/-- What is told of the newest acceptance or completion. -/
def Log.told {ρ : Type} (log : List (Obs ρ)) : String := (log.findSome? Obs.told?).getD "idle"

namespace Log

variable {ρ : Type} {log : List (Obs ρ)}

lemma told_noted {l l' : Ledger ρ} (h : Ledger.Noted l l') : told l'.log = told l.log := by
  obtain ⟨notes, hlog, hnotes⟩ := h.notes
  rw [told, hlog, List.findSome?_append, List.findSome?_eq_none_iff.mpr, Option.none_or, told]
  intro o ho
  have hnote := hnotes o ho
  cases o with
  | planStarted | verified | mismatch => rfl
  | _ => cases hnote

end Log

lemma ControlError.name_ne_empty (error : ControlError) : error.name ≠ "" := by
  cases error with
  | timeout message => simp [name]
  | lsx error => cases herror : error.type <;> simp [name, herror, LsxErrorType.name]

/-! ### What verification does not change -/

namespace Ledger

variable {ρ : Type} {env : Env} {cfg : Config} {l : Ledger ρ}

/-- What the sensor of the last command shows. -/
def shows (l : Ledger ρ) : String := Sensor.commandResult l.snapshot.lastCommand

lemma shows_setVerified {value : Bool} : (l.setVerified value).shows = l.shows := by
  cases hlast : l.snapshot.lastCommand <;> simp [setVerified, shows, hlast, Sensor.commandResult]

lemma shows_scheduleNextVerification : (l.scheduleNextVerification env cfg).shows = l.shows := by
  unfold scheduleNextVerification
  dsimp only
  split
  · by_cases hawaits : l.awaitsVerification = true
    · rw [if_pos hawaits]
      exact shows_setVerified
    · rw [if_neg hawaits]
      rfl
  · rfl

lemma shows_completeVerification : (l.completeVerification env cfg).shows = l.shows := by
  unfold completeVerification
  split
  · exact shows_setVerified
  · exact shows_scheduleNextVerification

lemma shows_verify {reason : Reason} : (l.verify env cfg reason).shows = l.shows := by
  have htick : (if l.verification.due.isSome then l.tick else l).shows = l.shows := by
    split <;> rfl
  unfold verify
  dsimp only
  split
  · exact shows_completeVerification.trans htick
  · exact htick

end Ledger

namespace Runtime

open Log

variable {ρ : Type} {env : Env} {cfg : Config} {s t : Runtime ρ} {e : Event ρ} {job : Control}

lemma shows_stateExchangeFailed {reason : Reason} {r : ρ} {error : LsxError} :
    (s.stateExchangeFailed env cfg reason r error).shows = s.shows := by
  obtain ⟨l, hl, heq⟩ : ∃ l : Ledger ρ, _ ∧
    (s.stateExchangeFailed env cfg reason r error).toLedger = _ := stateExchangeFailed_eq
  have hcounted : l.shows = s.shows := by
    rcases hl with ⟨-, rfl⟩ | ⟨-, rfl⟩ <;> rfl
  rw [heq]
  split
  · exact Ledger.shows_scheduleNextVerification.trans hcounted
  · exact hcounted

lemma shows_stateExchangeDone {reason : Reason} {r : ρ} {status : SourceStatus} :
    (s.stateExchangeDone env cfg reason r status).shows = s.shows := by
  rw [stateExchangeDone_eq]
  exact Ledger.shows_verify.trans rfl

/-! ### What a step tells -/

/-- A step tells nothing new, or shows what it tells. -/
inductive Telling (s t : Runtime ρ) : Prop where
  | kept (hshows : t.shows = s.shows) (htold : told t.log = told s.log)
  | shown (hshows : t.shows = told t.log)

lemma shows_failed {result : CommandResult} (error : ControlError)
    (hlast : t.snapshot.lastCommand = some result) (hack : result.acknowledged = false)
    (herror : result.error = some error.name) : t.shows = error.name := by
  simp [Ledger.shows, Sensor.commandResult, hlast, hack, herror, Option.filter,
    error.name_ne_empty]

lemma Telling.of_controlFailed {s' : Runtime ρ} {failure : Failure} :
    Telling s (s'.controlFailed env cfg job failure) := by
  obtain ⟨l, hnoted, hlog, -⟩ :
    ∃ l : Ledger ρ, Ledger.Noted l (s'.controlFailed env cfg job failure).toLedger ∧ _ ∧ _ :=
    exists_noted_controlFailed
  refine .shown ?_
  rw [shows_failed (.lsx failure.error) lastCommand_controlFailed rfl rfl,
    told_noted hnoted, hlog]
  rfl

lemma Telling.of_controlAcknowledged {first : Option Failure} {r : ρ} :
    Telling s (s.controlAcknowledged env cfg job first r) := by
  obtain ⟨l, time, wall, hnoted, hlog, -, -, hlast⟩ :
    ∃ (l : Ledger ρ) (time : Time) (wall : DateTime),
      Ledger.Noted l (s.controlAcknowledged env cfg job first r).toLedger ∧ _ ∧ _ ∧ _ ∧ _ :=
    exists_noted_controlAcknowledged
  refine .shown ?_
  rw [Ledger.shows, hlast, told_noted hnoted, hlog]
  rfl

variable [Client ρ]

lemma telling_of_rule (h : Rule env cfg s e t) : Telling s t := by
  cases h with
  | accepted => exact .shown rfl
  | closeBegun =>
    obtain ⟨-, hledger, -⟩ := frame_beginClose (s := s)
    exact .kept (by rw [hledger]; rfl) (by rw [hledger]; rfl)
  | stateFailed =>
    exact .kept shows_stateExchangeFailed ((told_noted noted_stateExchangeFailed).trans rfl)
  | stateDone =>
    exact .kept shows_stateExchangeDone ((told_noted noted_stateExchangeDone).trans rfl)
  | controlExpired | attemptsTimedOut => exact .shown (shows_failed deadlineExpired rfl rfl rfl)
  | volumeGetFailed job r error => exact .shown (shows_failed (.lsx error) rfl rfl rfl)
  | attemptsLeft | setRejected | secondFailed => exact .of_controlFailed
  | setAcknowledged => exact .of_controlAcknowledged
  | _ => exact .kept rfl rfl

lemma shows_of_reachable (h : Transition.Reachable (step env cfg) {} s) :
    s.shows = told s.log := by
  refine h.invariant (I := fun s => s.shows = told s.log) rfl ?_
  intro s t e _ hs _ hst
  cases telling_of_rule (.of_step hst) with
  | kept hshows htold => rw [hshows, htold, hs]
  | shown hshows => exact hshows

/-- In every run, with any losses, mismatches and cancellations: from what is published, the sensor
of the last command shows what the newest acceptance or completion of a command tells, and nothing
else. -/
theorem sensor_of_reachable (h : Transition.Reachable (step env cfg) {} s)
    {snapshot : RuntimeSnapshot} (hpublished : s.published = some snapshot) :
    Sensor.nativeValue snapshot .command = .text (told s.log) := by
  have hshows : Sensor.commandResult s.snapshot.lastCommand = told s.log := shows_of_reachable h
  rcases current_of_reachable h with hnone | ⟨-, hcurrent⟩
  · rw [hnone] at hpublished
    cases hpublished
  · cases hcurrent.symm.trans hpublished
    exact congrArg SensorValue.text hshows

/-- A mute whose volume GET fails. -/
theorem sensor_of_reachable_mute : ∃ (s : Runtime Transcript) (snapshot : RuntimeSnapshot),
    Transition.Reachable (step .ticking .ofOptions) {} s ∧ s.published = some snapshot ∧
    told s.log = "ConnectTimeoutError" ∧
    Sensor.nativeValue snapshot .command = .text (told s.log) := by
  have hrun : (Transition.run (step .ticking .ofOptions)
      [.setPublisher, .start, .submit (.mute true), .run, .run, .run,
        .reply (Transcript.connectFailed .timeout)] {}).any
      (fun s => told s.log = "ConnectTimeoutError" ∧ s.published ≠ none) = true := by
    decide +kernel
  obtain ⟨s, hs, hstate⟩ := Transition.exists_reachable_of_run hrun
  obtain ⟨htold, hpublished⟩ := of_decide_eq_true hstate
  obtain ⟨snapshot, hsome⟩ := Option.ne_none_iff_exists'.mp hpublished
  exact ⟨s, snapshot, hs, hsome, htold, sensor_of_reachable hs hsome⟩

end Runtime

end KefLsx
