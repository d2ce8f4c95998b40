import KefLsx.Runtime.Models
import Mathlib.Tactic.Simps.Basic

/-!
# The runtime's record

The fields of `KefLsxRuntime` that its recording methods write: the snapshot, the times of the
last responses, the verification plan, and what was published. `Ledger` holds them with the
number of clock readings made so far, so that every call of `_now()` and `_wall_clock()` reads
the next value of its clock.

The ledger also keeps a log, newest entry first, of what the claims about a run speak of:
acceptances, exchanges and their outcomes, completions and verification. No method reads it.
-/

namespace KefLsx

/-- The two clocks, by the number of the reading. -/
structure Env where
  monotonic : ℕ → Time
  wallClock : ℕ → DateTime
  /-- `loop.time()`, when a timeout is set after so many readings of `monotonic`. Unless a runtime
  is given a clock of its own, both are the clock of the event loop. -/
  loopTime : ℕ → Time := monotonic

/-- Clocks that advance by a hundredth of a second at each reading. -/
def Env.ticking : Env := { monotonic := fun n => n / 100, wallClock := fun n => 10000 * n }

/-- Clocks that advance by a second at each reading. -/
def Env.slow : Env := { monotonic := fun n => n, wallClock := fun n => 1000000 * n }

/-! ### The log -/

/-- Why a source GET is made. -/
inductive Reason where
  | poll
  | verification
deriving DecidableEq

/-- An exchange of the worker. -/
inductive Call where
  | sourceGet (reason : Reason)
  | maintenanceGet
  | volumeGet (id : ℕ) (kind : ControlKind)
  | set (id : ℕ) (kind : ControlKind) (attempt : ℕ) (request : List UInt8)
deriving DecidableEq

/-- The queue entry that an exchange is made for. -/
def Call.owner : Call → Option ℕ
  | sourceGet _ | maintenanceGet => none
  | volumeGet id _ | set id _ _ _ => some id

/-- How an accepted control ends, other than by being skipped. -/
inductive Outcome where
  | acknowledged
  /-- Its SET, or the volume GET before it, raised this error last. -/
  | failed (error : LsxError)
  /-- It passed the deadline check of its selection, but no attempt was made. -/
  | timedOut
  /-- The deadline check of its selection found it expired. -/
  | expired
deriving DecidableEq

/-- Entries of the log. A `time` is the reading of the monotonic clock under which the entry's
event is recorded. -/
inductive Obs (ρ : Type) where
  /-- `async_start` created the worker. -/
  | opened (time : Time)
  /-- A caller waits for `future`, on a new entry or on the one its request was merged into. -/
  | requested (future id : ℕ) (command : Command) (time : Time)
  /-- A new queue entry. -/
  | accepted (id : ℕ) (command : Command) (deadline : Time)
  /-- An exchange was started after so many readings of the monotonic clock. -/
  | started (reads : ℕ) (call : Call) (remaining : Option Time)
  /-- A source GET ended, with a poll pending or not. -/
  | sourceEnded (reason : Reason) (polled : Bool) (reply : ρ) (time : Time)
  | maintenanceEnded (reply : ρ) (time : Time)
  | volumeEnded (id : ℕ) (reply : ρ) (time : Time)
  | setEnded (id attempt : ℕ) (reply : ρ) (time : Time)
  /-- All callers of the entry had been cancelled when it was selected. -/
  | skipped (id : ℕ)
  | completed (id : ℕ) (outcome : Outcome) (result : CommandResult)
  | planStarted (id : ℕ) (kind : ControlKind) (expected : SpeakerState)
  /-- The `verified` field of the last command, which has this `id`, was written. -/
  | verified (id : ℕ) (value : Bool)
  | mismatch
deriving DecidableEq

/-- Entries about verification. -/
def Obs.isNote {ρ : Type} : Obs ρ → Bool
  | planStarted .. | verified .. | mismatch => true
  | _ => false

/-! ### The record -/

/-- The verification plan: the fields `_verification_*`. -/
structure Verification where
  attempt : ℤ := -1
  due : Option Time := none
  kind : Option ControlKind := none
  expected : Option SpeakerState := none
deriving DecidableEq

structure Ledger (ρ : Type) where
  snapshot : RuntimeSnapshot := {}
  startedMono : Time := 0
  lastChannelMono : Option Time := none
  lastStateMono : Option Time := none
  lastVolumeMono : Option Time := none
  verification : Verification := {}
  /-- `set_publisher` has been called. -/
  publisher : Bool := false
  /-- What the publisher received last. -/
  published : Option RuntimeSnapshot := none
  monoReads : ℕ := 0
  wallReads : ℕ := 0
  log : List (Obs ρ) := []

namespace Ledger

variable {ρ : Type} (env : Env) (cfg : Config) (l : Ledger ρ)

/-! ### Clocks, log and publication -/

/-- The value that the next `_now()` returns. -/
def now : Time := env.monotonic l.monoReads

/-- The value that the next `_wall_clock()` returns. -/
def wall : DateTime := env.wallClock l.wallReads

/-- The monotonic clock has been read. -/
@[simps]
def tick : Ledger ρ := { l with monoReads := l.monoReads + 1 }

/-- The wall clock has been read. -/
@[simps]
def tickWall : Ledger ρ := { l with wallReads := l.wallReads + 1 }

@[simps]
def emit (o : Obs ρ) : Ledger ρ := { l with log := o :: l.log }

@[simps]
def setSpeaker (speaker : SpeakerState) : Ledger ρ :=
  { l with snapshot := { l.snapshot with speaker := speaker } }

@[simps]
def setHealth (health : CommunicationHealth) : Ledger ρ :=
  { l with snapshot := { l.snapshot with health := health } }

@[simps]
def setLastCommand (result : CommandResult) : Ledger ρ :=
  { l with snapshot := { l.snapshot with lastCommand := some result } }

/-- `_publish`. -/
@[simps]
def publish : Ledger ρ :=
  { l with published := if l.publisher then some l.snapshot else l.published }

/-! ### Health -/

/-- `_compute_health`, at its reading of the clock. -/
def computeHealth (health : CommunicationHealth) (failed : Bool) : CommunicationHealth :=
  let now := l.now env
  let stateAge := now - l.lastStateMono.getD l.startedMono
  let channelAge := now - l.lastChannelMono.getD l.startedMono
  let stale : Bool := cfg.timing.staleAfter ≤ stateAge
  let unavailable : Bool := cfg.timing.failureThreshold ≤ health.consecutiveFailures ∧
    cfg.timing.unavailableAfter ≤ channelAge
  { health with
    available := !unavailable
    stale := stale
    degraded := failed || stale || decide (0 < health.consecutiveFailures) }

/-- Store a recomputed health, with the reading that `_compute_health` made. -/
def storeHealth (health : CommunicationHealth) (failed : Bool) : Ledger ρ :=
  (l.setHealth (l.computeHealth env cfg health failed)).tick

/-- `_record_success`. -/
def recordSuccess (stateSuccess : Bool) : Ledger ρ :=
  let now := l.now env
  let wall := l.wall env
  let l := l.tick.tickWall
  let l := { l with
    lastChannelMono := some now
    lastStateMono := if stateSuccess then some now else l.lastStateMono }
  let old := l.snapshot.health
  (l.storeHealth env cfg
    { old with
      available := true
      consecutiveFailures := 0
      lastChannelSuccess := some wall
      lastStateSuccess := if stateSuccess then some wall else old.lastStateSuccess
      lastError := none } false).publish

/-- `_record_primary_failure`, of an error with this class name. -/
def recordPrimaryFailure (errorName : String) : Ledger ρ :=
  let old := l.snapshot.health
  (l.storeHealth env cfg
    { old with
      consecutiveFailures := old.consecutiveFailures + 1
      lastError := some errorName } true).publish

/-- `_record_optional_failure`. -/
def recordOptionalFailure (errorName : String) : Ledger ρ :=
  (l.storeHealth env cfg
    { l.snapshot.health with degraded := true, lastError := some errorName } true).publish

/-! ### Speaker state -/

/-- `_apply_source`. -/
def applySource (status : SourceStatus) : Ledger ρ :=
  l.setSpeaker { l.snapshot.speaker with
    powerOn := some status.powerOn, source := some status.source }

/-- `_apply_volume`. -/
def applyVolume (status : VolumeStatus) : Ledger ρ :=
  l.setSpeaker { l.snapshot.speaker with
    volume := some status.volume, muted := some status.muted }

/-- `self._last_volume_mono = self._now()`. -/
@[simps]
def stampVolume : Ledger ρ := { l.tick with lastVolumeMono := some (l.now env) }

/-! ### Verification -/

/-- `_start_verification`. The record has a first delay because its list is not empty. -/
def startVerification (job : Control) (expected : SpeakerState) : Ledger ρ :=
  let due := l.now env + cfg.timing.verificationDelays.head cfg.timing.verificationDelays_ne_nil
  { l.tick.emit (.planStarted job.id job.command.kind expected) with
    verification :=
      { attempt := 0, due := some due, kind := some job.command.kind, expected := some expected } }

/-- `_clear_verification`. -/
@[simps snapshot startedMono lastChannelMono publisher monoReads log]
def clearVerification : Ledger ρ := { l with verification := {} }

/-- Replace the field `verified` of the last command. -/
def setVerified (value : Bool) : Ledger ρ :=
  match l.snapshot.lastCommand with
  | none => l
  | some result => (l.setLastCommand { result with verified := some value }).emit
      (.verified result.id value)

/-- The last command exists and has not been verified either way. -/
def awaitsVerification : Bool :=
  l.snapshot.lastCommand.any fun result => result.verified.isNone

/-- `_schedule_next_verification`. -/
def scheduleNextVerification : Ledger ρ :=
  let attempt := l.verification.attempt + 1
  match cfg.timing.verificationDelays[attempt.toNat]? with
  | none =>
    let l := if l.awaitsVerification then (l.setVerified false).publish else l
    { l with verification := { attempt := attempt, due := none, kind := none, expected := none } }
  | some delay =>
    { l.tick with
      verification :=
        { l.verification with attempt := attempt, due := some (l.now env + delay) } }

/-- The comparison of `_complete_verification`. -/
def matchesExpected : Bool :=
  match l.verification.kind, l.verification.expected with
  | some kind, some expected =>
    if kind.isSource then
      l.snapshot.speaker.powerOn = expected.powerOn ∧ l.snapshot.speaker.source = expected.source
    else
      l.snapshot.speaker.volume = expected.volume ∧ l.snapshot.speaker.muted = expected.muted
  | _, _ => false

/-- `_complete_verification`. -/
def completeVerification : Ledger ρ :=
  if l.matchesExpected then (l.setVerified true).clearVerification.publish
  else
    let l := l.emit .mismatch
    let l := l.setHealth
      { l.snapshot.health with degraded := true, lastError := some "VerificationMismatch" }
    l.publish.scheduleNextVerification env cfg

/-- The condition under which a source GET completes the verification. The clock is read for it
when a verification is due at all. -/
def verifiesNow (reason : Reason) : Bool :=
  l.verification.due.any (· ≤ l.now env) &&
    (reason = .verification || l.verification.kind.any ControlKind.isSource) &&
    l.awaitsVerification

/-- The part of `_async_state_exchange` that verifies the last command. -/
def verify (reason : Reason) : Ledger ρ :=
  let verifies := l.verifiesNow env reason
  let l := if l.verification.due.isSome then l.tick else l
  if verifies then l.completeVerification env cfg else l

/-- The condition of `_async_state_exchange` on the volume: it is unknown and was never read, or
it was read too long ago. -/
def volumeDue : Bool :=
  match l.lastVolumeMono with
  | none => l.snapshot.speaker.volume.isNone
  | some last => cfg.timing.volumePollInterval ≤ l.now env - last

/-! ### Completion of a control -/

/-- `_finish_control_error`, but for the waiters. -/
def finishControlError (job : Control) (error : ControlError) (attempted : Bool)
    (outcome : Outcome) : Ledger ρ :=
  let result := job.failedResult (l.wall env) error attempted
  ((l.tickWall.setLastCommand result).emit (.completed job.id outcome result)).publish

/-- The result of an acknowledged control, in `_async_control`. -/
def storeAcknowledged (job : Control) : Ledger ρ :=
  let result := job.acknowledgedResult (l.wall env)
  (l.tickWall.setLastCommand result).emit (.completed job.id .acknowledged result)

/-- The part of `_async_control` between the optimistic state of an acknowledged control and its
verification plan. -/
def acknowledge (job : Control) (attempt : ℕ) (reply : ρ) : Ledger ρ :=
  let l := if job.command.kind.isVolume then l.stampVolume env else l
  ((l.emit (.setEnded job.id attempt reply (l.now env))).recordSuccess env cfg
    false).storeAcknowledged env job

/-! ### What the recording methods leave alone -/

@[simp] lemma frame_finishControlError (job : Control) (error : ControlError) (attempted : Bool)
    (outcome : Outcome) :
    (l.finishControlError env job error attempted outcome).log =
        .completed job.id outcome (job.failedResult (l.wall env) error attempted) :: l.log ∧
      (l.finishControlError env job error attempted outcome).snapshot.lastCommand =
        some (job.failedResult (l.wall env) error attempted) ∧
      (l.finishControlError env job error attempted outcome).snapshot.speaker =
        l.snapshot.speaker ∧
      (l.finishControlError env job error attempted outcome).snapshot.health =
        l.snapshot.health ∧
      (l.finishControlError env job error attempted outcome).verification = l.verification ∧
      (l.finishControlError env job error attempted outcome).startedMono = l.startedMono ∧
      (l.finishControlError env job error attempted outcome).lastChannelMono =
        l.lastChannelMono ∧
      (l.finishControlError env job error attempted outcome).monoReads = l.monoReads := by
  simp [finishControlError]

/-- The log of an acknowledged control, and the time under which its answer is recorded. -/
lemma frame_acknowledge (job : Control) (attempt : ℕ) (reply : ρ) :
    ∃ time wall, (l.acknowledge env cfg job attempt reply).log =
        .completed job.id .acknowledged (job.acknowledgedResult wall) ::
          .setEnded job.id attempt reply time :: l.log ∧
      (l.acknowledge env cfg job attempt reply).lastChannelMono = some time ∧
      (l.acknowledge env cfg job attempt reply).snapshot.speaker = l.snapshot.speaker ∧
      (l.acknowledge env cfg job attempt reply).snapshot.lastCommand =
        some (job.acknowledgedResult wall) ∧
      (l.acknowledge env cfg job attempt reply).verification = l.verification ∧
      (l.acknowledge env cfg job attempt reply).startedMono = l.startedMono := by
  unfold acknowledge
  dsimp only
  split
  · exact ⟨_, _, rfl, rfl, rfl, rfl, rfl, rfl⟩
  · exact ⟨_, _, rfl, rfl, rfl, rfl, rfl, rfl⟩

/-! ### Verification writes nothing but notes and results -/

/-- `l'` comes from `l` by readings of the clock and by verification: the log is extended by
notes only, and the speaker's state and the times that health depends on are the same. -/
structure Noted (l l' : Ledger ρ) : Prop where
  speaker : l'.snapshot.speaker = l.snapshot.speaker
  startedMono : l'.startedMono = l.startedMono
  lastChannelMono : l'.lastChannelMono = l.lastChannelMono
  reads : l.monoReads ≤ l'.monoReads
  notes : ∃ notes, l'.log = notes ++ l.log ∧ ∀ o ∈ notes, o.isNote = true

variable {env cfg l} {l' l'' : Ledger ρ}

lemma Noted.refl : Noted l l :=
  ⟨rfl, rfl, rfl, le_rfl, [], rfl, by simp⟩

lemma Noted.trans (h : Noted l l') (h' : Noted l' l'') : Noted l l'' := by
  obtain ⟨notes, hlog, hnotes⟩ := h.notes
  obtain ⟨notes', hlog', hnotes'⟩ := h'.notes
  refine ⟨h'.speaker.trans h.speaker, h'.startedMono.trans h.startedMono,
    h'.lastChannelMono.trans h.lastChannelMono, h.reads.trans h'.reads, notes' ++ notes, ?_, ?_⟩
  · rw [hlog', hlog, List.append_assoc]
  · intro o ho
    rcases List.mem_append.mp ho with ho | ho
    · exact hnotes' o ho
    · exact hnotes o ho

lemma Noted.tick : Noted l l.tick :=
  ⟨rfl, rfl, rfl, Nat.le_succ _, [], rfl, by simp⟩

lemma Noted.startVerification {job : Control} {expected : SpeakerState} :
    Noted l (l.startVerification env cfg job expected) :=
  ⟨rfl, rfl, rfl, Nat.le_succ _, [_], rfl, by simp [Obs.isNote]⟩

lemma Noted.ite {c : Prop} [Decidable c] (h : c → Noted l l') :
    Noted l (if c then l' else l) := by
  split
  · exact h ‹_›
  · exact .refl

/-- Health is recomputed, nothing else. -/
lemma Noted.recordOptionalFailure {name : String} :
    Noted l (l.recordOptionalFailure env cfg name) :=
  ⟨rfl, rfl, rfl, Nat.le_succ _, [], rfl, by simp⟩

private lemma Noted.setVerified {value : Bool} : Noted l (l.setVerified value) := by
  unfold Ledger.setVerified
  split
  · exact .refl
  · exact ⟨rfl, rfl, rfl, le_rfl, [_], rfl, by simp [Obs.isNote]⟩

lemma Noted.scheduleNextVerification : Noted l (l.scheduleNextVerification env cfg) := by
  unfold Ledger.scheduleNextVerification
  dsimp only
  split
  · by_cases ha : l.awaitsVerification = true
    · have hset : Noted l (l.setVerified false) := .setVerified
      obtain ⟨hs, h₁, h₂, h₃, hn⟩ := hset
      rw [if_pos ha]
      exact ⟨hs, h₁, h₂, h₃, hn⟩
    · rw [if_neg ha]
      exact ⟨rfl, rfl, rfl, le_rfl, [], rfl, by simp⟩
  · exact ⟨rfl, rfl, rfl, Nat.le_succ _, [], rfl, by simp⟩

lemma Noted.completeVerification : Noted l (l.completeVerification env cfg) := by
  unfold Ledger.completeVerification
  by_cases hm : l.matchesExpected = true
  · rw [if_pos hm]
    have hset : Noted l (l.setVerified true) := .setVerified
    obtain ⟨hs, h₁, h₂, h₃, hn⟩ := hset
    exact ⟨hs, h₁, h₂, h₃, hn⟩
  · rw [if_neg hm]
    refine Noted.trans ?_ .scheduleNextVerification
    exact ⟨rfl, rfl, rfl, le_rfl, [.mismatch], rfl, by simp [Obs.isNote]⟩

lemma Noted.verify {reason : Reason} : Noted l (l.verify env cfg reason) := by
  have htick : Noted l (if l.verification.due.isSome then l.tick else l) :=
    .ite fun _ => .tick
  unfold Ledger.verify
  dsimp only
  split
  · exact htick.trans .completeVerification
  · exact htick

end Ledger

end KefLsx
