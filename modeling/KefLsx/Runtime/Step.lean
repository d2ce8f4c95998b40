import KefLsx.Core.Transition
import KefLsx.Runtime.Basic

/-!
# Runs of the runtime

Events are the calls of producers, the ends of the awaits, and the pieces of the worker. asyncio
schedules cooperatively, so a producer runs only while the worker is suspended, has ended or was
never created. An exchange may be answered, and a caller or the worker cancelled, at any such
moment, and all else is left to the interleaving.

`Rule` lists what one step can do, with the guard of each branch; `Rule.of_step` is the inversion
from which every invariant is proved.
-/

namespace KefLsx

inductive Event (ρ : Type) where
  | setPublisher
  | start
  | submit (request : Request)
  | poll
  /-- The task of a caller of `_submit` is cancelled. -/
  | cancelCaller (future : ℕ)
  /-- `async_close`: its task runs its first piece. -/
  | close
  | shutdownTimeout
  /-- `_async_close_impl` finds the worker's task done. -/
  | workerJoined
  | clientClosed
  /-- The worker goes on. -/
  | run
  | woken
  | timedOut
  /-- The exchange in flight ends. -/
  | reply (reply : ρ)
  | slept
  /-- The worker is cancelled in its await. -/
  | cancelled

namespace Runtime

variable {ρ : Type} [Client ρ] (env : Env) (cfg : Config)

/-- The worker goes on from where it stands. -/
def stepRun (s : Runtime ρ) : Worker → Option (Runtime ρ)
  | .created => some (s.goto .loop)
  | .loop => some (s.asyncWorker env)
  | .control job => some (s.asyncControl env job)
  | .attempt job failure => some (s.asyncAttempt env cfg job failure)
  | _ => none

/-- The exchange that the worker awaits ends with what the client makes of the reply. -/
def stepReply (s : Runtime ρ) (reply : ρ) : Worker → Option (Runtime ρ)
  | .sourceGet reason =>
    match Client.asyncGetSource reply with
    | .error error => some (s.stateExchangeFailed env cfg reason reply error)
    | .ok status => some (s.stateExchangeDone env cfg reason reply status)
  | .maintenanceGet =>
    match Client.asyncGetVolume reply with
    | .error error => some (s.maintenanceFailed env cfg reply error)
    | .ok status => some (s.maintenanceDone env cfg reply status)
  | .volumeGet job =>
    match Client.asyncGetVolume reply with
    | .error error => some (s.volumeGetFailed env cfg job reply error)
    | .ok status => some (s.volumeGetDone env cfg job reply status)
  | .setting job first _ =>
    match Client.asyncSet reply with
    | .error error => some (s.attemptFailed env cfg job first reply error)
    | .ok () => some (s.controlAcknowledged env cfg job first reply)
  | _ => none

/-- The calls of producers, and the pieces of `_async_close_impl`. -/
def stepProducer (s : Runtime ρ) : Event ρ → Option (Runtime ρ)
  | .setPublisher => some { s with publisher := true }
  | .start => some (s.asyncStart env)
  | .submit request => some (s.submit env cfg (cfg.submitted request))
  | .poll => some s.asyncPoll
  | .cancelCaller future => some (s.cancelCaller future)
  | .close => some (if s.closeTask = .notStarted then s.beginClose else s)
  | .shutdownTimeout =>
    if s.closeTask = .awaitingWorker then some { s with closeTask := .cancellingWorker } else none
  | .workerJoined =>
    match s.worker with
    | some w =>
      if w.ended ∧ (s.closeTask = .awaitingWorker ∨ s.closeTask = .cancellingWorker) then
        some (s.workerJoined w)
      else none
    | none => none
  | .clientClosed => if s.closeTask = .closingClient then some s.endClose else none
  | _ => none

/-- One step of the runtime. -/
def step (s : Runtime ρ) (e : Event ρ) : Option (Runtime ρ) :=
  match e, s.worker with
  | .run, some w => s.stepRun env cfg w
  | .reply reply, some w => s.stepReply env cfg reply w
  | .woken, some (.waiting _) => if s.wake then some (s.goto .loop) else none
  | .timedOut, some (.waiting (some _)) => some (s.goto .loop)
  | .slept, some (.retrySleep job failure _) => some (s.goto (.attempt job (some failure)))
  | .cancelled, some w =>
    if s.closeTask = .cancellingWorker ∧ ¬ w.running ∧ ¬ w.ended then some (s.goto .cancelled)
    else none
  | e, _ => if s.idle then s.stepProducer env cfg e else none

/-! ### What a step can do -/

/-- The loop over the attempts is left before another one: on a closing runtime, or, in the state
`s'` after a reading of the clock, at the deadline. -/
inductive LeavesAttempts (s : Runtime ρ) (job : Control) : Runtime ρ → Prop where
  | closing (hc : s.closing = true) : LeavesAttempts s job s
  | expired (hc : s.closing = false) (hd : job.deadline ≤ s.now env) :
      LeavesAttempts s job (s.record Ledger.tick)

/-- The transitions, one constructor for each branch. -/
inductive Rule (s : Runtime ρ) : Event ρ → Runtime ρ → Prop where
  -- producers
  | setPublisher (hi : s.idle) : Rule s .setPublisher { s with publisher := true }
  | alreadyStarted (hi : s.idle) (hw : s.worker.isSome) : Rule s .start s
  | started (hw : s.worker = none) (hc : s.closing = false) :
      Rule s .start (s.createWorker env).addPoll
  | startedClosing (hw : s.worker = none) (hc : s.closing = true) :
      Rule s .start (s.createWorker env)
  | submitClosed (r : Request) (hi : s.idle) (hc : s.closing = true) : Rule s (.submit r) s
  | coalesced (r : Request) (job : Control) (hi : s.idle) (hc : s.closing = false)
      (hj : s.coalescingEntry (cfg.submitted r) = some job) :
      Rule s (.submit r) (s.coalesce env job (cfg.submitted r))
  | refused (r : Request) (hi : s.idle) (hc : s.closing = false)
      (hj : s.coalescingEntry (cfg.submitted r) = none)
      (hfull : queueCapacity ≤ s.controls.length) : Rule s (.submit r) s.refuse
  | accepted (r : Request) (hi : s.idle) (hc : s.closing = false)
      (hj : s.coalescingEntry (cfg.submitted r) = none)
      (hfree : s.controls.length < queueCapacity) :
      Rule s (.submit r) (s.accept env cfg (cfg.submitted r))
  | pollClosed (hi : s.idle) (hc : s.closing = true) : Rule s .poll s
  | polled (hi : s.idle) (hc : s.closing = false) : Rule s .poll s.addPoll
  | callerCancelled (f : ℕ) (hi : s.idle) : Rule s (.cancelCaller f) (s.cancelCaller f)
  -- shutdown
  | closeShared (hi : s.idle) (hct : s.closeTask ≠ .notStarted) : Rule s .close s
  | closeBegun (hi : s.idle) (hct : s.closeTask = .notStarted) : Rule s .close s.beginClose
  | shutdownTimedOut (hi : s.idle) (hct : s.closeTask = .awaitingWorker) :
      Rule s .shutdownTimeout { s with closeTask := .cancellingWorker }
  | joined (w : Worker) (hw : s.worker = some w) (he : w = .returned ∨ w = .cancelled)
      (hct : s.closeTask = .awaitingWorker ∨ s.closeTask = .cancellingWorker) :
      Rule s .workerJoined s.joinWorker
  | joinFailed (w : Worker) (hw : s.worker = some w) (he : w.ended)
      (hct : s.closeTask = .awaitingWorker ∨ s.closeTask = .cancellingWorker) :
      Rule s .workerJoined { s with closeTask := .failed }
  | clientClosed (hi : s.idle) (hct : s.closeTask = .closingClient) :
      Rule s .clientClosed s.endClose
  | workerCancelled (w : Worker) (hw : s.worker = some w) (hr : w.running = false)
      (he : w.ended = false) (hct : s.closeTask = .cancellingWorker) :
      Rule s .cancelled (s.goto .cancelled)
  -- the worker's loop
  | workerBegun (hw : s.worker = some .created) : Rule s .run (s.goto .loop)
  | workerReturned (hw : s.worker = some .loop) (hc : s.closing = true) :
      Rule s .run (s.goto .returned)
  | controlSelected (job : Control) (rest : List Control) (hw : s.worker = some .loop)
      (hc : s.closing = false) (hq : s.controls = job :: rest) :
      Rule s .run ({ s.record Ledger.tick with controls := rest }.goto (.control job))
  | verificationStarted (hw : s.worker = some .loop) (hc : s.closing = false)
      (hq : s.controls = []) (hdue : s.verification.due.any (· ≤ s.now env) = true) :
      Rule s .run ((s.record Ledger.tick).startCall (.sourceGet .verification) none
        (.sourceGet .verification))
  | pollStarted (hw : s.worker = some .loop) (hc : s.closing = false) (hq : s.controls = [])
      (hdue : s.verification.due.any (· ≤ s.now env) = false) (hp : s.pollPending = true) :
      Rule s .run ((s.record Ledger.tick).startCall (.sourceGet .poll) none (.sourceGet .poll))
  | maintenanceStarted (hw : s.worker = some .loop) (hc : s.closing = false)
      (hq : s.controls = []) (hm : s.maintenancePending = true)
      (hon : s.snapshot.speaker.powerOn = some true) :
      Rule s .run ({ s.record Ledger.tick with maintenancePending := false }.startCall
        .maintenanceGet none .maintenanceGet)
  | maintenanceSkipped (hw : s.worker = some .loop) (hc : s.closing = false)
      (hq : s.controls = []) (hm : s.maintenancePending = true)
      (hon : s.snapshot.speaker.powerOn ≠ some true) :
      Rule s .run ({ s.record Ledger.tick with maintenancePending := false }.goto .loop)
  | waited (hw : s.worker = some .loop) (hc : s.closing = false) (hq : s.controls = [])
      (hdue : s.verification.due.any (· ≤ s.now env) = false) (hp : s.pollPending = false)
      (hm : s.maintenancePending = false) :
      Rule s .run ({ s.record Ledger.tick with wake := false }.goto
        (.waiting (s.verification.due.map fun due =>
          env.loopTime (s.monoReads + 1) + max 0 (due - s.now env))))
  | woken (expiry : Option Time) (hw : s.worker = some (.waiting expiry))
      (hwake : s.wake = true) : Rule s .woken (s.goto .loop)
  | timedOut (expiry : Time) (hw : s.worker = some (.waiting (some expiry))) :
      Rule s .timedOut (s.goto .loop)
  -- the ends of source GETs and of maintenance
  | stateFailed (reason : Reason) (r : ρ) (e : LsxError)
      (hw : s.worker = some (.sourceGet reason)) (hr : Client.asyncGetSource r = .error e) :
      Rule s (.reply r) (s.stateExchangeFailed env cfg reason r e)
  | stateDone (reason : Reason) (r : ρ) (status : SourceStatus)
      (hw : s.worker = some (.sourceGet reason)) (hr : Client.asyncGetSource r = .ok status) :
      Rule s (.reply r) (s.stateExchangeDone env cfg reason r status)
  | maintenanceFailed (r : ρ) (e : LsxError) (hw : s.worker = some .maintenanceGet)
      (hr : Client.asyncGetVolume r = .error e) :
      Rule s (.reply r) (s.maintenanceFailed env cfg r e)
  | maintenanceDone (r : ρ) (status : VolumeStatus) (hw : s.worker = some .maintenanceGet)
      (hr : Client.asyncGetVolume r = .ok status) :
      Rule s (.reply r) (s.maintenanceDone env cfg r status)
  -- a control
  | controlSkipped (job : Control) (hw : s.worker = some (.control job))
      (hall : ∀ f ∈ job.waiters, (s.controlFutures f).isCancelled = true) :
      Rule s .run ((s.record (·.emit (.skipped job.id))).goto .loop)
  | controlExpired (job : Control) (hw : s.worker = some (.control job))
      (hlive : ¬ ∀ f ∈ job.waiters, (s.controlFutures f).isCancelled = true)
      (hd : job.deadline ≤ s.now env) :
      Rule s .run (((s.record Ledger.tick).finishControlError env job deadlineExpired false
        .expired).goto .loop)
  | volumeGetStarted (job : Control) (hw : s.worker = some (.control job))
      (hlive : ¬ ∀ f ∈ job.waiters, (s.controlFutures f).isCancelled = true)
      (hd : s.now env < job.deadline) (hk : job.command.kind.isRelative = true)
      (hunknown : s.snapshot.speaker.volume = none ∨ s.snapshot.speaker.muted = none) :
      Rule s .run (((s.record Ledger.tick).record Ledger.tick).startCall
        (.volumeGet job.id job.command.kind) (some ((s.record Ledger.tick).remaining env job))
        (.volumeGet job))
  | attemptsBegun (job : Control) (hw : s.worker = some (.control job))
      (hlive : ¬ ∀ f ∈ job.waiters, (s.controlFutures f).isCancelled = true)
      (hd : s.now env < job.deadline)
      (hknown : job.command.kind.isRelative = true →
        s.snapshot.speaker.volume ≠ none ∧ s.snapshot.speaker.muted ≠ none) :
      Rule s .run ((s.record Ledger.tick).goto (.attempt job none))
  | volumeGetFailed (job : Control) (r : ρ) (e : LsxError)
      (hw : s.worker = some (.volumeGet job)) (hr : Client.asyncGetVolume r = .error e) :
      Rule s (.reply r) (s.volumeGetFailed env cfg job r e)
  | volumeGetDone (job : Control) (r : ρ) (status : VolumeStatus)
      (hw : s.worker = some (.volumeGet job)) (hr : Client.asyncGetVolume r = .ok status) :
      Rule s (.reply r) (s.volumeGetDone env cfg job r status)
  | attemptsTimedOut (job : Control) (s' : Runtime ρ) (hw : s.worker = some (.attempt job none))
      (hs : s.LeavesAttempts env job s') : Rule s .run (s'.controlTimedOut env cfg job)
  | attemptsLeft (job : Control) (failure : Failure) (s' : Runtime ρ)
      (hw : s.worker = some (.attempt job (some failure))) (hs : s.LeavesAttempts env job s') :
      Rule s .run (s'.controlFailed env cfg job failure)
  | workerCrashed (job : Control) (failure : Option Failure) (e : ValueError)
      (hw : s.worker = some (.attempt job failure)) (hc : s.closing = false)
      (hd : s.now env < job.deadline)
      (hq : cfg.request s.snapshot.speaker job.command = .error e) :
      Rule s .run (((s.record Ledger.tick).record Ledger.tick).goto (.crashed e))
  | setStarted (job : Control) (failure : Option Failure) (request : List UInt8)
      (hw : s.worker = some (.attempt job failure)) (hc : s.closing = false)
      (hd : s.now env < job.deadline)
      (hq : cfg.request s.snapshot.speaker job.command = .ok request) :
      Rule s .run (((s.record Ledger.tick).record Ledger.tick).startCall
        (.set job.id job.command.kind (attemptNumber failure) request)
        (some ((s.record Ledger.tick).remaining env job))
        (.setting { job with command := cfg.executed s.snapshot.speaker job.command } failure
          request))
  | setRejected (job : Control) (first : Option Failure) (request : List UInt8) (r : ρ)
      (e : LsxError) (hw : s.worker = some (.setting job first request))
      (hr : Client.asyncSet r = .error e) (he : e.isRejection = true) :
      Rule s (.reply r) (((s.setEnded env job first r).record
        (·.recordSuccess env cfg false)).controlFailed env cfg job (Failure.after first e))
  | firstFailed (job : Control) (request : List UInt8) (r : ρ) (e : LsxError)
      (hw : s.worker = some (.setting job none request)) (hr : Client.asyncSet r = .error e)
      (he : e.isRejection = false) :
      Rule s (.reply r)
        ((s.setEnded env job none r).sleepBeforeRetry env cfg job (Failure.after none e))
  | secondFailed (job : Control) (first : Failure) (request : List UInt8) (r : ρ) (e : LsxError)
      (hw : s.worker = some (.setting job (some first) request))
      (hr : Client.asyncSet r = .error e) (he : e.isRejection = false) :
      Rule s (.reply r) ((s.setEnded env job (some first) r).controlFailed env cfg job
        (Failure.after (some first) e))
  | setAcknowledged (job : Control) (first : Option Failure) (request : List UInt8) (r : ρ)
      (hw : s.worker = some (.setting job first request)) (hr : Client.asyncSet r = .ok ()) :
      Rule s (.reply r) (s.controlAcknowledged env cfg job first r)
  | slept (job : Control) (failure : Failure) (delay : Time)
      (hw : s.worker = some (.retrySleep job failure delay)) :
      Rule s .slept (s.goto (.attempt job (some failure)))

variable {env cfg} {s t : Runtime ρ} {e : Event ρ}

/-- The worker's loop. -/
private lemma Rule.of_asyncWorker (hw : s.worker = some .loop) :
    Rule env cfg s .run (s.asyncWorker env) := by
  by_cases hc : s.closing = true
  · simpa [asyncWorker, hc] using Rule.workerReturned hw hc
  have hopen : s.closing = false := by simpa using hc
  cases hq : s.controls with
  | cons job rest =>
    have hrule : Rule env cfg s .run _ := .controlSelected job rest hw hopen hq
    simpa [asyncWorker, hopen, hq] using hrule
  | nil =>
    by_cases hdue : s.verification.due.any (· ≤ s.now env) = true
    · have hrule : Rule env cfg s .run _ := .verificationStarted hw hopen hq hdue
      simpa [asyncWorker, hopen, hq, Ledger.tick, hdue] using hrule
    by_cases hp : s.pollPending = true
    · have hrule : Rule env cfg s .run _ := .pollStarted hw hopen hq (by simpa using hdue) hp
      simpa [asyncWorker, hopen, hq, Ledger.tick, hdue, hp] using hrule
    by_cases hm : s.maintenancePending = true
    · by_cases hon : s.snapshot.speaker.powerOn = some true
      · have hrule : Rule env cfg s .run _ := .maintenanceStarted hw hopen hq hm hon
        simpa [asyncWorker, asyncVolumeMaintenance, hopen, hq, Ledger.tick, hdue, hp, hm, hon]
          using hrule
      · have hrule : Rule env cfg s .run _ := .maintenanceSkipped hw hopen hq hm hon
        simpa [asyncWorker, asyncVolumeMaintenance, hopen, hq, Ledger.tick, hdue, hp, hm, hon]
          using hrule
    · have hrule : Rule env cfg s .run _ :=
        .waited hw hopen hq (by simpa using hdue) (by simpa using hp) (by simpa using hm)
      simpa [asyncWorker, waitForWork, hopen, hq, Ledger.tick, hdue, hp, hm, Function.comp_def]
        using hrule

/-- The beginning of `_async_control`. -/
private lemma Rule.of_asyncControl {job : Control} (hw : s.worker = some (.control job)) :
    Rule env cfg s .run (s.asyncControl env job) := by
  by_cases hall : ∀ f ∈ job.waiters, (s.controlFutures f).isCancelled = true
  · have hskip : (job.waiters.all fun f => (s.controlFutures f).isCancelled) = true := by
      simpa using hall
    rw [asyncControl, if_pos hskip]
    exact .controlSkipped job hw hall
  have hlive : (job.waiters.all fun f => (s.controlFutures f).isCancelled) = false := by
    simpa using hall
  by_cases hd : job.deadline ≤ s.now env
  · have hrule : Rule env cfg s .run _ := .controlExpired job hw hall hd
    simpa [asyncControl, hlive, hd] using hrule
  by_cases hk : job.command.kind.isRelative = true ∧
      (s.snapshot.speaker.volume = none ∨ s.snapshot.speaker.muted = none)
  · have hrule : Rule env cfg s .run _ :=
      .volumeGetStarted job hw hall (not_le.mp hd) hk.1 hk.2
    simpa [asyncControl, hlive, hd, hk, Ledger.tick] using hrule
  · have hknown : job.command.kind.isRelative = true →
        s.snapshot.speaker.volume ≠ none ∧ s.snapshot.speaker.muted ≠ none :=
      fun hrel => not_or.mp fun h => hk ⟨hrel, h⟩
    have hrule : Rule env cfg s .run _ := .attemptsBegun job hw hall (not_le.mp hd) hknown
    simpa [asyncControl, hlive, hd, hk, Ledger.tick] using hrule

private lemma Rule.of_controlLeft {job : Control} {failure : Option Failure} {s' : Runtime ρ}
    (hw : s.worker = some (.attempt job failure)) (hs : s.LeavesAttempts env job s') :
    Rule env cfg s .run (s'.controlLeft env cfg job failure) := by
  cases failure with
  | none => exact .attemptsTimedOut job s' hw hs
  | some failure => exact .attemptsLeft job failure s' hw hs

/-- The loop over the attempts. -/
private lemma Rule.of_asyncAttempt {job : Control} {failure : Option Failure}
    (hw : s.worker = some (.attempt job failure)) :
    Rule env cfg s .run (s.asyncAttempt env cfg job failure) := by
  by_cases hc : s.closing = true
  · simpa [asyncAttempt, hc] using Rule.of_controlLeft hw (.closing hc)
  have hopen : s.closing = false := by simpa using hc
  by_cases hd : job.deadline ≤ s.now env
  · simpa [asyncAttempt, hopen, hd] using Rule.of_controlLeft hw (.expired hopen hd)
  cases hq : cfg.request s.snapshot.speaker job.command with
  | error e =>
    have hrule : Rule env cfg s .run _ := .workerCrashed job failure e hw hopen (not_le.mp hd) hq
    simpa [asyncAttempt, hopen, hd, hq, Ledger.tick] using hrule
  | ok request =>
    have hrule : Rule env cfg s .run _ :=
      .setStarted job failure request hw hopen (not_le.mp hd) hq
    simpa [asyncAttempt, hopen, hd, hq, Ledger.tick] using hrule

/-- The end of an attempt with an error. -/
private lemma Rule.of_attemptFailed {job : Control} {first : Option Failure}
    {request : List UInt8} {r : ρ} {e : LsxError}
    (hw : s.worker = some (.setting job first request)) (hr : Client.asyncSet r = .error e) :
    Rule env cfg s (.reply r) (s.attemptFailed env cfg job first r e) := by
  by_cases he : e.isRejection = true
  · have hrule : Rule env cfg s (.reply r) _ := .setRejected job first request r e hw hr he
    simpa [attemptFailed, he] using hrule
  cases first with
  | none =>
    have hrule : Rule env cfg s (.reply r) _ :=
      .firstFailed job request r e hw hr (by simpa using he)
    simpa [attemptFailed, he] using hrule
  | some first =>
    have hrule : Rule env cfg s (.reply r) _ :=
      .secondFailed job first request r e hw hr (by simpa using he)
    simpa [attemptFailed, he] using hrule

/-- The ends of the exchanges. -/
private lemma Rule.of_stepReply {r : ρ} {w : Worker} (hw : s.worker = some w)
    (h : s.stepReply env cfg r w = some t) : Rule env cfg s (.reply r) t := by
  cases w with
  | sourceGet reason =>
    simp only [stepReply] at h
    split at h <;> cases h
    · exact .stateFailed reason r _ hw ‹_›
    · exact .stateDone reason r _ hw ‹_›
  | maintenanceGet =>
    simp only [stepReply] at h
    split at h <;> cases h
    · exact .maintenanceFailed r _ hw ‹_›
    · exact .maintenanceDone r _ hw ‹_›
  | volumeGet job =>
    simp only [stepReply] at h
    split at h <;> cases h
    · exact .volumeGetFailed job r _ hw ‹_›
    · exact .volumeGetDone job r _ hw ‹_›
  | setting job first request =>
    simp only [stepReply] at h
    split at h <;> cases h
    · exact .of_attemptFailed hw ‹_›
    · exact .setAcknowledged job first request r hw ‹_›
  | _ => cases h

/-- The calls of producers. -/
private lemma Rule.of_stepProducer (hi : s.idle = true) (h : s.stepProducer env cfg e = some t) :
    Rule env cfg s e t := by
  cases e with
  | setPublisher => cases h; exact .setPublisher hi
  | start =>
    cases h
    by_cases hw : s.worker.isSome = true
    · simpa [asyncStart, hw] using Rule.alreadyStarted hi hw
    · have hnone : s.worker = none := by simpa using hw
      by_cases hc : s.closing = true
      · have hrule : Rule env cfg s .start _ := .startedClosing hnone hc
        simpa [asyncStart, asyncPoll, createWorker, hnone, hc] using hrule
      · have hrule : Rule env cfg s .start _ := .started hnone (by simpa using hc)
        simpa [asyncStart, asyncPoll, createWorker, hnone, hc] using hrule
  | submit r =>
    cases h
    by_cases hc : s.closing = true
    · simpa [submit, hc] using Rule.submitClosed r hi hc
    have hopen : s.closing = false := by simpa using hc
    cases hj : s.coalescingEntry (cfg.submitted r) with
    | some job => simpa [submit, hopen, hj] using Rule.coalesced r job hi hopen hj
    | none =>
      by_cases hfull : queueCapacity ≤ s.controls.length
      · simpa [submit, hopen, hj, hfull] using Rule.refused r hi hopen hj hfull
      · simpa [submit, hopen, hj, hfull] using Rule.accepted r hi hopen hj (not_le.mp hfull)
  | poll =>
    cases h
    by_cases hc : s.closing = true
    · simpa [asyncPoll, hc] using Rule.pollClosed hi hc
    · simpa [asyncPoll, hc] using Rule.polled hi (by simpa using hc)
  | cancelCaller f => cases h; exact .callerCancelled f hi
  | close =>
    cases h
    by_cases hct : s.closeTask = .notStarted
    · simpa [hct] using Rule.closeBegun hi hct
    · simpa [hct] using Rule.closeShared hi hct
  | shutdownTimeout =>
    simp only [stepProducer, Option.ite_none_right_eq_some, Option.some.injEq] at h
    obtain ⟨hct, rfl⟩ := h
    exact .shutdownTimedOut hi hct
  | workerJoined =>
    simp only [stepProducer] at h
    split at h
    · rename_i w hw
      simp only [Option.ite_none_right_eq_some, Option.some.injEq] at h
      obtain ⟨⟨he, hct⟩, rfl⟩ := h
      unfold Runtime.workerJoined
      split
      · exact .joined _ hw (.inl rfl) hct
      · exact .joined _ hw (.inr rfl) hct
      · exact .joinFailed _ hw he hct
    · cases h
  | clientClosed =>
    simp only [stepProducer, Option.ite_none_right_eq_some, Option.some.injEq] at h
    obtain ⟨hct, rfl⟩ := h
    exact .clientClosed hi hct
  | _ => cases h

/-- Every step is one of the transitions. -/
theorem Rule.of_step (h : step env cfg s e = some t) : Rule env cfg s e t := by
  unfold step at h
  split at h
  · rename_i w hw
    cases w with
    | created => cases h; exact .workerBegun hw
    | loop => cases h; exact .of_asyncWorker hw
    | control job => cases h; exact .of_asyncControl hw
    | attempt job failure => cases h; exact .of_asyncAttempt hw
    | _ => cases h
  · exact .of_stepReply ‹_› h
  · simp only [Option.ite_none_right_eq_some, Option.some.injEq] at h
    obtain ⟨hwake, rfl⟩ := h
    exact .woken _ ‹_› hwake
  · cases h
    exact .timedOut _ ‹_›
  · cases h
    exact .slept _ _ _ ‹_›
  · simp only [Option.ite_none_right_eq_some, Option.some.injEq, Bool.not_eq_true] at h
    obtain ⟨⟨hct, hr, he⟩, rfl⟩ := h
    exact .workerCancelled _ ‹_› hr he hct
  · simp only [Option.ite_none_right_eq_some] at h
    exact .of_stepProducer h.1 h.2

end Runtime

end KefLsx
