import KefLsx.Runtime.Ledger

/-!
# The runtime between two suspension points

The state of a `KefLsxRuntime` and what its coroutines do to it. The worker is a program counter:
it stands at a point from which it runs on, it is suspended in one of its awaits, or it has
ended. A method that runs without suspension is a function on the state; a coroutine is cut at
its awaits, and each piece is such a function.

`_active_control` is the entry that `_async_control` has been called with; the `finally` around
that call resets it on every way out. It is read off the program counter.
-/

namespace KefLsx

/-! ### Program counters -/

/-- What `attempted` and `error` of `_async_control` are after a failed attempt; before it they
are `False` and `None`. -/
structure Failure where
  attempted : Bool
  error : LsxError
deriving DecidableEq

/-- `attempted` and `error` when another attempt has raised this error. -/
def Failure.after (failure : Option Failure) (error : LsxError) : Failure :=
  { attempted := failure.any Failure.attempted || error.writeAttempted, error := error }

/-- The attempt that follows: the first, or the second after a failure. -/
def attemptNumber (failure : Option Failure) : ℕ := if failure.isSome then 1 else 0

/-- Where the worker's task stands. -/
inductive Worker where
  /-- The task has been created and has not run yet. -/
  | created
  /-- At the head of `while True`. -/
  | loop
  /-- In `self._wake.wait()`, under a timeout that expires at this time of the loop, or not. -/
  | waiting (expiry : Option Time)
  /-- In `async_get_source`. -/
  | sourceGet (reason : Reason)
  /-- In `async_get_volume`, for maintenance. -/
  | maintenanceGet
  /-- At the beginning of `_async_control`. -/
  | control (job : Control)
  /-- In `async_get_volume`, for a control. -/
  | volumeGet (job : Control)
  /-- At the head of `for attempt in range(2)`. -/
  | attempt (job : Control) (failure : Option Failure)
  /-- In `async_set_source` or `async_set_volume`. -/
  | setting (job : Control) (failure : Option Failure) (request : List UInt8)
  /-- In `asyncio.sleep`, after the first attempt. -/
  | retrySleep (job : Control) (failure : Failure) (delay : Time)
  | returned
  | cancelled
  /-- The task has ended with the `ValueError` of an encoder. -/
  | crashed (error : ValueError)
deriving DecidableEq

namespace Worker

/-- The worker holds the event loop: no other coroutine runs. -/
def running : Worker → Bool
  | loop | control _ | attempt .. => true
  | _ => false

/-- The task is done. -/
def ended : Worker → Bool
  | returned | cancelled | crashed _ => true
  | _ => false

/-- No exchange is in flight, and none is started before the worker looks whether the runtime is
closing. -/
def resting : Worker → Bool
  | created | loop | returned | cancelled => true
  | _ => false

/-- The entry that `_async_control` has been called with. -/
def job? : Worker → Option Control
  | control job | volumeGet job | attempt job .. | setting job .. | retrySleep job .. => some job
  | _ => none

end Worker

/-- Where `_async_close_impl` stands. -/
inductive CloseTask where
  | notStarted
  /-- In `asyncio.wait_for(asyncio.shield(worker), …)`. -/
  | awaitingWorker
  /-- In `await worker`, having cancelled it. -/
  | cancellingWorker
  /-- In `self._client.async_close()`. -/
  | closingClient
  | completed
  /-- The exception of the worker has ended it. -/
  | failed
deriving DecidableEq

/-- `_async_close_impl` has got past the worker's end. -/
def CloseTask.joined : CloseTask → Bool
  | closingClient | completed => true
  | _ => false

/-! ### State -/

abbrev Futures := Future.Table RuntimeSnapshot ControlError

/-- The state of a runtime, and of the futures that `_submit` and `async_poll` created. -/
structure Runtime (ρ : Type) extends Ledger ρ where
  controls : List Control := []
  pollPending : Bool := false
  pollWaiters : List ℕ := []
  maintenancePending : Bool := false
  wake : Bool := false
  worker : Option Worker := none
  closing : Bool := false
  closed : Bool := false
  closeTask : CloseTask := .notStarted
  controlFutures : Futures := fun _ => .dropped
  pollFutures : Futures := fun _ => .dropped
  /-- How many futures `_submit`, and how many `async_poll` created. -/
  controlFutureCount : ℕ := 0
  pollFutureCount : ℕ := 0
  /-- How many queue entries have been accepted. -/
  acceptedCount : ℕ := 0

namespace Runtime

variable {ρ : Type} (env : Env) (cfg : Config) (s : Runtime ρ)

/-- Apply a recording method. -/
@[simps toLedger controls pollPending pollWaiters maintenancePending wake worker closing closed
  closeTask controlFutures pollFutures controlFutureCount pollFutureCount acceptedCount]
def record (f : Ledger ρ → Ledger ρ) : Runtime ρ := { s with toLedger := f s.toLedger }

/-- Move the worker. -/
@[simps toLedger controls pollPending pollWaiters maintenancePending wake worker closing closed
  closeTask controlFutures pollFutures controlFutureCount pollFutureCount acceptedCount]
def goto (w : Worker) : Runtime ρ := { s with worker := some w }

/-- `_active_control`. -/
def activeControl : Option Control := s.worker.bind Worker.job?

/-- No piece of the worker is being executed, so that another coroutine may run. -/
def idle : Bool := s.worker.all fun w => !w.running

/-- `QUEUE_CAPACITY`. -/
def queueCapacity : ℕ := 16

/-- Settle the futures of callers of `_submit`. -/
def settleControls (waiters : List ℕ) (outcome : Future.State RuntimeSnapshot ControlError) :
    Runtime ρ :=
  { s with controlFutures := Future.settle waiters outcome s.controlFutures }

/-- `_resolve_polls`. -/
def resolvePolls : Runtime ρ :=
  { s with
    pollWaiters := []
    pollFutures := Future.settle s.pollWaiters (.result s.snapshot) s.pollFutures }

/-! ### Producers -/

/-- A poll that is not refused registers its future. -/
def addPoll : Runtime ρ :=
  { s with
    pollFutures := Function.update s.pollFutures s.pollFutureCount .pending
    pollFutureCount := s.pollFutureCount + 1
    pollWaiters := s.pollWaiters ++ [s.pollFutureCount]
    pollPending := true
    wake := true }

/-- `async_poll`, up to its await; `ClientClosedError` on a closing runtime. -/
def asyncPoll : Runtime ρ := if s.closing then s else s.addPoll

/-- The part of `async_start` that creates the worker. -/
def createWorker : Runtime ρ :=
  let now := s.now env
  (s.record fun l => { l.tick.emit (.opened now) with startedMono := now }).goto .created

/-- `async_start`, up to its await. -/
def asyncStart : Runtime ρ :=
  if s.worker.isSome then s else (s.createWorker env).asyncPoll

/-- The last entry of the queue, when a request for this command is merged into it. -/
def coalescingEntry (command : Command) : Option Control :=
  match command, s.controls.getLast? with
  | .setVolume _, some job => if job.command.kind = .setVolume then some job else none
  | _, _ => none

/-- `_submit` on an entry that takes the request: its value is replaced and its callers are
joined by this one. -/
def coalesce (job : Control) (command : Command) : Runtime ρ :=
  let future := s.controlFutureCount
  let s := s.record (·.emit (.requested future job.id command (s.now env)))
  { s with
    controls := s.controls.dropLast ++
      [{ job with command := command, waiters := job.waiters ++ [future] }]
    controlFutures := Function.update s.controlFutures future .pending
    controlFutureCount := future + 1
    wake := true }

/-- `_submit` on a full queue: `QueueBusyError` leaves the created future to nobody. -/
def refuse : Runtime ρ :=
  { s with
    controlFutures := Function.update s.controlFutures s.controlFutureCount .dropped
    controlFutureCount := s.controlFutureCount + 1 }

/-- The entry that `_submit` creates. -/
def newEntry (command : Command) : Control :=
  { id := s.acceptedCount
    command := command
    deadline := s.now env + cfg.timing.controlDeadline
    waiters := [s.controlFutureCount]
    result :=
      { id := s.acceptedCount, command := command.kind, submittedAt := s.wall env } }

/-- `_submit` with a new entry. -/
def accept (command : Command) : Runtime ρ :=
  let future := s.controlFutureCount
  let now := s.now env
  let job := s.newEntry env cfg command
  let s := s.record fun l =>
    ((((l.clearVerification.tickWall.tick.emit (.requested future job.id command now)).emit
      (.accepted job.id command job.deadline)).setLastCommand job.result)).publish
  { s with
    controls := s.controls ++ [job]
    controlFutures := Function.update s.controlFutures future .pending
    controlFutureCount := future + 1
    acceptedCount := s.acceptedCount + 1
    wake := true }

/-- `_submit`, up to its await. -/
def submit (command : Command) : Runtime ρ :=
  if s.closing then s
  else
    match s.coalescingEntry command with
    | some job => s.coalesce env job command
    | none =>
      if queueCapacity ≤ s.controls.length then s.refuse
      else s.accept env cfg command

/-- The caller that waits for a control's future is cancelled, and the future with it. The
callers of `async_poll` wait behind a shield. -/
def cancelCaller (future : ℕ) : Runtime ρ := s.settleControls [future] .cancelled

/-! ### Shutdown -/

/-- The piece of `_async_close_impl` after the worker's end. -/
def joinWorker : Runtime ρ :=
  let waiters := (s.activeControl.map Control.waiters).getD []
  { s.settleControls waiters .cancelled with worker := none, closeTask := .closingClient }

/-- The first piece of `_async_close_impl`. -/
def beginClose : Runtime ρ :=
  let s := s.settleControls (s.controls.flatMap Control.waiters) .cancelled
  let s := { s.record Ledger.clearVerification with
    closing := true
    pollFutures := Future.settle s.pollWaiters .cancelled s.pollFutures
    controls := []
    pollWaiters := []
    pollPending := false
    maintenancePending := false
    wake := true }
  if s.worker.isSome then { s with closeTask := .awaitingWorker } else s.joinWorker

/-- The worker's task is done and `_async_close_impl` goes on, or ends with its exception. -/
def workerJoined (w : Worker) : Runtime ρ :=
  match w, s.closeTask with
  | .returned, _ | .cancelled, .cancellingWorker => s.joinWorker
  | _, _ => { s with closeTask := .failed }

/-- `_async_close_impl` after the client has closed. -/
def endClose : Runtime ρ := { s with closeTask := .completed, closed := true }

/-! ### The worker's loop -/

/-- Start an exchange: log it, and suspend. -/
def startCall (call : Call) (remaining : Option Time) (w : Worker) : Runtime ρ :=
  (s.record (·.emit (.started s.monoReads call remaining))).goto w

/-- `_async_volume_maintenance`, up to its await. -/
def asyncVolumeMaintenance : Runtime ρ :=
  if s.snapshot.speaker.powerOn = some true then s.startCall .maintenanceGet none .maintenanceGet
  else s.goto .loop

/-- The end of an iteration without work: wait to be woken. The second look at the queue and the
flags finds nothing, as nothing ran since the first. `asyncio.timeout` adds the delay to a reading
of its own, which is later than `now`. -/
def waitForWork (now : Time) : Runtime ρ :=
  let delay := s.verification.due.map fun due => max 0 (due - now)
  let s := { s with wake := false }
  if s.controls ≠ [] ∨ s.pollPending ∨ s.maintenancePending then s.goto .loop
  else s.goto (.waiting (delay.map fun delay => env.loopTime s.monoReads + delay))

/-- One iteration of the worker's loop. -/
def asyncWorker : Runtime ρ :=
  if s.closing then s.goto .returned
  else
    let now := s.now env
    let s := s.record Ledger.tick
    match s.controls with
    | job :: controls => { s with controls := controls }.goto (.control job)
    | [] =>
      if s.verification.due.any (· ≤ now) then
        s.startCall (.sourceGet .verification) none (.sourceGet .verification)
      else if s.pollPending then s.startCall (.sourceGet .poll) none (.sourceGet .poll)
      else if s.maintenancePending then { s with maintenancePending := false }.asyncVolumeMaintenance
      else s.waitForWork env now

/-! ### A state exchange -/

/-- The polls that a source GET answers, if any is pending. -/
def answerPolls (answers : Bool) : Runtime ρ :=
  if answers then { s with pollPending := false }.resolvePolls else s

/-- The branch of `_async_state_exchange` for an `LsxError`. -/
def stateExchangeFailed (reason : Reason) (reply : ρ) (error : LsxError) : Runtime ρ :=
  let polled : Bool := reason = .poll ∨ s.pollPending
  let s := s.record fun l =>
    let l := l.emit (.sourceEnded reason s.pollPending reply (l.now env))
    if polled then l.recordPrimaryFailure env cfg error.type.name else l
  let s := s.answerPolls polled
  let s := s.record fun l =>
    if reason = .verification then
      (l.recordOptionalFailure env cfg error.type.name).scheduleNextVerification env cfg
    else l
  s.goto .loop

/-- The rest of `_async_state_exchange` after a decoded answer. -/
def stateExchangeDone (reason : Reason) (reply : ρ) (status : SourceStatus) : Runtime ρ :=
  let s := s.record fun l =>
    ((l.applySource status).emit (.sourceEnded reason s.pollPending reply (l.now env))).recordSuccess
      env cfg true
  let s := s.record (·.verify env cfg reason)
  let s := s.answerPolls s.pollPending
  let due := s.volumeDue env cfg
  let s := s.record Ledger.tick
  { s with
    maintenancePending := status.powerOn && (due || s.maintenancePending)
    wake := s.wake || (status.powerOn && due) }.goto .loop

/-! ### Maintenance of the volume -/

def maintenanceFailed (reply : ρ) (error : LsxError) : Runtime ρ :=
  (s.record fun l =>
    (l.emit (.maintenanceEnded reply (l.now env))).recordOptionalFailure env cfg
      error.type.name).goto .loop

def maintenanceDone (reply : ρ) (status : VolumeStatus) : Runtime ρ :=
  let s := s.record fun l => (l.applyVolume status).stampVolume env
  (s.record fun l =>
    (l.emit (.maintenanceEnded reply (l.now env))).recordSuccess env cfg false).goto .loop

/-! ### A control -/

/-- `_finish_control_error`. -/
def finishControlError (job : Control) (error : ControlError) (attempted : Bool)
    (outcome : Outcome) : Runtime ρ :=
  (s.record (·.finishControlError env job error attempted outcome)).settleControls job.waiters
    (.exception error)

/-- `_client_deadline`: the time that remains for an exchange, which the client's deadline adds
to the event loop's clock. -/
def remaining (job : Control) : Time := max 0 (job.deadline - s.now env)

/-- `_async_control`, up to its first await or its loop. -/
def asyncControl (job : Control) : Runtime ρ :=
  if job.waiters.all fun f => (s.controlFutures f).isCancelled then
    (s.record (·.emit (.skipped job.id))).goto .loop
  else
    let now := s.now env
    let s := s.record Ledger.tick
    if job.deadline ≤ now then
      (s.finishControlError env job deadlineExpired false .expired).goto .loop
    else if job.command.kind.isRelative ∧
        (s.snapshot.speaker.volume = none ∨ s.snapshot.speaker.muted = none) then
      let remaining := s.remaining env job
      (s.record Ledger.tick).startCall (.volumeGet job.id job.command.kind) (some remaining)
        (.volumeGet job)
    else s.goto (.attempt job none)

/-- The volume GET of a control failed. -/
def volumeGetFailed (job : Control) (reply : ρ) (error : LsxError) : Runtime ρ :=
  let s := s.record fun l =>
    (l.emit (.volumeEnded job.id reply (l.now env))).recordPrimaryFailure env cfg error.type.name
  (s.finishControlError env job (.lsx error) error.writeAttempted (.failed error)).goto .loop

/-- The volume GET of a control was answered: the entry goes back to the front of the queue. -/
def volumeGetDone (job : Control) (reply : ρ) (status : VolumeStatus) : Runtime ρ :=
  let s := s.record fun l => (l.applyVolume status).stampVolume env
  let s := s.record fun l =>
    (l.emit (.volumeEnded job.id reply (l.now env))).recordSuccess env cfg false
  { s with controls := job :: s.controls }.goto .loop

/-- `_async_control` after its loop, when the last attempt made has failed. -/
def controlFailed (job : Control) (failure : Failure) : Runtime ρ :=
  let error := failure.error
  let s := s.record fun l =>
    if error.isRejection then l else l.recordPrimaryFailure env cfg error.type.name
  let s := s.finishControlError env job (.lsx error) failure.attempted (.failed error)
  let s := s.record fun l =>
    if failure.attempted ∧ ¬ error.isRejection ∧ job.command.kind.isSource then
      l.startVerification env cfg job (cfg.expectedState l.snapshot.speaker job.command)
    else l
  s.goto .loop

/-- `_async_control` after its loop, when no attempt was made. -/
def controlTimedOut (job : Control) : Runtime ρ :=
  ((s.record (·.recordPrimaryFailure env cfg deadlineExpired.name)).finishControlError env job
    deadlineExpired false .timedOut).goto .loop

/-- `_apply_optimistic`. -/
def applyOptimistic (job : Control) : Runtime ρ :=
  let s := s.record fun l => l.setSpeaker (cfg.expectedState l.snapshot.speaker job.command)
  { s with
    maintenancePending := if job.command.kind = .turnOff then false else s.maintenancePending }

/-- `_async_control` after its loop, when the attempt after `first` was acknowledged. -/
def controlAcknowledged (job : Control) (first : Option Failure) (reply : ρ) : Runtime ρ :=
  let s := s.applyOptimistic cfg job
  let s := s.record (·.acknowledge env cfg job (attemptNumber first) reply)
  let s := s.record fun l =>
    if job.command.kind.isSource then l.startVerification env cfg job l.snapshot.speaker else l
  let s := s.record Ledger.publish
  (s.settleControls job.waiters (.result s.snapshot)).goto .loop

/-- `_async_control` after a loop that is left before another attempt. -/
def controlLeft (job : Control) : Option Failure → Runtime ρ
  | some failure => s.controlFailed env cfg job failure
  | none => s.controlTimedOut env cfg job

/-- An iteration of the loop over the attempts, up to the await of `_execute_control`. -/
def asyncAttempt (job : Control) (failure : Option Failure) : Runtime ρ :=
  if s.closing then s.controlLeft env cfg job failure
  else
    let now := s.now env
    let s := s.record Ledger.tick
    if job.deadline ≤ now then s.controlLeft env cfg job failure
    else
      let speaker := s.snapshot.speaker
      let remaining := s.remaining env job
      let s := s.record Ledger.tick
      match cfg.request speaker job.command with
      | .error e => s.goto (.crashed e)
      | .ok request =>
        s.startCall (.set job.id job.command.kind (attemptNumber failure) request)
          (some remaining)
          (.setting { job with command := cfg.executed speaker job.command } failure request)

/-- A SET ended. -/
def setEnded (job : Control) (first : Option Failure) (reply : ρ) : Runtime ρ :=
  s.record fun l => l.emit (.setEnded job.id (attemptNumber first) reply (l.now env))

/-- Sleep before the second attempt. -/
def sleepBeforeRetry (job : Control) (failure : Failure) : Runtime ρ :=
  let delay := min cfg.timing.retryDelay (max 0 (job.deadline - s.now env))
  (s.record Ledger.tick).goto (.retrySleep job failure delay)

/-- The attempt after `first` raised an error: a rejection is final, and so is the failure of the
second attempt. -/
def attemptFailed (job : Control) (first : Option Failure) (reply : ρ) (error : LsxError) :
    Runtime ρ :=
  let s := s.setEnded env job first reply
  let failure := Failure.after first error
  if error.isRejection then
    (s.record (·.recordSuccess env cfg false)).controlFailed env cfg job failure
  else if first.isNone then s.sleepBeforeRetry env cfg job failure
  else s.controlFailed env cfg job failure

end Runtime

end KefLsx
