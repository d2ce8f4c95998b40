import KefLsx.Runtime.Step

/-!
# What the pieces of the coroutines change

One lemma for each piece and each part of the state: which entries it adds to the log, what it
leaves of the speaker's state, and that it does not touch the queue or the shutdown. The proofs of
the invariants use these and never unfold a piece.
-/

namespace KefLsx

namespace Runtime

variable {ρ : Type} {env : Env} {cfg : Config} {s t : Runtime ρ} {job : Control} {r : ρ}

/-! ### The frame of a piece of the worker -/

/-- What only producers, the worker's loop and the return of an entry to the queue change. -/
structure Framed (s t : Runtime ρ) : Prop where
  controls : t.controls = s.controls
  closing : t.closing = s.closing
  closeTask : t.closeTask = s.closeTask
  acceptedCount : t.acceptedCount = s.acceptedCount
  controlFutureCount : t.controlFutureCount = s.controlFutureCount
  pollFutureCount : t.pollFutureCount = s.pollFutureCount

lemma Framed.refl : Framed s s := by
  constructor <;> rfl

lemma Framed.trans {u : Runtime ρ} (h : Framed s t) (h' : Framed t u) : Framed s u :=
  ⟨h'.controls.trans h.controls, h'.closing.trans h.closing, h'.closeTask.trans h.closeTask,
    h'.acceptedCount.trans h.acceptedCount, h'.controlFutureCount.trans h.controlFutureCount,
    h'.pollFutureCount.trans h.pollFutureCount⟩

lemma framed_goto {w : Worker} : Framed s (s.goto w) := by
  constructor <;> simp

lemma framed_record {f : Ledger ρ → Ledger ρ} : Framed s (s.record f) := by
  constructor <;> simp

lemma framed_settleControls {waiters : List ℕ} {outcome} :
    Framed s (s.settleControls waiters outcome) := by
  constructor <;> simp [settleControls]

lemma framed_flags {maintenance wake : Bool} :
    Framed s { s with maintenancePending := maintenance, wake := wake } := by
  constructor <;> simp

lemma framed_answerPolls {answers : Bool} : Framed s (s.answerPolls answers) := by
  cases answers <;> constructor <;> simp [answerPolls, resolvePolls]

lemma framed_applyOptimistic : Framed s (s.applyOptimistic cfg job) := by
  constructor <;> simp [applyOptimistic]

lemma framed_stateExchangeFailed {reason : Reason} {e : LsxError} :
    Framed s (s.stateExchangeFailed env cfg reason r e) :=
  framed_record.trans (framed_answerPolls.trans (framed_record.trans framed_goto))

lemma framed_stateExchangeDone {reason : Reason} {status : SourceStatus} :
    Framed s (s.stateExchangeDone env cfg reason r status) :=
  framed_record.trans (framed_record.trans (framed_answerPolls.trans (framed_record.trans
    (framed_flags.trans framed_goto))))

lemma framed_maintenanceFailed {e : LsxError} : Framed s (s.maintenanceFailed env cfg r e) :=
  framed_record.trans framed_goto

lemma framed_maintenanceDone {status : VolumeStatus} :
    Framed s (s.maintenanceDone env cfg r status) :=
  framed_record.trans (framed_record.trans framed_goto)

lemma framed_finishControlError {error : ControlError} {attempted : Bool} {outcome : Outcome} :
    Framed s (s.finishControlError env job error attempted outcome) :=
  framed_record.trans framed_settleControls

lemma framed_volumeGetFailed {e : LsxError} : Framed s (s.volumeGetFailed env cfg job r e) :=
  framed_record.trans (framed_finishControlError.trans framed_goto)

lemma framed_controlTimedOut : Framed s (s.controlTimedOut env cfg job) :=
  framed_record.trans (framed_finishControlError.trans framed_goto)

lemma framed_controlFailed {failure : Failure} : Framed s (s.controlFailed env cfg job failure) :=
  framed_record.trans (framed_finishControlError.trans (framed_record.trans framed_goto))

lemma framed_controlAcknowledged {first : Option Failure} :
    Framed s (s.controlAcknowledged env cfg job first r) :=
  framed_applyOptimistic.trans (framed_record.trans (framed_record.trans (framed_record.trans
    (framed_settleControls.trans framed_goto))))

lemma LeavesAttempts.framed (h : s.LeavesAttempts env job t) : Framed s t := by
  cases h
  · exact .refl
  · exact framed_record

@[simp] lemma worker_stateExchangeFailed {reason : Reason} {e : LsxError} :
    (s.stateExchangeFailed env cfg reason r e).worker = some .loop := rfl

@[simp] lemma worker_stateExchangeDone {reason : Reason} {status : SourceStatus} :
    (s.stateExchangeDone env cfg reason r status).worker = some .loop := rfl

lemma activeControl_of_worker {w : Worker} (hw : s.worker = some w) :
    s.activeControl = w.job? := by
  simp [activeControl, hw]

/-! ### Producers -/

/-- A request is merged into the last entry, when both set the volume. -/
lemma coalescingEntry_eq_some {command : Command} {job : Control}
    (h : s.coalescingEntry command = some job) :
    command.kind = .setVolume ∧ job.command.kind = .setVolume ∧
      s.controls = s.controls.dropLast ++ [job] := by
  cases command with
  | setVolume value =>
    cases hlast : s.controls.getLast? with
    | none => simp [coalescingEntry, hlast] at h
    | some last =>
      simp only [coalescingEntry, hlast, Option.ite_none_right_eq_some, Option.some.injEq] at h
      obtain ⟨hkind, rfl⟩ := h
      exact ⟨rfl, hkind, (List.dropLast_append_getLast? _ hlast).symm⟩
  | _ => simp [coalescingEntry] at h

/-! ### Shutdown -/

@[simp] lemma frame_joinWorker :
    s.joinWorker.worker = none ∧ s.joinWorker.toLedger = s.toLedger ∧
      s.joinWorker.controls = s.controls ∧ s.joinWorker.closing = s.closing ∧
      s.joinWorker.closeTask = .closingClient ∧ s.joinWorker.acceptedCount = s.acceptedCount ∧
      s.joinWorker.pollFutures = s.pollFutures ∧ s.joinWorker.pollWaiters = s.pollWaiters ∧
      s.joinWorker.controlFutureCount = s.controlFutureCount ∧
      s.joinWorker.pollFutureCount = s.pollFutureCount :=
  ⟨rfl, rfl, rfl, rfl, rfl, rfl, rfl, rfl, rfl, rfl⟩

@[simp] lemma frame_beginClose :
    s.beginClose.worker = s.worker ∧ s.beginClose.toLedger = s.toLedger.clearVerification ∧
      s.beginClose.controls = [] ∧ s.beginClose.closing = true ∧
      s.beginClose.acceptedCount = s.acceptedCount ∧ s.beginClose.pollWaiters = [] ∧
      s.beginClose.controlFutureCount = s.controlFutureCount ∧
      s.beginClose.pollFutureCount = s.pollFutureCount := by
  cases hw : s.worker with
  | none => simp [beginClose, settleControls, hw]
  | some w => simp [beginClose, settleControls, hw]

lemma controlFutures_beginClose : s.beginClose.controlFutures =
    Future.settle (s.controls.flatMap Control.waiters) .cancelled s.controlFutures := by
  unfold beginClose
  dsimp only
  split
  · rfl
  · rename_i hw
    have hnobody : (s.activeControl.map Control.waiters).getD [] = [] := by
      have hnone : s.worker = none := by simpa [settleControls] using hw
      simp [activeControl, hnone]
    show Future.settle ((s.activeControl.map Control.waiters).getD []) _ _ = _
    rw [hnobody, Future.settle_nil]
    rfl

lemma polls_beginClose :
    s.beginClose.pollFutures = Future.settle s.pollWaiters .cancelled s.pollFutures ∧
      s.beginClose.pollPending = false := by
  cases hw : s.worker with
  | none => simp [beginClose, settleControls, joinWorker, hw]
  | some w => simp [beginClose, settleControls, hw]

/-! ### The record after a piece -/

@[simp] lemma toLedger_answerPolls {answers : Bool} :
    (s.answerPolls answers).toLedger = s.toLedger := by
  cases answers <;> rfl

lemma controlFutures_answerPolls {answers : Bool} :
    (s.answerPolls answers).controlFutures = s.controlFutures := by
  cases answers <;> rfl

lemma LeavesAttempts.controlFutures (h : s.LeavesAttempts env job t) :
    t.controlFutures = s.controlFutures := by
  cases h <;> rfl

@[simp] lemma toLedger_finishControlError {error : ControlError} {attempted : Bool}
    {outcome : Outcome} :
    (s.finishControlError env job error attempted outcome).toLedger =
      s.toLedger.finishControlError env job error attempted outcome := rfl

/-- A source GET fails: it is logged, and counted if it was a poll or had one pending; a
verification goes on with its plan. -/
lemma stateExchangeFailed_eq {reason : Reason} {e : LsxError} :
    ∃ l : Ledger ρ,
      ((reason = .poll ∨ s.pollPending = true) ∧
        l = (s.toLedger.emit (.sourceEnded reason s.pollPending r
          (s.now env))).recordPrimaryFailure env cfg e.type.name ∨
      ¬ (reason = .poll ∨ s.pollPending = true) ∧
        l = s.toLedger.emit (.sourceEnded reason s.pollPending r (s.now env))) ∧
      (s.stateExchangeFailed env cfg reason r e).toLedger =
        if reason = .verification then
          (l.recordOptionalFailure env cfg e.type.name).scheduleNextVerification env cfg
        else l := by
  by_cases hp : reason = .poll ∨ s.pollPending = true
  · refine ⟨_, .inl ⟨hp, rfl⟩, ?_⟩
    simp only [stateExchangeFailed, goto_toLedger, record_toLedger, toLedger_answerPolls, hp,
      decide_true, if_true]
  · refine ⟨_, .inr ⟨hp, rfl⟩, ?_⟩
    simp only [stateExchangeFailed, goto_toLedger, record_toLedger, toLedger_answerPolls, hp]
    rfl

lemma stateExchangeDone_eq {reason : Reason} {status : SourceStatus} :
    (s.stateExchangeDone env cfg reason r status).toLedger =
      ((((s.toLedger.applySource status).emit
        (.sourceEnded reason s.pollPending r (s.now env))).recordSuccess env cfg true).verify env
          cfg reason).tick := by
  simp only [stateExchangeDone, goto_toLedger, record_toLedger, toLedger_answerPolls]

/-- A control fails: unless it was rejected its failure is counted, it is completed, and a plan
may be started for it. -/
lemma controlFailed_eq {failure : Failure} :
    ∃ l : Ledger ρ, (failure.error.isRejection = true ∧ l = s.toLedger ∨
      failure.error.isRejection = false ∧
        l = s.toLedger.recordPrimaryFailure env cfg failure.error.type.name) ∧
      (s.controlFailed env cfg job failure).toLedger =
        if failure.attempted ∧ ¬ failure.error.isRejection ∧ job.command.kind.isSource then
          (l.finishControlError env job (.lsx failure.error) failure.attempted
            (.failed failure.error)).startVerification env cfg job
              (cfg.expectedState s.snapshot.speaker job.command)
        else l.finishControlError env job (.lsx failure.error) failure.attempted
          (.failed failure.error) := by
  cases hrej : failure.error.isRejection with
  | true =>
    refine ⟨_, .inl ⟨rfl, rfl⟩, ?_⟩
    simp only [controlFailed, hrej, if_true]
    rfl
  | false =>
    refine ⟨_, .inr ⟨rfl, rfl⟩, ?_⟩
    simp only [controlFailed, hrej]
    rfl

/-- A control is acknowledged on its optimistic state: the success is recorded, then its result,
and a plan is started if it wrote the source register. -/
lemma controlAcknowledged_eq {first : Option Failure} :
    ∃ l : Ledger ρ, (l = (s.applyOptimistic cfg job).toLedger ∨
      l = (s.applyOptimistic cfg job).toLedger.stampVolume env) ∧
      (s.controlAcknowledged env cfg job first r).toLedger =
        (if job.command.kind.isSource then
          (((l.emit (.setEnded job.id (attemptNumber first) r (l.now env))).recordSuccess env cfg
            false).storeAcknowledged env job).startVerification env cfg job
              (cfg.expectedState s.snapshot.speaker job.command)
        else ((l.emit (.setEnded job.id (attemptNumber first) r (l.now env))).recordSuccess env cfg
          false).storeAcknowledged env job).publish := by
  by_cases hk : job.command.kind.isVolume = true
  · refine ⟨_, .inr rfl, ?_⟩
    simp only [controlAcknowledged, Ledger.acknowledge, hk]
    rfl
  · refine ⟨_, .inl rfl, ?_⟩
    simp only [controlAcknowledged, Ledger.acknowledge, hk]
    rfl

lemma LeavesAttempts.noted (h : s.LeavesAttempts env job t) :
    Ledger.Noted s.toLedger t.toLedger := by
  cases h
  · exact .refl
  · exact .tick

/-- A failed source GET is logged, and the polls' failure counted; what follows is about
verification. -/
lemma noted_stateExchangeFailed {reason : Reason} {e : LsxError} :
    Ledger.Noted (s.toLedger.emit (.sourceEnded reason s.pollPending r (s.now env)))
      (s.stateExchangeFailed env cfg reason r e).toLedger := by
  obtain ⟨l, hl, heq⟩ : ∃ l : Ledger ρ, _ ∧
    (s.stateExchangeFailed env cfg reason r e).toLedger = _ := stateExchangeFailed_eq
  have hpolled :
      Ledger.Noted (s.toLedger.emit (.sourceEnded reason s.pollPending r (s.now env))) l := by
    rcases hl with ⟨-, rfl⟩ | ⟨-, rfl⟩
    · exact ⟨rfl, rfl, rfl, Nat.le_succ _, [], rfl, by simp⟩
    · exact .refl
  rw [heq]
  refine hpolled.trans (.ite fun _ => ?_)
  exact Ledger.Noted.recordOptionalFailure.trans .scheduleNextVerification

/-- A decoded source GET is logged and its success recorded; what follows is about
verification. -/
lemma noted_stateExchangeDone {reason : Reason} {status : SourceStatus} :
    Ledger.Noted
      (((s.toLedger.applySource status).emit
        (.sourceEnded reason s.pollPending r (s.now env))).recordSuccess env cfg true)
      (s.stateExchangeDone env cfg reason r status).toLedger := by
  rw [stateExchangeDone_eq]
  exact Ledger.Noted.verify.trans .tick

/-- A failed control is completed, after its failure was counted unless it is a rejection; what
follows is its verification plan. -/
lemma noted_controlFailed {failure : Failure} :
    Ledger.Noted
      ((if failure.error.isRejection then s.toLedger
        else s.toLedger.recordPrimaryFailure env cfg failure.error.type.name).finishControlError
          env job (.lsx failure.error) failure.attempted (.failed failure.error))
      (s.controlFailed env cfg job failure).toLedger :=
  .ite fun _ => .startVerification

/-- An acknowledged control is recorded on the optimistic state; what follows is its verification
plan. -/
lemma noted_controlAcknowledged {first : Option Failure} :
    Ledger.Noted
      ((s.applyOptimistic cfg job).toLedger.acknowledge env cfg job (attemptNumber first) r)
      (s.controlAcknowledged env cfg job first r).toLedger := by
  have hplan : Ledger.Noted
      ((s.applyOptimistic cfg job).toLedger.acknowledge env cfg job (attemptNumber first) r)
      (if job.command.kind.isSource then
        Ledger.startVerification env cfg
          ((s.applyOptimistic cfg job).toLedger.acknowledge env cfg job (attemptNumber first) r)
          job
          ((s.applyOptimistic cfg job).toLedger.acknowledge env cfg job (attemptNumber first)
            r).snapshot.speaker
      else (s.applyOptimistic cfg job).toLedger.acknowledge env cfg job (attemptNumber first) r) :=
    .ite fun _ => .startVerification
  obtain ⟨h₁, h₂, h₃, h₄, h₅⟩ := hplan
  exact ⟨h₁, h₂, h₃, h₄, h₅⟩

/-- The completion that a failed control logs. -/
lemma exists_noted_controlFailed {failure : Failure} :
    ∃ l : Ledger ρ, Ledger.Noted l (s.controlFailed env cfg job failure).toLedger ∧
      l.log = .completed job.id (.failed failure.error)
        (job.failedResult (s.wall env) (.lsx failure.error) failure.attempted) :: s.log ∧
      l.snapshot.speaker = s.snapshot.speaker := by
  refine ⟨_, noted_controlFailed, ?_, ?_⟩
  · split <;> rfl
  · split <;> rfl

/-- The answer and the completion that an acknowledged control logs. -/
lemma exists_noted_controlAcknowledged {first : Option Failure} :
    ∃ (l : Ledger ρ) (time : Time) (wall : DateTime),
      Ledger.Noted l (s.controlAcknowledged env cfg job first r).toLedger ∧
      l.log = .completed job.id .acknowledged (job.acknowledgedResult wall) ::
        .setEnded job.id (attemptNumber first) r time :: s.log ∧
      l.lastChannelMono = some time ∧
      l.snapshot.speaker = cfg.expectedState s.snapshot.speaker job.command ∧
      (s.controlAcknowledged env cfg job first r).snapshot.lastCommand =
        some (job.acknowledgedResult wall) := by
  obtain ⟨time, wall, hlog, htime, hspeaker, hlast, -⟩ :=
    (s.applyOptimistic cfg job).toLedger.frame_acknowledge env cfg job (attemptNumber first) r
  refine ⟨_, time, wall, noted_controlAcknowledged, hlog, htime, hspeaker, ?_⟩
  rw [← hlast]
  simp only [controlAcknowledged, goto_toLedger, record_toLedger, settleControls]
  split <;> rfl

lemma lastCommand_controlFailed {failure : Failure} :
    (s.controlFailed env cfg job failure).snapshot.lastCommand =
      some (job.failedResult (s.wall env) (.lsx failure.error) failure.attempted) := by
  have hwall : (if failure.error.isRejection then s.toLedger
      else s.toLedger.recordPrimaryFailure env cfg failure.error.type.name).wall env =
      s.wall env := by split <;> rfl
  simp only [controlFailed, finishControlError, goto_toLedger, record_toLedger, settleControls]
  rw [← hwall]
  split <;> rfl

/-! ### Shutdown has begun -/

lemma closeTask_beginClose : s.beginClose.closeTask =
    if s.worker.isSome = true then .awaitingWorker else .closingClient := by
  cases hw : s.worker with
  | none => simp [beginClose, settleControls, hw]
  | some w => simp [beginClose, settleControls, hw]

/-- A runtime is closing from the first piece of `_async_close_impl` on. -/
theorem closing_iff [Client ρ] (h : Transition.Reachable (step env cfg) {} s) :
    s.closing = true ↔ s.closeTask ≠ .notStarted := by
  refine h.invariant (I := fun s => s.closing = true ↔ s.closeTask ≠ .notStarted) (by simp) ?_
  intro s t e _ ih _ hst
  cases Rule.of_step hst with
  | closeBegun =>
    rw [closeTask_beginClose]
    split <;> simp
  | shutdownTimedOut hi hct => simpa [hct] using ih
  | joined w hw he hct => rcases hct with hct | hct <;> simpa [hct] using ih
  | joinFailed w hw he hct => rcases hct with hct | hct <;> simpa [hct] using ih
  | clientClosed hi hct => simpa [hct, endClose] using ih
  | stateFailed reason r e =>
    have hf : Framed s (s.stateExchangeFailed env cfg reason r e) := framed_stateExchangeFailed
    rw [hf.closing, hf.closeTask]
    exact ih
  | stateDone reason r status =>
    have hf : Framed s (s.stateExchangeDone env cfg reason r status) := framed_stateExchangeDone
    rw [hf.closing, hf.closeTask]
    exact ih
  | attemptsTimedOut job s' hw hs => cases hs <;> exact ih
  | attemptsLeft job failure s' hw hs => cases hs <;> exact ih
  | _ => exact ih

/-! ### The worker moves -/

/-- How a step moves the worker: it is created by `async_start` only, it is given up while the
runtime is closing only, and then a resting worker stays so. A crashed one is never given up. -/
structure Moves (s t : Runtime ρ) : Prop where
  created : t.worker ≠ none → s.worker ≠ none
  closing : s.closing = true → t.closing = true
  joined : t.closing = false → t.worker = none → s.worker = none
  resting : s.closing = true → s.worker.all Worker.resting = true →
    t.worker.all Worker.resting = true
  crashed : ∀ error, s.worker = some (.crashed error) → t.worker = some (.crashed error)

/-- A step of the worker. -/
lemma Moves.of_worker {w w' : Worker} (hw : s.worker = some w) (hw' : t.worker = some w')
    (hc : t.closing = s.closing)
    (hr : s.closing = false ∨ w.resting = false ∨ w'.resting = true)
    (he : ∀ error, w ≠ .crashed error := by simp) : Moves s t := by
  refine ⟨by simp [hw], hc.trans, by simp [hw'], ?_, ?_⟩
  · intro hclosing hresting
    simp only [hw, hw', Option.all_some] at hresting ⊢
    rcases hr with hr | hr | hr
    · rw [hclosing] at hr
      cases hr
    · rw [hresting] at hr
      cases hr
    · exact hr
  · intro error hcrashed
    rw [hw] at hcrashed
    exact absurd (Option.some.inj hcrashed) (he error)

lemma moves_of_rule [Client ρ] {e : Event ρ} (h : Rule env cfg s e t) (he : e ≠ .start)
    (hclose : s.closeTask ≠ .notStarted → s.closing = true) : Moves s t := by
  cases h with
  | started | startedClosing | alreadyStarted => exact absurd rfl he
  | closeBegun =>
    obtain ⟨hworker, -, -, hclosing, -⟩ := frame_beginClose (s := s)
    exact ⟨hworker ▸ id, fun _ => hclosing, by simp, fun _ h => hworker ▸ h,
      fun _ h => hworker ▸ h⟩
  | joined w hw hended hct =>
    have hc : s.closing = true := hclose (by rcases hct with hct | hct <;> simp [hct])
    refine ⟨fun hne => absurd rfl hne, id, fun hc' => absurd (hc.symm.trans hc') (by simp),
      fun _ _ => rfl, ?_⟩
    intro error hcrashed
    rw [hw] at hcrashed
    rcases hended with rfl | rfl <;> cases hcrashed
  | workerCancelled w hw hrunning hended =>
    have he : ∀ error, w ≠ .crashed error := by
      rintro error rfl
      cases hended
    exact .of_worker hw rfl rfl (.inr (.inr rfl)) he
  | workerBegun hw => exact .of_worker hw rfl rfl (.inr (.inr rfl))
  | workerReturned hw => exact .of_worker hw rfl rfl (.inr (.inr rfl))
  | controlSelected job rest hw hc => exact .of_worker hw rfl rfl (.inl hc)
  | verificationStarted hw hc => exact .of_worker hw rfl rfl (.inl hc)
  | pollStarted hw hc => exact .of_worker hw rfl rfl (.inl hc)
  | maintenanceStarted hw hc => exact .of_worker hw rfl rfl (.inl hc)
  | maintenanceSkipped hw hc => exact .of_worker hw rfl rfl (.inl hc)
  | waited hw hc => exact .of_worker hw rfl rfl (.inl hc)
  | woken timeout hw => exact .of_worker hw rfl rfl (.inr (.inl rfl))
  | timedOut timeout hw => exact .of_worker hw rfl rfl (.inr (.inl rfl))
  | stateFailed reason r error hw =>
    exact .of_worker hw worker_stateExchangeFailed framed_stateExchangeFailed.closing
      (.inr (.inl rfl))
  | stateDone reason r status hw =>
    exact .of_worker hw worker_stateExchangeDone framed_stateExchangeDone.closing
      (.inr (.inl rfl))
  | maintenanceFailed r error hw => exact .of_worker hw rfl rfl (.inr (.inl rfl))
  | maintenanceDone r status hw => exact .of_worker hw rfl rfl (.inr (.inl rfl))
  | controlSkipped job hw => exact .of_worker hw rfl rfl (.inr (.inl rfl))
  | controlExpired job hw => exact .of_worker hw rfl rfl (.inr (.inl rfl))
  | volumeGetStarted job hw => exact .of_worker hw rfl rfl (.inr (.inl rfl))
  | attemptsBegun job hw => exact .of_worker hw rfl rfl (.inr (.inl rfl))
  | volumeGetFailed job r error hw => exact .of_worker hw rfl rfl (.inr (.inl rfl))
  | volumeGetDone job r status hw => exact .of_worker hw rfl rfl (.inr (.inl rfl))
  | attemptsTimedOut job s' hw hleft =>
    exact .of_worker hw rfl (hleft.framed.trans framed_controlTimedOut).closing (.inr (.inl rfl))
  | attemptsLeft job failure s' hw hleft =>
    exact .of_worker hw rfl (hleft.framed.trans framed_controlFailed).closing (.inr (.inl rfl))
  | workerCrashed job failure error hw => exact .of_worker hw rfl rfl (.inr (.inl rfl))
  | setStarted job failure request hw => exact .of_worker hw rfl rfl (.inr (.inl rfl))
  | setRejected job first request r error hw => exact .of_worker hw rfl rfl (.inr (.inl rfl))
  | firstFailed job request r error hw => exact .of_worker hw rfl rfl (.inr (.inl rfl))
  | secondFailed job first request r error hw => exact .of_worker hw rfl rfl (.inr (.inl rfl))
  | setAcknowledged job first request r hw => exact .of_worker hw rfl rfl (.inr (.inl rfl))
  | slept job failure delay hw => exact .of_worker hw rfl rfl (.inr (.inl rfl))
  | _ => exact ⟨id, id, fun _ => id, fun _ => id, fun _ => id⟩

end Runtime

end KefLsx
