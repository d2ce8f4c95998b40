import KefLsx.Core.Custody
import KefLsx.Runtime.Effects

/-!
# Shutdown

The runtime keeps the callers of `_submit` as waiters of their entry, in the queue or held by the
worker, and the callers of `async_poll` in a list of its own. `_async_close_impl` settles queue
and list at once, and the active entry after the worker's end. Whoever is in custody until then is
settled; the steps that are not `orderly` are those after which a future is kept by nobody, or the
queue is filled again. A request that is refused leaves such a future too, but nobody waits for it.
-/

namespace KefLsx

namespace Runtime

variable {ρ : Type} {env : Env} {cfg : Config} {s t : Runtime ρ} {e : Event ρ}

/-- The waiters of the active entry. -/
def activeWaiters (s : Runtime ρ) : List ℕ := (s.activeControl.map Control.waiters).getD []

/-- The futures of `_submit`, kept by the active entry and by the queue. -/
@[simps]
def controlCustody (s : Runtime ρ) : Future.Custody RuntimeSnapshot ControlError where
  waiters := s.activeWaiters ++ s.controls.flatMap Control.waiters
  count := s.controlFutureCount
  futures := s.controlFutures

/-- The futures of `async_poll`. -/
@[simps]
def pollCustody (s : Runtime ρ) : Future.Custody RuntimeSnapshot ControlError where
  waiters := s.pollWaiters
  count := s.pollFutureCount
  futures := s.pollFutures

/-- Every future is done, and nothing is left in the queue. -/
structure Settled (s : Runtime ρ) : Prop where
  controls : s.controls = []
  submitted : ∀ f < s.controlFutureCount, (s.controlFutures f).isDone = true
  polled : ∀ f < s.pollFutureCount, (s.pollFutures f).isDone = true

/-- Nobody who called the runtime waits any more, and nothing is left in the queue. -/
structure Released (s : Runtime ρ) : Prop where
  controls : s.controls = []
  submitted : ∀ f, (s.controlFutures f).isPending = false
  polled : ∀ f < s.pollFutureCount, (s.pollFutures f).isDone = true

/-- `_submit` raises `QueueBusyError`. -/
def refuses (s : Runtime ρ) (command : Command) : Bool :=
  !s.closing && (s.coalescingEntry command).isNone && decide (queueCapacity ≤ s.controls.length)

/-- The steps that leave nobody hanging and the queue of a closing runtime empty: no volume GET for
a control is answered on a closing runtime, and the worker is not cancelled while the active entry
has a caller who waits. -/
def keepsCallers [Client ρ] (s : Runtime ρ) : Event ρ → Bool
  | .reply reply =>
    match s.worker with
    | some (.volumeGet _) => !s.closing || !(Client.asyncGetVolume reply).isOk
    | _ => true
  | .cancelled => s.activeWaiters.all fun f => !(s.controlFutures f).isPending
  | _ => true

/-- Besides, no request is refused by a full queue. -/
def orderly [Client ρ] (cfg : Config) (s : Runtime ρ) : Event ρ → Bool
  | .submit request => !s.refuses (cfg.submitted request)
  | e => s.keepsCallers e

/-! ### The waiters of the active entry -/

lemma activeWaiters_of_worker {w : Worker} (hw : s.worker = some w) :
    s.activeWaiters = (w.job?.map Control.waiters).getD [] := by
  rw [activeWaiters, activeControl_of_worker hw]

lemma activeWaiters_of_none (hw : s.worker = none) : s.activeWaiters = [] := by
  simp [activeWaiters, activeControl, hw]

lemma activeWaiters_of_resting (hw : s.worker.all Worker.resting = true) :
    s.activeWaiters = [] := by
  cases hworker : s.worker with
  | none => exact activeWaiters_of_none hworker
  | some w =>
    rw [hworker] at hw
    rw [activeWaiters_of_worker hworker]
    cases w with
    | created | loop | returned | cancelled => rfl
    | _ => cases hw

/-! ### Pieces that keep who waits for a control -/

/-- The worker goes on with the entry that it holds, or without one. -/
lemma serves_of_worker {w w' : Worker} (hw : s.worker = some w) (hw' : t.worker = some w')
    (hjob : w'.job?.map Control.waiters = w.job?.map Control.waiters)
    (hf : Framed s t := by constructor <;> rfl)
    (hfutures : t.controlFutures = s.controlFutures := by rfl) :
    s.controlCustody.Serves t.controlCustody := by
  apply Future.Custody.Serves.of_eq hf.controlFutureCount hfutures
  intro f
  simp [activeWaiters_of_worker hw, activeWaiters_of_worker hw', hjob, hf.controls]

/-- The worker settles the entry that it holds and lets it go. -/
lemma serves_of_finished {w : Worker} {job : Control} {outcome} (hw : s.worker = some w)
    (hjob : w.job? = some job) (hw' : t.worker = some .loop) (ho : outcome.isDone = true)
    (hfutures : t.controlFutures = Future.settle job.waiters outcome s.controlFutures)
    (hf : Framed s t := by constructor <;> rfl) : s.controlCustody.Serves t.controlCustody := by
  have hheld : s.activeWaiters = job.waiters := by simp [activeWaiters_of_worker hw, hjob]
  have hfree : t.activeWaiters = [] := activeWaiters_of_worker hw'
  apply Future.Custody.Serves.settle job.waiters outcome ho hf.controlFutureCount hfutures
  · simp +contextual [hheld]
  · simp [hheld, hfree, hf.controls]
  · simp +contextual [hfree, hf.controls]

/-- `async_start`, or the worker's end is found: nobody is active before or after. -/
lemma serves_of_inactive (hs : s.activeWaiters = []) (ht : t.activeWaiters = [])
    (hcontrols : t.controls = s.controls) (hcount : t.controlFutureCount = s.controlFutureCount)
    (hfutures : t.controlFutures = s.controlFutures) :
    s.controlCustody.Serves t.controlCustody := by
  apply Future.Custody.Serves.of_eq hcount hfutures
  simp [hs, ht, hcontrols]

/-- A caller of `_submit` joins the last entry of the queue. -/
lemma serves_coalesce {job : Control} {command : Command}
    (hj : s.coalescingEntry command = some job) :
    s.controlCustody.Serves (s.coalesce env job command).controlCustody := by
  obtain ⟨-, -, hcontrols⟩ := coalescingEntry_eq_some hj
  apply Future.Custody.Serves.create rfl rfl
  intro f
  have hold : f ∈ s.controls.flatMap Control.waiters ↔
      f ∈ s.controls.dropLast.flatMap Control.waiters ∨ f ∈ job.waiters := by
    rw [hcontrols]
    simp
  show f ∈ s.activeWaiters ++ (s.controls.dropLast ++ [_]).flatMap Control.waiters ↔
    f ∈ s.activeWaiters ++ s.controls.flatMap Control.waiters ∨ _
  rw [List.mem_append, List.mem_append, hold]
  simp [or_assoc]

lemma serves_accept {command : Command} :
    s.controlCustody.Serves (s.accept env cfg command).controlCustody := by
  apply Future.Custody.Serves.create rfl rfl
  intro f
  show f ∈ s.activeWaiters ++ (s.controls ++ [_]).flatMap Control.waiters ↔
    f ∈ s.activeWaiters ++ s.controls.flatMap Control.waiters ∨ _
  simp [newEntry, or_assoc]

lemma pollWaiters_answerPolls {answers : Bool} (h : s.pollWaiters = []) :
    (s.answerPolls answers).pollWaiters = [] := by
  cases answers with
  | false => exact h
  | true => rfl

lemma serves_joinWorker : s.controlCustody.Serves s.joinWorker.controlCustody := by
  have hfree : s.joinWorker.activeWaiters = [] := activeWaiters_of_none rfl
  have hcount : s.joinWorker.controlCustody.count = s.controlCustody.count := rfl
  have hfutures : s.joinWorker.controlCustody.futures =
      Future.settle s.activeWaiters .cancelled s.controlCustody.futures := rfl
  apply Future.Custody.Serves.settle s.activeWaiters .cancelled rfl hcount hfutures
  · intro f hf
    exact List.mem_append_left _ hf
  · intro f hf
    rcases List.mem_append.mp hf with hf | hf
    · exact .inl hf
    · exact .inr (List.mem_append_right _ hf)
  · intro f hf
    rcases List.mem_append.mp hf with hf | hf
    · simp [hfree] at hf
    · exact List.mem_append_right _ hf

/-- The queue is settled and emptied. -/
lemma serves_beginClose : s.controlCustody.Serves s.beginClose.controlCustody := by
  obtain ⟨-, -, -, -, -, -, hcount, -⟩ := frame_beginClose (s := s)
  have hactive : s.beginClose.activeWaiters = s.activeWaiters := by
    simp [activeWaiters, activeControl]
  apply Future.Custody.Serves.settle _ .cancelled rfl hcount controlFutures_beginClose
  · intro f hf
    exact List.mem_append_right _ hf
  · intro f hf
    rcases List.mem_append.mp hf with hf | hf
    · exact .inr (List.mem_append_left _ (hactive ▸ hf))
    · exact .inl hf
  · intro f hf
    rcases List.mem_append.mp hf with hf | hf
    · exact List.mem_append_left _ (hactive ▸ hf)
    · simp at hf

/-! ### What a step does to who waits -/

/-- What a step does to the futures of `_submit`. -/
inductive Handled (cfg : Config) (s : Runtime ρ) (e : Event ρ) (t : Runtime ρ) : Prop where
  | served (h : s.controlCustody.Serves t.controlCustody)
  | callerCancelled (f : ℕ) (he : e = .cancelCaller f) (ht : t = s.cancelCaller f)
  | refused (r : Request) (he : e = .submit r) (hr : s.refuses (cfg.submitted r) = true)
      (ht : t = s.refuse)
  | workerCancelled (he : e = .cancelled) (hct : s.closeTask = .cancellingWorker)
      (hrunning : s.worker.all Worker.ended = false) (ht : t = s.goto .cancelled)
  | workerCrashed (error : ValueError) (hw : t.worker = some (.crashed error))
      (hfree : t.activeWaiters = []) (hf : Framed s t)
      (hfutures : t.controlFutures = s.controlFutures)

variable [Client ρ]

lemma handled_of_rule (h : Rule env cfg s e t) : Handled cfg s e t := by
  cases h with
  | started hw hc =>
    exact .served (serves_of_inactive (activeWaiters_of_none hw) rfl rfl rfl rfl)
  | startedClosing hw hc =>
    exact .served (serves_of_inactive (activeWaiters_of_none hw) rfl rfl rfl rfl)
  | coalesced r job hi hc hj => exact .served (serves_coalesce hj)
  | refused r hi hc hj hfull => exact .refused r rfl (by simp [refuses, hc, hj, hfull]) rfl
  | accepted r hi hc hj hfree => exact .served serves_accept
  | callerCancelled f hi => exact .callerCancelled f rfl rfl
  | closeBegun => exact .served serves_beginClose
  | joined => exact .served serves_joinWorker
  | workerCancelled w hw hr he hct =>
    exact .workerCancelled rfl hct (by simp [hw, he]) rfl
  | workerBegun hw => exact .served (serves_of_worker hw rfl rfl)
  | workerReturned hw hc => exact .served (serves_of_worker hw rfl rfl)
  | controlSelected job rest hw hc hq =>
    apply Handled.served
    refine Future.Custody.Serves.of_eq rfl rfl fun f => ?_
    simp [hq, hw, activeWaiters, activeControl, Worker.job?]
  | verificationStarted hw => exact .served (serves_of_worker hw rfl rfl)
  | pollStarted hw => exact .served (serves_of_worker hw rfl rfl)
  | maintenanceStarted hw =>
    exact .served (serves_of_worker hw rfl rfl)
  | maintenanceSkipped hw =>
    exact .served (serves_of_worker hw rfl rfl)
  | waited hw =>
    exact .served (serves_of_worker hw rfl rfl)
  | woken timeout hw => exact .served (serves_of_worker hw rfl rfl)
  | timedOut timeout hw => exact .served (serves_of_worker hw rfl rfl)
  | stateFailed reason r error hw =>
    apply Handled.served
    exact serves_of_worker hw worker_stateExchangeFailed rfl framed_stateExchangeFailed
      controlFutures_answerPolls
  | stateDone reason r status hw =>
    apply Handled.served
    exact serves_of_worker hw worker_stateExchangeDone rfl framed_stateExchangeDone
      controlFutures_answerPolls
  | maintenanceFailed r error hw =>
    exact .served (serves_of_worker hw rfl rfl)
  | maintenanceDone r status hw =>
    exact .served (serves_of_worker hw rfl rfl)
  | controlSkipped job hw hall =>
    have hnobody : Future.settle job.waiters .cancelled s.controlFutures = s.controlFutures := by
      apply Future.settle_eq_self
      intro f hf
      exact Future.State.not_isPending_of_isDone (Future.State.isDone_of_isCancelled (hall f hf))
    exact .served (serves_of_finished hw rfl rfl rfl hnobody.symm)
  | controlExpired job hw =>
    exact .served (serves_of_finished hw rfl rfl rfl rfl)
  | volumeGetStarted job hw => exact .served (serves_of_worker hw rfl rfl)
  | attemptsBegun job hw => exact .served (serves_of_worker hw rfl rfl)
  | volumeGetFailed job r error hw =>
    exact .served (serves_of_finished hw rfl rfl rfl rfl)
  | volumeGetDone job r status hw =>
    apply Handled.served
    refine Future.Custody.Serves.of_eq rfl rfl fun f => ?_
    have hbefore : s.activeWaiters = job.waiters := activeWaiters_of_worker hw
    have hafter : (s.volumeGetDone env cfg job r status).activeWaiters = [] := rfl
    rw [controlCustody_waiters, controlCustody_waiters, hbefore, hafter]
    simp [volumeGetDone]
  | attemptsTimedOut job s' hw hs =>
    have hfutures : (s'.controlTimedOut env cfg job).controlFutures =
        Future.settle job.waiters (.exception deadlineExpired) s.controlFutures := by
      rw [← hs.controlFutures]
      rfl
    exact .served (serves_of_finished hw rfl rfl rfl hfutures
      (hs.framed.trans framed_controlTimedOut))
  | attemptsLeft job failure s' hw hs =>
    have hfutures : (s'.controlFailed env cfg job failure).controlFutures =
        Future.settle job.waiters (.exception (.lsx failure.error)) s.controlFutures := by
      rw [← hs.controlFutures]
      rfl
    exact .served (serves_of_finished hw rfl rfl rfl hfutures
      (hs.framed.trans framed_controlFailed))
  | workerCrashed job failure error hw =>
    exact .workerCrashed error rfl rfl (by constructor <;> rfl) rfl
  | setStarted job failure request hw =>
    exact .served (serves_of_worker hw rfl rfl)
  | setRejected job first request r error hw =>
    exact .served (serves_of_finished hw rfl rfl rfl rfl)
  | firstFailed job request r error hw =>
    exact .served (serves_of_worker hw rfl rfl)
  | secondFailed job first request r error hw =>
    exact .served (serves_of_finished hw rfl rfl rfl rfl)
  | setAcknowledged job first request r hw =>
    exact .served (serves_of_finished hw rfl rfl rfl rfl)
  | slept job failure delay hw => exact .served (serves_of_worker hw rfl rfl)
  | _ => exact .served (.of_eq rfl rfl fun _ => Iff.rfl)

omit [Client ρ] in
/-- A source GET answers the polls, or leaves them. -/
lemma serves_answerPolls {answers : Bool} (hs : t.pollCustody = s.pollCustody) :
    s.pollCustody.Serves (t.answerPolls answers).pollCustody := by
  rw [← hs]
  cases answers with
  | false => exact .of_eq rfl rfl fun _ => Iff.rfl
  | true =>
    apply Future.Custody.Serves.settle t.pollWaiters (.result t.snapshot) rfl
    · rfl
    · rfl
    · simp
    · exact fun f hf => .inl hf
    · simp [answerPolls, resolvePolls]

/-- The callers of `async_poll` are never let go before they are settled. -/
lemma serves_polls_of_rule (h : Rule env cfg s e t) : s.pollCustody.Serves t.pollCustody := by
  cases h with
  | started hw hc =>
    apply Future.Custody.Serves.create rfl rfl
    simp [createWorker, addPoll]
  | polled hi hc =>
    apply Future.Custody.Serves.create rfl rfl
    simp [addPoll]
  | closeBegun =>
    obtain ⟨-, -, -, -, -, hwaiters, -, hcount⟩ := frame_beginClose (s := s)
    apply Future.Custody.Serves.settle s.pollWaiters .cancelled rfl hcount polls_beginClose.1
    · simp
    · exact fun f hf => .inl hf
    · simp
  | stateFailed reason r error hw =>
    show s.pollCustody.Serves (answerPolls _ _).pollCustody
    exact serves_answerPolls rfl
  | stateDone reason r status hw =>
    show s.pollCustody.Serves (answerPolls _ _).pollCustody
    exact serves_answerPolls rfl
  | attemptsTimedOut job s' hw hs =>
    cases hs <;> exact .of_eq rfl rfl fun _ => Iff.rfl
  | attemptsLeft job failure s' hw hs =>
    cases hs <;> exact .of_eq rfl rfl fun _ => Iff.rfl
  | _ => exact .of_eq rfl rfl fun _ => Iff.rfl

/-! ### The shutdown -/

lemma joined_of_rule (h : Rule env cfg s e t) (ht : t.closeTask.joined = true) :
    s.closeTask.joined = true ∨ t.worker = none := by
  cases h with
  | closeBegun =>
    right
    obtain ⟨hworker, -⟩ := frame_beginClose (s := s)
    rw [hworker]
    by_contra hw
    have hsome : s.worker.isSome = true := Option.isSome_iff_ne_none.mpr hw
    simp [beginClose, settleControls, hsome] at ht
    cases ht
  | joined => exact .inr rfl
  | shutdownTimedOut => cases ht
  | joinFailed => cases ht
  | clientClosed hi hct => exact .inl (by rw [hct]; rfl)
  | attemptsTimedOut job s' hw hs => cases hs <;> exact .inl ht
  | attemptsLeft job failure s' hw hs => cases hs <;> exact .inl ht
  | stateFailed reason r error =>
    have hf : Framed s (s.stateExchangeFailed env cfg reason r error) := framed_stateExchangeFailed
    exact .inl (hf.closeTask ▸ ht)
  | stateDone reason r status =>
    have hf : Framed s (s.stateExchangeDone env cfg reason r status) := framed_stateExchangeDone
    exact .inl (hf.closeTask ▸ ht)
  | _ => exact .inl ht

/-- Once the worker's end is found, a worker comes only from `async_start`, and rests. -/
lemma resting_of_joined (h : Transition.Reachable (step env cfg) {} s) :
    s.closeTask.joined = true → s.worker.all Worker.resting = true := by
  refine h.invariant (I := fun s => s.closeTask.joined = true →
    s.worker.all Worker.resting = true) (fun _ => rfl) ?_
  intro s t e hr ih _ hst ht
  have hrule := Rule.of_step hst
  rcases joined_of_rule hrule ht with hs | hnone
  · have hclose := (closing_iff hr).mpr
    have hc : s.closing = true := by
      apply hclose
      intro hct
      rw [hct] at hs
      cases hs
    by_cases he : e = .start
    · subst he
      cases hrule with
      | alreadyStarted => exact ih hs
      | started | startedClosing => rfl
    · exact (moves_of_rule hrule he hclose).resting hc (ih hs)
  · rw [hnone]
    rfl

/-- A closing runtime has nothing queued and no poll to answer. -/
def Cleared (s : Runtime ρ) : Prop :=
  s.closing = true → s.controls = [] ∧ s.pollWaiters = []

lemma Cleared.step (h : Cleared s) (hrule : Rule env cfg s e t) (ho : s.keepsCallers e = true) :
    Cleared t := by
  intro hc
  cases hrule with
  | closeBegun =>
    obtain ⟨-, -, hcontrols, -, -, hwaiters, -⟩ := frame_beginClose (s := s)
    exact ⟨hcontrols, hwaiters⟩
  | volumeGetDone job r status hw hr =>
    have hclosing : s.closing = true := hc
    simp [keepsCallers, hw, hr, hclosing, Except.isOk, Except.toBool] at ho
  | stateFailed reason r error =>
    have hf : Framed s (s.stateExchangeFailed env cfg reason r error) := framed_stateExchangeFailed
    have hboth := h (hf.closing ▸ hc)
    exact ⟨hf.controls.trans hboth.1, pollWaiters_answerPolls hboth.2⟩
  | stateDone reason r status =>
    have hf : Framed s (s.stateExchangeDone env cfg reason r status) := framed_stateExchangeDone
    have hboth := h (hf.closing ▸ hc)
    exact ⟨hf.controls.trans hboth.1, pollWaiters_answerPolls hboth.2⟩
  | attemptsTimedOut job s' hw hs => cases hs <;> exact h hc
  | attemptsLeft job failure s' hw hs => cases hs <;> exact h hc
  | started hw hopen => exact absurd (hopen.symm.trans hc) (by simp)
  | coalesced r job hi hopen => exact absurd (hopen.symm.trans hc) (by simp)
  | accepted r hi hopen => exact absurd (hopen.symm.trans hc) (by simp)
  | polled hi hopen => exact absurd (hopen.symm.trans hc) (by simp)
  | controlSelected job rest hw hopen => exact absurd (hopen.symm.trans hc) (by simp)
  | _ => exact h hc

/-! ### Runs that keep the callers -/

lemma keepsCallers_of_orderly (h : s.orderly cfg e = true) : s.keepsCallers e = true := by
  cases e with
  | submit => rfl
  | _ => exact h

/-- The runs whose steps all keep the callers. -/
abbrev Keeping (env : Env) (cfg : Config) : Runtime ρ → Prop :=
  Transition.Reaches (step env cfg) (fun s e => s.keepsCallers e = true) {}

/-- The runs whose steps are all orderly. -/
abbrev Orderly (env : Env) (cfg : Config) : Runtime ρ → Prop :=
  Transition.Reaches (step env cfg) (fun s e => s.orderly cfg e = true) {}

lemma Orderly.keeping (h : Orderly env cfg s) : Keeping env cfg s :=
  h.mono fun _ _ => keepsCallers_of_orderly

lemma crashed_of_rule (h : Rule env cfg s e t)
    (hclose : s.closeTask ≠ .notStarted → s.closing = true) {error : ValueError}
    (hw : s.worker = some (.crashed error)) : t.worker = some (.crashed error) := by
  by_cases he : e = .start
  · subst he
    cases h with
    | alreadyStarted => exact hw
    | started hnone | startedClosing hnone =>
      rw [hnone] at hw
      cases hw
  · exact (moves_of_rule h he hclose).crashed error hw

/-- The callers of `_submit` stay in custody, unless the worker crashes. -/
lemma attended_of_rule (h : Rule env cfg s e t) (ho : s.keepsCallers e = true)
    (hs : s.controlCustody.Attended) :
    (∃ error, t.worker = some (.crashed error)) ∨ t.controlCustody.Attended := by
  cases handled_of_rule h with
  | served hserves => exact .inr (hserves.attended hs)
  | callerCancelled f he ht =>
    subst ht
    have hfutures : (s.cancelCaller f).controlFutures =
        Future.settle [f] .cancelled s.controlFutures := rfl
    exact .inr (hs.settle rfl rfl hfutures fun f hf => .inr hf)
  | refused r he hr ht =>
    subst ht
    right
    refine hs.of_eq (Nat.le_succ _) (fun f hp => ?_) fun f hf _ => hf
    rcases eq_or_ne f s.controlFutureCount with rfl | hne
    · simp [refuse] at hp
    · simpa [refuse, Function.update_of_ne hne] using hp
  | workerCancelled he hct hended ht =>
    subst he ht
    right
    have hnobody : ∀ f ∈ s.activeWaiters, (s.controlFutures f).isPending = false := by
      simpa [keepsCallers] using ho
    refine hs.of_eq le_rfl (fun _ => id) fun f hf hp => ?_
    rcases List.mem_append.mp hf with hactive | hqueued
    · have hnot := hnobody f hactive
      rw [show (s.controlFutures f).isPending = true from hp] at hnot
      cases hnot
    · exact List.mem_append_right _ hqueued
  | workerCrashed error hw => exact .inl ⟨error, hw⟩

/-- Nobody but the callers of an entry on which the worker crashed is lost. -/
lemma attended_of_keeping (h : Keeping env cfg s) :
    (∃ error, s.worker = some (.crashed error)) ∨ s.controlCustody.Attended := by
  refine h.invariant (I := fun s => (∃ error, s.worker = some (.crashed error)) ∨
    s.controlCustody.Attended) ?_ ?_
  · right
    intro f hp
    simp at hp
  · intro s t e hr ih ho hst
    have hrule := Rule.of_step hst
    rcases ih with ⟨error, hw⟩ | hs
    · exact .inl ⟨error, crashed_of_rule hrule (closing_iff hr.reachable).mpr hw⟩
    · exact attended_of_rule hrule ho hs

/-- Only a refused request leaves a future to nobody. -/
lemma undropped_of_orderly (h : Orderly env cfg s) : s.controlCustody.Undropped := by
  refine h.invariant (I := fun s => s.controlCustody.Undropped) ?_ ?_
  · intro f hf
    simp at hf
  · intro s t e _ ih ho hst
    cases handled_of_rule (Rule.of_step hst) with
    | served hserves => exact hserves.undropped ih
    | callerCancelled f he ht =>
      subst ht
      have hfutures : (s.cancelCaller f).controlFutures =
          Future.settle [f] .cancelled s.controlFutures := rfl
      exact ih.settle rfl rfl hfutures
    | refused r he hr ht =>
      subst he
      simp [orderly, hr] at ho
    | workerCancelled he hct hended ht =>
      subst ht
      exact ih
    | workerCrashed error hw hfree hf hfutures =>
      intro f hlt
      rw [controlCustody_futures, hfutures]
      exact ih f (by simpa [hf.controlFutureCount] using hlt)

lemma cleared_of_keeping (h : Keeping env cfg s) : s.Cleared :=
  h.invariant (I := Cleared) (fun _ => ⟨rfl, rfl⟩) fun _ hs ho hst => hs.step (.of_step hst) ho

lemma polls_attended (h : Transition.Reachable (step env cfg) {} s) :
    s.pollCustody.Attended ∧ s.pollCustody.Undropped := by
  refine h.invariant (I := fun s => s.pollCustody.Attended ∧ s.pollCustody.Undropped) ?_ ?_
  · constructor
    · intro f hp
      simp at hp
    · intro f hf
      simp at hf
  · intro s t e _ ih _ hst
    have hserves := serves_polls_of_rule (Rule.of_step hst)
    exact ⟨hserves.attended ih.1, hserves.undropped ih.2⟩

/-- Once the worker's end is found, everybody who was in custody is settled. -/
lemma released_of_joined (h : Keeping env cfg s) (hjoined : s.closeTask.joined = true) :
    s.controlCustody.Attended ∧ s.controlCustody.waiters = [] ∧ s.Released := by
  have hresting := resting_of_joined h.reachable hjoined
  have hc : s.closing = true := by
    apply (closing_iff h.reachable).mpr
    intro hct
    rw [hct] at hjoined
    cases hjoined
  obtain ⟨hcontrols, hpolls⟩ := cleared_of_keeping h hc
  have hs : s.controlCustody.Attended := by
    rcases attended_of_keeping h with ⟨error, hw⟩ | hs
    · rw [hw] at hresting
      cases hresting
    · exact hs
  have hnil : s.controlCustody.waiters = [] := by
    simp [activeWaiters_of_resting hresting, hcontrols]
  refine ⟨hs, hnil, hcontrols, fun f => hs.not_isPending hnil, ?_⟩
  intro f hf
  obtain ⟨hattended, hundropped⟩ := polls_attended h.reachable
  exact hundropped.isDone hattended hpolls hf

/-- The shutdown of an orderly run leaves nobody hanging. -/
lemma settled_of_joined (h : Orderly env cfg s) (hjoined : s.closeTask.joined = true) :
    s.Settled := by
  obtain ⟨hattended, hnil, hreleased⟩ := released_of_joined h.keeping hjoined
  refine ⟨hreleased.controls, ?_, hreleased.polled⟩
  intro f hf
  exact (undropped_of_orderly h).isDone hattended hnil hf

/-! ### Runs after a step that is not orderly -/

lemma lost_of_rule (h : Rule env cfg s e t) (he : ∀ f, e ≠ .cancelCaller f) {f : ℕ}
    (hs : s.controlCustody.Lost f) : t.controlCustody.Lost f := by
  cases handled_of_rule h with
  | served hserves => exact hserves.lost hs
  | callerCancelled f he' => exact absurd he' (he f)
  | refused r he' hr ht =>
    subst ht
    have hne : f ≠ s.controlFutureCount := Nat.ne_of_lt hs.created
    refine hs.of_eq (Nat.le_succ _) ?_ id
    simp [refuse, Function.update_of_ne hne]
  | workerCancelled he' hct hended ht =>
    subst ht
    refine hs.of_eq le_rfl rfl fun hf => List.mem_append_right _ ?_
    simpa [activeWaiters, activeControl, Worker.job?] using hf
  | workerCrashed error hw hfree hf hfutures =>
    refine hs.of_eq hf.controlFutureCount.ge (congrFun hfutures f) fun hmem => ?_
    apply List.mem_append_right
    simpa [hfree, hf.controls] using hmem

/-- Nobody takes an entry out of the queue of a closing runtime. -/
lemma queued_of_rule (h : Rule env cfg s e t) (hct : s.closing = true → s.closeTask ≠ .notStarted)
    (hs : s.closing = true ∧ s.controls ≠ []) : t.closing = true ∧ t.controls ≠ [] := by
  obtain ⟨hc, hq⟩ := hs
  cases h with
  | closeBegun hi hnot => exact absurd hnot (hct hc)
  | coalesced r job hi hopen => exact absurd (hopen.symm.trans hc) (by simp)
  | accepted r hi hopen => exact absurd (hopen.symm.trans hc) (by simp)
  | controlSelected job rest hw hopen => exact absurd (hopen.symm.trans hc) (by simp)
  | volumeGetDone job r status => exact ⟨hc, by simp [volumeGetDone]⟩
  | stateFailed reason r error =>
    have hf : Framed s (s.stateExchangeFailed env cfg reason r error) := framed_stateExchangeFailed
    rw [hf.closing, hf.controls]
    exact ⟨hc, hq⟩
  | stateDone reason r status =>
    have hf : Framed s (s.stateExchangeDone env cfg reason r status) := framed_stateExchangeDone
    rw [hf.closing, hf.controls]
    exact ⟨hc, hq⟩
  | attemptsTimedOut job s' hw hs => cases hs <;> exact ⟨hc, hq⟩
  | attemptsLeft job failure s' hw hs => cases hs <;> exact ⟨hc, hq⟩
  | _ => exact ⟨hc, hq⟩

/-- A step that is not orderly loses a future, or leaves an entry in the queue of a closing
runtime. -/
lemma disorder (hs : Orderly env cfg s) (ho : s.orderly cfg e = false)
    (hst : step env cfg s e = some t) :
    (∃ f, t.controlCustody.Lost f) ∨ t.closing = true ∧ t.controls ≠ [] := by
  have hrule := Rule.of_step hst
  cases e with
  | submit r =>
    simp only [orderly, refuses, Bool.not_eq_false', Bool.and_eq_true, Bool.not_eq_true',
      Option.isNone_iff_eq_none, decide_eq_true_eq] at ho
    obtain ⟨⟨hopen, hnone⟩, hfull⟩ := ho
    cases hrule with
    | submitClosed r hi hc => exact absurd (hopen.symm.trans hc) (by simp)
    | coalesced r job hi hc hj => simp [hnone] at hj
    | accepted r hi hc hj hfree => exact absurd hfree (not_lt.mpr hfull)
    | refused =>
      left
      refine ⟨s.controlFutureCount, Nat.lt_succ_self _, ?_, ?_⟩
      · simp [refuse, Future.State.isDone]
      · simp [refuse]
  | reply r =>
    cases hrule with
    | volumeGetDone job r status hw hr =>
      right
      simp only [orderly, keepsCallers, hw, Bool.or_eq_false_iff, Bool.not_eq_false'] at ho
      exact ⟨ho.1, by simp [volumeGetDone]⟩
    | volumeGetFailed job r error hw hr =>
      simp [orderly, keepsCallers, hw, hr, Except.isOk, Except.toBool] at ho
    | _ => simp [orderly, keepsCallers, *] at ho
  | cancelled =>
    cases hrule with
    | workerCancelled w hw hrunning hended hct =>
      left
      simp only [orderly, keepsCallers, List.all_eq_false] at ho
      obtain ⟨f, hmem, hp⟩ := ho
      have hattended : s.controlCustody.Attended := by
        rcases attended_of_keeping (Orderly.keeping hs) with ⟨error, hcrashed⟩ | hattended
        · rw [hw] at hcrashed
          cases hcrashed
          cases hended
        · exact hattended
      have hc : s.closing = true := (closing_iff hs.reachable).mpr (by simp [hct])
      have hpending : (s.controlFutures f).isPending = true := by simpa using hp
      refine ⟨f, (hattended f hpending).1, Future.State.not_isDone_of_isPending hpending, ?_⟩
      simp [(cleared_of_keeping (Orderly.keeping hs) hc).1, activeWaiters, activeControl,
        Worker.job?]
  | _ => simp [orderly, keepsCallers] at ho

/-- Every shutdown of a run whose steps are all orderly settles all futures and leaves the queue
empty. After the first step that is not, a future stays undone or the queue filled, whatever the
run goes on to do, unless callers are cancelled. If no other step than a refused request is not
orderly, nobody waits all the same. -/
theorem settled_of_orderly {ρ : Type} [Client ρ] (env : Env) (cfg : Config) :
    (∀ s : Runtime ρ, Transition.Reaches (step env cfg) (fun s e => s.orderly cfg e = true) {} s →
      s.closeTask = .completed → s.Settled) ∧
    (∀ (s t u : Runtime ρ) (e : Event ρ),
      Transition.Reaches (step env cfg) (fun s e => s.orderly cfg e = true) {} s →
      step env cfg s e = some t → s.orderly cfg e = false →
      Transition.Reaches (step env cfg) (fun _ e => ∀ f, e ≠ .cancelCaller f) t u → ¬ u.Settled) ∧
    (∀ s : Runtime ρ, Transition.Reaches (step env cfg) (fun s e => s.keepsCallers e = true) {} s →
      s.closeTask = .completed → s.Released) := by
  refine ⟨?_, ?_, ?_⟩
  · intro s hs hct
    exact settled_of_joined hs (by rw [hct]; rfl)
  · intro s t u e hs hst ho hu hsettled
    have hst' : Transition.Reachable (step env cfg) {} t := hs.reachable.tail trivial hst
    rcases disorder hs ho hst with ⟨f, hlost⟩ | hqueued
    · have hlost' : u.controlCustody.Lost f :=
        hu.invariant (I := fun s => s.controlCustody.Lost f) hlost
          fun _ ih he hst => lost_of_rule (.of_step hst) he ih
      have hdone := hsettled.submitted f hlost'.created
      rw [show (u.controlFutures f).isDone = false from hlost'.undone] at hdone
      cases hdone
    · have hqueued' : u.closing = true ∧ u.controls ≠ [] :=
        hu.invariant (I := fun s => s.closing = true ∧ s.controls ≠ []) hqueued
          fun hr ih _ hst => queued_of_rule (.of_step hst)
            (closing_iff (hst'.trans hr.reachable)).mp ih
      exact hqueued'.2 hsettled.controls
  · intro s hs hct
    exact (released_of_joined hs (by rw [hct]; rfl)).2.2

/-- The worker is cancelled in a source GET while a turn_on is in the queue. -/
theorem settled_cancelled : ∃ s : Runtime Transcript,
    Transition.Reaches (step .ticking .ofOptions) (fun s e => s.orderly .ofOptions e = true) {} s ∧
    s.closeTask = .completed ∧ s.controlFutureCount = 1 ∧ s.pollFutureCount = 1 ∧ s.Settled := by
  have hrun : (Transition.run
      (Transition.guarded (step .ticking .ofOptions) fun s e => s.orderly .ofOptions e)
      [.start, .run, .run, .submit .turnOn, .close, .shutdownTimeout, .cancelled, .workerJoined,
        .clientClosed] ({} : Runtime Transcript)).any (fun s => s.closeTask = .completed ∧
        s.controlFutureCount = 1 ∧ s.pollFutureCount = 1) = true := by
    decide +kernel
  obtain ⟨s, hs, hs'⟩ := Transition.exists_reachable_of_run hrun
  obtain ⟨hct, hcount, hcount'⟩ := of_decide_eq_true hs'
  have hguarded : Transition.Reaches (step .ticking .ofOptions)
      (fun s e => s.orderly .ofOptions e = true) {} s := .of_guarded hs
  exact ⟨s, hguarded, hct, hcount, hcount', (settled_of_orderly _ _).1 s hguarded hct⟩

/-- A mute needs the volume, the runtime is closed during the GET, and the GET is answered: the
entry goes back to the queue that has been emptied, and its caller waits for ever. -/
theorem not_settled_volumeGet : ∃ s : Runtime Transcript,
    Transition.Reachable (step .ticking .ofOptions) {} s ∧ s.closeTask = .completed ∧
    ¬ s.Settled := by
  have hrun : (Transition.run (step .ticking .ofOptions)
      [.start, .run, .run, .submit (.mute true), .reply (Transcript.source 0x0B), .run, .run,
        .close, .reply (Transcript.volume 20), .run, .workerJoined, .clientClosed] {}).any
      (fun s => s.closeTask = .completed ∧ s.controlFutureCount = 1 ∧
        s.controlFutures 0 = .pending ∧ s.controls.length = 1) = true := by
    decide +kernel
  obtain ⟨s, hs, hs'⟩ := Transition.exists_reachable_of_run hrun
  obtain ⟨hct, hcount, hpending, hlength⟩ := of_decide_eq_true hs'
  refine ⟨s, hs, hct, ?_⟩
  intro hsettled
  have hdone := hsettled.submitted 0 (by omega)
  rw [hpending] at hdone
  cases hdone

end Runtime

end KefLsx
