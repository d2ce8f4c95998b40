import KefLsx.Runtime.Closing

/-!
# The queue of controls

What a step does to the queue, to the entry that is served, and to the requests that have been
accepted. An entry comes in at the end, by `_submit`, which checks the capacity, or goes back to the
front after its volume GET; the worker selects it again before anybody else runs.
-/

namespace KefLsx

/-! ### Reading the log -/

/-- A request that was accepted, for the entry `id`. -/
structure Asked where
  future : ℕ
  id : ℕ
  command : Command
  time : Time
deriving DecidableEq

def Obs.asked? {ρ : Type} : Obs ρ → Option Asked
  | requested future id command time => some { future, id, command, time }
  | _ => none

namespace Log

variable {ρ : Type} {log : List (Obs ρ)} {o : Obs ρ}

/-- The requests that were accepted, newest first. -/
def asked (log : List (Obs ρ)) : List Asked := log.filterMap Obs.asked?

/-- The requests that share the entry `id`, newest first. -/
def askedFor (id : ℕ) (log : List (Obs ρ)) : List Asked := (asked log).filter (·.id = id)

lemma asked_cons_of_quiet (ho : o.asked? = none) : asked (o :: log) = asked log :=
  List.filterMap_cons_none ho

lemma asked_noted {l l' : Ledger ρ} (h : Ledger.Noted l l') : asked l'.log = asked l.log := by
  obtain ⟨notes, hlog, hnotes⟩ := h.notes
  rw [hlog, asked, List.filterMap_append, List.filterMap_eq_nil_iff.mpr]
  · rfl
  · intro o ho
    have hnote := hnotes o ho
    cases o with
    | planStarted | verified | mismatch => rfl
    | _ => cases hnote

end Log

namespace Runtime

open Log

variable {ρ : Type} {env : Env} {cfg : Config} {s t : Runtime ρ} {e : Event ρ}
  {job job' : Control}

/-! ### What a step does to the queue -/

/-- The same entry; executing it may have chosen the source of a power command. -/
structure SameEntry (cfg : Config) (job job' : Control) : Prop where
  id : job'.id = job.id
  deadline : job'.deadline = job.deadline
  waiters : job'.waiters = job.waiters
  kind : job'.command.kind = job.command.kind
  request : ∀ speaker, cfg.request speaker job'.command = cfg.request speaker job.command

lemma SameEntry.refl : SameEntry cfg job job := by
  constructor <;> intros <;> rfl

lemma SameEntry.executed {speaker : SpeakerState} :
    SameEntry cfg job { job with command := cfg.executed speaker job.command } :=
  ⟨rfl, rfl, rfl, cfg.kind_executed _ _, fun _ => cfg.request_executed _ _ _⟩

/-- What a step does to the queue, to the entry that is served and to the requests. -/
inductive Queueing (env : Env) (cfg : Config) (s : Runtime ρ) (e : Event ρ) (t : Runtime ρ) :
    Prop where
  | kept (hcontrols : t.controls = s.controls)
      (hactive : ∀ job ∈ t.activeControl, ∃ job' ∈ s.activeControl, SameEntry cfg job' job)
      (hasked : asked t.log = asked s.log) (hclosing : t.closing = s.closing)
  | merged (r : Request) (job : Control) (he : e = .submit r) (hi : s.idle = true)
      (hc : s.closing = false) (hj : s.coalescingEntry (cfg.submitted r) = some job)
      (ht : t = s.coalesce env job (cfg.submitted r))
  | accepted (r : Request) (he : e = .submit r) (hi : s.idle = true) (hc : s.closing = false)
      (hfree : s.controls.length < queueCapacity) (ht : t = s.accept env cfg (cfg.submitted r))
  | cleared (he : e = .close) (hcontrols : t.controls = []) (hworker : t.worker = s.worker)
      (hasked : asked t.log = asked s.log)
  | selected (job : Control) (rest : List Control) (hw : s.worker = some .loop)
      (hc : s.closing = false) (hq : s.controls = job :: rest) (hcontrols : t.controls = rest)
      (hw' : t.worker = some (.control job)) (hasked : asked t.log = asked s.log)
  | returned (job : Control) (r : ρ) (he : e = .reply r) (hw : s.worker = some (.volumeGet job))
      (hcontrols : t.controls = job :: s.controls) (hw' : t.worker = some .loop)
      (hclosing : t.closing = s.closing) (hasked : asked t.log = asked s.log)

/-- The worker goes on with the entry that it holds, or lets it go. -/
lemma Queueing.moved {w w' : Worker} (hw : s.worker = some w) (hw' : t.worker = some w')
    (hjob : ∀ job ∈ w'.job?, ∃ job' ∈ w.job?, SameEntry cfg job' job)
    (hasked : asked t.log = asked s.log := by rfl)
    (hcontrols : t.controls = s.controls := by rfl) (hclosing : t.closing = s.closing := by rfl) :
    Queueing env cfg s e t := by
  refine .kept hcontrols ?_ hasked hclosing
  rw [activeControl_of_worker hw, activeControl_of_worker hw']
  exact hjob

/-- The worker goes on without an entry. -/
lemma Queueing.freed {w' : Worker} (hw' : t.worker = some w')
    (hjob : w'.job? = none := by rfl) (hasked : asked t.log = asked s.log := by rfl)
    (hcontrols : t.controls = s.controls := by rfl) (hclosing : t.closing = s.closing := by rfl) :
    Queueing env cfg s e t := by
  refine .kept hcontrols ?_ hasked hclosing
  simp [activeControl_of_worker hw', hjob]

/-- A step of a producer, or of the shutdown. -/
lemma Queueing.undisturbed (hcontrols : t.controls = s.controls := by rfl)
    (hworker : t.worker = s.worker := by rfl) (hasked : asked t.log = asked s.log := by rfl)
    (hclosing : t.closing = s.closing := by rfl) : Queueing env cfg s e t := by
  refine .kept hcontrols ?_ hasked hclosing
  intro job hjob
  rw [activeControl, hworker] at hjob
  exact ⟨job, hjob, .refl⟩

lemma sameEntry_self {w : Worker} (job : Control) (hjob : job ∈ w.job?) :
    ∃ job' ∈ w.job?, SameEntry cfg job' job := ⟨job, hjob, .refl⟩

lemma asked_controlFailed {failure : Failure} :
    asked (s.controlFailed env cfg job failure).log = asked s.log := by
  obtain ⟨l, hnoted, hlog, -⟩ :
    ∃ l : Ledger ρ, Ledger.Noted l (s.controlFailed env cfg job failure).toLedger ∧ _ ∧ _ :=
    exists_noted_controlFailed
  rw [asked_noted hnoted, hlog]
  rfl

lemma asked_controlAcknowledged {first : Option Failure} {r : ρ} :
    asked (s.controlAcknowledged env cfg job first r).log = asked s.log := by
  obtain ⟨l, time, wall, hnoted, hlog, -⟩ :
    ∃ (l : Ledger ρ) (time : Time) (wall : DateTime),
      Ledger.Noted l (s.controlAcknowledged env cfg job first r).toLedger ∧ _ ∧ _ :=
    exists_noted_controlAcknowledged
  rw [asked_noted hnoted, hlog]
  rfl

lemma queueing_of_rule [Client ρ] (h : Rule env cfg s e t) : Queueing env cfg s e t := by
  cases h with
  | started | startedClosing => exact .freed rfl
  | coalesced r job hi hc hj => exact .merged r job rfl hi hc hj rfl
  | accepted r hi hc hj hfree => exact .accepted r rfl hi hc hfree rfl
  | closeBegun =>
    obtain ⟨hworker, hledger, hcontrols, -⟩ := frame_beginClose (s := s)
    exact .cleared rfl hcontrols hworker (by rw [hledger]; rfl)
  | joined => exact .kept rfl (by simp [activeControl, joinWorker]) rfl rfl
  | workerCancelled => exact .freed rfl
  | workerBegun => exact .freed rfl
  | workerReturned => exact .freed rfl
  | controlSelected job rest hw hc hq => exact .selected job rest hw hc hq rfl rfl rfl
  | verificationStarted | pollStarted | maintenanceStarted | maintenanceSkipped | waited | woken
  | timedOut => exact .freed rfl
  | stateFailed =>
    exact .freed rfl rfl ((asked_noted noted_stateExchangeFailed).trans rfl)
      framed_stateExchangeFailed.controls framed_stateExchangeFailed.closing
  | stateDone =>
    exact .freed rfl rfl ((asked_noted noted_stateExchangeDone).trans rfl)
      framed_stateExchangeDone.controls framed_stateExchangeDone.closing
  | maintenanceFailed | maintenanceDone | controlSkipped | controlExpired => exact .freed rfl
  | volumeGetStarted job hw => exact .moved hw rfl sameEntry_self
  | attemptsBegun job hw => exact .moved hw rfl sameEntry_self
  | volumeGetFailed => exact .freed rfl
  | volumeGetDone job r status hw => exact .returned job r rfl hw rfl rfl rfl rfl
  | attemptsTimedOut job s' hw hs =>
    have hasked : asked s'.log = asked s.log := asked_noted hs.noted
    exact .freed rfl rfl hasked hs.framed.controls hs.framed.closing
  | attemptsLeft job failure s' hw hs =>
    exact .freed rfl rfl (asked_controlFailed.trans (asked_noted hs.noted)) hs.framed.controls
      hs.framed.closing
  | workerCrashed => exact .freed rfl
  | setStarted job failure request hw =>
    refine .moved hw rfl ?_
    rintro _ ⟨⟩
    exact ⟨job, rfl, .executed⟩
  | setRejected => exact .freed rfl rfl (asked_controlFailed.trans rfl)
  | firstFailed job request r error hw => exact .moved hw rfl sameEntry_self
  | secondFailed => exact .freed rfl rfl (asked_controlFailed.trans rfl)
  | setAcknowledged => exact .freed rfl rfl asked_controlAcknowledged
  | slept job failure delay hw => exact .moved hw rfl sameEntry_self
  | _ => exact .undisturbed

/-! ### The capacity -/

variable [Client ρ]

/-- While an exchange goes on that was in flight when the shutdown began, the queue is empty. -/
def Emptied (s : Runtime ρ) : Prop :=
  s.closing = true → s.inExchange = true → s.controls = []

/-- The capacity is exceeded only between the return of an entry and its selection, by one. -/
def Bounded (s : Runtime ρ) : Prop :=
  s.controls.length ≤ queueCapacity ∨
    s.controls.length = queueCapacity + 1 ∧ s.worker = some .loop ∧ s.closing = false

lemma Emptied.step (h : Emptied s) (hs : Scheduled env cfg s) (hrule : Rule env cfg s e t) :
    Emptied t := by
  intro hc hflight
  have hqueue : Queueing env cfg s e t := queueing_of_rule hrule
  cases hqueue with
  | kept hcontrols _ _ hclosing =>
    have hc' : s.closing = true := hclosing.symm.trans hc
    cases exchanged_of_rule hrule with
    | none htraffic hworker =>
      have hflight' : s.inExchange = true := by rwa [inExchange, ← hworker hflight]
      exact hcontrols.trans (h hc' hflight')
    | start call reads remaining hstarts =>
      rw [hstarts.closing_eq_false hs] at hc'
      cases hc'
    | finish o hends htraffic hnone =>
      rw [hflight] at hnone
      cases hnone
  | merged r job he hi hopen hj ht =>
    subst ht
    exact absurd (hopen.symm.trans hc) (by simp)
  | accepted r he hi hopen hfree ht =>
    subst ht
    exact absurd (hopen.symm.trans hc) (by simp)
  | cleared he hcontrols => exact hcontrols
  | selected job rest hw hopen hq hcontrols hw' =>
    rw [inExchange_of_worker hw'] at hflight
    cases hflight
  | returned job r he hw hcontrols hw' =>
    rw [inExchange_of_worker hw'] at hflight
    cases hflight

lemma emptied_of_reachable (h : Transition.Reachable (step env cfg) {} s) : Emptied s := by
  refine h.invariant (I := Emptied) (fun _ _ => rfl) ?_
  intro s t e hr hs _ hst
  exact hs.step (.of_reachable hr) (.of_step hst)

omit [Client ρ] in
lemma length_coalesce {command : Command} (hj : s.coalescingEntry command = some job) :
    (s.coalesce env job command).controls.length = s.controls.length := by
  obtain ⟨-, -, hcontrols⟩ := coalescingEntry_eq_some hj
  rw [hcontrols]
  simp [coalesce]

/-- At the head of its loop the worker of an open runtime selects the first entry, and nobody else
runs. -/
lemma selects_of_step {rest : List Control} (hst : step env cfg s e = some t)
    (hw : s.worker = some .loop) (hc : s.closing = false) (hq : s.controls = job :: rest) :
    t.controls = rest ∧ t.worker = some (.control job) := by
  cases e with
  | run =>
    simp only [Runtime.step, hw, stepRun, asyncWorker, hc, record_controls, hq,
      Option.some.injEq] at hst
    subst hst
    exact ⟨rfl, rfl⟩
  | reply => simp [Runtime.step, hw, stepReply] at hst
  | cancelled => simp [Runtime.step, hw, Worker.running] at hst
  | _ => simp [Runtime.step, hw, idle, Worker.running] at hst

omit [Client ρ] in
/-- A step makes the queue longer than the capacity only by the return of an entry. -/
lemma length_of_queueing (h : s.controls.length ≤ queueCapacity)
    (hqueue : Queueing env cfg s e t) : t.controls.length ≤ queueCapacity ∨
      ∃ job r, s.worker = some (.volumeGet job) ∧ e = .reply r ∧
        t.controls = job :: s.controls ∧ t.worker = some .loop ∧ t.closing = s.closing := by
  cases hqueue with
  | kept hcontrols => exact .inl (hcontrols ▸ h)
  | merged r job he hi hc hj ht =>
    subst ht
    exact .inl ((length_coalesce hj).trans_le h)
  | accepted r he hi hc hfree ht =>
    subst ht
    refine .inl ?_
    simp only [accept, List.length_append, List.length_singleton]
    exact hfree
  | cleared he hcontrols => exact .inl (by simp [hcontrols])
  | selected job rest hw hc hq hcontrols =>
    refine .inl ?_
    rw [hq, List.length_cons] at h
    rw [hcontrols]
    exact Nat.le_of_succ_le h
  | returned job r he hw hcontrols hw' hclosing =>
    exact .inr ⟨job, r, hw, he, hcontrols, hw', hclosing⟩

lemma Bounded.step (h : Bounded s) (hempty : Emptied s) (hst : step env cfg s e = some t) :
    Bounded t := by
  rcases h with hle | ⟨hlength, hw, hc⟩
  · have hqueue : Queueing env cfg s e t := queueing_of_rule (.of_step hst)
    rcases length_of_queueing hle hqueue with hle' | ⟨job, r, hw, he, hcontrols, hw', hclosing⟩
    · exact .inl hle'
    have hlength : t.controls.length = s.controls.length + 1 := by rw [hcontrols, List.length_cons]
    rcases Nat.lt_or_eq_of_le hle with hlt | heq
    · exact .inl (hlength.trans_le hlt)
    · have hopen : s.closing = false := by
        by_contra hc
        have hnil := hempty (by simpa using hc) (inExchange_of_worker hw)
        simp [hnil, queueCapacity] at heq
      exact .inr ⟨hlength.trans (congrArg (· + 1) heq), hw', hclosing.trans hopen⟩
  · obtain ⟨job, rest, hq⟩ := List.exists_cons_of_length_eq_add_one hlength
    obtain ⟨hrest, -⟩ := selects_of_step hst hw hc hq
    rw [hq, List.length_cons, Nat.add_right_cancel_iff] at hlength
    exact .inl (hrest ▸ hlength.le)

lemma bounded_of_reachable (h : Transition.Reachable (step env cfg) {} s) : Bounded s := by
  refine h.invariant (I := Bounded) (.inl (Nat.zero_le _)) ?_
  intro s t e hr hs _ hst
  exact hs.step (emptied_of_reachable hr) hst

omit [Client ρ] in
lemma Bounded.length_le (h : Bounded s) (hi : s.idle = true) :
    s.controls.length ≤ queueCapacity := by
  rcases h with hle | ⟨-, hw, -⟩
  · exact hle
  · exact absurd hw (idle_ne_loop hi)

/-- `_submit` raises `QueueBusyError`: it has created a future that nobody will settle. -/
def RaisesQueueBusy (s t : Runtime ρ) : Prop :=
  t.controlFutureCount = s.controlFutureCount + 1 ∧
    t.controlFutures s.controlFutureCount = .dropped

/-- A request is refused when the queue is full and the request cannot be merged. -/
lemma raisesQueueBusy_iff {r : Request} (hst : step env cfg s (.submit r) = some t) :
    RaisesQueueBusy s t ↔ s.closing = false ∧ queueCapacity ≤ s.controls.length ∧
      s.coalescingEntry (cfg.submitted r) = none := by
  cases Rule.of_step hst with
  | submitClosed r hi hc =>
    refine iff_of_false (fun h => ?_) (fun h => ?_)
    · exact absurd h.1 (Nat.ne_of_lt (Nat.lt_succ_self _))
    · rw [hc] at h
      cases h.1
  | coalesced r job hi hc hj =>
    refine iff_of_false (fun h => ?_) (fun h => ?_)
    · have hpending : (s.coalesce env job (cfg.submitted r)).controlFutures s.controlFutureCount =
          .pending := Function.update_self ..
      rw [h.2] at hpending
      cases hpending
    · rw [hj] at h
      cases h.2.2
  | refused r hi hc hj hfull => exact iff_of_true ⟨rfl, Function.update_self ..⟩ ⟨hc, hfull, hj⟩
  | accepted r hi hc hj hfree =>
    refine iff_of_false (fun h => ?_) (fun h => ?_)
    · have hpending : (s.accept env cfg (cfg.submitted r)).controlFutures s.controlFutureCount =
          .pending := Function.update_self ..
      rw [h.2] at hpending
      cases hpending
    · exact absurd h.2.1 (not_le.mpr hfree)

/-- And then nothing but the number of futures changes. -/
lemma eq_refuse_of_raises {r : Request} (hst : step env cfg s (.submit r) = some t)
    (h : RaisesQueueBusy s t) : t = s.refuse := by
  obtain ⟨hopen, hfull, hnone⟩ := (raisesQueueBusy_iff hst).mp h
  cases Rule.of_step hst with
  | submitClosed r hi hc => exact absurd (hopen.symm.trans hc) (by simp)
  | coalesced r job hi hc hj =>
    rw [hnone] at hj
    cases hj
  | refused r hi hc hj hfull => rfl
  | accepted r hi hc hj hfree => exact absurd hfree (not_lt.mpr hfull)

lemma idle_of_submit {r : Request} (hst : step env cfg s (.submit r) = some t) :
    s.idle = true := by
  cases Rule.of_step hst with
  | submitClosed r hi | coalesced r job hi | refused r hi | accepted r hi => exact hi

/-- Whenever anybody but the worker may run, the queue is within its capacity. It is longer, by
one, only after the volume GET of an entry, which goes back to the front and is selected again in
the next step of the worker. A request is refused on an open runtime exactly if the queue is full
and the request cannot be merged, and changes nothing of the queue, the plan and the snapshot. -/
theorem queue_within_capacity (h : Transition.Reachable (step env cfg) {} s) :
    (s.idle = true → s.controls.length ≤ queueCapacity) ∧
    s.controls.length ≤ queueCapacity + 1 ∧
    (queueCapacity < s.controls.length → s.worker = some .loop ∧
      ∀ e t, step env cfg s e = some t →
        ∃ job, s.controls = job :: t.controls ∧ t.worker = some (.control job)) ∧
    (∀ e t, step env cfg s e = some t → queueCapacity < t.controls.length →
      ∃ job r, s.worker = some (.volumeGet job) ∧ e = .reply r ∧
        t.controls = job :: s.controls) ∧
    ∀ r t, step env cfg s (.submit r) = some t →
      (RaisesQueueBusy s t ↔ s.closing = false ∧ s.controls.length = queueCapacity ∧
        s.coalescingEntry (cfg.submitted r) = none) ∧
      (RaisesQueueBusy s t → t.controls = s.controls ∧ t.verification = s.verification ∧
        t.snapshot = s.snapshot) := by
  have hbounded := bounded_of_reachable h
  refine ⟨hbounded.length_le, ?_, ?_, ?_, ?_⟩
  · rcases hbounded with hle | ⟨hlength, -⟩
    · exact hle.trans (Nat.le_succ _)
    · exact hlength.le
  · intro hlong
    obtain ⟨hlength, hw, hc⟩ := hbounded.resolve_left (not_le.mpr hlong)
    refine ⟨hw, fun e t hst => ?_⟩
    obtain ⟨job, rest, hq⟩ := List.exists_cons_of_length_eq_add_one hlength
    obtain ⟨hrest, hw'⟩ := selects_of_step hst hw hc hq
    exact ⟨job, hrest.symm ▸ hq, hw'⟩
  · intro e t hst hlong
    rcases hbounded with hle | ⟨hlength, hw, hc⟩
    · have hqueue : Queueing env cfg s e t := queueing_of_rule (.of_step hst)
      obtain ⟨job, r, hw, he, hcontrols, -⟩ :=
        (length_of_queueing hle hqueue).resolve_left (not_le.mpr hlong)
      exact ⟨job, r, hw, he, hcontrols⟩
    · obtain ⟨job, rest, hq⟩ := List.exists_cons_of_length_eq_add_one hlength
      obtain ⟨hrest, -⟩ := selects_of_step hst hw hc hq
      rw [hq, List.length_cons, Nat.add_right_cancel_iff] at hlength
      rw [hrest, hlength] at hlong
      exact absurd hlong (lt_irrefl _)
  · intro r t hst
    have hraises := raisesQueueBusy_iff hst
    refine ⟨hraises.trans ?_, ?_⟩
    · have hle := hbounded.length_le (idle_of_submit hst)
      have hfull : queueCapacity ≤ s.controls.length ↔ s.controls.length = queueCapacity :=
        ⟨fun hge => le_antisymm hle hge, fun heq => heq.ge⟩
      rw [hfull]
    · intro hbusy
      rw [eq_refuse_of_raises hst hbusy]
      exact ⟨rfl, rfl, rfl⟩

/-- Sixteen commands are accepted while the volume GET of a mute is in flight; the next is
refused. -/
theorem queue_within_capacity_full : ∃ s t : Runtime Transcript,
    Transition.Reachable (step .ticking .ofOptions) {} s ∧
    s.controls.length = queueCapacity ∧ step .ticking .ofOptions s (.submit .turnOff) = some t ∧
    RaisesQueueBusy s t ∧ t.controls = s.controls ∧ t.verification = s.verification ∧
    t.snapshot = s.snapshot := by
  have hrun : (Transition.run (step .ticking .ofOptions)
      ([.start, .run, .run, .submit (.mute true), .reply (Transcript.source 0x0B), .run, .run] ++
        List.replicate 16 (.submit .turnOn)) ({} : Runtime Transcript)).any
      (fun s => s.idle ∧ s.closing = false ∧ s.controls.length = queueCapacity ∧
        (step .ticking .ofOptions s (.submit .turnOff)).isSome) = true := by
    decide +kernel
  obtain ⟨s, hs, hs'⟩ := Transition.exists_reachable_of_run hrun
  obtain ⟨hi, hc, hfull, hstep⟩ := of_decide_eq_true hs'
  obtain ⟨t, hst⟩ := Option.isSome_iff_exists.mp hstep
  obtain ⟨-, -, -, -, hsubmit⟩ := queue_within_capacity hs
  obtain ⟨hraises, hkept⟩ := hsubmit .turnOff t hst
  have hbusy := hraises.mpr ⟨hc, hfull, rfl⟩
  exact ⟨s, t, hs, hfull, hst, hbusy, hkept hbusy⟩

/-- The volume GET is answered while the queue is full: until the mute is selected again, there are
seventeen entries. -/
theorem not_queue_within_capacity : ∃ s : Runtime Transcript,
    Transition.Reachable (step .ticking .ofOptions) {} s ∧
    ¬ s.controls.length ≤ queueCapacity := by
  have hrun : (Transition.run (step .ticking .ofOptions)
      ([.start, .run, .run, .submit (.mute true), .reply (Transcript.source 0x0B), .run, .run] ++
        List.replicate 16 (.submit .turnOn) ++ [.reply (Transcript.volume 20)])
      ({} : Runtime Transcript)).any
      (fun s => ¬ s.controls.length ≤ queueCapacity) = true := by
    decide +kernel
  obtain ⟨s, hs, hs'⟩ := Transition.exists_reachable_of_run hrun
  exact ⟨s, hs, of_decide_eq_true hs'⟩

end Runtime

end KefLsx
