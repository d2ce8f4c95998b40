import Mathlib.Data.List.Nodup
import KefLsx.Runtime.Queue

/-!
# Requests that share an entry

Adjacent volume requests share one entry of the queue. It has one slot for a command, which holds
that of the newest request, and one deadline, which is that of the request it was created for. So
the cancellation of some callers does not change what is written, and a request that joins an entry
late expires with the others.
-/

namespace KefLsx

lemma exists_setVolume {command : Command} (h : command.kind = .setVolume) :
    ∃ value, command = .setVolume value := by
  cases command with
  | setVolume value => exact ⟨value, rfl⟩
  | _ => cases h

namespace Log

variable {ρ : Type} {log log' : List (Obs ρ)} {id : ℕ} {a : Asked}

lemma askedFor_of_asked (h : asked log' = asked log) : askedFor id log' = askedFor id log := by
  rw [askedFor, h, askedFor]

lemma askedFor_cons_self (h : asked log' = a :: asked log) :
    askedFor a.id log' = a :: askedFor a.id log := by
  rw [askedFor, h, List.filter_cons_of_pos (by simp), askedFor]

lemma askedFor_cons_of_ne (h : asked log' = a :: asked log) (hne : a.id ≠ id) :
    askedFor id log' = askedFor id log := by
  rw [askedFor, h, List.filter_cons_of_neg (by simpa using hne), askedFor]

lemma mem_askedFor : a ∈ askedFor id log ↔ a ∈ asked log ∧ a.id = id := by
  simp [askedFor, List.mem_filter]

end Log

namespace Runtime

open Log

variable {ρ : Type} {env : Env} {cfg : Config} {s t u : Runtime ρ} {e : Event ρ}
  {job job' : Control}

/-- The entry holds what the requests that share it have brought: the callers all of them, the
command the newest, and the deadline the first. -/
structure Gathered (cfg : Config) (log : List (Obs ρ)) (job : Control) : Prop where
  waiters : (askedFor job.id log).map Asked.future = job.waiters.reverse
  kinds : ∀ a ∈ askedFor job.id log, a.command.kind = job.command.kind
  shared : (askedFor job.id log).tail = [] ∨ job.command.kind = .setVolume
  newest : ∃ newest ∈ (askedFor job.id log).head?,
    ∀ speaker, cfg.request speaker job.command = cfg.request speaker newest.command
  deadline : ∃ first ∈ (askedFor job.id log).getLast?,
    job.deadline = first.time + cfg.timing.controlDeadline

lemma Gathered.congr {log log' : List (Obs ρ)} (h : Gathered cfg log job)
    (hasked : askedFor job.id log' = askedFor job.id log) (hsame : SameEntry cfg job job') :
    Gathered cfg log' job' := by
  rw [← hsame.id] at hasked
  obtain ⟨newest, hnewest, hrequest⟩ := h.newest
  have hid := hsame.id
  refine ⟨?_, ?_, ?_, ⟨newest, ?_, ?_⟩, ?_⟩
  · rw [hasked, hid, hsame.waiters, h.waiters]
  · rw [hasked, hid, hsame.kind]
    exact h.kinds
  · rw [hasked, hid, hsame.kind]
    exact h.shared
  · rwa [hasked, hid]
  · intro speaker
    rw [hsame.request, hrequest]
  · rw [hasked, hid, hsame.deadline]
    exact h.deadline

/-- A step accepts no request, merges one into an entry, or makes an entry of one. -/
lemma Queueing.requests (h : Queueing env cfg s e t) :
    (asked t.log = asked s.log ∧ ∀ job ∈ t.live, ∃ job' ∈ s.live, SameEntry cfg job' job) ∨
    (∃ r job, s.coalescingEntry (cfg.submitted r) = some job ∧
      t = s.coalesce env job (cfg.submitted r)) ∨
    ∃ r, t = s.accept env cfg (cfg.submitted r) := by
  cases h with
  | kept hcontrols hactive hasked =>
    refine .inl ⟨hasked, ?_⟩
    intro job hjob
    rcases List.mem_append.mp hjob with hjob | hjob
    · obtain ⟨job', hjob', hsame⟩ := hactive job (by simpa using hjob)
      exact ⟨job', mem_live_of_active hjob', hsame⟩
    · exact ⟨job, mem_live_of_queued (hcontrols ▸ hjob), .refl⟩
  | merged r job he hi hc hj ht => exact .inr (.inl ⟨r, job, hj, ht⟩)
  | accepted r he hi hc hfree ht => exact .inr (.inr ⟨r, ht⟩)
  | cleared he hcontrols hworker hasked =>
    refine .inl ⟨hasked, ?_⟩
    intro job hjob
    rw [live, hcontrols, List.append_nil, activeControl, hworker] at hjob
    exact ⟨job, List.mem_append_left _ hjob, .refl⟩
  | selected job rest hw hc hq hcontrols hw' hasked =>
    refine .inl ⟨hasked, ?_⟩
    intro job' hjob
    rw [live, hcontrols, activeControl_of_worker hw'] at hjob
    exact ⟨job', mem_live_of_queued (hq ▸ hjob), .refl⟩
  | returned job r he hw hcontrols hw' hclosing hasked =>
    refine .inl ⟨hasked, ?_⟩
    intro job' hjob
    rw [live, hcontrols, activeControl_of_worker hw'] at hjob
    refine ⟨job', ?_, .refl⟩
    rw [live, activeControl_of_worker hw]
    exact hjob

/-- The entries after a merger: the one that it extends, and others as before. -/
lemma mem_live_coalesce {command : Command} {job' : Control}
    (hjob : job' ∈ (s.coalesce env job command).live) :
    job' ∈ s.activeControl.toList ++ s.controls.dropLast ∨ job' = { job with
      command := command, waiters := job.waiters ++ [s.controlFutureCount] } := by
  have hall : job' ∈ s.activeControl.toList ++ (s.controls.dropLast ++ [_]) := hjob
  rwa [← List.append_assoc, List.mem_append, List.mem_singleton] at hall

/-- The entries after an acceptance. -/
lemma mem_live_accept {command : Command} (hjob : job ∈ (s.accept env cfg command).live) :
    job ∈ s.live ∨ job = s.newEntry env cfg command := by
  have hall : job ∈ s.activeControl.toList ++ (s.controls ++ [_]) := hjob
  rwa [← List.append_assoc, List.mem_append, List.mem_singleton] at hall

lemma asked_coalesce {command : Command} : asked (s.coalesce env job command).log =
    ⟨s.controlFutureCount, job.id, command, s.now env⟩ :: asked s.log := rfl

lemma asked_accept {command : Command} : asked (s.accept env cfg command).log =
    ⟨s.controlFutureCount, s.acceptedCount, command, s.now env⟩ :: asked s.log := rfl

lemma mem_controls_of_coalescing {command : Command}
    (hj : s.coalescingEntry command = some job) : job ∈ s.controls := by
  obtain ⟨-, -, hcontrols⟩ := coalescingEntry_eq_some hj
  rw [hcontrols]
  simp

/-- What the log records about the requests. -/
structure Enrolled (cfg : Config) (s : Runtime ρ) : Prop where
  ordered : (asked s.log).Pairwise fun a b => b.future < a.future
  futures : ∀ a ∈ asked s.log, a.future < s.controlFutureCount
  ids : ∀ a ∈ asked s.log, a.id < s.acceptedCount
  submitted : ∀ a ∈ asked s.log, ∃ r, a.command = cfg.submitted r
  gathered : ∀ job ∈ s.live, Gathered cfg s.log job

/-- A step that accepts no request. -/
lemma Enrolled.kept (h : Enrolled cfg s) (hasked : asked t.log = asked s.log)
    (hfutures : s.controlFutureCount ≤ t.controlFutureCount)
    (hids : s.acceptedCount ≤ t.acceptedCount)
    (hlive : ∀ job ∈ t.live, ∃ job' ∈ s.live, SameEntry cfg job' job) : Enrolled cfg t := by
  refine ⟨hasked ▸ h.ordered, ?_, ?_, hasked ▸ h.submitted, ?_⟩
  · intro a ha
    exact (h.futures a (hasked ▸ ha)).trans_le hfutures
  · intro a ha
    exact (h.ids a (hasked ▸ ha)).trans_le hids
  · intro job hjob
    obtain ⟨job', hjob', hsame⟩ := hlive job hjob
    exact (h.gathered job' hjob').congr (askedFor_of_asked hasked) hsame

/-- A step that accepts the request `a` with a new future. -/
lemma Enrolled.extended (h : Enrolled cfg s) {a : Asked} (hasked : asked t.log = a :: asked s.log)
    (hfuture : a.future = s.controlFutureCount)
    (hcount : t.controlFutureCount = s.controlFutureCount + 1)
    (hid : a.id < t.acceptedCount) (hids : s.acceptedCount ≤ t.acceptedCount) {r : Request}
    (hcommand : a.command = cfg.submitted r)
    (hgathered : ∀ job ∈ t.live, Gathered cfg t.log job) : Enrolled cfg t := by
  refine ⟨?_, ?_, ?_, ?_, hgathered⟩
  · rw [hasked, List.pairwise_cons, hfuture]
    exact ⟨h.futures, h.ordered⟩
  · rw [hasked, List.forall_mem_cons, hcount, hfuture]
    exact ⟨Nat.lt_succ_self _, fun b hb => (h.futures b hb).trans (Nat.lt_succ_self _)⟩
  · rw [hasked, List.forall_mem_cons]
    exact ⟨hid, fun b hb => (h.ids b hb).trans_le hids⟩
  · rw [hasked, List.forall_mem_cons]
    exact ⟨⟨r, hcommand⟩, h.submitted⟩

lemma Enrolled.coalesced [Client ρ] (h : Enrolled cfg s) (hs : Scheduled env cfg s) {r : Request}
    (hj : s.coalescingEntry (cfg.submitted r) = some job) :
    Enrolled cfg (s.coalesce env job (cfg.submitted r)) := by
  obtain ⟨hcommand, hkind, hcontrols⟩ := coalescingEntry_eq_some hj
  let a : Asked := ⟨s.controlFutureCount, job.id, cfg.submitted r, s.now env⟩
  have hasked : asked (s.coalesce env job (cfg.submitted r)).log = a :: asked s.log :=
    asked_coalesce
  have hlive : s.live = (s.activeControl.toList ++ s.controls.dropLast) ++ [job] := by
    rw [live, hcontrols]
    simp
  have hmem : job ∈ s.live := by simp [hlive]
  have hold := h.gathered job hmem
  refine h.extended hasked rfl rfl (hs.lt_acceptedCount hmem) le_rfl rfl ?_
  intro job' hjob'
  rcases mem_live_coalesce hjob' with hother | rfl
  · have hlt : job'.id < job.id := by
      have hsorted := hs.sorted
      rw [hlive, List.map_append, List.pairwise_append] at hsorted
      exact hsorted.2.2 _ (List.mem_map_of_mem hother) _ (by simp)
    have hkept := h.gathered job' (hlive ▸ List.mem_append_left _ hother)
    exact hkept.congr (askedFor_cons_of_ne hasked hlt.ne') .refl
  · have hfor : askedFor job.id (s.coalesce env job (cfg.submitted r)).log =
        a :: askedFor job.id s.log := askedFor_cons_self hasked
    refine ⟨?_, ?_, .inr hcommand, ⟨a, ?_, fun _ => rfl⟩, ?_⟩
    · simp [hfor, hold.waiters, a]
    · rw [hfor, List.forall_mem_cons]
      exact ⟨rfl, fun b hb => (hold.kinds b hb).trans (hkind.trans hcommand.symm)⟩
    · rw [hfor]
      rfl
    · obtain ⟨first, hfirst, hdeadline⟩ := hold.deadline
      refine ⟨first, ?_, hdeadline⟩
      rw [hfor, List.getLast?_cons_of_ne_nil (List.ne_nil_of_mem (List.mem_of_getLast? hfirst))]
      exact hfirst

lemma Enrolled.accepted (h : Enrolled cfg s) {r : Request} :
    Enrolled cfg (s.accept env cfg (cfg.submitted r)) := by
  let a : Asked := ⟨s.controlFutureCount, s.acceptedCount, cfg.submitted r, s.now env⟩
  have hasked : asked (s.accept env cfg (cfg.submitted r)).log = a :: asked s.log := asked_accept
  refine h.extended hasked rfl rfl (Nat.lt_succ_self _) (Nat.le_succ _) rfl ?_
  intro job hjob
  rcases mem_live_accept hjob with hold | rfl
  · have hgathered := h.gathered job hold
    obtain ⟨first, hfirst, -⟩ := hgathered.deadline
    obtain ⟨hmem, hid⟩ := mem_askedFor.mp (List.mem_of_getLast? hfirst)
    have hlt : job.id < s.acceptedCount := hid ▸ h.ids first hmem
    exact hgathered.congr (askedFor_cons_of_ne hasked hlt.ne') .refl
  · have hnone : askedFor s.acceptedCount s.log = [] := by
      refine List.filter_eq_nil_iff.mpr ?_
      intro b hb heq
      exact (h.ids b hb).ne (by simpa using heq)
    have hfor : askedFor s.acceptedCount (s.accept env cfg (cfg.submitted r)).log = [a] := by
      rw [← hnone]
      exact askedFor_cons_self hasked
    have hid : (s.newEntry env cfg (cfg.submitted r)).id = s.acceptedCount := rfl
    refine ⟨?_, ?_, ?_, ⟨a, ?_, fun _ => rfl⟩, ⟨a, ?_, rfl⟩⟩ <;> rw [hid, hfor]
    · rfl
    · simp [a, newEntry]
    · exact .inl rfl
    · rfl
    · rfl

variable [Client ρ]

/-- No step takes a number back. -/
lemma counts_of_rule (h : Rule env cfg s e t) :
    s.acceptedCount ≤ t.acceptedCount ∧ s.controlFutureCount ≤ t.controlFutureCount := by
  cases h with
  | coalesced | refused => exact ⟨le_rfl, Nat.le_succ _⟩
  | accepted => exact ⟨Nat.le_succ _, Nat.le_succ _⟩
  | closeBegun =>
    obtain ⟨-, -, -, -, haccepted, -, hcontrol, -⟩ := frame_beginClose (s := s)
    exact ⟨haccepted.ge, hcontrol.ge⟩
  | stateFailed reason r error =>
    have hf : Framed s (s.stateExchangeFailed env cfg reason r error) := framed_stateExchangeFailed
    exact ⟨hf.acceptedCount.ge, hf.controlFutureCount.ge⟩
  | stateDone reason r status =>
    have hf : Framed s (s.stateExchangeDone env cfg reason r status) := framed_stateExchangeDone
    exact ⟨hf.acceptedCount.ge, hf.controlFutureCount.ge⟩
  | attemptsTimedOut job s' hw hs =>
    exact ⟨hs.framed.acceptedCount.ge, hs.framed.controlFutureCount.ge⟩
  | attemptsLeft job failure s' hw hs =>
    exact ⟨hs.framed.acceptedCount.ge, hs.framed.controlFutureCount.ge⟩
  | _ => exact ⟨le_rfl, le_rfl⟩

lemma Enrolled.step (h : Enrolled cfg s) (hs : Scheduled env cfg s) (hrule : Rule env cfg s e t) :
    Enrolled cfg t := by
  obtain ⟨hids, hfutures⟩ := counts_of_rule hrule
  rcases (queueing_of_rule hrule).requests with
    ⟨hasked, hlive⟩ | ⟨r, job, hj, rfl⟩ | ⟨r, rfl⟩
  · exact h.kept hasked hfutures hids hlive
  · exact h.coalesced hs hj
  · exact h.accepted

lemma enrolled_of_reachable (h : Transition.Reachable (step env cfg) {} s) : Enrolled cfg s := by
  refine h.invariant (I := Enrolled cfg) ⟨.nil, by simp [asked], by simp [asked], by simp [asked],
    by simp [live, activeControl]⟩ ?_
  intro s t e hr hs _ hst
  exact hs.step (.of_reachable hr) (.of_step hst)

/-! ### The deadline -/

/-- A worker that is about to make its first attempt has just seen that the runtime is open. -/
def AttemptsOpen (s : Runtime ρ) : Prop :=
  ∀ job, s.worker = some (.attempt job none) → s.closing = false

lemma attemptsOpen_of_reachable (h : Transition.Reachable (step env cfg) {} s) :
    AttemptsOpen s := by
  refine h.invariant (I := AttemptsOpen) (by rintro job ⟨⟩) ?_
  intro s t e hr hs _ hst job ht
  cases Rule.of_step hst with
  | attemptsBegun job' hw => exact ((Scheduled.of_reachable hr).phase _ hw).1
  | closeBegun hi =>
    have hw : s.worker = some (.attempt job none) := frame_beginClose.1.symm.trans ht
    simp [idle, hw, Worker.running] at hi
  | shutdownTimedOut | joinFailed | clientClosed => exact hs job ht
  | setPublisher | alreadyStarted | submitClosed | coalesced | refused | accepted | pollClosed
  | polled | callerCancelled | closeShared => exact hs job ht
  | _ => cases ht

/-- A caller learns that the deadline has expired from the worker, which has read the clock and
found the deadline of the entry passed. -/
lemma expired_of_rule (h : Rule env cfg s e t) (hs : AttemptsOpen s) {f : ℕ}
    (hbefore : s.controlFutures f ≠ .exception deadlineExpired)
    (hafter : t.controlFutures f = .exception deadlineExpired) :
    ∃ job, s.activeControl = some job ∧ f ∈ job.waiters ∧ job.deadline ≤ s.now env := by
  have hsettled : ∀ {waiters outcome}, outcome ≠ .exception deadlineExpired →
      t.controlFutures ≠ Future.settle waiters outcome s.controlFutures := by
    intro waiters outcome hne heq
    rw [heq] at hafter
    exact hne (Future.mem_of_settle hafter hbefore).2
  have hcreated : ∀ {state}, state ≠ .exception deadlineExpired →
      t.controlFutures ≠ Function.update s.controlFutures s.controlFutureCount state := by
    intro state hne heq
    rw [heq] at hafter
    by_cases hf : f = s.controlFutureCount
    · rw [hf, Function.update_self] at hafter
      exact hne hafter
    · rw [Function.update_of_ne hf] at hafter
      exact hbefore hafter
  cases h with
  | coalesced | refused | accepted => exact absurd rfl (hcreated (by simp))
  | callerCancelled => exact absurd rfl (hsettled (by simp))
  | closeBegun => exact absurd controlFutures_beginClose (hsettled (by simp))
  | joined => exact absurd rfl (hsettled (by simp))
  | stateFailed reason r error =>
    have hsame : (s.stateExchangeFailed env cfg reason r error).controlFutures =
        s.controlFutures := controlFutures_answerPolls
    exact absurd (hsame ▸ hafter) hbefore
  | stateDone reason r status =>
    have hsame : (s.stateExchangeDone env cfg reason r status).controlFutures =
        s.controlFutures := controlFutures_answerPolls
    exact absurd (hsame ▸ hafter) hbefore
  | controlExpired job hw hlive hd =>
    exact ⟨job, activeControl_of_worker hw, (Future.mem_of_settle hafter hbefore).1, hd⟩
  | volumeGetFailed => exact absurd rfl (hsettled (by simp [deadlineExpired]))
  | attemptsTimedOut job s' hw hleft =>
    have hmem : f ∈ job.waiters := by
      refine (Future.mem_of_settle hafter ?_).1
      show s'.controlFutures f ≠ _
      rwa [hleft.controlFutures]
    cases hleft with
    | closing hc =>
      rw [hs job hw] at hc
      cases hc
    | expired hc hd => exact ⟨job, activeControl_of_worker hw, hmem, hd⟩
  | attemptsLeft job failure s' hw hleft =>
    have hfailed : (s'.controlFailed env cfg job failure).controlFutures =
        Future.settle job.waiters (.exception (.lsx failure.error)) s.controlFutures := by
      rw [← hleft.controlFutures]
      rfl
    exact absurd hfailed (hsettled (by simp [deadlineExpired]))
  | setRejected | secondFailed => exact absurd rfl (hsettled (by simp [deadlineExpired]))
  | setAcknowledged => exact absurd rfl (hsettled (by simp))
  | _ => exact absurd hafter hbefore

omit [Client ρ] in
/-- A future belongs to one request. -/
lemma Enrolled.eq_of_future (h : Enrolled cfg s) {a b : Asked} (ha : a ∈ asked s.log)
    (hb : b ∈ asked s.log) (heq : b.future = a.future) : b = a := by
  have hnodup : ((asked s.log).map Asked.future).Nodup :=
    List.pairwise_map.mpr (h.ordered.imp fun hlt => hlt.ne')
  exact List.inj_on_of_nodup_map hnodup hb ha heq

omit [Client ρ] in
/-- An entry that requests share sets the volume. -/
lemma Gathered.kind_of_ne {log : List (Obs ρ)} (h : Gathered cfg log job) {a b : Asked}
    (ha : a ∈ askedFor job.id log) (hb : b ∈ askedFor job.id log) (hne : a ≠ b) :
    job.command.kind = .setVolume := by
  refine h.shared.resolve_left fun htail => hne ?_
  cases hall : askedFor job.id log with
  | nil => simp [hall] at ha
  | cons newest older =>
    rw [hall, List.tail_cons] at htail
    simp only [hall, htail, List.mem_singleton] at ha hb
    exact ha.trans hb.symm

/-- A caller receives the `TimeoutError` of an expired deadline only when the time since the first
request of its entry is at least the budget of a control. That is its own request, unless it is a
set_volume that was merged. -/
theorem entry_gets_deadline (h : Transition.Reachable (step env cfg) {} s)
    (hst : step env cfg s e = some t) {f : ℕ}
    (hbefore : s.controlFutures f ≠ .exception deadlineExpired)
    (hafter : t.controlFutures f = .exception deadlineExpired) :
    ∃ a ∈ asked s.log, a.future = f ∧ (∀ b ∈ asked s.log, b.future = f → b = a) ∧
      ∃ first ∈ (askedFor a.id s.log).getLast?,
        first.time + cfg.timing.controlDeadline ≤ s.now env ∧
        (a ≠ first → a.command.kind = .setVolume) := by
  have henrolled : Enrolled cfg s := enrolled_of_reachable h
  obtain ⟨job, hactive, hmem, hd⟩ :=
    expired_of_rule (.of_step hst) (attemptsOpen_of_reachable h) hbefore hafter
  have hgathered := henrolled.gathered job (mem_live_of_active hactive)
  have hfuture : f ∈ (askedFor job.id s.log).map Asked.future := by
    rw [hgathered.waiters]
    exact List.mem_reverse.mpr hmem
  obtain ⟨a, ha, rfl⟩ := List.mem_map.mp hfuture
  obtain ⟨hasked, hid⟩ := mem_askedFor.mp ha
  obtain ⟨first, hfirst, hdeadline⟩ := hgathered.deadline
  rw [hdeadline] at hd
  refine ⟨a, hasked, rfl, fun b hb => henrolled.eq_of_future hasked hb, first, hid ▸ hfirst, hd, ?_⟩
  intro hne
  rw [hgathered.kinds a ha]
  exact hgathered.kind_of_ne ha (List.mem_of_getLast? hfirst) hne

/-- Two set_volume behind a turn_on: when their entry is selected its deadline has passed, which is
eight seconds after the first of them. -/
theorem entry_gets_deadline_setVolume : ∃ (s t : Runtime Transcript) (a first : Asked),
    Transition.Reachable (step .slow .ofOptions) {} s ∧ step .slow .ofOptions s .run = some t ∧
    t.controlFutures 1 = .exception deadlineExpired ∧ a ∈ asked s.log ∧ a.future = 1 ∧
    (askedFor a.id s.log).getLast? = some first ∧ first.time + 8 ≤ s.now .slow := by
  have hrun : (Transition.run (step .slow .ofOptions)
      [.start, .run, .run, .submit .turnOn, .submit (.setVolume (1 / 10)),
        .reply (Transcript.source 0x0B), .run, .run, .run, .submit (.setVolume (1 / 5)),
        .reply (Transcript.status 0x11), .run] ({} : Runtime Transcript)).any
      (fun s => s.controlFutures 1 = .pending ∧
        (step .slow .ofOptions s .run).any fun t =>
          t.controlFutures 1 = .exception deadlineExpired) = true := by
    decide +kernel
  obtain ⟨s, hs, hs'⟩ := Transition.exists_reachable_of_run hrun
  obtain ⟨hpending, hstep⟩ := of_decide_eq_true hs'
  obtain ⟨t, hst, ht⟩ := (Option.any_eq_true _ _).mp hstep
  have hbefore : s.controlFutures 1 ≠ .exception deadlineExpired := by simp [hpending]
  have hafter := of_decide_eq_true ht
  obtain ⟨a, ha, hfuture, -, first, hfirst, htime, -⟩ :=
    entry_gets_deadline hs hst hbefore hafter
  exact ⟨s, t, a, first, hs, hst, hafter, ha, hfuture, hfirst, htime⟩

/-- The second of them was submitted four seconds ago, and expires all the same. -/
theorem not_request_gets_deadline : ∃ (s t : Runtime Transcript) (a : Asked),
    Transition.Reachable (step .slow .ofOptions) {} s ∧ step .slow .ofOptions s .run = some t ∧
    a ∈ asked s.log ∧ s.controlFutures a.future = .pending ∧
    t.controlFutures a.future = .exception deadlineExpired ∧
    ¬ a.time + Config.ofOptions.timing.controlDeadline ≤ s.now .slow := by
  let a : Asked := ⟨2, 1, .setVolume 20, 11⟩
  have hrun : (Transition.run (step .slow .ofOptions)
      [.start, .run, .run, .submit .turnOn, .submit (.setVolume (1 / 10)),
        .reply (Transcript.source 0x0B), .run, .run, .run, .submit (.setVolume (1 / 5)),
        .reply (Transcript.status 0x11), .run] ({} : Runtime Transcript)).any
      (fun s => ⟨2, 1, .setVolume 20, 11⟩ ∈ asked s.log ∧ s.controlFutures 2 = .pending ∧
        ¬ 11 + Config.ofOptions.timing.controlDeadline ≤ s.now .slow ∧
        (step .slow .ofOptions s .run).any fun t =>
          t.controlFutures 2 = .exception deadlineExpired) = true := by
    decide +kernel
  obtain ⟨s, hs, hs'⟩ := Transition.exists_reachable_of_run hrun
  obtain ⟨hasked, hpending, htime, hstep⟩ := of_decide_eq_true hs'
  obtain ⟨t, hst, ht⟩ := (Option.any_eq_true _ _).mp hstep
  exact ⟨s, t, a, hs, hst, hasked, hpending, of_decide_eq_true ht, htime⟩

/-! ### The command that is written -/

/-- On some cached state, this is the request of the command. -/
def Carries (cfg : Config) (request : List UInt8) (command : Command) : Prop :=
  ∃ speaker, cfg.request speaker command = .ok request

/-- Every SET carries the newest request of its entry. -/
def Written (cfg : Config) (s : Runtime ρ) : Prop :=
  ∀ id, ∀ call ∈ sets id s.log, ∃ kind attempt request newest,
    call = .set id kind attempt request ∧ (askedFor id s.log).head? = some newest ∧
      Carries cfg request newest.command

omit [Client ρ] in
lemma Enrolled.carries (h : Enrolled cfg s) (hjob : job ∈ s.live) {request : List UInt8}
    (hq : cfg.request s.snapshot.speaker job.command = .ok request) :
    ∃ newest, (askedFor job.id s.log).head? = some newest ∧
      Carries cfg request newest.command := by
  obtain ⟨newest, hnewest, hrequest⟩ := (h.gathered job hjob).newest
  exact ⟨newest, hnewest, s.snapshot.speaker, (hrequest _).symm.trans hq⟩

omit [Client ρ] in
/-- The requests of one entry carry one value only if they are alike. -/
lemma Gathered.command_unique {log : List (Obs ρ)} (h : Gathered cfg log job) {a b : Asked}
    (ha : a ∈ askedFor job.id log) (hb : b ∈ askedFor job.id log) {request : List UInt8}
    (hcarries : Carries cfg request a.command) (hcarries' : Carries cfg request b.command) :
    a.command = b.command := by
  rcases eq_or_ne a b with rfl | hne
  · rfl
  have hkind := h.kind_of_ne ha hb hne
  obtain ⟨value, hvalue⟩ := exists_setVolume ((h.kinds a ha).trans hkind)
  obtain ⟨value', hvalue'⟩ := exists_setVolume ((h.kinds b hb).trans hkind)
  rw [hvalue] at hcarries ⊢
  rw [hvalue'] at hcarries' ⊢
  obtain ⟨speaker, hq⟩ := hcarries
  obtain ⟨speaker', hq'⟩ := hcarries'
  rw [(encodeSetVolume_inj hq hq').1]

/-- An entry that is merged into has no SET yet, and neither has a new one. -/
lemma askedFor_of_sets (hs : Scheduled env cfg s) (hqueue : Queueing env cfg s e t) {id : ℕ}
    (hsets : sets id s.log ≠ []) : askedFor id t.log = askedFor id s.log := by
  rcases hqueue.requests with ⟨hasked, -⟩ | ⟨r, job, hj, rfl⟩ | ⟨r, rfl⟩
  · exact askedFor_of_asked hasked
  · refine askedFor_cons_of_ne asked_coalesce ?_
    rintro rfl
    exact hsets (hs.queued job (mem_controls_of_coalescing hj)).untried.sets
  · refine askedFor_cons_of_ne asked_accept ?_
    rintro rfl
    exact hsets (nil_of_unmentioned fun o ho hid => (hs.subjects o ho _ hid).false).1

lemma Written.step (h : Written cfg s) (hs : Scheduled env cfg s) (henrolled : Enrolled cfg s)
    (hrule : Rule env cfg s e t) : Written cfg t := by
  intro id call hcall
  rcases calls_of_rule hrule with hcalls | ⟨reads, call', remaining, hstarts, hlog⟩
  · rw [sets_eq_of_calls hcalls] at hcall
    rw [askedFor_of_sets hs (queueing_of_rule hrule) (List.ne_nil_of_mem hcall)]
    exact h id call hcall
  · have hasked : askedFor id t.log = askedFor id s.log := by
      rw [hlog]
      exact askedFor_of_asked (asked_cons_of_quiet rfl)
    rw [hasked]
    obtain ⟨hmem, kind, attempt, request, rfl⟩ := mem_sets.mp hcall
    have hcalls : calls t.log = call' :: calls s.log := by
      rw [hlog]
      rfl
    rcases List.mem_cons.mp (hcalls ▸ hmem) with rfl | hold
    · cases hstarts with
      | set job failure request hw hc hq =>
        have hactive := activeControl_of_worker hw
        obtain ⟨newest, hnewest, hcarries⟩ := henrolled.carries (mem_live_of_active hactive) hq
        exact ⟨_, _, request, newest, rfl, hnewest, hcarries⟩
    · exact h id _ (mem_sets.mpr ⟨hold, kind, attempt, request, rfl⟩)

lemma written_of_reachable (h : Transition.Reachable (step env cfg) {} s) : Written cfg s := by
  refine h.invariant (I := Written cfg) (by simp [Written, sets, calls]) ?_
  intro s t e hr hs _ hst
  exact hs.step (.of_reachable hr) (enrolled_of_reachable hr) (.of_step hst)

/-! ### From the selection on -/

/-- The entry `id` has been selected: it takes no more requests, and may only be in the queue again
after its volume GET. -/
structure Selected (id : ℕ) (entry : List Asked) (s : Runtime ρ) : Prop where
  asked : askedFor id s.log = entry
  accepted : id < s.acceptedCount
  queued : ∀ job ∈ s.controls, job.id = id → job.command.kind.isRelative = true

/-- The entry `id` is done with, and was never written. -/
structure Retired (id : ℕ) (s : Runtime ρ) : Prop where
  accepted : id < s.acceptedCount
  live : ∀ job ∈ s.live, job.id ≠ id
  sets : sets id s.log = []

/-- A volume GET serves a relative command. -/
lemma isRelative_of_volumeGet (h : Scheduled env cfg s)
    (hw : s.worker = some (.volumeGet job)) : job.command.kind.isRelative = true := by
  obtain ⟨-, -, hhead⟩ := h.phase _ hw
  obtain ⟨later, reads, remaining, earlier, hlog⟩ :=
    append_of_mem_calls (List.mem_of_head? hhead)
  have hstart : StartOk env reads (.volumeGet job.id job.command.kind) earlier :=
    History.each_iff.mp h.entries _ _ _ hlog
  exact (hstart.volumeGet _ _ rfl).1

lemma Selected.step {id : ℕ} {entry : List Asked} (h : Selected id entry s)
    (hs : Scheduled env cfg s) (hrule : Rule env cfg s e t) : Selected id entry t := by
  have hids := h.accepted.trans_le (counts_of_rule hrule).1
  have hqueue : Queueing env cfg s e t := queueing_of_rule hrule
  cases hqueue with
  | kept hcontrols hactive hasked =>
    exact ⟨(askedFor_of_asked hasked).trans h.asked, hids, hcontrols ▸ h.queued⟩
  | merged r job he hi hc hj ht =>
    subst ht
    have hne : job.id ≠ id := by
      intro heq
      have hrel := h.queued job (mem_controls_of_coalescing hj) heq
      rw [(coalescingEntry_eq_some hj).2.1] at hrel
      cases hrel
    refine ⟨(askedFor_cons_of_ne asked_coalesce hne).trans h.asked, hids, ?_⟩
    intro job' hjob' heq
    rcases List.mem_append.mp hjob' with hold | hmerged
    · exact h.queued job' (List.dropLast_subset _ hold) heq
    · obtain rfl := List.mem_singleton.mp hmerged
      exact absurd heq hne
  | accepted r he hi hc hfree ht =>
    subst ht
    refine ⟨(askedFor_cons_of_ne asked_accept h.accepted.ne').trans h.asked, hids, ?_⟩
    intro job' hjob' heq
    rcases List.mem_append.mp hjob' with hold | hnew
    · exact h.queued job' hold heq
    · obtain rfl := List.mem_singleton.mp hnew
      exact absurd heq h.accepted.ne'
  | cleared he hcontrols hworker hasked =>
    exact ⟨(askedFor_of_asked hasked).trans h.asked, hids, by simp [hcontrols]⟩
  | selected job rest hw hc hq hcontrols hw' hasked =>
    refine ⟨(askedFor_of_asked hasked).trans h.asked, hids, ?_⟩
    intro job' hjob'
    apply h.queued
    rw [hq]
    exact List.mem_cons_of_mem _ (hcontrols ▸ hjob')
  | returned job r he hw hcontrols hw' hclosing hasked =>
    refine ⟨(askedFor_of_asked hasked).trans h.asked, hids, ?_⟩
    rw [hcontrols, List.forall_mem_cons]
    exact ⟨fun _ => isRelative_of_volumeGet hs hw, h.queued⟩

lemma Retired.step {id : ℕ} (h : Retired id s) (hrule : Rule env cfg s e t) : Retired id t := by
  refine ⟨h.accepted.trans_le (counts_of_rule hrule).1, ?_, ?_⟩
  · intro job hjob
    rcases (queueing_of_rule hrule).requests with ⟨-, hlive⟩ | ⟨r, job', hj, rfl⟩ | ⟨r, rfl⟩
    · obtain ⟨job', hjob', hsame⟩ := hlive job hjob
      exact hsame.id ▸ h.live job' hjob'
    · rcases mem_live_coalesce hjob with hold | rfl
      · refine h.live job (List.mem_append.mpr ?_)
        exact (List.mem_append.mp hold).imp_right fun hmem => List.dropLast_subset _ hmem
      · exact h.live job' (mem_live_of_queued (mem_controls_of_coalescing hj))
    · rcases mem_live_accept hjob with hold | rfl
      · exact h.live job hold
      · exact h.accepted.ne'
  · rcases calls_of_rule hrule with hcalls | ⟨reads, call, remaining, hstarts, hlog⟩
    · exact (sets_eq_of_calls hcalls).trans h.sets
    · rw [hlog, sets_cons_of_ne, h.sets]
      intro kind attempt request hcall
      cases hcall
      cases hstarts with
      | set job failure request hw =>
        exact h.live job (mem_live_of_active (activeControl_of_worker hw)) rfl

/-- An entry is selected while it is the only one of its number. -/
lemma selected_of_control (hs : Scheduled env cfg s) (hw : s.worker = some (.control job)) :
    Selected job.id (askedFor job.id s.log) s := by
  have hactive := activeControl_of_worker hw
  refine ⟨rfl, hs.lt_acceptedCount (mem_live_of_active hactive), ?_⟩
  intro job' hjob' heq
  exact absurd heq (hs.active_lt hactive hjob').ne'

/-- If all its callers have been cancelled, the entry is skipped. -/
lemma skipped_of_step (hw : s.worker = some (.control job))
    (hall : ∀ f ∈ job.waiters, (s.controlFutures f).isCancelled = true)
    (hst : step env cfg s e = some t) :
    t = (s.record (·.emit (.skipped job.id))).goto .loop := by
  have hskip : (job.waiters.all fun f => (s.controlFutures f).isCancelled) = true := by
    simpa using hall
  cases e with
  | run =>
    simp only [Runtime.step, hw, stepRun, asyncControl, hskip, if_true, Option.some.injEq] at hst
    exact hst.symm
  | reply => simp [Runtime.step, hw, stepReply] at hst
  | cancelled => simp [Runtime.step, hw, Worker.running] at hst
  | _ => simp [Runtime.step, hw, idle, Worker.running] at hst

lemma retired_of_skipped (hs : Scheduled env cfg s) (hw : s.worker = some (.control job)) :
    Retired job.id ((s.record (·.emit (.skipped job.id))).goto .loop) := by
  have hactive := activeControl_of_worker hw
  refine ⟨hs.lt_acceptedCount (mem_live_of_active hactive), ?_, ?_⟩
  · intro job' hjob'
    exact (hs.active_lt hactive hjob').ne'
  · have hsets := (hs.phase _ hw).2.sets
    rwa [← sets_eq_of_calls rfl] at hsets

/-- Nothing is ever written for an entry that is skipped. -/
lemma sets_eq_nil_of_cancelled (h : Transition.Reachable (step env cfg) {} s)
    (hw : s.worker = some (.control job))
    (hall : ∀ f ∈ job.waiters, (s.controlFutures f).isCancelled = true)
    (hu : Transition.Reachable (step env cfg) s u) : sets job.id u.log = [] := by
  have hs : Scheduled env cfg s := .of_reachable h
  have hretired : u = s ∨ Retired job.id u := by
    refine hu.invariant (I := fun u => u = s ∨ Retired job.id u) (.inl rfl) ?_
    rintro u v e - hor - hst
    rcases hor with rfl | hret
    · exact .inr (skipped_of_step hw hall hst ▸ retired_of_skipped hs hw)
    · exact .inr (hret.step (.of_step hst))
  rcases hretired with rfl | hret
  · exact (hs.phase _ hw).2.sets
  · exact hret.sets

/-- What is written for a selected entry is the newest request that it has gathered. -/
lemma carries_newest_of_set (h : Transition.Reachable (step env cfg) {} s)
    (hw : s.worker = some (.control job)) {newest : Asked}
    (hnewest : (askedFor job.id s.log).head? = some newest)
    (hu : Transition.Reachable (step env cfg) s u) {kind : ControlKind} {attempt : ℕ}
    {request : List UInt8} (hset : .set job.id kind attempt request ∈ sets job.id u.log) :
    Carries cfg request newest.command := by
  have hselected : Selected job.id (askedFor job.id s.log) u := by
    refine hu.invariant (I := Selected job.id (askedFor job.id s.log))
      (selected_of_control (.of_reachable h) hw) ?_
    intro v v' e hv hsel _ hst
    exact hsel.step (.of_reachable (h.trans hv)) (.of_step hst)
  obtain ⟨_, _, _, newest', heq, hnewest', hcarries⟩ :=
    written_of_reachable (h.trans hu) job.id _ hset
  cases heq
  rw [hselected.asked, hnewest, Option.some.injEq] at hnewest'
  rwa [hnewest']

/-- The SET carries the request that is wanted, and that of no caller who was cancelled at the
selection, unless it is the same. -/
def Honours (cfg : Config) (s : Runtime ρ) (job : Control) (request : List UInt8)
    (wanted : Asked) : Prop :=
  Carries cfg request wanted.command ∧ ∀ a ∈ askedFor job.id s.log,
    (s.controlFutures a.future).isCancelled = true → Carries cfg request a.command →
      a.command = wanted.command

/-- The worker has selected an entry. If all callers of it have been cancelled, it is skipped and
nothing is ever written for it. Otherwise every SET that is written for it carries the newest
request whose caller has not been cancelled, and no other one of a cancelled caller, exactly if
that request is for the same as the newest one of all. -/
theorem written_iff_newest (h : Transition.Reachable (step env cfg) {} s)
    (hw : s.worker = some (.control job)) :
    ((∀ f ∈ job.waiters, (s.controlFutures f).isCancelled = true) →
      (∀ e t, step env cfg s e = some t → t.log = .skipped job.id :: s.log) ∧
      ∀ u, Transition.Reachable (step env cfg) s u → sets job.id u.log = []) ∧
    ((∃ f ∈ job.waiters, (s.controlFutures f).isCancelled = false) →
      ∃ newest wanted, (askedFor job.id s.log).head? = some newest ∧
        (askedFor job.id s.log).find? (fun a => !(s.controlFutures a.future).isCancelled) =
          some wanted ∧
        ∀ u, Transition.Reachable (step env cfg) s u → ∀ kind attempt request,
          .set job.id kind attempt request ∈ sets job.id u.log →
            (Honours cfg s job request wanted ↔ wanted.command = newest.command)) := by
  have hactive := activeControl_of_worker hw
  have hgathered := (enrolled_of_reachable h).gathered job (mem_live_of_active hactive)
  constructor
  · intro hall
    refine ⟨fun e t hst => ?_, fun u => sets_eq_nil_of_cancelled h hw hall⟩
    rw [skipped_of_step hw hall hst]
    rfl
  · rintro ⟨f, hf, hlive⟩
    obtain ⟨newest, hnewest, -⟩ := hgathered.newest
    have hfuture : f ∈ (askedFor job.id s.log).map Asked.future := by
      rw [hgathered.waiters]
      exact List.mem_reverse.mpr hf
    obtain ⟨a, ha, rfl⟩ := List.mem_map.mp hfuture
    have hsome : ((askedFor job.id s.log).find?
        fun a => !(s.controlFutures a.future).isCancelled).isSome = true := by
      rw [List.find?_isSome]
      exact ⟨a, ha, by simp [hlive]⟩
    obtain ⟨wanted, hwanted⟩ := Option.isSome_iff_exists.mp hsome
    refine ⟨newest, wanted, hnewest, hwanted, ?_⟩
    intro u hu kind attempt request hset
    have hcarries := carries_newest_of_set h hw hnewest hu hset
    have hmem := List.mem_of_head? hnewest
    have hmem' := List.mem_of_find?_eq_some hwanted
    constructor
    · rintro ⟨hwants, -⟩
      exact hgathered.command_unique hmem' hmem hwants hcarries
    · intro hsame
      refine ⟨hsame ▸ hcarries, ?_⟩
      intro b hb _ hcarries'
      rw [hsame]
      exact hgathered.command_unique hb hmem hcarries' hcarries

/-- Of two set_volume that share an entry, the caller of the first is cancelled: the second is
written. -/
theorem written_iff_newest_first : ∃ (s u : Runtime Transcript) (job : Control) (wanted : Asked),
    Transition.Reachable (step .ticking .ofOptions) {} s ∧ s.worker = some (.control job) ∧
    Transition.Reachable (step .ticking .ofOptions) s u ∧
    wanted.command = .setVolume 20 ∧ .set 0 .setVolume 0 [83, 37, 129, 20] ∈ sets 0 u.log ∧
    Honours .ofOptions s job [83, 37, 129, 20] wanted := by
  let first : Asked := ⟨0, 0, .setVolume 10, 2 / 100⟩
  let second : Asked := ⟨1, 0, .setVolume 20, 3 / 100⟩
  let job : Control := ⟨0, .setVolume 20, 802 / 100, [0, 1],
    { id := 0, command := .setVolume, submittedAt := 0 }⟩
  have hrun : (Transition.run (step .ticking .ofOptions)
      [.start, .run, .run, .submit (.setVolume (1 / 10)), .submit (.setVolume (1 / 5)),
        .cancelCaller 0, .reply (Transcript.source 0x0B), .run] ({} : Runtime Transcript)).any
      (fun s => s.worker = some (.control job) ∧ askedFor 0 s.log = [second, first] ∧
        s.controlFutures 1 = .pending ∧
        (Transition.run (step .ticking .ofOptions) [.run, .run] s).any fun u =>
          .set 0 .setVolume 0 [83, 37, 129, 20] ∈ sets 0 u.log) = true := by
    decide +kernel
  obtain ⟨s, hs, hs'⟩ := Transition.exists_reachable_of_run hrun
  obtain ⟨hw, hasked, hpending, hrun'⟩ := of_decide_eq_true hs'
  obtain ⟨u, hu, hu'⟩ := Transition.exists_reachable_of_run hrun'
  have hset := of_decide_eq_true hu'
  have hlive : ∃ f ∈ job.waiters, (s.controlFutures f).isCancelled = false :=
    ⟨1, by decide, by rw [hpending]; rfl⟩
  obtain ⟨newest, wanted, hnewest, hwanted, hiff⟩ := (written_iff_newest hs hw).2 hlive
  have hsecond : newest = second := by
    rw [hasked] at hnewest
    exact (Option.some.inj hnewest).symm
  have hsecond' : wanted = second := by
    rw [hasked, List.find?_cons_of_pos (by rw [hpending]; rfl)] at hwanted
    exact (Option.some.inj hwanted).symm
  have hsame : wanted.command = newest.command := by rw [hsecond, hsecond']
  exact ⟨s, u, job, wanted, hs, hw, hu, hsecond' ▸ rfl, hset, (hiff u hu _ _ _ hset).mpr hsame⟩

/-- The caller of the second is cancelled, and the second is written: nothing that the other caller
asked for. -/
theorem not_written_newest_cancelled : ∃ (s u : Runtime Transcript) (job : Control)
    (first second : Asked),
    Transition.Reachable (step .ticking .ofOptions) {} s ∧ s.worker = some (.control job) ∧
    askedFor job.id s.log = [second, first] ∧ s.controlFutures first.future = .pending ∧
    s.controlFutures second.future = .cancelled ∧
    Transition.Reachable (step .ticking .ofOptions) s u ∧
    ∃ request, .set job.id .setVolume 0 request ∈ sets job.id u.log ∧
      Carries .ofOptions request second.command ∧ ¬ Carries .ofOptions request first.command := by
  let first : Asked := ⟨0, 0, .setVolume 10, 2 / 100⟩
  let second : Asked := ⟨1, 0, .setVolume 20, 3 / 100⟩
  let job : Control := ⟨0, .setVolume 20, 802 / 100, [0, 1],
    { id := 0, command := .setVolume, submittedAt := 0 }⟩
  have hrun : (Transition.run (step .ticking .ofOptions)
      [.start, .run, .run, .submit (.setVolume (1 / 10)), .submit (.setVolume (1 / 5)),
        .cancelCaller 1, .reply (Transcript.source 0x0B), .run] ({} : Runtime Transcript)).any
      (fun s => s.worker = some (.control job) ∧ askedFor 0 s.log = [second, first] ∧
        s.controlFutures 0 = .pending ∧ s.controlFutures 1 = .cancelled ∧
        (Transition.run (step .ticking .ofOptions) [.run, .run] s).any fun u =>
          .set 0 .setVolume 0 [83, 37, 129, 20] ∈ sets 0 u.log) = true := by
    decide +kernel
  obtain ⟨s, hs, hs'⟩ := Transition.exists_reachable_of_run hrun
  obtain ⟨hw, hasked, hpending, hcancelled, hrun'⟩ := of_decide_eq_true hs'
  obtain ⟨u, hu, hu'⟩ := Transition.exists_reachable_of_run hrun'
  have hwritten : encodeSetVolume 20 false = .ok [83, 37, 129, 20] := by decide +kernel
  refine ⟨s, u, job, first, second, hs, hw, hasked, hpending, hcancelled, hu, _,
    of_decide_eq_true hu', ⟨{}, hwritten⟩, ?_⟩
  rintro ⟨speaker, hq⟩
  exact absurd (encodeSetVolume_inj hq hwritten).1 (by decide)

end Runtime

end KefLsx
