import KefLsx.Runtime.Accounting
import KefLsx.Runtime.Agreement
import KefLsx.Runtime.Coalescing
import KefLsx.Runtime.Plan

/-!
# What the callers are told

A caller of a command awaits a future of its own, and requests that share an entry have one each.
Whatever a future comes to hold is about the entry of its request: a snapshot is the one that was
published with the acknowledgement of this entry, and shows what its newest request brings about;
an error is the one that the entry was completed with. Nobody is left waiting for an entry that
was completed, and nobody's future is cancelled who was not, before the shutdown.
-/

namespace KefLsx

/-- The error that the callers get, if any. -/
def Outcome.error? : Outcome → Option ControlError
  | .acknowledged => none
  | .failed e => some (.lsx e)
  | .timedOut | .expired => some deadlineExpired

namespace Log

variable {ρ : Type} {log : List (Obs ρ)}

/-- A completed entry has ended. -/
lemma ended_of_mem_completions {id : ℕ} (h : id ∈ (Runtime.completions log).map Prod.fst) :
    Ended id log := by
  obtain ⟨⟨id', outcome, result⟩, hmem, rfl⟩ := List.mem_map.mp h
  obtain ⟨o, ho, heq⟩ := List.mem_filterMap.mp hmem
  cases o with
  | completed =>
    cases heq
    exact ⟨_, ho, rfl⟩
  | _ => cases heq

end Log

namespace Runtime

open Log

variable {ρ : Type} {env : Env} {cfg : Config} {s t : Runtime ρ} {e : Event ρ}

/-! ### What a step does to the futures -/

/-- What the callers of an entry are told when it is completed. -/
inductive Tells (cfg : Config) (s t : Runtime ρ) (job : Control) : Outcome → CommandResult →
    Future.State RuntimeSnapshot ControlError → Prop where
  | acknowledged (result : CommandResult) (first : Option Failure) (request : List UInt8)
      (hw : s.worker = some (.setting job first request))
      (hlast : t.snapshot.lastCommand = some result)
      (hspeaker : t.snapshot.speaker = cfg.expectedState s.snapshot.speaker job.command)
      (hpublished : s.publisher = true → t.published = some t.snapshot) :
      Tells cfg s t job .acknowledged result (.result t.snapshot)
  | failed (outcome : Outcome) (error : ControlError) (time : DateTime) (attempted : Bool)
      (herror : outcome.error? = some error) :
      Tells cfg s t job outcome (job.failedResult time error attempted) (.exception error)

/-- Why a step may cancel the future of a caller. -/
def Withdraws (e : Event ρ) (t : Runtime ρ) (f : ℕ) : Prop :=
  e = .cancelCaller f ∨ t.closing = true

/-- A step completes nothing, and cancels at most, or completes the active entry and tells all its
callers. -/
inductive Settling (cfg : Config) (s : Runtime ρ) (e : Event ρ) (t : Runtime ρ) : Prop where
  | none (hdone : completions t.log = completions s.log)
      (hfutures : ∀ f < s.controlFutureCount, t.controlFutures f = s.controlFutures f ∨
        t.controlFutures f = .cancelled ∧ Withdraws e t f)
  | completed (job : Control) (outcome : Outcome) (result : CommandResult)
      (told : Future.State RuntimeSnapshot ControlError) (hactive : s.activeControl = some job)
      (hdone : completions t.log = (job.id, outcome, result) :: completions s.log)
      (hfutures : t.controlFutures = Future.settle job.waiters told s.controlFutures)
      (htells : Tells cfg s t job outcome result told)

lemma settle_cancelled {waiters : List ℕ} {f : ℕ} (hwithdraws : f ∈ waiters → Withdraws e t f) :
    Future.settle waiters .cancelled s.controlFutures f = s.controlFutures f ∨
      Future.settle waiters .cancelled s.controlFutures f = .cancelled ∧ Withdraws e t f := by
  unfold Future.settle
  split
  · rename_i hmem
    exact .inr ⟨rfl, hwithdraws hmem.1⟩
  · exact .inl rfl

/-- A new future is none of the old ones. -/
lemma update_new {state : Future.State RuntimeSnapshot ControlError} {f : ℕ}
    (hf : f < s.controlFutureCount) :
    Function.update s.controlFutures s.controlFutureCount state f = s.controlFutures f :=
  Function.update_of_ne hf.ne _ _

variable [Client ρ]

lemma settling_of_rule (h : Rule env cfg s e t)
    (hclose : s.closeTask ≠ .notStarted → s.closing = true) : Settling cfg s e t := by
  have hsame (hdone : completions t.log = completions s.log)
      (hfutures : t.controlFutures = s.controlFutures) : Settling cfg s e t :=
    .none hdone fun f _ => .inl (congrFun hfutures f)
  have hfailed {s' : Runtime ρ} {job : Control} {failure : Failure}
      (ht : t = s'.controlFailed env cfg job failure) (hactive : s.activeControl = some job)
      (hdone : completions s'.log = completions s.log)
      (hfutures : s'.controlFutures = s.controlFutures) : Settling cfg s e t := by
    subst ht
    refine .completed job (.failed failure.error) _ (.exception (.lsx failure.error)) hactive
      (hdone ▸ completions_controlFailed) ?_ (.failed _ _ (s'.wall env) failure.attempted rfl)
    rw [← hfutures]
    rfl
  cases h with
  | coalesced | refused | accepted => exact .none rfl fun f hf => .inl (update_new hf)
  | callerCancelled =>
    refine .none rfl fun f _ => settle_cancelled fun hmem => .inl ?_
    rw [List.mem_singleton.mp hmem]
  | closeBegun =>
    obtain ⟨-, hlog, -, hclosing, -⟩ := frame_beginClose (s := s)
    refine .none (hlog ▸ rfl) fun f _ => ?_
    rw [controlFutures_beginClose]
    exact settle_cancelled fun _ => .inr hclosing
  | joined _ _ _ hct =>
    have hclosing : s.closing = true := hclose (by rcases hct with hct | hct <;> simp [hct])
    exact .none rfl fun f _ => settle_cancelled fun _ => .inr hclosing
  | stateFailed =>
    exact hsame ((completions_of_noted noted_stateExchangeFailed).trans rfl)
      controlFutures_answerPolls
  | stateDone =>
    exact hsame ((completions_of_noted noted_stateExchangeDone).trans rfl)
      controlFutures_answerPolls
  | controlExpired job hw =>
    exact .completed job .expired _ (.exception deadlineExpired) (activeControl_of_worker hw) rfl
      rfl (.failed .expired deadlineExpired _ _ rfl)
  | volumeGetFailed job r error hw =>
    exact .completed job (.failed error) _ (.exception (.lsx error)) (activeControl_of_worker hw)
      rfl rfl (.failed (.failed error) (.lsx error) _ _ rfl)
  | attemptsTimedOut job s' hw hs =>
    refine .completed job .timedOut (job.failedResult (s'.wall env) deadlineExpired false)
      (.exception deadlineExpired) (activeControl_of_worker hw) ?_ ?_ (.failed _ _ _ _ rfl)
    · rw [← completions_of_noted hs.noted]
      rfl
    · rw [← hs.controlFutures]
      rfl
  | attemptsLeft job failure s' hw hs =>
    exact hfailed rfl (activeControl_of_worker hw) (completions_of_noted hs.noted)
      hs.controlFutures
  | setRejected job first request r error hw =>
    exact hfailed rfl (activeControl_of_worker hw) rfl rfl
  | secondFailed job first request r error hw =>
    exact hfailed rfl (activeControl_of_worker hw) rfl rfl
  | setAcknowledged job first request r hw hr =>
    obtain ⟨wall, hdone, hlast⟩ := completions_controlAcknowledged
    have hst : step env cfg s (.reply r) = some (s.controlAcknowledged env cfg job first r) := by
      simp [step, hw, stepReply, hr]
    obtain ⟨hspeaker, hpublished⟩ := acknowledged_speaker hw hr hst
    exact .completed job .acknowledged (job.acknowledgedResult wall)
      (.result (s.controlAcknowledged env cfg job first r).snapshot) (activeControl_of_worker hw)
      hdone rfl (.acknowledged _ first request hw hlast hspeaker hpublished)
  | _ => exact hsame rfl rfl

/-! ### What a future holds -/

omit [Client ρ] in
lemma mem_completions {id : ℕ} {outcome : Outcome} {result : CommandResult} {log : List (Obs ρ)} :
    (id, outcome, result) ∈ completions log ↔ .completed id outcome result ∈ log := by
  constructor
  · intro h
    obtain ⟨o, ho, heq⟩ := List.mem_filterMap.mp h
    cases o with
    | completed =>
      cases heq
      exact ho
    | _ => cases heq
  · exact fun h => List.mem_filterMap.mpr ⟨_, h, rfl⟩

omit [Client ρ] in
lemma mem_fst_completions {id : ℕ} {outcome : Outcome} {result : CommandResult}
    {log : List (Obs ρ)} (h : .completed id outcome result ∈ log) :
    id ∈ (completions log).map Prod.fst :=
  List.mem_map_of_mem (mem_completions.mpr h)

/-- What the future of the request `a` holds, by the log. Only a request that may be withdrawn has
a cancelled one. -/
inductive Told (cfg : Config) (withdrawn : Prop) (log : List (Obs ρ)) (a : Asked) :
    Future.State RuntimeSnapshot ControlError → Prop where
  | waiting (hopen : a.id ∉ (completions log).map Prod.fst) : Told cfg withdrawn log a .pending
  | cancelled (hwithdrawn : withdrawn) : Told cfg withdrawn log a .cancelled
  | acknowledged (snapshot : RuntimeSnapshot) (result : CommandResult) (speaker : SpeakerState)
      (command : Command) (newest : Asked) (hend : .completed a.id .acknowledged result ∈ log)
      (hlast : snapshot.lastCommand = some result)
      (hspeaker : snapshot.speaker = cfg.expectedState speaker command)
      (hset : ∃ attempt request, .set a.id command.kind attempt request ∈ calls log ∧
        cfg.request speaker command = .ok request)
      (hvalue : cfg.executed speaker command = command)
      (hnewest : newest ∈ (askedFor a.id log).head?) (hkind : newest.command.kind = command.kind)
      (hrequest : ∀ cached, cfg.request cached command = cfg.request cached newest.command) :
      Told cfg withdrawn log a (.result snapshot)
  | failed (outcome : Outcome) (error : ControlError) (result : CommandResult)
      (hend : .completed a.id outcome result ∈ log) (herror : outcome.error? = some error)
      (hname : result.error = some error.name) : Told cfg withdrawn log a (.exception error)

variable {a b : Asked} {state : Future.State RuntimeSnapshot ControlError}
  {withdrawn withdrawn' : Prop} {es : List (Event ρ)}

omit [Client ρ] in
/-- What a future holds is about completions, and about the requests of a completed entry. -/
lemma Told.congr {log log' : List (Obs ρ)} (h : Told cfg withdrawn log a state)
    (himp : withdrawn → withdrawn') (hcalls : calls log ⊆ calls log')
    (hdone : completions log' = completions log)
    (hasked : a.id ∈ (completions log).map Prod.fst → askedFor a.id log' = askedFor a.id log) :
    Told cfg withdrawn' log' a state := by
  cases h with
  | waiting hopen => exact .waiting (hdone ▸ hopen)
  | cancelled hwithdrawn => exact .cancelled (himp hwithdrawn)
  | acknowledged snapshot result speaker command newest hend hlast hspeaker hset hvalue hnewest =>
    rw [← hasked (mem_fst_completions hend)] at hnewest
    obtain ⟨attempt, request, hmem, hencode⟩ := hset
    exact .acknowledged snapshot result speaker command newest
      (mem_completions.mp (hdone ▸ mem_completions.mpr hend)) hlast hspeaker
      ⟨attempt, request, hcalls hmem, hencode⟩ hvalue hnewest ‹_› ‹_›
  | failed outcome error result hend herror hname =>
    exact .failed outcome error result (mem_completions.mp (hdone ▸ mem_completions.mpr hend))
      herror hname

omit [Client ρ] in
/-- The completion of another entry. -/
lemma Told.other {log log' : List (Obs ρ)} (h : Told cfg withdrawn log a state)
    (himp : withdrawn → withdrawn') {id : ℕ} {outcome : Outcome}
    {result : CommandResult} (hne : id ≠ a.id) (hcalls : calls log ⊆ calls log')
    (hdone : completions log' = (id, outcome, result) :: completions log)
    (hasked : askedFor a.id log' = askedFor a.id log) : Told cfg withdrawn' log' a state := by
  have hmem {outcome' : Outcome} {result' : CommandResult}
      (hend : .completed a.id outcome' result' ∈ log) :
      .completed a.id outcome' result' ∈ log' := by
    rw [← mem_completions, hdone]
    exact List.mem_cons_of_mem _ (mem_completions.mpr hend)
  cases h with
  | waiting hopen =>
    refine .waiting ?_
    rw [hdone, List.map_cons, List.mem_cons, not_or]
    exact ⟨hne.symm, hopen⟩
  | cancelled hwithdrawn => exact .cancelled (himp hwithdrawn)
  | acknowledged snapshot result speaker command newest hend hlast hspeaker hset hvalue hnewest =>
    rw [← hasked] at hnewest
    obtain ⟨attempt, request, hcall, hencode⟩ := hset
    exact .acknowledged snapshot result speaker command newest (hmem hend) hlast hspeaker
      ⟨attempt, request, hcalls hcall, hencode⟩ hvalue hnewest ‹_› ‹_›
  | failed outcome error result hend herror hname =>
    exact .failed outcome error result (hmem hend) herror hname

omit [Client ρ] in
/-- The request of a future that awaits an entry is one of this entry. -/
lemma Enrolled.id_of_waiter (henrolled : Enrolled cfg s) (ha : a ∈ asked s.log) {job : Control}
    (hjob : job ∈ s.live) (hwaiter : a.future ∈ job.waiters) : job.id = a.id := by
  have hmem : a.future ∈ (askedFor job.id s.log).map Asked.future := by
    rw [(henrolled.gathered job hjob).waiters]
    exact List.mem_reverse.mpr hwaiter
  obtain ⟨b, hb, heq⟩ := List.mem_map.mp hmem
  obtain ⟨hb, hbid⟩ := mem_askedFor.mp hb
  rw [henrolled.eq_of_future ha hb heq] at hbid
  exact hbid.symm

/-- The completion of the entry of the request. -/
lemma Told.completed (h : Told cfg withdrawn s.log a (s.controlFutures a.future))
    (himp : withdrawn → withdrawn') (hs : Scheduled env cfg s)
    (henrolled : Enrolled cfg s) (ha : a ∈ asked s.log) {job : Control} {outcome : Outcome}
    {result : CommandResult} {told : Future.State RuntimeSnapshot ControlError}
    (hactive : s.activeControl = some job) (hcalls : calls s.log ⊆ calls t.log)
    (hdone : completions t.log = (job.id, outcome, result) :: completions s.log)
    (hasked : asked t.log = asked s.log)
    (hfutures : t.controlFutures = Future.settle job.waiters told s.controlFutures)
    (htells : Tells cfg s t job outcome result told) :
    Told cfg withdrawn' t.log a (t.controlFutures a.future) := by
  have hlive : job ∈ s.live := mem_live_of_active hactive
  have hgathered := henrolled.gathered job hlive
  have hopen : job.id ∉ (completions s.log).map Prod.fst :=
    fun hended => hs.unfinished job hlive (ended_of_mem_completions hended)
  have hfor : askedFor a.id t.log = askedFor a.id s.log := askedFor_of_asked hasked
  by_cases hid : job.id = a.id
  · have hwaiter : a.future ∈ job.waiters := by
      have hmem : a.future ∈ (askedFor job.id s.log).map Asked.future :=
        List.mem_map_of_mem (mem_askedFor.mpr ⟨ha, hid.symm⟩)
      rw [hgathered.waiters] at hmem
      exact List.mem_reverse.mp hmem
    have hend : .completed a.id outcome result ∈ t.log := by
      rw [← mem_completions, hdone, hid]
      exact List.mem_cons_self
    rw [hid] at hopen
    rw [hfutures]
    generalize hstate : s.controlFutures a.future = state at h
    cases h with
    | waiting =>
      rw [Future.settle, hstate, if_pos ⟨hwaiter, rfl⟩]
      cases htells with
      | acknowledged result first request hw hlast hspeaker =>
        have hsent : Sent cfg s job request := sent_of_setting hs hw
        obtain ⟨call, hmem⟩ := List.exists_mem_of_ne_nil _ hsent.sets_ne_nil
        obtain ⟨attempt, rfl⟩ := hsent.sets_eq call hmem
        have hset : .set a.id job.command.kind attempt request ∈ calls t.log :=
          hid ▸ hcalls (mem_sets.mp hmem).1
        obtain ⟨newest, hnewest, hrequest⟩ := hgathered.newest
        have hkind := hgathered.kinds newest (List.mem_of_head? hnewest)
        rw [hid, ← hfor] at hnewest
        exact .acknowledged t.snapshot result _ _ newest hend hlast hspeaker
          ⟨attempt, request, hset, hsent.executed.request⟩ hsent.executed.value hnewest hkind
          hrequest
      | failed outcome error time attempted herror =>
        exact .failed outcome error _ hend herror rfl
    | cancelled hwithdrawn =>
      rw [Future.settle_of_done (by rw [hstate]; rfl), hstate]
      exact .cancelled (himp hwithdrawn)
    | acknowledged _ _ _ _ _ hold | failed _ _ _ hold =>
      exact absurd (mem_fst_completions hold) hopen
  · have hother : a.future ∉ job.waiters :=
      fun hmem => hid (henrolled.id_of_waiter ha hlive hmem)
    rw [hfutures, Future.settle_of_notMem hother]
    exact h.other himp hid hcalls hdone hfor

/-- Who may have a cancelled future: a caller that was cancelled, and everybody at the shutdown. -/
def Withdrawn (es : List (Event ρ)) (s : Runtime ρ) (a : Asked) : Prop :=
  .cancelCaller a.future ∈ es ∨ s.closing = true

/-- Every request that was accepted has been told what its future holds. -/
def AllTold (cfg : Config) (es : List (Event ρ)) (s : Runtime ρ) : Prop :=
  ∀ a ∈ asked s.log, Told cfg (Withdrawn es s a) s.log a (s.controlFutures a.future)

omit [Client ρ] in
lemma Withdrawn.step (h : Withdrawn es s a) (hclosing : s.closing = true → t.closing = true) :
    Withdrawn (es ++ [e]) t a :=
  h.imp (List.mem_append_left _) hclosing

omit [Client ρ] in
lemma Withdrawn.of_withdraws (h : Withdraws e t a.future) : Withdrawn (es ++ [e]) t a :=
  h.imp (fun he => List.mem_append_right _ (List.mem_singleton.mpr he.symm)) id

omit [Client ρ] in
/-- A step that accepts the request `b`. -/
lemma AllTold.extended (h : AllTold cfg es s) (henrolled : Enrolled cfg s)
    (hclosing : s.closing = true → t.closing = true) (hcalls : calls s.log ⊆ calls t.log)
    (hasked : asked t.log = b :: asked s.log) (hdone : completions t.log = completions s.log)
    (hopen : b.id ∉ (completions s.log).map Prod.fst) (hfuture : b.future = s.controlFutureCount)
    (hfutures : t.controlFutures =
      Function.update s.controlFutures s.controlFutureCount .pending) :
    AllTold cfg (es ++ [e]) t := by
  intro a ha
  rw [hasked] at ha
  rcases List.mem_cons.mp ha with rfl | ha
  · rw [hfutures, hfuture, Function.update_self]
    exact .waiting (hdone ▸ hopen)
  · rw [hfutures, update_new (henrolled.futures a ha)]
    refine (h a ha).congr (·.step hclosing) hcalls hdone fun hended => ?_
    refine askedFor_cons_of_ne hasked ?_
    intro heq
    exact hopen (heq ▸ hended)

lemma AllTold.step (h : AllTold cfg es s) (hr : Transition.Reachable (step env cfg) {} s)
    (hrule : Rule env cfg s e t) : AllTold cfg (es ++ [e]) t := by
  have hs : Scheduled env cfg s := .of_reachable hr
  have henrolled := enrolled_of_reachable hr
  have hclosing := closing_of_rule hrule (closing_iff hr).mpr
  have hcalls : calls s.log ⊆ calls t.log := by
    rcases calls_of_rule hrule with hsame | ⟨reads, call, remaining, -, hlog⟩
    · rw [hsame]
      exact List.Subset.refl _
    · rw [hlog]
      exact List.subset_cons_self _ _
  rcases (queueing_of_rule hrule).requests with
    ⟨hasked, -⟩ | ⟨r, job, hj, rfl⟩ | ⟨r, rfl⟩
  · intro a ha
    rw [hasked] at ha
    cases settling_of_rule hrule (closing_iff hr).mpr with
    | none hdone hfutures =>
      rcases hfutures a.future (henrolled.futures a ha) with hsame | ⟨hcancelled, hwithdraws⟩
      · rw [hsame]
        exact (h a ha).congr (·.step hclosing) hcalls hdone fun _ => askedFor_of_asked hasked
      · rw [hcancelled]
        exact .cancelled (.of_withdraws hwithdraws)
    | completed job outcome result told hactive hdone hfutures htells =>
      exact (h a ha).completed (·.step hclosing) hs henrolled ha hactive hcalls hdone hasked
        hfutures htells
  · refine h.extended henrolled hclosing hcalls asked_coalesce rfl ?_ rfl rfl
    have hlive : job ∈ s.live := mem_live_of_queued (mem_controls_of_coalescing hj)
    exact fun hended => hs.unfinished job hlive (ended_of_mem_completions hended)
  · refine h.extended henrolled hclosing hcalls asked_accept rfl ?_ rfl rfl
    intro hended
    obtain ⟨⟨id, outcome, result⟩, hmem, rfl⟩ := List.mem_map.mp hended
    have hlt := hs.subjects _ (mem_completions.mp hmem) _ rfl
    exact lt_irrefl _ hlt

lemma allTold_of_run (h : Transition.run (step env cfg) es {} = some s) : AllTold cfg es s := by
  refine Transition.run_invariant (I := fun es s => AllTold cfg es s) h
    (fun _ ha => absurd ha List.not_mem_nil) ?_
  intro es s t e hrun htold hst
  exact htold.step (Transition.reachable_of_run hrun) (.of_step hst)

/-- The step completes the entry of the request, and what its caller is told is what is published.
-/
structure Announces (s t : Runtime ρ) (a : Asked) (snapshot : RuntimeSnapshot) : Prop where
  current : snapshot = t.snapshot
  published : s.publisher = true → t.published = some snapshot
  acknowledged : ∃ result, snapshot.lastCommand = some result ∧
    completions t.log = (a.id, .acknowledged, result) :: completions s.log

lemma announces_of_step (hr : Transition.Reachable (step env cfg) {} s)
    (hst : step env cfg s e = some t) (ha : a ∈ asked s.log)
    (hpending : s.controlFutures a.future = .pending) {snapshot : RuntimeSnapshot}
    (htold : t.controlFutures a.future = .result snapshot) : Announces s t a snapshot := by
  have henrolled := enrolled_of_reachable hr
  cases settling_of_rule (.of_step hst) (closing_iff hr).mpr with
  | none hdone hfutures =>
    rcases hfutures a.future (henrolled.futures a ha) with hsame | ⟨hcancelled, -⟩
    · rw [hsame, hpending] at htold
      cases htold
    · rw [hcancelled] at htold
      cases htold
  | completed job outcome result told hactive hdone hfutures htells =>
    rw [hfutures] at htold
    by_cases hwaiter : a.future ∈ job.waiters
    · rw [Future.settle, hpending, if_pos ⟨hwaiter, rfl⟩] at htold
      have hid := henrolled.id_of_waiter ha (mem_live_of_active hactive) hwaiter
      cases htells with
      | acknowledged result first request hw hlast hspeaker hpublished =>
        cases htold
        exact ⟨rfl, hpublished, result, hlast, hid ▸ hdone⟩
      | failed => cases htold
    · rw [Future.settle_of_notMem hwaiter, hpending] at htold
      cases htold

/-- In every run, what a caller is told is about its own request: the record of its entry, with the
state that a SET of this entry was encoded for by the newest request, or the error that it ended
with. A future is pending only while its entry is not completed, and cancelled only if its caller
was cancelled or the runtime is closing. The step by which a caller gets a snapshot is the one that
acknowledges its entry, and this snapshot is what it publishes. -/
theorem told_of_run (h : Transition.run (step env cfg) es {} = some s) :
    (∀ a ∈ asked s.log, Told cfg (.cancelCaller a.future ∈ es ∨ s.closing = true) s.log a
      (s.controlFutures a.future)) ∧
    ∀ e t, step env cfg s e = some t → ∀ a ∈ asked s.log,
      s.controlFutures a.future = .pending → ∀ snapshot,
        t.controlFutures a.future = .result snapshot → Announces s t a snapshot := by
  refine ⟨allTold_of_run h, fun e t hst a ha hpending snapshot htold => ?_⟩
  exact announces_of_step (Transition.reachable_of_run h) hst ha hpending htold

/-- Two set_volume share an entry, and a third caller is cancelled: the two are told when the entry
is acknowledged. -/
theorem told_of_run_setVolume : ∃ (es : List (Event Transcript)) (s : Runtime Transcript),
    Transition.run (step .ticking .ofOptions) es {} = some s ∧
    (asked s.log).map (fun a => (s.controlFutures a.future).isDone) = [true, false, false] ∧
    (∀ a ∈ asked s.log, Told .ofOptions (.cancelCaller a.future ∈ es ∨ s.closing = true) s.log a
      (s.controlFutures a.future)) ∧
    ∃ t, step .ticking .ofOptions s (.reply (Transcript.status 0x11)) = some t ∧
      t.published = some t.snapshot ∧
      (asked s.log).map (fun a => t.controlFutures a.future) =
        [.cancelled, .result t.snapshot, .result t.snapshot] ∧
      ∀ a ∈ asked s.log, s.controlFutures a.future = .pending → ∀ snapshot,
        t.controlFutures a.future = .result snapshot → Announces s t a snapshot := by
  let es : List (Event Transcript) := [.setPublisher, .start, .submit (.setVolume (1 / 2)),
    .submit (.setVolume (1 / 4)), .submit .turnOn, .cancelCaller 2, .run, .run, .run, .run]
  have hrun : (Transition.run (step .ticking .ofOptions) es {}).any (fun s =>
      (asked s.log).map (fun a => (s.controlFutures a.future).isDone) = [true, false, false] ∧
      (step .ticking .ofOptions s (.reply (Transcript.status 0x11))).any (fun t =>
        t.published = some t.snapshot ∧
        (asked s.log).map (fun a => t.controlFutures a.future) =
          [.cancelled, .result t.snapshot, .result t.snapshot])) = true := by
    decide +kernel
  obtain ⟨s, hs, hstate⟩ := (Option.any_eq_true _ _).mp hrun
  obtain ⟨hdone, hstep⟩ := of_decide_eq_true hstate
  obtain ⟨t, ht, htold⟩ := (Option.any_eq_true _ _).mp hstep
  obtain ⟨hpublished, hfutures⟩ := of_decide_eq_true htold
  exact ⟨es, s, hs, hdone, (told_of_run hs).1, t, ht, hpublished, hfutures,
    (told_of_run hs).2 _ t ht⟩

/-! ### The requests of an entry -/

/-- Requests share an entry only when all of them set the level. -/
def Sharing (a b : Asked) : Prop :=
  a = b ∨ a.command.kind = .setVolume ∧ b.command.kind = .setVolume

end Runtime

end KefLsx
