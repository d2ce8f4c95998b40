import KefLsx.Runtime.Schedule

/-!
# One exchange at a time

What a step does to the exchanges of the runtime (`Exchanged`): it starts one while none is in
flight, or ends the one in flight, or does neither. `Starts` are the places of the worker from
which an exchange is started, each with the guard under which it is, and `Ends` those in which it
awaits one.
-/

namespace KefLsx

/-! ### Reading the log -/

namespace Obs

variable {ρ : Type}

/-- The end of an exchange. -/
def isEnd : Obs ρ → Bool
  | sourceEnded .. | maintenanceEnded .. | volumeEnded .. | setEnded .. => true
  | _ => false

/-- The start or the end of an exchange. -/
def isTraffic : Obs ρ → Bool
  | started .. => true
  | o => o.isEnd

end Obs

namespace Log

variable {ρ : Type} {new log : List (Obs ρ)} {o : Obs ρ}

/-- The starts and the ends of exchanges. -/
def traffic (log : List (Obs ρ)) : List (Obs ρ) := log.filter Obs.isTraffic

lemma traffic_cons_of_quiet (ho : o.isTraffic = false) : traffic (o :: log) = traffic log := by
  simp [traffic, ho]

lemma traffic_cons (ho : o.isTraffic = true) : traffic (o :: log) = o :: traffic log := by
  simp [traffic, ho]

lemma traffic_noted {l l' : Ledger ρ} (h : Ledger.Noted l l') : traffic l'.log = traffic l.log := by
  obtain ⟨notes, hlog, hnotes⟩ := h.notes
  rw [hlog, traffic, List.filter_append, List.filter_eq_nil_iff.mpr]
  · rfl
  · intro o ho
    have hnote := hnotes o ho
    cases o with
    | planStarted | verified | mismatch => simp [Obs.isTraffic, Obs.isEnd]
    | _ => cases hnote

lemma traffic_split {later earlier : List (Obs ρ)} (ho : o.isTraffic = true) :
    traffic (later ++ o :: earlier) = traffic later ++ o :: traffic earlier := by
  rw [traffic, List.filter_append, List.filter_cons_of_pos ho, traffic, traffic]

/-- The exchanges started are among the traffic. -/
lemma calls_traffic : calls (traffic log) = calls log := by
  induction log with
  | nil => rfl
  | cons o log ih =>
    cases ho : o.isTraffic with
    | false =>
      rw [traffic_cons_of_quiet ho, ih]
      cases o with
      | started => cases ho
      | _ => rfl
    | true =>
      rw [traffic_cons ho]
      simp only [calls, List.filterMap_cons] at ih ⊢
      rw [ih]

/-- Where an exchange was started. -/
lemma append_of_mem_calls {call : Call} (h : call ∈ calls log) :
    ∃ later reads remaining earlier, log = later ++ .started reads call remaining :: earlier := by
  obtain ⟨reads, remaining, hmem⟩ := mem_calls.mp h
  obtain ⟨later, earlier, hlog⟩ := List.append_of_mem hmem
  exact ⟨later, reads, remaining, earlier, hlog⟩

end Log

namespace Worker

/-- An exchange is in flight. -/
def inExchange : Worker → Bool
  | sourceGet _ | maintenanceGet | volumeGet _ | setting .. => true
  | _ => false

end Worker

namespace Runtime

open Log

variable {ρ : Type} {env : Env} {cfg : Config} {s t : Runtime ρ} {e : Event ρ}

def inExchange (s : Runtime ρ) : Bool := s.worker.any Worker.inExchange

lemma inExchange_of_worker {w : Worker} (hw : s.worker = some w) :
    s.inExchange = w.inExchange := by
  simp [inExchange, hw]

/-! ### Starts -/

/-- The worker is about to start this exchange. -/
inductive Starts (env : Env) (cfg : Config) (s : Runtime ρ) : Call → Prop where
  | verification (hw : s.worker = some .loop) (hc : s.closing = false) (hq : s.controls = [])
      (hdue : s.verification.due.any (· ≤ s.now env) = true) :
      Starts env cfg s (.sourceGet .verification)
  | poll (hw : s.worker = some .loop) (hc : s.closing = false) (hq : s.controls = [])
      (hdue : s.verification.due.any (· ≤ s.now env) = false) (hp : s.pollPending = true) :
      Starts env cfg s (.sourceGet .poll)
  | maintenance (hw : s.worker = some .loop) (hc : s.closing = false) (hq : s.controls = []) :
      Starts env cfg s .maintenanceGet
  | volumeGet (job : Control) (hw : s.worker = some (.control job))
      (hk : job.command.kind.isRelative = true) :
      Starts env cfg s (.volumeGet job.id job.command.kind)
  | set (job : Control) (failure : Option Failure) (request : List UInt8)
      (hw : s.worker = some (.attempt job failure)) (hc : s.closing = false)
      (hq : cfg.request s.snapshot.speaker job.command = .ok request) :
      Starts env cfg s (.set job.id job.command.kind (attemptNumber failure) request)

lemma Starts.not_inExchange {call : Call} (h : Starts env cfg s call) : s.inExchange = false := by
  cases h with
  | verification hw | poll hw | maintenance hw => rw [inExchange_of_worker hw]; rfl
  | volumeGet job hw | set job failure request hw => rw [inExchange_of_worker hw]; rfl

/-- The exchange in flight ends with this entry of the log. -/
inductive Ends (env : Env) (s : Runtime ρ) : Event ρ → Obs ρ → Prop where
  | source (reason : Reason) (r : ρ) (hw : s.worker = some (.sourceGet reason)) :
      Ends env s (.reply r) (.sourceEnded reason s.pollPending r (s.now env))
  | maintenance (r : ρ) (time : Time) (hw : s.worker = some .maintenanceGet) :
      Ends env s (.reply r) (.maintenanceEnded r time)
  | volume (job : Control) (r : ρ) (time : Time) (hw : s.worker = some (.volumeGet job)) :
      Ends env s (.reply r) (.volumeEnded job.id r time)
  | set (job : Control) (first : Option Failure) (request : List UInt8) (r : ρ) (time : Time)
      (hw : s.worker = some (.setting job first request)) :
      Ends env s (.reply r) (.setEnded job.id (attemptNumber first) r time)

variable {o : Obs ρ}

lemma Ends.isEnd (h : Ends env s e o) : o.isEnd = true := by
  cases h <;> rfl

lemma Ends.inExchange (h : Ends env s e o) : s.inExchange = true := by
  cases h with
  | source reason r hw => rw [inExchange_of_worker hw]; rfl
  | maintenance r time hw => rw [inExchange_of_worker hw]; rfl
  | volume job r time hw => rw [inExchange_of_worker hw]; rfl
  | set job first request r time hw => rw [inExchange_of_worker hw]; rfl

/-- An exchange that serves no entry is started on an empty queue. -/
lemma Starts.controls_eq_nil {call : Call} (h : Starts env cfg s call)
    (howner : call.owner = none) : s.controls = [] := by
  cases h with
  | verification hw hc hq | poll hw hc hq | maintenance hw hc hq => exact hq
  | volumeGet | set => cases howner

/-! ### What a step does to the exchanges -/

/-- What a step does to the exchanges. A forced shutdown drops the one in flight. -/
inductive Exchanged (env : Env) (cfg : Config) (s : Runtime ρ) (e : Event ρ) (t : Runtime ρ) :
    Prop where
  | none (htraffic : traffic t.log = traffic s.log)
      (hflight : t.inExchange = true → t.worker = s.worker)
      (hkept : s.closeTask ≠ .cancellingWorker → t.inExchange = s.inExchange)
      (hevent : ∀ r, e ≠ .reply r)
  | start (call : Call) (reads : ℕ) (remaining : Option Time) (hstarts : Starts env cfg s call)
      (hreads : s.monoReads < reads) (hlog : t.log = .started reads call remaining :: s.log)
      (hflight : t.inExchange = true)
      (hget : ∀ reason, call = .sourceGet reason → t.worker = some (.sourceGet reason))
  | finish (o : Obs ρ) (hends : Ends env s e o)
      (htraffic : traffic t.log = o :: traffic s.log) (hflight : t.inExchange = false)

/-- The worker moves between points at which no exchange is in flight. -/
lemma Exchanged.moved {w w' : Worker} (hw : s.worker = some w) (hw' : t.worker = some w')
    (hflight : w.inExchange = false) (hflight' : w'.inExchange = false)
    (htraffic : traffic t.log = traffic s.log := by rfl)
    (hevent : ∀ r, e ≠ .reply r := by rintro r ⟨⟩) : Exchanged env cfg s e t := by
  have hs := (inExchange_of_worker hw).trans hflight
  have ht := (inExchange_of_worker hw').trans hflight'
  exact .none htraffic (by simp [ht]) (fun _ => ht.trans hs.symm) hevent

/-- A step of a producer, or of the shutdown. -/
lemma Exchanged.undisturbed (hw : t.worker = s.worker := by rfl)
    (htraffic : traffic t.log = traffic s.log := by rfl)
    (hevent : ∀ r, e ≠ .reply r := by rintro r ⟨⟩) : Exchanged env cfg s e t := by
  have heq : t.inExchange = s.inExchange := by rw [inExchange, inExchange, hw]
  exact .none htraffic (fun _ => hw) (fun _ => heq) hevent

/-- The exchange in flight ends. -/
lemma Exchanged.ended {w' : Worker} (hends : Ends env s e o)
    (htraffic : traffic t.log = o :: traffic s.log := by rfl)
    (hw' : t.worker = some w' := by rfl) (hflight' : w'.inExchange = false := by rfl) :
    Exchanged env cfg s e t :=
  .finish o hends htraffic ((inExchange_of_worker hw').trans hflight')

lemma traffic_controlFailed {job : Control} {failure : Failure} :
    traffic (s.controlFailed env cfg job failure).log = traffic s.log := by
  obtain ⟨l, hnoted, hlog, -⟩ :
    ∃ l : Ledger ρ, Ledger.Noted l (s.controlFailed env cfg job failure).toLedger ∧ _ ∧ _ :=
    exists_noted_controlFailed
  rw [traffic_noted hnoted, hlog]
  rfl

lemma exists_traffic_controlAcknowledged {job : Control} {first : Option Failure} {r : ρ} :
    ∃ time, traffic (s.controlAcknowledged env cfg job first r).log =
      .setEnded job.id (attemptNumber first) r time :: traffic s.log := by
  obtain ⟨l, time, wall, hnoted, hlog, -⟩ :
    ∃ (l : Ledger ρ) (time : Time) (wall : DateTime),
      Ledger.Noted l (s.controlAcknowledged env cfg job first r).toLedger ∧ _ ∧ _ :=
    exists_noted_controlAcknowledged
  refine ⟨time, ?_⟩
  rw [traffic_noted hnoted, hlog]
  rfl

lemma exchanged_of_rule [Client ρ] (h : Rule env cfg s e t) : Exchanged env cfg s e t := by
  cases h with
  | started hw | startedClosing hw =>
    exact .none rfl (by simp [inExchange, Runtime.createWorker, addPoll, Worker.inExchange])
      (by simp [inExchange, hw, Runtime.createWorker, addPoll, Worker.inExchange]) (by rintro r ⟨⟩)
  | closeBegun =>
    obtain ⟨hworker, hledger, -⟩ := frame_beginClose (s := s)
    exact .undisturbed hworker (by rw [hledger]; rfl)
  | joined w hw he =>
    refine .none rfl (by simp [inExchange, joinWorker]) (fun _ => ?_) (by rintro r ⟨⟩)
    rw [inExchange_of_worker hw]
    rcases he with rfl | rfl <;> rfl
  | workerCancelled w hw hr he hct =>
    exact .none rfl (by simp [inExchange, Worker.inExchange]) (fun hne => absurd hct hne)
      (by rintro r ⟨⟩)
  | workerBegun hw => exact .moved hw rfl rfl rfl
  | workerReturned hw => exact .moved hw rfl rfl rfl
  | controlSelected job rest hw => exact .moved hw rfl rfl rfl
  | verificationStarted hw hc hq hdue =>
    exact .start _ _ _ (.verification hw hc hq hdue) (Nat.lt_succ_self _) rfl rfl
      (by rintro _ ⟨⟩; rfl)
  | pollStarted hw hc hq hdue hp =>
    exact .start _ _ _ (.poll hw hc hq hdue hp) (Nat.lt_succ_self _) rfl rfl
      (by rintro _ ⟨⟩; rfl)
  | maintenanceStarted hw hc hq =>
    exact .start _ _ _ (.maintenance hw hc hq) (Nat.lt_succ_self _) rfl rfl (by rintro _ ⟨⟩)
  | maintenanceSkipped hw => exact .moved hw rfl rfl rfl
  | waited hw => exact .moved hw rfl rfl rfl
  | woken timeout hw => exact .moved hw rfl rfl rfl
  | timedOut timeout hw => exact .moved hw rfl rfl rfl
  | stateFailed reason r error hw =>
    exact .ended (.source reason r hw) ((traffic_noted noted_stateExchangeFailed).trans rfl)
  | stateDone reason r status hw =>
    exact .ended (.source reason r hw) ((traffic_noted noted_stateExchangeDone).trans rfl)
  | maintenanceFailed r error hw => exact .ended (.maintenance r _ hw)
  | maintenanceDone r status hw => exact .ended (.maintenance r _ hw)
  | controlSkipped job hw => exact .moved hw rfl rfl rfl
  | controlExpired job hw => exact .moved hw rfl rfl rfl
  | volumeGetStarted job hw hlive hd hk =>
    exact .start _ _ _ (.volumeGet job hw hk) (Nat.lt_add_of_pos_right two_pos) rfl rfl
      (by rintro _ ⟨⟩)
  | attemptsBegun job hw => exact .moved hw rfl rfl rfl
  | volumeGetFailed job r error hw => exact .ended (.volume job r _ hw)
  | volumeGetDone job r status hw => exact .ended (.volume job r _ hw)
  | attemptsTimedOut job s' hw hs =>
    have htraffic : traffic s'.log = traffic s.log := traffic_noted hs.noted
    exact .moved hw rfl rfl rfl htraffic
  | attemptsLeft job failure s' hw hs =>
    exact .moved hw rfl rfl rfl (traffic_controlFailed.trans (traffic_noted hs.noted))
  | workerCrashed job failure error hw => exact .moved hw rfl rfl rfl
  | setStarted job failure request hw hc hd hq =>
    exact .start _ _ _ (.set job failure request hw hc hq) (Nat.lt_add_of_pos_right two_pos) rfl
      rfl (by rintro _ ⟨⟩)
  | setRejected job first request r error hw =>
    exact .ended (.set job first request r _ hw) (traffic_controlFailed.trans rfl)
  | firstFailed job request r error hw => exact .ended (.set job none request r _ hw)
  | secondFailed job first request r error hw =>
    exact .ended (.set job (some first) request r _ hw) (traffic_controlFailed.trans rfl)
  | setAcknowledged job first request r hw =>
    obtain ⟨time, htraffic⟩ : ∃ time,
      traffic (s.controlAcknowledged env cfg job first r).log =
        .setEnded job.id (attemptNumber first) r time :: traffic s.log :=
      exists_traffic_controlAcknowledged
    exact .ended (.set job first request r time hw) htraffic
  | slept job failure delay hw => exact .moved hw rfl rfl rfl
  | _ => exact .undisturbed

/-- A step adds no exchange, or logs the one that it starts. -/
lemma calls_of_rule [Client ρ] (h : Rule env cfg s e t) :
    calls t.log = calls s.log ∨ ∃ reads call remaining, Starts env cfg s call ∧
      t.log = .started reads call remaining :: s.log := by
  cases exchanged_of_rule h with
  | none htraffic =>
    rw [← calls_traffic, htraffic, calls_traffic]
    exact .inl rfl
  | start call reads remaining hstarts hreads hlog =>
    exact .inr ⟨reads, call, remaining, hstarts, hlog⟩
  | finish o hends htraffic =>
    rw [← calls_traffic, htraffic]
    cases hends <;> exact .inl calls_traffic

/-- The step that logs the start of an exchange is one that starts it. -/
lemma starts_of_started [Client ρ] (h : Rule env cfg s e t) {reads : ℕ} {call : Call}
    {remaining : Option Time} (hlog : t.log = .started reads call remaining :: s.log) :
    Starts env cfg s call := by
  have htraffic : traffic t.log = .started reads call remaining :: traffic s.log := by
    rw [hlog]
    exact traffic_cons rfl
  cases exchanged_of_rule h with
  | none hsame =>
    rw [hsame] at htraffic
    exact absurd htraffic.symm (List.cons_ne_self _ _)
  | start call' reads' remaining' hstarts hreads hlog' =>
    rw [hlog] at hlog'
    cases hlog'
    exact hstarts
  | finish o hends hend =>
    rw [hend] at htraffic
    cases htraffic
    cases hends

end Runtime

end KefLsx
