import KefLsx.Deployment.Basic

/-!
# The exchange in flight

What the steps of a deployment do to the exchange in flight. A step of the runtime starts one,
ends the one there is, or leaves it alone; the speaker executes its request at most once.
-/

namespace KefLsx

open Log

namespace Runtime

variable {ρ : Type} [Client ρ] {env : Env} {cfg : Config} {s t : Runtime ρ} {e : Event ρ}

/-- The exchange that the worker awaits. -/
def flight (s : Runtime ρ) : Option Call := s.worker.bind Worker.call?

omit [Client ρ] in
lemma flight_of_worker {w : Worker} (hw : s.worker = some w) : s.flight = w.call? := by
  simp [flight, hw]

omit [Client ρ] in
lemma flight_eq_none_iff : s.flight = none ↔ s.inExchange = false := by
  cases hw : s.worker with
  | none => simp [flight, inExchange, hw]
  | some w =>
    rw [flight_of_worker hw, inExchange_of_worker hw]
    cases w <;> simp [Worker.call?, Worker.inExchange]

/-- Only its end and a forced shutdown take the worker out of an exchange. -/
lemma worker_of_inExchange (h : Rule env cfg s e t) (hs : s.inExchange = true)
    (hr : ∀ r, e ≠ .reply r) (hc : e ≠ .cancelled) : t.worker = s.worker := by
  cases h with
  | started hw | startedClosing hw => simp [inExchange, hw] at hs
  | closeBegun => exact frame_beginClose.1
  | joined w hw he =>
    rw [inExchange_of_worker hw] at hs
    rcases he with rfl | rfl <;> cases hs
  | workerCancelled => exact absurd rfl hc
  | workerBegun hw | workerReturned hw | controlSelected job rest hw | verificationStarted hw
  | pollStarted hw | maintenanceStarted hw | maintenanceSkipped hw | waited hw | woken timeout hw
  | timedOut timeout hw | controlSkipped job hw | controlExpired job hw | volumeGetStarted job hw
  | attemptsBegun job hw | attemptsTimedOut job s' hw | attemptsLeft job failure s' hw
  | workerCrashed job failure error hw | setStarted job failure request hw
  | slept job failure delay hw =>
    rw [inExchange_of_worker hw] at hs
    cases hs
  | stateFailed | stateDone | maintenanceFailed | maintenanceDone | volumeGetFailed | volumeGetDone
  | setRejected | firstFailed | secondFailed | setAcknowledged => exact absurd rfl (hr _)
  | _ => rfl

/-- The exchange that a step starts is the one in flight after it. -/
lemma flight_of_started (h : Rule env cfg s e t) {reads : ℕ} {call : Call}
    {remaining : Option Time} (hlog : t.log = .started reads call remaining :: s.log) :
    t.flight = some call := by
  have hs := (starts_of_started h hlog).not_inExchange
  have hflight : t.inExchange = true := by
    have htraffic : traffic t.log = .started reads call remaining :: traffic s.log := by
      rw [hlog]
      exact traffic_cons rfl
    cases exchanged_of_rule h with
    | none hsame =>
      rw [hsame] at htraffic
      exact absurd htraffic.symm (List.cons_ne_self _ _)
    | start _ _ _ _ _ _ hflight => exact hflight
    | finish o hends hend =>
      rw [hend] at htraffic
      cases htraffic
      cases hends
  cases h with
  | verificationStarted | pollStarted | maintenanceStarted | volumeGetStarted =>
    cases hlog
    rfl
  | setStarted job =>
    cases hlog
    simp [flight, Worker.call?, startCall]
  | stateFailed reason r error hw | stateDone reason r status hw | maintenanceFailed r error hw
  | maintenanceDone r status hw | volumeGetFailed job r error hw | volumeGetDone job r status hw
  | setRejected job first request r error hw | firstFailed job request r error hw
  | secondFailed job first request r error hw | setAcknowledged job first request r hw =>
    rw [inExchange_of_worker hw] at hs
    cases hs
  | closeBegun =>
    rw [inExchange, frame_beginClose.1] at hflight
    exact absurd hflight (by simpa [inExchange] using hs)
  | setPublisher | alreadyStarted | submitClosed | coalesced | refused | accepted | pollClosed
  | polled | callerCancelled | closeShared | shutdownTimedOut | joinFailed | clientClosed =>
    -- the worker stands where it stood
    have hsame : s.inExchange = true := hflight
    rw [hs] at hsame
    cases hsame
  | started | startedClosing | joined | workerCancelled | workerBegun | workerReturned
  | controlSelected | maintenanceSkipped | waited | woken | timedOut | controlSkipped
  | controlExpired | attemptsBegun | attemptsTimedOut | attemptsLeft | workerCrashed | slept =>
    cases hflight

/-- What a step does to the exchange in flight. -/
inductive Flies (s : Runtime ρ) (e : Event ρ) (t : Runtime ρ) : Prop where
  | kept (hflight : t.flight = s.flight) (hcalls : calls t.log = calls s.log)
  | started (call : Call) (hs : s.flight = none) (ht : t.flight = some call)
      (hcalls : calls t.log = call :: calls s.log)

/-- A step starts an exchange or leaves the one in flight alone, unless it ends it. -/
lemma flies_of_rule (h : Rule env cfg s e t) (hr : ∀ r, e ≠ .reply r) (hc : e ≠ .cancelled) :
    Flies s e t := by
  cases exchanged_of_rule h with
  | none htraffic hflight hkept hevent =>
    have hcalls : calls t.log = calls s.log := by
      rw [← calls_traffic, htraffic, calls_traffic]
    refine .kept ?_ hcalls
    by_cases hs : s.inExchange = true
    · rw [flight, flight, worker_of_inExchange h hs hr hc]
    · by_cases ht : t.inExchange = true
      · rw [flight, flight, hflight ht]
      · have hs' : s.flight = none := flight_eq_none_iff.mpr (by simpa using hs)
        have ht' : t.flight = none := flight_eq_none_iff.mpr (by simpa using ht)
        rw [hs', ht']
  | start call reads remaining hstarts hreads hlog hflight =>
    refine .started call (flight_eq_none_iff.mpr hstarts.not_inExchange)
      (flight_of_started h hlog) ?_
    rw [hlog]
    rfl
  | finish o hends =>
    cases hends <;> exact absurd rfl (hr _)

/-- The end of an exchange and a forced shutdown leave none in flight. -/
lemma flight_of_end (h : Rule env cfg s e t) (he : (∃ r, e = .reply r) ∨ e = .cancelled) :
    t.flight = none ∧ calls t.log = calls s.log := by
  cases exchanged_of_rule h with
  | none htraffic hflight hkept hevent =>
    have hcalls : calls t.log = calls s.log := by
      rw [← calls_traffic, htraffic, calls_traffic]
    refine ⟨?_, hcalls⟩
    rcases he with ⟨r, rfl⟩ | rfl
    · exact absurd rfl (hevent r)
    · cases h
      rfl
  | start call reads remaining hstarts hreads hlog hflight =>
    rcases he with ⟨r, rfl⟩ | rfl
    · have hs := hstarts.not_inExchange
      cases h <;> rw [inExchange_of_worker ‹_›] at hs <;> cases hs
    · cases h
      cases hflight
  | finish o hends htraffic hflight =>
    refine ⟨flight_eq_none_iff.mpr hflight, ?_⟩
    rw [← calls_traffic, htraffic]
    cases hends <;> exact calls_traffic

end Runtime

/-! ### The steps of a deployment -/

namespace Deployment

variable (env : Env) (cfg : Config)

/-- The steps, one constructor for each branch. -/
inductive Moves (d : Deployment) : Event → Deployment → Prop where
  | runtime (e : KefLsx.Event Transcript) (runtime : Runtime Transcript)
      (hst : Runtime.step env cfg d.runtime e = some runtime) (hr : ∀ r, e ≠ .reply r)
      (hc : e ≠ .cancelled) : Moves d (.runtime e) { d with runtime := runtime }
  | cancelled (runtime : Runtime Transcript)
      (hst : Runtime.step env cfg d.runtime .cancelled = some runtime) :
      Moves d (.runtime .cancelled) (d.cancel runtime)
  | executed (call : Call) (hcall : d.call? = some call) (hreply : d.reply = none) :
      Moves d .execute (d.execute call)
  | finished (call : Call) (t : Transcript) (runtime : Runtime Transcript)
      (hcall : d.call? = some call) (hpermits : d.Permits t)
      (hst : Runtime.step env cfg d.runtime (.reply t) = some runtime) :
      Moves d (.finish t) (d.finish call t runtime)
  | executedLate (i : ℕ) (call : Call) (hlate : d.late[i]? = some call) :
      Moves d (.executeLate i) { d.change (d.speaker.receive call.request).2 with
        late := d.late.eraseIdx i, executed := call :: d.executed }
  | touched (speaker : FakeLsx.SpeakerState) : Moves d (.touch speaker) (d.change speaker)

variable {env cfg} {d d' : Deployment} {e : Event}

/-- Every step is one of these. -/
theorem Moves.of_step (h : step env cfg d e = some d') : Moves env cfg d e d' := by
  cases e with
  | runtime e =>
    cases e with
    | reply r => cases h
    | cancelled =>
      obtain ⟨runtime, hst, rfl⟩ := Option.map_eq_some_iff.mp h
      exact .cancelled runtime hst
    | _ =>
      obtain ⟨runtime, hst, rfl⟩ := Option.map_eq_some_iff.mp h
      exact .runtime _ runtime hst nofun nofun
  | execute =>
    simp only [step] at h
    split at h
    · cases h
      exact .executed _ ‹_› ‹_›
    · cases h
  | finish t =>
    simp only [step] at h
    split at h
    · rename_i call hcall
      simp only [Option.ite_none_right_eq_some] at h
      obtain ⟨runtime, hst, rfl⟩ := Option.map_eq_some_iff.mp h.2
      exact .finished call t runtime hcall h.1 hst
    · cases h
  | executeLate i =>
    simp only [step] at h
    split at h
    · cases h
      exact .executedLate i _ ‹_›
    · cases h
  | touch speaker =>
    cases h
    exact .touched speaker

/-- The runtime of a deployment makes the runs of a runtime. -/
lemma runtime_reachable {speaker : FakeLsx.SpeakerState}
    (h : Transition.Reachable (step env cfg) (initially speaker) d) :
    Transition.Reachable (Runtime.step env cfg) {} d.runtime := by
  refine h.invariant (I := fun d => Transition.Reachable (Runtime.step env cfg) {} d.runtime)
    .refl ?_
  intro d d' e _ hr _ hmoves
  cases Moves.of_step hmoves with
  | runtime e runtime hst => exact .tail hr trivial hst
  | cancelled runtime hst => exact .tail hr trivial hst
  | finished call t runtime hcall hpermits hst => exact .tail hr trivial hst
  | executed | executedLate | touched => exact hr

end Deployment

end KefLsx
