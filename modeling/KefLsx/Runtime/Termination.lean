import KefLsx.Runtime.Closing
import KefLsx.Runtime.Encodable
import KefLsx.Runtime.Wakeup

/-!
# The shutdown comes to its end

`_async_close_impl` waits for the worker, gracefully or by force, and then for the client. While
nobody calls the runtime, every step of the worker and of the shutdown brings it nearer to the end,
and until then one of them is possible, without force.
-/

namespace KefLsx

/-- The steps that the worker, its awaits and the shutdown task make by themselves. -/
def Event.goesOn {ρ : Type} : Event ρ → Bool
  | .setPublisher | .start | .submit _ | .poll | .cancelCaller _ | .close => false
  | _ => true

/-- How many steps of a closing runtime's worker may follow: at most a failed attempt, the sleep
after it, and the way out of the loops. -/
def Worker.stepsLeft : Worker → ℕ
  | setting .. => 4
  | retrySleep .. | control _ => 3
  | created | waiting _ | sourceGet _ | maintenanceGet | volumeGet _ | attempt .. => 2
  | loop => 1
  | returned | cancelled | crashed _ => 0

/-- How many steps of the shutdown may follow: the timeout, the join and the client's end. -/
def CloseTask.stepsLeft : CloseTask → ℕ
  | notStarted | awaitingWorker => 3
  | cancellingWorker => 2
  | closingClient => 1
  | completed | failed => 0

namespace Runtime

variable {ρ : Type} {env : Env} {cfg : Config} {s t : Runtime ρ} {e : Event ρ} {w : Worker}

def stepsLeft (s : Runtime ρ) : ℕ :=
  s.closeTask.stepsLeft + (s.worker.map Worker.stepsLeft).getD 0

lemma stepsLeft_le : s.stepsLeft ≤ 7 := by
  have htask : s.closeTask.stepsLeft ≤ 3 := by
    cases s.closeTask <;> decide
  have hworker : (s.worker.map Worker.stepsLeft).getD 0 ≤ 4 := by
    cases s.worker with
    | none => decide
    | some w => cases w <;> simp [Worker.stepsLeft]
  exact Nat.add_le_add htask hworker

lemma stepsLeft_of_worker (hw : s.worker = some w) :
    s.stepsLeft = s.closeTask.stepsLeft + w.stepsLeft := by
  rw [stepsLeft, hw]
  rfl

/-- A step of the worker. -/
lemma stepsLeft_lt {w' : Worker} (hw : s.worker = some w) (hw' : t.worker = some w')
    (hlt : w'.stepsLeft < w.stepsLeft) (hct : t.closeTask = s.closeTask := by rfl) :
    t.stepsLeft < s.stepsLeft := by
  rw [stepsLeft_of_worker hw, stepsLeft_of_worker hw', hct]
  exact Nat.add_lt_add_left hlt _

variable [Client ρ]

/-- Every step of a closing runtime which nobody calls brings it nearer to its end. -/
lemma stepsLeft_of_rule (h : Rule env cfg s e t) (hc : s.closing = true)
    (he : e.goesOn = true) : t.stepsLeft < s.stepsLeft := by
  have hopen {P : Prop} (h : s.closing = false) : P := absurd (h.symm.trans hc) (by simp)
  cases h with
  | setPublisher | alreadyStarted | started | startedClosing | submitClosed | coalesced | refused
  | accepted | pollClosed | polled | callerCancelled | closeShared | closeBegun => cases he
  -- the shutdown
  | shutdownTimedOut hi hct =>
    simp [stepsLeft, hct, CloseTask.stepsLeft]
  | joined w hw hended hct =>
    have hbefore : 2 ≤ s.closeTask.stepsLeft := by
      rcases hct with hct | hct <;> rw [hct] <;> decide
    rw [stepsLeft_of_worker hw]
    exact Nat.lt_of_lt_of_le (by decide : 1 < 2) (hbefore.trans (Nat.le_add_right _ _))
  | joinFailed w hw hended hct =>
    have hbefore : 2 ≤ s.closeTask.stepsLeft := by
      rcases hct with hct | hct <;> rw [hct] <;> decide
    have hzero : w.stepsLeft = 0 := by
      cases w <;> first | rfl | cases hended
    have hafter : ({ s with closeTask := .failed } : Runtime ρ).stepsLeft = 0 := by
      simp [stepsLeft, hw, hzero, CloseTask.stepsLeft]
    rw [stepsLeft_of_worker hw, hafter]
    omega
  | clientClosed hi hct =>
    simp [stepsLeft, endClose, hct, CloseTask.stepsLeft]
  | workerCancelled w hw hrun hended =>
    refine stepsLeft_lt hw rfl ?_
    cases w <;> first | cases hended; done | simp [Worker.stepsLeft]
  -- the worker's loop
  | workerBegun hw | workerReturned hw | woken timeout hw | timedOut timeout hw =>
    exact stepsLeft_lt hw rfl (by simp [Worker.stepsLeft])
  | controlSelected job rest hw hopen' | verificationStarted hw hopen' | pollStarted hw hopen'
  | maintenanceStarted hw hopen' | maintenanceSkipped hw hopen' | waited hw hopen' =>
    exact hopen hopen'
  -- the ends of exchanges
  | stateFailed reason r error hw =>
    have hframed : Framed s (s.stateExchangeFailed env cfg reason r error) :=
      framed_stateExchangeFailed
    exact stepsLeft_lt hw rfl (by simp [Worker.stepsLeft]) hframed.closeTask
  | stateDone reason r status hw =>
    have hframed : Framed s (s.stateExchangeDone env cfg reason r status) :=
      framed_stateExchangeDone
    exact stepsLeft_lt hw rfl (by simp [Worker.stepsLeft]) hframed.closeTask
  | maintenanceFailed r error hw | maintenanceDone r status hw =>
    exact stepsLeft_lt hw rfl (by simp [Worker.stepsLeft])
  -- a control
  | controlSkipped job hw | controlExpired job hw | volumeGetStarted job hw
  | attemptsBegun job hw | volumeGetFailed job r error hw | volumeGetDone job r status hw
  | setRejected job first req r error hw | firstFailed job req r error hw
  | secondFailed job first req r error hw | setAcknowledged job first req r hw
  | slept job failure delay hw =>
    exact stepsLeft_lt hw rfl (by simp [Worker.stepsLeft])
  | attemptsTimedOut job s' hw hs =>
    exact stepsLeft_lt hw rfl (by simp [Worker.stepsLeft]) hs.framed.closeTask
  | attemptsLeft job failure s' hw hs =>
    exact stepsLeft_lt hw rfl (by simp [Worker.stepsLeft]) hs.framed.closeTask
  | workerCrashed job failure error hw hopen' => exact hopen hopen'
  | setStarted job failure req hw hopen' => exact hopen hopen'

/-! ### The way of the shutdown -/

/-- Where the shutdown stands: it waits for a worker that there is, which is cancelled only by
force, and nothing has made it fail. -/
structure Proceeding (s : Runtime ρ) : Prop where
  worker : s.closeTask = .awaitingWorker ∨ s.closeTask = .cancellingWorker → s.worker ≠ none
  forced : s.worker = some .cancelled →
    s.closeTask ≠ .notStarted ∧ s.closeTask ≠ .awaitingWorker
  unfailed : s.closeTask ≠ .failed
  closed : s.closeTask = .completed → s.closed = true

omit [Client ρ] in
lemma closed_stateExchangeFailed {reason : Reason} {r : ρ} {error : LsxError} :
    (s.stateExchangeFailed env cfg reason r error).closed = s.closed := by
  cases hp : s.pollPending <;> cases reason <;> simp [stateExchangeFailed, answerPolls, hp] <;> rfl

omit [Client ρ] in
lemma closed_stateExchangeDone {reason : Reason} {r : ρ} {status : SourceStatus} :
    (s.stateExchangeDone env cfg reason r status).closed = s.closed := by
  cases hp : s.pollPending <;> simp [stateExchangeDone, answerPolls, resolvePolls, hp]

omit [Client ρ] in
lemma Proceeding.of_worker (h : Proceeding s) (hw : t.worker = some w)
    (hforced : w ≠ .cancelled) (hct : t.closeTask = s.closeTask := by rfl)
    (hclosed : t.closed = s.closed := by rfl) : Proceeding t := by
  refine ⟨fun _ => by simp [hw], ?_, hct ▸ h.unfailed, ?_⟩
  · intro hcancelled
    rw [hw] at hcancelled
    exact absurd (Option.some.inj hcancelled) hforced
  · rw [hct, hclosed]
    exact h.closed

lemma workerJoined_of_step (h : step env cfg s .workerJoined = some t) : ∃ w,
    s.worker = some w ∧ w.ended = true ∧ t = s.workerJoined w := by
  cases hw : s.worker with
  | none => simp [step, hw, stepProducer] at h
  | some w =>
    simp only [step, hw, stepProducer, Option.ite_none_right_eq_some, Option.some.injEq] at h
    obtain ⟨-, ⟨hended, -⟩, rfl⟩ := h
    exact ⟨w, rfl, hended, rfl⟩

/-- Unless an encoder has raised, the join does not fail. -/
lemma Proceeding.joined (h : Proceeding s) (hst : step env cfg s .workerJoined = some t)
    (hcrash : ∀ error, s.worker ≠ some (.crashed error))
    (hct : s.closeTask = .awaitingWorker ∨ s.closeTask = .cancellingWorker) : Proceeding t := by
  obtain ⟨w, hw, hended, rfl⟩ := workerJoined_of_step hst
  have hjoin : s.workerJoined w = s.joinWorker := by
    cases w with
    | returned => rfl
    | cancelled =>
      have hforced : s.closeTask = .cancellingWorker := hct.resolve_left (h.forced hw).2
      simp [workerJoined, hforced]
    | crashed error => exact absurd hw (hcrash error)
    | _ => cases hended
  rw [hjoin]
  exact ⟨by simp, by simp, by simp, by simp⟩

lemma Proceeding.step (h : Proceeding s) (hst : Runtime.step env cfg s e = some t)
    (hcrash : ∀ error, s.worker ≠ some (.crashed error)) : Proceeding t := by
  have hrule := Rule.of_step hst
  cases hrule with
  | joined w hw hended hct => exact h.joined hst hcrash hct
  | joinFailed w hw hended hct => exact h.joined hst hcrash hct
  | closeBegun hi hct =>
    obtain ⟨hworker, -⟩ := frame_beginClose (s := s)
    have htask := closeTask_beginClose (s := s)
    refine ⟨?_, ?_, ?_, ?_⟩
    · rw [hworker, htask]
      intro hwaits hnone
      simp [hnone] at hwaits
    · rw [hworker]
      exact fun hw => absurd hct (h.forced hw).1
    · rw [htask]
      split <;> simp
    · rw [htask]
      split <;> simp
  | shutdownTimedOut hi hct =>
    exact ⟨fun _ => h.worker (.inl hct), fun _ => by simp, by simp, by simp⟩
  | clientClosed hi hct =>
    exact ⟨by simp [endClose], fun _ => by simp [endClose], by simp [endClose], fun _ => rfl⟩
  | workerCancelled w hw hrun hended hct =>
    exact ⟨by simp, fun _ => by simp [hct], by simp [hct], by simp [hct]⟩
  | setPublisher | alreadyStarted | submitClosed | coalesced | refused | accepted | pollClosed
  | polled | callerCancelled | closeShared => exact ⟨h.worker, h.forced, h.unfailed, h.closed⟩
  | stateFailed reason r error =>
    have hframed : Framed s (s.stateExchangeFailed env cfg reason r error) :=
      framed_stateExchangeFailed
    exact h.of_worker rfl (by simp) hframed.closeTask closed_stateExchangeFailed
  | stateDone reason r status =>
    have hframed : Framed s (s.stateExchangeDone env cfg reason r status) :=
      framed_stateExchangeDone
    exact h.of_worker rfl (by simp) hframed.closeTask closed_stateExchangeDone
  | attemptsTimedOut job s' hw hs =>
    cases hs <;> exact h.of_worker rfl (by simp)
  | attemptsLeft job failure s' hw hs =>
    cases hs <;> exact h.of_worker rfl (by simp)
  | _ => exact h.of_worker rfl (by simp)

lemma proceeding_of_reachable (h : Transition.Reachable (Runtime.step env cfg) {} s)
    (hstandby : cfg.SettableStandby) : Proceeding s := by
  refine h.invariant (I := Proceeding) ⟨by simp, by simp, by simp, by simp⟩ ?_
  intro s t e hr hs _ hst
  exact hs.step hst (not_crashed_of_reachable hr hstandby)

omit [Client ρ] in
lemma idle_of_ended (hw : s.worker = some w) (hended : w.ended = true) : s.idle = true := by
  cases w with
  | returned | cancelled | crashed => simp [idle, hw, Worker.running]
  | _ => cases hended

/-- A closing runtime whose worker has not ended goes on by itself. -/
lemma resumes_of_closing (h : Transition.Reachable (Runtime.step env cfg) {} s)
    (hc : s.closing = true) (hw : s.worker = some w) (hended : w.ended = false) :
    Resumes env cfg s := by
  by_cases hwait : ∃ timeout, w = .waiting timeout
  · obtain ⟨timeout, rfl⟩ := hwait
    rcases attentive_of_reachable h timeout hw with hwake | hnothing
    · exact .woken (by simp [Runtime.step, hw, hwake])
    · exact absurd (hnothing.closing.symm.trans hc) (by simp)
  · exact resumes_of_not_waiting hw hended fun timeout heq => hwait ⟨timeout, heq⟩

/-- Until the shutdown has completed, the worker goes on by itself, or it is joined, or the client's
end is. -/
lemma goesOn_of_closing (h : Transition.Reachable (Runtime.step env cfg) {} s)
    (hstandby : cfg.SettableStandby) (hc : s.closing = true) : s.closed = true ∨
      Resumes env cfg s ∨ (Runtime.step env cfg s .workerJoined).isSome = true ∨
      (Runtime.step env cfg s .clientClosed).isSome = true := by
  have hproceeding := proceeding_of_reachable h hstandby
  have hwaits (hct : s.closeTask = .awaitingWorker ∨ s.closeTask = .cancellingWorker) :
      Resumes env cfg s ∨ (Runtime.step env cfg s .workerJoined).isSome = true := by
    obtain ⟨w, hw⟩ := Option.ne_none_iff_exists'.mp (hproceeding.worker hct)
    cases hended : w.ended with
    | false => exact .inl (resumes_of_closing h hc hw hended)
    | true =>
      have hidle : s.idle = true := idle_of_ended hw hended
      exact .inr (by simp [Runtime.step, hw, hidle, stepProducer, hended, hct])
  cases hct : s.closeTask with
  | notStarted => exact absurd hct ((closing_iff h).mp hc)
  | awaitingWorker => exact .inr ((hwaits (.inl hct)).imp_right .inl)
  | cancellingWorker => exact .inr ((hwaits (.inr hct)).imp_right .inl)
  | closingClient =>
    cases hw : s.worker with
    | none => exact .inr (.inr (.inr (by simp [Runtime.step, hw, idle, stepProducer, hct])))
    | some w =>
      cases hended : w.ended with
      | false => exact .inr (.inl (resumes_of_closing h hc hw hended))
      | true =>
        have hidle : s.idle = true := idle_of_ended hw hended
        exact .inr (.inr (.inr (by simp [Runtime.step, hidle, stepProducer, hct])))
  | completed => exact .inl (hproceeding.closed hct)
  | failed => exact absurd hct hproceeding.unfailed

/-- In every run, wherever the shutdown begins: a closing runtime that nobody calls makes at most
seven more steps, however the replies, the sleeps and the shutdown's timeout interleave. As long as
it has not closed, its worker goes on by itself, or the shutdown does; no force is needed. -/
theorem shutdown_ends (hstandby : cfg.SettableStandby)
    (h : Transition.Reachable (Runtime.step env cfg) {} s) (hc : s.closing = true) :
    (∀ es t, (∀ e ∈ es, e.goesOn = true) → Transition.run (Runtime.step env cfg) es s = some t →
      es.length ≤ 7) ∧
    (s.closed = true ∨ Resumes env cfg s ∨
      (Runtime.step env cfg s .workerJoined).isSome = true ∨
      (Runtime.step env cfg s .clientClosed).isSome = true) := by
  refine ⟨?_, goesOn_of_closing h hstandby hc⟩
  intro es t hes hrun
  have hlength : t.stepsLeft + es.length ≤ s.stepsLeft := by
    refine Transition.length_le_of_lowers
      (I := fun s => Transition.Reachable (Runtime.step env cfg) {} s ∧ s.closing = true)
      ?_ hes ⟨h, hc⟩ hrun
    rintro s t e ⟨hr, hclosing⟩ he hst
    have hclosing' : t.closing = true :=
      closing_of_rule (.of_step hst) (closing_iff hr).mpr hclosing
    exact ⟨⟨hr.tail trivial hst, hclosing'⟩, stepsLeft_of_rule (.of_step hst) hclosing he⟩
  exact (Nat.le_add_left _ _).trans (hlength.trans stepsLeft_le)

/-- A shutdown that begins during the first SET of a `turn_on` takes all the seven steps. -/
theorem shutdown_ends_turnOn : ∃ s : Runtime Transcript,
    Transition.Reachable (Runtime.step .slow .ofOptions) {} s ∧
    (Transition.run (Runtime.step .slow .ofOptions)
      [.shutdownTimeout, .reply (Transcript.connectFailed .refused), .slept, .run, .run,
        .workerJoined, .clientClosed] s).any Runtime.closed = true ∧
    ∀ es u, (∀ e ∈ es, e.goesOn = true) →
      Transition.run (Runtime.step .slow .ofOptions) es s = some u → es.length ≤ 7 := by
  have hrun : (Transition.run (Runtime.step .slow .ofOptions)
      [.start, .submit .turnOn, .run, .run, .run, .run, .close] ({} : Runtime Transcript)).any
      (fun s => s.closing = true ∧ (Transition.run (Runtime.step .slow .ofOptions)
        [.shutdownTimeout, .reply (Transcript.connectFailed .refused), .slept, .run, .run,
          .workerJoined, .clientClosed] s).any Runtime.closed = true) = true := by
    decide +kernel
  obtain ⟨s, hs, hs'⟩ := Transition.exists_reachable_of_run hrun
  obtain ⟨hc, hclosed⟩ := of_decide_eq_true hs'
  exact ⟨s, hs, hclosed, (shutdown_ends (.inl rfl) hs hc).1⟩

end Runtime

end KefLsx
