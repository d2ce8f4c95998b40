import KefLsx.Runtime.Exchanges

/-!
# The runtime after its shutdown has begun

Every path of the worker to an exchange passes a look at `_closing`, so that from the moment that
the flag is set only the exchange in flight goes on, and nothing new is accepted.
-/

namespace KefLsx

namespace Log

variable {ρ : Type} {log : List (Obs ρ)}

/-- How many exchanges have ended. -/
def ended (log : List (Obs ρ)) : ℕ := log.countP Obs.isEnd

lemma ended_traffic : ended (traffic log) = ended log := by
  rw [ended, traffic, List.countP_filter, ended]
  congr 1
  funext o
  cases o <;> rfl

end Log

namespace Runtime

open Log

variable {ρ : Type} [Client ρ] {env : Env} {cfg : Config} {s t u : Runtime ρ} {e : Event ρ}

/-- How many exchanges are in flight. -/
def inFlight (s : Runtime ρ) : ℕ := if s.inExchange then 1 else 0

/-- From the closing runtime `s` on, no exchange was started and nothing accepted. -/
structure Ceased (s t : Runtime ρ) : Prop where
  closing : t.closing = true
  calls : calls t.log = calls s.log
  /-- The exchange that was in flight ends once, or goes on. -/
  ended : Log.ended t.log + t.inFlight ≤ Log.ended s.log + s.inFlight
  acceptedCount : t.acceptedCount = s.acceptedCount
  controlFutureCount : t.controlFutureCount = s.controlFutureCount
  pollFutureCount : t.pollFutureCount = s.pollFutureCount

omit [Client ρ] in
lemma Ceased.refl (hc : s.closing = true) : Ceased s s := by
  constructor <;> first | exact hc | rfl

omit [Client ρ] in
lemma Ceased.trans (h : Ceased s t) (h' : Ceased t u) : Ceased s u :=
  ⟨h'.closing, h'.calls.trans h.calls, h'.ended.trans h.ended,
    h'.acceptedCount.trans h.acceptedCount, h'.controlFutureCount.trans h.controlFutureCount,
    h'.pollFutureCount.trans h.pollFutureCount⟩

/-- A worker that has selected an entry has seen that the runtime is open, and nobody has run
since. -/
lemma Starts.closing_eq_false (h : Scheduled env cfg s) {call : Call}
    (hstarts : Starts env cfg s call) : s.closing = false := by
  cases hstarts with
  | verification hw hc | poll hw hc | maintenance hw hc => exact hc
  | volumeGet job hw => exact (h.phase _ hw).1
  | set job failure request hw hc => exact hc

/-- No future is created on a closing runtime. -/
lemma counts_of_closing (h : Rule env cfg s e t) (hc : s.closing = true) :
    t.acceptedCount = s.acceptedCount ∧ t.controlFutureCount = s.controlFutureCount ∧
      t.pollFutureCount = s.pollFutureCount := by
  cases h with
  | started hw hopen => exact absurd (hopen.symm.trans hc) (by simp)
  | coalesced r job hi hopen => exact absurd (hopen.symm.trans hc) (by simp)
  | refused r hi hopen => exact absurd (hopen.symm.trans hc) (by simp)
  | accepted r hi hopen => exact absurd (hopen.symm.trans hc) (by simp)
  | polled hi hopen => exact absurd (hopen.symm.trans hc) (by simp)
  | closeBegun =>
    obtain ⟨-, -, -, -, haccepted, -, hcontrol, hpoll⟩ := frame_beginClose (s := s)
    exact ⟨haccepted, hcontrol, hpoll⟩
  | stateFailed reason r error =>
    have hf : Framed s (s.stateExchangeFailed env cfg reason r error) := framed_stateExchangeFailed
    exact ⟨hf.acceptedCount, hf.controlFutureCount, hf.pollFutureCount⟩
  | stateDone reason r status =>
    have hf : Framed s (s.stateExchangeDone env cfg reason r status) := framed_stateExchangeDone
    exact ⟨hf.acceptedCount, hf.controlFutureCount, hf.pollFutureCount⟩
  | attemptsTimedOut job s' hw hs =>
    have hf : Framed s (s'.controlTimedOut env cfg job) := hs.framed.trans framed_controlTimedOut
    exact ⟨hf.acceptedCount, hf.controlFutureCount, hf.pollFutureCount⟩
  | attemptsLeft job failure s' hw hs =>
    have hf : Framed s (s'.controlFailed env cfg job failure) :=
      hs.framed.trans framed_controlFailed
    exact ⟨hf.acceptedCount, hf.controlFutureCount, hf.pollFutureCount⟩
  | _ => exact ⟨rfl, rfl, rfl⟩

lemma closing_of_rule (h : Rule env cfg s e t)
    (hclose : s.closeTask ≠ .notStarted → s.closing = true) (hc : s.closing = true) :
    t.closing = true := by
  by_cases he : e = .start
  · subst he
    cases h <;> exact hc
  · exact (moves_of_rule h he hclose).closing hc

/-- A step of a closing runtime. -/
lemma ceased_of_step (h : Transition.Reachable (step env cfg) {} s) (hc : s.closing = true)
    (hst : step env cfg s e = some t) : Ceased s t := by
  have hrule := Rule.of_step hst
  have hc' : t.closing = true := closing_of_rule hrule (closing_iff h).mpr hc
  obtain ⟨haccepted, hcontrol, hpoll⟩ := counts_of_closing hrule hc
  have hnone : ∀ call, ¬ Starts env cfg s call := by
    intro call hstarts
    rw [hstarts.closing_eq_false (.of_reachable h)] at hc
    cases hc
  refine ⟨hc', ?_, ?_, haccepted, hcontrol, hpoll⟩
  · rcases calls_of_rule hrule with hcalls | ⟨reads, call, remaining, hstarts, -⟩
    · exact hcalls
    · exact absurd hstarts (hnone call)
  · cases exchanged_of_rule hrule with
    | none htraffic hflight =>
      rw [← ended_traffic, htraffic, ended_traffic]
      apply Nat.add_le_add_left
      cases ht : t.inExchange with
      | false => simp [inFlight, ht]
      | true =>
        have hs : s.inExchange = true := by rwa [inExchange, ← hflight ht]
        simp [inFlight, ht, hs]
    | start call reads remaining hstarts => exact absurd hstarts (hnone call)
    | finish o hends htraffic hflight =>
      have hone : Log.ended (o :: traffic s.log) = Log.ended s.log + 1 := by
        rw [Log.ended, List.countP_cons_of_pos hends.isEnd]
        exact congrArg (· + 1) ended_traffic
      rw [← ended_traffic, htraffic, hone]
      simp [inFlight, hends.inExchange, hflight]

/-- Once the runtime is closing, no run starts an exchange or accepts anything, whatever the
worker was doing at that moment and whoever calls the runtime; at most the exchange in flight
ends. -/
theorem no_exchange_after_close (h : Transition.Reachable (step env cfg) {} s)
    (hc : s.closing = true) (ht : Transition.Reachable (step env cfg) s t) :
    Ceased s t ∧ (∀ r u, step env cfg t (.submit r) = some u → u = t) ∧
      ∀ u, step env cfg t .poll = some u → u = t := by
  have hceased : Ceased s t := by
    refine ht.invariant (I := Ceased s) (.refl hc) ?_
    intro t u e hr hst _ hstep
    exact hst.trans (ceased_of_step (h.trans hr) hst.closing hstep)
  refine ⟨hceased, ?_, ?_⟩
  · intro r u hu
    cases Rule.of_step hu with
    | submitClosed => rfl
    | coalesced r job hi hopen => exact absurd (hopen.symm.trans hceased.closing) (by simp)
    | refused r hi hopen => exact absurd (hopen.symm.trans hceased.closing) (by simp)
    | accepted r hi hopen => exact absurd (hopen.symm.trans hceased.closing) (by simp)
  · intro u hu
    cases Rule.of_step hu with
    | pollClosed => rfl
    | polled hi hopen => exact absurd (hopen.symm.trans hceased.closing) (by simp)

/-- The runtime is closed during the first attempt of a turn_on, which fails, and is started again
after its shutdown: the second attempt is not made, and the new worker returns. -/
theorem no_exchange_after_close_retry : ∃ s t : Runtime Transcript,
    Transition.Reachable (step .ticking .ofOptions) {} s ∧ s.closing = true ∧
    s.inExchange = true ∧ Transition.Reachable (step .ticking .ofOptions) s t ∧
    t.worker = some .returned ∧ t.closeTask = .completed ∧ Ceased s t := by
  have hrun : (Transition.run (step .ticking .ofOptions)
      [.start, .run, .run, .submit .turnOn, .reply (Transcript.source 0x0B), .run, .run, .run,
        .close] ({} : Runtime Transcript)).any (fun s => s.closing ∧ s.inExchange ∧
      (Transition.run (step .ticking .ofOptions)
        [.reply (Transcript.connected [] .deadline), .slept, .run, .run, .workerJoined,
          .clientClosed, .start, .run, .run] s).any fun t =>
            t.worker = some .returned ∧ t.closeTask = .completed) = true := by
    decide +kernel
  obtain ⟨s, hs, hs'⟩ := Transition.exists_reachable_of_run hrun
  obtain ⟨hc, hflight, hrun'⟩ := of_decide_eq_true hs'
  obtain ⟨t, ht, ht'⟩ := Transition.exists_reachable_of_run hrun'
  obtain ⟨hw, hct⟩ := of_decide_eq_true ht'
  exact ⟨s, t, hs, hc, hflight, ht, hw, hct, (no_exchange_after_close hs hc ht).1⟩

end Runtime

end KefLsx
