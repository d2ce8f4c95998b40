import KefLsx.Runtime.Effects

/-!
# Waking the worker

The worker clears its event, looks at the queue and the flags, and waits. Whoever then gives it
work sets the event, so that as long as it is not set there is no work. The timer of the wait runs
out when the next verification is due, late by the time that passes until the timer is set.
-/

namespace KefLsx

namespace Runtime

variable {ρ : Type} {env : Env} {cfg : Config} {s t : Runtime ρ} {e : Event ρ}

/-- The time from the last look at the clock to the reading from which a timer set since counts. -/
def timerLag (env : Env) (s : Runtime ρ) : Time :=
  env.loopTime s.monoReads - env.monotonic (s.monoReads - 1)

/-- There is nothing to be done before the timer of the wait runs out. -/
structure NothingToDo (env : Env) (s : Runtime ρ) (expiry : Option Time) : Prop where
  controls : s.controls = []
  pollPending : s.pollPending = false
  maintenancePending : s.maintenancePending = false
  closing : s.closing = false
  timer : ∀ due, s.verification.due = some due → expiry = some (due + s.timerLag env)

/-- Unless its event is set, a worker that waits has nothing to do. -/
def Attentive (env : Env) (s : Runtime ρ) : Prop :=
  ∀ expiry, s.worker = some (.waiting expiry) → s.wake = true ∨ NothingToDo env s expiry

/-- Something that the loop of the worker looks for. -/
def HasWork (s : Runtime ρ) : Prop :=
  s.controls ≠ [] ∨ s.pollPending = true ∨ s.maintenancePending = true ∨ s.closing = true

/-- The worker will go on by itself: it is about to run, its event is set, its timer or its sleep
will end, or the exchange that it awaits will. -/
inductive Resumes [Client ρ] (env : Env) (cfg : Config) (s : Runtime ρ) : Prop where
  | run (h : (step env cfg s .run).isSome = true)
  | woken (h : (step env cfg s .woken).isSome = true)
  | timedOut (h : (step env cfg s .timedOut).isSome = true)
  | slept (h : (step env cfg s .slept).isSome = true)
  | reply (h : ∀ r, (step env cfg s (.reply r)).isSome = true)

/-- A worker that does not wait. -/
lemma Attentive.of_worker {w : Worker} (hw : t.worker = some w)
    (hnot : ∀ expiry, w ≠ .waiting expiry := by simp) : Attentive env t := by
  intro expiry hwait
  rw [hw] at hwait
  exact absurd (Option.some.inj hwait) (hnot expiry)

lemma Attentive.of_none (hw : t.worker = none) : Attentive env t := by
  intro expiry hwait
  rw [hw] at hwait
  cases hwait

lemma Attentive.of_wake (hwake : t.wake = true) : Attentive env t :=
  fun _ _ => .inl hwake

variable [Client ρ]

/-- Who gives work to a waiting worker wakes it. -/
lemma Attentive.step (hs : Attentive env s) (h : Rule env cfg s e t) : Attentive env t := by
  cases h with
  | started | coalesced | accepted | polled => exact .of_wake rfl
  | closeBegun =>
    apply Attentive.of_wake
    unfold beginClose
    dsimp only
    split <;> rfl
  | startedClosing => exact .of_worker rfl
  | joined => exact .of_none rfl
  | waited hw hc hq hdue hp hm =>
    intro expiry hwait
    cases hwait
    refine .inr ⟨hq, hp, hm, hc, fun due (hsome : s.verification.due = some due) => ?_⟩
    -- The verification is not due yet, so the delay is what remains until then.
    have hlater : s.now env < due := by simpa [hsome] using hdue
    rw [hsome, Option.map_some, max_eq_right (sub_nonneg.mpr hlater.le), Option.some.injEq]
    show env.loopTime (s.monoReads + 1) + (due - s.now env) =
      due + (env.loopTime (s.monoReads + 1) - s.now env)
    ring
  | stateFailed => exact .of_worker worker_stateExchangeFailed
  | stateDone => exact .of_worker worker_stateExchangeDone
  | workerCancelled | workerBegun | workerReturned | controlSelected | verificationStarted
  | pollStarted | maintenanceStarted | maintenanceSkipped | woken | timedOut | maintenanceFailed
  | maintenanceDone | controlSkipped | controlExpired | volumeGetStarted | attemptsBegun
  | volumeGetFailed | volumeGetDone | attemptsTimedOut | attemptsLeft | workerCrashed | setStarted
  | setRejected | firstFailed | secondFailed | setAcknowledged | slept => exact .of_worker rfl
  | _ =>
    intro expiry hwait
    rcases hs expiry hwait with hwake | ⟨hq, hp, hm, hc, htimer⟩
    · exact .inl hwake
    · exact .inr ⟨hq, hp, hm, hc, htimer⟩

lemma attentive_of_reachable (h : Transition.Reachable (step env cfg) {} s) : Attentive env s :=
  h.invariant (.of_none rfl) fun _ hs _ hst => hs.step (.of_step hst)

/-- A worker that is not in its wait goes on by itself. -/
lemma resumes_of_not_waiting {w : Worker} (hw : s.worker = some w) (hended : w.ended = false)
    (hnot : ∀ expiry, w ≠ .waiting expiry) : Resumes env cfg s := by
  cases w with
  | created => exact .run (by simp [Runtime.step, hw, stepRun])
  | loop => exact .run (by simp [Runtime.step, hw, stepRun])
  | control job => exact .run (by simp [Runtime.step, hw, stepRun])
  | attempt job failure => exact .run (by simp [Runtime.step, hw, stepRun])
  | waiting expiry => exact absurd rfl (hnot expiry)
  | retrySleep job failure delay => exact .slept (by simp [Runtime.step, hw])
  | sourceGet reason =>
    refine .reply fun r => ?_
    simp only [Runtime.step, hw, stepReply]
    split <;> rfl
  | maintenanceGet =>
    refine .reply fun r => ?_
    simp only [Runtime.step, hw, stepReply]
    split <;> rfl
  | volumeGet job =>
    refine .reply fun r => ?_
    simp only [Runtime.step, hw, stepReply]
    split <;> rfl
  | setting job first request =>
    refine .reply fun r => ?_
    simp only [Runtime.step, hw, stepReply]
    split <;> rfl
  | returned | cancelled | crashed => cases hended

/-- In every run, a worker that waits without being woken has nothing to do before its timer runs
out, and a verification that is due then has waited no longer than it took to set the timer. So
whenever there is work, or a verification is planned, a worker that has not ended goes on by itself,
and at the head of its loop it does not go to wait with work left. -/
theorem no_lost_wakeup (h : Transition.Reachable (step env cfg) {} s) :
    (∀ expiry, s.worker = some (.waiting expiry) → s.wake = false → NothingToDo env s expiry) ∧
    (∀ w, s.worker = some w → w.ended = false → HasWork s ∨ s.verification.due ≠ none →
      Resumes env cfg s) ∧
    ∀ t expiry, s.worker = some .loop → HasWork s → step env cfg s .run = some t →
      t.worker ≠ some (.waiting expiry) := by
  have hattentive := attentive_of_reachable h
  refine ⟨?_, ?_, ?_⟩
  · intro expiry hw hwake
    refine (hattentive expiry hw).resolve_left ?_
    simp [hwake]
  · intro w hw hended hwork
    by_cases hwait : ∃ expiry, w = .waiting expiry
    · obtain ⟨expiry, rfl⟩ := hwait
      rcases hattentive expiry hw with hwake | ⟨hq, hp, hm, hc, htimer⟩
      · exact .woken (by simp [step, hw, hwake])
      · rcases hwork with hwork | hdue
        · simp [HasWork, hq, hp, hm, hc] at hwork
        · obtain ⟨due, hsome⟩ := Option.ne_none_iff_exists'.mp hdue
          obtain rfl := htimer due hsome
          exact .timedOut (by simp [step, hw])
    · exact resumes_of_not_waiting hw hended fun expiry heq => hwait ⟨expiry, heq⟩
  · intro t expiry hw hwork hst hwait
    cases Rule.of_step hst with
    | waited hw' hc hq hdue hp hm => simp [HasWork, hq, hp, hm, hc] at hwork
    | _ => cases hwait

/-- A `turn_on` whose verification is due after a second, and the worker that waits for it. -/
def awaitingVerification : List (Event Transcript) :=
  [.start, .run, .run, .submit .turnOn, .reply (Transcript.source 0x0B), .run, .run, .run,
    .reply (Transcript.status 0x11), .run, .reply (Transcript.volume 20), .run]

/-- The worker waits for the verification of a turn_on, and a poll wakes it. -/
theorem no_lost_wakeup_poll : ∃ s t : Runtime Transcript,
    Transition.Reachable (step .ticking .ofOptions) {} s ∧
    s.worker = some (.waiting (some (113 / 100))) ∧ s.verification.due ≠ none ∧
    NothingToDo .ticking s (some (113 / 100)) ∧
    step .ticking .ofOptions s .poll = some t ∧ t.worker = some (.waiting (some (113 / 100))) ∧
    Resumes .ticking .ofOptions t := by
  have hrun : (Transition.run (step .ticking .ofOptions) awaitingVerification {}).any
      (fun s => s.worker = some (.waiting (some (113 / 100))) ∧ s.wake = false ∧
        s.closing = false ∧ s.verification.due ≠ none) = true := by
    decide +kernel
  obtain ⟨s, hs, hs'⟩ := Transition.exists_reachable_of_run hrun
  obtain ⟨hw, hwake, hc, hdue⟩ := of_decide_eq_true hs'
  have hst : step .ticking .ofOptions s .poll = some s.addPoll := by
    simp [step, hw, idle, Worker.running, stepProducer, asyncPoll, hc]
  refine ⟨s, s.addPoll, hs, hw, hdue, (no_lost_wakeup hs).1 _ hw hwake, hst, hw, ?_⟩
  exact (no_lost_wakeup (hs.tail trivial hst)).2.1 _ hw rfl (.inl (.inr (.inl rfl)))

/-- The timer of this wait runs out a hundredth of a second after the verification is due. -/
theorem timer_after_due : ∃ s : Runtime Transcript,
    Transition.Reachable (step .ticking .ofOptions) {} s ∧ s.wake = false ∧
    ∃ due expiry, s.verification.due = some due ∧ s.worker = some (.waiting (some expiry)) ∧
      due < expiry := by
  have hrun : (Transition.run (step .ticking .ofOptions) awaitingVerification {}).any
      (fun s => s.wake = false ∧ s.verification.due = some (28 / 25) ∧
        s.worker = some (.waiting (some (113 / 100)))) = true := by
    decide +kernel
  obtain ⟨s, hs, hs'⟩ := Transition.exists_reachable_of_run hrun
  obtain ⟨hwake, hdue, hw⟩ := of_decide_eq_true hs'
  exact ⟨s, hs, hwake, _, _, hdue, hw, by norm_num⟩

end Runtime

end KefLsx
