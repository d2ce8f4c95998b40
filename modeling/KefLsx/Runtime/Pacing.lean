import Mathlib.Order.Monotone.Basic
import KefLsx.Runtime.Exchanges

/-!
# The pace of verification

Whenever a verification is due, the last command has not been verified, which is what the end of a
verification GET asks for before it moves the due time. So the end of such a GET always moves the
due time, by a delay, or ends the plan, and the next one is at least a delay later.
-/

namespace KefLsx

namespace Ledger

variable {ρ : Type} {env : Env} {cfg : Config} {l l' l'' : Ledger ρ}

/-- The plan ends, or its next GET is due a delay after a reading of the clock that is made here,
and the last command is still to be verified. -/
inductive Replanned (env : Env) (cfg : Config) (l l' : Ledger ρ) : Prop where
  | ended (hdue : l'.verification.due = none)
  | due (n : ℕ) (delay : Time) (hn : l.monoReads ≤ n) (hn' : n < l'.monoReads)
      (hdelay : delay ∈ cfg.timing.verificationDelays)
      (hdue : l'.verification.due = some (env.monotonic n + delay))
      (hawaits : l'.awaitsVerification = true)

/-- The due time is kept, and so is the last command, or one that has not been verified is
stored. -/
structure Kept (l l' : Ledger ρ) : Prop where
  due : l'.verification.due = l.verification.due
  awaits : l.awaitsVerification = true → l'.awaitsVerification = true

/-- What happens to the due time in some pieces of a coroutine. -/
structure Paced (env : Env) (cfg : Config) (l l' : Ledger ρ) : Prop where
  reads : l.monoReads ≤ l'.monoReads
  due : Kept l l' ∨ Replanned env cfg l l'

lemma Kept.trans (h : Kept l l') (h' : Kept l' l'') : Kept l l'' :=
  ⟨h'.due.trans h.due, h'.awaits ∘ h.awaits⟩

lemma Replanned.kept (h : Replanned env cfg l l') (h' : Kept l' l'')
    (hreads : l'.monoReads ≤ l''.monoReads) : Replanned env cfg l l'' := by
  cases h with
  | ended hdue => exact .ended (h'.due.trans hdue)
  | due n delay hn hn' hdelay hdue hawaits =>
    exact .due n delay hn (hn'.trans_le hreads) hdelay (h'.due.trans hdue) (h'.awaits hawaits)

/-- Readings before those that count make no difference. -/
lemma Replanned.of_le (h : Replanned env cfg l' l'') (hreads : l.monoReads ≤ l'.monoReads) :
    Replanned env cfg l l'' := by
  cases h with
  | ended hdue => exact .ended hdue
  | due n delay hn hn' hdelay hdue hawaits =>
    exact .due n delay (hreads.trans hn) hn' hdelay hdue hawaits

namespace Paced

lemma trans (h : Paced env cfg l l') (h' : Paced env cfg l' l'') : Paced env cfg l l'' := by
  refine ⟨h.reads.trans h'.reads, ?_⟩
  rcases h'.due with hkept' | hnext'
  · rcases h.due with hkept | hnext
    · exact .inl (hkept.trans hkept')
    · exact .inr (hnext.kept hkept' h'.reads)
  · exact .inr (hnext'.of_le h.reads)

/-- Neither the plan nor the last command changes. -/
lemma kept (hdue : l'.verification.due = l.verification.due)
    (hlast : l'.snapshot.lastCommand = l.snapshot.lastCommand)
    (hreads : l.monoReads ≤ l'.monoReads) : Paced env cfg l l' := by
  refine ⟨hreads, .inl ⟨hdue, fun hawaits => ?_⟩⟩
  rwa [awaitsVerification, hlast]

/-- A last command is stored that has not been verified. -/
lemma stored {result : CommandResult} (hlast : l'.snapshot.lastCommand = some result)
    (hverified : result.verified = none) (hdue : l'.verification.due = l.verification.due)
    (hreads : l.monoReads ≤ l'.monoReads) : Paced env cfg l l' := by
  refine ⟨hreads, .inl ⟨hdue, fun _ => ?_⟩⟩
  simp [awaitsVerification, hlast, hverified]

lemma ended (hdue : l'.verification.due = none) (hreads : l.monoReads ≤ l'.monoReads) :
    Paced env cfg l l' := ⟨hreads, .inr (.ended hdue)⟩

end Paced

lemma paced_tick : Paced env cfg l l.tick := .kept rfl rfl (Nat.le_succ _)

lemma paced_emit {o : Obs ρ} : Paced env cfg l (l.emit o) := .kept rfl rfl le_rfl

lemma paced_recordSuccess {stateSuccess : Bool} :
    Paced env cfg l (l.recordSuccess env cfg stateSuccess) :=
  .kept rfl rfl (Nat.le_add_right l.monoReads 2)

lemma paced_recordPrimaryFailure {name : String} :
    Paced env cfg l (l.recordPrimaryFailure env cfg name) := .kept rfl rfl (Nat.le_succ _)

lemma paced_recordOptionalFailure {name : String} :
    Paced env cfg l (l.recordOptionalFailure env cfg name) := .kept rfl rfl (Nat.le_succ _)

lemma paced_applySource {status : SourceStatus} : Paced env cfg l (l.applySource status) :=
  .kept rfl rfl le_rfl

lemma paced_applyVolume {status : VolumeStatus} : Paced env cfg l (l.applyVolume status) :=
  .kept rfl rfl le_rfl

lemma paced_stampVolume : Paced env cfg l (l.stampVolume env) := .kept rfl rfl (Nat.le_succ _)

/-- The result of an entry is stored as it was made at its submission, to be verified. -/
lemma paced_finishControlError {job : Control} {error : ControlError} {attempted : Bool}
    {outcome : Outcome} (hverified : job.result.verified = none) :
    Paced env cfg l (l.finishControlError env job error attempted outcome) :=
  .stored rfl hverified rfl le_rfl

lemma awaits_finishControlError {job : Control} {error : ControlError} {attempted : Bool}
    {outcome : Outcome} (hverified : job.result.verified = none) :
    (l.finishControlError env job error attempted outcome).awaitsVerification = true := by
  simp [awaitsVerification, Control.failedResult, hverified]

/-- As long as the last command is to be verified, another GET is planned a delay from now, or
the plan ends. -/
lemma replanned_scheduleNextVerification (hawaits : l.awaitsVerification = true) :
    Replanned env cfg l (l.scheduleNextVerification env cfg) := by
  unfold scheduleNextVerification
  dsimp only
  split
  · exact .ended rfl
  · rename_i delay hdelay
    exact .due l.monoReads delay le_rfl (Nat.lt_succ_self _) (List.mem_of_getElem? hdelay) rfl
      hawaits

lemma replanned_completeVerification (hawaits : l.awaitsVerification = true) :
    Replanned env cfg l (l.completeVerification env cfg) := by
  unfold completeVerification
  split
  · exact .ended rfl
  · refine Replanned.of_le (replanned_scheduleNextVerification ?_) le_rfl
    exact hawaits

lemma replanned_startVerification {job : Control} {expected : SpeakerState}
    (hawaits : l.awaitsVerification = true) :
    Replanned env cfg l (l.startVerification env cfg job expected) :=
  .due l.monoReads _ le_rfl (Nat.lt_succ_self _) (List.head_mem _) rfl hawaits

lemma paced_verify {reason : Reason} : Paced env cfg l (l.verify env cfg reason) := by
  refine ⟨Noted.verify.reads, ?_⟩
  have htick : Kept l (if l.verification.due.isSome then l.tick else l) := by
    split <;> exact ⟨rfl, id⟩
  have hreads : l.monoReads ≤ (if l.verification.due.isSome then l.tick else l).monoReads := by
    split <;> simp
  unfold verify
  dsimp only
  split
  · rename_i hverifies
    simp only [verifiesNow, Bool.and_eq_true] at hverifies
    exact .inr ((replanned_completeVerification (htick.awaits hverifies.2)).of_le hreads)
  · exact .inl htick

/-- A verification GET that was due ends by moving the due time. -/
lemma replanned_verify (hdue : ∀ due ∈ l.verification.due, due ≤ l.now env)
    (hawaits : l.awaitsVerification = true) :
    Replanned env cfg l (l.verify env cfg .verification) := by
  cases hd : l.verification.due with
  | none =>
    refine .ended ?_
    simp [verify, verifiesNow, hd]
  | some due =>
    have hverifies : l.verifiesNow env .verification = true := by
      simp [verifiesNow, hd, hawaits, hdue due (by simp [hd])]
    unfold verify
    dsimp only
    rw [if_pos hverifies, hd, Option.isSome_some, if_pos rfl]
    have hnext : Replanned env cfg l.tick (l.tick.completeVerification env cfg) :=
      replanned_completeVerification hawaits
    exact hnext.of_le (by simp)

end Ledger

namespace Runtime

open Log

variable {ρ : Type} {env : Env} {cfg : Config} {s t : Runtime ρ} {e : Event ρ} {job : Control}

lemma paced_stateExchangeFailed {reason : Reason} {r : ρ} {error : LsxError}
    (hawaits : reason = .verification → s.awaitsVerification = true) :
    Ledger.Paced env cfg s.toLedger (s.stateExchangeFailed env cfg reason r error).toLedger ∧
      (reason = .verification → Ledger.Replanned env cfg s.toLedger
        (s.stateExchangeFailed env cfg reason r error).toLedger) := by
  obtain ⟨l, hl, heq⟩ : ∃ l : Ledger ρ, _ ∧
    (s.stateExchangeFailed env cfg reason r error).toLedger = _ := stateExchangeFailed_eq
  have hcounted : Ledger.Paced env cfg s.toLedger l := by
    rcases hl with ⟨-, rfl⟩ | ⟨-, rfl⟩
    · exact Ledger.paced_emit.trans Ledger.paced_recordPrimaryFailure
    · exact Ledger.paced_emit
  have hlast : l.awaitsVerification = s.awaitsVerification := by
    rcases hl with ⟨-, rfl⟩ | ⟨-, rfl⟩ <;> rfl
  rw [heq]
  cases reason with
  | poll => exact ⟨hcounted, fun h => by cases h⟩
  | verification =>
    rw [if_pos rfl]
    have hnext : Ledger.Replanned env cfg (l.recordOptionalFailure env cfg error.type.name)
        ((l.recordOptionalFailure env cfg error.type.name).scheduleNextVerification env cfg) :=
      Ledger.replanned_scheduleNextVerification (hlast.trans (hawaits rfl))
    have hreads : s.monoReads ≤ (l.recordOptionalFailure env cfg error.type.name).monoReads :=
      (hcounted.trans Ledger.paced_recordOptionalFailure).reads
    refine ⟨⟨?_, .inr (hnext.of_le hreads)⟩, fun _ => hnext.of_le hreads⟩
    exact hreads.trans Ledger.Noted.scheduleNextVerification.reads

lemma paced_stateExchangeDone {reason : Reason} {r : ρ} {status : SourceStatus} :
    Ledger.Paced env cfg s.toLedger
      (s.stateExchangeDone env cfg reason r status).toLedger := by
  rw [stateExchangeDone_eq]
  exact Ledger.paced_applySource.trans (Ledger.paced_emit.trans
    (Ledger.paced_recordSuccess.trans (Ledger.paced_verify.trans Ledger.paced_tick)))

/-- The end of a decoded verification GET. -/
lemma replanned_stateExchangeDone {r : ρ} {status : SourceStatus} (hmono : Monotone env.monotonic)
    (hdue : ∀ due ∈ s.verification.due, due ≤ s.now env)
    (hawaits : s.awaitsVerification = true) :
    Ledger.Replanned env cfg s.toLedger
      (s.stateExchangeDone env cfg .verification r status).toLedger := by
  obtain ⟨l, hrecorded, hlast, hplan, heq⟩ : ∃ l : Ledger ρ, Ledger.Paced env cfg s.toLedger l ∧
      l.awaitsVerification = s.awaitsVerification ∧ l.verification.due = s.verification.due ∧
      (s.stateExchangeDone env cfg .verification r status).toLedger =
        (l.verify env cfg .verification).tick :=
    ⟨_, Ledger.paced_applySource.trans (Ledger.paced_emit.trans Ledger.paced_recordSuccess), rfl,
      rfl, stateExchangeDone_eq⟩
  have hnext : Ledger.Replanned env cfg l (l.verify env cfg .verification) := by
    apply Ledger.replanned_verify
    · intro due hmem
      exact (hdue due (hplan ▸ hmem)).trans (hmono hrecorded.reads)
    · exact hlast.trans hawaits
  rw [heq]
  exact (hnext.of_le hrecorded.reads).kept ⟨rfl, id⟩ (Nat.le_succ _)

/-- A failed control leaves its result as the last command, and its plan, if it starts one, is due
after a delay. -/
lemma paced_controlFailed {failure : Failure} (hverified : job.result.verified = none) :
    Ledger.Paced env cfg s.toLedger (s.controlFailed env cfg job failure).toLedger := by
  obtain ⟨l, hl, heq⟩ : ∃ l : Ledger ρ, _ ∧
    (s.controlFailed env cfg job failure).toLedger = _ := controlFailed_eq
  have hcompleted : Ledger.Paced env cfg s.toLedger
      (l.finishControlError env job (.lsx failure.error) failure.attempted
        (.failed failure.error)) := by
    rcases hl with ⟨-, rfl⟩ | ⟨-, rfl⟩
    · exact Ledger.paced_finishControlError hverified
    · exact Ledger.paced_recordPrimaryFailure.trans (Ledger.paced_finishControlError hverified)
  rw [heq]
  split
  · refine ⟨hcompleted.reads.trans (Nat.le_succ _), .inr ?_⟩
    exact (Ledger.replanned_startVerification
      (Ledger.awaits_finishControlError hverified)).of_le hcompleted.reads
  · exact hcompleted

lemma paced_controlAcknowledged {first : Option Failure} {r : ρ} :
    Ledger.Paced env cfg s.toLedger (s.controlAcknowledged env cfg job first r).toLedger := by
  obtain ⟨l, hl, heq⟩ : ∃ l : Ledger ρ, _ ∧
    (s.controlAcknowledged env cfg job first r).toLedger = _ := controlAcknowledged_eq
  have hoptimistic : Ledger.Paced env cfg s.toLedger l := by
    rcases hl with rfl | rfl
    · exact .kept rfl rfl le_rfl
    · exact .kept rfl rfl (Nat.le_succ _)
  have hcompleted : Ledger.Paced env cfg s.toLedger
      (((l.emit (.setEnded job.id (attemptNumber first) r (l.now env))).recordSuccess env cfg
        false).storeAcknowledged env job) :=
    hoptimistic.trans (Ledger.paced_emit.trans (Ledger.paced_recordSuccess.trans
      (.stored rfl rfl rfl le_rfl)))
  rw [heq]
  split
  · refine ⟨hcompleted.reads.trans (Nat.le_succ _), .inr ?_⟩
    exact ((Ledger.replanned_startVerification rfl).of_le hcompleted.reads).kept ⟨rfl, id⟩ le_rfl
  · exact hcompleted.trans (.kept rfl rfl le_rfl)

lemma now_le_now (hmono : Monotone env.monotonic) (hreads : s.monoReads ≤ t.monoReads) :
    s.now env ≤ t.now env := hmono hreads

/-- The next verification GET is due a delay after the one that ends now. -/
lemma spaced_of_replanned (hmono : Monotone env.monotonic)
    (h : Ledger.Replanned env cfg s.toLedger t.toLedger) :
    ∀ due ∈ t.verification.due, ∃ delay ∈ cfg.timing.verificationDelays,
      s.now env + delay ≤ due := by
  intro due hdue
  cases h with
  | ended hnone =>
    rw [hnone] at hdue
    cases hdue
  | due n delay hn hn' hdelay hsome =>
    rw [hsome] at hdue
    cases hdue
    exact ⟨delay, hdelay, add_le_add (hmono hn) le_rfl⟩

variable [Client ρ]

omit [Client ρ] in
lemma LeavesAttempts.paced {job : Control} (h : s.LeavesAttempts env job t) :
    Ledger.Paced env cfg s.toLedger t.toLedger := by
  cases h with
  | closing => exact .kept rfl rfl le_rfl
  | expired => exact Ledger.paced_tick

lemma paced_of_rule (hs : Scheduled env cfg s)
    (hawaits : s.worker = some (.sourceGet .verification) → s.awaitsVerification = true)
    (h : Rule env cfg s e t) : Ledger.Paced env cfg s.toLedger t.toLedger := by
  have hverified : ∀ job, s.activeControl = some job → job.result.verified = none := by
    intro job hjob
    obtain ⟨time, hresult⟩ := (hs.admitted job (mem_live_of_active hjob)).result
    rw [hresult]
  cases h with
  | started => exact .kept rfl rfl (Nat.le_succ _)
  | startedClosing => exact .kept rfl rfl (Nat.le_succ _)
  | accepted => exact .ended rfl (Nat.le_succ _)
  | closeBegun =>
    rw [frame_beginClose.2.1]
    exact .ended rfl le_rfl
  | controlSelected => exact Ledger.paced_tick
  | verificationStarted => exact Ledger.paced_tick.trans Ledger.paced_emit
  | pollStarted => exact Ledger.paced_tick.trans Ledger.paced_emit
  | maintenanceStarted => exact Ledger.paced_tick.trans Ledger.paced_emit
  | maintenanceSkipped => exact Ledger.paced_tick
  | waited => exact Ledger.paced_tick
  | stateFailed reason r error hw =>
    exact (paced_stateExchangeFailed fun heq => hawaits (heq ▸ hw)).1
  | stateDone => exact paced_stateExchangeDone
  | maintenanceFailed => exact Ledger.paced_emit.trans Ledger.paced_recordOptionalFailure
  | maintenanceDone =>
    exact Ledger.paced_applyVolume.trans (Ledger.paced_stampVolume.trans
      (Ledger.paced_emit.trans Ledger.paced_recordSuccess))
  | controlExpired job hw =>
    have hjob := hverified job (activeControl_of_worker hw)
    exact Ledger.paced_tick.trans (Ledger.paced_finishControlError hjob)
  | volumeGetStarted =>
    exact Ledger.paced_tick.trans (Ledger.paced_tick.trans Ledger.paced_emit)
  | attemptsBegun => exact Ledger.paced_tick
  | volumeGetFailed job r error hw =>
    have hjob := hverified job (activeControl_of_worker hw)
    exact Ledger.paced_emit.trans (Ledger.paced_recordPrimaryFailure.trans
      (Ledger.paced_finishControlError hjob))
  | volumeGetDone =>
    exact Ledger.paced_applyVolume.trans (Ledger.paced_stampVolume.trans
      (Ledger.paced_emit.trans Ledger.paced_recordSuccess))
  | attemptsTimedOut job s' hw hleft =>
    have hjob := hverified job (activeControl_of_worker hw)
    exact hleft.paced.trans (Ledger.paced_recordPrimaryFailure.trans
      (Ledger.paced_finishControlError hjob))
  | attemptsLeft job failure s' hw hleft =>
    have hjob := hverified job (activeControl_of_worker hw)
    exact hleft.paced.trans (paced_controlFailed hjob)
  | workerCrashed => exact Ledger.paced_tick.trans Ledger.paced_tick
  | setStarted => exact Ledger.paced_tick.trans (Ledger.paced_tick.trans Ledger.paced_emit)
  | setRejected job first request r error hw =>
    have hjob := hverified job (activeControl_of_worker hw)
    have hrecorded : Ledger.Paced env cfg s.toLedger
        ((s.setEnded env job first r).record (·.recordSuccess env cfg false)).toLedger :=
      Ledger.paced_emit.trans Ledger.paced_recordSuccess
    exact hrecorded.trans (paced_controlFailed hjob)
  | firstFailed => exact Ledger.paced_emit.trans Ledger.paced_tick
  | secondFailed job first request r error hw =>
    have hjob := hverified job (activeControl_of_worker hw)
    have hended : Ledger.Paced env cfg s.toLedger (s.setEnded env job (some first) r).toLedger :=
      Ledger.paced_emit
    exact hended.trans (paced_controlFailed hjob)
  | setAcknowledged => exact paced_controlAcknowledged
  | _ => exact .kept rfl rfl le_rfl

/-- A verification GET is in flight: it has been before this step, which keeps the plan or clears
it, or this step has started it because it was due. -/
lemma verification_in_flight (h : Rule env cfg s e t)
    (ht : t.worker = some (.sourceGet .verification)) :
    s.worker = some (.sourceGet .verification) ∧
        (t.verification.due = s.verification.due ∨ t.verification.due = none) ∧
        (s.awaitsVerification = true → t.awaitsVerification = true) ∨
      s.verification.due.any (· ≤ s.now env) = true ∧ t.verification.due = s.verification.due ∧
        t.awaitsVerification = s.awaitsVerification := by
  cases h with
  | accepted => exact .inl ⟨ht, .inr rfl, fun _ => rfl⟩
  | closeBegun =>
    obtain ⟨hworker, hledger, -⟩ := frame_beginClose (s := s)
    rw [hledger]
    exact .inl ⟨hworker ▸ ht, .inr rfl, id⟩
  | verificationStarted hw hc hq hdue => exact .inr ⟨hdue, rfl, rfl⟩
  | setPublisher | alreadyStarted | submitClosed | coalesced | refused | pollClosed | polled
  | callerCancelled | closeShared | shutdownTimedOut | joinFailed | clientClosed =>
    exact .inl ⟨ht, .inl rfl, id⟩
  | _ => cases ht

/-- The end of a verification GET moves the due time or ends the plan. -/
lemma replanned_of_reply {r : ρ} (h : Rule env cfg s (.reply r) t)
    (hmono : Monotone env.monotonic) (hw : s.worker = some (.sourceGet .verification))
    (hdue : ∀ due ∈ s.verification.due, due ≤ s.now env)
    (hawaits : s.awaitsVerification = true) :
    Ledger.Replanned env cfg s.toLedger t.toLedger := by
  cases h with
  | stateFailed reason r error hw' =>
    rw [hw] at hw'
    cases hw'
    exact (paced_stateExchangeFailed fun _ => hawaits).2 rfl
  | stateDone reason r status hw' =>
    rw [hw] at hw'
    cases hw'
    exact replanned_stateExchangeDone hmono hdue hawaits
  | maintenanceFailed r error hw' | maintenanceDone r status hw' =>
    rw [hw] at hw'
    cases hw'
  | volumeGetFailed job r error hw' | volumeGetDone job r status hw' =>
    rw [hw] at hw'
    cases hw'
  | setRejected job first request r error hw' | firstFailed job request r error hw'
  | secondFailed job first request r error hw' | setAcknowledged job first request r hw' =>
    rw [hw] at hw'
    cases hw'

/-! ### The invariant -/

/-- A verification that is due is one of the last command, which has not been verified. -/
structure Awaited (s : Runtime ρ) : Prop where
  planned : s.verification.due ≠ none → s.awaitsVerification = true
  inFlight : s.worker = some (.sourceGet .verification) → s.awaitsVerification = true

lemma Awaited.step (h : Awaited s) (hs : Scheduled env cfg s) (hrule : Rule env cfg s e t) :
    Awaited t := by
  constructor
  · intro hdue
    rcases (paced_of_rule hs h.inFlight hrule).due with ⟨hsame, hawaits⟩ | hnext
    · exact hawaits (h.planned (hsame ▸ hdue))
    · cases hnext with
      | ended hnone => exact absurd hnone hdue
      | due n delay hn hn' hdelay hsome hawaits => exact hawaits
  · intro ht
    rcases verification_in_flight hrule ht with ⟨hw, -, hawaits⟩ | ⟨hdue, -, hsame⟩
    · exact hawaits (h.inFlight hw)
    · rw [hsame]
      apply h.planned
      intro hnone
      simp [hnone] at hdue

lemma awaited_of_reachable (h : Transition.Reachable (step env cfg) {} s) : Awaited s := by
  refine h.invariant (I := Awaited) ⟨by simp, by simp⟩ ?_
  intro s t e hr hs _ hst
  exact hs.step (.of_reachable hr) (.of_step hst)

/-- A verification GET is started a delay after every one that has ended. -/
def SpacedOk (env : Env) (cfg : Config) : Obs ρ → List (Obs ρ) → Prop
  | .started reads (.sourceGet .verification) _, earlier =>
    ∀ polled r time, .sourceEnded .verification polled r time ∈ earlier →
      ∃ delay ∈ cfg.timing.verificationDelays, time + delay ≤ env.monotonic (reads - 1)
  | _, _ => True

/-- The next verification GET is due a delay after every one that has ended. -/
structure Spaced (env : Env) (cfg : Config) (s : Runtime ρ) : Prop where
  inFlight : s.worker = some (.sourceGet .verification) →
    ∀ due ∈ s.verification.due, due ≤ s.now env
  ended : ∀ polled r time, .sourceEnded .verification polled r time ∈ traffic s.log →
    time ≤ s.now env ∧ ∀ due ∈ s.verification.due,
      ∃ delay ∈ cfg.timing.verificationDelays, time + delay ≤ due
  entries : History.Each (SpacedOk env cfg) (traffic s.log)

omit [Client ρ] in
/-- What has been said of the due time and of a GET that has ended is kept by a step. -/
lemma Spaced.kept (h : Spaced env cfg s) (hmono : Monotone env.monotonic)
    (hpaced : Ledger.Paced env cfg s.toLedger t.toLedger) {polled : Bool} {r : ρ} {time : Time}
    (hmem : .sourceEnded .verification polled r time ∈ traffic s.log) :
    time ≤ t.now env ∧ ∀ due ∈ t.verification.due,
      ∃ delay ∈ cfg.timing.verificationDelays, time + delay ≤ due := by
  obtain ⟨htime, hnext⟩ := h.ended polled r time hmem
  refine ⟨htime.trans (now_le_now hmono hpaced.reads), ?_⟩
  intro due hdue
  rcases hpaced.due with hkept | hplanned
  · exact hnext due (hkept.due ▸ hdue)
  · cases hplanned with
    | ended hnone =>
      rw [hnone] at hdue
      cases hdue
    | due n delay hn hn' hdelay hsome =>
      rw [hsome] at hdue
      cases hdue
      refine ⟨delay, hdelay, ?_⟩
      exact add_le_add (htime.trans (hmono hn)) le_rfl

lemma Spaced.step (h : Spaced env cfg s) (hs : Scheduled env cfg s) (ha : Awaited s)
    (hmono : Monotone env.monotonic) (hrule : Rule env cfg s e t) : Spaced env cfg t := by
  have hpaced : Ledger.Paced env cfg s.toLedger t.toLedger := paced_of_rule hs ha.inFlight hrule
  have hinFlight : t.worker = some (.sourceGet .verification) →
      ∀ due ∈ t.verification.due, due ≤ t.now env := by
    intro ht due hdue
    refine le_trans ?_ (now_le_now hmono hpaced.reads)
    rcases verification_in_flight hrule ht with ⟨hw, hsame | hnone, -⟩ | ⟨hpast, hsame, -⟩
    · exact h.inFlight hw due (hsame ▸ hdue)
    · rw [hnone] at hdue
      cases hdue
    · rw [← hsame, hdue] at hpast
      simpa using hpast
  cases exchanged_of_rule hrule with
  | none htraffic =>
    refine ⟨hinFlight, ?_, htraffic ▸ h.entries⟩
    intro polled r time hmem
    exact h.kept hmono hpaced (htraffic ▸ hmem)
  | start call reads remaining hstarts hreads hlog =>
    have htraffic : traffic t.log = .started reads call remaining :: traffic s.log := by
      rw [hlog]
      exact traffic_cons rfl
    refine ⟨hinFlight, ?_, ?_⟩
    · intro polled r time hmem
      rw [htraffic] at hmem
      cases hmem with
      | tail _ hmem => exact h.kept hmono hpaced hmem
    · rw [htraffic]
      refine ⟨?_, h.entries⟩
      cases hstarts with
      | verification hw hc hq hpast =>
        intro polled r time hmem
        obtain ⟨due, hdue, hle⟩ := (Option.any_eq_true _ _).mp hpast
        obtain ⟨delay, hdelay, hspaced⟩ := (h.ended polled r time hmem).2 due hdue
        refine ⟨delay, hdelay, hspaced.trans ((of_decide_eq_true hle).trans ?_)⟩
        exact hmono (Nat.le_sub_one_of_lt hreads)
      | poll | maintenance | volumeGet | set => trivial
  | finish o hends htraffic =>
    refine ⟨hinFlight, ?_, ?_⟩
    · intro polled r time hmem
      rw [htraffic] at hmem
      cases hmem with
      | tail _ hmem => exact h.kept hmono hpaced hmem
      | head =>
        cases hends with
        | source reason r hw =>
          have hplanned : Ledger.Replanned env cfg s.toLedger t.toLedger :=
            replanned_of_reply hrule hmono hw (h.inFlight hw) (ha.inFlight hw)
          exact ⟨now_le_now hmono hpaced.reads, spaced_of_replanned hmono hplanned⟩
    · rw [htraffic]
      exact ⟨by cases hends <;> trivial, h.entries⟩

lemma spaced_of_reachable (hmono : Monotone env.monotonic)
    (h : Transition.Reachable (step env cfg) {} s) : Spaced env cfg s := by
  refine h.invariant (I := Spaced env cfg) ⟨by simp, by simp [traffic], trivial⟩ ?_
  intro s t e hr hs _ hst
  exact hs.step (.of_reachable hr) (awaited_of_reachable hr) hmono (.of_step hst)

/-- A verification that is due is one of the last command, and that command has not been verified.
The end of a verification GET, decoded or not, and whatever was submitted meanwhile, ends the plan
or plans another GET for a time after it, by a delay. Every verification GET is started a delay
after every earlier one has ended. -/
theorem verification_never_spins (hmono : Monotone env.monotonic)
    (hpos : ∀ delay ∈ cfg.timing.verificationDelays, 0 < delay)
    (h : Transition.Reachable (step env cfg) {} s) :
    (s.verification.due ≠ none →
      ∃ result, s.snapshot.lastCommand = some result ∧ result.verified = none) ∧
    (s.worker = some (.sourceGet .verification) → ∀ r t, step env cfg s (.reply r) = some t →
      ∀ due ∈ t.verification.due, ∃ n delay, s.monoReads ≤ n ∧ n < t.monoReads ∧
        delay ∈ cfg.timing.verificationDelays ∧ due = env.monotonic n + delay ∧
        env.monotonic n < due ∧ s.now env < due) ∧
    ∀ later reads remaining earlier,
      s.log = later ++ .started reads (.sourceGet .verification) remaining :: earlier →
      ∀ polled r time, .sourceEnded .verification polled r time ∈ earlier →
        ∃ delay ∈ cfg.timing.verificationDelays, time + delay ≤ env.monotonic (reads - 1) := by
  have hawaited := awaited_of_reachable h
  have hspaced := spaced_of_reachable hmono h
  refine ⟨?_, ?_, ?_⟩
  · intro hdue
    obtain ⟨result, hlast, hnone⟩ := (Option.any_eq_true _ _).mp (hawaited.planned hdue)
    exact ⟨result, hlast, Option.isNone_iff_eq_none.mp hnone⟩
  · intro hw r t hst due hdue
    have hplanned : Ledger.Replanned env cfg s.toLedger t.toLedger :=
      replanned_of_reply (.of_step hst) hmono hw (hspaced.inFlight hw) (hawaited.inFlight hw)
    cases hplanned with
    | ended hnone =>
      rw [hnone] at hdue
      cases hdue
    | due n delay hn hn' hdelay hsome =>
      rw [hsome] at hdue
      cases hdue
      have hlt : env.monotonic n < env.monotonic n + delay := lt_add_of_pos_right _ (hpos _ hdelay)
      exact ⟨n, delay, hn, hn', hdelay, rfl, hlt, (hmono hn).trans_lt hlt⟩
  · intro later reads remaining earlier hlog polled r time hmem
    have hentries := hspaced.entries
    rw [hlog, traffic_split rfl] at hentries
    have hok := History.each_iff.mp hentries _ _ _ rfl
    exact hok polled r time (List.mem_filter.mpr ⟨hmem, rfl⟩)

/-- The first verification GET of a turn_on cannot connect: the second is in flight, and it was
started a delay after the first had ended. -/
theorem verification_never_spins_retry : ∃ (s : Runtime Transcript) (delay : Time),
    Transition.Reachable (step .slow .ofOptions) {} s ∧
    s.worker = some (.sourceGet .verification) ∧ s.verification.due ≠ none ∧
    (∃ result, s.snapshot.lastCommand = some result ∧ result.verified = none) ∧
    10 + delay ≤ Env.slow.monotonic (15 - 1) ∧
    ∀ t, step .slow .ofOptions s (.reply (Transcript.source 0x0C)) = some t →
      ∀ due ∈ t.verification.due, s.now .slow < due := by
  have hrun : (Transition.run (step .slow .ofOptions)
      [.start, .submit .turnOn, .run, .run, .run, .run, .reply (Transcript.status 0x11), .run,
        .reply (Transcript.connectFailed .refused), .run, .timedOut, .run]
      ({} : Runtime Transcript)).any (fun s =>
        s.worker = some (.sourceGet .verification) ∧ s.verification.due ≠ none ∧
        s.log.head? = some (.started 15 (.sourceGet .verification) none) ∧
        .sourceEnded .verification true (Transcript.connectFailed .refused) 10 ∈ s.log.tail) =
      true := by
    decide +kernel
  obtain ⟨s, hs, hs'⟩ := Transition.exists_reachable_of_run hrun
  obtain ⟨hw, hdue, hhead, hended⟩ := of_decide_eq_true hs'
  obtain ⟨earlier, hlog⟩ := List.head?_eq_some_iff.mp hhead
  have hmono : Monotone Env.slow.monotonic := Nat.mono_cast
  have hpos : ∀ delay ∈ Config.ofOptions.timing.verificationDelays, 0 < delay := by decide +kernel
  obtain ⟨hawaited, hnext, hspaced⟩ := verification_never_spins hmono hpos hs
  rw [hlog] at hended
  obtain ⟨delay, -, hdelay⟩ := hspaced [] _ _ _ hlog _ _ _ hended
  refine ⟨s, delay, hs, hw, hdue, hawaited hdue, hdelay, ?_⟩
  intro t ht due hmem
  obtain ⟨n, delay', -, -, -, -, -, hlt⟩ := hnext hw _ t ht due hmem
  exact hlt

end Runtime

end KefLsx
