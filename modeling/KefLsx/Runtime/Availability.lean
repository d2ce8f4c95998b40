import Mathlib.Data.Nat.Cast.Order.Basic
import KefLsx.Runtime.Schedule

/-!
# Availability

`CommunicationHealth` counts the primary failures since the last valid response, and declares the
speaker unavailable when there are enough of them and the last valid response is long past. Both
are read off the log here, and compared with what the recording methods keep.
-/

namespace KefLsx

/-! ### Reading the log -/

namespace Obs

variable {ρ : Type} [Client ρ]

/-- A valid GET answer, an acknowledgement or a rejection. -/
def isValid : Obs ρ → Bool
  | sourceEnded _ _ r _ => (Client.asyncGetSource r).isOk
  | maintenanceEnded r _ | volumeEnded _ r _ => (Client.asyncGetVolume r).isOk
  | setEnded _ _ r _ =>
    match Client.asyncSet r with
    | .ok () => true
    | .error e => e.isRejection
  | _ => false

/-- A source GET that fails while it is a poll or has a poll pending, or the end of a control with
an error other than a rejection, if it passed the deadline check of its last selection. -/
def isPrimaryFailure : Obs ρ → Bool
  | sourceEnded reason polled r _ =>
    !(Client.asyncGetSource r).isOk && (reason = .poll || polled)
  | completed _ (.failed e) _ => !e.isRejection
  | completed _ .timedOut _ => true
  | _ => false

/-- The time of a valid response. -/
def validTime? (o : Obs ρ) : Option Time :=
  if o.isValid then
    match o with
    | sourceEnded _ _ _ time | maintenanceEnded _ time | volumeEnded _ _ time
    | setEnded _ _ _ time => some time
    | _ => none
  else none

/-- Neither a response, nor a failure, nor a start. -/
def isNeutral : Obs ρ → Bool
  | opened _ => false
  | o => !o.isValid && !o.isPrimaryFailure

end Obs

namespace Log

variable {ρ : Type} [Client ρ]

/-- How many primary failures there were since the last valid response. -/
def primaryFailures : List (Obs ρ) → ℕ
  | [] => 0
  | o :: log =>
    if o.isValid then 0
    else if o.isPrimaryFailure then primaryFailures log + 1
    else primaryFailures log

/-- The time of the last valid response. -/
def lastValid (log : List (Obs ρ)) : Option Time := log.findSome? Obs.validTime?

omit [Client ρ] in
/-- The time at which the runtime was started first. -/
def openedAt : List (Obs ρ) → Option Time
  | [] => none
  | .opened time :: log => some ((openedAt log).getD time)
  | _ :: log => openedAt log

/-- The last valid response, or the start if there was none. -/
def since (log : List (Obs ρ)) : Time := (lastValid log).getD ((openedAt log).getD 0)

variable {log new : List (Obs ρ)} {o : Obs ρ}

lemma primaryFailures_cons_neutral (h : o.isNeutral = true) :
    primaryFailures (o :: log) = primaryFailures log := by
  cases o with
  | opened => cases h
  | _ =>
    simp only [Obs.isNeutral, Bool.and_eq_true, Bool.not_eq_true'] at h
    simp [primaryFailures, h.1, h.2]

lemma lastValid_cons_neutral (h : o.isNeutral = true) : lastValid (o :: log) = lastValid log := by
  have hnone : o.validTime? = none := by
    cases o with
    | opened => cases h
    | _ =>
      simp only [Obs.isNeutral, Bool.and_eq_true, Bool.not_eq_true'] at h
      simp [Obs.validTime?, h.1]
  rw [lastValid, List.findSome?_cons, hnone]
  rfl

omit [Client ρ] in
lemma openedAt_cons (h : ∀ time, o ≠ .opened time) : openedAt (o :: log) = openedAt log := by
  cases o with
  | opened time => exact absurd rfl (h time)
  | _ => rfl

end Log

/-! ### The health that the log tells -/

namespace Ledger

open Log

variable {ρ : Type} {env : Env} {cfg : Config} {l l' : Ledger ρ}

/-- The speaker is unavailable at this reading of the clock. -/
def Unavailable (cfg : Config) (failures : ℕ) (since now : Time) : Prop :=
  cfg.timing.failureThreshold ≤ failures ∧ cfg.timing.unavailableAfter ≤ now - since

/-- Availability is computed with the counter and the reading of the moment. -/
lemma available_computeHealth {health : CommunicationHealth} {failed : Bool} :
    (l.computeHealth env cfg health failed).available = false ↔
      Unavailable cfg health.consecutiveFailures (l.lastChannelMono.getD l.startedMono)
        (l.now env) := by
  simp [computeHealth, Unavailable]

lemma health_setVerified {value : Bool} :
    (l.setVerified value).snapshot.health = l.snapshot.health := by
  unfold setVerified
  split <;> rfl

lemma health_scheduleNextVerification :
    (l.scheduleNextVerification env cfg).snapshot.health = l.snapshot.health := by
  unfold scheduleNextVerification
  dsimp only
  split
  · split
    · exact health_setVerified
    · rfl
  · rfl

/-- Verification neither counts a failure nor computes availability. -/
lemma health_verify {reason : Reason} :
    (l.verify env cfg reason).snapshot.health.consecutiveFailures =
        l.snapshot.health.consecutiveFailures ∧
      (l.verify env cfg reason).snapshot.health.available = l.snapshot.health.available := by
  have hcomplete : ∀ l₁ : Ledger ρ, l₁.snapshot.health = l.snapshot.health →
      (l₁.completeVerification env cfg).snapshot.health.consecutiveFailures =
        l.snapshot.health.consecutiveFailures ∧
      (l₁.completeVerification env cfg).snapshot.health.available =
        l.snapshot.health.available := by
    intro l₁ heq
    unfold completeVerification
    split
    · have hset : ((l₁.setVerified true).clearVerification.publish).snapshot.health =
          l.snapshot.health := health_setVerified.trans heq
      rw [hset]
      exact ⟨rfl, rfl⟩
    · dsimp only
      rw [health_scheduleNextVerification, ← heq]
      exact ⟨rfl, rfl⟩
  unfold verify
  dsimp only
  split
  · apply hcomplete
    split <;> rfl
  · split <;> exact ⟨rfl, rfl⟩

variable [Client ρ]

/-- The log of `l'` tells of the same responses, failures and start as that of `l`. -/
structure SameHistory (l l' : Ledger ρ) : Prop where
  failures : primaryFailures l'.log = primaryFailures l.log
  valid : lastValid l'.log = lastValid l.log
  opened : openedAt l'.log = openedAt l.log

lemma SameHistory.of_log (h : l'.log = l.log) : SameHistory l l' :=
  ⟨by rw [h], by rw [h], by rw [h]⟩

lemma SameHistory.cons {o : Obs ρ} (h : l'.log = o :: l.log) (ho : o.isNeutral = true) :
    SameHistory l l' := by
  refine ⟨?_, ?_, ?_⟩ <;> rw [h]
  · exact primaryFailures_cons_neutral ho
  · exact lastValid_cons_neutral ho
  · refine openedAt_cons ?_
    rintro time rfl
    cases ho

lemma SameHistory.trans {l'' : Ledger ρ} (h : SameHistory l l') (h' : SameHistory l' l'') :
    SameHistory l l'' :=
  ⟨h'.failures.trans h.failures, h'.valid.trans h.valid, h'.opened.trans h.opened⟩

lemma SameHistory.of_noted (h : Noted l l') : SameHistory l l' := by
  obtain ⟨notes, hlog, hnotes⟩ := h.notes
  suffices hsame : primaryFailures (notes ++ l.log) = primaryFailures l.log ∧
      lastValid (notes ++ l.log) = lastValid l.log ∧
      openedAt (notes ++ l.log) = openedAt l.log by
    refine ⟨?_, ?_, ?_⟩ <;> rw [hlog]
    · exact hsame.1
    · exact hsame.2.1
    · exact hsame.2.2
  clear hlog
  induction notes with
  | nil => exact ⟨rfl, rfl, rfl⟩
  | cons o notes ih =>
    obtain ⟨h₁, h₂, h₃⟩ := ih fun o' ho' => hnotes o' (by simp [ho'])
    have hneutral : o.isNeutral = true := by
      have hnote := hnotes o (by simp)
      cases o with
      | planStarted | verified | mismatch => rfl
      | _ => cases hnote
    refine ⟨(primaryFailures_cons_neutral hneutral).trans h₁,
      (lastValid_cons_neutral hneutral).trans h₂, (openedAt_cons ?_).trans h₃⟩
    rintro time rfl
    cases hneutral

lemma SameHistory.since (h : SameHistory l l') : since l'.log = since l.log := by
  rw [Log.since, Log.since, h.valid, h.opened]

/-- The counter and the time of the last response are what the log tells, and unavailability has
its reasons, at the last reading of the clock and at every later one. -/
structure Healthy (env : Env) (cfg : Config) (l : Ledger ρ) : Prop where
  failures : l.snapshot.health.consecutiveFailures = primaryFailures l.log
  channel : l.lastChannelMono = lastValid l.log
  unavailable : l.snapshot.health.available = false → openedAt l.log ≠ none ∧
    ∀ n, l.monoReads ≤ n + 1 →
      Unavailable cfg (primaryFailures l.log) (Log.since l.log) (env.monotonic n)

/-- A step that records nothing. -/
lemma Healthy.congr (h : Healthy env cfg l) (hlog : SameHistory l l')
    (hreads : l.monoReads ≤ l'.monoReads)
    (hfailures : l'.snapshot.health.consecutiveFailures =
      l.snapshot.health.consecutiveFailures := by rfl)
    (havailable : l'.snapshot.health.available = l.snapshot.health.available := by rfl)
    (hchannel : l'.lastChannelMono = l.lastChannelMono := by rfl) : Healthy env cfg l' := by
  refine ⟨?_, ?_, ?_⟩
  · rw [hfailures, hlog.failures, h.failures]
  · rw [hchannel, hlog.valid, h.channel]
  · rw [havailable, hlog.failures, hlog.since, hlog.opened]
    intro hfalse
    obtain ⟨hopened, hall⟩ := h.unavailable hfalse
    exact ⟨hopened, fun n hn => hall n (hreads.trans hn)⟩

/-- The start is known to the health computation. -/
structure Opened (l : Ledger ρ) : Prop where
  opened : openedAt l.log ≠ none
  started : l.startedMono = (openedAt l.log).getD 0

lemma Opened.congr (h : Opened l) (hlog : SameHistory l l')
    (hstarted : l'.startedMono = l.startedMono) : Opened l' := by
  refine ⟨?_, ?_⟩
  · rw [hlog.opened]
    exact h.opened
  · rw [hstarted, hlog.opened, h.started]

/-- Unavailability was computed at the reading `m`. -/
lemma Healthy.computed (hmono : Monotone env.monotonic) {m : ℕ}
    (hfailures : l.snapshot.health.consecutiveFailures = primaryFailures l.log)
    (hchannel : l.lastChannelMono = lastValid l.log) (hopened : openedAt l.log ≠ none)
    (hm : m < l.monoReads) (havailable : l.snapshot.health.available = false →
      Unavailable cfg (primaryFailures l.log) (Log.since l.log) (env.monotonic m)) :
    Healthy env cfg l := by
  refine ⟨hfailures, hchannel, fun hfalse => ⟨hopened, fun n hn => ?_⟩⟩
  obtain ⟨hcount, hage⟩ := havailable hfalse
  have hle : env.monotonic m ≤ env.monotonic n := hmono (by omega)
  exact ⟨hcount, hage.trans (sub_le_sub_right hle _)⟩

/-- A primary failure is counted, and availability computed. -/
lemma Healthy.counted (h : Healthy env cfg l) (hopen : Opened l) (hmono : Monotone env.monotonic)
    {name : String} {o : Obs ρ} (ho : o.isPrimaryFailure = true) (hvalid : o.isValid = false)
    (hlog : l'.log = o :: l.log)
    (hhealth : l'.snapshot.health = (l.recordPrimaryFailure env cfg name).snapshot.health)
    (hchannel : l'.lastChannelMono = l.lastChannelMono) (hreads : l.monoReads < l'.monoReads) :
    Healthy env cfg l' ∧
      (l'.snapshot.health.available = false ↔
        Unavailable cfg (primaryFailures l'.log) (Log.since l'.log) (l.now env)) := by
  have hcount : primaryFailures l'.log = primaryFailures l.log + 1 := by
    rw [hlog]
    simp [primaryFailures, hvalid, ho]
  have hlast : lastValid l'.log = lastValid l.log := by
    rw [hlog, lastValid, List.findSome?_cons]
    simp [Obs.validTime?, hvalid, lastValid]
  have hopened : openedAt l'.log = openedAt l.log := by
    rw [hlog]
    refine openedAt_cons ?_
    rintro time rfl
    cases ho
  have hfailures : l'.snapshot.health.consecutiveFailures = primaryFailures l'.log := by
    rw [hhealth, hcount, ← h.failures]
    rfl
  have hsince : l.lastChannelMono.getD l.startedMono = Log.since l'.log := by
    rw [Log.since, hlast, hopened, h.channel, hopen.started]
  have havailable : l'.snapshot.health.available = false ↔
      Unavailable cfg (primaryFailures l'.log) (Log.since l'.log) (l.now env) := by
    rw [hhealth, ← hsince, hcount, ← h.failures]
    exact available_computeHealth
  refine ⟨.computed hmono hfailures ?_ ?_ hreads havailable.mp, havailable⟩
  · rw [hchannel, hlast, h.channel]
  · rw [hopened]
    exact hopen.opened

/-- Availability is computed anew. -/
lemma Healthy.recordOptionalFailure (h : Healthy env cfg l) (hopen : Opened l)
    (hmono : Monotone env.monotonic) {name : String} :
    Healthy env cfg (l.recordOptionalFailure env cfg name) := by
  have hsince : l.lastChannelMono.getD l.startedMono = Log.since l.log := by
    rw [Log.since, h.channel, hopen.started]
  refine .computed hmono h.failures h.channel hopen.opened (Nat.lt_succ_self l.monoReads) ?_
  intro hfalse
  have hunavailable := available_computeHealth.mp hfalse
  rw [hsince] at hunavailable
  show Unavailable cfg (primaryFailures l.log) (Log.since l.log) (l.now env)
  rw [← h.failures]
  exact hunavailable

/-- A valid response is recorded. -/
lemma healthy_recordSuccess {o : Obs ρ} (hvalid : o.validTime? = some (l.now env)) (state : Bool) :
    Healthy env cfg ((l.emit o).recordSuccess env cfg state) ∧
      ((l.emit o).recordSuccess env cfg state).snapshot.health.available = true := by
  have hov : o.isValid = true := by
    by_contra hne
    simp [Obs.validTime?, hne] at hvalid
  have havailable :
      ((l.emit o).recordSuccess env cfg state).snapshot.health.available = true := by
    have hpos := cfg.timing.failureThreshold_pos
    simp only [recordSuccess, storeHealth, publish, setHealth, computeHealth]
    simp [hpos.ne']
  refine ⟨⟨?_, ?_, ?_⟩, havailable⟩
  · show 0 = primaryFailures (o :: l.log)
    simp [primaryFailures, hov]
  · show some (l.now env) = lastValid (o :: l.log)
    rw [lastValid, List.findSome?_cons, hvalid]
  · rw [havailable]
    rintro ⟨⟩

end Ledger

namespace Runtime

open Log

variable {ρ : Type} [Client ρ] {env : Env} {cfg : Config} {s t : Runtime ρ} {e : Event ρ}
  {job : Control} {r : ρ}

/-! ### The ends of the exchanges -/

/-- The failed end of a control is counted unless it is a rejection. -/
lemma healthy_controlFailed (h : s.toLedger.Healthy env cfg) (hopen : s.toLedger.Opened)
    (hmono : Monotone env.monotonic) {failure : Failure} :
    (s.controlFailed env cfg job failure).toLedger.Healthy env cfg := by
  obtain ⟨l, hl, heq⟩ : ∃ l : Ledger ρ, _ ∧
    (s.controlFailed env cfg job failure).toLedger = _ := controlFailed_eq
  have hdone : (l.finishControlError env job (.lsx failure.error) failure.attempted
      (.failed failure.error)).Healthy env cfg := by
    rcases hl with ⟨hrej, rfl⟩ | ⟨hrej, rfl⟩
    · refine h.congr (.cons rfl ?_) le_rfl
      simp [Obs.isNeutral, Obs.isValid, Obs.isPrimaryFailure, hrej]
    · refine And.left (h.counted hopen hmono ?_ ?_ rfl rfl rfl (Nat.lt_succ_self _))
      · simp [Obs.isPrimaryFailure, hrej]
      · rfl
  rw [heq]
  split
  · exact hdone.congr (.cons rfl rfl) (Nat.le_succ _)
  · exact hdone

/-- The snapshot that a failed poll delivers. -/
lemma exists_delivered {reason : Reason} {error : LsxError} (h : s.toLedger.Healthy env cfg)
    (hopen : s.toLedger.Opened) (hmono : Monotone env.monotonic)
    (hr : Client.asyncGetSource r = .error error) (hp : reason = .poll ∨ s.pollPending = true) :
    ∃ l : Ledger ρ, l.Healthy env cfg ∧ l.Opened ∧
      l.snapshot.health.consecutiveFailures = primaryFailures s.log + 1 ∧
      (l.snapshot.health.available = false ↔
        Ledger.Unavailable cfg (primaryFailures s.log + 1) (since s.log) (s.now env)) ∧
      (s.stateExchangeFailed env cfg reason r error).pollFutures =
        Future.settle s.pollWaiters (.result l.snapshot) s.pollFutures ∧
      (s.stateExchangeFailed env cfg reason r error).toLedger =
        if reason = .verification then
          (l.recordOptionalFailure env cfg error.type.name).scheduleNextVerification env cfg
        else l := by
  let l := (s.toLedger.emit (.sourceEnded reason s.pollPending r (s.now env))).recordPrimaryFailure
    env cfg error.type.name
  have hprimary :
      Obs.isPrimaryFailure (.sourceEnded reason s.pollPending r (s.now env)) = true := by
    simpa [Obs.isPrimaryFailure, hr, Except.isOk, Except.toBool] using hp
  have hvalid : Obs.isValid (.sourceEnded reason s.pollPending r (s.now env)) = false := by
    simp [Obs.isValid, hr, Except.isOk, Except.toBool]
  have hcounted : l.Healthy env cfg ∧ _ :=
    h.counted hopen hmono hprimary hvalid rfl rfl rfl (Nat.lt_succ_self _)
  have hopened : openedAt l.log = openedAt s.log := openedAt_cons (by rintro time ⟨⟩)
  have hcount : primaryFailures l.log = primaryFailures s.log + 1 := by
    show primaryFailures (.sourceEnded reason s.pollPending r (s.now env) :: s.log) = _
    simp [primaryFailures, hvalid, hprimary]
  have hlast : lastValid l.log = lastValid s.log := by
    show lastValid (.sourceEnded reason s.pollPending r (s.now env) :: s.log) = _
    rw [lastValid, List.findSome?_cons]
    simp [Obs.validTime?, hvalid, lastValid]
  have hsince : since l.log = since s.log := by rw [since, since, hlast, hopened]
  refine ⟨l, hcounted.1, ⟨?_, ?_⟩, ?_, ?_, ?_, ?_⟩
  · rw [hopened]
    exact hopen.opened
  · rw [hopened]
    exact hopen.started
  · rw [← hcount]
    exact hcounted.1.failures
  · rw [← hcount, ← hsince]
    exact hcounted.2
  · simp only [stateExchangeFailed, answerPolls, hp, decide_true, if_true]
    rfl
  · obtain ⟨l', hl', heq⟩ : ∃ l' : Ledger ρ, _ ∧
      (s.stateExchangeFailed env cfg reason r error).toLedger = _ := stateExchangeFailed_eq
    obtain ⟨-, rfl⟩ := hl'.resolve_right fun hquiet => hquiet.1 hp
    exact heq

/-- The end of a source GET that was not decoded. -/
lemma healthy_stateExchangeFailed {reason : Reason} {error : LsxError}
    (h : s.toLedger.Healthy env cfg) (hopen : s.toLedger.Opened) (hmono : Monotone env.monotonic)
    (hr : Client.asyncGetSource r = .error error) :
    (s.stateExchangeFailed env cfg reason r error).toLedger.Healthy env cfg := by
  obtain ⟨l, hl, hlopen, heq⟩ : ∃ l : Ledger ρ, l.Healthy env cfg ∧ l.Opened ∧
      (s.stateExchangeFailed env cfg reason r error).toLedger =
        if reason = .verification then
          (l.recordOptionalFailure env cfg error.type.name).scheduleNextVerification env cfg
        else l := by
    by_cases hp : reason = .poll ∨ s.pollPending = true
    · obtain ⟨l, hl, hlopen, -, -, -, heq⟩ := exists_delivered h hopen hmono hr hp
      exact ⟨l, hl, hlopen, heq⟩
    · have hsame : Ledger.SameHistory s.toLedger
          (s.toLedger.emit (.sourceEnded reason s.pollPending r (s.now env))) := by
        refine .cons rfl ?_
        simpa [Obs.isNeutral, Obs.isValid, Obs.isPrimaryFailure, hr, Except.isOk, Except.toBool]
          using hp
      obtain ⟨l, hl, heq⟩ : ∃ l : Ledger ρ, _ ∧
        (s.stateExchangeFailed env cfg reason r error).toLedger = _ := stateExchangeFailed_eq
      obtain ⟨-, rfl⟩ := hl.resolve_left fun hpolled => hp hpolled.1
      exact ⟨_, h.congr hsame le_rfl, hopen.congr hsame rfl, heq⟩
  rw [heq]
  split
  · refine (hl.recordOptionalFailure hlopen hmono).congr
      (.of_noted .scheduleNextVerification) ?_ ?_ ?_ ?_
    · exact (Ledger.Noted.scheduleNextVerification).reads
    · rw [Ledger.health_scheduleNextVerification]
    · rw [Ledger.health_scheduleNextVerification]
    · exact (Ledger.Noted.scheduleNextVerification).lastChannelMono
  · exact hl

/-- The end of a source GET that was decoded. -/
lemma healthy_stateExchangeDone {reason : Reason} {status : SourceStatus}
    (hr : Client.asyncGetSource r = .ok status) :
    (s.stateExchangeDone env cfg reason r status).toLedger.Healthy env cfg ∧
      (s.stateExchangeDone env cfg reason r status).snapshot.health.available = true := by
  have hvalid : Obs.validTime? (.sourceEnded reason s.pollPending r (s.now env)) =
      some ((s.toLedger.applySource status).now env) := by
    simp [Obs.validTime?, Obs.isValid, hr, Except.isOk, Except.toBool]
    rfl
  obtain ⟨hl, havailable⟩ :
    Ledger.Healthy env cfg _ ∧ _ := Ledger.healthy_recordSuccess hvalid true
  have hnoted : Ledger.Noted _ (s.stateExchangeDone env cfg reason r status).toLedger :=
    noted_stateExchangeDone
  have hhealth : (s.stateExchangeDone env cfg reason r status).snapshot.health =
      ((((s.toLedger.applySource status).emit (.sourceEnded reason s.pollPending r
        (s.now env))).recordSuccess env cfg true).verify env cfg reason).snapshot.health := by
    rw [stateExchangeDone_eq]
    rfl
  refine ⟨hl.congr (.of_noted hnoted) hnoted.reads ?_ ?_ hnoted.lastChannelMono, ?_⟩
  · rw [hhealth]
    exact Ledger.health_verify.1
  · rw [hhealth]
    exact Ledger.health_verify.2
  · rw [hhealth, Ledger.health_verify.2]
    exact havailable

/-- An acknowledged control. -/
lemma healthy_controlAcknowledged {first : Option Failure} (hr : Client.asyncSet r = .ok ()) :
    (s.controlAcknowledged env cfg job first r).toLedger.Healthy env cfg ∧
      (s.controlAcknowledged env cfg job first r).snapshot.health.available = true := by
  have hdone : ∀ l : Ledger ρ, ((l.emit (.setEnded job.id (attemptNumber first) r
      (l.now env))).recordSuccess env cfg false).Healthy env cfg ∧
      ((l.emit (.setEnded job.id (attemptNumber first) r
        (l.now env))).recordSuccess env cfg false).snapshot.health.available = true := by
    intro l
    refine Ledger.healthy_recordSuccess ?_ false
    simp [Obs.validTime?, Obs.isValid, hr]
  obtain ⟨l, -, heq⟩ : ∃ l : Ledger ρ, _ ∧
    (s.controlAcknowledged env cfg job first r).toLedger = _ := controlAcknowledged_eq
  have hack : (((l.emit (.setEnded job.id (attemptNumber first) r (l.now env))).recordSuccess env
      cfg false).storeAcknowledged env job).Healthy env cfg ∧
      (((l.emit (.setEnded job.id (attemptNumber first) r (l.now env))).recordSuccess env cfg
        false).storeAcknowledged env job).snapshot.health.available = true :=
    ⟨(hdone l).1.congr (.cons rfl rfl) le_rfl, (hdone l).2⟩
  rw [heq]
  split
  · exact ⟨hack.1.congr (.cons rfl rfl) (Nat.le_succ _), hack.2⟩
  · exact ⟨hack.1.congr (.of_log rfl) le_rfl, hack.2⟩

/-- A rejected control. -/
lemma healthy_setRejected {first : Option Failure} {failure : Failure} {error : LsxError}
    (hopen : s.toLedger.Opened) (hmono : Monotone env.monotonic)
    (hr : Client.asyncSet r = .error error) (he : error.isRejection = true) :
    (Runtime.controlFailed env cfg ((s.setEnded env job first r).record
      (·.recordSuccess env cfg false)) job failure).toLedger.Healthy env cfg := by
  have hvalid : Obs.validTime? (.setEnded job.id (attemptNumber first) r (s.now env)) =
      some (s.now env) := by
    simp [Obs.validTime?, Obs.isValid, hr, he]
  have hdone : ((s.setEnded env job first r).record
      (·.recordSuccess env cfg false)).toLedger.Healthy env cfg :=
    (Ledger.healthy_recordSuccess hvalid false).1
  exact healthy_controlFailed hdone ⟨hopen.opened, hopen.started⟩ hmono

/-! ### The invariant of a run -/

structure Accounted (env : Env) (cfg : Config) (s : Runtime ρ) : Prop where
  healthy : s.toLedger.Healthy env cfg
  opened : s.worker ≠ none → openedAt s.log ≠ none
  unopened : s.closing = false → s.worker = none → openedAt s.log = none
  started : s.startedMono = (openedAt s.log).getD 0 ∨
    s.closing = true ∧ s.worker.all Worker.resting = true

/-- A working worker computes health with the time of the first start. -/
lemma Accounted.toOpened (h : Accounted env cfg s) {w : Worker} (hw : s.worker = some w)
    (hr : w.resting = false) : s.toLedger.Opened := by
  refine ⟨h.opened (by simp [hw]), h.started.resolve_right ?_⟩
  simp [hw, hr]

/-- The loop over the attempts is left with the books as they were, but for a look at the clock. -/
lemma Accounted.leavesAttempts (h : Accounted env cfg s) {w : Worker} (hw : s.worker = some w)
    (hr : w.resting = false) {job : Control} (hleft : s.LeavesAttempts env job t) :
    t.toLedger.Healthy env cfg ∧ t.toLedger.Opened := by
  have hopened := h.toOpened hw hr
  cases hleft with
  | closing => exact ⟨h.healthy, hopened⟩
  | expired =>
    exact ⟨h.healthy.congr (.of_log rfl) (Nat.le_succ _), hopened.congr (.of_log rfl) rfl⟩

/-- The health after a step. -/
lemma Accounted.healthy_step (h : Accounted env cfg s) (hmono : Monotone env.monotonic)
    (hrule : Rule env cfg s e t) : t.toLedger.Healthy env cfg := by
  have hstart : (s.createWorker env).toLedger.Healthy env cfg := by
    refine ⟨h.healthy.failures, h.healthy.channel, ?_⟩
    intro hfalse
    obtain ⟨hopened, hall⟩ := h.healthy.unavailable hfalse
    have hsame : openedAt (s.createWorker env).log = openedAt s.log := by
      cases ho : openedAt s.log with
      | none => exact absurd ho hopened
      | some time =>
        show some ((openedAt s.log).getD _) = some time
        rw [ho]
        rfl
    have hvalid : lastValid (s.createWorker env).log = lastValid s.log := rfl
    rw [Log.since, hsame, hvalid]
    exact ⟨hopened, fun n hn => hall n ((Nat.le_succ _).trans hn)⟩
  cases hrule with
  | started => exact hstart.congr (.of_log rfl) le_rfl
  | startedClosing => exact hstart
  | coalesced => exact h.healthy.congr (.cons rfl rfl) le_rfl
  | accepted r =>
    have hfirst : Ledger.Healthy env cfg
        (s.toLedger.emit (.requested s.controlFutureCount s.acceptedCount (cfg.submitted r)
          (s.now env))) := h.healthy.congr (.cons rfl rfl) le_rfl
    exact hfirst.congr (.cons rfl rfl) (Nat.le_succ _)
  | closeBegun =>
    obtain ⟨-, hledger, -⟩ := frame_beginClose (s := s)
    rw [hledger]
    exact h.healthy.congr (.of_log rfl) le_rfl
  | verificationStarted => exact h.healthy.congr (.cons rfl rfl) (Nat.le_succ _)
  | pollStarted => exact h.healthy.congr (.cons rfl rfl) (Nat.le_succ _)
  | maintenanceStarted => exact h.healthy.congr (.cons rfl rfl) (Nat.le_succ _)
  | stateFailed reason r error hw hr =>
    exact healthy_stateExchangeFailed h.healthy (h.toOpened hw rfl) hmono hr
  | stateDone reason r status hw hr => exact (healthy_stateExchangeDone hr).1
  | maintenanceFailed r error hw hr =>
    have hsame : Ledger.SameHistory s.toLedger
        (s.toLedger.emit (.maintenanceEnded r (s.now env))) := by
      refine .cons rfl ?_
      simp [Obs.isNeutral, Obs.isValid, Obs.isPrimaryFailure, hr, Except.isOk, Except.toBool]
    exact (h.healthy.congr hsame le_rfl).recordOptionalFailure
      ((h.toOpened hw rfl).congr hsame rfl) hmono
  | maintenanceDone r status hw hr =>
    refine And.left (Ledger.healthy_recordSuccess ?_ false)
    simp [Obs.validTime?, Obs.isValid, hr, Except.isOk, Except.toBool]
  | controlSkipped => exact h.healthy.congr (.cons rfl rfl) le_rfl
  | controlExpired => exact h.healthy.congr (.cons rfl rfl) (Nat.le_succ _)
  | volumeGetStarted =>
    exact h.healthy.congr (.cons rfl rfl) (Nat.le_add_right _ 2)
  | volumeGetFailed job r error hw hr =>
    have hsame : Ledger.SameHistory s.toLedger
        (s.toLedger.emit (.volumeEnded job.id r (s.now env))) := by
      refine .cons rfl ?_
      simp [Obs.isNeutral, Obs.isValid, Obs.isPrimaryFailure, hr, Except.isOk, Except.toBool]
    refine And.left ((h.healthy.congr hsame le_rfl).counted
      ((h.toOpened hw rfl).congr hsame rfl) hmono ?_ ?_ rfl rfl rfl (Nat.lt_succ_self _))
    · simp [Obs.isPrimaryFailure, Client.isRejection_asyncGetVolume r error hr]
    · rfl
  | volumeGetDone job r status hw hr =>
    refine And.left (Ledger.healthy_recordSuccess ?_ false)
    simp [Obs.validTime?, Obs.isValid, hr, Except.isOk, Except.toBool]
  | attemptsTimedOut job s' hw hleft =>
    obtain ⟨hhealthy, hopened⟩ := h.leavesAttempts hw rfl hleft
    exact And.left (hhealthy.counted hopened hmono rfl rfl rfl rfl rfl (Nat.lt_succ_self _))
  | attemptsLeft job failure s' hw hleft =>
    obtain ⟨hhealthy, hopened⟩ := h.leavesAttempts hw rfl hleft
    exact healthy_controlFailed hhealthy hopened hmono
  | setStarted => exact h.healthy.congr (.cons rfl rfl) (Nat.le_add_right _ 2)
  | setRejected job first request r error hw hr he =>
    exact healthy_setRejected (h.toOpened hw rfl) hmono hr he
  | firstFailed job request r error hw hr he =>
    refine h.healthy.congr (.cons rfl ?_) (Nat.le_succ _)
    simp [Obs.isNeutral, Obs.isValid, Obs.isPrimaryFailure, hr, he]
  | secondFailed job first request r error hw hr he =>
    have hsame : Ledger.SameHistory s.toLedger (s.setEnded env job (some first) r).toLedger := by
      refine .cons rfl ?_
      simp [Obs.isNeutral, Obs.isValid, Obs.isPrimaryFailure, hr, he]
    exact healthy_controlFailed (h.healthy.congr hsame le_rfl)
      ((h.toOpened hw rfl).congr hsame rfl) hmono
  | setAcknowledged job first request r hw hr => exact (healthy_controlAcknowledged hr).1
  | _ =>
    refine h.healthy.congr (.of_log rfl) ?_
    first | exact le_rfl | exact Nat.le_succ _ | exact Nat.le_add_right _ 2

/-- Verification, and the end of a control, start nothing. -/
lemma openedAt_of_noted {l l' : Ledger ρ} (h : Ledger.Noted l l') :
    openedAt l'.log = openedAt l.log ∧ l'.startedMono = l.startedMono :=
  ⟨(Ledger.SameHistory.of_noted h).opened, h.startedMono⟩

/-- Only `async_start` changes the time of the start. -/
lemma openedAt_of_rule (h : Rule env cfg s e t) (he : e ≠ .start) :
    openedAt t.log = openedAt s.log ∧ t.startedMono = s.startedMono := by
  have hfailed : ∀ {s' : Runtime ρ} {job : Control} {failure : Failure},
      openedAt s'.log = openedAt s.log → s'.startedMono = s.startedMono →
      openedAt (s'.controlFailed env cfg job failure).log = openedAt s.log ∧
        (s'.controlFailed env cfg job failure).startedMono = s.startedMono := by
    intro s' job failure hlog hstarted
    have hnoted : Ledger.Noted _ (s'.controlFailed env cfg job failure).toLedger :=
      noted_controlFailed
    obtain ⟨h₁, h₂⟩ := openedAt_of_noted hnoted
    rw [h₁, h₂, ← hlog, ← hstarted]
    split <;> exact ⟨rfl, rfl⟩
  cases h with
  | started | startedClosing | alreadyStarted => exact absurd rfl he
  | closeBegun =>
    obtain ⟨-, hledger, -⟩ := frame_beginClose (s := s)
    rw [hledger]
    exact ⟨rfl, rfl⟩
  | stateFailed reason r error =>
    have hnoted : Ledger.Noted _ (s.stateExchangeFailed env cfg reason r error).toLedger :=
      noted_stateExchangeFailed
    obtain ⟨h₁, h₂⟩ := openedAt_of_noted hnoted
    rw [h₁, h₂]
    exact ⟨rfl, rfl⟩
  | stateDone reason r status =>
    have hnoted : Ledger.Noted _ (s.stateExchangeDone env cfg reason r status).toLedger :=
      noted_stateExchangeDone
    obtain ⟨h₁, h₂⟩ := openedAt_of_noted hnoted
    rw [h₁, h₂]
    exact ⟨rfl, rfl⟩
  | attemptsTimedOut job s' hw hleft => cases hleft <;> exact ⟨rfl, rfl⟩
  | attemptsLeft job failure s' hw hleft => cases hleft <;> exact hfailed rfl rfl
  | setRejected => exact hfailed rfl rfl
  | secondFailed => exact hfailed rfl rfl
  | setAcknowledged job first request r =>
    have hnoted : Ledger.Noted _ (s.controlAcknowledged env cfg job first r).toLedger :=
      noted_controlAcknowledged
    obtain ⟨h₁, h₂⟩ := openedAt_of_noted hnoted
    obtain ⟨time, wall, hlog, -, -, -, -, hstarted⟩ :=
      (s.applyOptimistic cfg job).toLedger.frame_acknowledge env cfg job (attemptNumber first) r
    rw [h₁, h₂, hlog, hstarted]
    exact ⟨rfl, rfl⟩
  | _ => exact ⟨rfl, rfl⟩

/-- `async_start` starts the runtime, or does nothing. -/
lemma Accounted.start_step (h : Accounted env cfg s) (hmono : Monotone env.monotonic)
    (hrule : Rule env cfg s .start t) : Accounted env cfg t := by
  have hhealthy := h.healthy_step hmono hrule
  have hopened : openedAt (s.createWorker env).log =
      some ((openedAt s.log).getD (s.now env)) := rfl
  cases hrule with
  | alreadyStarted => exact h
  | started hw hc =>
    refine ⟨hhealthy, fun _ => Option.some_ne_none _, by rintro - ⟨⟩, .inl ?_⟩
    show s.now env = ((openedAt (s.createWorker env).log).getD 0)
    rw [hopened, h.unopened hc hw]
    rfl
  | startedClosing hw hc =>
    exact ⟨hhealthy, fun _ => Option.some_ne_none _, by rintro - ⟨⟩, .inr ⟨hc, rfl⟩⟩

/-- Every step preserves the invariant. -/
lemma Accounted.step (h : Accounted env cfg s) (hmono : Monotone env.monotonic)
    (hclose : s.closeTask ≠ .notStarted → s.closing = true) (hrule : Rule env cfg s e t) :
    Accounted env cfg t := by
  by_cases he : e = .start
  · subst he
    exact h.start_step hmono hrule
  obtain ⟨hopened, hstarted⟩ := openedAt_of_rule hrule he
  have hmoves := moves_of_rule hrule he hclose
  refine ⟨h.healthy_step hmono hrule, ?_, ?_, ?_⟩ <;> rw [hopened]
  · exact fun hw => h.opened (hmoves.created hw)
  · intro hc hw
    refine h.unopened ?_ (hmoves.joined hc hw)
    by_contra hne
    rw [hmoves.closing (by simpa using hne)] at hc
    cases hc
  · rw [hstarted]
    exact h.started.imp_right fun ⟨hc, hr⟩ => ⟨hmoves.closing hc, hmoves.resting hc hr⟩

theorem Accounted.of_reachable (hmono : Monotone env.monotonic)
    (h : Transition.Reachable (Runtime.step env cfg) {} s) : Accounted env cfg s := by
  refine h.invariant ?_ fun hr hs _ hst =>
    hs.step hmono (closing_iff hr).mpr (.of_step hst)
  refine ⟨⟨rfl, rfl, ?_⟩, ?_, fun _ _ => rfl, .inl rfl⟩
  · rintro ⟨⟩
  · intro hw
    exact absurd rfl hw

/-! ### Valid responses -/

/-- The valid responses of the log. -/
def responses (log : List (Obs ρ)) : List (Obs ρ) := log.filter Obs.isValid

lemma responses_cons {o : Obs ρ} {log : List (Obs ρ)} (ho : o.isValid = false) :
    responses (o :: log) = responses log := by
  simp [responses, ho]

lemma responses_of_noted {l l' : Ledger ρ} (h : Ledger.Noted l l') :
    responses l'.log = responses l.log := by
  obtain ⟨notes, hlog, hnotes⟩ := h.notes
  have hnone : notes.filter Obs.isValid = [] := by
    refine List.filter_eq_nil_iff.mpr fun o ho => ?_
    have hnote := hnotes o ho
    cases o with
    | planStarted | verified | mismatch => simp [Obs.isValid]
    | _ => cases hnote
  rw [hlog, responses, List.filter_append, hnone]
  rfl

lemma responses_controlFailed {failure : Failure} :
    responses (s.controlFailed env cfg job failure).log = responses s.log := by
  obtain ⟨l, hnoted, hlog, -⟩ :
    ∃ l : Ledger ρ, Ledger.Noted l (s.controlFailed env cfg job failure).toLedger ∧ _ ∧ _ :=
    exists_noted_controlFailed
  rw [responses_of_noted hnoted, hlog, responses_cons rfl]

omit [Client ρ] in
/-- A rejected control leaves the speaker available. -/
lemma available_setRejected {first : Option Failure} {failure : Failure}
    (he : failure.error.isRejection = true) :
    (Runtime.controlFailed env cfg ((s.setEnded env job first r).record
      (·.recordSuccess env cfg false)) job failure).snapshot.health.available = true := by
  have hpos := cfg.timing.failureThreshold_pos
  have hsuccess : ((s.setEnded env job first r).record
      (·.recordSuccess env cfg false)).snapshot.health.available = true := by
    simp only [record_toLedger, Ledger.recordSuccess, Ledger.storeHealth, Ledger.publish,
      Ledger.setHealth, Ledger.computeHealth]
    simp [hpos.ne']
  simp only [controlFailed, he, if_true]
  simpa using hsuccess

/-- A step that receives a valid response leaves the speaker available. -/
lemma available_of_rule (h : Rule env cfg s e t) :
    responses t.log = responses s.log ∨ t.snapshot.health.available = true := by
  cases h with
  | closeBegun =>
    obtain ⟨-, hledger, -⟩ := frame_beginClose (s := s)
    rw [hledger]
    exact .inl rfl
  | stateFailed reason r error hw hr =>
    have hnoted : Ledger.Noted _ (s.stateExchangeFailed env cfg reason r error).toLedger :=
      noted_stateExchangeFailed
    refine .inl ((responses_of_noted hnoted).trans (responses_cons ?_))
    simp [Obs.isValid, hr, Except.isOk, Except.toBool]
  | stateDone reason r status hw hr => exact .inr (healthy_stateExchangeDone hr).2
  | maintenanceFailed r error hw hr =>
    refine .inl (responses_cons ?_)
    simp [Obs.isValid, hr, Except.isOk, Except.toBool]
  | maintenanceDone r status hw hr =>
    refine .inr (And.right (Ledger.healthy_recordSuccess ?_ false))
    simp [Obs.validTime?, Obs.isValid, hr, Except.isOk, Except.toBool]
  | volumeGetFailed job r error hw hr =>
    refine .inl ((responses_cons rfl).trans (responses_cons ?_))
    simp [Obs.isValid, hr, Except.isOk, Except.toBool]
  | volumeGetDone job r status hw hr =>
    refine .inr (And.right (Ledger.healthy_recordSuccess ?_ false))
    simp [Obs.validTime?, Obs.isValid, hr, Except.isOk, Except.toBool]
  | attemptsTimedOut job s' hw hleft => cases hleft <;> exact .inl (responses_cons rfl)
  | attemptsLeft job failure s' hw hleft =>
    refine .inl (responses_controlFailed.trans ?_)
    cases hleft <;> rfl
  | setRejected job first request r error hw hr he => exact .inr (available_setRejected he)
  | firstFailed job request r error hw hr he =>
    refine .inl (responses_cons ?_)
    simp [Obs.isValid, hr, he]
  | secondFailed job first request r error hw hr he =>
    refine .inl (responses_controlFailed.trans (responses_cons ?_))
    simp [Obs.isValid, hr, he]
  | setAcknowledged job first request r hw hr => exact .inr (healthy_controlAcknowledged hr).2
  | _ => exact .inl rfl

/-- The availability of the speaker is the one that the history of the exchanges tells, in every
reachable state; a valid response restores it, and a failed poll delivers it exactly. -/
theorem availability_of_history (hmono : Monotone env.monotonic)
    (h : Transition.Reachable (step env cfg) {} s) :
    s.snapshot.health.consecutiveFailures = primaryFailures s.log ∧
    (s.snapshot.health.available = false → ∀ n, s.monoReads ≤ n + 1 →
      Ledger.Unavailable cfg (primaryFailures s.log) (since s.log) (env.monotonic n)) ∧
    (∀ e t new, step env cfg s e = some t → t.log = new ++ s.log →
      (∃ o ∈ new, o.isValid = true) → t.snapshot.health.available = true) ∧
    ∀ reason r error t, s.worker = some (.sourceGet reason) →
      Client.asyncGetSource r = .error error → (reason = .poll ∨ s.pollPending = true) →
      step env cfg s (.reply r) = some t → ∃ snapshot : RuntimeSnapshot,
        (∀ f ∈ s.pollWaiters, (s.pollFutures f).isPending = true →
          t.pollFutures f = .result snapshot) ∧
        (reason = .poll → t.snapshot = snapshot) ∧
        snapshot.health.consecutiveFailures = primaryFailures s.log + 1 ∧
        (snapshot.health.available = false ↔
          Ledger.Unavailable cfg (primaryFailures s.log + 1) (since s.log) (s.now env)) := by
  have hacc := Accounted.of_reachable hmono h
  refine ⟨hacc.healthy.failures, fun hfalse => (hacc.healthy.unavailable hfalse).2, ?_, ?_⟩
  · rintro e t new hst hlog ⟨o, ho, hvalid⟩
    refine (available_of_rule (.of_step hst)).resolve_left ?_
    intro hsame
    rw [hlog, responses, List.filter_append, responses, List.append_left_eq_self] at hsame
    have hmem : o ∈ new.filter Obs.isValid := List.mem_filter.mpr ⟨ho, hvalid⟩
    rw [hsame] at hmem
    cases hmem
  · intro reason r error t hw hr hp hst
    have ht : t = s.stateExchangeFailed env cfg reason r error := by
      simpa [step, hw, stepReply, hr] using hst.symm
    obtain ⟨l, hl, hlopen, hcount, havailable, hfutures, heq⟩ :=
      exists_delivered hacc.healthy (hacc.toOpened hw rfl) hmono hr hp
    refine ⟨l.snapshot, ?_, ?_, hcount, havailable⟩
    · intro f hf hpending
      rw [ht, hfutures, Future.settle, if_pos ⟨hf, hpending⟩]
    · rintro rfl
      rw [ht, heq]
      rfl

/-- A runtime that gives up after one failure and two seconds: its first poll cannot connect, and
delivers that the speaker is unavailable. -/
theorem availability_connectFailed : ∃ (cfg : Config) (s t : Runtime Transcript),
    Transition.Reachable (step .slow cfg) {} s ∧
    step .slow cfg s (.reply (Transcript.connectFailed .refused)) = some t ∧
    s.snapshot.health.available = true ∧ t.snapshot.health.available = false := by
  let cfg : Config := .ofOptions none (1 / 2) (1 / 20) false none
    { failureThreshold := 1, unavailableAfter := 2 }
  have hrun : (Transition.run (step .slow cfg) [.start, .run, .run]
      ({} : Runtime Transcript)).any
      (fun s => s.worker = some (.sourceGet .poll) ∧ s.snapshot.health.available = true ∧
        1 ≤ primaryFailures s.log + 1 ∧ 2 ≤ s.now .slow - since s.log) = true := by
    decide +kernel
  obtain ⟨s, hs, hs'⟩ := Transition.exists_reachable_of_run hrun
  obtain ⟨hw, havailable, hcount, hage⟩ := of_decide_eq_true hs'
  have hst : step .slow cfg s (.reply (Transcript.connectFailed .refused)) =
      s.stepReply .slow cfg (Transcript.connectFailed .refused) (.sourceGet .poll) := by
    simp only [step, hw]
  have hmono : Monotone Env.slow.monotonic := Nat.mono_cast
  obtain ⟨snapshot, -, hsnapshot, -, hiff⟩ :=
    (availability_of_history hmono hs).2.2.2 .poll _ _ _ hw rfl (.inl rfl) hst
  refine ⟨cfg, s, _, hs, hst, havailable, ?_⟩
  rw [hsnapshot rfl]
  exact hiff.mpr ⟨hcount, hage⟩

end Runtime

end KefLsx
