import KefLsx.Runtime.Encodable
import KefLsx.Runtime.Pacing

/-!
# What requests cost

How many exchanges a control and a poll may lead to, with all retries, the verification of the
control, and the maintenance of the volume that a decoded source GET may ask for. The potential of a
state is the number of exchanges that it still owes; a step that starts an exchange lowers it, and
only an accepted control or a registered poll raises it.
-/

namespace KefLsx

/-! ### The verification plan -/

/-- How many GETs a plan makes at most. -/
abbrev Config.verifications (cfg : Config) : ℕ := cfg.timing.verificationDelays.length

namespace Verification

/-- The GETs that a plan still makes, out of `n`. -/
def remaining (n : ℕ) (plan : Verification) : ℕ :=
  if plan.due.isSome then n - plan.attempt.toNat else 0

/-- The GETs that follow the one in flight. -/
def following (n : ℕ) (plan : Verification) : ℕ := n - (plan.attempt + 1).toNat

variable {n : ℕ} {plan : Verification}

lemma remaining_le : plan.remaining n ≤ n := by
  unfold remaining
  split
  · exact Nat.sub_le n _
  · exact Nat.zero_le n

lemma following_le : plan.following n ≤ n := Nat.sub_le n _

lemma remaining_of_not_due (n : ℕ) (h : plan.due = none) : plan.remaining n = 0 := by
  simp [remaining, h]

lemma following_le_remaining (h : plan.due ≠ none) : plan.following n ≤ plan.remaining n := by
  have hdue : plan.due.isSome = true := Option.isSome_iff_ne_none.mpr h
  have hattempt : plan.attempt.toNat ≤ (plan.attempt + 1).toNat :=
    Int.toNat_le_toNat (Int.le_add_one le_rfl)
  rw [remaining, if_pos hdue]
  exact Nat.sub_le_sub_left hattempt n

end Verification

namespace Ledger

variable {ρ : Type} {env : Env} {cfg : Config} {l : Ledger ρ}

lemma remaining_scheduleNextVerification :
    (l.scheduleNextVerification env cfg).verification.remaining cfg.verifications ≤
      l.verification.following cfg.verifications := by
  unfold scheduleNextVerification
  dsimp only
  split
  · exact Nat.zero_le _
  · exact Nat.le_refl _

lemma remaining_completeVerification :
    (l.completeVerification env cfg).verification.remaining cfg.verifications ≤
      l.verification.following cfg.verifications := by
  unfold completeVerification
  split
  · exact Nat.zero_le _
  · apply remaining_scheduleNextVerification

lemma remaining_verify {reason : Reason} :
    (l.verify env cfg reason).verification.remaining cfg.verifications ≤
      l.verification.remaining cfg.verifications := by
  have htick : (if l.verification.due.isSome then l.tick else l).verification =
      l.verification := by
    split <;> rfl
  unfold verify
  dsimp only
  split
  · rename_i hverifies
    refine remaining_completeVerification.trans ?_
    rw [htick]
    apply Verification.following_le_remaining
    intro hnone
    simp [verifiesNow, hnone] at hverifies
  · rw [htick]

/-- A decoded verification GET takes its turn from the plan. -/
lemma remaining_verify_due (hdue : ∀ due ∈ l.verification.due, due ≤ l.now env)
    (hawaits : l.awaitsVerification = true) :
    (l.verify env cfg .verification).verification.remaining cfg.verifications ≤
      l.verification.following cfg.verifications := by
  cases hd : l.verification.due with
  | none =>
    have hremaining := Verification.remaining_of_not_due cfg.verifications hd
    exact (remaining_verify.trans_eq hremaining).trans (Nat.zero_le _)
  | some due =>
    have hverifies : l.verifiesNow env .verification = true := by
      simp [verifiesNow, hd, hawaits, hdue due (by simp [hd])]
    unfold verify
    dsimp only
    rw [if_pos hverifies, hd, Option.isSome_some, if_pos rfl]
    exact remaining_completeVerification

end Ledger

/-! ### The potential -/

namespace Runtime

open Log

variable {ρ : Type} {env : Env} {cfg : Config} {s t : Runtime ρ} {e : Event ρ} {w : Worker}
  {job : Control}

instance Known.decidable (speaker : SpeakerState) : Decidable (Known speaker) :=
  inferInstanceAs (Decidable (speaker.volume ≠ none ∧ speaker.muted ≠ none))

/-- What an entry may lead to before it is tried: two SETs, the GETs of a plan with a maintenance
GET after each, and a volume GET while the volume is not known. -/
def entryCost (cfg : Config) (s : Runtime ρ) : ℕ :=
  2 * cfg.verifications + if Known s.snapshot.speaker then 2 else 3

/-- What is left of this for the entry that the worker serves. -/
def activeCost (cfg : Config) (s : Runtime ρ) : ℕ :=
  match s.worker with
  | some (.control _) => s.entryCost cfg
  | some (.volumeGet _) | some (.attempt _ none) => 2 * cfg.verifications + 2
  | some (.setting _ none _) | some (.retrySleep ..) | some (.attempt _ (some _)) =>
    2 * cfg.verifications + 1
  | some (.setting _ (some _) _) => 2 * cfg.verifications
  | _ => 0

/-- What the plan leads to, when it is not going to be replaced or outlived by an entry. -/
def planCost (cfg : Config) (s : Runtime ρ) : ℕ :=
  if s.live ≠ [] then 0
  else if s.worker = some (.sourceGet .verification) then
    2 * s.verification.following cfg.verifications
  else 2 * s.verification.remaining cfg.verifications

/-- What the pending poll and maintenance lead to. A source GET answers a pending poll, and may ask
for maintenance. -/
def pendingCost (s : Runtime ρ) : ℕ :=
  match s.worker with
  | some (.sourceGet _) => 1
  | _ => (if s.pollPending then 2 else 0) + if s.maintenancePending then 1 else 0

/-- The exchanges that a state may lead to when nothing more is requested. -/
def cost (cfg : Config) (s : Runtime ρ) : ℕ :=
  if s.closing then 0
  else s.controls.length * s.entryCost cfg + s.activeCost cfg + s.planCost cfg + s.pendingCost

/-- What has been paid for by the requests so far. -/
def paid (cfg : Config) (s : Runtime ρ) : ℕ :=
  (2 * cfg.verifications + 3) * s.acceptedCount + 2 * s.pollFutureCount

/-- A step is paid for. -/
def Pays (cfg : Config) (s t : Runtime ρ) : Prop :=
  (calls t.log).length + t.cost cfg + s.paid cfg ≤ (calls s.log).length + s.cost cfg + t.paid cfg

/-! ### The parts of the potential -/

lemma entryCost_le (h : Known s.snapshot.speaker → Known t.snapshot.speaker) :
    t.entryCost cfg ≤ s.entryCost cfg := by
  unfold entryCost
  split
  · split <;> omega
  · rename_i hunknown
    rw [if_neg fun hknown => hunknown (h hknown)]

lemma planCost_le : s.planCost cfg ≤ 2 * cfg.verifications := by
  unfold planCost
  split
  · exact Nat.zero_le _
  · split
    · exact Nat.mul_le_mul_left 2 Verification.following_le
    · exact Nat.mul_le_mul_left 2 Verification.remaining_le

lemma pendingCost_le : s.pendingCost ≤ 3 := by
  unfold pendingCost
  split
  · decide
  · split <;> split <;> decide

lemma planCost_of_live (h : s.live ≠ []) : s.planCost cfg = 0 := if_pos h

/-- The potential of a state in which the worker serves no entry and reads no source. -/
def restCost (cfg : Config) (s : Runtime ρ) : ℕ :=
  s.controls.length * s.entryCost cfg +
    (if s.controls ≠ [] then 0 else 2 * s.verification.remaining cfg.verifications) +
    ((if s.pollPending then 2 else 0) + if s.maintenancePending then 1 else 0)

/-- The worker serves no entry and reads no source. -/
def Rests (s : Runtime ρ) : Prop :=
  s.activeControl = none ∧ ∀ reason, s.worker ≠ some (.sourceGet reason)

lemma Rests.of_worker (hw : s.worker = some w) (hjob : w.job? = none := by rfl)
    (hget : ∀ reason, w ≠ .sourceGet reason := by rintro reason ⟨⟩) : s.Rests :=
  ⟨(activeControl_of_worker hw).trans hjob,
    fun reason h => hget reason (Option.some.inj (hw.symm.trans h))⟩

lemma Rests.of_none (hw : s.worker = none) : s.Rests := by
  refine ⟨by simp [activeControl, hw], ?_⟩
  intro reason h
  rw [hw] at h
  cases h

lemma activeCost_of_inactive (h : s.activeControl = none) : s.activeCost cfg = 0 := by
  cases hw : s.worker with
  | none => simp [activeCost, hw]
  | some w =>
    rw [activeControl_of_worker hw] at h
    cases w with
    | control | volumeGet | attempt | setting | retrySleep => cases h
    | _ => simp [activeCost, hw]

lemma cost_of_rests (h : s.Rests) (hc : s.closing = false) : s.cost cfg = s.restCost cfg := by
  have hplan : s.planCost cfg =
      if s.controls ≠ [] then 0 else 2 * s.verification.remaining cfg.verifications := by
    rw [planCost, live_of_inactive h.1, if_neg (h.2 .verification)]
  have hpending : s.pendingCost =
      (if s.pollPending then 2 else 0) + if s.maintenancePending then 1 else 0 := by
    unfold pendingCost
    split
    · rename_i reason hw
      exact absurd hw (h.2 reason)
    · rfl
  rw [cost, hc, if_neg Bool.false_ne_true, activeCost_of_inactive h.1, hplan, hpending, restCost,
    Nat.add_zero]

lemma cost_of_active (hw : s.worker = some w) (hjob : w.job? = some job)
    (hc : s.closing = false) : s.cost cfg = s.controls.length * s.entryCost cfg +
      s.activeCost cfg +
      ((if s.pollPending then 2 else 0) + if s.maintenancePending then 1 else 0) := by
  have hactive : s.activeControl = some job := (activeControl_of_worker hw).trans hjob
  have hplan : s.planCost cfg = 0 := planCost_of_live (by simp [live, hactive])
  have hpending : s.pendingCost =
      (if s.pollPending then 2 else 0) + if s.maintenancePending then 1 else 0 := by
    cases w <;> first | cases hjob; done | simp [pendingCost, hw]
  rw [cost, hc, if_neg Bool.false_ne_true, hplan, hpending, Nat.add_zero]

lemma cost_of_sourceGet {reason : Reason} (hw : s.worker = some (.sourceGet reason))
    (hc : s.closing = false) : s.cost cfg =
      s.controls.length * s.entryCost cfg + s.planCost cfg + 1 := by
  rw [cost, hc, if_neg Bool.false_ne_true]
  simp [activeCost, pendingCost, hw]

/-! ### What a step pays -/

/-- The worker, the queue and what is pending are as they were. -/
lemma cost_congr (hworker : t.worker = s.worker := by rfl)
    (hclosing : t.closing = s.closing := by rfl)
    (hlength : t.controls.length = s.controls.length := by rfl)
    (hplan : t.verification = s.verification := by rfl)
    (hpoll : t.pollPending = s.pollPending := by rfl)
    (hmaintenance : t.maintenancePending = s.maintenancePending := by rfl)
    (hspeaker : t.snapshot.speaker = s.snapshot.speaker := by rfl) :
    t.cost cfg = s.cost cfg := by
  have hlive : t.live = [] ↔ s.live = [] := by
    rw [← List.length_eq_zero_iff, ← List.length_eq_zero_iff]
    simp only [live, activeControl, hworker, List.length_append, hlength]
  simp only [cost, entryCost, activeCost, planCost, pendingCost, hworker, hclosing, hlength, hplan,
    hpoll, hmaintenance, hspeaker, ne_eq, hlive]

/-- What is left of what was pending. -/
lemma pending_le (hpoll : t.pollPending = true → s.pollPending = true)
    (hmaintenance : t.maintenancePending = true → s.maintenancePending = true) :
    ((if t.pollPending then 2 else 0) + if t.maintenancePending then 1 else 0) ≤
      (if s.pollPending then 2 else 0) + if s.maintenancePending then 1 else 0 := by
  cases hp : t.pollPending <;> cases hm : t.maintenancePending <;> simp_all

lemma restCost_le (hcontrols : t.controls = s.controls)
    (hknown : Known s.snapshot.speaker → Known t.snapshot.speaker) {n : ℕ}
    (hplan : s.controls = [] → t.verification.remaining cfg.verifications ≤ n)
    (hpoll : t.pollPending = true → s.pollPending = true)
    (hmaintenance : t.maintenancePending = true → s.maintenancePending = true) :
    t.restCost cfg ≤ s.controls.length * s.entryCost cfg +
      (if s.controls ≠ [] then 0 else 2 * n) +
      ((if s.pollPending then 2 else 0) + if s.maintenancePending then 1 else 0) := by
  rw [restCost, hcontrols]
  refine Nat.add_le_add (Nat.add_le_add ?_ ?_) (pending_le hpoll hmaintenance)
  · exact Nat.mul_le_mul_left _ (entryCost_le hknown)
  · split
    · exact Nat.le_refl 0
    · rename_i hempty
      exact Nat.mul_le_mul_left 2 (hplan (not_not.mp hempty))

lemma restCost_mono (hcontrols : t.controls = s.controls)
    (hknown : Known s.snapshot.speaker → Known t.snapshot.speaker)
    (hplan : t.verification = s.verification) (hpoll : t.pollPending = s.pollPending)
    (hmaintenance : t.maintenancePending = s.maintenancePending) :
    t.restCost cfg ≤ s.restCost cfg :=
  restCost_le hcontrols hknown (fun _ => hplan ▸ Nat.le_refl _) (fun h => hpoll ▸ h)
    fun h => hmaintenance ▸ h

/-- The entry that the worker serves is done with. -/
lemma cost_finished (hw : s.worker = some w) (hjob : w.job? = some job) (hc : s.closing = false)
    (hframed : Framed s t) (hrests : t.Rests)
    (hknown : Known s.snapshot.speaker → Known t.snapshot.speaker)
    (hpoll : t.pollPending = true → s.pollPending = true)
    (hmaintenance : t.maintenancePending = true → s.maintenancePending = true) :
    t.cost cfg ≤ s.cost cfg := by
  have hactive : 2 * cfg.verifications ≤ s.activeCost cfg := by
    cases w with
    | control => simp [activeCost, hw, entryCost]
    | attempt job failure | setting job failure => cases failure <;> simp [activeCost, hw]
    | volumeGet | retrySleep => simp [activeCost, hw]
    | _ => cases hjob
  rw [cost_of_rests hrests (hframed.closing.trans hc), cost_of_active hw hjob hc]
  refine (restCost_le hframed.controls hknown (fun _ => Verification.remaining_le) hpoll
    hmaintenance).trans ?_
  refine Nat.add_le_add_right (Nat.add_le_add_left (le_trans ?_ hactive) _) _
  split
  · exact Nat.zero_le _
  · exact Nat.le_refl _

lemma Pays.of_le (hcalls : calls t.log = calls s.log) (hcost : t.cost cfg ≤ s.cost cfg)
    (haccepted : s.acceptedCount ≤ t.acceptedCount)
    (hpolls : s.pollFutureCount ≤ t.pollFutureCount) : Pays cfg s t := by
  have hpaid : s.paid cfg ≤ t.paid cfg :=
    Nat.add_le_add (Nat.mul_le_mul_left _ haccepted) (Nat.mul_le_mul_left _ hpolls)
  rw [Pays, hcalls]
  omega

/-- On a closing runtime nothing is owed. -/
lemma Pays.of_closing (hcalls : calls t.log = calls s.log) (hc : t.closing = true)
    (haccepted : s.acceptedCount ≤ t.acceptedCount)
    (hpolls : s.pollFutureCount ≤ t.pollFutureCount) : Pays cfg s t := by
  refine .of_le hcalls ?_ haccepted hpolls
  rw [cost, if_pos hc]
  exact Nat.zero_le _

/-- An exchange is started. -/
lemma Pays.of_started {reads : ℕ} {call : Call} {remaining : Option Time}
    (hlog : t.log = .started reads call remaining :: s.log) (hcost : t.cost cfg < s.cost cfg)
    (haccepted : t.acceptedCount = s.acceptedCount)
    (hpolls : t.pollFutureCount = s.pollFutureCount) : Pays cfg s t := by
  have hcalls : (calls t.log).length = (calls s.log).length + 1 := by
    rw [hlog]
    rfl
  rw [Pays, hcalls, paid, paid, haccepted, hpolls]
  omega

/-! ### The steps -/

lemma cost_addPoll (cfg : Config) (s : Runtime ρ) : s.addPoll.cost cfg ≤ s.cost cfg + 2 := by
  have hpending : s.addPoll.pendingCost ≤ s.pendingCost + 2 := by
    have hw : s.addPoll.worker = s.worker := rfl
    unfold pendingCost
    rw [hw]
    split
    · exact Nat.le_add_right 1 2
    · have hm : s.addPoll.maintenancePending = s.maintenancePending := rfl
      rw [hm, show s.addPoll.pollPending = true from rfl, if_pos rfl]
      omega
  unfold cost
  rw [show s.addPoll.closing = s.closing from rfl]
  split
  · exact Nat.zero_le _
  · exact Nat.add_le_add_left hpending _

/-- A poll that is registered pays for its GET and the maintenance after it. -/
lemma pays_addPoll : Pays cfg s s.addPoll := by
  have hpaid : s.addPoll.paid cfg = s.paid cfg + 2 := rfl
  have hcost := cost_addPoll cfg s
  have hcalls : calls s.addPoll.log = calls s.log := rfl
  rw [Pays, hpaid, hcalls]
  omega

/-- A control that is accepted pays for all that it may lead to, and takes the place of the plan. -/
lemma pays_accept {command : Command} : Pays cfg s (s.accept env cfg command) := by
  have hpaid : (s.accept env cfg command).paid cfg = s.paid cfg + (2 * cfg.verifications + 3) := by
    have hcount : (s.accept env cfg command).acceptedCount = s.acceptedCount + 1 := rfl
    have hpolls : (s.accept env cfg command).pollFutureCount = s.pollFutureCount := rfl
    rw [paid, paid, hcount, hpolls, Nat.mul_succ]
    omega
  have hentry : (s.accept env cfg command).entryCost cfg = s.entryCost cfg := rfl
  have hactive : (s.accept env cfg command).activeCost cfg = s.activeCost cfg := rfl
  have hpending : (s.accept env cfg command).pendingCost = s.pendingCost := rfl
  have hplan : (s.accept env cfg command).planCost cfg = 0 :=
    planCost_of_live (by simp [live, accept])
  have hlength : (s.accept env cfg command).controls.length = s.controls.length + 1 := by
    simp [accept]
  have hbound : s.entryCost cfg ≤ 2 * cfg.verifications + 3 := by
    unfold entryCost
    split <;> omega
  have hcost : (s.accept env cfg command).cost cfg ≤
      s.cost cfg + (2 * cfg.verifications + 3) := by
    unfold cost
    rw [show (s.accept env cfg command).closing = s.closing from rfl, hentry, hactive, hpending,
      hplan, hlength, Nat.succ_mul]
    split
    · exact Nat.zero_le _
    · omega
  have hcalls : calls (s.accept env cfg command).log = calls s.log := rfl
  rw [Pays, hpaid, hcalls]
  omega

/-- A source GET ends. -/
lemma cost_sourceGet_ended {reason : Reason} (hw : s.worker = some (.sourceGet reason))
    (hc : s.closing = false) (hframed : Framed s t) (hw' : t.worker = some .loop)
    (hspeaker : Known s.snapshot.speaker → Known t.snapshot.speaker)
    (hplan : t.verification.remaining cfg.verifications ≤ if reason = .verification then
      s.verification.following cfg.verifications
      else s.verification.remaining cfg.verifications)
    (hpoll : t.pollPending = false) : t.cost cfg ≤ s.cost cfg := by
  have hrests : t.Rests := .of_worker hw'
  rw [cost_of_rests hrests (hframed.closing.trans hc), cost_of_sourceGet hw hc, restCost, hpoll,
    hframed.controls]
  have hlive : s.live = s.controls := live_of_inactive (activeControl_of_worker hw)
  refine Nat.add_le_add (Nat.add_le_add ?_ ?_) ?_
  · exact Nat.mul_le_mul_left _ (entryCost_le hspeaker)
  · rw [planCost, hlive]
    split
    · exact Nat.le_refl 0
    · cases reason <;> simp [hw] at hplan ⊢ <;> exact hplan
  · cases t.maintenancePending <;> decide

lemma remaining_stateExchangeFailed {reason : Reason} {r : ρ} {error : LsxError} :
    (s.stateExchangeFailed env cfg reason r error).verification.remaining cfg.verifications ≤
      if reason = .verification then s.verification.following cfg.verifications
      else s.verification.remaining cfg.verifications := by
  obtain ⟨l, -, hplan, -, heq⟩ : ∃ l : Ledger ρ, _ ∧ _ ∧ _ ∧
    (s.stateExchangeFailed env cfg reason r error).toLedger = _ := stateExchangeFailed_cases
  rw [heq, ← hplan]
  split
  · apply Ledger.remaining_scheduleNextVerification
  · exact Nat.le_refl _

lemma remaining_stateExchangeDone (cfg : Config) {reason : Reason} (r : ρ)
    (status : SourceStatus) (hmono : Monotone env.monotonic)
    (hdue : reason = .verification → ∀ due ∈ s.verification.due, due ≤ s.now env)
    (hawaits : reason = .verification → s.awaitsVerification = true) :
    (s.stateExchangeDone env cfg reason r status).verification.remaining cfg.verifications ≤
      if reason = .verification then s.verification.following cfg.verifications
      else s.verification.remaining cfg.verifications := by
  obtain ⟨l, hreads, hlast, hplan, heq⟩ : ∃ l : Ledger ρ, s.monoReads ≤ l.monoReads ∧
      l.awaitsVerification = s.awaitsVerification ∧ l.verification = s.verification ∧
      (s.stateExchangeDone env cfg reason r status).toLedger = (l.verify env cfg reason).tick :=
    ⟨_, (Ledger.paced_applySource.trans (Ledger.paced_emit.trans
      Ledger.paced_recordSuccess)).reads, rfl, rfl,
      stateExchangeDone_eq⟩
  rw [heq, ← hplan]
  cases reason with
  | poll => exact Ledger.remaining_verify
  | verification =>
    apply Ledger.remaining_verify_due
    · intro due hmem
      exact (hdue rfl due (hplan ▸ hmem)).trans (hmono hreads)
    · exact hlast.trans (hawaits rfl)

/-- The worker goes from a point at which it serves no entry to another. -/
lemma Pays.of_rests (hs : s.Rests) (ht : t.Rests) (hc : s.closing = false)
    (hcost : t.restCost cfg ≤ s.restCost cfg) (hcalls : calls t.log = calls s.log := by rfl)
    (hclosing : t.closing = s.closing := by rfl)
    (haccepted : s.acceptedCount = t.acceptedCount := by rfl)
    (hpolls : s.pollFutureCount = t.pollFutureCount := by rfl) : Pays cfg s t := by
  refine .of_le hcalls ?_ haccepted.le hpolls.le
  rw [cost_of_rests hs hc, cost_of_rests ht (hclosing.trans hc)]
  exact hcost

lemma Pays.trans {u : Runtime ρ} (h : Pays cfg s t) (h' : Pays cfg t u) : Pays cfg s u := by
  unfold Pays at h h' ⊢
  omega

lemma pays_createWorker (hw : s.worker = none) (hc : s.closing = false) :
    Pays cfg s (s.createWorker env) :=
  .of_rests (.of_none hw) (.of_worker (w := .created) rfl) hc le_rfl

/-- The entry that is selected leaves the queue. -/
lemma cost_controlSelected {rest : List Control} (hw : s.worker = some .loop)
    (hc : s.closing = false) (hq : s.controls = job :: rest)
    (hw' : t.worker = some (.control job)) (hc' : t.closing = false) (hq' : t.controls = rest)
    (hspeaker : t.snapshot.speaker = s.snapshot.speaker)
    (hpoll : t.pollPending = s.pollPending)
    (hmaintenance : t.maintenancePending = s.maintenancePending) : t.cost cfg ≤ s.cost cfg := by
  have hentry : t.entryCost cfg = s.entryCost cfg := by rw [entryCost, entryCost, hspeaker]
  have hactive : t.activeCost cfg = s.entryCost cfg := by simp [activeCost, hw', hentry]
  rw [cost_of_active hw' rfl hc', cost_of_rests (.of_worker hw) hc, restCost, hactive, hentry, hq',
    hq, hpoll, hmaintenance, List.length_cons, Nat.succ_mul, if_pos (List.cons_ne_nil _ _)]
  exact Nat.le_refl _

/-- A verification GET takes its turn, and may ask for maintenance. -/
lemma cost_verificationStarted (hw : s.worker = some .loop) (hc : s.closing = false)
    (hq : s.controls = []) (hindexed : Ledger.Indexed env cfg s.toLedger)
    (hdue : s.verification.due ≠ none) (hw' : t.worker = some (.sourceGet .verification))
    (hc' : t.closing = false) (hq' : t.controls = []) (hplan : t.verification = s.verification) :
    t.cost cfg < s.cost cfg := by
  have hturn : s.verification.following cfg.verifications + 1 =
      s.verification.remaining cfg.verifications := by
    obtain ⟨due, hsome⟩ := Option.ne_none_iff_exists'.mp hdue
    obtain ⟨i, n, hattempt, -⟩ := hindexed.due due hsome
    have hlt : i.val < cfg.verifications := i.isLt
    rw [Verification.following, Verification.remaining, hsome, Option.isSome_some, if_pos rfl,
      hattempt, Int.toNat_natCast, ← Nat.cast_succ, Int.toNat_natCast]
    omega
  have hlive : t.live = [] := (live_of_inactive (activeControl_of_worker hw')).trans hq'
  have hgets : t.planCost cfg = 2 * s.verification.following cfg.verifications := by
    rw [planCost, if_neg (not_not.mpr hlive), if_pos hw', hplan]
  rw [cost_of_sourceGet hw' hc', cost_of_rests (.of_worker hw) hc, restCost, hgets, hq', hq,
    if_neg (not_not.mpr rfl)]
  simp only [List.length_nil, Nat.zero_mul]
  omega

/-- The GET for a poll may ask for maintenance. -/
lemma cost_pollStarted (hw : s.worker = some .loop) (hc : s.closing = false)
    (hq : s.controls = []) (hp : s.pollPending = true) (hw' : t.worker = some (.sourceGet .poll))
    (hc' : t.closing = false) (hq' : t.controls = []) (hplan : t.verification = s.verification) :
    t.cost cfg < s.cost cfg := by
  have hlive : t.live = [] := (live_of_inactive (activeControl_of_worker hw')).trans hq'
  have hgets : t.planCost cfg = 2 * s.verification.remaining cfg.verifications := by
    rw [planCost, if_neg (not_not.mpr hlive), if_neg (by simp [hw']), hplan]
  rw [cost_of_sourceGet hw' hc', cost_of_rests (.of_worker hw) hc, restCost, hgets, hq', hq,
    if_neg (not_not.mpr rfl), hp, if_pos rfl]
  simp only [List.length_nil, Nat.zero_mul]
  omega

/-- Maintenance starts, or is not made because the speaker is off. -/
lemma cost_maintenance (hw : s.worker = some .loop) (hc : s.closing = false)
    (hm : s.maintenancePending = true) (ht : t.Rests) (hc' : t.closing = false)
    (hq : t.controls = s.controls) (hplan : t.verification = s.verification)
    (hspeaker : t.snapshot.speaker = s.snapshot.speaker)
    (hpoll : t.pollPending = s.pollPending) (hm' : t.maintenancePending = false) :
    t.cost cfg < s.cost cfg := by
  have hentry : t.entryCost cfg = s.entryCost cfg := by rw [entryCost, entryCost, hspeaker]
  rw [cost_of_rests ht hc', cost_of_rests (.of_worker hw) hc, restCost, restCost, hentry, hq,
    hplan, hpoll, hm', hm, if_pos rfl, if_neg Bool.false_ne_true]
  exact Nat.lt_succ_self _

/-- The worker goes on with the entry that it serves. -/
structure Serves (s t : Runtime ρ) : Prop where
  before : ∃ w job, s.worker = some w ∧ w.job? = some job
  after : ∃ w job, t.worker = some w ∧ w.job? = some job
  closing : t.closing = s.closing
  controls : t.controls = s.controls
  speaker : t.snapshot.speaker = s.snapshot.speaker
  pollPending : t.pollPending = s.pollPending
  maintenancePending : t.maintenancePending = s.maintenancePending
  acceptedCount : t.acceptedCount = s.acceptedCount
  pollFutureCount : t.pollFutureCount = s.pollFutureCount

lemma Serves.cost_add_eq (h : Serves s t) (cfg : Config) (hc : s.closing = false) :
    t.cost cfg + s.activeCost cfg = s.cost cfg + t.activeCost cfg := by
  obtain ⟨w, job, hw, hjob⟩ := h.before
  obtain ⟨w', job', hw', hjob'⟩ := h.after
  have hentry : t.entryCost cfg = s.entryCost cfg := by rw [entryCost, entryCost, h.speaker]
  rw [cost_of_active hw' hjob' (h.closing.trans hc), cost_of_active hw hjob hc, h.controls, hentry,
    h.pollPending, h.maintenancePending]
  omega

lemma Serves.pays (h : Serves s t) (hc : s.closing = false) (hcalls : calls t.log = calls s.log)
    (hactive : t.activeCost cfg ≤ s.activeCost cfg) : Pays cfg s t := by
  refine .of_le hcalls ?_ h.acceptedCount.ge h.pollFutureCount.ge
  have hcost := h.cost_add_eq cfg hc
  omega

lemma Serves.pays_started (h : Serves s t) (hc : s.closing = false) {reads : ℕ} {call : Call}
    {remaining : Option Time} (hlog : t.log = .started reads call remaining :: s.log)
    (hactive : t.activeCost cfg < s.activeCost cfg) : Pays cfg s t := by
  refine .of_started hlog ?_ h.acceptedCount h.pollFutureCount
  have hcost := h.cost_add_eq cfg hc
  omega

/-- The entry goes back to the queue, and the volume is known. -/
lemma cost_returned (hw : s.worker = some (.volumeGet job)) (hc : s.closing = false)
    (hw' : t.worker = some .loop) (hc' : t.closing = false)
    (hq : t.controls = job :: s.controls) (hknown : Known t.snapshot.speaker)
    (hpoll : t.pollPending = s.pollPending)
    (hmaintenance : t.maintenancePending = s.maintenancePending) : t.cost cfg ≤ s.cost cfg := by
  have hentry : t.entryCost cfg = 2 * cfg.verifications + 2 := by rw [entryCost, if_pos hknown]
  have hothers : s.controls.length * t.entryCost cfg ≤ s.controls.length * s.entryCost cfg :=
    Nat.mul_le_mul_left _ (entryCost_le fun _ => hknown)
  have hactive : s.activeCost cfg = 2 * cfg.verifications + 2 := by simp [activeCost, hw]
  rw [cost_of_rests (.of_worker hw') hc', restCost, cost_of_active hw rfl hc, hactive, hq, hpoll,
    hmaintenance, List.length_cons, Nat.succ_mul, if_pos (List.cons_ne_nil _ _)]
  rw [hentry] at hothers ⊢
  omega

/-- A source GET answers the polls that are pending. -/
lemma pollPending_stateExchangeFailed {reason : Reason} {r : ρ} {error : LsxError} :
    (s.stateExchangeFailed env cfg reason r error).pollPending = false := by
  cases hp : s.pollPending <;> cases reason <;>
    simp [stateExchangeFailed, answerPolls, resolvePolls, hp]

lemma pollPending_stateExchangeDone {reason : Reason} {r : ρ} {status : SourceStatus} :
    (s.stateExchangeDone env cfg reason r status).pollPending = false := by
  cases hp : s.pollPending <;> simp [stateExchangeDone, answerPolls, resolvePolls, hp]

/-- An acknowledged control asks for no maintenance. -/
lemma maintenance_controlAcknowledged {first : Option Failure} {r : ρ}
    (h : (s.controlAcknowledged env cfg job first r).maintenancePending = true) :
    s.maintenancePending = true := by
  have hmaintenance : (s.controlAcknowledged env cfg job first r).maintenancePending =
      if job.command.kind = .turnOff then false else s.maintenancePending := rfl
  rw [hmaintenance] at h
  split at h
  · cases h
  · exact h

variable [Client ρ]

/-- A reply starts no exchange. -/
lemma calls_of_reply {r : ρ} (h : Rule env cfg s (.reply r) t) : calls t.log = calls s.log := by
  have hflight : s.inExchange = true := by
    cases h with
    | stateFailed reason r e hw | stateDone reason r status hw | maintenanceFailed r e hw
    | maintenanceDone r status hw | volumeGetFailed job r e hw | volumeGetDone job r status hw
    | setRejected job first request r e hw | firstFailed job request r e hw
    | secondFailed job first request r e hw | setAcknowledged job first request r hw =>
      exact inExchange_of_worker hw
  rcases calls_of_rule h with hcalls | ⟨reads, call, remaining, hstarts, -⟩
  · exact hcalls
  · rw [hstarts.not_inExchange] at hflight
    cases hflight

lemma known_of_rule (h : Rule env cfg s e t) (hknown : Known s.snapshot.speaker) :
    Known t.snapshot.speaker := by
  rcases answer_or_unchanged h with ⟨f, hf, hspeaker⟩ | ⟨-, hspeaker⟩
  · rw [hspeaker]
    cases hf with
    | source => exact hknown
    | volume => exact ⟨Option.some_ne_none _, Option.some_ne_none _⟩
    | acknowledged => exact hknown.of_expectedState
  · rwa [hspeaker]

/-- Every step is paid for. -/
lemma pays_of_step (hmono : Monotone env.monotonic)
    (hr : Transition.Reachable (step env cfg) {} s) (hst : step env cfg s e = some t) :
    Pays cfg s t := by
  have hrule : Rule env cfg s e t := .of_step hst
  by_cases hclosing : s.closing = true
  · have hceased := ceased_of_step hr hclosing hst
    exact .of_closing hceased.calls hceased.closing hceased.acceptedCount.ge
      hceased.pollFutureCount.ge
  have hc : s.closing = false := Bool.eq_false_iff.mpr hclosing
  have hknown : Known s.snapshot.speaker → Known t.snapshot.speaker := known_of_rule hrule
  have hreply {r : ρ} (he : e = .reply r) : calls t.log = calls s.log :=
    calls_of_reply (he ▸ hrule)
  have hfinished {w : Worker} {job : Control} (hcalls : calls t.log = calls s.log)
      (hw : s.worker = some w) (hjob : w.job? = some job) (hframed : Framed s t)
      (hrests : t.Rests) (hpoll : t.pollPending = s.pollPending)
      (hmaintenance : t.maintenancePending = true → s.maintenancePending = true) :
      Pays cfg s t :=
    .of_le hcalls (cost_finished hw hjob hc hframed hrests hknown (fun h => hpoll ▸ h)
      hmaintenance) hframed.acceptedCount.ge hframed.pollFutureCount.ge
  cases hrule with
  -- producers, and the shutdown
  | setPublisher | alreadyStarted | submitClosed | refused | pollClosed | callerCancelled
  | closeShared | shutdownTimedOut | joinFailed | clientClosed =>
    exact .of_le rfl (Nat.le_of_eq cost_congr) le_rfl le_rfl
  | started hw => exact (pays_createWorker hw hc).trans pays_addPoll
  | startedClosing hw hc' | workerReturned hw hc' => exact absurd hc' hclosing
  | coalesced r job hi hopen hj =>
    refine .of_le rfl (Nat.le_of_eq (cost_congr rfl rfl ?_)) le_rfl le_rfl
    obtain ⟨-, -, hlast⟩ := coalescingEntry_eq_some hj
    rw [hlast]
    simp [coalesce]
  | accepted => exact pays_accept
  | polled => exact pays_addPoll
  | closeBegun =>
    obtain ⟨-, hledger, -, hc', haccepted, -, -, hpolls⟩ := frame_beginClose (s := s)
    exact .of_closing (congrArg (fun l => calls l.log) hledger) hc' haccepted.ge hpolls.ge
  | joined w hw he =>
    have hrests : s.Rests := by
      rcases he with rfl | rfl
      · exact .of_worker hw
      · exact .of_worker hw
    exact .of_rests hrests (.of_none rfl) hc le_rfl
  | workerCancelled w hw hrun he hct =>
    refine absurd ((closing_iff hr).mpr ?_) hclosing
    rw [hct]
    exact CloseTask.noConfusion
  -- the worker's loop
  | workerBegun hw | woken timeout hw | timedOut timeout hw =>
    exact .of_rests (.of_worker hw) (.of_worker (w := .loop) rfl) hc le_rfl
  | waited hw => exact .of_rests (.of_worker hw) (.of_worker (w := .waiting _) rfl) hc le_rfl
  | controlSelected job rest hw hopen hq =>
    exact .of_le rfl (cost_controlSelected hw hc hq rfl hc rfl rfl rfl rfl) le_rfl le_rfl
  | verificationStarted hw hopen hq hdue =>
    have hplanned : s.verification.due ≠ none := by
      intro hnone
      simp [hnone] at hdue
    exact .of_started rfl (cost_verificationStarted hw hc hq (indexed_of_reachable hr) hplanned rfl
      hc hq rfl) rfl rfl
  | pollStarted hw hopen hq hdue hp =>
    exact .of_started rfl (cost_pollStarted hw hc hq hp rfl hc hq rfl) rfl rfl
  | maintenanceStarted hw hopen hq hm =>
    exact .of_started rfl (cost_maintenance hw hc hm (.of_worker (w := .maintenanceGet) rfl) hc rfl
      rfl rfl rfl rfl) rfl rfl
  | maintenanceSkipped hw hopen hq hm =>
    exact .of_le rfl (Nat.le_of_lt (cost_maintenance hw hc hm (.of_worker (w := .loop) rfl) hc rfl
      rfl rfl rfl rfl)) le_rfl le_rfl
  -- the ends of source GETs and of maintenance
  | stateFailed reason r error hw =>
    have hframed : Framed s (s.stateExchangeFailed env cfg reason r error) :=
      framed_stateExchangeFailed
    exact .of_le (hreply rfl) (cost_sourceGet_ended hw hc hframed rfl hknown
      remaining_stateExchangeFailed pollPending_stateExchangeFailed) hframed.acceptedCount.ge
      hframed.pollFutureCount.ge
  | stateDone reason r status hw =>
    have hframed : Framed s (s.stateExchangeDone env cfg reason r status) :=
      framed_stateExchangeDone
    have hremaining := remaining_stateExchangeDone cfg r status hmono
      (fun h => (spaced_of_reachable hmono hr).inFlight (h ▸ hw))
      (fun h => (awaited_of_reachable hr).inFlight (h ▸ hw))
    exact .of_le (hreply rfl) (cost_sourceGet_ended hw hc hframed rfl hknown hremaining
      pollPending_stateExchangeDone) hframed.acceptedCount.ge hframed.pollFutureCount.ge
  | maintenanceFailed r error hw | maintenanceDone r status hw =>
    refine .of_rests (.of_worker hw) (.of_worker (w := .loop) rfl) hc ?_ (hreply rfl)
    exact restCost_mono rfl hknown rfl rfl rfl
  -- a control
  | volumeGetStarted job hw hlive hd hk hunknown =>
    refine Serves.pays_started ⟨⟨_, job, hw, rfl⟩, ⟨_, job, rfl, rfl⟩, rfl, rfl, rfl, rfl, rfl, rfl,
      rfl⟩ hc rfl ?_
    have hentry : ¬ Known s.snapshot.speaker := fun h => hunknown.elim h.1 h.2
    simp [activeCost, hw, startCall, entryCost, hentry]
  | attemptsBegun job hw =>
    refine Serves.pays ⟨⟨_, job, hw, rfl⟩, ⟨_, job, rfl, rfl⟩, rfl, rfl, rfl, rfl, rfl, rfl,
      rfl⟩ hc rfl ?_
    simp only [activeCost, hw, entryCost, goto_worker]
    split <;> omega
  | setStarted job failure request hw =>
    refine Serves.pays_started ⟨⟨_, job, hw, rfl⟩, ⟨_, _, rfl, rfl⟩, rfl, rfl, rfl, rfl, rfl, rfl,
      rfl⟩ hc rfl ?_
    cases failure <;> simp [activeCost, hw, startCall]
  | firstFailed job request r error hw =>
    refine Serves.pays ⟨⟨_, job, hw, rfl⟩, ⟨_, job, rfl, rfl⟩, rfl, rfl, rfl, rfl, rfl, rfl,
      rfl⟩ hc (hreply rfl) ?_
    simp [activeCost, hw, sleepBeforeRetry]
  | slept job failure delay hw =>
    refine Serves.pays ⟨⟨_, job, hw, rfl⟩, ⟨_, job, rfl, rfl⟩, rfl, rfl, rfl, rfl, rfl, rfl,
      rfl⟩ hc rfl ?_
    simp [activeCost, hw]
  | volumeGetDone job r status hw =>
    exact .of_le (hreply rfl) (cost_returned hw hc rfl hc rfl
      ⟨Option.some_ne_none _, Option.some_ne_none _⟩ rfl rfl) le_rfl le_rfl
  | controlSkipped job hw | controlExpired job hw =>
    exact hfinished rfl hw rfl ⟨rfl, rfl, rfl, rfl, rfl, rfl⟩ (.of_worker (w := .loop) rfl) rfl id
  | workerCrashed job failure error hw =>
    exact hfinished rfl hw rfl ⟨rfl, rfl, rfl, rfl, rfl, rfl⟩ (.of_worker (w := .crashed _) rfl)
      rfl id
  | volumeGetFailed job r e hw =>
    exact hfinished (hreply rfl) hw rfl framed_volumeGetFailed (.of_worker (w := .loop) rfl) rfl id
  | attemptsTimedOut job s' hw hs =>
    refine hfinished ?_ hw rfl (hs.framed.trans framed_controlTimedOut)
      (.of_worker (w := .loop) rfl) ?_ ?_ <;> cases hs <;> first | rfl | exact id
  | attemptsLeft job failure s' hw hs =>
    have hcalls : calls s'.log = calls s.log := by cases hs <;> rfl
    refine hfinished ?_ hw rfl (hs.framed.trans framed_controlFailed) (.of_worker (w := .loop) rfl)
      ?_ ?_
    · rw [← calls_traffic, traffic_controlFailed, calls_traffic, hcalls]
    · cases hs <;> rfl
    · cases hs <;> exact id
  | setRejected job first request r error hw =>
    exact hfinished (hreply rfl) hw rfl (framed_record.trans (framed_record.trans
      framed_controlFailed)) (.of_worker (w := .loop) rfl) rfl id
  | secondFailed job first request r error hw =>
    exact hfinished (hreply rfl) hw rfl (framed_record.trans framed_controlFailed)
      (.of_worker (w := .loop) rfl) rfl id
  | setAcknowledged job first request r hw =>
    exact hfinished (hreply rfl) hw rfl framed_controlAcknowledged (.of_worker (w := .loop) rfl)
      rfl maintenance_controlAcknowledged

omit [Client ρ] in
/-- What a state owes is bounded by its entries. -/
lemma cost_le (cfg : Config) (s : Runtime ρ) :
    s.cost cfg ≤ (2 * cfg.verifications + 3) * (s.live.length + 1) := by
  have hentry : s.entryCost cfg ≤ 2 * cfg.verifications + 3 := by
    unfold entryCost
    split <;> omega
  have hcontrols : s.controls.length * s.entryCost cfg ≤
      s.controls.length * (2 * cfg.verifications + 3) := Nat.mul_le_mul_left _ hentry
  have hactive : s.activeCost cfg ≤
      s.activeControl.toList.length * (2 * cfg.verifications + 3) := by
    cases hactive : s.activeControl with
    | none => simp [activeCost_of_inactive hactive]
    | some job =>
      rw [Option.toList_some, List.length_singleton, Nat.one_mul]
      unfold activeCost
      split <;> omega
  have hlength : s.live.length = s.activeControl.toList.length + s.controls.length :=
    List.length_append
  have hpending : s.pendingCost ≤ 3 := pendingCost_le
  have hplan : s.planCost cfg ≤ 2 * cfg.verifications := planCost_le
  unfold cost
  split
  · exact Nat.zero_le _
  · rw [hlength, Nat.mul_comm _ (_ + 1), Nat.succ_mul, Nat.add_mul]
    omega

/-- From any reachable state on, what is sent is paid for by what the state owes and by what is
requested. -/
lemma pays_of_reachable (hmono : Monotone env.monotonic)
    (hs : Transition.Reachable (step env cfg) {} s)
    (h : Transition.Reachable (step env cfg) s t) : Pays cfg s t := by
  have hpaid := Transition.Reaches.amortized (fun s : Runtime ρ => (calls s.log).length)
    (paid cfg) (cost cfg) h fun hr _ hst => pays_of_step hmono (hs.trans hr) hst
  unfold Pays
  omega

/-- In every run, whatever is lost, refused or answered late, and whatever the volume maintenance
and the verification make of it: a control that is accepted costs at most two SETs, a volume GET,
and for each delay of a plan a source GET and a maintenance GET; a poll costs at most two GETs. Left
to itself a runtime makes boundedly many exchanges. -/
theorem exchanges_paid_for (hmono : Monotone env.monotonic)
    (h : Transition.Reachable (step env cfg) {} s) :
    (calls s.log).length ≤
      (2 * cfg.verifications + 3) * s.acceptedCount + 2 * s.pollFutureCount ∧
    ∀ t, Transition.Reachable (step env cfg) s t → t.acceptedCount = s.acceptedCount →
      t.pollFutureCount = s.pollFutureCount → (calls t.log).length ≤
        (calls s.log).length + (2 * cfg.verifications + 3) * (s.live.length + 1) := by
  refine ⟨?_, ?_⟩
  · have hpays : Pays cfg {} s := pays_of_reachable hmono .refl h
    have hcost : cost cfg ({} : Runtime ρ) = 0 := by
      rw [cost_of_rests (.of_none rfl) rfl]
      simp [restCost, Verification.remaining]
    rw [Pays, hcost] at hpays
    simp only [paid, Nat.mul_zero, Nat.add_zero, calls, List.filterMap_nil, List.length_nil,
      Nat.zero_add] at hpays
    exact (Nat.le_add_right _ _).trans hpays
  · intro t ht haccepted hpolls
    have hpays : Pays cfg s t := pays_of_reachable hmono h ht
    have hcost := cost_le cfg s
    rw [Pays, paid, paid, haccepted, hpolls] at hpays
    omega

/-- A `turn_on` that is not acknowledged at first, and its verification. -/
theorem exchanges_paid_for_turnOn : ∃ s : Runtime Transcript,
    Transition.Reachable (step .slow .ofOptions) {} s ∧ (calls s.log).length = 3 ∧
    (calls s.log).length ≤ 9 * s.acceptedCount + 2 * s.pollFutureCount ∧
    ∀ t, Transition.Reachable (step .slow .ofOptions) s t → t.acceptedCount = s.acceptedCount →
      t.pollFutureCount = s.pollFutureCount →
        (calls t.log).length ≤ 3 + 9 * (s.live.length + 1) := by
  have hrun : (Transition.run (step .slow .ofOptions)
      [.start, .submit .turnOn, .run, .run, .run, .run, .reply (Transcript.connectFailed .refused),
        .slept, .run, .reply (Transcript.status 0x11), .run]
      ({} : Runtime Transcript)).any (fun s => (calls s.log).length = 3) = true := by
    decide +kernel
  obtain ⟨s, hs, hs'⟩ := Transition.exists_reachable_of_run hrun
  have hthree : (calls s.log).length = 3 := of_decide_eq_true hs'
  have hmono : Monotone Env.slow.monotonic := Nat.mono_cast
  obtain ⟨hbound, hrest⟩ := exchanges_paid_for hmono hs
  exact ⟨s, hs, hthree, hbound, hthree ▸ hrest⟩

end Runtime

end KefLsx
