import KefLsx.Runtime.Schedule

/-!
# The verification plan

What a step does to the verification plan and to the last command, told by the entries it adds to
the log (`Change`), and what follows for every run: the plan in force is the last one that was
started, the last command is the last one accepted or completed, and a plan expects what the
control that started it has written.
-/

namespace KefLsx

/-! ### Reading the log -/

namespace Obs

variable {ρ : Type}

/-- The entry that `snapshot.last_command` is set to. -/
def recordedId? : Obs ρ → Option ℕ
  | accepted id _ _ | completed id _ _ => some id
  | _ => none

def plan? : Obs ρ → Option (ℕ × ControlKind × SpeakerState)
  | planStarted id kind expected => some (id, kind, expected)
  | _ => none

/-- Entries that tell nothing of a plan or of the last command. -/
def isQuiet : Obs ρ → Bool
  | accepted .. | completed .. | planStarted .. | verified .. | mismatch => false
  | started _ (.sourceGet .verification) _ => false
  | _ => true

/-- Entries that are logged while an exchange is in flight. -/
def isProducer : Obs ρ → Bool
  | opened .. | requested .. | accepted .. => true
  | _ => false

lemma recordedId?_of_isQuiet {o : Obs ρ} (h : o.isQuiet = true) : o.recordedId? = none := by
  cases o with
  | accepted | completed => cases h
  | _ => rfl

lemma plan?_of_isQuiet {o : Obs ρ} (h : o.isQuiet = true) : o.plan? = none := by
  cases o with
  | planStarted => cases h
  | _ => rfl

lemma plan?_of_isProducer {o : Obs ρ} (h : o.isProducer = true) : o.plan? = none := by
  cases o with
  | planStarted => cases h
  | _ => rfl

end Obs

namespace Log

variable {ρ : Type} {new log : List (Obs ρ)}

/-- The entry recorded last. -/
def lastRecorded (log : List (Obs ρ)) : Option ℕ := log.findSome? Obs.recordedId?

/-- The plan started last. -/
def lastPlan (log : List (Obs ρ)) : Option (ℕ × ControlKind × SpeakerState) :=
  log.findSome? Obs.plan?

lemma lastRecorded_append (hnew : ∀ o ∈ new, o.recordedId? = none) :
    lastRecorded (new ++ log) = lastRecorded log := by
  rw [lastRecorded, List.findSome?_append, List.findSome?_eq_none_iff.mpr hnew]
  rfl

lemma lastPlan_append (hnew : ∀ o ∈ new, o.plan? = none) :
    lastPlan (new ++ log) = lastPlan log := by
  rw [lastPlan, List.findSome?_append, List.findSome?_eq_none_iff.mpr hnew]
  rfl

lemma lastRecorded_cons {o : Obs ρ} (ho : o.recordedId? = none) :
    lastRecorded (o :: log) = lastRecorded log := by
  rw [lastRecorded, List.findSome?_cons, ho]
  rfl

lemma lastPlan_cons {o : Obs ρ} (ho : o.plan? = none) : lastPlan (o :: log) = lastPlan log := by
  rw [lastPlan, List.findSome?_cons, ho]
  rfl

lemma calls_eq_nil_of_isProducer {new : List (Obs ρ)} (h : ∀ o ∈ new, o.isProducer = true) :
    calls new = [] := by
  refine List.filterMap_eq_nil_iff.mpr fun o ho => ?_
  have hproducer := h o ho
  cases o with
  | started => cases hproducer
  | _ => rfl

/-- The last plan splits the log. -/
lemma lastPlan_eq_some_iff {id : ℕ} {kind : ControlKind} {expected : SpeakerState} :
    lastPlan log = some (id, kind, expected) ↔ ∃ newer older,
      log = newer ++ .planStarted id kind expected :: older ∧ ∀ o ∈ newer, o.plan? = none := by
  rw [lastPlan, List.findSome?_eq_some_iff]
  constructor
  · rintro ⟨newer, o, older, hlog, ho, hnewer⟩
    cases o with
    | planStarted => cases ho; exact ⟨newer, older, hlog, hnewer⟩
    | _ => cases ho
  · rintro ⟨newer, older, hlog, hnewer⟩
    exact ⟨newer, _, older, hlog, rfl, hnewer⟩

end Log

/-! ### The recording methods of verification -/

namespace Ledger

variable {ρ : Type} {env : Env} {cfg : Config} {l l' : Ledger ρ}

/-- The entry that the last command belongs to. -/
def lastId (l : Ledger ρ) : Option ℕ := l.snapshot.lastCommand.map CommandResult.id

/-- Another GET is planned, or the plan ends, and the last command may be marked as not
verified. -/
structure Rescheduled (l l' : Ledger ρ) : Prop where
  log : l'.log = l.log ∨ ∃ id, l.lastId = some id ∧ l'.log = .verified id false :: l.log
  lastId : l'.lastId = l.lastId
  plan : l'.verification.due ≠ none ∧ l'.verification.kind = l.verification.kind ∧
      l'.verification.expected = l.verification.expected ∨
    l'.verification.due = none ∧ l'.verification.kind = none ∧ l'.verification.expected = none

lemma setVerified_of_awaits (value : Bool) (h : l.awaitsVerification = true) :
    ∃ id, l.lastId = some id ∧ (l.setVerified value).log = .verified id value :: l.log ∧
      (l.setVerified value).lastId = l.lastId := by
  cases hlast : l.snapshot.lastCommand with
  | none => simp [awaitsVerification, hlast] at h
  | some result =>
    refine ⟨result.id, by simp [lastId, hlast], ?_, ?_⟩
    · simp [setVerified, hlast]
    · simp [setVerified, lastId, hlast]

lemma rescheduled_scheduleNextVerification :
    Rescheduled l (l.scheduleNextVerification env cfg) := by
  unfold scheduleNextVerification
  dsimp only
  split
  · by_cases ha : l.awaitsVerification = true
    · obtain ⟨id, hid, hlog, hlast⟩ := setVerified_of_awaits false ha
      rw [if_pos ha]
      exact ⟨.inr ⟨id, hid, hlog⟩, hlast, .inr ⟨rfl, rfl, rfl⟩⟩
    · rw [if_neg ha]
      exact ⟨.inl rfl, rfl, .inr ⟨rfl, rfl, rfl⟩⟩
  · exact ⟨.inl rfl, rfl, .inl ⟨Option.some_ne_none _, rfl, rfl⟩⟩

/-- A plan that has been cleared is armed again, without a kind. -/
lemma scheduleNextVerification_of_cleared (h : l.verification = {}) :
    (l.scheduleNextVerification env cfg).verification.due ≠ none ∧
      (l.scheduleNextVerification env cfg).verification.kind = none := by
  have hdelays : 0 < cfg.timing.verificationDelays.length :=
    List.length_pos_iff.mpr cfg.timing.verificationDelays_ne_nil
  simp [scheduleNextVerification, h, List.getElem?_eq_getElem hdelays]

/-- A source GET may verify the last command, find that the state does not match, or leave the
plan alone. -/
lemma verify_cases (env : Env) (cfg : Config) (l : Ledger ρ) (reason : Reason) :
    ((l.verify env cfg reason).log = l.log ∧
      (l.verify env cfg reason).verification = l.verification ∧
      (l.verify env cfg reason).lastId = l.lastId) ∨
    l.verification.due ≠ none ∧
      ((∃ id, l.lastId = some id ∧ l.matchesExpected = true ∧
        (l.verify env cfg reason).log = .verified id true :: l.log ∧
        (l.verify env cfg reason).verification = {} ∧
        (l.verify env cfg reason).lastId = l.lastId) ∨
      ∃ l₁ : Ledger ρ, l₁.log = .mismatch :: l.log ∧ l₁.verification = l.verification ∧
        l₁.lastId = l.lastId ∧ Rescheduled l₁ (l.verify env cfg reason)) := by
  unfold verify
  dsimp only
  by_cases hv : l.verifiesNow env reason = true
  · rw [if_pos hv]
    simp only [verifiesNow, Bool.and_eq_true] at hv
    obtain ⟨⟨hdue, -⟩, hawaits⟩ := hv
    cases hd : l.verification.due with
    | none => simp [hd] at hdue
    | some due =>
      refine .inr ⟨Option.some_ne_none due, ?_⟩
      rw [Option.isSome_some, if_pos rfl, completeVerification]
      by_cases hm : l.tick.matchesExpected = true
      · obtain ⟨id, hid, hlog, hlast⟩ := setVerified_of_awaits true hawaits
        rw [if_pos hm]
        refine .inl ⟨id, hid, hm, ?_, rfl, ?_⟩
        · cases hc : l.snapshot.lastCommand with
          | none => simp [lastId, hc] at hid
          | some result =>
            simp only [lastId, hc, Option.map_some, Option.some.injEq] at hid
            simp [setVerified, hc, hid]
        · cases hc : l.snapshot.lastCommand <;> simp [setVerified, lastId, hc]
      · rw [if_neg hm]
        refine .inr ⟨_, ?_, ?_, ?_, rescheduled_scheduleNextVerification⟩ <;> rfl
  · rw [if_neg hv]
    refine .inl ?_
    split <;> exact ⟨rfl, rfl, rfl⟩

end Ledger

namespace Runtime

open Log

variable {ρ : Type} {env : Env} {cfg : Config} {s t : Runtime ρ} {e : Event ρ} {job : Control}

/-! ### The plans of controls -/

/-- A plan starts at the completion of its control, and it expects the state that the request of
all of its SETs was computed with. -/
structure Planned (cfg : Config) (id : ℕ) (kind : ControlKind) (expected : SpeakerState)
    (earlier : List (Obs ρ)) : Prop where
  isSource : kind.isSource = true
  completion : ∃ outcome result older, earlier = .completed id outcome result :: older
  written : ∃ speaker command request, command.kind = kind ∧
    cfg.executed speaker command = command ∧ cfg.request speaker command = .ok request ∧
    expected = cfg.expectedState speaker command ∧ sets id earlier ≠ [] ∧
    ∀ call ∈ sets id earlier, ∃ attempt, call = .set id kind attempt request

/-- A failed control is completed, and a plan may be started for it. -/
lemma controlFailed_cases {failure : Failure} :
    ∃ (l : Ledger ρ) (result : CommandResult),
      l.log = .completed job.id (.failed failure.error) result :: s.log ∧
      l.verification = s.verification ∧ l.snapshot.lastCommand = some result ∧
      result.id = job.result.id ∧ l.snapshot.speaker = s.snapshot.speaker ∧
      (s.controlFailed env cfg job failure).toLedger =
        if failure.attempted ∧ ¬ failure.error.isRejection ∧ job.command.kind.isSource then
          l.startVerification env cfg job (cfg.expectedState s.snapshot.speaker job.command)
        else l := by
  obtain ⟨l, hl, heq⟩ : ∃ l : Ledger ρ, _ ∧
    (s.controlFailed env cfg job failure).toLedger = _ := controlFailed_eq
  obtain ⟨hlog, hplan, hspeaker⟩ : l.log = s.log ∧ l.verification = s.verification ∧
      l.snapshot.speaker = s.snapshot.speaker := by
    rcases hl with ⟨-, rfl⟩ | ⟨-, rfl⟩
    · exact ⟨rfl, rfl, rfl⟩
    · exact ⟨rfl, rfl, rfl⟩
  exact ⟨l.finishControlError env job (.lsx failure.error) failure.attempted
    (.failed failure.error), job.failedResult (l.wall env) (.lsx failure.error) failure.attempted,
    congrArg _ hlog, hplan, rfl, rfl, hspeaker, heq⟩

/-- An acknowledged control is completed on the state that it is expected to have brought about,
which its plan, if it starts one, expects. -/
lemma controlAcknowledged_cases {first : Option Failure} {r : ρ} :
    ∃ (l : Ledger ρ) (result : CommandResult) (time : Time),
      l.log = .completed job.id .acknowledged result ::
        .setEnded job.id (attemptNumber first) r time :: s.log ∧
      l.verification = s.verification ∧ l.snapshot.lastCommand = some result ∧
      result.id = job.result.id ∧ l.publisher = s.publisher ∧
      l.snapshot.speaker = cfg.expectedState s.snapshot.speaker job.command ∧
      (s.controlAcknowledged env cfg job first r).toLedger =
        if job.command.kind.isSource then
          (l.startVerification env cfg job
            (cfg.expectedState s.snapshot.speaker job.command)).publish
        else l.publish := by
  obtain ⟨l, hl, heq⟩ : ∃ l : Ledger ρ, _ ∧
    (s.controlAcknowledged env cfg job first r).toLedger = _ := controlAcknowledged_eq
  rw [apply_ite Ledger.publish] at heq
  let recorded := (l.emit (.setEnded job.id (attemptNumber first) r (l.now env))).recordSuccess env
    cfg false
  refine ⟨recorded.storeAcknowledged env job, job.acknowledgedResult (recorded.wall env),
    l.now env, ?_, ?_, rfl, rfl, ?_, ?_, heq⟩ <;> rcases hl with rfl | rfl <;> rfl

/-! ### What a step does to the plan -/

variable [Client ρ]

/-- What a step does to the log, the plan and the last command. -/
inductive Change (cfg : Config) (s : Runtime ρ) (e : Event ρ) (t : Runtime ρ) : Prop where
  | quiet (new : List (Obs ρ)) (hlog : t.log = new ++ s.log) (hnew : ∀ o ∈ new, o.isQuiet = true)
      (hplan : t.verification = s.verification) (hlast : t.lastId = s.lastId)
  | accepted (o : Obs ρ) (ho : o.isQuiet = true) (id : ℕ) (command : Command) (deadline : Time)
      (hlog : t.log = .accepted id command deadline :: o :: s.log) (hplan : t.verification = {})
      (hlast : t.lastId = some id)
  | closed (hlog : t.log = s.log) (hplan : t.verification = {}) (hlast : t.lastId = s.lastId)
  | completed (new : List (Obs ρ)) (hnew : ∀ o ∈ new, o.isQuiet = true) (id : ℕ)
      (outcome : Outcome) (result : CommandResult)
      (hlog : t.log = .completed id outcome result :: (new ++ s.log))
      (hplan : t.verification = s.verification) (hlast : t.lastId = some id)
  | planned (new : List (Obs ρ)) (hnew : ∀ o ∈ new, o.isQuiet = true) (id : ℕ)
      (outcome : Outcome) (result : CommandResult) (kind : ControlKind) (expected : SpeakerState)
      (hlog : t.log =
        .planStarted id kind expected :: .completed id outcome result :: (new ++ s.log))
      (hplanned : Planned cfg id kind expected (.completed id outcome result :: (new ++ s.log)))
      (hdue : t.verification.due ≠ none) (hkind : t.verification.kind = some kind)
      (hexpected : t.verification.expected = some expected) (hlast : t.lastId = some id)
  | started (reads : ℕ) (hdue : s.verification.due ≠ none)
      (hlog : t.log = .started reads (.sourceGet .verification) none :: s.log)
      (hplan : t.verification = s.verification) (hlast : t.lastId = s.lastId)
  | verified (reason : Reason) (polled : Bool) (r : ρ) (time : Time) (status : SourceStatus)
      (id : ℕ) (hw : s.worker = some (.sourceGet reason))
      (hr : Client.asyncGetSource r = .ok status) (hdue : s.verification.due ≠ none)
      (hid : s.lastId = some id)
      (hmatch : ∃ kind expected, s.verification.kind = some kind ∧
        s.verification.expected = some expected ∧
        (kind.isSource = true →
          expected.powerOn = some status.powerOn ∧ expected.source = some status.source))
      (hlog : t.log = .verified id true :: .sourceEnded reason polled r time :: s.log)
      (hplan : t.verification = {}) (hlast : t.lastId = s.lastId)
  | mismatched (l : Ledger ρ) (o : Obs ρ) (ho : o.isQuiet = true)
      (hdue : s.verification.due ≠ none) (hlog : l.log = .mismatch :: o :: s.log)
      (hplan : l.verification = s.verification) (hlast : l.lastId = s.lastId)
      (hnext : Ledger.Rescheduled l t.toLedger)
  | failed (r : ρ) (error : LsxError) (he : e = .reply r)
      (hw : s.worker = some (.sourceGet .verification))
      (hr : Client.asyncGetSource r = .error error) (l : Ledger ρ) (o : Obs ρ)
      (ho : o.isQuiet = true) (hlog : l.log = o :: s.log)
      (hplan : l.verification = s.verification) (hlast : l.lastId = s.lastId)
      (hnext : Ledger.Rescheduled l t.toLedger)

/-- The entry that the worker is serving has been sent, and its requests were all computed with the
present state. -/
structure Sent (cfg : Config) (s : Runtime ρ) (job : Control) (request : List UInt8) : Prop where
  executed : Executed cfg s job request
  sets_ne_nil : sets job.id s.log ≠ []
  sets_eq : ∀ call ∈ sets job.id s.log,
    ∃ attempt, call = .set job.id job.command.kind attempt request

lemma sent_of_setting (h : Scheduled env cfg s) {first : Option Failure} {request : List UInt8}
    (hw : s.worker = some (.setting job first request)) : Sent cfg s job request := by
  cases first with
  | none =>
    obtain ⟨hexecuted, hsets, -⟩ := h.phase _ hw
    exact ⟨hexecuted, by simp [hsets], by simp [hsets]⟩
  | some failure =>
    obtain ⟨hexecuted, hsets, -⟩ := h.phase _ hw
    exact ⟨hexecuted, by simp [hsets], by simp [hsets]⟩

lemma sent_of_attempt (h : Scheduled env cfg s) {failure : Failure}
    (hw : s.worker = some (.attempt job (some failure))) : ∃ request, Sent cfg s job request := by
  obtain ⟨request, hexecuted, hsets, -⟩ := h.phase _ hw
  exact ⟨request, hexecuted, by simp [hsets], by simp [hsets]⟩

omit [Client ρ] in
lemma Sent.planned {request : List UInt8} (h : Sent cfg s job request)
    (hk : job.command.kind.isSource = true) {new : List (Obs ρ)}
    (hnew : ∀ o ∈ new, o.call? = none) {outcome : Outcome} {result : CommandResult} :
    Planned cfg job.id job.command.kind (cfg.expectedState s.snapshot.speaker job.command)
      (.completed job.id outcome result :: (new ++ s.log)) := by
  have hsets : sets job.id (.completed job.id outcome result :: (new ++ s.log)) =
      sets job.id s.log := sets_eq_of_calls (calls_append hnew)
  refine ⟨hk, ⟨outcome, result, _, rfl⟩, s.snapshot.speaker, job.command, request, rfl,
    h.executed.value, h.executed.request, rfl, ?_, ?_⟩
  · rw [hsets]
    exact h.sets_ne_nil
  · rw [hsets]
    exact h.sets_eq

/-- The end of a failed control. -/
lemma Change.of_controlFailed {s' : Runtime ρ} {failure : Failure} {request : List UInt8}
    (hsent : Sent cfg s job request) (hid : job.result.id = job.id) (new : List (Obs ρ))
    (hnew : ∀ o ∈ new, o.isQuiet = true ∧ o.call? = none) (hlog : s'.log = new ++ s.log)
    (hplan : s'.verification = s.verification)
    (hspeaker : s'.snapshot.speaker = s.snapshot.speaker) :
    Change cfg s e (s'.controlFailed env cfg job failure) := by
  obtain ⟨l, result, hl, hlplan, hlast, hresult, -, heq⟩ :
    ∃ (l : Ledger ρ) (result : CommandResult), _ ∧ _ ∧ _ ∧ _ ∧ _ ∧
      (s'.controlFailed env cfg job failure).toLedger = _ := controlFailed_cases
  have hquiet : ∀ o ∈ new, o.isQuiet = true := fun o ho => (hnew o ho).1
  have hlastId : l.lastId = some job.id := by
    rw [Ledger.lastId, hlast, Option.map_some, hresult, hid]
  rw [hlog] at hl
  by_cases hp : failure.attempted = true ∧ ¬ failure.error.isRejection = true ∧
      job.command.kind.isSource = true
  · rw [if_pos hp, hspeaker] at heq
    refine .planned new hquiet job.id (.failed failure.error) result _ _ ?_
      (hsent.planned hp.2.2 fun o ho => (hnew o ho).2) ?_ ?_ ?_ ?_
    · rw [heq, ← hl]
      rfl
    · rw [heq]
      apply Option.some_ne_none
    · rw [heq]
      rfl
    · rw [heq]
      rfl
    · rw [heq]
      exact hlastId
  · rw [if_neg hp] at heq
    refine .completed new hquiet job.id (.failed failure.error) result ?_ ?_ ?_
    · rw [heq, hl]
    · rw [heq, hlplan, hplan]
    · rw [heq, hlastId]

/-- The end of an acknowledged control. -/
lemma Change.of_controlAcknowledged {first : Option Failure} {r : ρ} {request : List UInt8}
    (hsent : Sent cfg s job request) (hid : job.result.id = job.id) :
    Change cfg s e (s.controlAcknowledged env cfg job first r) := by
  obtain ⟨l, result, time, hl, hlplan, hlast, hresult, -, -, heq⟩ :
    ∃ (l : Ledger ρ) (result : CommandResult) (time : Time), _ ∧ _ ∧ _ ∧ _ ∧ _ ∧ _ ∧
      (s.controlAcknowledged env cfg job first r).toLedger = _ := controlAcknowledged_cases
  have hquiet : ∀ o ∈ [Obs.setEnded job.id (attemptNumber first) r time],
      o.isQuiet = true ∧ o.call? = none := by
    simp [Obs.isQuiet, Obs.call?]
  have hlastId : l.lastId = some job.id := by
    rw [Ledger.lastId, hlast, Option.map_some, hresult, hid]
  by_cases hk : job.command.kind.isSource = true
  · rw [if_pos hk] at heq
    refine .planned _ (fun o ho => (hquiet o ho).1) job.id .acknowledged result _ _ ?_
      (hsent.planned hk fun o ho => (hquiet o ho).2) ?_ ?_ ?_ ?_
    · rw [heq]
      exact congrArg _ hl
    · rw [heq]
      apply Option.some_ne_none
    · rw [heq]
      rfl
    · rw [heq]
      rfl
    · rw [heq]
      exact hlastId
  · rw [if_neg hk] at heq
    refine .completed _ (fun o ho => (hquiet o ho).1) job.id .acknowledged result ?_ ?_ ?_
    · rw [heq]
      exact hl
    · rw [heq]
      exact hlplan
    · rw [heq]
      exact hlastId

omit [Client ρ] in
/-- A failed source GET is logged; the plan of a verification goes on. -/
lemma stateExchangeFailed_cases {reason : Reason} {r : ρ} {error : LsxError} :
    ∃ l : Ledger ρ, l.log = .sourceEnded reason s.pollPending r (s.now env) :: s.log ∧
      l.verification = s.verification ∧ l.lastId = s.lastId ∧
      (s.stateExchangeFailed env cfg reason r error).toLedger =
        if reason = .verification then
          (l.recordOptionalFailure env cfg error.type.name).scheduleNextVerification env cfg
        else l := by
  obtain ⟨l, hl, heq⟩ : ∃ l : Ledger ρ, _ ∧
    (s.stateExchangeFailed env cfg reason r error).toLedger = _ := stateExchangeFailed_eq
  refine ⟨l, ?_, ?_, ?_, heq⟩ <;> rcases hl with ⟨-, rfl⟩ | ⟨-, rfl⟩ <;> rfl

/-- The end of a source GET that was not decoded. -/
lemma Change.of_stateExchangeFailed {reason : Reason} {r : ρ} {error : LsxError}
    (hw : s.worker = some (.sourceGet reason)) (hr : Client.asyncGetSource r = .error error) :
    Change cfg s (.reply r) (s.stateExchangeFailed env cfg reason r error) := by
  obtain ⟨l, hlog, hplan, hlast, heq⟩ : ∃ l : Ledger ρ, _ ∧ _ ∧ _ ∧
    (s.stateExchangeFailed env cfg reason r error).toLedger = _ := stateExchangeFailed_cases
  cases reason with
  | poll =>
    have heq' : (s.stateExchangeFailed env cfg .poll r error).toLedger = l := heq
    refine .quiet [.sourceEnded .poll s.pollPending r (s.now env)] ?_ (by simp [Obs.isQuiet]) ?_ ?_
    · rw [heq', hlog]
      rfl
    · rw [heq', hplan]
    · rw [heq', hlast]
  | verification =>
    refine .failed r error rfl hw hr (l.recordOptionalFailure env cfg error.type.name) _ rfl hlog
      hplan hlast ?_
    rw [heq, if_pos rfl]
    apply Ledger.rescheduled_scheduleNextVerification

/-- The end of a source GET that was decoded. -/
lemma Change.of_stateExchangeDone {reason : Reason} {r : ρ} {status : SourceStatus}
    (hw : s.worker = some (.sourceGet reason)) (hr : Client.asyncGetSource r = .ok status) :
    Change cfg s (.reply r) (s.stateExchangeDone env cfg reason r status) := by
  obtain ⟨l, time, hlog, hplan, hlast, hspeaker, heq⟩ : ∃ (l : Ledger ρ) (time : Time),
      l.log = .sourceEnded reason s.pollPending r time :: s.log ∧
      l.verification = s.verification ∧ l.lastId = s.lastId ∧
      (l.snapshot.speaker.powerOn = some status.powerOn ∧
        l.snapshot.speaker.source = some status.source) ∧
      (s.stateExchangeDone env cfg reason r status).toLedger = (l.verify env cfg reason).tick := by
    refine ⟨_, s.now env, ?_, ?_, ?_, ?_, stateExchangeDone_eq⟩
    · rfl
    · rfl
    · rfl
    · exact ⟨rfl, rfl⟩
  have hlog' : (s.stateExchangeDone env cfg reason r status).log =
      (l.verify env cfg reason).log := by rw [heq]; rfl
  have hplan' : (s.stateExchangeDone env cfg reason r status).verification =
      (l.verify env cfg reason).verification := by rw [heq]; rfl
  have hlast' : (s.stateExchangeDone env cfg reason r status).lastId =
      (l.verify env cfg reason).lastId := by rw [heq]; rfl
  rcases Ledger.verify_cases env cfg l reason with
    ⟨hv, hvplan, hvlast⟩ | ⟨hdue, ⟨id, hid, hmatch, hv, hvplan, hvlast⟩ |
      ⟨l₁, hl₁, hl₁plan, hl₁last, hnext⟩⟩
  · refine .quiet [.sourceEnded reason s.pollPending r time] ?_ (by simp [Obs.isQuiet]) ?_ ?_
    · rw [hlog', hv, hlog]
      rfl
    · rw [hplan', hvplan, hplan]
    · rw [hlast', hvlast, hlast]
  · refine .verified reason s.pollPending r time status id hw hr (hplan ▸ hdue) (hlast ▸ hid) ?_ ?_
      ?_ ?_
    · simp only [Ledger.matchesExpected, hplan] at hmatch
      split at hmatch
      · rename_i kind expected hkind hexpected
        refine ⟨kind, expected, hkind, hexpected, ?_⟩
        intro hk
        rw [if_pos hk] at hmatch
        obtain ⟨hp, hsource⟩ := of_decide_eq_true hmatch
        exact ⟨hp.symm.trans hspeaker.1, hsource.symm.trans hspeaker.2⟩
      · cases hmatch
    · rw [hlog', hv, hlog]
    · rw [hplan', hvplan]
    · rw [hlast', hvlast, hlast]
  · refine .mismatched l₁ (.sourceEnded reason s.pollPending r time) rfl (hplan ▸ hdue) ?_ ?_ ?_ ?_
    · rw [hl₁, hlog]
    · rw [hl₁plan, hplan]
    · rw [hl₁last, hlast]
    · obtain ⟨h₁, h₂, h₃⟩ := hnext
      refine ⟨?_, hlast'.trans h₂, ?_⟩
      · rw [hlog']
        exact h₁
      · rw [hplan']
        exact h₃

/-- Every step is one of these changes. -/
theorem Change.of_rule (hs : Scheduled env cfg s) (h : Rule env cfg s e t) : Change cfg s e t := by
  have hid : ∀ job, s.activeControl = some job → job.result.id = job.id := by
    intro job hjob
    obtain ⟨time, hresult⟩ := (hs.admitted job (mem_live_of_active hjob)).result
    rw [hresult]
  cases h with
  | started => exact .quiet [_] rfl (by simp [Obs.isQuiet]) rfl rfl
  | startedClosing => exact .quiet [_] rfl (by simp [Obs.isQuiet]) rfl rfl
  | coalesced => exact .quiet [_] rfl (by simp [Obs.isQuiet]) rfl rfl
  | accepted => exact .accepted _ rfl _ _ _ rfl rfl rfl
  | closeBegun =>
    obtain ⟨-, hledger, -⟩ := frame_beginClose (s := s)
    exact .closed (by rw [hledger]; rfl) (by rw [hledger]; rfl) (by rw [hledger]; rfl)
  | verificationStarted hw hc hq hdue =>
    refine .started _ ?_ rfl rfl rfl
    intro hnone
    simp [hnone] at hdue
  | pollStarted => exact .quiet [_] rfl (by simp [Obs.isQuiet]) rfl rfl
  | maintenanceStarted => exact .quiet [_] rfl (by simp [Obs.isQuiet]) rfl rfl
  | stateFailed reason r e hw hr => exact .of_stateExchangeFailed hw hr
  | stateDone reason r status hw hr => exact .of_stateExchangeDone hw hr
  | maintenanceFailed => exact .quiet [_] rfl (by simp [Obs.isQuiet]) rfl rfl
  | maintenanceDone => exact .quiet [_] rfl (by simp [Obs.isQuiet]) rfl rfl
  | controlSkipped => exact .quiet [_] rfl (by simp [Obs.isQuiet]) rfl rfl
  | controlExpired job hw =>
    have hjob := hid job (activeControl_of_worker hw)
    exact .completed [] (by simp) job.id _ _ rfl rfl (congrArg some hjob)
  | volumeGetStarted => exact .quiet [_] rfl (by simp [Obs.isQuiet]) rfl rfl
  | volumeGetFailed job r e hw =>
    have hjob := hid job (activeControl_of_worker hw)
    exact .completed [_] (by simp [Obs.isQuiet]) job.id _ _ rfl rfl (congrArg some hjob)
  | volumeGetDone => exact .quiet [_] rfl (by simp [Obs.isQuiet]) rfl rfl
  | attemptsTimedOut job s' hw hleft =>
    have hjob := hid job (activeControl_of_worker hw)
    have hlog : s'.log = s.log := by cases hleft <;> rfl
    have hplan : s'.verification = s.verification := by cases hleft <;> rfl
    exact .completed [] (by simp) job.id _ _ (congrArg _ hlog) hplan (congrArg some hjob)
  | attemptsLeft job failure s' hw hleft =>
    have hjob := hid job (activeControl_of_worker hw)
    obtain ⟨request, hsent⟩ := sent_of_attempt hs hw
    refine .of_controlFailed hsent hjob [] (by simp) ?_ ?_ hleft.noted.speaker
    · cases hleft <;> rfl
    · cases hleft <;> rfl
  | setStarted => exact .quiet [_] rfl (by simp [Obs.isQuiet]) rfl rfl
  | setRejected job first request r e hw hr he =>
    have hjob := hid job (activeControl_of_worker hw)
    exact .of_controlFailed (sent_of_setting hs hw) hjob [_]
      (by simp [Obs.isQuiet, Obs.call?]) rfl rfl rfl
  | firstFailed => exact .quiet [_] rfl (by simp [Obs.isQuiet]) rfl rfl
  | secondFailed job first request r e hw hr he =>
    have hjob := hid job (activeControl_of_worker hw)
    exact .of_controlFailed (sent_of_setting hs hw) hjob [_]
      (by simp [Obs.isQuiet, Obs.call?]) rfl rfl rfl
  | setAcknowledged job first request r hw hr =>
    have hjob := hid job (activeControl_of_worker hw)
    exact .of_controlAcknowledged (sent_of_setting hs hw) hjob
  | _ => exact .quiet [] rfl (by simp) rfl rfl

/-! ### The plan in force -/

omit [Client ρ] in
lemma lastPlan_rescheduled {l : Ledger ρ} (h : Ledger.Rescheduled l t.toLedger) :
    lastPlan t.log = lastPlan l.log ∧ lastRecorded t.log = lastRecorded l.log := by
  rcases h.log with hlog | ⟨id, -, hlog⟩ <;> rw [hlog]
  · exact ⟨rfl, rfl⟩
  · exact ⟨lastPlan_cons rfl, lastRecorded_cons rfl⟩

/-- The plan and the last command are read off the log. -/
structure Recorded (s : Runtime ρ) : Prop where
  last : s.lastId = lastRecorded s.log
  plan : s.verification.kind = none ∧ s.verification.expected = none ∨
    ∃ id kind expected, lastPlan s.log = some (id, kind, expected) ∧
      s.verification.kind = some kind ∧ s.verification.expected = some expected
  due : s.verification.due ≠ none → lastPlan s.log ≠ none

omit [Client ρ] in
/-- The log grows without a plan. -/
lemma Recorded.of_lastPlan (h : Recorded s) (hlast : t.lastId = lastRecorded t.log)
    (hlog : lastPlan t.log = lastPlan s.log)
    (hplan : t.verification.kind = s.verification.kind ∧
        t.verification.expected = s.verification.expected ∨
      t.verification.kind = none ∧ t.verification.expected = none)
    (hdue : t.verification.due ≠ none → lastPlan s.log ≠ none) : Recorded t := by
  refine ⟨hlast, ?_, hlog ▸ hdue⟩
  rcases hplan with ⟨hkind, hexpected⟩ | hnone
  · rw [hkind, hexpected, hlog]
    exact h.plan
  · exact .inl hnone

/-- A verification GET in flight belongs to a plan, which may have been cleared since. -/
structure Verifying (s : Runtime ρ) : Prop where
  planned : s.worker = some (.sourceGet .verification) → lastPlan s.log ≠ none
  cleared : s.worker = some (.sourceGet .verification) →
    s.verification.due ≠ none ∨ s.verification = {}

lemma Recorded.step (h : Recorded s) (hv : Verifying s) (hc : Change cfg s e t) : Recorded t := by
  cases hc with
  | quiet new hlog hnew hplan hlast =>
    have hrecorded : lastRecorded t.log = lastRecorded s.log :=
      hlog ▸ lastRecorded_append fun o ho => Obs.recordedId?_of_isQuiet (hnew o ho)
    refine h.of_lastPlan (by rw [hlast, hrecorded, h.last]) ?_ (.inl (by simp [hplan])) ?_
    · rw [hlog]
      exact lastPlan_append fun o ho => Obs.plan?_of_isQuiet (hnew o ho)
    · rw [hplan]
      exact h.due
  | accepted o ho id command deadline hlog hplan hlast =>
    refine h.of_lastPlan (by rw [hlast, hlog]; rfl) ?_ (.inr (by simp [hplan])) (by simp [hplan])
    rw [hlog]
    exact (lastPlan_cons rfl).trans (lastPlan_cons (Obs.plan?_of_isQuiet ho))
  | closed hlog hplan hlast =>
    exact h.of_lastPlan (by rw [hlast, hlog, h.last]) (by rw [hlog]) (.inr (by simp [hplan]))
      (by simp [hplan])
  | completed new hnew id outcome result hlog hplan hlast =>
    refine h.of_lastPlan (by rw [hlast, hlog]; rfl) ?_ (.inl (by simp [hplan])) ?_
    · rw [hlog, ← List.cons_append]
      refine lastPlan_append ?_
      intro o ho
      rcases List.mem_cons.mp ho with rfl | ho
      · rfl
      · exact Obs.plan?_of_isQuiet (hnew o ho)
    · rw [hplan]
      exact h.due
  | planned new hnew id outcome result kind expected hlog hplanned hdue hkind hexpected hlast =>
    have hplan : lastPlan t.log = some (id, kind, expected) := by rw [hlog]; rfl
    refine ⟨by rw [hlast, hlog]; rfl, .inr ⟨id, kind, expected, hplan, hkind, hexpected⟩, ?_⟩
    rw [hplan]
    exact fun _ => Option.some_ne_none _
  | started reads hdue hlog hplan hlast =>
    exact h.of_lastPlan (by rw [hlast, hlog, h.last]; rfl) (by rw [hlog]; rfl)
      (.inl (by simp [hplan])) (by rw [hplan]; exact h.due)
  | verified reason polled r time status id hw hr hdue hid hmatch hlog hplan hlast =>
    exact h.of_lastPlan (by rw [hlast, hlog, h.last]; rfl) (by rw [hlog]; rfl)
      (.inr (by simp [hplan])) (by simp [hplan])
  | mismatched l o ho hdue hlog hplan hlast hnext =>
    obtain ⟨hp, hr⟩ := lastPlan_rescheduled hnext
    have hpl : lastPlan l.log = lastPlan s.log := by
      rw [hlog]
      exact (lastPlan_cons rfl).trans (lastPlan_cons (Obs.plan?_of_isQuiet ho))
    have hrl : lastRecorded l.log = lastRecorded s.log := by
      rw [hlog]
      exact (lastRecorded_cons rfl).trans (lastRecorded_cons (Obs.recordedId?_of_isQuiet ho))
    refine h.of_lastPlan (by rw [hnext.lastId, hlast, hr, hrl, h.last]) (hp.trans hpl) ?_ ?_
    · rw [← hplan]
      exact hnext.plan.imp And.right And.right
    · exact fun _ => h.due hdue
  | failed r error he hw hr l o ho hlog hplan hlast hnext =>
    obtain ⟨hp, hr⟩ := lastPlan_rescheduled hnext
    have hpl : lastPlan l.log = lastPlan s.log := by
      rw [hlog]
      exact lastPlan_cons (Obs.plan?_of_isQuiet ho)
    have hrl : lastRecorded l.log = lastRecorded s.log := by
      rw [hlog]
      exact lastRecorded_cons (Obs.recordedId?_of_isQuiet ho)
    refine h.of_lastPlan (by rw [hnext.lastId, hlast, hr, hrl, h.last]) (hp.trans hpl) ?_ ?_
    · rw [← hplan]
      exact hnext.plan.imp And.right And.right
    · exact fun _ => hv.planned hw

/-- While a source GET is in flight, only producers have added to the log since it was started. -/
structure InFlight (s : Runtime ρ) (reason : Reason) : Prop where
  started : ∃ new reads remaining older,
    s.log = new ++ .started reads (.sourceGet reason) remaining :: older ∧
    ∀ o ∈ new, o.isProducer = true

omit [Client ρ] in
lemma InFlight.append {reason : Reason} (h : InFlight s reason) (notes : List (Obs ρ))
    (hnotes : ∀ o ∈ notes, o.isProducer = true) (hlog : t.log = notes ++ s.log) :
    InFlight t reason := by
  obtain ⟨new, reads, remaining, older, hs, hnew⟩ := h
  refine ⟨notes ++ new, reads, remaining, older, by rw [hlog, hs, List.append_assoc], ?_⟩
  intro o ho
  rcases List.mem_append.mp ho with ho | ho
  · exact hnotes o ho
  · exact hnew o ho

/-- A source GET in flight is the last exchange that was started. -/
lemma inFlight_of_reachable (h : Transition.Reachable (step env cfg) {} s) :
    ∀ reason, s.worker = some (.sourceGet reason) → InFlight s reason := by
  refine h.invariant (I := fun s => ∀ reason, s.worker = some (.sourceGet reason) →
    InFlight s reason) (by simp) ?_
  intro s t e _ ih _ hst reason hw
  cases Rule.of_step hst with
  | coalesced => exact (ih reason hw).append [_] (by simp [Obs.isProducer]) rfl
  | accepted => exact (ih reason hw).append [_, _] (by simp [Obs.isProducer]) rfl
  | closeBegun =>
    obtain ⟨hworker, hledger, -⟩ := frame_beginClose (s := s)
    exact (ih reason (hworker ▸ hw)).append [] (by simp) (by rw [hledger]; rfl)
  | verificationStarted =>
    cases hw
    exact ⟨[], _, _, _, rfl, by simp⟩
  | pollStarted =>
    cases hw
    exact ⟨[], _, _, _, rfl, by simp⟩
  | joined => cases hw
  | setPublisher | alreadyStarted | submitClosed | refused | pollClosed | polled
  | callerCancelled | closeShared | shutdownTimedOut | joinFailed | clientClosed =>
    exact (ih reason hw).append [] (by simp) rfl
  | _ => cases hw

lemma Verifying.step (h : Verifying s) (hr : Recorded s) (hrule : Rule env cfg s e t) :
    Verifying t := by
  cases hrule with
  | coalesced => exact ⟨fun hw => h.planned hw, h.cleared⟩
  | accepted => exact ⟨fun hw => h.planned hw, fun _ => .inr rfl⟩
  | closeBegun =>
    obtain ⟨hworker, hledger, -⟩ := frame_beginClose (s := s)
    refine ⟨fun hw => ?_, fun _ => .inr (by rw [hledger]; rfl)⟩
    rw [hledger]
    exact h.planned (hworker ▸ hw)
  | verificationStarted hw hc hq hdue =>
    have hne : s.verification.due ≠ none := by
      intro hnone
      simp [hnone] at hdue
    exact ⟨fun _ => hr.due hne, fun _ => .inl hne⟩
  | setPublisher | alreadyStarted | submitClosed | refused | pollClosed | polled
  | callerCancelled | closeShared | shutdownTimedOut | joinFailed | clientClosed =>
    exact ⟨h.planned, h.cleared⟩
  | _ => constructor <;> intro hw <;> cases hw

/-- The plan and the last command in every reachable state. -/
theorem Recorded.of_reachable (h : Transition.Reachable (Runtime.step env cfg) {} s) :
    Recorded s ∧ Verifying s := by
  refine h.invariant (I := fun s => Recorded s ∧ Verifying s) ?_ ?_
  · refine ⟨⟨rfl, .inl ⟨rfl, rfl⟩, by simp⟩, by simp, by simp⟩
  · rintro s t e hr ⟨hrec, hver⟩ - hst
    have hrule := Rule.of_step hst
    exact ⟨hrec.step hver (.of_rule (.of_reachable hr) hrule), hver.step hrec hrule⟩

/-! ### What holds of the entries about verification -/

/-- The source GET that has just ended was started after the last plan and read what this plan
expects. -/
inductive Confirmed : List (Obs ρ) → Prop where
  | intro (reason : Reason) (polled : Bool) (r : ρ) (time : Time) (status : SourceStatus)
      (new : List (Obs ρ)) (reads : ℕ) (remaining : Option Time) (older : List (Obs ρ)) (id : ℕ)
      (kind : ControlKind) (expected : SpeakerState) (hr : Client.asyncGetSource r = .ok status)
      (hnew : ∀ o ∈ new, o.isProducer = true) (hplan : lastPlan older = some (id, kind, expected))
      (hpower : expected.powerOn = some status.powerOn)
      (hsource : expected.source = some status.source) :
      Confirmed (.sourceEnded reason polled r time ::
        (new ++ .started reads (.sourceGet reason) remaining :: older))

/-- A `verified` field is written for the entry recorded last, and after a plan was started. -/
structure WriteOk (id : ℕ) (value : Bool) (earlier : List (Obs ρ)) : Prop where
  recorded : lastRecorded earlier = some id
  planned : lastPlan earlier ≠ none
  confirmed : value = true → Confirmed earlier

def NoteOk (cfg : Config) : Obs ρ → List (Obs ρ) → Prop
  | .planStarted id kind expected, earlier => Planned cfg id kind expected earlier
  | .verified id value, earlier => WriteOk id value earlier
  | _, _ => True

lemma noteOk_of_isQuiet {o : Obs ρ} (h : o.isQuiet = true) (earlier : List (Obs ρ)) :
    NoteOk cfg o earlier := by
  cases o with
  | planStarted | verified => cases h
  | _ => exact trivial

/-- The entry by which the verification goes on. -/
lemma each_rescheduled {l : Ledger ρ} (h : Ledger.Rescheduled l t.toLedger)
    (hlast : l.lastId = lastRecorded l.log) (hplan : lastPlan l.log ≠ none)
    (hl : History.Each (NoteOk cfg) l.log) : History.Each (NoteOk cfg) t.log := by
  rcases h.log with hlog | ⟨id, hid, hlog⟩ <;> rw [hlog]
  · exact hl
  · exact ⟨⟨hlast ▸ hid, hplan, by simp⟩, hl⟩

lemma each_note_step (hall : History.Each (NoteOk cfg) s.log) (hrec : Recorded s)
    (hver : Verifying s) (hget : ∀ reason, s.worker = some (.sourceGet reason) → InFlight s reason)
    (hc : Change cfg s e t) : History.Each (NoteOk cfg) t.log := by
  have hgrown : ∀ {new : List (Obs ρ)}, (∀ o ∈ new, o.isQuiet = true) →
      History.Each (NoteOk cfg) (new ++ s.log) :=
    fun hnew => hall.append fun o ho => noteOk_of_isQuiet (hnew o ho)
  cases hc with
  | quiet new hlog hnew =>
    rw [hlog]
    exact hgrown hnew
  | accepted o ho id command deadline hlog =>
    rw [hlog]
    exact ⟨trivial, noteOk_of_isQuiet ho _, hall⟩
  | closed hlog =>
    rw [hlog]
    exact hall
  | completed new hnew id outcome result hlog =>
    rw [hlog]
    exact ⟨trivial, hgrown hnew⟩
  | planned new hnew id outcome result kind expected hlog hplanned =>
    rw [hlog]
    exact ⟨hplanned, trivial, hgrown hnew⟩
  | started reads hdue hlog =>
    rw [hlog]
    exact ⟨trivial, hall⟩
  | verified reason polled r time status id hw hr hdue hid hmatch hlog =>
    obtain ⟨new, reads, remaining, older, hs, hnew⟩ := hget reason hw
    obtain ⟨kind, expected, hkind, hexpected, heq⟩ := hmatch
    have hproducers : lastPlan s.log = lastPlan older := by
      rw [hs]
      exact (lastPlan_append fun o ho => Obs.plan?_of_isProducer (hnew o ho)).trans
        (lastPlan_cons rfl)
    rcases hrec.plan with ⟨hnone, -⟩ | ⟨id', kind', expected', hplan, hkind', hexpected'⟩
    · rw [hnone] at hkind
      cases hkind
    rw [hkind] at hkind'
    cases hkind'
    rw [hexpected] at hexpected'
    cases hexpected'
    have hsource : kind.isSource = true := by
      obtain ⟨newer, older', hsplit, -⟩ := lastPlan_eq_some_iff.mp hplan
      have hplanned : Planned cfg id' kind expected older' := History.each_iff.mp hall _ _ _ hsplit
      exact hplanned.isSource
    rw [hlog]
    refine ⟨⟨?_, ?_, ?_⟩, trivial, hall⟩
    · rw [lastRecorded_cons rfl, ← hrec.last, hid]
    · rw [lastPlan_cons rfl]
      exact hrec.due hdue
    · intro _
      rw [hs]
      exact .intro reason polled r time status new reads remaining older id' kind expected hr hnew
        (hproducers ▸ hplan) (heq hsource).1 (heq hsource).2
  | mismatched l o ho hdue hlog hplan hlast hnext =>
    refine each_rescheduled hnext ?_ ?_ ?_ <;> rw [hlog]
    · rw [lastRecorded_cons rfl, lastRecorded_cons (Obs.recordedId?_of_isQuiet ho), hlast,
        hrec.last]
    · rw [lastPlan_cons rfl, lastPlan_cons (Obs.plan?_of_isQuiet ho)]
      exact hrec.due hdue
    · exact ⟨trivial, noteOk_of_isQuiet ho _, hall⟩
  | failed r error he hw hr l o ho hlog hplan hlast hnext =>
    refine each_rescheduled hnext ?_ ?_ ?_ <;> rw [hlog]
    · rw [lastRecorded_cons (Obs.recordedId?_of_isQuiet ho), hlast, hrec.last]
    · rw [lastPlan_cons (Obs.plan?_of_isQuiet ho)]
      exact hver.planned hw
    · exact ⟨noteOk_of_isQuiet ho _, hall⟩

/-- What holds of the entries about verification, in every reachable state. -/
theorem each_note_of_reachable (h : Transition.Reachable (step env cfg) {} s) :
    History.Each (NoteOk cfg) s.log := by
  refine h.invariant (I := fun s => History.Each (NoteOk cfg) s.log) ?_ ?_
  · exact trivial
  · intro s t e hr hall _ hst
    obtain ⟨hrec, hver⟩ := Recorded.of_reachable hr
    exact each_note_step hall hrec hver (inFlight_of_reachable hr)
      (.of_rule (.of_reachable hr) (.of_step hst))

end Runtime

end KefLsx
