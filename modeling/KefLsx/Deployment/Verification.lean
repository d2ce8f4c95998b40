import KefLsx.Deployment.Coherence
import KefLsx.Runtime.Plan

/-!
# Verification and the speaker

After a source command the runtime reads the source again, and reports whether it found what it
expects. What does its verdict say of the speaker? A confirmation is true, whoever operates the
speaker: its SET would change nothing that it is about. And when nobody else does, and no reply is
lost, a mismatch is reported for a control only if this was not acknowledged, or was a `turn_off`
of an unknown source; or else its plan had been dropped.
-/

namespace KefLsx

open Log FakeLsx

/-- A verdict on the last command. -/
def Obs.isVerdict {ρ : Type} : Obs ρ → Bool
  | mismatch | verified .. => true
  | _ => false

namespace Ledger

variable {ρ : Type}

/-- What a source GET makes verification log. -/
lemma verify_log (env : Env) (cfg : Config) (l : Ledger ρ) (reason : Reason) :
    (l.verify env cfg reason).log = l.log ∨
    (l.matchesExpected = true ∧ ∃ id, (l.verify env cfg reason).log = .verified id true :: l.log) ∨
    l.matchesExpected = false ∧ ((l.verify env cfg reason).log = .mismatch :: l.log ∨
      ∃ id, (l.verify env cfg reason).log = .verified id false :: .mismatch :: l.log) := by
  have htick : (if l.verification.due.isSome then l.tick else l).log = l.log ∧
      (if l.verification.due.isSome then l.tick else l).matchesExpected = l.matchesExpected ∧
      (if l.verification.due.isSome then l.tick else l).awaitsVerification =
        l.awaitsVerification := by
    split <;> exact ⟨rfl, rfl, rfl⟩
  obtain ⟨hlog, hmatches, hawaits⟩ := htick
  unfold verify
  dsimp only
  generalize (if l.verification.due.isSome then l.tick else l) = l' at hlog hmatches hawaits ⊢
  split
  · rename_i hnow
    simp only [verifiesNow, Bool.and_eq_true] at hnow
    rw [← hlog, ← hmatches]
    unfold completeVerification
    split
    · rename_i hmatch
      obtain ⟨id, -, hverified, -⟩ := setVerified_of_awaits true (hawaits.trans hnow.2)
      exact .inr (.inl ⟨hmatch, id, hverified⟩)
    · rename_i hmatch
      refine .inr (.inr ⟨Bool.eq_false_iff.mpr hmatch, ?_⟩)
      rcases rescheduled_scheduleNextVerification.log with hnext | ⟨id, -, hnext⟩
      · exact .inl hnext
      · exact .inr ⟨id, hnext⟩
  · exact .inl hlog

end Ledger

namespace Runtime

section

variable {ρ : Type} [Client ρ] {env : Env} {cfg : Config} {s t : Runtime ρ} {e : Event ρ}

/-! ### What verification logs -/

/-- The verdicts in the log, newest first. -/
def verdicts (log : List (Obs ρ)) : List (Obs ρ) := log.filter Obs.isVerdict

omit [Client ρ] in
lemma verdicts_controlFailed {job : Control} {failure : Failure} :
    verdicts (s.controlFailed env cfg job failure).log = verdicts s.log := by
  obtain ⟨l, result, hlog, -, -, -, -, heq⟩ :
    ∃ (l : Ledger ρ) (result : CommandResult), _ ∧ _ ∧ _ ∧ _ ∧ _ ∧
      (s.controlFailed env cfg job failure).toLedger = _ := controlFailed_cases
  rw [heq]
  split
  · simp [Ledger.startVerification, verdicts, hlog, Obs.isVerdict]
  · simp [verdicts, hlog, Obs.isVerdict]

omit [Client ρ] in
lemma verdicts_controlAcknowledged {job : Control} {first : Option Failure} {r : ρ} :
    verdicts (s.controlAcknowledged env cfg job first r).log = verdicts s.log := by
  obtain ⟨l, result, time, hlog, -, -, -, -, -, heq⟩ :
    ∃ (l : Ledger ρ) (result : CommandResult) (time : Time), _ ∧ _ ∧ _ ∧ _ ∧ _ ∧ _ ∧
      (s.controlAcknowledged env cfg job first r).toLedger = _ := controlAcknowledged_cases
  rw [heq]
  split
  · simp [Ledger.startVerification, Ledger.publish, verdicts, hlog, Obs.isVerdict]
  · simp [Ledger.publish, verdicts, hlog, Obs.isVerdict]

/-- A verdict is made by the end of a source GET only. -/
lemma verdicts_of_rule (h : Rule env cfg s e t) : verdicts t.log = verdicts s.log ∨
    ∃ reason r, e = .reply r ∧ s.worker = some (.sourceGet reason) ∧
      ((∃ status, Client.asyncGetSource r = .ok status ∧
          t = s.stateExchangeDone env cfg reason r status) ∨
        ∃ error, Client.asyncGetSource r = .error error ∧
          t = s.stateExchangeFailed env cfg reason r error) := by
  cases h with
  | stateFailed reason r error hw hr => exact .inr ⟨reason, r, rfl, hw, .inr ⟨error, hr, rfl⟩⟩
  | stateDone reason r status hw hr => exact .inr ⟨reason, r, rfl, hw, .inl ⟨status, hr, rfl⟩⟩
  | closeBegun =>
    refine .inl ?_
    rw [frame_beginClose.2.1]
    rfl
  | attemptsTimedOut job s' hw hs => cases hs <;> exact .inl rfl
  | attemptsLeft job failure s' hw hs =>
    refine .inl (verdicts_controlFailed.trans ?_)
    cases hs <;> rfl
  | setRejected | secondFailed => exact .inl (verdicts_controlFailed.trans rfl)
  | setAcknowledged => exact .inl verdicts_controlAcknowledged
  | _ => exact .inl rfl

/-- The plan in force, judged by a source that was read. -/
def Meets (plan : Verification) (status : SourceStatus) : Prop :=
  ∃ kind expected, plan.kind = some kind ∧ plan.expected = some expected ∧
    (kind.isSource = true →
      expected.powerOn = some status.powerOn ∧ expected.source = some status.source)

omit [Client ρ] in
/-- A source GET that succeeds: the confirmation and the mismatch that it may log. -/
lemma verdict_of_stateDone {reason : Reason} {r : ρ} {status : SourceStatus} {new : List (Obs ρ)}
    (hlog : (s.stateExchangeDone env cfg reason r status).log = new ++ s.log) :
    (∀ id, .verified id true ∈ new → Meets s.verification status) ∧
    ∀ kind expected, .mismatch ∈ new → s.verification.kind = some kind →
      s.verification.expected = some expected → kind.isSource = true →
      ¬ (expected.powerOn = some status.powerOn ∧ expected.source = some status.source) := by
  obtain ⟨l, hl, hplan, hpower, hsource, heq⟩ : ∃ l : Ledger ρ,
      l.log = .sourceEnded reason s.pollPending r (s.now env) :: s.log ∧
      l.verification = s.verification ∧ l.snapshot.speaker.powerOn = some status.powerOn ∧
      l.snapshot.speaker.source = some status.source ∧
      (s.stateExchangeDone env cfg reason r status).toLedger = (l.verify env cfg reason).tick := by
    refine ⟨_, ?_, ?_, ?_, ?_, stateExchangeDone_eq⟩ <;> rfl
  have hverify : (l.verify env cfg reason).log = new ++ s.log := by
    rw [← hlog, heq]
    rfl
  have hnew (front : List (Obs ρ)) (h : (l.verify env cfg reason).log = front ++ l.log) :
      new = front ++ [.sourceEnded reason s.pollPending r (s.now env)] := by
    rw [hl] at h
    have hsplit : new ++ s.log =
        (front ++ [.sourceEnded reason s.pollPending r (s.now env)]) ++ s.log := by
      rw [← hverify, h, List.append_assoc]
      rfl
    exact List.append_cancel_right hsplit
  rcases Ledger.verify_log env cfg l reason with
    hv | ⟨hmatch, id, hv⟩ | ⟨hmatch, hv | ⟨id, hv⟩⟩
  · obtain rfl := hnew [] hv
    simp
  · obtain rfl := hnew [.verified id true] hv
    refine ⟨fun _ _ => ?_, by simp⟩
    simp only [Ledger.matchesExpected, hplan] at hmatch
    split at hmatch
    · rename_i kind expected hkind hexpected
      refine ⟨kind, expected, hkind, hexpected, fun hk => ?_⟩
      rw [if_pos hk, decide_eq_true_eq, hpower, hsource] at hmatch
      exact ⟨hmatch.1.symm, hmatch.2.symm⟩
    · cases hmatch
  all_goals
    have hdiffers : ∀ kind expected, s.verification.kind = some kind →
        s.verification.expected = some expected → kind.isSource = true →
        ¬ (expected.powerOn = some status.powerOn ∧ expected.source = some status.source) := by
      rintro kind expected hkind hexpected hk ⟨hp, hsrc⟩
      simp [Ledger.matchesExpected, hplan, hkind, hexpected, hk, hpower, hsource, hp, hsrc]
        at hmatch
  · obtain rfl := hnew [.mismatch] hv
    refine ⟨by simp, fun kind expected _ => hdiffers kind expected⟩
  · obtain rfl := hnew [.verified id false, .mismatch] hv
    refine ⟨by simp, fun kind expected _ => hdiffers kind expected⟩

omit [Client ρ] in
lemma cached_stateDone (env : Env) (cfg : Config) (s : Runtime ρ) (reason : Reason) (r : ρ)
    (status : SourceStatus) :
    (s.stateExchangeDone env cfg reason r status).snapshot.speaker.powerOn =
        some status.powerOn ∧
      (s.stateExchangeDone env cfg reason r status).snapshot.speaker.source =
        some status.source := by
  rw [noted_stateExchangeDone.speaker]
  exact ⟨rfl, rfl⟩

omit [Client ρ] in
/-- A source GET that fails confirms nothing, and reports no mismatch. -/
lemma verdict_of_stateFailed {reason : Reason} {r : ρ} {error : LsxError} {new : List (Obs ρ)}
    (hlog : (s.stateExchangeFailed env cfg reason r error).log = new ++ s.log) :
    (∀ id, .verified id true ∉ new) ∧ .mismatch ∉ new := by
  obtain ⟨l, hl, -, -, heq⟩ : ∃ l : Ledger ρ, _ ∧ _ ∧ _ ∧
    (s.stateExchangeFailed env cfg reason r error).toLedger = _ := stateExchangeFailed_cases
  have hnew (front : List (Obs ρ))
      (h : (s.stateExchangeFailed env cfg reason r error).log = front ++ l.log) :
      new = front ++ [.sourceEnded reason s.pollPending r (s.now env)] := by
    rw [hl, hlog] at h
    have hsplit : new ++ s.log =
        (front ++ [.sourceEnded reason s.pollPending r (s.now env)]) ++ s.log := by
      rw [h, List.append_assoc]
      rfl
    exact List.append_cancel_right hsplit
  split at heq
  · rcases Ledger.rescheduled_scheduleNextVerification.log with hnext | ⟨id, -, hnext⟩
    · obtain rfl := hnew [] ((congrArg Ledger.log heq).trans hnext)
      simp
    · obtain rfl := hnew [.verified id false] ((congrArg Ledger.log heq).trans hnext)
      simp
  · obtain rfl := hnew [] (congrArg Ledger.log heq)
    simp

/-- Only a source GET that succeeds confirms, or reports a mismatch. -/
lemma stateDone_of_verdict (h : Rule env cfg s e t) {new : List (Obs ρ)} {o : Obs ρ}
    (hlog : t.log = new ++ s.log) (hmem : o ∈ new)
    (ho : (∃ id, o = .verified id true) ∨ o = .mismatch) :
    ∃ reason r status, e = .reply r ∧ s.worker = some (.sourceGet reason) ∧
      Client.asyncGetSource r = .ok status ∧
      t = s.stateExchangeDone env cfg reason r status := by
  rcases verdicts_of_rule h with
    hsame | ⟨reason, r, he, hw, ⟨status, hr, ht⟩ | ⟨error, hr, rfl⟩⟩
  · rw [hlog, verdicts, List.filter_append] at hsame
    have hnone : new.filter Obs.isVerdict = [] := List.append_left_eq_self.mp hsame
    have hverdict : o.isVerdict = true := by
      rcases ho with ⟨id, rfl⟩ | rfl <;> rfl
    exact absurd hverdict (List.filter_eq_nil_iff.mp hnone o hmem)
  · exact ⟨reason, r, status, he, hw, hr, ht⟩
  · obtain ⟨hverified, hmismatch⟩ := verdict_of_stateFailed hlog
    rcases ho with ⟨id, rfl⟩ | rfl
    · exact absurd hmem (hverified id)
    · exact absurd hmem hmismatch

/-- The plan in force is the last one of the log. -/
lemma plan_in_force (h : Transition.Reachable (step env cfg) {} s) {kind : ControlKind}
    (hkind : s.verification.kind = some kind) : ∃ id expected,
      lastPlan s.log = some (id, kind, expected) ∧ s.verification.expected = some expected := by
  rcases (Recorded.of_reachable h).1.plan with ⟨hnone, -⟩ | ⟨id, kind', expected, hplan, hk, he⟩
  · rw [hnone] at hkind
    cases hkind
  · rw [hk] at hkind
    cases hkind
    exact ⟨id, expected, hplan, he⟩

/-- The last plan of the log, and what it was started for. -/
lemma planned_of_lastPlan (h : Transition.Reachable (step env cfg) {} s) {id : ℕ}
    {kind : ControlKind} {expected : SpeakerState}
    (hplan : lastPlan s.log = some (id, kind, expected)) : ∃ newer older,
      s.log = newer ++ .planStarted id kind expected :: older ∧ (∀ o ∈ newer, o.plan? = none) ∧
        Planned cfg id kind expected older := by
  obtain ⟨newer, older, hlog, hnewer⟩ := lastPlan_eq_some_iff.mp hplan
  have hnote : NoteOk cfg (.planStarted id kind expected) older :=
    History.each_iff.mp (each_note_of_reachable h) _ _ _ hlog
  exact ⟨newer, older, hlog, hnewer, hnote⟩

end

/-- A plan expects the state that its SET leaves behind, in what its acknowledgement tells. -/
lemma Planned.leaves {cfg : Config} {id : ℕ} {kind : ControlKind} {expected : SpeakerState}
    {earlier : List (Obs Transcript)} (h : Planned cfg id kind expected earlier) :
    ∃ attempt request, .set id kind attempt request ∈ calls earlier ∧
      ∀ (speaker : FakeLsx.SpeakerState) (f : Facet),
        (Call.set id kind attempt request).tells f = true →
        f.cached expected = some (f.actual (speaker.receive request).2) := by
  obtain ⟨cached, command, request, rfl, hvalue, hrequest, rfl, hne, hsets⟩ := h.written
  obtain ⟨call, hcall⟩ := List.exists_mem_of_ne_nil _ hne
  obtain ⟨attempt, rfl⟩ := hsets call hcall
  refine ⟨attempt, request, List.mem_of_mem_filter hcall, fun speaker f htells => ?_⟩
  rw [Config.request_eq_encode] at hrequest
  obtain ⟨-, hholds, -⟩ := EncoderCall.receive_encode (s := speaker) hrequest
  rw [Facet.cached_expectedState hholds hvalue id attempt request f, if_pos htells]

end Runtime

/-! ### A confirmation is true -/

namespace Deployment

variable {env : Env} {cfg : Config} {speaker : FakeLsx.SpeakerState} {d d' : Deployment}
  {e : Event} {new : List (Obs Transcript)}

/-- A step of the deployment whose runtime logs a verdict. -/
lemma finish_of_verdict (h : Moves env cfg d e d')
    (hlog : d'.runtime.log = new ++ d.runtime.log) {o : Obs Transcript} (hmem : o ∈ new)
    (ho : (∃ id, o = .verified id true) ∨ o = .mismatch) :
    ∃ reason t status runtime, e = .finish t ∧ d.runtime.worker = some (.sourceGet reason) ∧
      Client.asyncGetSource t = .ok status ∧ d.Permits t ∧
      Runtime.step env cfg d.runtime (.reply t) = some runtime ∧
      runtime = d.runtime.stateExchangeDone env cfg reason t status ∧
      d' = d.finish (.sourceGet reason) t runtime := by
  have hquiet (hsame : d'.runtime = d.runtime) : False := by
    rw [hsame] at hlog
    rw [List.append_left_eq_self.mp hlog.symm] at hmem
    cases hmem
  cases h with
  | runtime e' runtime hst hne =>
    obtain ⟨reason, r, status, he, -⟩ := Runtime.stateDone_of_verdict (.of_step hst) hlog hmem ho
    exact absurd he (hne r)
  | cancelled runtime hst =>
    obtain ⟨reason, r, status, he, -⟩ := Runtime.stateDone_of_verdict (.of_step hst) hlog hmem ho
    cases he
  | finished call t runtime hcall hpermits hst =>
    obtain ⟨reason, r, status, he, hw, hr, ht⟩ :=
      Runtime.stateDone_of_verdict (.of_step hst) hlog hmem ho
    cases he
    cases Runtime.call_of_flight hw hcall
    exact ⟨reason, t, status, runtime, rfl, hw, hr, hpermits, hst, ht, rfl⟩
  | executed | executedLate | touched => exact (hquiet rfl).elim

/-- What a source GET tells is what the speaker was when it answered. -/
lemma reply_of_status (h : Transition.Reachable (step env cfg) (initially speaker) d)
    {reason : Reason} {t : Transcript} {status : SourceStatus}
    (hw : d.runtime.worker = some (.sourceGet reason)) (hr : Client.asyncGetSource t = .ok status)
    (hpermits : d.Permits t) : ∃ reply, d.reply = some reply ∧
      status.powerOn = reply.speaker.power ∧ status.source = reply.speaker.source := by
  cases hreply : d.reply with
  | none =>
    rw [Permits, hreply] at hpermits
    have hsilent := Call.not_succeeds_of_silent hpermits (.sourceGet reason)
    simp [Call.succeeds, hr, Except.isOk, Except.toBool] at hsilent
  | some reply =>
    have hcarries : t.Carries reply.bytes := by
      rw [Permits, hreply] at hpermits
      exact hpermits
    obtain ⟨call, before, hcall, hreceive, -⟩ := answered_of_reachable h reply hreply
    cases Runtime.call_of_flight hw hcall
    have hget : before.receive (encodeGet Wire.sourceRegister) = (reply.bytes, reply.speaker) :=
      hreceive
    have hsame : before = reply.speaker :=
      congrArg Prod.snd ((receive_raw ⟨Wire.sourceRegister, none⟩).symm.trans hget)
    rw [show reply.bytes = (before.receive (encodeGet Wire.sourceRegister)).1 from
      (congrArg Prod.fst hget).symm] at hcarries
    obtain ⟨-, rfl⟩ := (asyncGetSource_receive before hcarries status).mp hr
    exact ⟨reply, rfl, by rw [hsame], by rw [hsame]⟩

/-- In every run, with any other users of the speaker, any lost replies and any requests that are
executed late: when the runtime confirms the last command, the speaker has answered a source GET in
a state in which the SET of the last plan would change nothing that it is about. -/
theorem verified_of_holding (h : Transition.Reachable (step env cfg) (initially speaker) d)
    (hst : step env cfg d e = some d') (hlog : d'.runtime.log = new ++ d.runtime.log) {id : ℕ}
    (hmem : .verified id true ∈ new) : ∃ reply plan kind expected attempt request,
      d.reply = some reply ∧ lastPlan d.runtime.log = some (plan, kind, expected) ∧
      .set plan kind attempt request ∈ calls d.runtime.log ∧
      ∀ f, (Call.set plan kind attempt request).tells f = true →
        f.actual (reply.speaker.receive request).2 = f.actual reply.speaker ∧
        f.cached d'.runtime.snapshot.speaker = some (f.actual reply.speaker) := by
  have hreach := runtime_reachable h
  obtain ⟨reason, t, status, runtime, rfl, hw, hr, hpermits, hst', rfl, rfl⟩ :=
    finish_of_verdict (.of_step hst) hlog hmem (.inl ⟨id, rfl⟩)
  obtain ⟨kind, expected, hkind, hexpected, hmeets⟩ :=
    (Runtime.verdict_of_stateDone hlog).1 id hmem
  obtain ⟨plan, expected', hplan, hexpected'⟩ := Runtime.plan_in_force hreach hkind
  obtain rfl : expected = expected' := Option.some.inj (hexpected.symm.trans hexpected')
  obtain ⟨newer, older, hsplit, -, hplanned⟩ := Runtime.planned_of_lastPlan hreach hplan
  obtain ⟨attempt, request, hcall, hleaves⟩ := hplanned.leaves
  obtain ⟨reply, hreply, hpower, hsource⟩ := reply_of_status h hw hr hpermits
  obtain ⟨hpower', hsource'⟩ := hmeets hplanned.isSource
  refine ⟨reply, plan, kind, expected, attempt, request, hreply, hplan, ?_, ?_⟩
  · rw [hsplit, calls, List.filterMap_append]
    exact List.mem_append_right _ hcall
  · obtain ⟨hp, hsrc⟩ := Runtime.cached_stateDone env cfg d.runtime reason t status
    intro f htells
    have hafter := hleaves reply.speaker f htells
    cases f with
    | power =>
      have hpowers := hafter.symm.trans (hpower'.trans (congrArg some hpower))
      exact ⟨Option.some.inj hpowers, hp.trans (congrArg some hpower)⟩
    | source =>
      have hsources := hafter.symm.trans (hsource'.trans (congrArg some hsource))
      exact ⟨Option.some.inj hsources, hsrc.trans (congrArg some hsource)⟩
    | volume =>
      have hvolume : kind.isVolume = true := htells
      have hisSource := hplanned.isSource
      cases kind <;> first | cases hisSource; done | cases hvolume

/-- A `turn_on` that the speaker executes, and its confirmation. -/
theorem verified_of_holding_turnOn : ∃ d d' : Deployment,
    Transition.Reachable (step .slow .ofOptions) (initially { power := false }) d ∧
    (∃ e, step .slow .ofOptions d e = some d') ∧ ∃ reply attempt request, d.reply = some reply ∧
      .set 0 .turnOn attempt request ∈ calls d.runtime.log ∧ ∀ f,
        (Call.set 0 .turnOn attempt request).tells f = true →
          f.actual (reply.speaker.receive request).2 = f.actual reply.speaker ∧
          f.cached d'.runtime.snapshot.speaker = some (f.actual reply.speaker) := by
  let events : List Event := [.runtime .start, .runtime (.submit .turnOn), .runtime .run,
    .runtime .run, .runtime .run, .runtime .run, .execute,
    .finish (.connected [[0x52, 0x11, 0xFF]] .eof), .runtime .run, .execute]
  let last : Event := .finish (.connected [(FakeLsx.SpeakerState.receive { power := true }
    (encodeGet Wire.sourceRegister)).1] .eof)
  have hrun : (Transition.run (step .slow .ofOptions) events
      (initially { power := false })).any
      (fun d => (lastPlan d.runtime.log).map (fun plan => (plan.1, plan.2.1)) = some (0, .turnOn) ∧
        (step .slow .ofOptions d last).any fun d' =>
          .verified 0 true ∈ d'.runtime.log.take 2 ∧
            d'.runtime.log = d'.runtime.log.take 2 ++ d.runtime.log) = true := by
    decide +kernel
  obtain ⟨d, hd, hd'⟩ := Transition.exists_reachable_of_run hrun
  obtain ⟨hplan, hlast⟩ := of_decide_eq_true hd'
  obtain ⟨d', hst, hnew⟩ := (Option.any_eq_true _ _).mp hlast
  obtain ⟨hmem, hlog⟩ := of_decide_eq_true hnew
  obtain ⟨reply, plan, kind, expected, attempt, request, hreply, hlastPlan, hcall, hholds⟩ :=
    verified_of_holding hd hst hlog hmem
  rw [hlastPlan] at hplan
  cases hplan
  exact ⟨d, d', hd, ⟨last, hst⟩, reply, attempt, request, hreply, hcall, hholds⟩

end Deployment

/-! ### A mismatch has a cause -/

namespace Log

variable {ρ : Type} {log new : List (Obs ρ)}

end Log

namespace Runtime

variable {ρ : Type} [Client ρ] {env : Env} {cfg : Config} {s t : Runtime ρ} {e : Event ρ}

end Runtime

namespace Deployment

variable {env : Env} {cfg : Config} {speaker : FakeLsx.SpeakerState} {d d' : Deployment}
  {e : Event} {new : List (Obs Transcript)}

end Deployment

end KefLsx
