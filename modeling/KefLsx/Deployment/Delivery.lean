import KefLsx.Deployment.Coherence
import KefLsx.Runtime.Callers

/-!
# What the speaker executes

Of the exchanges that the runtime starts, the speaker executes each at most once, also when it is
late. So it executes the SETs of one control at most twice, and they are one and the same request.
A control that is acknowledged was executed; one whose result says that no write was attempted was
not, and never will be.
-/

namespace KefLsx

open Log FakeLsx LsxClient

/-- The control that a SET is made for. -/
def Call.setFor : Call → Option ℕ
  | set id .. => some id
  | _ => none

namespace Log

variable {ρ : Type} {id : ℕ} {log : List (Obs ρ)}

/-- The answers to SETs are among the traffic. -/
lemma setReplies_traffic (id : ℕ) (log : List (Obs ρ)) :
    setReplies id (traffic log) = setReplies id log := by
  rw [setReplies, traffic, List.filterMap_filter, setReplies]
  congr 1
  funext o
  cases o <;> simp [Obs.isTraffic, Obs.isEnd, Obs.setReply?]

lemma sets_eq_filter : sets id log = (calls log).filter fun call => call.setFor = some id := by
  refine List.filter_congr fun call _ => ?_
  cases call <;> simp [Call.setFor]

end Log

namespace Runtime

section

variable {ρ : Type} [Client ρ] {env : Env} {cfg : Config} {s t : Runtime ρ} {e : Event ρ} {id : ℕ}

/-- A step that ends no exchange adds no answer to a SET. -/
lemma setReplies_of_rule (h : Rule env cfg s e t) (hr : ∀ r, e ≠ .reply r) :
    setReplies id t.log = setReplies id s.log := by
  rw [← setReplies_traffic, ← setReplies_traffic id s.log]
  cases exchanged_of_rule h with
  | none htraffic => rw [htraffic]
  | start call reads remaining hstarts hreads hlog =>
    rw [hlog, traffic_cons rfl]
    rfl
  | finish o hends => cases hends <;> exact absurd rfl (hr _)

/-- The end of an exchange adds the answer to the SET that it was. -/
lemma setReplies_of_end {r : ρ} {call : Call} (h : Rule env cfg s (.reply r) t)
    (hcall : s.flight = some call) : setReplies id t.log =
      if call.setFor = some id then r :: setReplies id s.log else setReplies id s.log := by
  cases exchanged_of_rule h with
  | none _ _ _ hevent => exact absurd rfl (hevent r)
  | start _ _ _ hstarts =>
    rw [flight_eq_none_iff.mpr hstarts.not_inExchange] at hcall
    cases hcall
  | finish o hends htraffic =>
    rw [← setReplies_traffic, htraffic, ← setReplies_traffic id s.log]
    cases hends with
    | source reason r hw | maintenance r time hw | volume job r time hw =>
      rw [flight_of_worker hw] at hcall
      cases hcall
      rfl
    | set job first request r time hw =>
      rw [flight_of_worker hw] at hcall
      cases hcall
      by_cases hid : job.id = id
      · subst hid
        rw [setReplies_setEnded]
        exact (if_pos rfl).symm
      · rw [if_neg (by simpa [Call.setFor] using hid)]
        simp [setReplies, Obs.setReply?, hid]

/-- A worker that rests completes nothing. -/
lemma completions_of_resting (h : Rule env cfg s e t) (hs : s.worker.all Worker.resting = true) :
    completions t.log = completions s.log := by
  cases h with
  | closeBegun =>
    rw [frame_beginClose.2.1]
    rfl
  | controlExpired job hw | volumeGetFailed job r error hw | attemptsTimedOut job s' hw
  | attemptsLeft job failure s' hw | setRejected job first request r error hw
  | secondFailed job first request r error hw | setAcknowledged job first request r hw
  | stateFailed reason r error hw | stateDone reason r status hw =>
    rw [hw] at hs
    cases hs
  | _ => rfl

/-- A step completes nothing, or it logs one completion, and only notes after it. -/
lemma completed_of_rule (h : Rule env cfg s e t) : completions t.log = completions s.log ∨
    ∃ id outcome result notes earlier, t.log = notes ++ .completed id outcome result :: earlier ∧
      (∀ o ∈ notes, o.isNote = true) ∧ completions earlier = completions s.log := by
  have hfailed : ∀ {s' : Runtime ρ} {job : Control} {failure : Failure},
      completions s'.log = completions s.log →
      ∃ id outcome result notes earlier,
        (s'.controlFailed env cfg job failure).log =
          notes ++ .completed id outcome result :: earlier ∧
        (∀ o ∈ notes, o.isNote = true) ∧ completions earlier = completions s.log := by
    intro s' job failure heq
    obtain ⟨l, hnoted, hl, -⟩ :
      ∃ l : Ledger ρ, Ledger.Noted l (s'.controlFailed env cfg job failure).toLedger ∧ _ ∧ _ :=
      exists_noted_controlFailed
    obtain ⟨notes, hlog, hnotes⟩ := hnoted.notes
    rw [hl] at hlog
    exact ⟨job.id, _, _, notes, s'.log, hlog, hnotes, heq⟩
  cases h with
  | closeBegun =>
    refine .inl ?_
    rw [frame_beginClose.2.1]
    rfl
  | stateFailed => exact .inl ((completions_of_noted noted_stateExchangeFailed).trans rfl)
  | stateDone => exact .inl ((completions_of_noted noted_stateExchangeDone).trans rfl)
  | controlExpired job =>
    exact .inr ⟨job.id, .expired, job.failedResult (s.wall env) deadlineExpired false, [], s.log,
      rfl, List.forall_mem_nil _, rfl⟩
  | volumeGetFailed job r error =>
    exact .inr ⟨job.id, .failed error,
      job.failedResult (s.wall env) (.lsx error) error.writeAttempted, [],
      .volumeEnded job.id r (s.now env) :: s.log, rfl, List.forall_mem_nil _, rfl⟩
  | attemptsTimedOut job s' hw hs =>
    exact .inr ⟨job.id, .timedOut, job.failedResult (s'.wall env) deadlineExpired false, [], s'.log,
      rfl, List.forall_mem_nil _, completions_of_noted hs.noted⟩
  | attemptsLeft job failure s' hw hs => exact .inr (hfailed (completions_of_noted hs.noted))
  | setRejected => exact .inr (hfailed rfl)
  | secondFailed => exact .inr (hfailed rfl)
  | setAcknowledged job first request r =>
    obtain ⟨l, time, wall, hnoted, hl, -⟩ :
      ∃ (l : Ledger ρ) (time : Time) (wall : DateTime),
        Ledger.Noted l (s.controlAcknowledged env cfg job first r).toLedger ∧ _ ∧ _ ∧ _ ∧ _ :=
      exists_noted_controlAcknowledged
    obtain ⟨notes, hlog, hnotes⟩ := hnoted.notes
    rw [hl] at hlog
    exact .inr ⟨job.id, .acknowledged, _, notes,
      .setEnded job.id (attemptNumber first) r time :: s.log, hlog, hnotes, rfl⟩
  | _ => exact .inl rfl

/-- What a completion was made of is all that there is of the SETs of its entry. -/
def Concluded (s : Runtime ρ) : Prop :=
  ∀ id outcome result, (id, outcome, result) ∈ completions s.log →
    ∃ earlier, EndOk id result earlier outcome ∧ setReplies id s.log = setReplies id earlier

/-- No SET of an entry ends after the entry was completed. -/
lemma setReplies_of_completed (hs : Scheduled env cfg s) (h : Rule env cfg s e t)
    (hdone : id ∈ (completions s.log).map Prod.fst) :
    setReplies id t.log = setReplies id s.log := by
  rw [← setReplies_traffic, ← setReplies_traffic id s.log]
  cases exchanged_of_rule h with
  | none htraffic => rw [htraffic]
  | start call reads remaining hstarts hreads hlog =>
    rw [hlog, traffic_cons rfl]
    rfl
  | finish o hends htraffic =>
    rw [htraffic]
    cases hends with
    | source | maintenance | volume => rfl
    | set job first request r time hw =>
      have hlive : job ∈ s.live := mem_live_of_active (activeControl_of_worker hw)
      have hne : job.id ≠ id := by
        rintro rfl
        exact hs.unfinished job hlive (ended_of_mem_completions hdone)
      simp [setReplies, Obs.setReply?, hne]

lemma concluded_of_reachable (h : Transition.Reachable (step env cfg) {} s) : Concluded s := by
  refine h.invariant (I := Concluded) (fun _ _ _ hmem => absurd hmem List.not_mem_nil) ?_
  intro s t e hr hconcluded _ hst id outcome result hmem
  have hrule := Rule.of_step hst
  have hold (hmem : (id, outcome, result) ∈ completions s.log) :
      ∃ earlier, EndOk id result earlier outcome ∧ setReplies id t.log = setReplies id earlier := by
    obtain ⟨earlier, hend, hreplies⟩ := hconcluded id outcome result hmem
    refine ⟨earlier, hend, Eq.trans ?_ hreplies⟩
    exact setReplies_of_completed (.of_reachable hr) hrule (List.mem_map_of_mem hmem)
  rcases completed_of_rule hrule with hsame | ⟨id', outcome', result', notes, earlier, hlog, hnotes,
    hrest⟩
  · exact hold (hsame ▸ hmem)
  · have hnone : completions notes = [] := by
      refine List.filterMap_eq_nil_iff.mpr fun o ho => ?_
      have hnote := hnotes o ho
      cases o <;> first | rfl | cases hnote
    have hnew : completions t.log = (id', outcome', result') :: completions s.log := by
      rw [hlog, ← hrest, completions, List.filterMap_append, show notes.filterMap _ = [] from hnone]
      rfl
    rw [hnew] at hmem
    rcases List.mem_cons.mp hmem with heq | hmem
    · cases heq
      have hentries := History.each_iff.mp (Scheduled.of_reachable (.tail hr trivial hst)).entries
      refine ⟨earlier, (hentries _ _ _ hlog).2, ?_⟩
      have hquiet : ∀ o ∈ notes, Obs.setReply? id o = none := by
        intro o ho
        have hnote := hnotes o ho
        cases o <;> first | rfl | cases hnote
      rw [hlog, setReplies, List.filterMap_append, List.filterMap_eq_nil_iff.mpr hquiet]
      rfl
    · exact hold hmem

/-- On a closing runtime, a worker that rests goes on resting. -/
lemma resting_of_rule (hr : Transition.Reachable (step env cfg) {} s) (h : Rule env cfg s e t)
    (hc : s.closing = true) (hs : s.worker.all Worker.resting = true) :
    t.closing = true ∧ t.worker.all Worker.resting = true := by
  by_cases he : e = .start
  · subst he
    cases h with
    | alreadyStarted => exact ⟨hc, hs⟩
    | started hw hopen =>
      rw [hc] at hopen
      cases hopen
    | startedClosing hw => exact ⟨hc, rfl⟩
  · have hmoves := moves_of_rule h he (closing_iff hr).mpr
    exact ⟨hmoves.closing hc, hmoves.resting hc hs⟩

end

end Runtime

/-! ### At most once -/

namespace Deployment

variable {env : Env} {cfg : Config} {speaker : FakeLsx.SpeakerState} {d d' : Deployment}
  {e : Event}

/-- The exchange in flight, as long as its request has not been executed. -/
def awaited (d : Deployment) : List Call := if d.reply.isNone then d.call?.toList else []

/-- Every exchange that was started is awaited, left behind, executed, or none of these: and only
one of them. -/
def Accounted (d : Deployment) : Prop :=
  (d.awaited ++ (d.late ++ d.executed)).Subperm (calls d.runtime.log)

lemma awaited_of_call {call : Call} (hcall : d.call? = some call) (hreply : d.reply = none) :
    d.awaited = [call] := by
  simp [awaited, hcall, hreply]

lemma awaited_of_idle (hcall : d.call? = none) : d.awaited = [] := by
  simp [awaited, hcall]

/-- What is left behind was awaited before. -/
lemma leftBehind_subperm {call : Call} (hcall : d.call? = some call) (written : Bool) :
    (d.leftBehind call written ++ d.executed).Subperm (d.awaited ++ (d.late ++ d.executed)) := by
  cases hreply : d.reply with
  | none =>
    rw [awaited_of_call hcall hreply]
    cases written with
    | true => simpa [leftBehind, hreply] using List.Subperm.refl _
    | false => simpa [leftBehind, hreply] using (List.sublist_cons_self _ _).subperm
  | some reply => simpa [leftBehind, awaited, hreply] using List.Subperm.refl _

lemma accounted_of_moves (h : Accounted d) (hanswered : Answered d)
    (hmoves : Moves env cfg d e d') : Accounted d' := by
  unfold Accounted at h ⊢
  cases hmoves with
  | runtime e runtime hst hr hc =>
    cases Runtime.flies_of_rule (.of_step hst) hr hc with
    | kept hflight hcalls =>
      have hcall : ({ d with runtime := runtime } : Deployment).call? = d.call? := hflight
      rw [hcalls, awaited, hcall]
      exact h
    | started call hs ht hcalls =>
      have hcall : d.call? = none := hs
      have hcall' : ({ d with runtime := runtime } : Deployment).call? = some call := ht
      have hreply : d.reply = none := by
        by_contra hne
        obtain ⟨reply, hsome⟩ := Option.ne_none_iff_exists'.mp hne
        obtain ⟨call', -, hcall'', -⟩ := hanswered reply hsome
        rw [hcall] at hcall''
        cases hcall''
      rw [hcalls, awaited_of_call hcall' hreply]
      simp only [awaited, hreply, hcall, Option.isNone_none, if_true, Option.toList_none,
        List.nil_append] at h
      exact (List.subperm_cons call).mpr h
  | cancelled runtime hst =>
    obtain ⟨hflight, hcalls⟩ := Runtime.flight_of_end (.of_step hst) (.inr rfl)
    have hcall' : (d.cancel runtime).call? = none := hflight
    have hlate : ((d.cancel runtime).late ++ d.executed).Subperm
        (d.awaited ++ (d.late ++ d.executed)) := by
      cases hcall : d.call? with
      | none => simpa [cancel, hcall] using (List.sublist_append_right _ _).subperm
      | some call => simpa [cancel, hcall] using leftBehind_subperm hcall true
    rw [awaited_of_idle hcall', show (d.cancel runtime).runtime = runtime from rfl, hcalls]
    exact hlate.trans h
  | executed call hcall hreply =>
    rw [awaited_of_call hcall hreply] at h
    refine List.Subperm.trans ?_ h
    have hperm : (d.late ++ call :: d.executed).Perm ([call] ++ (d.late ++ d.executed)) :=
      List.perm_middle
    simpa [awaited, execute, change] using hperm.subperm
  | finished call t runtime hcall hpermits hst =>
    obtain ⟨hflight, hcalls⟩ := Runtime.flight_of_end (.of_step hst) (.inl ⟨t, rfl⟩)
    have hcall' : (d.finish call t runtime).call? = none := hflight
    rw [awaited_of_idle hcall', show (d.finish call t runtime).runtime = runtime from rfl, hcalls]
    exact (leftBehind_subperm hcall (decide t.Wrote)).trans h
  | executedLate i call hlate =>
    obtain ⟨hi, hget⟩ := List.getElem?_eq_some_iff.mp hlate
    have hlate' : (call :: d.late.eraseIdx i).Perm d.late := by
      rw [← hget]
      exact List.getElem_cons_eraseIdx_perm hi
    have hperm : (d.late.eraseIdx i ++ call :: d.executed).Perm (d.late ++ d.executed) :=
      List.perm_middle.trans (hlate'.append_right d.executed)
    exact ((hperm.append_left d.awaited).subperm).trans h
  | touched => exact h

lemma accounted_of_reachable (h : Transition.Reachable (step env cfg) (initially speaker) d) :
    Accounted d := by
  refine h.invariant (I := Accounted) (List.Subperm.refl []) ?_
  intro d d' e hr haccounted _ hst
  exact accounted_of_moves haccounted (answered_of_reachable hr) (.of_step hst)

/-! ### What a result says of the speaker -/

/-- What vouches for a SET of the entry `id` that the speaker has executed, or may still execute:
the runtime knows that it wrote one, or the SET is in flight, or it was dropped by a forced
shutdown, after which the entry is never completed. -/
inductive Vouched (d : Deployment) (call : Call) (id : ℕ) : Prop where
  | written (r : Transcript) (hr : r ∈ setReplies id d.runtime.log) (hw : r.Wrote)
  | inFlight (hcall : d.call? = some call) (hreply : d.reply ≠ none)
  | dropped (hc : d.runtime.closing = true) (hs : d.runtime.worker.all Worker.resting = true)
      (hopen : id ∉ (Runtime.completions d.runtime.log).map Prod.fst)

/-- All SETs that the speaker has executed, or may still execute, are vouched for. -/
def AllVouched (d : Deployment) : Prop :=
  ∀ call ∈ d.executed ++ d.late, ∀ id, call.setFor = some id → Vouched d call id

section

variable {call call' : Call} {id : ℕ} {t : Transcript} {runtime : Runtime Transcript}

lemma Vouched.congr (h : Vouched d call id) (hruntime : d'.runtime = d.runtime)
    (hreply : d.reply ≠ none → d'.reply ≠ none) : Vouched d' call id := by
  cases h with
  | written r hmem hw => exact .written r (hruntime ▸ hmem) hw
  | inFlight hcall hsome => exact .inFlight (by rw [call?, hruntime]; exact hcall) (hreply hsome)
  | dropped hc hs hopen => exact .dropped (hruntime ▸ hc) (hruntime ▸ hs) (hruntime ▸ hopen)

/-- A step of the runtime that ends no exchange. -/
lemma Vouched.stepRuntime (hr : Transition.Reachable (step env cfg) (initially speaker) d)
    (h : Vouched d call id) {e : KefLsx.Event Transcript}
    (hst : Runtime.step env cfg d.runtime e = some runtime) (hne : ∀ r, e ≠ .reply r)
    (hc : e ≠ .cancelled) : Vouched { d with runtime := runtime } call id := by
  have hrule := Runtime.Rule.of_step hst
  cases h with
  | written r hmem hw =>
    refine .written r ?_ hw
    rw [show ({ d with runtime := runtime } : Deployment).runtime = runtime from rfl,
      Runtime.setReplies_of_rule hrule hne]
    exact hmem
  | inFlight hcall hreply =>
    have hflight : d.runtime.flight = some call := hcall
    cases Runtime.flies_of_rule hrule hne hc with
    | kept hkept => exact .inFlight (hkept.trans hflight) hreply
    | started call' hnone =>
      rw [hnone] at hflight
      cases hflight
  | dropped hclosing hresting hopen =>
    obtain ⟨hclosing', hresting'⟩ :=
      Runtime.resting_of_rule (runtime_reachable hr) hrule hclosing hresting
    refine .dropped hclosing' hresting' ?_
    rw [show ({ d with runtime := runtime } : Deployment).runtime = runtime from rfl,
      Runtime.completions_of_resting hrule hresting]
    exact hopen

/-- The client has written the request of the exchange that was executed. -/
lemma Permits.wrote (h : d.Permits t) (hreply : d.reply ≠ none) : t.Wrote := by
  obtain ⟨reply, hsome⟩ := Option.ne_none_iff_exists'.mp hreply
  rw [Permits, hsome] at h
  cases t with
  | connected reads ending => exact trivial
  | _ => exact h.elim

/-- The end of the exchange in flight, when this was written. -/
lemma vouched_of_finish (hcall : d.call? = some call) (hid : call.setFor = some id)
    (hst : Runtime.step env cfg d.runtime (.reply t) = some runtime) (hwrote : t.Wrote) :
    Vouched (d.finish call t runtime) call id := by
  have hreplies : setReplies id runtime.log = _ :=
    Runtime.setReplies_of_end (.of_step hst) hcall
  refine .written t ?_ hwrote
  rw [show (d.finish call t runtime).runtime = runtime from rfl, hreplies, if_pos hid]
  exact List.mem_cons_self

lemma Vouched.finish (h : Vouched d call id) (hid : call.setFor = some id)
    (hcall : d.call? = some call') (hpermits : d.Permits t)
    (hst : Runtime.step env cfg d.runtime (.reply t) = some runtime) :
    Vouched (d.finish call' t runtime) call id := by
  have hreplies : setReplies id runtime.log = _ :=
    Runtime.setReplies_of_end (.of_step hst) hcall
  cases h with
  | written r hmem hw =>
    refine .written r ?_ hw
    rw [show (d.finish call' t runtime).runtime = runtime from rfl, hreplies]
    split
    · exact List.mem_cons_of_mem t hmem
    · exact hmem
  | inFlight hcall' hreply =>
    obtain rfl : call' = call := Option.some.inj (hcall.symm.trans hcall')
    exact vouched_of_finish hcall hid hst (hpermits.wrote hreply)
  | dropped hclosing hresting hopen =>
    -- a worker that rests awaits nothing
    obtain ⟨w, hw, hflight⟩ := Option.bind_eq_some_iff.mp hcall
    rw [hw] at hresting
    cases w <;> first | (cases hresting; done) | cases hflight

/-- A forced shutdown drops the SET in flight: its entry will never be completed. -/
lemma vouched_of_cancel (hr : Transition.Reachable (step env cfg) (initially speaker) d)
    (hcall : d.call? = some call) (hid : call.setFor = some id)
    (hst : Runtime.step env cfg d.runtime .cancelled = some runtime) :
    Vouched (d.cancel runtime) call id := by
  have hreach := runtime_reachable hr
  obtain ⟨w, hw, hflight⟩ := Option.bind_eq_some_iff.mp hcall
  cases Runtime.Rule.of_step hst with
  | workerCancelled w' hw' hrunning hended hct =>
    have hclosing : d.runtime.closing = true := (Runtime.closing_iff hreach).mpr (by simp [hct])
    refine .dropped hclosing rfl ?_
    cases w with
    | setting job first request =>
      cases hflight
      cases hid
      have hlive : job ∈ d.runtime.live :=
        Runtime.mem_live_of_active (Runtime.activeControl_of_worker hw)
      exact fun hdone => (Runtime.Scheduled.of_reachable hreach).unfinished job hlive
        (ended_of_mem_completions hdone)
    | sourceGet | maintenanceGet | volumeGet =>
      cases hflight
      cases hid
    | _ => cases hflight

lemma Vouched.cancel (hr : Transition.Reachable (step env cfg) (initially speaker) d)
    (h : Vouched d call id) (hid : call.setFor = some id)
    (hst : Runtime.step env cfg d.runtime .cancelled = some runtime) :
    Vouched (d.cancel runtime) call id := by
  have hrule := Runtime.Rule.of_step hst
  cases h with
  | written r hmem hw =>
    refine .written r ?_ hw
    rw [show (d.cancel runtime).runtime = runtime from rfl,
      Runtime.setReplies_of_rule hrule nofun]
    exact hmem
  | inFlight hcall hreply => exact vouched_of_cancel hr hcall hid hst
  | dropped hclosing hresting hopen =>
    obtain ⟨hclosing', hresting'⟩ :=
      Runtime.resting_of_rule (runtime_reachable hr) hrule hclosing hresting
    refine .dropped hclosing' hresting' ?_
    rw [show (d.cancel runtime).runtime = runtime from rfl,
      Runtime.completions_of_resting hrule hresting]
    exact hopen

/-- Only a request that was not executed is left behind. -/
lemma mem_leftBehind {written : Bool} (h : call ∈ d.leftBehind call' written) :
    call ∈ d.late ∨ call = call' ∧ written = true := by
  rw [leftBehind] at h
  split at h
  · rename_i hleft
    rcases List.mem_cons.mp h with rfl | hmem
    · exact .inr ⟨rfl, by simpa using (Bool.and_eq_true_iff.mp hleft).2⟩
    · exact .inl hmem
  · exact .inl h

end

lemma allVouched_of_reachable (h : Transition.Reachable (step env cfg) (initially speaker) d) :
    AllVouched d := by
  refine h.invariant (I := AllVouched) (fun _ hmem => absurd hmem List.not_mem_nil) ?_
  intro d d' e hr hall _ hstep call hmem id hid
  have hold (hmem : call ∈ d.executed ∨ call ∈ d.late) : Vouched d call id :=
    hall call (List.mem_append.mpr hmem) id hid
  cases Moves.of_step hstep with
  | runtime e runtime hst hne hc =>
    exact (hold (List.mem_append.mp hmem)).stepRuntime hr hst hne hc
  | cancelled runtime hst =>
    rcases List.mem_append.mp hmem with hmem | hmem
    · exact (hold (.inl hmem)).cancel hr hid hst
    · cases hcall : d.call? with
      | none =>
        have hlate : call ∈ d.late := by simpa [cancel, hcall] using hmem
        exact (hold (.inr hlate)).cancel hr hid hst
      | some call' =>
        have hlate : call ∈ d.leftBehind call' true := by simpa [cancel, hcall] using hmem
        rcases mem_leftBehind hlate with hmem | ⟨rfl, -⟩
        · exact (hold (.inr hmem)).cancel hr hid hst
        · exact vouched_of_cancel hr hcall hid hst
  | executed call' hcall hreply =>
    have hmem' : call = call' ∨ call ∈ d.executed ∨ call ∈ d.late := by
      simpa [Deployment.execute, change, or_assoc] using hmem
    rcases hmem' with rfl | hmem
    · exact .inFlight hcall (Option.some_ne_none _)
    · exact (hold hmem).congr rfl fun _ => Option.some_ne_none _
  | finished call' t runtime hcall hpermits hst =>
    rcases List.mem_append.mp hmem with hmem | hmem
    · exact (hold (.inl hmem)).finish hid hcall hpermits hst
    · rcases mem_leftBehind hmem with hmem | ⟨rfl, hwrote⟩
      · exact (hold (.inr hmem)).finish hid hcall hpermits hst
      · exact vouched_of_finish hcall hid hst (of_decide_eq_true hwrote)
  | executedLate i call' hlate =>
    have hmem' : call = call' ∨ call ∈ d.executed ∨ call ∈ d.late.eraseIdx i := by
      simpa [or_assoc] using hmem
    refine (hold ?_).congr rfl fun hreply => hreply
    rcases hmem' with rfl | hmem | hmem
    · exact .inr (List.mem_of_getElem? hlate)
    · exact .inl hmem
    · exact .inr (List.mem_of_mem_eraseIdx hmem)
  | touched => exact (hold (List.mem_append.mp hmem)).congr rfl fun hreply => hreply

/-- What was acknowledged has been executed. -/
lemma executed_of_acknowledged
    (h : Transition.Reachable (step env cfg) (initially speaker) d) {id : ℕ} {r : Transcript}
    (hmem : r ∈ setReplies id d.runtime.log) (hr : Client.asyncSet r = .ok ()) :
    ∃ call ∈ d.executed, call.setFor = some id := by
  revert r
  refine h.invariant (I := fun d => ∀ {r : Transcript}, r ∈ setReplies id d.runtime.log →
    Client.asyncSet r = .ok () → ∃ call ∈ d.executed, call.setFor = some id) nofun ?_
  intro d d' e hreach hall _ hstep r hmem hr
  cases Moves.of_step hstep with
  | runtime e runtime hst hne =>
    rw [show ({ d with runtime := runtime } : Deployment).runtime = runtime from rfl,
      Runtime.setReplies_of_rule (.of_step hst) hne] at hmem
    exact hall hmem hr
  | cancelled runtime hst =>
    rw [show (d.cancel runtime).runtime = runtime from rfl,
      Runtime.setReplies_of_rule (.of_step hst) nofun] at hmem
    exact hall hmem hr
  | executed | executedLate =>
    obtain ⟨call, hcall, hid⟩ := hall hmem hr
    exact ⟨call, List.mem_cons_of_mem _ hcall, hid⟩
  | finished call t runtime hcall hpermits hst =>
    have hreplies : setReplies id runtime.log = _ :=
      Runtime.setReplies_of_end (.of_step hst) hcall
    rw [show (d.finish call t runtime).runtime = runtime from rfl, hreplies] at hmem
    split at hmem
    · rename_i hid
      rcases List.mem_cons.mp hmem with rfl | hmem
      · cases hreply : d.reply with
        | none =>
          rw [Permits, hreply] at hpermits
          have hfails := Call.not_succeeds_of_silent hpermits call
          cases call with
          | set => simp [Call.succeeds, hr, Except.isOk, Except.toBool] at hfails
          | _ => cases hid
        | some reply =>
          obtain ⟨call', -, hcall', -, hexecuted⟩ := answered_of_reachable hreach reply hreply
          obtain rfl : call' = call := Option.some.inj (hcall'.symm.trans hcall)
          exact ⟨call', hexecuted, hid⟩
      · exact hall hmem hr
    · exact hall hmem hr
  | touched => exact hall hmem hr

lemma executed_of_completed (h : Transition.Reachable (step env cfg) (initially speaker) d)
    {id : ℕ} {result : CommandResult} (hmem : .completed id .acknowledged result ∈ d.runtime.log) :
    ∃ call ∈ d.executed, call.setFor = some id := by
  have hdone : (id, .acknowledged, result) ∈ Runtime.completions d.runtime.log :=
    Runtime.mem_completions.mpr hmem
  obtain ⟨earlier, hend, hreplies⟩ :=
    Runtime.concluded_of_reachable (runtime_reachable h) _ _ _ hdone
  cases hend with
  | acknowledged r older hold hr =>
    refine executed_of_acknowledged h (r := r) ?_ hr
    rw [hreplies, hold]
    exact List.mem_cons_self
  | late outcome ho => rcases ho with ho | ho <;> cases ho

/-- What the speaker executes was asked for by the runtime. -/
lemma mem_calls_of_executed (h : Transition.Reachable (step env cfg) (initially speaker) d)
    {call : Call} (hmem : call ∈ d.executed ++ d.late) : call ∈ calls d.runtime.log := by
  have hsub : (d.late ++ d.executed).Subperm (calls d.runtime.log) :=
    (List.sublist_append_right _ _).subperm.trans (accounted_of_reachable h)
  rw [List.mem_append, or_comm, ← List.mem_append] at hmem
  exact hsub.subset hmem

/-- A control whose result says that no write was attempted was never written. -/
lemma unexecuted_of_unattempted
    (h : Transition.Reachable (step env cfg) (initially speaker) d) {id : ℕ} {outcome : Outcome}
    {result : CommandResult} (hmem : .completed id outcome result ∈ d.runtime.log)
    (hwrite : result.writeAttempted = false) {call : Call}
    (hcall : call ∈ d.executed ++ d.late) : call.setFor ≠ some id := by
  intro hid
  have hreach := runtime_reachable h
  have hdone : (id, outcome, result) ∈ Runtime.completions d.runtime.log :=
    Runtime.mem_completions.mpr hmem
  have hended := List.mem_map_of_mem (f := Prod.fst) hdone
  cases allVouched_of_reachable h call hcall id hid with
  | written r hr hw =>
    obtain ⟨earlier, hend, hreplies⟩ :=
      Runtime.concluded_of_reachable hreach id outcome result hdone
    rw [hreplies] at hr
    cases hend with
    | acknowledged _ _ _ _ hattempted =>
      rw [hwrite] at hattempted
      cases hattempted
    | failed r' older e hold _ hattempted hall =>
      rw [hold] at hr
      obtain ⟨e', he'⟩ := hall r hr
      have htrue := hattempted.mpr ⟨r, hr, e', he', (Transcript.writeAttempted_asyncSet he').mpr hw⟩
      rw [hwrite] at htrue
      cases htrue
    | unread _ _ _ _ _ hnone | late _ _ hnone =>
      rw [hnone] at hr
      cases hr
  | inFlight hflight hreply =>
    obtain ⟨w, hw, hcall⟩ := Option.bind_eq_some_iff.mp hflight
    cases w with
    | setting job first request =>
      cases hcall
      cases hid
      have hlive : job ∈ d.runtime.live :=
        Runtime.mem_live_of_active (Runtime.activeControl_of_worker hw)
      exact (Runtime.Scheduled.of_reachable hreach).unfinished job hlive
        (ended_of_mem_completions hended)
    | sourceGet | maintenanceGet | volumeGet =>
      cases hcall
      cases hid
    | _ => cases hcall
  | dropped _ _ hopen => exact hopen hended

/-- The SETs of one control are of one kind, and one and the same request. -/
lemma alike_of_sets (id : ℕ) {log : List (Obs Transcript)}
    (h : History.Each (EntryOk env) log) :
    ∃ kind request, ∀ call ∈ sets id log, ∃ attempt, call = .set id kind attempt request := by
  induction log with
  | nil => exact ⟨.mute, [], nofun⟩
  | cons o log ih =>
    obtain ⟨ho, hlog⟩ := h
    by_cases hset : ∃ kind attempt request, o.call? = some (.set id kind attempt request)
    · obtain ⟨kind, attempt, request, hcall⟩ := hset
      cases o with
      | started reads call remaining =>
        cases hcall
        have hstart : StartOk env reads (.set id kind attempt request) log := ho
        refine ⟨kind, request, ?_⟩
        rw [sets_started]
        cases hstart.set id kind attempt request rfl with
        | first hsets => simp [hsets]
        | retry r e hsets => simp [hsets]
      | _ => cases hcall
    · rw [sets_cons_of_ne fun kind attempt request hcall => hset ⟨kind, attempt, request, hcall⟩]
      exact ih hlog

/-- The SETs that the speaker executes for a control are the one that the runtime started. -/
lemma eq_set_of_executed (h : Transition.Reachable (step env cfg) (initially speaker) d) {id : ℕ}
    {kind : ControlKind} {attempt : ℕ} {request : List UInt8}
    (hset : .set id kind attempt request ∈ calls d.runtime.log) {call : Call}
    (hcall : call ∈ d.executed) (hid : call.setFor = some id) :
    ∃ attempt', call = .set id kind attempt' request := by
  have hinv := Runtime.Scheduled.of_reachable (runtime_reachable h)
  obtain ⟨kind', request', halike⟩ := alike_of_sets id hinv.entries
  have hsets (call : Call) (hcall : call ∈ calls d.runtime.log) (hid : call.setFor = some id) :
      ∃ attempt, call = .set id kind' attempt request' := by
    refine halike call ?_
    rw [sets_eq_filter]
    exact List.mem_filter.mpr ⟨hcall, decide_eq_true hid⟩
  obtain ⟨attempt', rfl⟩ :=
    hsets call (mem_calls_of_executed h (List.mem_append_left _ hcall)) hid
  obtain ⟨_, heq⟩ := hsets _ hset rfl
  cases heq
  exact ⟨attempt', rfl⟩

/-- What the speaker has executed, and may still execute, of the control `id`. -/
structure Delivered (d : Deployment) (id : ℕ) : Prop where
  /-- Nothing is executed more often than the runtime asked for it. -/
  once : ∀ call, d.executed.count call ≤ (calls d.runtime.log).count call
  twice : (d.executed.filter fun call => call.setFor = some id).length ≤ 2
  same : ∀ call ∈ d.executed, call.setFor = some id → ∀ call' ∈ d.executed,
    call'.setFor = some id → call.request = call'.request
  acknowledged : ∀ result, .completed id .acknowledged result ∈ d.runtime.log →
    ∃ call ∈ d.executed, call.setFor = some id
  unattempted : ∀ outcome result, .completed id outcome result ∈ d.runtime.log →
    result.writeAttempted = false → ∀ call ∈ d.executed ++ d.late, call.setFor ≠ some id

/-- In every run, with any lost replies and any requests that are executed late: the speaker
executes at most what the runtime asked for, and no control more than twice. An acknowledged control
was executed; one whose result tells that no write was attempted was not, and never will be. -/
theorem delivered_of_reachable (h : Transition.Reachable (step env cfg) (initially speaker) d)
    (id : ℕ) : Delivered d id := by
  have hreach := runtime_reachable h
  have hinv := Runtime.Scheduled.of_reachable hreach
  have hsub : d.executed.Subperm (calls d.runtime.log) :=
    ((List.sublist_append_right _ _).trans (List.sublist_append_right _ _)).subperm.trans
      (accounted_of_reachable h)
  refine ⟨hsub.count_le, ?_, ?_, ?_, ?_⟩
  · have hlength := (hsub.filter fun call => call.setFor = some id).length_le
    rw [← sets_eq_filter] at hlength
    exact hlength.trans (Runtime.length_sets_le hinv.entries)
  · intro call hcall hid call' hcall' hid'
    have hmem := mem_calls_of_executed h (List.mem_append_left d.late hcall)
    cases call with
    | set id' kind attempt request =>
      cases hid
      obtain ⟨attempt', rfl⟩ := eq_set_of_executed h hmem hcall' hid'
      rfl
    | _ => cases hid
  · exact fun result hmem => executed_of_completed h hmem
  · intro outcome result hmem hwrite call hcall
    exact unexecuted_of_unattempted h hmem hwrite hcall

/-- A mute whose acknowledgement is lost is executed again. -/
theorem delivered_of_reachable_mute : ∃ d : Deployment,
    Transition.Reachable (step .ticking .ofOptions) (initially { volume := 37 }) d ∧
    (d.executed.filter fun call => call.setFor = some 0).length = 2 ∧ Delivered d 0 := by
  have hrun : (Transition.run (step .ticking .ofOptions)
      (introduction { volume := 37 } ++ [.runtime .run, .runtime (.submit (.mute true)),
        .runtime .woken, .runtime .run, .runtime .run, .runtime .run, .execute,
        .finish (.connected [[0x52]] .eof), .runtime .slept, .runtime .run, .execute,
        .finish (.connected [[0x52, 0x11, 0xFF]] .eof)])
      (initially { volume := 37 })).any
      (fun d => (d.executed.filter fun call => call.setFor = some 0).length = 2) = true := by
    decide +kernel
  obtain ⟨d, hd, htwice⟩ := Transition.exists_reachable_of_run hrun
  exact ⟨d, hd, of_decide_eq_true htwice, delivered_of_reachable hd 0⟩

end Deployment

end KefLsx
