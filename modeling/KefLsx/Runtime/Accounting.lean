import KefLsx.Runtime.Service

/-!
# The result of a command

Is the `CommandResult` of a completed control true of its SETs? It is, but for two paths. When the
volume GET before a relative command fails, the result takes its `write_attempted` from the error
of that GET, which tells whether the request of the GET was written. And where a malformed byte
arrives in one read with the acknowledgement, the acknowledgement is lost.
-/

namespace KefLsx

namespace Runtime

open Log

/-! ### What a result should tell -/

/-- The result tells how the SETs of the entry went: `write_attempted` whether one of them was
handed to the transport, `acknowledged` whether the last one received the status `52 11 FF`, and
`error` that it was not acknowledged. -/
structure Truthful (id : ℕ) (result : CommandResult) (earlier : List (Obs Transcript)) : Prop where
  written : result.writeAttempted = true ↔ ∃ r ∈ setReplies id earlier, r.Wrote
  acknowledged : result.acknowledged = true ↔
    ∃ r older, setReplies id earlier = r :: older ∧ r.ReceivedAck
  error : result.error ≠ none ↔ result.acknowledged = false

/-- The entry fails, without any SET, by a volume GET whose own request was written. -/
def ReadLost (id : ℕ) (outcome : Outcome) (earlier : List (Obs Transcript)) : Prop :=
  setReplies id earlier = [] ∧ ∃ r time before e, outcome = .failed e ∧
    earlier = .volumeEnded id r time :: before ∧ Client.asyncGetVolume r = .error e ∧ r.Wrote

/-- The last SET of the entry received its acknowledgement and failed all the same. -/
def SetSpoiled (id : ℕ) (earlier : List (Obs Transcript)) : Prop :=
  ∃ r older, setReplies id earlier = r :: older ∧ r.AckSpoiled

variable {env : Env} {cfg : Config} {s t : Runtime Transcript}

/-- The last SET returns: it was acknowledged, and not spoiled. -/
lemma receivedAck_of_asyncSet {id : ℕ} {earlier : List (Obs Transcript)} {r : Transcript}
    {older : List Transcript} (hfit : ∀ r ∈ setReplies id earlier, r.ReadsFit)
    (hreplies : setReplies id earlier = r :: older) (hr : Client.asyncSet r = .ok ()) :
    r.ReceivedAck ∧ ¬ SetSpoiled id earlier := by
  obtain ⟨hack, hclean⟩ := (Transcript.asyncSet_eq_ok_iff (hfit r (by simp [hreplies]))).mp hr
  refine ⟨hack, ?_⟩
  rintro ⟨r', older', hreplies', hspoiled⟩
  rw [hreplies] at hreplies'
  cases hreplies'
  exact hclean hspoiled

/-- The last SET fails: either it was not acknowledged, or it was spoiled. -/
lemma receivedAck_iff_setSpoiled {id : ℕ} {earlier : List (Obs Transcript)} {r : Transcript}
    {older : List Transcript} {e : LsxError} (hfit : ∀ r ∈ setReplies id earlier, r.ReadsFit)
    (hreplies : setReplies id earlier = r :: older) (hr : Client.asyncSet r = .error e) :
    (∃ r older, setReplies id earlier = r :: older ∧ r.ReceivedAck) ↔ SetSpoiled id earlier := by
  constructor
  · rintro ⟨r', older', hreplies', hack⟩
    rw [hreplies] at hreplies'
    cases hreplies'
    refine ⟨r, older, hreplies, ?_⟩
    by_contra hclean
    have hok : Client.asyncSet r = .ok () :=
      (Transcript.asyncSet_eq_ok_iff (hfit r (by simp [hreplies]))).mpr ⟨hack, hclean⟩
    rw [hr] at hok
    cases hok
  · rintro ⟨r', older', hreplies', before, hack, -⟩
    exact ⟨r', older', hreplies', before, hack⟩

/-- The flags of the failures tell whether a SET was handed to the transport. -/
lemma exists_wrote_iff {replies : List Transcript}
    (hall : ∀ r ∈ replies, ∃ e, Client.asyncSet r = .error e) :
    (∃ r ∈ replies, ∃ e, Client.asyncSet r = .error e ∧ e.writeAttempted = true) ↔
      ∃ r ∈ replies, r.Wrote := by
  constructor
  · rintro ⟨r, hmem, e, hr, hflag⟩
    exact ⟨r, hmem, (Transcript.writeAttempted_asyncSet hr).mp hflag⟩
  · rintro ⟨r, hmem, hwrote⟩
    obtain ⟨e, hr⟩ := hall r hmem
    exact ⟨r, hmem, e, hr, (Transcript.writeAttempted_asyncSet hr).mpr hwrote⟩

lemma not_setSpoiled_of_nil {id : ℕ} {earlier : List (Obs Transcript)}
    (h : setReplies id earlier = []) : ¬ SetSpoiled id earlier := by
  rintro ⟨r, older, hreplies, -⟩
  rw [h] at hreplies
  cases hreplies

/-- An entry that fails without any SET, by its volume GET. -/
lemma truthful_of_unread {id : ℕ} {result : CommandResult} {earlier : List (Obs Transcript)}
    {r : Transcript} {time : Time} {before : List (Obs Transcript)} {e : LsxError}
    (hlast : earlier = .volumeEnded id r time :: before) (hreplies : setReplies id earlier = [])
    (hr : Client.asyncGetVolume r = .error e) (hw : result.writeAttempted = e.writeAttempted)
    (ha : result.acknowledged = false) (he : result.error ≠ none) :
    Truthful id result earlier ↔ ¬ ReadLost id (.failed e) earlier := by
  have hflag : result.writeAttempted = true ↔ r.Wrote := by
    rw [hw]
    exact Transcript.writeAttempted_asyncGetVolume hr
  have hlost : ReadLost id (.failed e) earlier ↔ r.Wrote := by
    constructor
    · rintro ⟨-, r', _, _, e', ho, hlast', hr', hwrote⟩
      rw [hlast] at hlast'
      cases hlast'
      exact hwrote
    · exact fun hwrote => ⟨hreplies, r, time, before, e, rfl, hlast, hr, hwrote⟩
  rw [hlost]
  constructor
  · rintro ⟨hwritten, -, -⟩ hwrote
    obtain ⟨r', hmem, -⟩ := hwritten.mp (hflag.mpr hwrote)
    rw [hreplies] at hmem
    cases hmem
  · intro hnowrite
    refine ⟨?_, ?_, ?_⟩
    · rw [hflag, hreplies]
      simp [hnowrite]
    · simp [hreplies, ha]
    · simp [he, ha]

/-- One completion: its result is true unless the entry failed by a written GET, or by a SET that
was acknowledged. -/
lemma truthful_of_endOk {id : ℕ} {outcome : Outcome} {result : CommandResult}
    {earlier : List (Obs Transcript)} (h : EndOk id result earlier outcome)
    (hfit : ∀ r ∈ setReplies id earlier, r.ReadsFit) :
    Truthful id result earlier ↔ ¬ ReadLost id outcome earlier ∧ ¬ SetSpoiled id earlier := by
  cases h with
  | acknowledged r older hreplies hr hw ha he =>
    obtain ⟨hack, hclean⟩ := receivedAck_of_asyncSet hfit hreplies hr
    refine iff_of_true ⟨?_, ?_, ?_⟩ ⟨?_, hclean⟩
    · exact iff_of_true hw
        ⟨r, hreplies ▸ List.mem_cons_self, Transcript.wrote_of_asyncSet hr⟩
    · exact iff_of_true ha ⟨r, older, hreplies, hack⟩
    · simp [he, ha]
    · rintro ⟨-, _, _, _, _, ho, -⟩
      cases ho
  | failed r older e hreplies hr hw hall ha he =>
    have hlost : ¬ ReadLost id (.failed e) earlier := by
      rintro ⟨hnil, -⟩
      rw [hreplies] at hnil
      cases hnil
    have hwritten : result.writeAttempted = true ↔ ∃ r ∈ setReplies id earlier, r.Wrote := by
      rw [hw, hreplies, exists_wrote_iff hall]
    have hspoiled := receivedAck_iff_setSpoiled hfit hreplies hr
    constructor
    · rintro ⟨-, hack, -⟩
      refine ⟨hlost, fun h => ?_⟩
      rw [hack.mpr (hspoiled.mpr h)] at ha
      cases ha
    · rintro ⟨-, hclean⟩
      refine ⟨hwritten, iff_of_false (by simp [ha]) fun hack => hclean (hspoiled.mp hack), ?_⟩
      simp [he, ha]
  | unread r time before e hlast hreplies hr hw ha he =>
    rw [and_iff_left (not_setSpoiled_of_nil hreplies)]
    exact truthful_of_unread hlast hreplies hr hw ha (by simp [he])
  | late outcome ho hreplies hw ha he =>
    refine iff_of_true ⟨?_, ?_, ?_⟩ ⟨?_, not_setSpoiled_of_nil hreplies⟩
    · simp [hw, hreplies]
    · simp [ha, hreplies]
    · simp [he, ha]
    · rintro ⟨-, _, _, _, _, ho', -⟩
      rcases ho with rfl | rfl <;> cases ho'

/-! ### Where the result is stored -/

section

variable {ρ : Type} [Client ρ] {s t : Runtime ρ} {e : Event ρ}

/-- The completions in the log, newest first. -/
def completions (log : List (Obs ρ)) : List (ℕ × Outcome × CommandResult) :=
  log.filterMap fun o =>
    match o with
    | .completed id outcome result => some (id, outcome, result)
    | _ => none

omit [Client ρ] in
lemma completions_of_noted {l l' : Ledger ρ} (h : Ledger.Noted l l') :
    completions l'.log = completions l.log := by
  obtain ⟨notes, hlog, hnotes⟩ := h.notes
  rw [hlog, completions, List.filterMap_append, List.filterMap_eq_nil_iff.mpr ?_]
  · rfl
  · intro o ho
    have hnote := hnotes o ho
    cases o with
    | completed => cases hnote
    | _ => rfl

omit [Client ρ] in
lemma completions_controlFailed {job : Control} {failure : Failure} :
    completions (s.controlFailed env cfg job failure).log =
      (job.id, .failed failure.error,
        job.failedResult (s.wall env) (.lsx failure.error) failure.attempted) ::
      completions s.log := by
  obtain ⟨l, hnoted, hlog, -⟩ :
    ∃ l : Ledger ρ, Ledger.Noted l (s.controlFailed env cfg job failure).toLedger ∧ _ ∧ _ :=
    exists_noted_controlFailed
  rw [completions_of_noted hnoted, hlog]
  rfl

omit [Client ρ] in
lemma completions_controlAcknowledged {job : Control} {first : Option Failure} {r : ρ} :
    ∃ wall, completions (s.controlAcknowledged env cfg job first r).log =
        (job.id, .acknowledged, job.acknowledgedResult wall) :: completions s.log ∧
      (s.controlAcknowledged env cfg job first r).snapshot.lastCommand =
        some (job.acknowledgedResult wall) := by
  obtain ⟨l, time, wall, hnoted, hlog, -, -, hlast⟩ :
    ∃ (l : Ledger ρ) (time : Time) (wall : DateTime),
      Ledger.Noted l (s.controlAcknowledged env cfg job first r).toLedger ∧ _ ∧ _ ∧ _ ∧ _ :=
    exists_noted_controlAcknowledged
  refine ⟨wall, ?_, hlast⟩
  rw [completions_of_noted hnoted, hlog]
  rfl

/-- A step completes nothing, or stores the result of the completion that it logs. -/
lemma completions_of_rule (h : Rule env cfg s e t) : completions t.log = completions s.log ∨
    ∃ id outcome result, completions t.log = (id, outcome, result) :: completions s.log ∧
      t.snapshot.lastCommand = some result := by
  have hfailed : ∀ {s' : Runtime ρ} {job : Control} {failure : Failure},
      completions s'.log = completions s.log →
      ∃ id outcome result, completions (s'.controlFailed env cfg job failure).log =
          (id, outcome, result) :: completions s.log ∧
        (s'.controlFailed env cfg job failure).snapshot.lastCommand = some result := by
    intro s' job failure heq
    exact ⟨job.id, .failed failure.error, _, heq ▸ completions_controlFailed,
      lastCommand_controlFailed⟩
  cases h with
  | closeBegun =>
    refine .inl ?_
    rw [frame_beginClose.2.1]
    rfl
  | stateFailed => exact .inl ((completions_of_noted noted_stateExchangeFailed).trans rfl)
  | stateDone => exact .inl ((completions_of_noted noted_stateExchangeDone).trans rfl)
  | controlExpired => exact .inr ⟨_, _, _, rfl, rfl⟩
  | volumeGetFailed => exact .inr ⟨_, _, _, rfl, rfl⟩
  | attemptsTimedOut job s' hw hs =>
    have heq : completions s'.log = completions s.log := completions_of_noted hs.noted
    exact .inr ⟨_, _, _, congrArg _ heq, rfl⟩
  | attemptsLeft job failure s' hw hs => exact .inr (hfailed (completions_of_noted hs.noted))
  | setRejected => exact .inr (hfailed rfl)
  | secondFailed => exact .inr (hfailed rfl)
  | setAcknowledged job first request r =>
    obtain ⟨wall, hdone, hlast⟩ := completions_controlAcknowledged
    exact .inr ⟨job.id, .acknowledged, _, hdone, hlast⟩
  | _ => exact .inl rfl

/-- The completion that a step logs is the one that it stores as the last command. -/
lemma lastCommand_of_completed (h : Rule env cfg s e t) {new : List (Obs ρ)} {id : ℕ}
    {outcome : Outcome} {result : CommandResult} (hlog : t.log = new ++ s.log)
    (hmem : .completed id outcome result ∈ new) : t.snapshot.lastCommand = some result := by
  have hnew : completions t.log = completions new ++ completions s.log := by
    rw [hlog, completions, List.filterMap_append]
    rfl
  have hin : (id, outcome, result) ∈ completions new :=
    List.mem_filterMap.mpr ⟨_, hmem, rfl⟩
  rcases completions_of_rule h with hsame | ⟨id', outcome', result', hone, hlast⟩
  · rw [hnew, List.append_left_eq_self] at hsame
    rw [hsame] at hin
    cases hin
  · rw [hnew, ← List.singleton_append, List.append_cancel_right_eq] at hone
    rw [hone, List.mem_singleton] at hin
    cases hin
    exact hlast

end

/-- Every completion of a run stores a result that is true, unless the entry failed by a volume
GET whose own request was written, or its last SET was acknowledged and failed; then it is not. -/
theorem truthful_iff (h : Transition.Reachable (step env cfg) {} s) :
    (∀ later id outcome result earlier, s.log = later ++ .completed id outcome result :: earlier →
      (∀ r ∈ setReplies id earlier, r.ReadsFit) →
      (Truthful id result earlier ↔ ¬ ReadLost id outcome earlier ∧ ¬ SetSpoiled id earlier)) ∧
    ∀ e t new id outcome result, step env cfg s e = some t → t.log = new ++ s.log →
      .completed id outcome result ∈ new → t.snapshot.lastCommand = some result := by
  have hentries := History.each_iff.mp (Scheduled.of_reachable h).entries
  constructor
  · intro later id outcome result earlier hlog hfit
    have hend : EndOk id result earlier outcome := (hentries _ _ _ hlog).2
    exact truthful_of_endOk hend hfit
  · intro e t new id outcome result hst hlog hmem
    exact lastCommand_of_completed (.of_step hst) hlog hmem

/-- A select_source whose second attempt is acknowledged: its result is true. -/
theorem truthful_selectSource_retried : ∃ s : Runtime Transcript,
    Transition.Reachable (step .ticking .ofOptions) {} s ∧
    ∃ result earlier, s.log.tail = .completed 0 .acknowledged result :: earlier ∧
      Truthful 0 result earlier := by
  have hrun : (Transition.run (step .ticking .ofOptions)
      [.start, .submit (.selectSource .opt), .run, .run, .run, .run,
        .reply (Transcript.connectFailed .refused), .slept, .run,
        .reply (Transcript.status 0x11)] {}).any
      (fun s => s.log.take 2 = [
        .planStarted 0 .selectSource { powerOn := some true, source := some .opt },
        .completed 0 .acknowledged
          { id := 0, command := .selectSource, submittedAt := 0, completedAt := some 20000,
            writeAttempted := true, acknowledged := true }] ∧
        setReplies 0 (s.log.drop 2) =
          [Transcript.status 0x11, Transcript.connectFailed .refused]) = true := by
    decide +kernel
  obtain ⟨s, hs, hs'⟩ := Transition.exists_reachable_of_run hrun
  obtain ⟨htake, hreplies⟩ := of_decide_eq_true hs'
  have hlog := List.take_append_drop 2 s.log
  rw [htake] at hlog
  have hfit : ∀ r ∈ setReplies 0 (s.log.drop 2), r.ReadsFit := by
    rw [hreplies]
    decide
  refine ⟨s, hs, _, _, by rw [← hlog]; rfl, ?_⟩
  refine ((truthful_iff hs).1 [_] _ _ _ _ hlog.symm hfit).mpr ⟨?_, ?_⟩
  · rintro ⟨-, _, _, _, _, ho, -⟩
    cases ho
  · exact (receivedAck_of_asyncSet hfit hreplies rfl).2

/-- A mute with unknown volume, whose volume GET is lost after its request was written: the
result says that a write was attempted, and no SET was. -/
theorem not_truthful_mute_lost : ∃ s : Runtime Transcript,
    Transition.Reachable (step .ticking .ofOptions) {} s ∧
    ∃ outcome result earlier, s.log = .completed 0 outcome result :: earlier ∧
      sets 0 earlier = [] ∧ ¬ Truthful 0 result earlier := by
  have hrun : (Transition.run (step .ticking .ofOptions)
      [.start, .submit (.mute true), .run, .run, .run, .reply (Transcript.connected [] .deadline)]
      {}).any
      (fun s => s.log.head? = some (.completed 0
          (.failed
            { type := .responseTimeout, message := "Timed out waiting for KEF LSX response",
              writeAttempted := true })
          { id := 0, command := .mute, submittedAt := 0, completedAt := some 10000,
            writeAttempted := true, error := some "ResponseTimeoutError" }) ∧
        sets 0 s.log.tail = [] ∧ setReplies 0 s.log.tail = []) = true := by
    decide +kernel
  obtain ⟨s, hs, hs'⟩ := Transition.exists_reachable_of_run hrun
  obtain ⟨hhead, hsets, hreplies⟩ := of_decide_eq_true hs'
  obtain ⟨earlier, hlog⟩ := List.head?_eq_some_iff.mp hhead
  rw [hlog, List.tail_cons] at hsets hreplies
  refine ⟨s, hs, _, _, earlier, hlog, hsets, ?_⟩
  intro htruthful
  obtain ⟨r, hr, -⟩ := htruthful.written.mp rfl
  rw [hreplies] at hr
  cases hr

end Runtime

end KefLsx
