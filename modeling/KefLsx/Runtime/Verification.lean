import KefLsx.Runtime.Agreement

/-!
# Verification

Whose command does a `verified` field speak of, and does a superseded plan keep silent? A plan is
cleared when a new entry is accepted, but not when an entry that was accepted before it started is
completed; and a failed GET arms the plan again without looking whether it still exists.
-/

namespace KefLsx

/-- Entries that a plan is the reason for. -/
def Obs.isVerification {ρ : Type} : Obs ρ → Bool
  | started _ (.sourceGet .verification) _ | mismatch | verified .. => true
  | _ => false

namespace Runtime

open Log

variable {ρ : Type} {env : Env} {cfg : Config} {s t : Runtime ρ} {e : Event ρ}

/-! ### Superseded plans -/

/-- Nothing has been accepted since the last plan was started. -/
inductive Current : List (Obs ρ) → Prop where
  | intro (newer : List (Obs ρ)) (id : ℕ) (kind : ControlKind) (expected : SpeakerState)
      (older : List (Obs ρ)) (hnewer : ∀ o ∈ newer, o.acceptedId? = none) :
      Current (newer ++ .planStarted id kind expected :: older)

lemma Current.append {log : List (Obs ρ)} (h : Current log) (new : List (Obs ρ))
    (hnew : ∀ o ∈ new, o.acceptedId? = none) : Current (new ++ log) := by
  obtain ⟨newer, id, kind, expected, older, hnewer⟩ := h
  rw [← List.append_assoc]
  refine .intro (new ++ newer) id kind expected older ?_
  intro o ho
  rcases List.mem_append.mp ho with ho | ho
  · exact hnew o ho
  · exact hnewer o ho

lemma Current.cons {log : List (Obs ρ)} (h : Current log) {o : Obs ρ}
    (ho : o.acceptedId? = none) : Current (o :: log) :=
  h.append [o] (by simpa using ho)

lemma acceptedId?_of_isQuiet {o : Obs ρ} (h : o.isQuiet = true) : o.acceptedId? = none := by
  cases o with
  | accepted => cases h
  | _ => rfl

lemma isVerification_of_isQuiet {o : Obs ρ} (h : o.isQuiet = true) :
    o.isVerification = false := by
  cases o with
  | verified | mismatch => cases h
  | started reads call remaining =>
    cases call with
    | sourceGet reason => cases reason <;> first | rfl | cases h
    | _ => rfl
  | _ => rfl

/-- What the log shows of verification is due to a plan that is current at this entry, and a plan
that is due is complete. -/
structure Silent (s : Runtime ρ) : Prop where
  entries : ∀ later o earlier, s.log = later ++ o :: earlier → o.isVerification = true →
    Current earlier
  due : s.verification.due ≠ none → s.verification.kind ≠ none ∧ s.verification.expected ≠ none

variable [Client ρ]

/-- The event by which the source GET of a plan that has been cleared ends with an error. -/
inductive Rearms (s : Runtime ρ) : Event ρ → Prop where
  | intro (r : ρ) (error : LsxError) (hw : s.worker = some (.sourceGet .verification))
      (hdue : s.verification.due = none) (hr : Client.asyncGetSource r = .error error) :
      Rearms s (.reply r)

/-- The invariant behind `Silent`. -/
structure Superseding (s : Runtime ρ) : Prop where
  entries : History.Each (fun o earlier => o.isVerification = true → Current earlier) s.log
  due : s.verification.due ≠ none →
    Current s.log ∧ s.verification.kind ≠ none ∧ s.verification.expected ≠ none

omit [Client ρ] in
/-- A plan that was due goes on, or ends. -/
lemma Superseding.rescheduled {l : Ledger ρ}
    (hl : History.Each (fun o earlier => o.isVerification = true → Current earlier) l.log)
    (hcurrent : Current l.log) (hkind : l.verification.kind ≠ none)
    (hexpected : l.verification.expected ≠ none) (h : Ledger.Rescheduled l t.toLedger) :
    Superseding t := by
  have hplan : t.verification.due ≠ none →
      t.verification.kind ≠ none ∧ t.verification.expected ≠ none := by
    intro hdue
    rcases h.plan with ⟨-, hk, he⟩ | ⟨hnone, -⟩
    · rw [hk, he]
      exact ⟨hkind, hexpected⟩
    · exact absurd hnone hdue
  rcases h.log with hlog | ⟨id, -, hlog⟩
  · refine ⟨hlog ▸ hl, fun hdue => ⟨hlog ▸ hcurrent, hplan hdue⟩⟩
  · refine ⟨?_, fun hdue => ⟨?_, hplan hdue⟩⟩ <;> rw [hlog]
    · exact ⟨fun _ => hcurrent, hl⟩
    · exact hcurrent.cons rfl

lemma Superseding.step (h : Superseding s) (hok : ¬ Rearms s e) (hc : Change cfg s e t) :
    Superseding t := by
  have hquiet : ∀ {o : Obs ρ} {earlier : List (Obs ρ)}, o.isQuiet = true →
      o.isVerification = true → Current earlier := by
    intro o earlier ho hv
    rw [isVerification_of_isQuiet ho] at hv
    cases hv
  have hgrown : ∀ {new : List (Obs ρ)}, (∀ o ∈ new, o.isQuiet = true) →
      History.Each (fun o earlier => o.isVerification = true → Current earlier) (new ++ s.log) :=
    fun hnew => h.entries.append fun o ho _ => hquiet (hnew o ho)
  cases hc with
  | quiet new hlog hnew hplan =>
    refine ⟨hlog ▸ hgrown hnew, ?_⟩
    rw [hplan, hlog]
    intro hdue
    obtain ⟨hcurrent, hrest⟩ := h.due hdue
    exact ⟨hcurrent.append new fun o ho => acceptedId?_of_isQuiet (hnew o ho), hrest⟩
  | accepted o ho id command deadline hlog hplan =>
    refine ⟨?_, by simp [hplan]⟩
    rw [hlog]
    exact ⟨by rintro ⟨⟩, hquiet ho, h.entries⟩
  | closed hlog hplan => exact ⟨hlog ▸ h.entries, by simp [hplan]⟩
  | completed new hnew id outcome result hlog hplan =>
    refine ⟨?_, ?_⟩ <;> rw [hlog]
    · exact ⟨by rintro ⟨⟩, hgrown hnew⟩
    · rw [hplan]
      intro hdue
      obtain ⟨hcurrent, hrest⟩ := h.due hdue
      refine ⟨(hcurrent.append new fun o ho => ?_).cons rfl, hrest⟩
      exact acceptedId?_of_isQuiet (hnew o ho)
  | planned new hnew id outcome result kind expected hlog hplanned hdue hkind hexpected =>
    refine ⟨?_, fun _ => ⟨?_, by simp [hkind], by simp [hexpected]⟩⟩ <;> rw [hlog]
    · exact ⟨by rintro ⟨⟩, by rintro ⟨⟩, hgrown hnew⟩
    · exact .intro [] id kind expected _ (by simp)
  | started reads hdue hlog hplan =>
    obtain ⟨hcurrent, hrest⟩ := h.due hdue
    refine ⟨?_, fun _ => ⟨?_, hplan ▸ hrest⟩⟩ <;> rw [hlog]
    · exact ⟨fun _ => hcurrent, h.entries⟩
    · exact hcurrent.cons rfl
  | verified reason polled r time status id hw hr hdue hid hmatch hlog hplan =>
    refine ⟨?_, by simp [hplan]⟩
    rw [hlog]
    exact ⟨fun _ => (h.due hdue).1.cons rfl, by rintro ⟨⟩, h.entries⟩
  | mismatched l o ho hdue hlog hplan hlast hnext =>
    obtain ⟨hcurrent, hkind, hexpected⟩ := h.due hdue
    have hbefore : Current (o :: s.log) := hcurrent.cons (acceptedId?_of_isQuiet ho)
    refine .rescheduled ?_ ?_ (hplan ▸ hkind) (hplan ▸ hexpected) hnext <;> rw [hlog]
    · exact ⟨fun _ => hbefore, hquiet ho, h.entries⟩
    · exact hbefore.cons rfl
  | failed r error he hw hr l o ho hlog hplan hlast hnext =>
    have hdue : s.verification.due ≠ none := by
      intro hnone
      rw [he] at hok
      exact hok (.intro r error hw hnone hr)
    obtain ⟨hcurrent, hkind, hexpected⟩ := h.due hdue
    refine .rescheduled ?_ ?_ (hplan ▸ hkind) (hplan ▸ hexpected) hnext <;> rw [hlog]
    · exact ⟨hquiet ho, h.entries⟩
    · exact hcurrent.cons (acceptedId?_of_isQuiet ho)

/-- The failed GET of a cleared plan leaves a verification due that has no kind. -/
lemma rearmed (hr : Transition.Reachable (step env cfg) {} s) (h : Rearms s e)
    (hst : step env cfg s e = some t) :
    t.verification.due ≠ none ∧ t.verification.kind = none := by
  obtain ⟨r, error, hw, hdue, hr'⟩ := h
  have hcleared : s.verification = {} :=
    ((Recorded.of_reachable hr).2.cleared hw).resolve_left (not_not_intro hdue)
  have ht : t = s.stateExchangeFailed env cfg .verification r error := by
    simpa [step, hw, stepReply, hr'] using hst.symm
  obtain ⟨l, -, hplan, -, heq⟩ : ∃ l : Ledger ρ, _ ∧ _ ∧ _ ∧
    (s.stateExchangeFailed env cfg .verification r error).toLedger = _ := stateExchangeFailed_cases
  rw [ht, heq]
  exact Ledger.scheduleNextVerification_of_cleared (hplan.trans hcleared)

/-- In a run in which no GET of a cleared plan fails, verification is silent about superseded
plans. The first such failure breaks the silence. -/
theorem silent_of_not_rearms
    (h : Transition.Reaches (step env cfg) (fun s e => ¬ Rearms s e) {} s) :
    Silent s ∧ ∀ e t, Rearms s e → step env cfg s e = some t → ¬ Silent t := by
  have hinvariant : Superseding s := by
    refine h.invariant ⟨trivial, by simp⟩ ?_
    intro s t e hr hs hok hst
    exact hs.step hok (.of_rule (.of_reachable hr.reachable) (.of_step hst))
  refine ⟨⟨?_, fun hdue => (hinvariant.due hdue).2⟩, ?_⟩
  · intro later o earlier hlog
    exact History.each_iff.mp hinvariant.entries later o earlier hlog
  · intro e t hrearms hst hsilent
    obtain ⟨hdue, hkind⟩ := rearmed h.reachable hrearms hst
    exact (hsilent.due hdue).1 hkind

/-- The test of a step, for concrete runs. -/
def keepsPlan (s : Runtime ρ) (e : Event ρ) : Bool :=
  match e, s.worker with
  | .reply r, some (.sourceGet .verification) =>
    s.verification.due.isSome || (Client.asyncGetSource r).isOk
  | _, _ => true

lemma not_rearms_of_keepsPlan (h : keepsPlan s e = true) : ¬ Rearms s e := by
  rintro ⟨r, error, hw, hdue, hr⟩
  simp [keepsPlan, hw, hdue, hr, Except.isOk, Except.toBool] at h

/-- A volume command accepted while the GET of a turn_on is in flight; the GET is answered, and
nothing is said about the turn_on. -/
theorem silent_volume_accepted : ∃ s : Runtime Transcript,
    Transition.Reaches (step .slow .ofOptions) (fun s e => ¬ Rearms s e) {} s ∧
    (∃ reply time before, s.log = .sourceEnded .verification true reply time :: before ∧
      lastRecorded before = some 1) ∧ Silent s := by
  have hrun : (Transition.run (Transition.guarded (step .slow .ofOptions) keepsPlan)
      [.start, .submit .turnOn, .run, .run, .run, .run, .reply (Transcript.status 0x11), .run,
        .submit (.setVolume (1 / 2)), .reply (Transcript.source 0x0B)] {}).any
      (fun s => s.log.head? = some (.sourceEnded .verification true (Transcript.source 0x0B) 11) ∧
        lastRecorded s.log.tail = some 1) = true := by
    decide +kernel
  obtain ⟨s, hs, hs'⟩ := Transition.exists_reachable_of_run hrun
  obtain ⟨hhead, hlast⟩ := of_decide_eq_true hs'
  obtain ⟨before, hlog⟩ := List.head?_eq_some_iff.mp hhead
  rw [hlog, List.tail_cons] at hlast
  have hguarded : Transition.Reaches (step .slow .ofOptions) (fun s e => ¬ Rearms s e) {} s :=
    (Transition.Reaches.of_guarded hs).mono fun _ _ => not_rearms_of_keepsPlan
  exact ⟨s, hguarded, ⟨_, _, before, hlog, hlast⟩, (silent_of_not_rearms hguarded).1⟩

/-- The same volume command, but the GET cannot connect: a verification is due that has no kind. -/
theorem not_silent_connectFailed : ∃ s : Runtime Transcript,
    Transition.Reachable (step .slow .ofOptions) {} s ∧ lastRecorded s.log = some 1 ∧
    ¬ Silent s := by
  have hrun : (Transition.run (step .slow .ofOptions)
      [.start, .submit .turnOn, .run, .run, .run, .run, .reply (Transcript.status 0x11), .run,
        .submit (.setVolume (1 / 2)), .reply (Transcript.connectFailed .refused)] {}).any
      (fun s => lastRecorded s.log = some 1 ∧ s.verification.due ≠ none ∧
        s.verification.kind = none) = true := by
    decide +kernel
  obtain ⟨s, hs, hs'⟩ := Transition.exists_reachable_of_run hrun
  obtain ⟨hlast, hdue, hkind⟩ := of_decide_eq_true hs'
  refine ⟨s, hs, hlast, ?_⟩
  intro hsilent
  exact (hsilent.due hdue).1 hkind

/-! ### Whose command is verified -/

/-- The `verified` field written for an entry tells of this entry: the plan in force is its own,
and for a `True` the source GET that has just ended was started after a SET of the entry and read
the power and the source that the SET wrote. -/
structure Attributed (id : ℕ) (value : Bool) (earlier : List (Obs ρ)) : Prop where
  plan : ∃ kind expected, lastPlan earlier = some (id, kind, expected) ∧ kind.isSource = true
  confirmed : value = true →
    ∃ reason polled r time newer reads remaining older kind attempt request status written,
      earlier = .sourceEnded reason polled r time ::
        (newer ++ .started reads (.sourceGet reason) remaining :: older) ∧ calls newer = [] ∧
      Client.asyncGetSource r = .ok status ∧ .set id kind attempt request ∈ calls older ∧
      decodeSourceValue (requestValue request) = .ok written ∧
      written.powerOn = status.powerOn ∧ written.source = status.source

/-- No entry has been accepted or completed since the plan in force was started; if the field is
to be `True`, a `turn_off` has written the cached source. -/
inductive Unsuperseded (cfg : Config) (value : Bool) : List (Obs ρ) → Prop where
  | intro (newer : List (Obs ρ)) (id : ℕ) (kind : ControlKind) (expected : SpeakerState)
      (older : List (Obs ρ)) (hplan : ∀ o ∈ newer, o.plan? = none)
      (hnewer : ∀ o ∈ newer, o.recordedId? = none)
      (hkeeps : value = true → cfg.KeepsSource kind expected) :
      Unsuperseded cfg value (newer ++ .planStarted id kind expected :: older)

/-- What the invariants say of a log. -/
structure Consistent (env : Env) (cfg : Config) (log : List (Obs ρ)) : Prop where
  entries : History.Each (EntryOk env) log
  notes : History.Each (NoteOk cfg) log

lemma Consistent.of_append {newer older : List (Obs ρ)}
    (h : Consistent env cfg (newer ++ older)) : Consistent env cfg older :=
  ⟨h.entries.of_append, h.notes.of_append⟩

lemma Consistent.of_cons {o : Obs ρ} {log : List (Obs ρ)} (h : Consistent env cfg (o :: log)) :
    Consistent env cfg log :=
  ⟨h.entries.2, h.notes.2⟩

/-- After the plan of an entry, this entry is neither accepted nor completed again. -/
lemma Consistent.recordedId?_ne {newer older : List (Obs ρ)} {id : ℕ} {kind : ControlKind}
    {expected : SpeakerState}
    (h : Consistent env cfg (newer ++ .planStarted id kind expected :: older)) :
    ∀ o ∈ newer, o.recordedId? ≠ some id := by
  intro o ho hid
  have hplanned : Planned cfg id kind expected older := h.of_append.notes.1
  obtain ⟨outcome, result, before, rfl⟩ := hplanned.completion
  obtain ⟨a, b, rfl⟩ := List.append_of_mem ho
  rw [List.append_assoc] at h
  have hentry := h.of_append.entries.1
  have hmem : Obs.completed id outcome result ∈
      b ++ .planStarted id kind expected :: .completed id outcome result :: before := by simp
  cases o with
  | accepted id' command deadline =>
    cases hid
    exact lt_irrefl _ (hentry _ hmem _ rfl)
  | completed id' outcome' result' =>
    cases hid
    exact hentry.1 ⟨_, hmem, rfl⟩
  | _ => cases hid

/-- The last plan belongs to the entry recorded last if and only if nothing was recorded since. -/
lemma Consistent.lastRecorded_eq_iff {newer older : List (Obs ρ)} {id : ℕ} {kind : ControlKind}
    {expected : SpeakerState}
    (h : Consistent env cfg (newer ++ .planStarted id kind expected :: older)) :
    lastRecorded (newer ++ .planStarted id kind expected :: older) = some id ↔
      ∀ o ∈ newer, o.recordedId? = none := by
  constructor
  · intro hlast o ho
    cases hnew : newer.findSome? Obs.recordedId? with
    | none => exact List.findSome?_eq_none_iff.mp hnew o ho
    | some id' =>
      rw [lastRecorded, List.findSome?_append, hnew, Option.some_or, Option.some.injEq] at hlast
      obtain ⟨a, o', b, rfl, ho', -⟩ := List.findSome?_eq_some_iff.mp hnew
      exact absurd (ho'.trans (congrArg some hlast)) (h.recordedId?_ne o' (by simp))
  · intro hnone
    have hplanned : Planned cfg id kind expected older := h.of_append.notes.1
    obtain ⟨outcome, result, before, rfl⟩ := hplanned.completion
    exact (lastRecorded_append hnone).trans (lastRecorded_cons rfl)

/-- All SETs of an entry were started before its plan. -/
lemma Consistent.mem_older {newer older : List (Obs ρ)} {id : ℕ} {kind : ControlKind}
    {expected : SpeakerState}
    (h : Consistent env cfg (newer ++ .planStarted id kind expected :: older))
    {kind' : ControlKind} {attempt : ℕ} {request : List UInt8}
    (hset : .set id kind' attempt request ∈
      calls (newer ++ .planStarted id kind expected :: older)) :
    .set id kind' attempt request ∈ calls older := by
  have hplanned : Planned cfg id kind expected older := h.of_append.notes.1
  obtain ⟨outcome, result, before, rfl⟩ := hplanned.completion
  obtain ⟨reads, remaining, hmem⟩ := mem_calls.mp hset
  rcases List.mem_append.mp hmem with hnew | hold
  · obtain ⟨a, b, rfl⟩ := List.append_of_mem hnew
    rw [List.append_assoc] at h
    have hstart : StartOk env reads (.set id kind' attempt request) _ := h.of_append.entries.1
    refine absurd ?_ (hstart.unfinished id rfl)
    exact ⟨.completed id outcome result, by simp, rfl⟩
  · rcases List.mem_cons.mp hold with hold | hold
    · cases hold
    · exact mem_calls.mpr ⟨reads, remaining, hold⟩

/-- The SETs of the entry whose plan is in force agree with the plan, unless a `turn_off` wrote
another source than the cached one. -/
lemma Consistent.agrees_iff {log : List (Obs ρ)} (h : Consistent env cfg log) {id : ℕ}
    {kind : ControlKind} {expected : SpeakerState}
    (hplan : lastPlan log = some (id, kind, expected)) :
    kind.isSource = true ∧ (∃ attempt request, .set id kind attempt request ∈ calls log) ∧
      ∀ kind' attempt request, .set id kind' attempt request ∈ calls log →
        (Agrees kind request expected ↔ cfg.KeepsSource kind expected) := by
  obtain ⟨newer, older, rfl, -⟩ := lastPlan_eq_some_iff.mp hplan
  have hplanned : Planned cfg id kind expected older := h.of_append.notes.1
  obtain ⟨hsource, -, speaker, command, request, rfl, hvalue, hrequest, rfl, hne, hall⟩ := hplanned
  refine ⟨hsource, ?_, ?_⟩
  · obtain ⟨call, hcall⟩ := List.exists_mem_of_ne_nil _ hne
    obtain ⟨attempt, rfl⟩ := hall call hcall
    obtain ⟨reads, remaining, hmem⟩ := mem_calls.mp (mem_sets.mp hcall).1
    exact ⟨attempt, request, mem_calls.mpr ⟨reads, remaining, by simp [hmem]⟩⟩
  · intro kind' attempt request' hset
    obtain ⟨attempt', heq⟩ := hall _ (mem_sets.mpr ⟨h.mem_older hset, _, _, _, rfl⟩)
    cases heq
    rw [agrees_expectedState_iff hrequest hvalue]
    cases command <;> first | exact Iff.rfl | simp [Config.KeepsSource, Command.kind]

/-- Agreement of a source command, spelled out. -/
lemma agrees_of_source {kind : ControlKind} (hk : kind.isSource = true) {request : List UInt8}
    {expected : SpeakerState} : Agrees kind request expected ↔
      ∃ status, decodeSourceValue (requestValue request) = .ok status ∧
        expected.powerOn = some status.powerOn ∧ expected.source = some status.source := by
  rw [Agrees, if_pos hk]

/-- A `verified` field tells of the entry it is written for if and only if nothing has superseded
the plan. -/
lemma attributed_iff_unsuperseded {earlier : List (Obs ρ)} (h : Consistent env cfg earlier) {id : ℕ}
    {value : Bool} (hw : WriteOk id value earlier) :
    Attributed id value earlier ↔ Unsuperseded cfg value earlier := by
  constructor
  · rintro ⟨⟨kind, expected, hplan, -⟩, hconfirmed⟩
    have hagrees := (h.agrees_iff hplan).2.2
    obtain ⟨newer, older, rfl, hnewer⟩ := lastPlan_eq_some_iff.mp hplan
    refine .intro newer id kind expected older hnewer (h.lastRecorded_eq_iff.mp hw.recorded) ?_
    intro hvalue
    obtain ⟨reason, polled, r, time, n, reads, remaining, o, kind', attempt, request, status,
      written, hsplit, hcalls, hr, hset, hwritten, hpower, hsource⟩ := hconfirmed hvalue
    have hmem : .set id kind' attempt request ∈
        calls (newer ++ .planStarted id kind expected :: older) := by
      obtain ⟨reads', remaining', hstarted⟩ := mem_calls.mp hset
      rw [hsplit]
      exact mem_calls.mpr ⟨reads', remaining', by simp [hstarted]⟩
    rw [← hagrees kind' attempt request hmem, agrees_of_source (h.agrees_iff hplan).1]
    -- the GET that ended last is the one that confirmed the plan
    have hconf := hw.confirmed hvalue
    rw [hsplit] at hconf hplan
    generalize hrest : n ++ Obs.started reads (.sourceGet reason) remaining :: o = rest
      at hconf hplan
    cases hconf with
    | intro _ _ _ _ status' n' reads' remaining' o' id' kind'' expected' hr' hn' hplan' hp hs =>
      rw [hr] at hr'
      cases hr'
      rw [lastPlan_cons rfl,
        lastPlan_append fun o ho => Obs.plan?_of_isProducer (hn' o ho), lastPlan_cons rfl,
        hplan'] at hplan
      cases hplan
      exact ⟨written, hwritten, by rw [hp, hpower], by rw [hs, hsource]⟩
  · rintro ⟨newer, id', kind, expected, older, hplans, hnewer, hkeeps⟩
    have hrecorded := hw.recorded
    rw [h.lastRecorded_eq_iff.mpr hnewer, Option.some.injEq] at hrecorded
    subst hrecorded
    have hplan : lastPlan (newer ++ .planStarted id' kind expected :: older) =
        some (id', kind, expected) := lastPlan_eq_some_iff.mpr ⟨newer, older, rfl, hplans⟩
    obtain ⟨hk, hsets, hagrees⟩ := h.agrees_iff hplan
    refine ⟨⟨kind, expected, hplan, hk⟩, ?_⟩
    intro hvalue
    have hconf := hw.confirmed hvalue
    generalize newer ++ Obs.planStarted id' kind expected :: older = earlier at *
    cases hconf with
    | intro reason polled r time status n reads remaining o id'' kind'' expected'' hr hn hplan' hp
        hs =>
      rw [lastPlan_cons rfl,
        lastPlan_append fun o ho => Obs.plan?_of_isProducer (hn o ho), lastPlan_cons rfl,
        hplan'] at hplan
      cases hplan
      obtain ⟨attempt, request, hset⟩ := (h.of_cons.of_append.of_cons.agrees_iff hplan').2.1
      have hmem : Call.set id' kind attempt request ∈ calls (Obs.sourceEnded reason polled r time ::
          (n ++ .started reads (.sourceGet reason) remaining :: o)) := by
        obtain ⟨reads', remaining', hstarted⟩ := mem_calls.mp hset
        exact mem_calls.mpr ⟨reads', remaining', by simp [hstarted]⟩
      obtain ⟨written, hwritten, hpower, hsource⟩ :=
        (agrees_of_source hk).mp ((hagrees kind attempt request hmem).mpr (hkeeps hvalue))
      rw [hp, Option.some.injEq] at hpower
      rw [hs, Option.some.injEq] at hsource
      exact ⟨reason, polled, r, time, n, reads, remaining, o, kind, attempt, request, status,
        written, rfl, calls_eq_nil_of_isProducer hn, hr, hset, hwritten, hpower.symm,
        hsource.symm⟩

/-- In every run, a `verified` field tells of the command it is written into if and only if no other
entry was accepted or completed since the plan in force was started, and, for a `True`, the plan
is not that of a `turn_off` which wrote another source than the cached one. -/
theorem attributed_iff (h : Transition.Reachable (step env cfg) {} s) :
    (∀ id value earlier, s.log = .verified id value :: earlier → s.lastId = some id) ∧
    ∀ later id value earlier, s.log = later ++ .verified id value :: earlier →
      (Attributed id value earlier ↔ Unsuperseded cfg value earlier) := by
  have hconsistent : Consistent env cfg s.log :=
    ⟨(Scheduled.of_reachable h).entries, each_note_of_reachable h⟩
  constructor
  · intro id value earlier hlog
    have hwrite : WriteOk id value earlier := by
      rw [hlog] at hconsistent
      exact hconsistent.notes.1
    rw [(Recorded.of_reachable h).1.last, hlog, lastRecorded_cons rfl]
    exact hwrite.recorded
  · intro later id value earlier hlog
    rw [hlog] at hconsistent
    exact attributed_iff_unsuperseded hconsistent.of_append.of_cons hconsistent.of_append.notes.1

/-- A turn_on whose GET reads back what it wrote: it is verified as itself. -/
theorem attributed_turnOn : ∃ s : Runtime Transcript,
    Transition.Reachable (step .slow .ofOptions) {} s ∧
    ∃ earlier, s.log = .verified 0 true :: earlier ∧ Attributed 0 true earlier := by
  have hrun : (Transition.run (step .slow .ofOptions)
      [.start, .submit .turnOn, .run, .run, .run, .run, .reply (Transcript.status 0x11), .run,
        .reply (Transcript.source 0x0B)] {}).any
      (fun s => s.log.take 4 = [.verified 0 true,
        .sourceEnded .verification true (Transcript.source 0x0B) 10,
        .started 10 (.sourceGet .verification) none,
        .planStarted 0 .turnOn { powerOn := some true, source := some .opt }]) = true := by
    decide +kernel
  obtain ⟨s, hs, hs'⟩ := Transition.exists_reachable_of_run hrun
  have htake := of_decide_eq_true hs'
  have hlog := List.take_append_drop 4 s.log
  rw [htake] at hlog
  refine ⟨s, hs, _, hlog.symm, ((attributed_iff hs).2 [] _ _ _ hlog.symm).mpr ?_⟩
  refine .intro [_, _] 0 .turnOn _ _ (by simp [Obs.plan?]) (by simp [Obs.recordedId?]) ?_
  intro _ hoff
  cases hoff

/-- A volume command that was queued while a turn_on was in flight is marked as verified by the
plan of the turn_on. -/
theorem not_attributed_setVolume : ∃ s : Runtime Transcript,
    Transition.Reachable (step .slow .ofOptions) {} s ∧
    ∃ earlier, s.log = .verified 1 true :: earlier ∧ ¬ Attributed 1 true earlier := by
  have hrun : (Transition.run (step .slow .ofOptions)
      [.start, .submit .turnOn, .run, .run, .run, .run, .submit (.setVolume (1 / 2)),
        .reply (Transcript.status 0x11), .run, .run, .run, .reply (Transcript.status 0x11), .run,
        .reply (Transcript.source 0x0B)] {}).any
      (fun s => s.log.head? = some (.verified 1 true) ∧
        (lastPlan s.log.tail).map Prod.fst = some 0) = true := by
    decide +kernel
  obtain ⟨s, hs, hs'⟩ := Transition.exists_reachable_of_run hrun
  obtain ⟨hhead, hplan⟩ := of_decide_eq_true hs'
  obtain ⟨earlier, hlog⟩ := List.head?_eq_some_iff.mp hhead
  refine ⟨s, hs, earlier, hlog, ?_⟩
  rintro ⟨⟨kind, expected, hown, -⟩, -⟩
  rw [hlog, List.tail_cons, hown] at hplan
  cases hplan

end Runtime

end KefLsx
