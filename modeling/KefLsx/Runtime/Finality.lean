import KefLsx.Runtime.Queue

/-!
# The last command at rest

`snapshot.last_command` is written when an entry is accepted and when one is completed. Once nothing
is queued or active, it should be the completed record of the entry accepted last. It is, but where
that entry was let go without a completion: because all its callers had been cancelled, or because
the encoder of its request raised.
-/

namespace KefLsx

namespace Ledger

variable {ρ : Type} {env : Env} {cfg : Config} {l : Ledger ρ}

/-- The entry that the last command is the record of, and when it was completed. -/
def mark (l : Ledger ρ) : Option (ℕ × Option DateTime) :=
  l.snapshot.lastCommand.map fun result => (result.id, result.completedAt)

lemma mark_setVerified {value : Bool} : (l.setVerified value).mark = l.mark := by
  cases hlast : l.snapshot.lastCommand <;> simp [setVerified, mark, hlast]

lemma mark_scheduleNextVerification : (l.scheduleNextVerification env cfg).mark = l.mark := by
  unfold scheduleNextVerification
  dsimp only
  split
  · by_cases hawaits : l.awaitsVerification = true
    · rw [if_pos hawaits]
      exact mark_setVerified
    · rw [if_neg hawaits]
      rfl
  · rfl

lemma mark_completeVerification : (l.completeVerification env cfg).mark = l.mark := by
  unfold completeVerification
  split
  · exact mark_setVerified
  · exact mark_scheduleNextVerification

lemma mark_verify {reason : Reason} : (l.verify env cfg reason).mark = l.mark := by
  have htick : (if l.verification.due.isSome then l.tick else l).mark = l.mark := by
    split <;> rfl
  unfold verify
  dsimp only
  split
  · exact mark_completeVerification.trans htick
  · exact htick

end Ledger

namespace Runtime

variable {ρ : Type} {env : Env} {cfg : Config} {s t : Runtime ρ} {e : Event ρ}
  {job : Control}

/-! ### What a step does to the record -/

lemma mark_stateExchangeFailed {reason : Reason} {r : ρ} {error : LsxError} :
    (s.stateExchangeFailed env cfg reason r error).mark = s.mark := by
  obtain ⟨l, hl, heq⟩ : ∃ l : Ledger ρ, _ ∧
    (s.stateExchangeFailed env cfg reason r error).toLedger = _ := stateExchangeFailed_eq
  have hcounted : l.mark = s.mark := by
    rcases hl with ⟨-, rfl⟩ | ⟨-, rfl⟩ <;> rfl
  rw [heq]
  split
  · exact Ledger.mark_scheduleNextVerification.trans hcounted
  · exact hcounted

lemma mark_stateExchangeDone {reason : Reason} {r : ρ} {status : SourceStatus} :
    (s.stateExchangeDone env cfg reason r status).mark = s.mark := by
  rw [stateExchangeDone_eq]
  exact Ledger.mark_verify.trans rfl

/-- The numbers of the entries that have not been done, the one to be done last at the end. -/
def liveIds (s : Runtime ρ) : List ℕ := s.live.map Control.id

lemma liveIds_of_worker {w : Worker} (hw : s.worker = some w) :
    s.liveIds = (w.job?.toList ++ s.controls).map Control.id := by
  rw [liveIds, live, activeControl_of_worker hw]

/-- The entry that a piece of the worker lets go without a completion: its callers have all been
cancelled, or the encoder of its request raises. -/
def dropped? (env : Env) (cfg : Config) (s : Runtime ρ) (e : Event ρ) : Option Control :=
  match e, s.worker with
  | .run, some (.control job) =>
    if job.waiters.all fun f => (s.controlFutures f).isCancelled then some job else none
  | .run, some (.attempt job _) =>
    if s.closing = false ∧ s.now env < job.deadline then
      match cfg.request s.snapshot.speaker job.command with
      | .error _ => some job
      | .ok _ => none
    else none
  | _, _ => none

lemma dropped?_of_skipped (hw : s.worker = some (.control job))
    (hall : ∀ f ∈ job.waiters, (s.controlFutures f).isCancelled = true) :
    s.dropped? env cfg .run = some job := by
  simp only [dropped?, hw]
  exact if_pos (List.all_eq_true.mpr hall)

lemma dropped?_of_crashed {failure : Option Failure} {error : ValueError}
    (hw : s.worker = some (.attempt job failure)) (hc : s.closing = false)
    (hd : s.now env < job.deadline)
    (hq : cfg.request s.snapshot.speaker job.command = .error error) :
    s.dropped? env cfg .run = some job := by
  simp only [dropped?, hw, hq]
  exact if_pos ⟨hc, hd⟩

/-- What a step does to the record of the last command and to the entries that have not been
done. -/
inductive Recording (env : Env) (cfg : Config) (s : Runtime ρ) (e : Event ρ) (t : Runtime ρ) :
    Prop where
  | kept (hmark : t.mark = s.mark) (hlive : t.liveIds = s.liveIds)
      (hcount : t.acceptedCount = s.acceptedCount) (hclosing : t.closing = s.closing)
  | accepted (hmark : t.mark = some (s.acceptedCount, none))
      (hlive : t.liveIds = s.liveIds ++ [s.acceptedCount])
      (hcount : t.acceptedCount = s.acceptedCount + 1) (hclosing : t.closing = s.closing)
  | completed (job : Control) (time : DateTime) (hmark : t.mark = some (job.result.id, some time))
      (hactive : s.activeControl = some job) (hlive : t.liveIds = s.controls.map Control.id)
      (hcount : t.acceptedCount = s.acceptedCount) (hclosing : t.closing = s.closing)
      (hend : ∃ outcome result, .completed job.id outcome result ∈ t.log)
  | dropped (job : Control) (hdropped : s.dropped? env cfg e = some job) (hmark : t.mark = s.mark)
      (hactive : s.activeControl = some job) (hlive : t.liveIds = s.controls.map Control.id)
      (hcount : t.acceptedCount = s.acceptedCount) (hclosing : t.closing = s.closing)
  | closed (hmark : t.mark = s.mark) (hclosing : t.closing = true)

/-- The worker goes on with the entry that it holds, or without one. -/
lemma Recording.moved {w w' : Worker} (hw : s.worker = some w) (hw' : t.worker = some w')
    (hjob : w'.job?.map Control.id = w.job?.map Control.id) (hmark : t.mark = s.mark := by rfl)
    (hframed : Framed s t := by constructor <;> rfl) : Recording env cfg s e t := by
  refine .kept hmark ?_ hframed.acceptedCount hframed.closing
  rw [liveIds_of_worker hw, liveIds_of_worker hw', List.map_append, List.map_append,
    hframed.controls]
  cases hj : w.job? <;> cases hj' : w'.job? <;> simp_all

/-- A step of a producer, or of the shutdown. -/
lemma Recording.undisturbed (hworker : t.worker = s.worker := by rfl)
    (hframed : t.controls = s.controls := by rfl) (hmark : t.mark = s.mark := by rfl)
    (hcount : t.acceptedCount = s.acceptedCount := by rfl)
    (hclosing : t.closing = s.closing := by rfl) : Recording env cfg s e t := by
  refine .kept hmark ?_ hcount hclosing
  rw [liveIds, liveIds, live, live, activeControl, activeControl, hworker, hframed]

/-- The worker completes the entry that it holds. -/
lemma Recording.finished {w : Worker} (hw : s.worker = some w) (hj : w.job? = some job)
    (hw' : t.worker = some .loop) {time : DateTime}
    (hmark : t.mark = some (job.result.id, some time)) (hframed : Framed s t)
    (hend : ∃ outcome result, .completed job.id outcome result ∈ t.log) :
    Recording env cfg s e t := by
  refine .completed job time hmark ((activeControl_of_worker hw).trans hj) ?_
    hframed.acceptedCount hframed.closing hend
  rw [liveIds_of_worker hw', hframed.controls]
  rfl

lemma Recording.of_controlFailed {s' : Runtime ρ} {w : Worker} {failure : Failure}
    (hw : s.worker = some w) (hj : w.job? = some job) (hframed : Framed s s') :
    Recording env cfg s e (s'.controlFailed env cfg job failure) := by
  have hmark : (s'.controlFailed env cfg job failure).mark =
      some (job.result.id, some (s'.wall env)) := by
    rw [Ledger.mark, lastCommand_controlFailed]
    rfl
  obtain ⟨l, hnoted, hlog, -⟩ :
    ∃ l : Ledger ρ, Ledger.Noted l (s'.controlFailed env cfg job failure).toLedger ∧ _ ∧ _ :=
    exists_noted_controlFailed
  obtain ⟨notes, hnotes, -⟩ := hnoted.notes
  have hend : ∃ outcome result, .completed job.id outcome result ∈
      (s'.controlFailed env cfg job failure).log := by
    rw [hnotes, hlog]
    exact ⟨_, _, List.mem_append_right _ List.mem_cons_self⟩
  exact .finished hw hj rfl hmark (hframed.trans framed_controlFailed) hend

lemma Recording.of_controlAcknowledged {first : Option Failure} {request : List UInt8} {r : ρ}
    (hw : s.worker = some (.setting job first request)) :
    Recording env cfg s e (s.controlAcknowledged env cfg job first r) := by
  obtain ⟨l, time, wall, hnoted, hlog, -, -, hlast⟩ :
    ∃ (l : Ledger ρ) (time : Time) (wall : DateTime),
      Ledger.Noted l (s.controlAcknowledged env cfg job first r).toLedger ∧ _ ∧ _ ∧ _ ∧ _ :=
    exists_noted_controlAcknowledged
  have hmark : (s.controlAcknowledged env cfg job first r).mark =
      some (job.result.id, some wall) := by
    rw [Ledger.mark, hlast]
    rfl
  obtain ⟨notes, hnotes, -⟩ := hnoted.notes
  have hend : ∃ outcome result, .completed job.id outcome result ∈
      (s.controlAcknowledged env cfg job first r).log := by
    rw [hnotes, hlog]
    exact ⟨_, _, List.mem_append_right _ List.mem_cons_self⟩
  exact .finished hw rfl rfl hmark framed_controlAcknowledged hend

variable [Client ρ]

lemma recording_of_rule (h : Rule env cfg s e t)
    (hclose : s.closeTask ≠ .notStarted → s.closing = true) : Recording env cfg s e t := by
  cases h with
  | started hw | startedClosing hw =>
    have hinactive : s.activeControl = none := by rw [activeControl, hw, Option.bind_none]
    refine .kept rfl ?_ rfl rfl
    rw [liveIds, liveIds, live, live, hinactive]
    rfl
  | coalesced r job hi hc hj =>
    obtain ⟨-, -, hlast⟩ := coalescingEntry_eq_some hj
    refine .kept rfl ?_ rfl rfl
    show (s.activeControl.toList ++ (s.controls.dropLast ++ _)).map Control.id = _
    rw [liveIds, live, hlast]
    simp
  | accepted r =>
    refine .accepted rfl ?_ rfl rfl
    show (s.activeControl.toList ++ (s.controls ++ [_])).map Control.id = _
    simp [liveIds, live, newEntry]
  | closeBegun =>
    obtain ⟨-, hledger, -, hclosing, -⟩ := frame_beginClose (s := s)
    exact .closed (by rw [hledger]; rfl) hclosing
  | joined w hw he hct =>
    exact .closed rfl (hclose (by rcases hct with hct | hct <;> simp [hct]))
  | workerCancelled w hw hr he hct => exact .closed rfl (hclose (by simp [hct]))
  | workerBegun hw | workerReturned hw | verificationStarted hw | pollStarted hw
  | maintenanceStarted hw | maintenanceSkipped hw | waited hw => exact .moved hw rfl rfl
  | woken timeout hw | timedOut timeout hw => exact .moved hw rfl rfl
  | controlSelected job rest hw hc hq =>
    refine .kept rfl ?_ rfl rfl
    rw [liveIds_of_worker hw, hq]
    rfl
  | stateFailed reason r error hw =>
    exact .moved hw rfl rfl mark_stateExchangeFailed framed_stateExchangeFailed
  | stateDone reason r status hw =>
    exact .moved hw rfl rfl mark_stateExchangeDone framed_stateExchangeDone
  | maintenanceFailed r _ hw | maintenanceDone r _ hw => exact .moved hw rfl rfl
  | controlSkipped job hw hall =>
    exact .dropped job (dropped?_of_skipped hw hall) rfl (activeControl_of_worker hw) rfl rfl rfl
  | controlExpired job hw =>
    exact .finished hw rfl rfl rfl (framed_record.trans (framed_finishControlError.trans
      framed_goto)) ⟨_, _, List.mem_cons_self⟩
  | volumeGetStarted job hw | attemptsBegun job hw => exact .moved hw rfl rfl
  | volumeGetFailed job r error hw =>
    exact .finished hw rfl rfl rfl framed_volumeGetFailed ⟨_, _, List.mem_cons_self⟩
  | volumeGetDone job r status hw =>
    refine .kept rfl ?_ rfl rfl
    rw [liveIds_of_worker hw]
    rfl
  | attemptsTimedOut job s' hw hs =>
    exact .finished hw rfl rfl rfl (hs.framed.trans framed_controlTimedOut)
      ⟨_, _, List.mem_cons_self⟩
  | attemptsLeft job failure s' hw hs => exact .of_controlFailed hw rfl hs.framed
  | workerCrashed job failure error hw hc hd hq =>
    exact .dropped job (dropped?_of_crashed hw hc hd hq) rfl (activeControl_of_worker hw) rfl rfl
      rfl
  | setStarted job failure request hw => exact .moved hw rfl rfl
  | setRejected job first request r error hw =>
    exact .of_controlFailed hw rfl (by constructor <;> rfl)
  | firstFailed job request r error hw => exact .moved hw rfl rfl
  | secondFailed job first request r error hw =>
    exact .of_controlFailed hw rfl (by constructor <;> rfl)
  | setAcknowledged job first request r hw => exact .of_controlAcknowledged hw
  | slept job failure delay hw => exact .moved hw rfl rfl
  | _ => exact .undisturbed

/-! ### The record at rest -/

/-- Nothing is queued and no entry is active. -/
def AtRest (s : Runtime ρ) : Prop := s.controls = [] ∧ s.activeControl = none

/-- The last command, if there is one, is the completed record of the entry accepted last. -/
def Final (s : Runtime ρ) : Prop :=
  ∀ result, s.snapshot.lastCommand = some result →
    result.id + 1 = s.acceptedCount ∧ result.completedAt ≠ none

omit [Client ρ] in
lemma final_of_mark {time : DateTime} {id : ℕ} (hmark : s.mark = some (id, some time))
    (hnewest : id + 1 = s.acceptedCount) : Final s := by
  intro result hresult
  rw [Ledger.mark, hresult, Option.map_some, Option.some.injEq, Prod.mk.injEq] at hmark
  obtain ⟨rfl, htime⟩ := hmark
  exact ⟨hnewest, by simp [htime]⟩

omit [Client ρ] in
lemma Final.congr (h : Final s) (hmark : t.mark = s.mark)
    (hcount : t.acceptedCount = s.acceptedCount) : Final t := by
  intro result hresult
  have hsome : s.mark = some (result.id, result.completedAt) := by
    rw [← hmark, Ledger.mark, hresult, Option.map_some]
  obtain ⟨result', hresult', hsame⟩ := Option.map_eq_some_iff.mp hsome
  obtain ⟨hid, htime⟩ := Prod.mk.inj hsame
  rw [hcount, ← hid, ← htime]
  exact h result' hresult'

/-- The step does not let the entry go that was accepted last. -/
def KeepsNewest (env : Env) (cfg : Config) (s : Runtime ρ) (e : Event ρ) : Prop :=
  ∀ job ∈ s.dropped? env cfg e, job.id + 1 ≠ s.acceptedCount

instance (env : Env) (cfg : Config) (s : Runtime ρ) (e : Event ρ) :
    Decidable (KeepsNewest env cfg s e) :=
  inferInstanceAs (Decidable (∀ job ∈ s.dropped? env cfg e, job.id + 1 ≠ s.acceptedCount))

/-- The entry that will be done last is the one that was accepted last; when all are done, its
record is final. -/
def Concluding (s : Runtime ρ) : Prop :=
  s.closing = true ∨ match s.liveIds.getLast? with
    | some id => id + 1 = s.acceptedCount
    | none => Final s

omit [Client ρ] in
/-- An entry is done: if another follows, the last one is still the same. -/
lemma Concluding.removed (h : Concluding s) (hactive : s.activeControl = some job)
    (hlive : t.liveIds = s.controls.map Control.id) (hcount : t.acceptedCount = s.acceptedCount)
    (hclosing : t.closing = s.closing)
    (hfinal : s.controls = [] → job.id + 1 = s.acceptedCount → Final t) : Concluding t := by
  rcases h with hc | h
  · exact .inl (hclosing.trans hc)
  refine .inr ?_
  have hids : s.liveIds = job.id :: s.controls.map Control.id := by
    rw [liveIds, live_of_active hactive, List.map_cons]
  rw [hids] at h
  rw [hlive, hcount]
  cases hq : s.controls with
  | nil =>
    rw [hq] at h
    exact hfinal hq h
  | cons next rest =>
    rw [hq, List.map_cons, List.getLast?_cons_cons] at h
    exact h

lemma Concluding.step (h : Concluding s) (hs : Scheduled env cfg s)
    (hkeeps : KeepsNewest env cfg s e) (hrec : Recording env cfg s e t) : Concluding t := by
  cases hrec with
  | kept hmark hlive hcount hclosing =>
    rcases h with hc | h
    · exact .inl (hclosing.trans hc)
    · refine .inr ?_
      rw [hlive]
      split at h
      · rw [hcount]
        exact h
      · exact h.congr hmark hcount
  | accepted hmark hlive hcount hclosing =>
    refine .inr ?_
    rw [hlive, List.getLast?_concat]
    exact hcount.symm
  | completed job time hmark hactive hlive hcount hclosing =>
    refine h.removed hactive hlive hcount hclosing fun _ hnewest => ?_
    obtain ⟨submitted, hresult⟩ := (hs.admitted job (mem_live_of_active hactive)).result
    rw [hresult] at hmark
    exact final_of_mark hmark (hcount ▸ hnewest)
  | dropped job hdropped hmark hactive hlive hcount hclosing =>
    exact h.removed hactive hlive hcount hclosing fun _ hnewest =>
      absurd hnewest (hkeeps job hdropped)
  | closed hmark hclosing => exact .inl hclosing

lemma concluding_of_reaches
    (h : Transition.Reaches (step env cfg) (KeepsNewest env cfg) {} s) : Concluding s := by
  refine h.invariant (I := Concluding) (.inr (by rintro result ⟨⟩)) ?_
  intro s t e hr hs hkeeps hst
  exact hs.step (.of_reachable hr.reachable) hkeeps
    (recording_of_rule (.of_step hst) (closing_iff hr.reachable).mpr)

/-! ### Letting go of the newest entry -/

/-- As long as an entry has not been done, it has no completed record, and once an entry has been
accepted, there is a record. -/
def Undated (s : Runtime ρ) : Prop :=
  s.closing = true ∨ (s.mark = none → s.acceptedCount = 0) ∧
    ∀ id ∈ s.liveIds, ∀ time, s.mark ≠ some (id, some time)

lemma Undated.step (h : Undated s) (hs : Scheduled env cfg s) (hrec : Recording env cfg s e t) :
    Undated t := by
  cases hrec with
  | kept hmark hlive hcount hclosing =>
    rw [Undated, hmark, hlive, hcount, hclosing]
    exact h
  | accepted hmark =>
    refine .inr ⟨?_, ?_⟩ <;> rw [hmark]
    · rintro ⟨⟩
    · rintro id _ time ⟨⟩
  | completed job time hmark hactive hlive hcount hclosing =>
    refine .inr ⟨?_, ?_⟩ <;> rw [hmark]
    · rintro ⟨⟩
    · intro id hid time' heq
      obtain ⟨submitted, hresult⟩ := (hs.admitted job (mem_live_of_active hactive)).result
      rw [hlive] at hid
      obtain ⟨next, hnext, rfl⟩ := List.mem_map.mp hid
      have hlt := hs.active_lt hactive hnext
      rw [hresult, Option.some.injEq, Prod.mk.injEq] at heq
      exact hlt.ne heq.1
  | dropped job hdropped hmark hactive hlive hcount hclosing =>
    rcases h with hc | ⟨hnone, hlater⟩
    · exact .inl (hclosing.trans hc)
    refine .inr ⟨?_, ?_⟩ <;> rw [hmark]
    · rwa [hcount]
    · intro id hid
      refine hlater id ?_
      rw [liveIds, live_of_active hactive]
      exact List.mem_cons_of_mem _ (hlive ▸ hid)
  | closed hmark hclosing => exact .inl hclosing

lemma undated_of_reachable (h : Transition.Reachable (step env cfg) {} s) : Undated s := by
  refine h.invariant (I := Undated) (.inr ⟨fun _ => rfl, by rintro id ⟨⟩⟩) ?_
  intro s t e hr hs _ hst
  exact hs.step (.of_reachable hr) (recording_of_rule (.of_step hst) (closing_iff hr).mpr)

/-- What the worker does with an entry that it lets go. -/
lemma step_of_dropped? (hdropped : s.dropped? env cfg e = some job)
    (hst : step env cfg s e = some t) : s.activeControl = some job ∧ t.activeControl = none ∧
      t.mark = s.mark ∧ Framed s t := by
  unfold dropped? at hdropped
  split at hdropped
  · rename_i job' hw
    simp only [Option.ite_none_right_eq_some, Option.some.injEq] at hdropped
    obtain ⟨hall, rfl⟩ := hdropped
    have ht : (s.record (·.emit (.skipped job'.id))).goto .loop = t := by
      simpa [step, hw, stepRun, asyncControl, hall] using hst
    subst ht
    exact ⟨activeControl_of_worker hw, rfl, rfl, framed_record.trans framed_goto⟩
  · rename_i job' failure hw
    split at hdropped
    · rename_i hopen
      split at hdropped
      · rename_i error hq
        cases hdropped
        have ht : ((s.record Ledger.tick).record Ledger.tick).goto (.crashed error) = t := by
          simpa [step, hw, stepRun, asyncAttempt, hopen.1, not_le.mpr hopen.2, hq] using hst
        subst ht
        exact ⟨activeControl_of_worker hw, rfl, rfl,
          framed_record.trans (framed_record.trans framed_goto)⟩
      · cases hdropped
    · cases hdropped
  · cases hdropped

lemma closing_of_dropped? (hs : Scheduled env cfg s) (hdropped : s.dropped? env cfg e = some job) :
    s.closing = false := by
  unfold dropped? at hdropped
  split at hdropped
  · rename_i job' hw
    exact (hs.phase _ hw).1
  · rw [Option.ite_none_right_eq_some] at hdropped
    exact hdropped.1.1
  · cases hdropped

/-- When the entry accepted last is let go, the runtime is at rest, and the record is not final. -/
lemma not_final_of_dropped? (h : Transition.Reachable (step env cfg) {} s)
    (hdropped : s.dropped? env cfg e = some job) (hnewest : job.id + 1 = s.acceptedCount)
    (hst : step env cfg s e = some t) : t.closing = false ∧ AtRest t ∧ ¬ Final t := by
  have hs : Scheduled env cfg s := .of_reachable h
  have hopen := closing_of_dropped? hs hdropped
  obtain ⟨hactive, hfreed, hmark, hframed⟩ := step_of_dropped? hdropped hst
  have hlast : s.controls = [] := by
    refine List.eq_nil_iff_forall_not_mem.mpr fun next hnext => ?_
    have hafter := hs.active_lt hactive hnext
    have hbefore := hs.lt_acceptedCount (mem_live_of_queued hnext)
    omega
  refine ⟨hframed.closing.trans hopen, ⟨hframed.controls.trans hlast, hfreed⟩, ?_⟩
  intro hfinal
  obtain hclosing | ⟨hsome, hundated⟩ := undated_of_reachable h
  · rw [hopen] at hclosing
    cases hclosing
  cases hresult : t.snapshot.lastCommand with
  | none =>
    have hnone : s.mark = none := by rw [← hmark, Ledger.mark, hresult, Option.map_none]
    have hzero := hsome hnone
    omega
  | some result =>
    obtain ⟨hid, htime⟩ := hfinal result hresult
    obtain ⟨time, htime⟩ := Option.ne_none_iff_exists'.mp htime
    have hlive : job.id ∈ s.liveIds := List.mem_map_of_mem (mem_live_of_active hactive)
    refine hundated job.id hlive time ?_
    have hsame : result.id = job.id := by
      rw [hframed.acceptedCount] at hid
      omega
    rw [← hmark, Ledger.mark, hresult, Option.map_some, hsame, htime]

/-- In every run that never lets go of the entry accepted last, the last command of an open runtime
at rest is final; and a step that lets go of it leaves the runtime open, at rest, and with a record
that is not. -/
theorem final_at_rest (env : Env) (cfg : Config) :
    (∀ s : Runtime ρ, Transition.Reaches (step env cfg) (KeepsNewest env cfg) {} s →
      s.closing = false → AtRest s → Final s) ∧
    ∀ (s t : Runtime ρ) (e : Event ρ), Transition.Reachable (step env cfg) {} s →
      step env cfg s e = some t → ¬ KeepsNewest env cfg s e →
      t.closing = false ∧ AtRest t ∧ ¬ Final t := by
  constructor
  · intro s h hopen hrest
    obtain hclosing | hlast := concluding_of_reaches h
    · rw [hopen] at hclosing
      cases hclosing
    have hnobody : s.liveIds = [] := by
      rw [liveIds, live, hrest.1, hrest.2]
      rfl
    rwa [hnobody] at hlast
  · intro s t e h hst hdrops
    simp only [KeepsNewest, Option.mem_def, not_forall, not_not] at hdrops
    obtain ⟨job, hdropped, hnewest⟩ := hdrops
    exact not_final_of_dropped? h hdropped hnewest hst

/-- A select_source is overtaken by a set_volume, of which one caller is cancelled, and both are
acknowledged: the record is the one of the set_volume. -/
theorem final_at_rest_setVolume : ∃ s : Runtime Transcript,
    Transition.Reaches (step .ticking .ofOptions) (KeepsNewest .ticking .ofOptions) {} s ∧
    AtRest s ∧ s.acceptedCount = 2 ∧ s.snapshot.lastCommand.isSome = true ∧ Final s := by
  have hrun : (Transition.run
      (Transition.guarded (step .ticking .ofOptions) fun s e => KeepsNewest .ticking .ofOptions s e)
      [.start, .submit (.selectSource .opt), .submit (.setVolume (1 / 10)),
        .submit (.setVolume (1 / 5)), .cancelCaller 1, .run, .run, .run, .run,
        .reply (Transcript.status 0x11), .run, .run, .run, .reply (Transcript.status 0x11)]
      ({} : Runtime Transcript)).any (fun s => s.closing = false ∧ s.controls = [] ∧
        s.activeControl = none ∧ s.acceptedCount = 2 ∧ s.snapshot.lastCommand.isSome) = true := by
    decide +kernel
  obtain ⟨s, hs, hs'⟩ := Transition.exists_reachable_of_run hrun
  obtain ⟨hopen, hqueue, hactive, hcount, hsome⟩ := of_decide_eq_true hs'
  have hkeeps : Transition.Reaches (step .ticking .ofOptions) (KeepsNewest .ticking .ofOptions) {}
      s := (Transition.Reaches.of_guarded hs).mono fun _ _ => of_decide_eq_true
  exact ⟨s, hkeeps, ⟨hqueue, hactive⟩, hcount, hsome,
    (final_at_rest _ _).1 s hkeeps hopen ⟨hqueue, hactive⟩⟩

/-- The only caller of a volume_up is cancelled before it is selected: nothing is queued or active,
and the record is still the one of the submission. -/
theorem not_final_at_rest_cancelled : ∃ (s : Runtime Transcript) (result : CommandResult),
    Transition.Reachable (step .ticking .ofOptions) {} s ∧ s.closing = false ∧ AtRest s ∧
    s.snapshot.lastCommand = some result ∧ result.completedAt = none ∧ ¬ Final s := by
  have hrun : (Transition.run (step .ticking .ofOptions)
      [.start, .submit .volumeUp, .cancelCaller 0, .run, .run, .run]
      ({} : Runtime Transcript)).any (fun s => s.closing = false ∧ s.controls = [] ∧
        s.activeControl = none ∧ s.snapshot.lastCommand =
          some { id := 0, command := .volumeUp, submittedAt := 0 }) = true := by
    decide +kernel
  obtain ⟨s, hs, hs'⟩ := Transition.exists_reachable_of_run hrun
  obtain ⟨hopen, hqueue, hactive, hlast⟩ := of_decide_eq_true hs'
  exact ⟨s, _, hs, hopen, ⟨hqueue, hactive⟩, hlast, rfl, fun hfinal => (hfinal _ hlast).2 rfl⟩

end Runtime

end KefLsx
