import KefLsx.Core.History
import KefLsx.Runtime.Effects

/-!
# The service of the queue

The main invariant of the runtime, `Scheduled`: which entries are alive, in which order they are
served, and what the log holds about the entry that the worker serves at each of its program
counters. Together with what it says about every entry of the log (`EntryOk`), it is proved once,
by cases on the transitions, and gives the order and the budget of the exchanges and the truth of
the results.
-/

namespace KefLsx

/-! ### Reading the log -/

namespace Obs

variable {ρ : Type}

def call? : Obs ρ → Option Call
  | started _ call _ => some call
  | _ => none

def acceptedId? : Obs ρ → Option ℕ
  | accepted id _ _ => some id
  | _ => none

/-- The answer to a SET of the entry `id`. -/
def setReply? (id : ℕ) : Obs ρ → Option ρ
  | setEnded id' _ reply _ => if id' = id then some reply else none
  | _ => none

/-- The queue entry that is being served. -/
def subject? : Obs ρ → Option ℕ
  | started _ call _ => call.owner
  | volumeEnded id _ _ | setEnded id _ _ _ | skipped id | completed id _ _ => some id
  | _ => none

/-- The service of the entry `id` ends. -/
def Ends (id : ℕ) : Obs ρ → Prop
  | skipped id' | completed id' _ _ => id' = id
  | _ => False

end Obs

namespace Log

variable {ρ : Type} {id : ℕ} {new log : List (Obs ρ)}

/-- The exchanges started so far, newest first. -/
def calls (log : List (Obs ρ)) : List Call := log.filterMap Obs.call?

/-- The volume GETs started for an entry. -/
def gets (id : ℕ) (log : List (Obs ρ)) : List Call :=
  (calls log).filter fun call =>
    match call with
    | .volumeGet id' _ => id' = id
    | _ => false

/-- The SETs started for an entry. -/
def sets (id : ℕ) (log : List (Obs ρ)) : List Call :=
  (calls log).filter fun call =>
    match call with
    | .set id' _ _ _ => id' = id
    | _ => false

/-- The answers to the SETs of an entry, newest first. -/
def setReplies (id : ℕ) (log : List (Obs ρ)) : List ρ := log.filterMap (Obs.setReply? id)

/-- The entries accepted so far, newest first. -/
def acceptedIds (log : List (Obs ρ)) : List ℕ := log.filterMap Obs.acceptedId?

/-- The entry has been skipped or completed. -/
def Ended (id : ℕ) (log : List (Obs ρ)) : Prop := ∃ o ∈ log, o.Ends id

lemma Ended.append (h : Ended id log) (new : List (Obs ρ)) : Ended id (new ++ log) := by
  obtain ⟨o, ho, hends⟩ := h
  exact ⟨o, List.mem_append_right new ho, hends⟩

lemma Ended.cons {o : Obs ρ} (h : Ended id log) : Ended id (o :: log) := h.append [o]

/-- An entry that ends nothing may be taken off. -/
lemma Ended.of_cons {o : Obs ρ} (h : Ended id (o :: log)) (ho : ¬ o.Ends id) : Ended id log := by
  obtain ⟨o', hmem, hends⟩ := h
  rcases List.mem_cons.mp hmem with rfl | hmem
  · exact absurd hends ho
  · exact ⟨o', hmem, hends⟩

lemma subject?_of_ends {o : Obs ρ} (h : o.Ends id) : o.subject? = some id := by
  cases o with
  | skipped | completed => exact congrArg some h
  | _ => cases h

lemma calls_append (hnew : ∀ o ∈ new, o.call? = none) : calls (new ++ log) = calls log := by
  rw [calls, List.filterMap_append, List.filterMap_eq_nil_iff.mpr hnew]
  rfl

lemma sets_eq_of_calls {log' : List (Obs ρ)} (h : calls log' = calls log) :
    sets id log' = sets id log := by
  rw [sets, sets, h]

lemma gets_eq_of_calls {log' : List (Obs ρ)} (h : calls log' = calls log) :
    gets id log' = gets id log := by
  rw [gets, gets, h]

lemma acceptedIds_append (hnew : ∀ o ∈ new, o.acceptedId? = none) :
    acceptedIds (new ++ log) = acceptedIds log := by
  rw [acceptedIds, List.filterMap_append, List.filterMap_eq_nil_iff.mpr hnew]
  rfl

/-- What is about other entries holds no answer to this one's SETs. -/
lemma setReplies_append (hnew : ∀ o ∈ new, ∀ id' ∈ o.subject?, id' ≠ id) :
    setReplies id (new ++ log) = setReplies id log := by
  have hnone : ∀ o ∈ new, Obs.setReply? id o = none := by
    intro o ho
    cases o with
    | setEnded id' _ _ _ => exact if_neg (hnew _ ho id' rfl)
    | _ => rfl
  rw [setReplies, List.filterMap_append, List.filterMap_eq_nil_iff.mpr hnone]
  rfl

lemma gets_started {reads : ℕ} {kind : ControlKind} {remaining : Option Time} :
    gets id (.started reads (.volumeGet id kind) remaining :: log) =
      .volumeGet id kind :: gets id log := by
  simp [gets, calls, Obs.call?]

lemma sets_started {reads attempt : ℕ} {kind : ControlKind} {request : List UInt8}
    {remaining : Option Time} :
    sets id (.started reads (.set id kind attempt request) remaining :: log) =
      .set id kind attempt request :: sets id log := by
  simp [sets, calls, Obs.call?]

/-- An entry of the log that is no SET of the entry `id` adds none. -/
lemma sets_cons_of_ne {o : Obs ρ}
    (h : ∀ kind attempt request, o.call? ≠ some (.set id kind attempt request)) :
    sets id (o :: log) = sets id log := by
  cases o with
  | started reads call remaining =>
    cases call with
    | set id' kind attempt request =>
      have hid : id' ≠ id := by
        rintro rfl
        exact h kind attempt request rfl
      simp [sets, calls, Obs.call?, hid]
    | _ => simp [sets, calls, Obs.call?]
  | _ => rfl

lemma gets_cons_of_ne {o : Obs ρ} (h : ∀ kind, o.call? ≠ some (.volumeGet id kind)) :
    gets id (o :: log) = gets id log := by
  cases o with
  | started reads call remaining =>
    cases call with
    | volumeGet id' kind =>
      have hid : id' ≠ id := by
        rintro rfl
        exact h kind rfl
      simp [gets, calls, Obs.call?, hid]
    | _ => simp [gets, calls, Obs.call?]
  | _ => rfl

lemma setReplies_setEnded {attempt : ℕ} {r : ρ} {time : Time} :
    setReplies id (.setEnded id attempt r time :: log) = r :: setReplies id log := by
  simp [setReplies, Obs.setReply?]

lemma subject?_of_call {o : Obs ρ} {call : Call} (h : o.call? = some call) :
    o.subject? = call.owner := by
  cases o with
  | started reads call' remaining =>
    cases h
    rfl
  | _ => cases h

/-- Nothing has been done for an entry of the queue that the log does not speak of. -/
lemma nil_of_unmentioned (h : ∀ o ∈ log, o.subject? ≠ some id) :
    sets id log = [] ∧ setReplies id log = [] ∧ gets id log = [] := by
  induction log with
  | nil => simp [sets, setReplies, gets, calls]
  | cons o log ih =>
    obtain ⟨hsets, hreplies, hgets⟩ := ih fun o ho => h o (List.mem_cons_of_mem _ ho)
    have ho := h o List.mem_cons_self
    refine ⟨?_, ?_, ?_⟩
    · rw [sets_cons_of_ne, hsets]
      intro kind attempt request hcall
      exact ho (subject?_of_call hcall)
    · have hone : ∀ o' ∈ [o], ∀ id' ∈ o'.subject?, id' ≠ id := by
        simp only [List.mem_singleton, forall_eq]
        rintro id' hid rfl
        exact ho hid
      exact (setReplies_append hone).trans hreplies
    · rw [gets_cons_of_ne, hgets]
      intro kind hcall
      exact ho (subject?_of_call hcall)

lemma mem_sets {call : Call} : call ∈ sets id log ↔
    call ∈ calls log ∧ ∃ kind attempt request, call = .set id kind attempt request := by
  rw [sets, List.mem_filter]
  refine and_congr_right fun _ => ?_
  cases call <;> simp

lemma mem_calls {call : Call} : call ∈ calls log ↔
    ∃ reads remaining, .started reads call remaining ∈ log := by
  simp only [calls, List.mem_filterMap]
  constructor
  · rintro ⟨o, ho, hcall⟩
    cases o with
    | started reads c remaining => cases hcall; exact ⟨reads, remaining, ho⟩
    | _ => cases hcall
  · rintro ⟨reads, remaining, h⟩
    exact ⟨_, h, rfl⟩

lemma mem_acceptedIds : id ∈ acceptedIds log ↔
    ∃ command deadline, .accepted id command deadline ∈ log := by
  simp only [acceptedIds, List.mem_filterMap]
  constructor
  · rintro ⟨o, ho, hid⟩
    cases o with
    | accepted id' command deadline => cases hid; exact ⟨command, deadline, ho⟩
    | _ => cases hid
  · rintro ⟨command, deadline, h⟩
    exact ⟨_, h, rfl⟩

end Log

/-! ### What holds of the entries of the log -/

section Entries

open Log

variable {ρ : Type} [Client ρ]

def Call.kind : Call → Option ControlKind
  | sourceGet _ | maintenanceGet => none
  | volumeGet _ kind | set _ kind _ _ => some kind

/-- A SET is either the first exchange of its entry after the volume GET, if there was one, or
the second attempt of the same request after the first raised an error. -/
inductive SetOk (id : ℕ) (kind : ControlKind) (request : List UInt8) (earlier : List (Obs ρ)) :
    ℕ → Prop where
  | first (hsets : sets id earlier = []) (hreplies : setReplies id earlier = [])
      (hgets : gets id earlier = [] ∨ (calls earlier).head? = some (.volumeGet id kind)) :
      SetOk id kind request earlier 0
  | retry (r : ρ) (e : LsxError) (hsets : sets id earlier = [.set id kind 0 request])
      (hreplies : setReplies id earlier = [r]) (hr : Client.asyncSet r = .error e)
      (he : e.isRejection = false) : SetOk id kind request earlier 1

/-- What holds when an exchange is started, after `reads` readings of the clock: the last but
one, which is followed by that of `_client_deadline`, was before the deadline; every entry that
was accepted and is not done comes later than the one that is served. -/
structure StartOk (env : Env) (reads : ℕ) (call : Call) (earlier : List (Obs ρ)) : Prop where
  admitted : ∀ id ∈ call.owner, ∃ command deadline, .accepted id command deadline ∈ earlier ∧
    call.kind = some command.kind ∧ 2 ≤ reads ∧ env.monotonic (reads - 2) < deadline
  first : ∀ id ∈ acceptedIds earlier, ¬ Ended id earlier → ∃ id' ∈ call.owner, id' ≤ id
  unfinished : ∀ id ∈ call.owner, ¬ Ended id earlier
  inOrder : ∀ call' ∈ calls earlier, ∀ id' ∈ call'.owner, ∀ id ∈ call.owner, id' ≤ id
  volumeGet : ∀ id kind, call = .volumeGet id kind →
    kind.isRelative = true ∧ gets id earlier = [] ∧ sets id earlier = []
  set : ∀ id kind attempt request, call = .set id kind attempt request →
    SetOk id kind request earlier attempt

/-- The result of an entry tells how its SETs were answered, newest answer first. -/
inductive EndOk (id : ℕ) (result : CommandResult) (earlier : List (Obs ρ)) : Outcome → Prop where
  | acknowledged (r : ρ) (older : List ρ) (hreplies : setReplies id earlier = r :: older)
      (hr : Client.asyncSet r = .ok ()) (hw : result.writeAttempted = true)
      (ha : result.acknowledged = true) (he : result.error = none) :
      EndOk id result earlier .acknowledged
  | failed (r : ρ) (older : List ρ) (e : LsxError) (hreplies : setReplies id earlier = r :: older)
      (hr : Client.asyncSet r = .error e)
      (hw : result.writeAttempted = true ↔
        ∃ r' ∈ r :: older, ∃ e', Client.asyncSet r' = .error e' ∧ e'.writeAttempted = true)
      (hall : ∀ r' ∈ r :: older, ∃ e', Client.asyncSet r' = .error e')
      (ha : result.acknowledged = false) (he : result.error = some e.type.name) :
      EndOk id result earlier (.failed e)
  | unread (r : ρ) (time : Time) (before : List (Obs ρ)) (e : LsxError)
      (hlast : earlier = .volumeEnded id r time :: before) (hreplies : setReplies id earlier = [])
      (hr : Client.asyncGetVolume r = .error e) (hw : result.writeAttempted = e.writeAttempted)
      (ha : result.acknowledged = false) (he : result.error = some e.type.name) :
      EndOk id result earlier (.failed e)
  | late (outcome : Outcome) (ho : outcome = .timedOut ∨ outcome = .expired)
      (hreplies : setReplies id earlier = []) (hw : result.writeAttempted = false)
      (ha : result.acknowledged = false) (he : result.error = some deadlineExpired.name) :
      EndOk id result earlier outcome

/-- What the invariant says about an entry of the log, given the entries before it. -/
def EntryOk (env : Env) : Obs ρ → List (Obs ρ) → Prop
  | .accepted id _ _, earlier => ∀ o ∈ earlier, ∀ id' ∈ o.subject?, id' < id
  | .started reads call _, earlier => StartOk env reads call earlier
  | .completed id outcome result, earlier => ¬ Ended id earlier ∧ EndOk id result earlier outcome
  | _, _ => True

end Entries

namespace Runtime

open Log

variable {ρ : Type} {env : Env} {cfg : Config} {s t : Runtime ρ} {e : Event ρ}

/-! ### Entries of the queue -/

/-- The entries that have not been done: the active one, then the queue. -/
def live (s : Runtime ρ) : List Control := s.activeControl.toList ++ s.controls

/-- The volume and the mute bit are known. -/
def Known (speaker : SpeakerState) : Prop := speaker.volume ≠ none ∧ speaker.muted ≠ none

/-- The entry is the one whose acceptance was logged, and its result still the one of its
submission. -/
structure Admitted (log : List (Obs ρ)) (job : Control) : Prop where
  accepted : ∃ command, .accepted job.id command job.deadline ∈ log ∧
    command.kind = job.command.kind
  result : ∃ time, job.result =
    { id := job.id, command := job.command.kind, submittedAt := time }

/-- No SET was started for the entry. If there was a volume GET for it, no exchange has been
started since and the volume is known. -/
structure Untried (s : Runtime ρ) (job : Control) : Prop where
  sets : sets job.id s.log = []
  replies : setReplies job.id s.log = []
  gets : gets job.id s.log = [] ∨
    ((calls s.log).head? = some (.volumeGet job.id job.command.kind) ∧ Known s.snapshot.speaker)

/-- The entry has been executed on the present speaker state. -/
structure Executed (cfg : Config) (s : Runtime ρ) (job : Control) (request : List UInt8) :
    Prop where
  request : cfg.request s.snapshot.speaker job.command = .ok request
  value : cfg.executed s.snapshot.speaker job.command = job.command

lemma Untried.congr {job : Control} (h : Untried s job) (hcalls : calls t.log = calls s.log)
    (hreplies : setReplies job.id t.log = setReplies job.id s.log)
    (hknown : Known s.snapshot.speaker → Known t.snapshot.speaker) : Untried t job := by
  refine ⟨(sets_eq_of_calls hcalls).trans h.sets, hreplies.trans h.replies, ?_⟩
  rw [gets_eq_of_calls hcalls, hcalls]
  exact h.gets.imp_right (And.imp_right hknown)

/-- An entry of the queue has not been tried; only the first may have been read for. -/
structure Queued (s : Runtime ρ) (job : Control) : Prop where
  untried : Untried s job
  head : gets job.id s.log ≠ [] →
    s.controls.head? = some job ∧ (s.worker = some .loop ∨ s.closing = true)

/-! ### Growth of the log -/

/-- The log grows by entries that neither start an exchange nor accept anything, and that are
about no queue entry but the active one. -/
def Grows (active : Option Control) (log log' : List (Obs ρ)) : Prop :=
  ∃ new, log' = new ++ log ∧ ∀ o ∈ new, o.call? = none ∧ o.acceptedId? = none ∧
    ∀ id ∈ o.subject?, ∃ job ∈ active, job.id = id

namespace Grows

variable {active : Option Control} {log log' log'' : List (Obs ρ)} {o : Obs ρ}

lemma refl : Grows active log log := ⟨[], rfl, by simp⟩

lemma trans (h : Grows active log log') (h' : Grows active log' log'') :
    Grows active log log'' := by
  obtain ⟨new, rfl, hnew⟩ := h
  obtain ⟨new', rfl, hnew'⟩ := h'
  refine ⟨new' ++ new, (List.append_assoc _ _ _).symm, ?_⟩
  intro o ho
  rcases List.mem_append.mp ho with ho | ho
  · exact hnew' o ho
  · exact hnew o ho

/-- An entry about no queue entry, or about the active one. -/
lemma cons (hcall : o.call? = none) (hacc : o.acceptedId? = none)
    (hsub : ∀ id ∈ o.subject?, ∃ job ∈ active, job.id = id) : Grows active log (o :: log) := by
  refine ⟨[o], rfl, ?_⟩
  intro o' ho'
  rw [List.mem_singleton.mp ho']
  exact ⟨hcall, hacc, hsub⟩

lemma of_noted {l l' : Ledger ρ} (h : Ledger.Noted l l') : Grows active l.log l'.log := by
  obtain ⟨notes, hlog, hnotes⟩ := h.notes
  refine ⟨notes, hlog, ?_⟩
  intro o ho
  have hnote := hnotes o ho
  cases o with
  | planStarted | verified | mismatch => exact ⟨rfl, rfl, by simp [Obs.subject?]⟩
  | _ => cases hnote

lemma calls (h : Grows active log log') : Log.calls log' = Log.calls log := by
  obtain ⟨new, rfl, hnew⟩ := h
  exact calls_append fun o ho => (hnew o ho).1

lemma acceptedIds (h : Grows active log log') : Log.acceptedIds log' = Log.acceptedIds log := by
  obtain ⟨new, rfl, hnew⟩ := h
  exact acceptedIds_append fun o ho => (hnew o ho).2.1

lemma setReplies {id : ℕ} (h : Grows active log log') (hid : ∀ job ∈ active, job.id ≠ id) :
    Log.setReplies id log' = Log.setReplies id log := by
  obtain ⟨new, rfl, hnew⟩ := h
  refine setReplies_append fun o ho id' hid' => ?_
  obtain ⟨job, hjob, rfl⟩ := (hnew o ho).2.2 id' hid'
  exact hid job hjob

lemma subset (h : Grows active log log') : log ⊆ log' := by
  obtain ⟨new, rfl, -⟩ := h
  exact List.subset_append_right new log

lemma ended {id : ℕ} (h : Grows active log log') (hend : Ended id log) : Ended id log' := by
  obtain ⟨o, ho, hends⟩ := hend
  exact ⟨o, h.subset ho, hends⟩

/-- Only the active entry may end. -/
lemma not_ended {id : ℕ} (h : Grows active log log') (hid : ∀ job ∈ active, job.id ≠ id)
    (hend : ¬ Ended id log) : ¬ Ended id log' := by
  obtain ⟨new, rfl, hnew⟩ := h
  rintro ⟨o, ho, hends⟩
  rcases List.mem_append.mp ho with ho | ho
  · obtain ⟨job, hjob, hsubject⟩ := (hnew o ho).2.2 id (subject?_of_ends hends)
    exact hid job hjob hsubject
  · exact hend ⟨o, ho, hends⟩

end Grows

lemma Admitted.subset {log log' : List (Obs ρ)} {job : Control} (h : Admitted log job)
    (hsub : log ⊆ log') : Admitted log' job := by
  obtain ⟨⟨command, hmem, hkind⟩, hresult⟩ := h
  exact ⟨⟨command, hsub hmem, hkind⟩, hresult⟩

lemma mem_live_of_active {job : Control} (h : s.activeControl = some job) : job ∈ s.live := by
  simp [live, h]

lemma mem_live_of_queued {job : Control} (h : job ∈ s.controls) : job ∈ s.live :=
  List.mem_append_right _ h

lemma live_of_inactive (h : s.activeControl = none) : s.live = s.controls := by
  simp [live, h]

lemma live_of_active {job : Control} (h : s.activeControl = some job) :
    s.live = job :: s.controls := by
  simp [live, h]

lemma Known.of_expectedState {speaker : SpeakerState} {command : Command}
    (h : Known speaker) : Known (cfg.expectedState speaker command) := by
  cases command <;> simp_all [Known, Config.expectedState]

/-! ### The invariant -/

variable [Client ρ]

/-- The first attempt was answered with an error that allows a second one. -/
structure FirstFailed (s : Runtime ρ) (job : Control) (failure : Failure) : Prop where
  reply : ∃ r, setReplies job.id s.log = [r] ∧ Client.asyncSet r = .error failure.error
  rejection : failure.error.isRejection = false
  attempted : failure.attempted = failure.error.writeAttempted

/-- What the log holds about the entry that is served, for each program counter. -/
def PhaseOk (cfg : Config) (s : Runtime ρ) : Worker → Prop
  | .control job => s.closing = false ∧ Untried s job
  | .volumeGet job => sets job.id s.log = [] ∧ setReplies job.id s.log = [] ∧
      (calls s.log).head? = some (.volumeGet job.id job.command.kind)
  | .attempt job none => Untried s job
  | .setting job none request => Executed cfg s job request ∧
      sets job.id s.log = [.set job.id job.command.kind 0 request] ∧
      setReplies job.id s.log = []
  | .retrySleep job failure _ | .attempt job (some failure) => ∃ request,
      Executed cfg s job request ∧
      sets job.id s.log = [.set job.id job.command.kind 0 request] ∧ FirstFailed s job failure
  | .setting job (some failure) request => Executed cfg s job request ∧
      sets job.id s.log = [.set job.id job.command.kind 1 request,
        .set job.id job.command.kind 0 request] ∧ FirstFailed s job failure
  | _ => True

/-- The invariant of the runtime. -/
structure Scheduled (env : Env) (cfg : Config) (s : Runtime ρ) : Prop where
  sorted : (s.live.map Control.id).Pairwise (· < ·)
  admitted : ∀ job ∈ s.live, Admitted s.log job
  ids : acceptedIds s.log = (List.range s.acceptedCount).reverse
  subjects : ∀ o ∈ s.log, ∀ id ∈ o.subject?, id < s.acceptedCount
  served : ∀ call ∈ calls s.log, ∀ id ∈ call.owner, ∀ job ∈ s.live, id ≤ job.id
  pending : ∀ id ∈ acceptedIds s.log, Ended id s.log ∨ (∃ job ∈ s.live, job.id = id) ∨
    s.closing = true ∨ ∃ e, s.worker = some (.crashed e)
  unfinished : ∀ job ∈ s.live, ¬ Ended job.id s.log
  queued : ∀ job ∈ s.controls, Queued s job
  phase : ∀ w, s.worker = some w → PhaseOk cfg s w
  entries : History.Each (EntryOk env) s.log

/-- Nothing is asked of notes. -/
lemma entries_noted {l l' : Ledger ρ} (h : Ledger.Noted l l')
    (hl : History.Each (EntryOk env) l.log) : History.Each (EntryOk env) l'.log := by
  obtain ⟨notes, hlog, hnotes⟩ := h.notes
  rw [hlog]
  refine hl.append fun o ho earlier => ?_
  have hnote := hnotes o ho
  cases o with
  | planStarted | verified | mismatch => exact trivial
  | _ => cases hnote

namespace Scheduled

lemma lt_acceptedCount (h : Scheduled env cfg s) {job : Control} (hjob : job ∈ s.live) :
    job.id < s.acceptedCount := by
  obtain ⟨command, hmem, -⟩ := (h.admitted job hjob).accepted
  have hid : job.id ∈ acceptedIds s.log := mem_acceptedIds.mpr ⟨command, _, hmem⟩
  rw [h.ids] at hid
  simpa using hid

/-- The active entry comes before the queue. -/
lemma active_lt (h : Scheduled env cfg s) {job job' : Control} (hjob : s.activeControl = some job)
    (hjob' : job' ∈ s.controls) : job.id < job'.id := by
  have hsorted := h.sorted
  rw [live_of_active hjob, List.map_cons, List.pairwise_cons] at hsorted
  exact hsorted.1 _ (List.mem_map_of_mem hjob')

/-- A new log entry is about an accepted entry of the queue. -/
lemma subjects_cons (h : Scheduled env cfg s) {o : Obs ρ}
    (ho : ∀ id ∈ o.subject?, id < s.acceptedCount) :
    ∀ o' ∈ o :: s.log, ∀ id ∈ o'.subject?, id < s.acceptedCount := by
  intro o' ho'
  rcases List.mem_cons.mp ho' with rfl | ho'
  · exact ho
  · exact h.subjects o' ho'

lemma subjects_of_grows (h : Scheduled env cfg s) {active : Option Control} {log : List (Obs ρ)}
    (hgrows : Grows active s.log log) (hactive : ∀ job ∈ active, job ∈ s.live) :
    ∀ o ∈ log, ∀ id ∈ o.subject?, id < s.acceptedCount := by
  obtain ⟨new, rfl, hnew⟩ := hgrows
  intro o ho id hid
  rcases List.mem_append.mp ho with ho | ho
  · obtain ⟨job, hjob, rfl⟩ := (hnew o ho).2.2 id hid
    exact h.lt_acceptedCount (hactive job hjob)
  · exact h.subjects o ho id hid

end Scheduled

/-- A program counter outside `_async_control` says nothing about any entry. -/
lemma phaseOk_of_inactive {w : Worker} (h : w.job? = none) : PhaseOk cfg s w := by
  cases w with
  | control | volumeGet | setting | retrySleep | attempt => cases h
  | _ => exact trivial

/-! ### Steps after which no control is active -/

/-- The worker leaves `_async_control`, or was not in it: the entries that are no longer in the
queue are done, or will never be served. -/
lemma Scheduled.rest (h : Scheduled env cfg s) (hgrows : Grows s.activeControl s.log t.log)
    (hentries : History.Each (EntryOk env) t.log) (hnone : t.activeControl = none)
    (hcontrols : t.controls = s.controls ∨ t.controls = [])
    (hcount : t.acceptedCount = s.acceptedCount) (hclosing : s.closing = true → t.closing = true)
    (hgone : ∀ job ∈ s.live, job ∈ t.controls ∨ Ended job.id t.log ∨ t.closing = true ∨
      ∃ e, t.worker = some (.crashed e))
    (hcrashed : ∀ e, s.worker = some (.crashed e) → t.worker = some (.crashed e))
    (hknown : Known s.snapshot.speaker → Known t.snapshot.speaker)
    (hloop : s.worker = some .loop → t.controls = [] ∨ t.worker = some .loop ∨
      t.closing = true) : Scheduled env cfg t := by
  have hsub : t.controls.Sublist s.controls := by
    rcases hcontrols with hc | hc <;> rw [hc]
    exact List.nil_sublist _
  have hlive : t.live = t.controls := live_of_inactive hnone
  have hmem : ∀ job ∈ t.live, job ∈ s.live := by
    intro job hjob
    rw [hlive] at hjob
    exact mem_live_of_queued (hsub.subset hjob)
  have hother : ∀ job ∈ t.controls, ∀ active ∈ s.activeControl, active.id ≠ job.id :=
    fun job hjob active hactive => (h.active_lt hactive (hsub.subset hjob)).ne
  refine ⟨?_, ?_, ?_, ?_, ?_, ?_, ?_, ?_, ?_, hentries⟩
  · rw [hlive]
    exact h.sorted.sublist ((hsub.trans (List.sublist_append_right _ _)).map _)
  · intro job hjob
    exact (h.admitted job (hmem job hjob)).subset hgrows.subset
  · rw [hgrows.acceptedIds, hcount, h.ids]
  · rw [hcount]
    exact h.subjects_of_grows hgrows fun job => mem_live_of_active
  · intro call hcall id hid job hjob
    rw [hgrows.calls] at hcall
    exact h.served call hcall id hid job (hmem job hjob)
  · intro id hid
    rw [hgrows.acceptedIds] at hid
    rcases h.pending id hid with hend | ⟨job, hjob, rfl⟩ | hc | ⟨e, hw⟩
    · exact .inl (hgrows.ended hend)
    · rcases hgone job hjob with hq | hend | hrest
      · exact .inr (.inl ⟨job, hlive ▸ hq, rfl⟩)
      · exact .inl hend
      · exact .inr (.inr hrest)
    · exact .inr (.inr (.inl (hclosing hc)))
    · exact .inr (.inr (.inr ⟨e, hcrashed e hw⟩))
  · intro job hjob
    exact hgrows.not_ended (hother job (hlive ▸ hjob)) (h.unfinished job (hmem job hjob))
  · intro job hjob
    obtain ⟨huntried, hhead⟩ := h.queued job (hsub.subset hjob)
    refine ⟨huntried.congr hgrows.calls (hgrows.setReplies (hother job hjob)) hknown, ?_⟩
    rw [gets_eq_of_calls hgrows.calls]
    intro hne
    have hnotnil : t.controls ≠ [] := List.ne_nil_of_mem hjob
    have heq : t.controls = s.controls := hcontrols.resolve_right hnotnil
    obtain ⟨hfront, hw | hc⟩ := hhead hne
    · exact ⟨heq ▸ hfront, (hloop hw).resolve_left hnotnil⟩
    · exact ⟨heq ▸ hfront, .inr (hclosing hc)⟩
  · intro w hw
    apply phaseOk_of_inactive
    simpa [activeControl, hw] using hnone

/-! ### Steps of producers -/

/-- The phase of a worker that does not move depends on the exchanges and their answers, the
speaker's state, and, while it runs, on whether the runtime is closing. -/
lemma PhaseOk.congr {w : Worker} (h : PhaseOk cfg s w) (hcalls : calls t.log = calls s.log)
    (hreplies : ∀ id, setReplies id t.log = setReplies id s.log)
    (hspeaker : t.snapshot.speaker = s.snapshot.speaker)
    (hclosing : t.closing = s.closing ∨ w.running = false) : PhaseOk cfg t w := by
  have huntried : ∀ job, Untried s job → Untried t job :=
    fun job h => h.congr hcalls (hreplies _) (hspeaker ▸ id)
  have hexecuted : ∀ job request, Executed cfg s job request → Executed cfg t job request := by
    rintro job request ⟨h₁, h₂⟩
    exact ⟨hspeaker ▸ h₁, hspeaker ▸ h₂⟩
  have hfailed : ∀ job failure, FirstFailed s job failure → FirstFailed t job failure := by
    rintro job failure ⟨⟨r, hr, he⟩, h₂, h₃⟩
    exact ⟨⟨r, (hreplies _).trans hr, he⟩, h₂, h₃⟩
  have hsets : ∀ id, sets id t.log = sets id s.log := fun id => sets_eq_of_calls hcalls
  cases w with
  | control job =>
    rcases hclosing with hc | hc
    · exact ⟨hc.trans h.1, huntried job h.2⟩
    · cases hc
  | volumeGet job =>
    exact ⟨(hsets _).trans h.1, (hreplies _).trans h.2.1, hcalls ▸ h.2.2⟩
  | attempt job failure =>
    cases failure with
    | none => exact huntried job h
    | some failure =>
      obtain ⟨request, h₁, h₂, h₃⟩ := h
      exact ⟨request, hexecuted _ _ h₁, (hsets _).trans h₂, hfailed _ _ h₃⟩
  | setting job first request =>
    cases first with
    | none => exact ⟨hexecuted _ _ h.1, (hsets _).trans h.2.1, (hreplies _).trans h.2.2⟩
    | some failure =>
      exact ⟨hexecuted _ _ h.1, (hsets _).trans h.2.1, hfailed _ _ h.2.2⟩
  | retrySleep job failure delay =>
    obtain ⟨request, h₁, h₂, h₃⟩ := h
    exact ⟨request, hexecuted _ _ h₁, (hsets _).trans h₂, hfailed _ _ h₃⟩
  | _ => exact trivial

/-- While the worker is not at the head of its loop, and the runtime is open, no entry of the queue
has been read for. -/
lemma Scheduled.gets_eq_nil (h : Scheduled env cfg s) (hc : s.closing = false)
    (hw : s.worker ≠ some .loop) {job : Control} (hjob : job ∈ s.controls) :
    gets job.id s.log = [] := by
  by_contra hne
  rcases ((h.queued job hjob).head hne).2 with h' | h'
  · exact hw h'
  · rw [hc] at h'
    cases h'

omit [Client ρ] in
lemma idle_ne_loop (hi : s.idle = true) : s.worker ≠ some .loop := by
  intro hw
  simp [idle, hw, Worker.running] at hi

/-- A step of a producer that does not add to the queue: it leaves it as it is, or closes the
runtime and empties it. -/
lemma Scheduled.undisturbed (h : Scheduled env cfg s) (hgrows : Grows none s.log t.log)
    (hentries : History.Each (EntryOk env) t.log)
    (hcontrols : t.controls = s.controls ∧ t.closing = s.closing ∨
      t.controls = [] ∧ t.closing = true ∧ s.idle = true)
    (hworker : t.worker = s.worker := by rfl)
    (hspeaker : t.snapshot.speaker = s.snapshot.speaker := by rfl)
    (hcount : t.acceptedCount = s.acceptedCount := by rfl) : Scheduled env cfg t := by
  have hactive : t.activeControl = s.activeControl := by rw [activeControl, activeControl, hworker]
  have hreplies : ∀ id, setReplies id t.log = setReplies id s.log :=
    fun id => hgrows.setReplies (by simp)
  have hsub : t.live.Sublist s.live := by
    rw [live, live, hactive]
    refine List.Sublist.append_left ?_ _
    rcases hcontrols with ⟨hc, -⟩ | ⟨hc, -⟩ <;> rw [hc]
    exact List.nil_sublist _
  have hclosing : s.closing = true → t.closing = true := by
    rcases hcontrols with ⟨-, hc⟩ | ⟨-, hc, -⟩
    · exact hc.trans
    · exact fun _ => hc
  refine ⟨h.sorted.sublist (hsub.map _), ?_, ?_, ?_, ?_, ?_, ?_, ?_, ?_, hentries⟩
  · intro job hjob
    exact (h.admitted job (hsub.subset hjob)).subset hgrows.subset
  · rw [hgrows.acceptedIds, hcount, h.ids]
  · rw [hcount]
    exact h.subjects_of_grows hgrows (by simp)
  · intro call hcall id hid job hjob
    rw [hgrows.calls] at hcall
    exact h.served call hcall id hid job (hsub.subset hjob)
  · intro id hid
    rw [hgrows.acceptedIds] at hid
    rw [hworker]
    rcases h.pending id hid with hend | ⟨job, hjob, rfl⟩ | hc | hw
    · exact .inl (hgrows.ended hend)
    · rcases hcontrols with ⟨hc, -⟩ | ⟨-, hc, -⟩
      · exact .inr (.inl ⟨job, by rwa [live, hactive, hc], rfl⟩)
      · exact .inr (.inr (.inl hc))
    · exact .inr (.inr (.inl (hclosing hc)))
    · exact .inr (.inr (.inr hw))
  · intro job hjob
    exact hgrows.not_ended (by simp) (h.unfinished job (hsub.subset hjob))
  · intro job hjob
    rcases hcontrols with ⟨hc, hcl⟩ | ⟨hc, -⟩
    · rw [hc] at hjob
      obtain ⟨huntried, hhead⟩ := h.queued job hjob
      refine ⟨huntried.congr hgrows.calls (hreplies _) (hspeaker ▸ id), ?_⟩
      rwa [gets_eq_of_calls hgrows.calls, hc, hworker, hcl]
    · rw [hc] at hjob
      cases hjob
  · intro w hw
    rw [hworker] at hw
    refine (h.phase w hw).congr hgrows.calls hreplies hspeaker ?_
    rcases hcontrols with ⟨-, hc⟩ | ⟨-, -, hi⟩
    · exact .inl hc
    · exact .inr (by simpa [idle, hw] using hi)

/-- Nothing has been done for an entry that is about to be accepted, or that is in the queue while
the worker is suspended. -/
lemma Scheduled.nil_of_admitted (h : Scheduled env cfg s) (hi : s.idle = true)
    (hc : s.closing = false) {id : ℕ}
    (hid : id = s.acceptedCount ∨ ∃ job ∈ s.controls, job.id = id) :
    sets id s.log = [] ∧ setReplies id s.log = [] ∧ gets id s.log = [] := by
  rcases hid with rfl | ⟨job, hjob, rfl⟩
  · apply nil_of_unmentioned
    intro o ho hsubject
    exact (h.subjects o ho _ hsubject).ne rfl
  · have huntried := (h.queued job hjob).untried
    exact ⟨huntried.sets, huntried.replies, h.gets_eq_nil hc (idle_ne_loop hi) hjob⟩

/-- A step of a producer that changes the last entry of the queue or adds one: every entry is new,
or has the number, the kind and the deadline of an old one. -/
lemma Scheduled.enqueued (h : Scheduled env cfg s) (hi : s.idle = true) (hc : s.closing = false)
    (hcalls : calls t.log = calls s.log)
    (hreplies : ∀ id, setReplies id t.log = setReplies id s.log) (hsubset : s.log ⊆ t.log)
    (hsubjects : ∀ o ∈ t.log, ∀ id ∈ o.subject?, o ∈ s.log)
    (hentries : History.Each (EntryOk env) t.log) (hworker : t.worker = s.worker)
    (hclosing : t.closing = s.closing) (hspeaker : t.snapshot.speaker = s.snapshot.speaker)
    (hcount : s.acceptedCount ≤ t.acceptedCount)
    (hids : acceptedIds t.log = (List.range t.acceptedCount).reverse)
    (hlive : t.live.map Control.id = s.live.map Control.id ∨
      t.live.map Control.id = s.live.map Control.id ++ [s.acceptedCount])
    (hpending : ∀ id ∈ acceptedIds t.log, id ∈ acceptedIds s.log ∨ ∃ job ∈ t.live, job.id = id)
    (hcontrols : ∀ job ∈ t.controls, Admitted t.log job ∧
      (job.id = s.acceptedCount ∨ ∃ job' ∈ s.controls, job'.id = job.id)) :
    Scheduled env cfg t := by
  have hactive : t.activeControl = s.activeControl := by rw [activeControl, activeControl, hworker]
  have hsmaller : ∀ job ∈ s.live, job.id < s.acceptedCount := fun job => h.lt_acceptedCount
  have hsubject : ∀ o ∈ t.log, ∀ id ∈ o.subject?, id < s.acceptedCount :=
    fun o ho id hid => h.subjects o (hsubjects o ho id hid) id hid
  have hkept : ∀ job ∈ s.live, ∃ job' ∈ t.live, job'.id = job.id := by
    intro job hjob
    have hmem : job.id ∈ s.live.map Control.id := List.mem_map_of_mem hjob
    rcases hlive with hl | hl
    · exact List.mem_map.mp (hl ▸ hmem)
    · exact List.mem_map.mp (hl ▸ List.mem_append_left _ hmem)
  have hold_or_new : ∀ job ∈ t.live,
      (∃ job' ∈ s.live, job'.id = job.id) ∨ job.id = s.acceptedCount := by
    intro job hjob
    have hmem : job.id ∈ t.live.map Control.id := List.mem_map_of_mem hjob
    rcases hlive with hl | hl <;> rw [hl] at hmem
    · exact .inl (List.mem_map.mp hmem)
    · rcases List.mem_append.mp hmem with hmem | hmem
      · exact .inl (List.mem_map.mp hmem)
      · exact .inr (List.mem_singleton.mp hmem)
  refine ⟨?_, ?_, hids, ?_, ?_, ?_, ?_, ?_, ?_, hentries⟩
  · rcases hlive with hl | hl <;> rw [hl]
    · exact h.sorted
    · rw [List.pairwise_append]
      refine ⟨h.sorted, List.pairwise_singleton _ _, ?_⟩
      intro id hid id' hid'
      obtain ⟨job, hjob, rfl⟩ := List.mem_map.mp hid
      rw [List.mem_singleton.mp hid']
      exact hsmaller job hjob
  · intro job hjob
    rw [live, hactive] at hjob
    rcases List.mem_append.mp hjob with hjob | hjob
    · exact (h.admitted job (List.mem_append_left _ hjob)).subset hsubset
    · exact (hcontrols job hjob).1
  · exact fun o ho id hid => (hsubject o ho id hid).trans_le hcount
  · intro call hcall id hid job hjob
    rcases hold_or_new job hjob with ⟨job', hjob', heq⟩ | hnew
    · rw [← heq]
      exact h.served call (hcalls ▸ hcall) id hid job' hjob'
    · obtain ⟨reads, remaining, hmem⟩ := mem_calls.mp hcall
      rw [hnew]
      exact (hsubject _ hmem id hid).le
  · intro id hid
    rcases hpending id hid with hold | hlive'
    · rcases h.pending id hold with ⟨o, ho, hends⟩ | ⟨job, hjob, rfl⟩ | hcl | hw
      · exact .inl ⟨o, hsubset ho, hends⟩
      · exact .inr (.inl (hkept job hjob))
      · rw [hc] at hcl
        cases hcl
      · exact .inr (.inr (.inr (hworker ▸ hw)))
    · exact .inr (.inl hlive')
  · rintro job hjob ⟨o, ho, hends⟩
    have hid := subject?_of_ends hends
    rcases hold_or_new job hjob with ⟨job', hjob', heq⟩ | hnew
    · exact h.unfinished job' hjob' ⟨o, hsubjects o ho _ hid, heq ▸ hends⟩
    · exact (hsubject o ho _ hid).ne hnew
  · intro job hjob
    obtain ⟨hsets, hrep, hgets⟩ := h.nil_of_admitted hi hc (hcontrols job hjob).2
    have hgets' : gets job.id t.log = [] := (gets_eq_of_calls hcalls).trans hgets
    exact ⟨⟨(sets_eq_of_calls hcalls).trans hsets, (hreplies _).trans hrep, .inl hgets'⟩,
      fun hne => absurd hgets' hne⟩
  · intro w hw
    rw [hworker] at hw
    exact (h.phase w hw).congr hcalls hreplies hspeaker (.inl hclosing)

/-! ### Steps of the worker -/

/-- While the worker runs on an open runtime, every accepted entry is done or alive. -/
lemma Scheduled.ended_or_live (h : Scheduled env cfg s) (hc : s.closing = false) {w : Worker}
    (hw : s.worker = some w) (hended : w.ended = false) {id : ℕ} (hid : id ∈ acceptedIds s.log) :
    Ended id s.log ∨ ∃ job ∈ s.live, job.id = id := by
  rcases h.pending id hid with hend | hlive | hcl | ⟨e, hcrash⟩
  · exact .inl hend
  · exact .inr hlive
  · rw [hc] at hcl
    cases hcl
  · rw [hw] at hcrash
    cases hcrash
    cases hended

/-- An exchange that serves no entry is started on an empty queue. -/
lemma Scheduled.called (h : Scheduled env cfg s) (hc : s.closing = false)
    (hw : s.worker = some .loop) (hq : s.controls = []) {reads : ℕ} {call : Call}
    {remaining : Option Time} (howner : call.owner = none)
    (hlog : t.log = .started reads call remaining :: s.log) (hnone : t.activeControl = none)
    (hcontrols : t.controls = []) (hcount : t.acceptedCount = s.acceptedCount) :
    Scheduled env cfg t := by
  have hlive : t.live = [] := by rw [live_of_inactive hnone, hcontrols]
  have hempty : s.live = [] := by
    have hidle : s.activeControl = none := activeControl_of_worker hw
    rw [live_of_inactive hidle, hq]
  have hended : ∀ id ∈ acceptedIds s.log, Ended id s.log := by
    intro id hid
    rcases h.ended_or_live hc hw rfl hid with hend | ⟨job, hjob, -⟩
    · exact hend
    · rw [hempty] at hjob
      cases hjob
  have hids : acceptedIds t.log = acceptedIds s.log := by rw [hlog]; rfl
  have hstart : StartOk env reads call s.log := by
    refine ⟨?_, ?_, ?_, ?_, ?_, ?_⟩
    · intro id hid
      rw [howner] at hid
      cases hid
    · intro id hid hnot
      exact absurd (hended id hid) hnot
    · intro id hid
      rw [howner] at hid
      cases hid
    · intro _ _ _ _ id hid
      rw [howner] at hid
      cases hid
    · rintro id kind rfl
      cases howner
    · rintro id kind attempt request rfl
      cases howner
  refine ⟨by simp [hlive], by simp [hlive], ?_, ?_, by simp [hlive], ?_, by simp [hlive],
    by simp [hcontrols], ?_, ?_⟩
  · rw [hids, hcount, h.ids]
  · rw [hcount, hlog]
    apply h.subjects_cons
    rw [show Obs.subject? (.started reads call remaining) = none from howner]
    simp
  · intro id hid
    rw [hids] at hid
    rw [hlog]
    exact .inl (hended id hid).cons
  · intro w hw'
    apply phaseOk_of_inactive
    simpa [activeControl, hw'] using hnone
  · rw [hlog]
    exact ⟨hstart, h.entries⟩

/-- The first entry of the queue is selected. -/
lemma Scheduled.selected (h : Scheduled env cfg s) (hc : s.closing = false)
    (hw : s.worker = some .loop) {job : Control} {rest : List Control}
    (hq : s.controls = job :: rest) :
    Scheduled env cfg ({ s.record Ledger.tick with controls := rest }.goto (.control job)) := by
  have hidle : s.activeControl = none := activeControl_of_worker hw
  have hlive : s.live = job :: rest := by rw [live_of_inactive hidle, hq]
  have hsorted := h.sorted
  rw [hlive, List.map_cons, List.pairwise_cons] at hsorted
  have hfirst := (h.queued job (by rw [hq]; exact List.mem_cons_self)).untried
  refine ⟨?_, ?_, h.ids, h.subjects, ?_, ?_, ?_, ?_, ?_, h.entries⟩
  · show ((job :: rest).map Control.id).Pairwise (· < ·)
    exact hlive ▸ h.sorted
  · show ∀ j ∈ job :: rest, Admitted s.log j
    exact hlive ▸ h.admitted
  · show ∀ call ∈ calls s.log, ∀ id ∈ call.owner, ∀ j ∈ job :: rest, id ≤ j.id
    exact hlive ▸ h.served
  · show ∀ id ∈ acceptedIds s.log, Ended id s.log ∨ (∃ j ∈ job :: rest, j.id = id) ∨ _
    intro id hid
    rw [← hlive]
    exact (h.ended_or_live hc hw rfl hid).imp_right .inl
  · show ∀ j ∈ job :: rest, ¬ Ended j.id s.log
    exact hlive ▸ h.unfinished
  · intro job' hjob'
    have hold := h.queued job' (by rw [hq]; exact List.mem_cons_of_mem _ hjob')
    refine ⟨hold.untried.congr rfl rfl id, fun hne => ?_⟩
    have hfront : job = job' := by simpa [hq] using (hold.head hne).1
    have hlt := hsorted.1 job'.id (List.mem_map_of_mem hjob')
    rw [hfront] at hlt
    exact absurd hlt (lt_irrefl _)
  · rintro w hw'
    cases hw'
    exact ⟨hc, hfirst.congr rfl rfl id⟩

/-- The worker goes on with its entry, and starts no exchange. -/
lemma Scheduled.proceeds (h : Scheduled env cfg s) {job : Control}
    (hs : s.activeControl = some job) (ht : t.activeControl = some job)
    (hgrows : Grows (some job) s.log t.log) (hentries : History.Each (EntryOk env) t.log)
    (hcontrols : t.controls = s.controls) (hcount : t.acceptedCount = s.acceptedCount)
    (hclosing : t.closing = s.closing) (hspeaker : t.snapshot.speaker = s.snapshot.speaker)
    (hended : Ended job.id t.log → Ended job.id s.log)
    (hphase : ∀ w, t.worker = some w → PhaseOk cfg t w) : Scheduled env cfg t := by
  have hlive : t.live = s.live := by rw [live, live, hs, ht, hcontrols]
  have hloop : s.worker ≠ some .loop := by
    intro hw
    simp [activeControl, hw, Worker.job?] at hs
  have hother : ∀ j ∈ s.controls, ∀ a ∈ some job, a.id ≠ j.id := by
    rintro j hj a ha
    cases ha
    exact (h.active_lt hs hj).ne
  refine ⟨hlive ▸ h.sorted, ?_, ?_, ?_, ?_, ?_, ?_, ?_, hphase, hentries⟩
  · rw [hlive]
    intro j hj
    exact (h.admitted j hj).subset hgrows.subset
  · rw [hgrows.acceptedIds, hcount, h.ids]
  · rw [hcount]
    apply h.subjects_of_grows hgrows
    rintro j ⟨⟩
    exact mem_live_of_active hs
  · rw [hgrows.calls, hlive]
    exact h.served
  · intro id hid
    rw [hgrows.acceptedIds] at hid
    rw [hlive, hclosing]
    rcases h.pending id hid with hend | hmem | hc | ⟨e, hw⟩
    · exact .inl (hgrows.ended hend)
    · exact .inr (.inl hmem)
    · exact .inr (.inr (.inl hc))
    · simp [activeControl, hw, Worker.job?] at hs
  · rw [hlive]
    intro j hj
    have hlive' := hj
    rw [live_of_active hs] at hlive'
    rcases List.mem_cons.mp hlive' with rfl | hqueued
    · exact fun hend => h.unfinished j hj (hended hend)
    · exact hgrows.not_ended (hother j hqueued) (h.unfinished j hj)
  · intro j hj
    rw [hcontrols] at hj
    obtain ⟨huntried, hhead⟩ := h.queued j hj
    refine ⟨huntried.congr hgrows.calls (hgrows.setReplies (hother j hj)) (hspeaker ▸ id), ?_⟩
    rw [gets_eq_of_calls hgrows.calls, hcontrols, hclosing]
    intro hne
    obtain ⟨hfront, hw | hc⟩ := hhead hne
    · exact absurd hw hloop
    · exact ⟨hfront, .inr hc⟩

/-- The active entry is the first of all. -/
lemma Scheduled.active_le (h : Scheduled env cfg s) {job j : Control}
    (hs : s.activeControl = some job) (hj : j ∈ s.live) : job.id ≤ j.id := by
  rw [live_of_active hs] at hj
  rcases List.mem_cons.mp hj with rfl | hj
  · exact le_rfl
  · exact (h.active_lt hs hj).le

/-- On an open runtime, an accepted entry that has not ended is active or queued. -/
lemma Scheduled.live_of_not_ended (h : Scheduled env cfg s) (hc : s.closing = false)
    {job : Control} (hs : s.activeControl = some job) {id : ℕ} (hid : id ∈ acceptedIds s.log)
    (hnot : ¬ Ended id s.log) : ∃ j ∈ s.live, j.id = id := by
  obtain ⟨w, hw, hjob⟩ := Option.bind_eq_some_iff.mp hs
  refine (h.ended_or_live hc hw ?_ hid).resolve_left hnot
  cases w with
  | returned | cancelled | crashed => cases hjob
  | _ => rfl

/-- An exchange may be started for the active entry. -/
lemma Scheduled.startOk (h : Scheduled env cfg s) (hc : s.closing = false) {job : Control}
    (hs : s.activeControl = some job) {reads : ℕ} {call : Call} (howner : call.owner = some job.id)
    (hkind : call.kind = some job.command.kind) (hreads : 2 ≤ reads)
    (htime : env.monotonic (reads - 2) < job.deadline)
    (hget : ∀ kind, call = .volumeGet job.id kind →
      kind.isRelative = true ∧ gets job.id s.log = [] ∧ sets job.id s.log = [])
    (hset : ∀ kind attempt request, call = .set job.id kind attempt request →
      SetOk job.id kind request s.log attempt) : StartOk env reads call s.log := by
  have hmem : job ∈ s.live := mem_live_of_active hs
  obtain ⟨command, hacc, hcommand⟩ := (h.admitted job hmem).accepted
  refine ⟨?_, ?_, ?_, ?_, ?_, ?_⟩
  · intro id hid
    rw [howner] at hid
    cases hid
    exact ⟨command, job.deadline, hacc, hcommand ▸ hkind, hreads, htime⟩
  · intro id hid hnot
    obtain ⟨j, hj, rfl⟩ := h.live_of_not_ended hc hs hid hnot
    exact ⟨job.id, howner, h.active_le hs hj⟩
  · intro id hid
    rw [howner] at hid
    cases hid
    exact h.unfinished job hmem
  · intro call' hcall' id' hid' id hid
    rw [howner] at hid
    cases hid
    exact h.served call' hcall' id' hid' job hmem
  · rintro id kind rfl
    cases howner
    exact hget kind rfl
  · rintro id kind attempt request rfl
    cases howner
    exact hset kind attempt request rfl

/-- An exchange is started for the active entry, which may have been given its value. -/
lemma Scheduled.calledFor (h : Scheduled env cfg s) (hc : s.closing = false) {job job' : Control}
    (hs : s.activeControl = some job) (ht : t.activeControl = some job') {reads : ℕ} {call : Call}
    {remaining : Option Time} (howner : call.owner = some job.id)
    (hkind : call.kind = some job.command.kind) (hid : job'.id = job.id)
    (hkind' : job'.command.kind = job.command.kind) (hdeadline : job'.deadline = job.deadline)
    (hresult : job'.result = job.result)
    (hlog : t.log = .started reads call remaining :: s.log) (hreads : 2 ≤ reads)
    (htime : env.monotonic (reads - 2) < job.deadline)
    (hget : ∀ kind, call = .volumeGet job.id kind →
      kind.isRelative = true ∧ gets job.id s.log = [] ∧ sets job.id s.log = [])
    (hset : ∀ kind attempt request, call = .set job.id kind attempt request →
      SetOk job.id kind request s.log attempt)
    (hcontrols : t.controls = s.controls) (hcount : t.acceptedCount = s.acceptedCount)
    (hphase : ∀ w, t.worker = some w → PhaseOk cfg t w) : Scheduled env cfg t := by
  have hmem : job ∈ s.live := mem_live_of_active hs
  have hlive : t.live.map Control.id = s.live.map Control.id := by
    rw [live_of_active hs, live_of_active ht, hcontrols, List.map_cons, List.map_cons, hid]
  have hloop : s.worker ≠ some .loop := by
    intro hw
    simp [activeControl, hw, Worker.job?] at hs
  have hids : acceptedIds t.log = acceptedIds s.log := by rw [hlog]; rfl
  have hstart := h.startOk hc hs howner hkind hreads htime hget hset
  obtain ⟨⟨command, hacc, hcommand⟩, time, hpristine⟩ := h.admitted job hmem
  refine ⟨hlive ▸ h.sorted, ?_, ?_, ?_, ?_, ?_, ?_, ?_, hphase, ?_⟩
  · intro j hj
    rw [hlog]
    have hsub : s.log ⊆ .started reads call remaining :: s.log := List.subset_cons_self _ _
    rw [live_of_active ht] at hj
    rcases List.mem_cons.mp hj with rfl | hj
    · refine ⟨⟨command, ?_, hcommand.trans hkind'.symm⟩, time, ?_⟩
      · rw [hid, hdeadline]
        exact hsub hacc
      · rw [hresult, hpristine, hid, hkind']
    · rw [hcontrols] at hj
      exact (h.admitted j (mem_live_of_queued hj)).subset hsub
  · rw [hids, hcount, h.ids]
  · rw [hcount, hlog]
    apply h.subjects_cons
    rw [show Obs.subject? (.started reads call remaining) = some job.id from howner]
    simpa using h.lt_acceptedCount hmem
  · intro call' hcall' id hid' j hj
    have hj' : j.id ∈ s.live.map Control.id := hlive ▸ List.mem_map_of_mem hj
    obtain ⟨j', hj', heq⟩ := List.mem_map.mp hj'
    rw [← heq]
    rw [hlog] at hcall'
    rcases List.mem_cons.mp (show call' ∈ call :: calls s.log from hcall') with rfl | hcall'
    · rw [howner] at hid'
      cases hid'
      exact h.active_le hs hj'
    · exact h.served call' hcall' id hid' j' hj'
  · intro id hid'
    rw [hids] at hid'
    rw [hlog]
    by_cases hend : Ended id s.log
    · exact .inl hend.cons
    · obtain ⟨j, hj, rfl⟩ := h.live_of_not_ended hc hs hid' hend
      have hj' : j.id ∈ t.live.map Control.id := hlive ▸ List.mem_map_of_mem hj
      exact .inr (.inl (List.mem_map.mp hj'))
  · intro j hj hend
    have hj' : j.id ∈ s.live.map Control.id := hlive ▸ List.mem_map_of_mem hj
    obtain ⟨j', hj', heq⟩ := List.mem_map.mp hj'
    rw [hlog, ← heq] at hend
    exact h.unfinished j' hj' (hend.of_cons id)
  · intro j hj
    rw [hcontrols] at hj
    have hlt := h.active_lt hs hj
    have hgets := h.gets_eq_nil hc hloop hj
    have hother : call.owner ≠ some j.id := by
      rw [howner]
      exact fun heq => hlt.ne (Option.some.inj heq)
    have hgets' : gets j.id t.log = [] := by
      rw [hlog, gets_cons_of_ne, hgets]
      rintro kind ⟨⟩
      exact hother rfl
    obtain ⟨⟨h₁, h₂, -⟩, -⟩ := h.queued j hj
    refine ⟨⟨?_, ?_, .inl hgets'⟩, fun hne => absurd hgets' hne⟩
    · rw [hlog, sets_cons_of_ne, h₁]
      rintro kind attempt request ⟨⟩
      exact hother rfl
    · rw [hlog]
      exact h₂
  · rw [hlog]
    exact ⟨hstart, h.entries⟩

/-- The active entry returns to the front of the queue after its volume GET. -/
lemma Scheduled.resumed (h : Scheduled env cfg s) {job : Control}
    (hw : s.worker = some (.volumeGet job)) (ht : t.worker = some .loop)
    (hcontrols : t.controls = job :: s.controls) {r : ρ} {time : Time}
    (hlog : t.log = .volumeEnded job.id r time :: s.log)
    (hcount : t.acceptedCount = s.acceptedCount) (hclosing : t.closing = s.closing)
    (hknown : Known t.snapshot.speaker) : Scheduled env cfg t := by
  have hs : s.activeControl = some job := activeControl_of_worker hw
  have hnone : t.activeControl = none := activeControl_of_worker ht
  have hlive : t.live = s.live := by
    rw [live_of_inactive hnone, live_of_active hs, hcontrols]
  obtain ⟨hsets, hreplies, hhead⟩ := h.phase _ hw
  have hsub : s.log ⊆ t.log := by
    rw [hlog]
    exact List.subset_cons_self _ _
  have hcalls : calls t.log = calls s.log := by rw [hlog]; rfl
  have hreplies' : ∀ id, setReplies id t.log = setReplies id s.log := by
    intro id
    rw [hlog]
    rfl
  have hids : acceptedIds t.log = acceptedIds s.log := by rw [hlog]; rfl
  refine ⟨hlive ▸ h.sorted, ?_, ?_, ?_, ?_, ?_, ?_, ?_, ?_, ?_⟩
  · rw [hlive]
    intro j hj
    exact (h.admitted j hj).subset hsub
  · rw [hids, hcount, h.ids]
  · rw [hcount, hlog]
    apply h.subjects_cons
    simpa [Obs.subject?] using h.lt_acceptedCount (mem_live_of_active hs)
  · rw [hcalls, hlive]
    exact h.served
  · intro id hid
    rw [hids] at hid
    rw [hlive, hclosing]
    rcases h.pending id hid with ⟨o, ho, hends⟩ | hmem | hc | ⟨e, hcrash⟩
    · exact .inl ⟨o, hsub ho, hends⟩
    · exact .inr (.inl hmem)
    · exact .inr (.inr (.inl hc))
    · rw [hw] at hcrash
      cases hcrash
  · rw [hlive, hlog]
    intro j hj hend
    exact h.unfinished j hj (hend.of_cons id)
  · intro j hj
    rw [hcontrols] at hj
    rcases List.mem_cons.mp hj with rfl | hj
    · refine ⟨⟨(sets_eq_of_calls hcalls).trans hsets, (hreplies' _).trans hreplies,
        .inr ⟨hcalls ▸ hhead, hknown⟩⟩, fun _ => ⟨by rw [hcontrols]; rfl, .inl ht⟩⟩
    · obtain ⟨⟨h₁, h₂, h₃⟩, hhead'⟩ := h.queued j hj
      -- an entry behind the active one cannot have been read for, as the GET was the active one's
      have hgets : gets j.id t.log = [] := by
        rw [gets_eq_of_calls hcalls]
        rcases h₃ with h₃ | ⟨h₃, -⟩
        · exact h₃
        · rw [hhead, Option.some.injEq, Call.volumeGet.injEq] at h₃
          exact absurd h₃.1 (h.active_lt hs hj).ne
      exact ⟨⟨(sets_eq_of_calls hcalls).trans h₁, (hreplies' _).trans h₂, .inl hgets⟩,
        fun hne => absurd hgets hne⟩
  · intro w hw'
    rw [ht] at hw'
    cases hw'
    exact trivial
  · rw [hlog]
    exact ⟨trivial, h.entries⟩

/-! ### Ends of the service -/

/-- The active entry is done. -/
lemma Scheduled.finished (h : Scheduled env cfg s) {job : Control}
    (hs : s.activeControl = some job) (hframe : Framed s t) (ht : t.worker = some .loop)
    (hgrows : Grows (some job) s.log t.log) (hentries : History.Each (EntryOk env) t.log)
    (hend : Ended job.id t.log) (hknown : Known s.snapshot.speaker → Known t.snapshot.speaker) :
    Scheduled env cfg t := by
  refine h.rest (hs ▸ hgrows) hentries (activeControl_of_worker ht)
    (.inl hframe.controls) hframe.acceptedCount (fun hc => hframe.closing.trans hc) ?_ ?_ hknown
    (fun _ => .inr (.inl ht))
  · intro j hj
    rw [live_of_active hs] at hj
    rcases List.mem_cons.mp hj with rfl | hj
    · exact .inr (.inl hend)
    · exact .inl (hframe.controls ▸ hj)
  · intro e hw
    simp [activeControl, hw, Worker.job?] at hs

/-- The result of an entry whose last SET raised an error. -/
lemma endOk_after {job : Control} {first : Option Failure} {request : List UInt8} {r : ρ}
    {e : LsxError} (hphase : PhaseOk cfg s (.setting job first request))
    (hr : Client.asyncSet r = .error e) (attempt : ℕ) (wall : DateTime) (time : Time) :
    EndOk job.id (job.failedResult wall (.lsx e) (Failure.after first e).attempted)
      (.setEnded job.id attempt r time :: s.log) (.failed e) := by
  cases first with
  | none =>
    obtain ⟨-, -, hreplies⟩ := hphase
    refine .failed r [] e (by rw [setReplies_setEnded, hreplies]) hr ?_ ?_ rfl rfl
    · simp [Control.failedResult, Failure.after, hr]
    · simp [hr]
  | some failure =>
    obtain ⟨-, -, ⟨r', hreplies, hr'⟩, -, hattempted⟩ := hphase
    refine .failed r [r'] e (by rw [setReplies_setEnded, hreplies]) hr ?_ ?_ rfl rfl
    · simp [Control.failedResult, Failure.after, hr, hr', hattempted, or_comm]
    · simp [hr, hr']

/-- The active entry fails. The state `s'` differs from `s` by readings of the clock and by the
last answer. -/
lemma Scheduled.failed (h : Scheduled env cfg s) {job : Control} {failure : Failure}
    {s' : Runtime ρ} (hs : s.activeControl = some job) (hframe : Framed s s')
    (hgrows : Grows (some job) s.log s'.log) (hentries : History.Each (EntryOk env) s'.log)
    (hspeaker : s'.snapshot.speaker = s.snapshot.speaker) (hunfinished : ¬ Ended job.id s'.log)
    (hend : EndOk job.id (job.failedResult (s'.wall env) (.lsx failure.error) failure.attempted)
      s'.log (.failed failure.error)) :
    Scheduled env cfg (s'.controlFailed env cfg job failure) := by
  obtain ⟨l, hnoted, hlog, hsp⟩ :
    ∃ l : Ledger ρ, Ledger.Noted l (s'.controlFailed env cfg job failure).toLedger ∧ _ ∧ _ :=
    exists_noted_controlFailed
  have hdone : Grows (some job) s'.log l.log := by
    rw [hlog]
    exact .cons rfl rfl (by simp [Obs.subject?])
  have hall : History.Each (EntryOk env) l.log := by
    rw [hlog]
    exact ⟨⟨hunfinished, hend⟩, hentries⟩
  have hended : Ended job.id l.log := by
    rw [hlog]
    exact ⟨_, List.mem_cons_self, rfl⟩
  have hnotes : Grows (some job) l.log (s'.controlFailed env cfg job failure).log :=
    .of_noted hnoted
  refine h.finished hs (hframe.trans framed_controlFailed) rfl
    (hgrows.trans (hdone.trans hnotes)) (entries_noted hnoted hall) (hnotes.ended hended) ?_
  rw [hnoted.speaker, hsp, hspeaker]
  exact id

/-- The active entry was acknowledged. -/
lemma Scheduled.acknowledged (h : Scheduled env cfg s) {job : Control} {first : Option Failure}
    {request : List UInt8} {r : ρ} (hw : s.worker = some (.setting job first request))
    (hr : Client.asyncSet r = .ok ()) :
    Scheduled env cfg (s.controlAcknowledged env cfg job first r) := by
  have hs : s.activeControl = some job := activeControl_of_worker hw
  obtain ⟨l, time, wall, hnoted, hlog, -, hspeaker, -⟩ :
    ∃ (l : Ledger ρ) (time : Time) (wall : DateTime),
      Ledger.Noted l (s.controlAcknowledged env cfg job first r).toLedger ∧ _ ∧ _ ∧ _ ∧ _ :=
    exists_noted_controlAcknowledged
  obtain ⟨submitted, hresult⟩ := (h.admitted job (mem_live_of_active hs)).result
  have hend : EndOk job.id (job.acknowledgedResult wall)
      (.setEnded job.id (attemptNumber first) r time :: s.log) .acknowledged := by
    refine .acknowledged r _ setReplies_setEnded hr rfl rfl ?_
    simp [Control.acknowledgedResult, hresult]
  have hunfinished : ¬ Ended job.id (.setEnded job.id (attemptNumber first) r time :: s.log) :=
    fun hended => h.unfinished job (mem_live_of_active hs) (hended.of_cons id)
  have hdone : Grows (some job) s.log l.log := by
    rw [hlog]
    exact Grows.trans (.cons rfl rfl (by simp [Obs.subject?]))
      (.cons rfl rfl (by simp [Obs.subject?]))
  have hall : History.Each (EntryOk env) l.log := by
    rw [hlog]
    exact ⟨⟨hunfinished, hend⟩, trivial, h.entries⟩
  have hended : Ended job.id l.log := by
    rw [hlog]
    exact ⟨_, List.mem_cons_self, rfl⟩
  have hnotes : Grows (some job) l.log (s.controlAcknowledged env cfg job first r).log :=
    .of_noted hnoted
  refine h.finished hs framed_controlAcknowledged rfl (hdone.trans hnotes)
    (entries_noted hnoted hall) (hnotes.ended hended) ?_
  rw [hnoted.speaker, hspeaker]
  exact Known.of_expectedState

/-! ### Every step -/

/-- A step of a worker that serves no entry, before and after it. -/
lemma Scheduled.unoccupied (h : Scheduled env cfg s) (hs : s.activeControl = none)
    (hcrash : ∀ e, s.worker ≠ some (.crashed e)) (hgrows : Grows none s.log t.log)
    (hentries : History.Each (EntryOk env) t.log) (hframe : Framed s t)
    (ht : t.activeControl = none)
    (hknown : Known s.snapshot.speaker → Known t.snapshot.speaker)
    (hloop : s.worker = some .loop → t.controls = [] ∨ t.worker = some .loop ∨
      t.closing = true) : Scheduled env cfg t := by
  refine h.rest (hs ▸ hgrows) hentries ht (.inl hframe.controls) hframe.acceptedCount
    (fun hc => hframe.closing.trans hc) ?_ (fun e hw => absurd hw (hcrash e)) hknown hloop
  intro j hj
  rw [live_of_inactive hs] at hj
  exact .inl (hframe.controls ▸ hj)

lemma Scheduled.coalesced (h : Scheduled env cfg s) (hi : s.idle = true)
    (hc : s.closing = false) {job : Control} {command : Command}
    (hj : s.coalescingEntry command = some job) :
    Scheduled env cfg (s.coalesce env job command) := by
  obtain ⟨hkind, hkind', hcontrols⟩ := coalescingEntry_eq_some hj
  have hsub : s.log ⊆ (s.coalesce env job command).log := List.subset_cons_self _ _
  refine h.enqueued hi hc rfl (fun _ => rfl) hsub ?_ ⟨trivial, h.entries⟩ rfl rfl rfl le_rfl h.ids
    (.inl ?_) (fun id hid => .inl hid) ?_
  · intro o ho id hid
    rcases List.mem_cons.mp ho with rfl | ho
    · cases hid
    · exact ho
  · show (s.activeControl.toList ++ (s.controls.dropLast ++ [_])).map Control.id =
      (s.activeControl.toList ++ s.controls).map Control.id
    conv_rhs => rw [hcontrols]
    simp
  · intro j hmem
    have hjob : job ∈ s.controls := by
      rw [hcontrols]
      exact List.mem_append_right _ (List.mem_singleton_self _)
    rcases List.mem_append.mp (show j ∈ s.controls.dropLast ++ [_] from hmem) with hold | hlast
    · have hmem' := List.mem_of_mem_dropLast hold
      exact ⟨(h.admitted j (mem_live_of_queued hmem')).subset hsub, .inr ⟨j, hmem', rfl⟩⟩
    · rw [List.mem_singleton.mp hlast]
      obtain ⟨⟨command', hacc, hk⟩, time, hresult⟩ := h.admitted job (mem_live_of_queued hjob)
      refine ⟨⟨⟨command', hsub hacc, ?_⟩, time, ?_⟩, .inr ⟨job, hjob, rfl⟩⟩
      · rw [hk, hkind', ← hkind]
      · rw [hkind'] at hresult
        rw [hkind]
        exact hresult

lemma Scheduled.accepted (h : Scheduled env cfg s) (hi : s.idle = true)
    (hc : s.closing = false) {command : Command} :
    Scheduled env cfg (s.accept env cfg command) := by
  have hsub : s.log ⊆ (s.accept env cfg command).log :=
    fun o ho => List.mem_cons_of_mem _ (List.mem_cons_of_mem _ ho)
  refine h.enqueued hi hc rfl (fun _ => rfl) hsub ?_ ⟨?_, trivial, h.entries⟩ rfl rfl rfl
    (Nat.le_succ _) ?_ (.inr ?_) ?_ ?_
  · intro o ho id hid
    rcases List.mem_cons.mp ho with rfl | ho
    · cases hid
    rcases List.mem_cons.mp ho with rfl | ho
    · cases hid
    · exact ho
  · intro o ho id hid
    rcases List.mem_cons.mp ho with rfl | ho
    · cases hid
    · exact h.subjects o ho id hid
  · show s.acceptedCount :: acceptedIds s.log = (List.range (s.acceptedCount + 1)).reverse
    rw [List.range_succ, List.reverse_append, h.ids]
    rfl
  · show (s.activeControl.toList ++ (s.controls ++ [_])).map Control.id = _
    rw [← List.append_assoc, List.map_append]
    rfl
  · intro id hid
    rcases List.mem_cons.mp (show id ∈ s.acceptedCount :: acceptedIds s.log from hid) with rfl | hid
    · refine .inr ⟨s.newEntry env cfg command, ?_, rfl⟩
      exact mem_live_of_queued (List.mem_append_right _ (List.mem_singleton_self _))
    · exact .inl hid
  · intro j hj
    rcases List.mem_append.mp (show j ∈ s.controls ++ [_] from hj) with hold | hnew
    · exact ⟨(h.admitted j (mem_live_of_queued hold)).subset hsub, .inr ⟨j, hold, rfl⟩⟩
    · rw [List.mem_singleton.mp hnew]
      exact ⟨⟨⟨command, List.mem_cons_self, rfl⟩, _, rfl⟩, .inl rfl⟩

/-- The step that a reply makes on a worker without an entry. -/
lemma Scheduled.answered (h : Scheduled env cfg s) {w : Worker} (hw : s.worker = some w)
    (hjob : w.job? = none) (hended : w.ended = false) (hloop : w ≠ .loop) {l : Ledger ρ}
    (o : Obs ρ) (hlog : l.log = o :: s.log) (hnoted : Ledger.Noted l t.toLedger)
    (hcall : o.call? = none) (hacc : o.acceptedId? = none) (hsubject : o.subject? = none)
    (hframe : Framed s t) (ht : t.worker = some .loop)
    (hknown : Known s.snapshot.speaker → Known l.snapshot.speaker) : Scheduled env cfg t := by
  have hentry : History.Each (EntryOk env) l.log := by
    rw [hlog]
    refine ⟨?_, h.entries⟩
    cases o with
    | started => cases hcall
    | accepted => cases hacc
    | completed => cases hsubject
    | _ => exact trivial
  have hone : Grows none s.log l.log := by
    rw [hlog]
    exact .cons hcall hacc (by simp [hsubject])
  refine h.unoccupied (by simp [activeControl, hw, hjob]) ?_ (hone.trans (.of_noted hnoted))
    (entries_noted hnoted hentry) hframe (activeControl_of_worker ht) ?_ ?_
  · rintro e hw'
    rw [hw] at hw'
    cases hw'
    cases hended
  · rw [hnoted.speaker]
    exact hknown
  · intro hw'
    rw [hw] at hw'
    exact absurd (Option.some.inj hw') hloop

/-- What the log holds when an attempt is made. -/
lemma setOk_of_attempt {job : Control} {failure : Option Failure} {request : List UInt8}
    (hphase : PhaseOk cfg s (.attempt job failure))
    (hq : cfg.request s.snapshot.speaker job.command = .ok request) :
    SetOk job.id job.command.kind request s.log (attemptNumber failure) := by
  cases failure with
  | none =>
    obtain ⟨hsets, hreplies, hgets⟩ := hphase
    exact .first hsets hreplies (hgets.imp_right And.left)
  | some failure =>
    obtain ⟨request', ⟨hrequest, -⟩, hsets, ⟨r, hreplies, hr⟩, hrej, -⟩ := hphase
    rw [hq] at hrequest
    cases hrequest
    exact .retry r _ hsets hreplies hr hrej

/-- A volume GET is started for an entry that has had none. -/
lemma Scheduled.volumeGetStarted (h : Scheduled env cfg s) {job : Control}
    (hw : s.worker = some (.control job)) (hd : s.now env < job.deadline)
    (hk : job.command.kind.isRelative = true)
    (hunknown : s.snapshot.speaker.volume = none ∨ s.snapshot.speaker.muted = none) :
    Scheduled env cfg (((s.record Ledger.tick).record Ledger.tick).startCall
      (.volumeGet job.id job.command.kind) (some ((s.record Ledger.tick).remaining env job))
      (.volumeGet job)) := by
  have hs : s.activeControl = some job := activeControl_of_worker hw
  obtain ⟨hc, hsets, hreplies, hgets⟩ := h.phase _ hw
  have hnoget : gets job.id s.log = [] := by
    refine hgets.resolve_right ?_
    rintro ⟨-, hv, hm⟩
    exact hunknown.elim hv hm
  refine h.calledFor hc hs rfl rfl rfl rfl rfl rfl rfl rfl (by simp [Ledger.tick]) hd ?_ ?_ rfl
    rfl ?_
  · intro kind hcall
    cases hcall
    exact ⟨hk, hnoget, hsets⟩
  · intro kind attempt request hcall
    cases hcall
  · rintro w hw'
    cases hw'
    exact ⟨hsets, hreplies, rfl⟩

/-- A SET is started, the first or the second of its entry. -/
lemma Scheduled.setStarted (h : Scheduled env cfg s) {job : Control} {failure : Option Failure}
    {request : List UInt8} (hw : s.worker = some (.attempt job failure)) (hc : s.closing = false)
    (hd : s.now env < job.deadline)
    (hq : cfg.request s.snapshot.speaker job.command = .ok request) :
    Scheduled env cfg (((s.record Ledger.tick).record Ledger.tick).startCall
      (.set job.id job.command.kind (attemptNumber failure) request)
      (some ((s.record Ledger.tick).remaining env job))
      (.setting { job with command := cfg.executed s.snapshot.speaker job.command } failure
        request)) := by
  have hs : s.activeControl = some job := activeControl_of_worker hw
  have hvalue : cfg.executed s.snapshot.speaker (cfg.executed s.snapshot.speaker job.command) =
      cfg.executed s.snapshot.speaker job.command := by
    cases job.command <;> rfl
  refine h.calledFor hc hs rfl rfl rfl rfl (Config.kind_executed _ _ _) rfl rfl rfl
    (by simp [Ledger.tick]) hd ?_ ?_ rfl rfl ?_
  · intro kind hcall
    cases hcall
  · intro kind attempt request' hcall
    cases hcall
    exact setOk_of_attempt (h.phase _ hw) hq
  · rintro w hw'
    cases hw'
    have hrequest :=
      (cfg.request_executed s.snapshot.speaker s.snapshot.speaker job.command).trans hq
    cases failure with
    | none =>
      obtain ⟨hsets, hreplies, -⟩ := h.phase _ hw
      refine ⟨⟨hrequest, hvalue⟩, ?_, hreplies⟩
      show sets job.id (.started _ (.set job.id _ 0 request) _ :: s.log) = _
      rw [sets_started, hsets, Config.kind_executed]
    | some failure =>
      obtain ⟨request', ⟨hrequest', -⟩, hsets, ⟨r, hreplies, hr⟩, hrej, hatt⟩ := h.phase _ hw
      rw [hq] at hrequest'
      cases hrequest'
      refine ⟨⟨hrequest, hvalue⟩, ?_, ⟨r, hreplies, hr⟩, hrej, hatt⟩
      show sets job.id (.started _ (.set job.id _ 1 request) _ :: s.log) = _
      rw [sets_started, hsets, Config.kind_executed]

/-- An entry fails with the volume GET that was made for it. -/
lemma Scheduled.volumeGetFailed (h : Scheduled env cfg s) {job : Control} {r : ρ} {e : LsxError}
    (hw : s.worker = some (.volumeGet job)) (hr : Client.asyncGetVolume r = .error e) :
    Scheduled env cfg (s.volumeGetFailed env cfg job r e) := by
  have hs : s.activeControl = some job := activeControl_of_worker hw
  obtain ⟨-, hreplies, -⟩ := h.phase _ hw
  have hend : EndOk job.id (job.failedResult (s.wall env) (.lsx e) e.writeAttempted)
      (.volumeEnded job.id r (s.now env) :: s.log) (.failed e) :=
    .unread r _ _ e rfl hreplies hr rfl rfl rfl
  refine h.finished hs framed_volumeGetFailed rfl
    (Grows.trans (.cons rfl rfl (by simp [Obs.subject?]))
      (.cons rfl rfl (by simp [Obs.subject?])))
    ⟨⟨?_, hend⟩, trivial, h.entries⟩ ⟨_, List.mem_cons_self, rfl⟩ id
  exact fun hended => h.unfinished job (mem_live_of_active hs) (hended.of_cons id)

/-- An entry ends without an attempt. -/
lemma Scheduled.attemptsTimedOut (h : Scheduled env cfg s) {job : Control} {s' : Runtime ρ}
    (hw : s.worker = some (.attempt job none)) (hs : s.LeavesAttempts env job s') :
    Scheduled env cfg (s'.controlTimedOut env cfg job) := by
  have hactive : s.activeControl = some job := activeControl_of_worker hw
  have hreplies := (show Untried s job from h.phase _ hw).replies
  have hlog : s'.log = s.log := by cases hs <;> rfl
  have hend : EndOk job.id (job.failedResult (s'.wall env) deadlineExpired false) s'.log
      .timedOut :=
    .late _ (.inl rfl) (hlog ▸ hreplies) rfl rfl rfl
  refine h.finished hactive (hs.framed.trans framed_controlTimedOut) rfl ?_
    ⟨⟨hlog ▸ h.unfinished job (mem_live_of_active hactive), hend⟩, hlog ▸ h.entries⟩
    ⟨_, List.mem_cons_self, rfl⟩ ?_
  · exact (Grows.of_noted hs.noted).trans (.cons rfl rfl (by simp [Obs.subject?]))
  · rw [← hs.noted.speaker]
    exact id

/-- An entry ends after its first attempt. -/
lemma Scheduled.attemptsLeft (h : Scheduled env cfg s) {job : Control} {failure : Failure}
    {s' : Runtime ρ} (hw : s.worker = some (.attempt job (some failure)))
    (hs : s.LeavesAttempts env job s') :
    Scheduled env cfg (s'.controlFailed env cfg job failure) := by
  have hactive : s.activeControl = some job := activeControl_of_worker hw
  obtain ⟨request, -, -, ⟨r, hreplies, hr⟩, -, hattempted⟩ := h.phase _ hw
  have hlog : s'.log = s.log := by cases hs <;> rfl
  refine h.failed hactive hs.framed (.of_noted hs.noted) (hlog ▸ h.entries) hs.noted.speaker
    (hlog ▸ h.unfinished job (mem_live_of_active hactive)) ?_
  refine .failed r [] _ (hlog ▸ hreplies) hr ?_ ?_ rfl rfl
  · simp [Control.failedResult, hr, hattempted]
  · simp [hr]

/-- Every step preserves the invariant. -/
theorem Scheduled.step (h : Scheduled env cfg s)
    (hclose : s.closeTask ≠ .notStarted → s.closing = true) (hst : step env cfg s e = some t) :
    Scheduled env cfg t := by
  cases Rule.of_step hst with
  | setPublisher => exact h.undisturbed .refl h.entries (.inl ⟨rfl, rfl⟩)
  | alreadyStarted => exact h
  | started hw | startedClosing hw =>
    have hs : s.activeControl = none := by simp [activeControl, hw]
    refine h.rest (.cons rfl rfl (by simp [Obs.subject?])) ⟨trivial, h.entries⟩ rfl (.inl rfl) rfl
      id ?_ (by simp [hw]) id (by simp [hw])
    rw [live_of_inactive hs]
    exact fun j hj => .inl hj
  | submitClosed => exact h
  | coalesced r job hi hc hj => exact h.coalesced hi hc hj
  | refused => exact h.undisturbed .refl h.entries (.inl ⟨rfl, rfl⟩)
  | accepted r hi hc => exact h.accepted hi hc
  | pollClosed => exact h
  | polled => exact h.undisturbed .refl h.entries (.inl ⟨rfl, rfl⟩)
  | callerCancelled => exact h.undisturbed .refl h.entries (.inl ⟨rfl, rfl⟩)
  | closeShared => exact h
  | closeBegun hi =>
    obtain ⟨hworker, hledger, hcontrols, hclosing, hcount, -⟩ := frame_beginClose (s := s)
    have hlog : s.beginClose.log = s.log := by rw [hledger]; rfl
    exact h.undisturbed (hlog ▸ .refl) (hlog ▸ h.entries) (.inr ⟨hcontrols, hclosing, hi⟩) hworker
      (by rw [hledger]; rfl) hcount
  | shutdownTimedOut => exact h.undisturbed .refl h.entries (.inl ⟨rfl, rfl⟩)
  | joined w hw he =>
    have hs : s.activeControl = none := by
      rcases he with rfl | rfl <;> simp [activeControl, hw, Worker.job?]
    refine h.rest .refl h.entries rfl (.inl rfl) rfl id ?_ ?_ id ?_
    · rw [live_of_inactive hs]
      exact fun j hj => .inl hj
    · intro e hw'
      rcases he with rfl | rfl <;> rw [hw] at hw' <;> cases hw'
    · intro hw'
      rcases he with rfl | rfl <;> rw [hw] at hw' <;> cases hw'
  | joinFailed => exact h.undisturbed .refl h.entries (.inl ⟨rfl, rfl⟩)
  | clientClosed => exact h.undisturbed .refl h.entries (.inl ⟨rfl, rfl⟩)
  | workerCancelled w hw hr he hct =>
    have hc : s.closing = true := hclose (by simp [hct])
    refine h.rest .refl h.entries rfl (.inl rfl) rfl id ?_ ?_ id ?_
    · exact fun j hj => .inr (.inr (.inl hc))
    · intro e hw'
      rw [hw] at hw'
      cases hw'
      cases he
    · exact fun _ => .inr (.inr hc)
  | workerBegun hw =>
    exact h.unoccupied (activeControl_of_worker hw) (by simp [hw]) .refl h.entries
      framed_goto rfl id (fun _ => .inr (.inl rfl))
  | workerReturned hw hc =>
    exact h.unoccupied (activeControl_of_worker hw) (by simp [hw]) .refl h.entries
      framed_goto rfl id (fun _ => .inr (.inr hc))
  | controlSelected job rest hw hc hq => exact h.selected hc hw hq
  | verificationStarted hw hc hq => exact h.called hc hw hq rfl rfl rfl hq rfl
  | pollStarted hw hc hq => exact h.called hc hw hq rfl rfl rfl hq rfl
  | maintenanceStarted hw hc hq => exact h.called hc hw hq rfl rfl rfl hq rfl
  | maintenanceSkipped hw =>
    exact h.unoccupied (activeControl_of_worker hw) (by simp [hw]) .refl h.entries
      (framed_record.trans (framed_flags.trans framed_goto)) rfl id (fun _ => .inr (.inl rfl))
  | waited hw hc hq =>
    exact h.unoccupied (activeControl_of_worker hw) (by simp [hw]) .refl h.entries
      (framed_record.trans (framed_flags.trans framed_goto)) rfl id (fun _ => .inl hq)
  | woken timeout hw =>
    exact h.unoccupied (activeControl_of_worker hw) (by simp [hw]) .refl h.entries
      framed_goto rfl id (fun _ => .inr (.inl rfl))
  | timedOut timeout hw =>
    exact h.unoccupied (activeControl_of_worker hw) (by simp [hw]) .refl h.entries
      framed_goto rfl id (fun _ => .inr (.inl rfl))
  | stateFailed reason r e hw =>
    exact h.answered hw rfl rfl (by simp) _ rfl noted_stateExchangeFailed rfl rfl rfl
      framed_stateExchangeFailed rfl id
  | stateDone reason r status hw =>
    exact h.answered hw rfl rfl (by simp) _ rfl noted_stateExchangeDone rfl rfl rfl
      framed_stateExchangeDone rfl id
  | maintenanceFailed r e hw =>
    exact h.answered hw rfl rfl (by simp) (.maintenanceEnded r (s.now env)) rfl .refl rfl rfl rfl
      framed_maintenanceFailed rfl id
  | maintenanceDone r status hw =>
    exact h.answered hw rfl rfl (by simp) (.maintenanceEnded r _) rfl .refl rfl rfl rfl
      framed_maintenanceDone rfl (fun _ => ⟨Option.some_ne_none _, Option.some_ne_none _⟩)
  | controlSkipped job hw =>
    have hs : s.activeControl = some job := activeControl_of_worker hw
    exact h.finished hs (framed_record.trans framed_goto) rfl
      (.cons rfl rfl (by simp [Obs.subject?])) ⟨trivial, h.entries⟩
      ⟨_, List.mem_cons_self, rfl⟩ id
  | controlExpired job hw hlive hd =>
    have hs : s.activeControl = some job := activeControl_of_worker hw
    have hend : EndOk job.id (job.failedResult (s.wall env) deadlineExpired false) s.log .expired :=
      .late _ (.inr rfl) (h.phase _ hw).2.replies rfl rfl rfl
    exact h.finished hs (framed_record.trans (framed_finishControlError.trans framed_goto)) rfl
      (.cons rfl rfl (by simp [Obs.subject?]))
      ⟨⟨h.unfinished job (mem_live_of_active hs), hend⟩, h.entries⟩
      ⟨_, List.mem_cons_self, rfl⟩ id
  | volumeGetStarted job hw hlive hd hk hunknown => exact h.volumeGetStarted hw hd hk hunknown
  | attemptsBegun job hw =>
    have hs : s.activeControl = some job := activeControl_of_worker hw
    refine h.proceeds hs rfl .refl h.entries rfl rfl rfl rfl id ?_
    rintro w hw'
    cases hw'
    exact (h.phase _ hw).2.congr rfl rfl id
  | volumeGetFailed job r e hw hr => exact h.volumeGetFailed hw hr
  | volumeGetDone job r status hw =>
    exact h.resumed hw rfl rfl rfl rfl rfl ⟨Option.some_ne_none _, Option.some_ne_none _⟩
  | attemptsTimedOut job s' hw hs => exact h.attemptsTimedOut hw hs
  | attemptsLeft job failure s' hw hs => exact h.attemptsLeft hw hs
  | workerCrashed job failure e hw =>
    refine h.rest .refl h.entries rfl (.inl rfl) rfl id ?_ ?_ id ?_
    · exact fun j hj => .inr (.inr (.inr ⟨e, rfl⟩))
    · intro e' hw'
      rw [hw] at hw'
      cases hw'
    · intro hw'
      rw [hw] at hw'
      cases hw'
  | setStarted job failure request hw hc hd hq => exact h.setStarted hw hc hd hq
  | setRejected job first request r e hw hr he =>
    have hs : s.activeControl = some job := activeControl_of_worker hw
    refine h.failed hs (framed_record.trans framed_record) (.cons rfl rfl (by simp [Obs.subject?]))
      ⟨trivial, h.entries⟩ rfl
      (fun hended => h.unfinished job (mem_live_of_active hs) (hended.of_cons id)) ?_
    exact endOk_after (h.phase _ hw) hr _ _ _
  | firstFailed job request r e hw hr he =>
    have hs : s.activeControl = some job := activeControl_of_worker hw
    obtain ⟨⟨hrequest, hvalue⟩, hsets, hreplies⟩ := h.phase _ hw
    refine h.proceeds hs rfl (.cons rfl rfl (by simp [Obs.subject?])) ⟨trivial, h.entries⟩ rfl rfl
      rfl rfl (fun hended => hended.of_cons id) ?_
    rintro w hw'
    cases hw'
    refine ⟨request, ⟨hrequest, hvalue⟩, hsets, ⟨r, ?_, hr⟩, he, by simp [Failure.after]⟩
    exact setReplies_setEnded.trans (by rw [hreplies])
  | secondFailed job first request r e hw hr he =>
    have hs : s.activeControl = some job := activeControl_of_worker hw
    refine h.failed hs framed_record (.cons rfl rfl (by simp [Obs.subject?]))
      ⟨trivial, h.entries⟩ rfl
      (fun hended => h.unfinished job (mem_live_of_active hs) (hended.of_cons id)) ?_
    exact endOk_after (h.phase _ hw) hr _ _ _
  | setAcknowledged job first request r hw hr => exact h.acknowledged hw hr
  | slept job failure delay hw =>
    have hs : s.activeControl = some job := activeControl_of_worker hw
    refine h.proceeds hs rfl .refl h.entries rfl rfl rfl rfl id ?_
    rintro w hw'
    cases hw'
    exact (h.phase _ hw).congr rfl (fun _ => rfl) rfl (.inl rfl)

/-- The invariant holds in every reachable state. -/
theorem Scheduled.of_reachable (h : Transition.Reachable (Runtime.step env cfg) {} s) :
    Scheduled env cfg s := by
  refine h.invariant ?_ fun hr hs _ hst => hs.step (closing_iff hr).mpr hst
  refine ⟨?_, ?_, rfl, ?_, ?_, ?_, ?_, ?_, ?_, trivial⟩ <;>
    simp [live, activeControl, calls, acceptedIds]

end Runtime

end KefLsx
