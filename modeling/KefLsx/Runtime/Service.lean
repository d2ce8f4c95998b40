import Mathlib.Data.List.Nodup
import KefLsx.Runtime.Exchanges

/-!
# Order and budget of the exchanges

What the invariant says about the log of a whole run. Controls are served first and in the order
of their acceptance, and each under the deadline of its own acceptance, with at most one volume
GET, and with at most two SETs of one and the same request.
-/

namespace KefLsx

namespace Log

variable {ρ : Type} {id : ℕ} {log : List (Obs ρ)}

/-- An exchange of the entry has been started, or the entry was skipped or completed. -/
def Begun (id : ℕ) (log : List (Obs ρ)) : Prop := ∃ o ∈ log, o.subject? = some id

lemma Ended.begun (h : Ended id log) : Begun id log := by
  obtain ⟨o, ho, hends⟩ := h
  refine ⟨o, ho, ?_⟩
  cases o with
  | skipped | completed => exact congrArg some hends
  | _ => exact False.elim hends

/-- An entry is accepted once. -/
lemma accepted_unique (h : (acceptedIds log).Nodup) {command command' : Command}
    {deadline deadline' : Time} (hmem : .accepted id command deadline ∈ log)
    (hmem' : .accepted id command' deadline' ∈ log) :
    command = command' ∧ deadline = deadline' := by
  induction log with
  | nil => cases hmem
  | cons o log ih =>
    have hrest : (acceptedIds log).Nodup := h.sublist ((List.sublist_cons_self o log).filterMap _)
    rcases List.mem_cons.mp hmem with rfl | hold <;> rcases List.mem_cons.mp hmem' with heq | hold'
    · cases heq
      exact ⟨rfl, rfl⟩
    · exact absurd (mem_acceptedIds.mpr ⟨_, _, hold'⟩) (List.nodup_cons.mp h).1
    · subst heq
      exact absurd (mem_acceptedIds.mpr ⟨_, _, hold⟩) (List.nodup_cons.mp h).1
    · exact ih hrest hold hold'

end Log

namespace Runtime

open Log

variable {ρ : Type} [Client ρ] {env : Env} {cfg : Config} {s t : Runtime ρ}

/-! ### Order -/

/-- Controls are served first and in order. The entries of the queue are numbered by their
acceptance. -/
structure ServedInOrder (s : Runtime ρ) : Prop where
  /-- The entries have been accepted in the order of their numbers. -/
  numbered : acceptedIds s.log = (List.range s.acceptedCount).reverse
  /-- While an accepted control waits for its first exchange, no exchange is started but for
  itself or for an entry accepted earlier. -/
  priority : ∀ later reads call remaining earlier,
    s.log = later ++ .started reads call remaining :: earlier →
      ∀ id ∈ acceptedIds earlier, ¬ Begun id earlier → ∃ id' ∈ call.owner, id' ≤ id
  /-- A SET is started after those of the entries accepted earlier only. -/
  order : ∀ later reads id kind attempt request remaining earlier,
    s.log = later ++ .started reads (.set id kind attempt request) remaining :: earlier →
      ∀ id' kind' attempt' request', .set id' kind' attempt' request' ∈ calls earlier → id' ≤ id
  /-- No exchange is started between the volume GET of an entry and its first SET. -/
  continuation : ∀ later reads id kind request remaining earlier,
    s.log = later ++ .started reads (.set id kind 0 request) remaining :: earlier →
      gets id earlier ≠ [] → (calls earlier).head? = some (.volumeGet id kind)
  /-- All exchanges of a turn_on, turn_off, select_source or set_volume are SETs. -/
  direct : ∀ later reads call remaining earlier,
    s.log = later ++ .started reads call remaining :: earlier →
      ∀ id ∈ call.owner, ∀ command deadline, .accepted id command deadline ∈ earlier →
        command.kind.isRelative = false → ∃ attempt request,
          call = .set id command.kind attempt request

/-- In every run, controls are served first and in the order of their acceptance; an exchange
that serves no entry is started only when the queue is empty. -/
theorem servedInOrder (h : Transition.Reachable (step env cfg) {} s) :
    ServedInOrder s ∧ ∀ e t reads call remaining, step env cfg s e = some t →
      t.log = .started reads call remaining :: s.log → call.owner = none → s.controls = [] := by
  have hinv := Scheduled.of_reachable h
  have hentries := History.each_iff.mp hinv.entries
  refine ⟨⟨hinv.ids, ?_, ?_, ?_, ?_⟩, ?_⟩
  · intro later reads call remaining earlier hlog id hid hnot
    have hstart : StartOk env reads call earlier := hentries _ _ _ hlog
    exact hstart.first id hid fun hend => hnot hend.begun
  · intro later reads id kind attempt request remaining earlier hlog id' _ _ _ hmem
    have hstart : StartOk env reads _ earlier := hentries _ _ _ hlog
    exact hstart.inOrder _ hmem id' rfl id rfl
  · intro later reads id kind request remaining earlier hlog hne
    have hstart : StartOk env reads _ earlier := hentries _ _ _ hlog
    cases hstart.set id kind 0 request rfl with
    | first hsets hreplies hgets => exact hgets.resolve_left hne
  · intro later reads call remaining earlier hlog id hid command deadline hacc hdirect
    have hstart : StartOk env reads call earlier := hentries _ _ _ hlog
    have hnodup : (acceptedIds earlier).Nodup := by
      have hall : (acceptedIds s.log).Nodup := by
        rw [hinv.ids]
        exact List.nodup_reverse.mpr List.nodup_range
      rw [hlog] at hall
      exact hall.sublist (((List.sublist_cons_self _ _).trans
        (List.sublist_append_right _ _)).filterMap _)
    obtain ⟨command', deadline', hacc', hkind, -⟩ := hstart.admitted id hid
    obtain ⟨rfl, -⟩ := accepted_unique hnodup hacc hacc'
    cases call with
    | sourceGet | maintenanceGet => cases hid
    | volumeGet id' kind =>
      cases hkind
      have hrel := (hstart.volumeGet _ _ rfl).1
      rw [hdirect] at hrel
      cases hrel
    | set id' kind attempt request =>
      cases hid
      cases hkind
      exact ⟨attempt, request, rfl⟩
  · intro e t reads call remaining hst hlog howner
    exact (starts_of_started (.of_step hst) hlog).controls_eq_nil howner

/-- A mute with unknown volume and a select_source, both submitted during the first poll. -/
theorem servedInOrder_mute_selectSource : ∃ s : Runtime Transcript,
    Transition.Reachable (step .ticking .ofOptions) {} s ∧
    (calls s.log).map Call.owner = [some 1, some 0, some 0, none] ∧ ServedInOrder s := by
  have hrun : (Transition.run (step .ticking .ofOptions)
      [.start, .run, .run, .submit (.mute true), .submit (.selectSource .opt),
        .reply (Transcript.source 0x0B), .run, .run,
        .reply (Transcript.volume 20), .run, .run, .run,
        .reply (Transcript.status 0x11), .run, .run, .run] {}).any
      (fun s => (calls s.log).map Call.owner = [some 1, some 0, some 0, none]) = true := by
    decide +kernel
  obtain ⟨s, hs, hcalls⟩ := Transition.exists_reachable_of_run hrun
  exact ⟨s, hs, of_decide_eq_true hcalls, (servedInOrder hs).1⟩

/-! ### Budget -/

/-- A volume GET is the first exchange of its entry, so there is at most one. -/
lemma length_gets_le {id : ℕ} {log : List (Obs ρ)} (h : History.Each (EntryOk env) log) :
    (gets id log).length ≤ 1 := by
  induction log with
  | nil => exact Nat.zero_le _
  | cons o log ih =>
    obtain ⟨ho, hlog⟩ := h
    by_cases hget : ∃ kind, o.call? = some (.volumeGet id kind)
    · obtain ⟨kind, hcall⟩ := hget
      cases o with
      | started reads call remaining =>
        cases hcall
        have hstart : StartOk env reads (.volumeGet id kind) log := ho
        rw [gets_started, (hstart.volumeGet id kind rfl).2.1]
        exact le_rfl
      | _ => cases hcall
    · rw [gets_cons_of_ne fun kind hcall => hget ⟨kind, hcall⟩]
      exact ih hlog

/-- A SET is the first or the second of its entry. -/
lemma length_sets_le {id : ℕ} {log : List (Obs ρ)} (h : History.Each (EntryOk env) log) :
    (sets id log).length ≤ 2 := by
  induction log with
  | nil => exact Nat.zero_le _
  | cons o log ih =>
    obtain ⟨ho, hlog⟩ := h
    by_cases hset : ∃ kind attempt request, o.call? = some (.set id kind attempt request)
    · obtain ⟨kind, attempt, request, hcall⟩ := hset
      cases o with
      | started reads call remaining =>
        cases hcall
        have hstart : StartOk env reads (.set id kind attempt request) log := ho
        rw [sets_started, List.length_cons]
        cases hstart.set id kind attempt request rfl with
        | first hsets => rw [hsets]; exact Nat.le_succ _
        | retry r e hsets => rw [hsets]; exact le_rfl
      | _ => cases hcall
    · rw [sets_cons_of_ne fun kind attempt request hcall => hset ⟨kind, attempt, request, hcall⟩]
      exact ih hlog

/-- A control is executed under one budget: what the log of a run holds about the entry `id`. -/
structure WithinBudget (env : Env) (s : Runtime ρ) (id : ℕ) : Prop where
  oneGet : (gets id s.log).length ≤ 1
  twoSets : (sets id s.log).length ≤ 2
  /-- The reading of the clock before that of `_client_deadline` is the last before an exchange
  of the entry, and is below the deadline of its acceptance. -/
  deadline : ∀ later reads call remaining earlier,
    s.log = later ++ .started reads call remaining :: earlier → call.owner = some id →
      ∃ command deadline, .accepted id command deadline ∈ earlier ∧ 2 ≤ reads ∧
        env.monotonic (reads - 2) < deadline
  /-- A second SET repeats the request of the first, which raised an error that is no
  rejection. -/
  retry : ∀ later reads kind attempt request remaining earlier,
    s.log = later ++ .started reads (.set id kind attempt request) remaining :: earlier →
      sets id earlier ≠ [] → sets id earlier = [.set id kind 0 request] ∧
        ∃ r e, setReplies id earlier = [r] ∧ Client.asyncSet r = .error e ∧ e.isRejection = false
  /-- No SET follows an acknowledgement or a rejection. -/
  final : ∀ later reads kind attempt request remaining earlier,
    s.log = later ++ .started reads (.set id kind attempt request) remaining :: earlier →
      ∀ r ∈ setReplies id earlier, ∃ e, Client.asyncSet r = .error e ∧ e.isRejection = false

/-- In every run, every entry is served within its budget. -/
theorem withinBudget (h : Transition.Reachable (step env cfg) {} s) (id : ℕ) :
    WithinBudget env s id := by
  have hinv := Scheduled.of_reachable h
  have hentries := History.each_iff.mp hinv.entries
  refine ⟨length_gets_le hinv.entries, length_sets_le hinv.entries, ?_, ?_, ?_⟩
  · intro later reads call remaining earlier hlog howner
    have hstart : StartOk env reads call earlier := hentries _ _ _ hlog
    obtain ⟨command, deadline, hacc, -, hreads, htime⟩ := hstart.admitted id howner
    exact ⟨command, deadline, hacc, hreads, htime⟩
  · intro later reads kind attempt request remaining earlier hlog hne
    have hstart : StartOk env reads _ earlier := hentries _ _ _ hlog
    cases hstart.set id kind attempt request rfl with
    | first hsets => exact absurd hsets hne
    | retry r e hsets hreplies hr he => exact ⟨hsets, r, e, hreplies, hr, he⟩
  · intro later reads kind attempt request remaining earlier hlog r hr
    have hstart : StartOk env reads _ earlier := hentries _ _ _ hlog
    cases hstart.set id kind attempt request rfl with
    | first hsets hreplies =>
      rw [hreplies] at hr
      cases hr
    | retry r' e hsets hreplies hr' he =>
      rw [hreplies, List.mem_singleton] at hr
      exact ⟨e, hr ▸ hr', he⟩

/-- A turn_on that is written again after its first answer was lost. -/
theorem withinBudget_turnOn_retried : ∃ s : Runtime Transcript,
    Transition.Reachable (step .ticking .ofOptions) {} s ∧
    sets 0 s.log = [.set 0 .turnOn 1 [0x53, 0x30, 0x81, 0x2B],
      .set 0 .turnOn 0 [0x53, 0x30, 0x81, 0x2B]] ∧ WithinBudget .ticking s 0 := by
  have hrun : (Transition.run (step .ticking .ofOptions)
      [.start, .run, .run, .reply (Transcript.source 0x2B), .run,
        .reply (Transcript.volume 20), .run, .submit .turnOn, .woken, .run, .run,
        .run, .reply (Transcript.connected [] .deadline), .slept, .run] {}).any
      (fun s => sets 0 s.log = [.set 0 .turnOn 1 [0x53, 0x30, 0x81, 0x2B],
        .set 0 .turnOn 0 [0x53, 0x30, 0x81, 0x2B]]) = true := by
    decide +kernel
  obtain ⟨s, hs, hsets⟩ := Transition.exists_reachable_of_run hrun
  exact ⟨s, hs, of_decide_eq_true hsets, withinBudget hs 0⟩

end Runtime

end KefLsx
