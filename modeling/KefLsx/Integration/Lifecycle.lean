import KefLsx.Core.Table
import KefLsx.Runtime.Effects

/-!
# The life of a config entry

`async_setup_entry` and `async_unload_entry`, with the runtimes that the setups create. Home
Assistant makes one attempt after the other, and a setup only while the entry is not set up. An
attempt may be cancelled, and what it awaits may raise, at each of its awaits; meanwhile every
runtime that was ever created takes its own steps.

Between two attempts the only live worker is the one of the stored runtime, where no setup is left
at its first poll and none begins while an earlier worker is still closing. A setup that is left
there has neither stored its runtime nor closes it.
-/

namespace KefLsx

namespace Integration

variable {ρ : Type}

/-- Where an attempt is suspended. -/
inductive Attempt where
  /-- In the first poll of `async_create_runtime`. -/
  | firstPoll (runtime : ℕ)
  /-- In `async_forward_entry_setups`. -/
  | forwarding (runtime : ℕ)
  /-- In the `async_close` of the `except` block. -/
  | abandoning (runtime : ℕ)
  /-- In `async_unload_platforms`. -/
  | unloading
  /-- In the `async_close` of `async_unload_entry`. -/
  | closing (runtime : ℕ)
deriving DecidableEq

/-- A runtime, and whether `async_close` has created its task. -/
structure Managed (ρ : Type) where
  runtime : Runtime ρ
  closeCalled : Bool := false

/-- The worker's task exists and is not done. -/
def Managed.live (m : Managed ρ) : Bool := m.runtime.worker.any fun w => !w.ended

/-- The entry, and the runtimes in the order in which they were created. -/
structure State (ρ : Type) where
  runtimes : List (Managed ρ) := []
  runtimeData : Option ℕ := none
  attempt : Option Attempt := none
  /-- The last setup succeeded, and no unload has since. -/
  loaded : Bool := false

inductive Event (ρ : Type) where
  | setup
  | unload
  | polled
  | forwarded
  /-- `async_unload_platforms` returns. -/
  | unloaded (ok : Bool)
  /-- The `_close_task` that the attempt waits for is done. -/
  | closed
  /-- What the attempt awaits raises. -/
  | raised
  | cancelled
  | runtime (i : ℕ) (event : KefLsx.Event ρ)

/-- `async_create_runtime`, up to its await. -/
def createRuntime (env : Env) : Runtime ρ := ({ publisher := true } : Runtime ρ).asyncStart env

variable (env : ℕ → Env) (cfg : ℕ → Config)

namespace State

/-- Where the `_async_close_impl` of a runtime stands. -/
def closeTask (s : State ρ) (i : ℕ) : Option CloseTask :=
  s.runtimes[i]?.map fun m => m.runtime.closeTask

/-- The future of the first poll of a runtime has a result. -/
def firstPolled (s : State ρ) (i : ℕ) : Bool :=
  s.runtimes[i]?.any fun m =>
    match m.runtime.pollFutures 0 with
    | .result _ => true
    | _ => false

/-- `async_close` of a runtime, up to its await. -/
def callClose (s : State ρ) (i : ℕ) (attempt : Attempt) : State ρ :=
  { s with
    runtimes := s.runtimes.modify i fun m => { m with closeCalled := true }
    attempt := some attempt }

/-- An exception is raised where the attempt is suspended, other than by the `async_close` that it
waits for. -/
def leave (s : State ρ) : Attempt → State ρ
  | .forwarding i => s.callClose i (.abandoning i)
  | .firstPoll _ | .abandoning _ | .unloading | .closing _ => { s with attempt := none }

end State

/-- The steps that a runtime takes by itself and by what its users ask of it. It is started once,
and only `async_close` creates the task that closes it. -/
def Managed.admits (m : Managed ρ) : KefLsx.Event ρ → Bool
  | .start => false
  | .close => m.closeCalled
  | _ => true

variable [Client ρ]

/-- What an event does, if it can happen. The runtime `i` has the clock readings `env i`, and the
options `cfg i` of the entry at its setup. -/
def step (s : State ρ) : Event ρ → Option (State ρ)
  | .setup =>
    if s.attempt = none ∧ s.loaded = false then
      some { s with
        runtimes := s.runtimes ++ [{ runtime := createRuntime (env s.runtimes.length) }]
        attempt := some (.firstPoll s.runtimes.length) }
    else none
  | .unload =>
    if s.attempt = none ∧ s.loaded = true then some { s with attempt := some .unloading } else none
  | .polled =>
    match s.attempt with
    | some (.firstPoll i) =>
      if s.firstPolled i then
        some { s with runtimeData := some i, attempt := some (.forwarding i) }
      else none
    | _ => none
  | .forwarded =>
    match s.attempt with
    | some (.forwarding _) => some { s with attempt := none, loaded := true }
    | _ => none
  | .unloaded ok =>
    match s.attempt, s.runtimeData with
    | some .unloading, some i =>
      some (if ok then s.callClose i (.closing i) else { s with attempt := none })
    | _, _ => none
  | .closed =>
    match s.attempt with
    | some (.abandoning i) =>
      match s.closeTask i with
      | some .completed | some .failed => some { s with attempt := none }
      | _ => none
    | some (.closing i) =>
      match s.closeTask i with
      | some .completed => some { s with attempt := none, loaded := false }
      | some .failed => some { s with attempt := none }
      | _ => none
    | _ => none
  | .raised =>
    match s.attempt with
    | some (.firstPoll i) => some (s.leave (.firstPoll i))
    | some (.forwarding i) => some (s.leave (.forwarding i))
    | some .unloading => some (s.leave .unloading)
    | _ => none
  | .cancelled => s.attempt.map s.leave
  | .runtime i event =>
    match s.runtimes[i]? with
    | some m =>
      if m.admits event then
        (m.runtime.step (env i) (cfg i) event).map fun r =>
          { s with runtimes := s.runtimes.set i { m with runtime := r } }
      else none
    | none => none

end Integration

/-! ### The worker of one runtime -/

namespace Runtime

variable {ρ : Type} [Client ρ] {env : Env} {cfg : Config} {s t : Runtime ρ} {e : Event ρ}

/-- The worker's task is done, or there is none. -/
def WorkerDone (s : Runtime ρ) : Prop := s.worker.all Worker.ended = true

/-- Without a worker, only the producers take steps. -/
lemma step_of_workerDone (h : s.WorkerDone) :
    step env cfg s e = if s.idle then s.stepProducer env cfg e else none := by
  unfold WorkerDone at h
  unfold step
  cases hw : s.worker with
  | none => cases e <;> rfl
  | some w =>
    rw [hw] at h
    cases w with
    | returned | cancelled | crashed =>
      cases e <;> simp [stepRun, stepReply, stepProducer, Worker.ended]
    | _ => cases h

omit [Client ρ] in
lemma worker_submit (command : Command) : (s.submit env cfg command).worker = s.worker := by
  unfold submit
  split
  · rfl
  · split
    · rfl
    · split
      · rfl
      · rfl

omit [Client ρ] in
lemma workerDone_joinWorker : s.joinWorker.WorkerDone := rfl

/-- Only `async_start` creates a worker. -/
lemma WorkerDone.step (h : s.WorkerDone) (he : e ≠ .start) (hst : step env cfg s e = some t) :
    t.WorkerDone := by
  rw [step_of_workerDone h] at hst
  split at hst
  · cases e with
    | start => exact absurd rfl he
    | setPublisher | cancelCaller =>
      cases hst
      exact h
    | submit request =>
      cases hst
      unfold WorkerDone
      rwa [worker_submit]
    | poll =>
      cases hst
      unfold WorkerDone asyncPoll
      split <;> exact h
    | close =>
      simp only [stepProducer] at hst
      split at hst
      · cases hst
        unfold WorkerDone
        rw [(frame_beginClose (s := s)).1]
        exact h
      · cases hst
        exact h
    | shutdownTimeout =>
      simp only [stepProducer] at hst
      split at hst
      · cases hst
        exact h
      · cases hst
    | workerJoined =>
      simp only [stepProducer] at hst
      split at hst
      · split at hst
        · cases hst
          unfold workerJoined
          split
          · exact workerDone_joinWorker
          · exact workerDone_joinWorker
          · exact h
        · cases hst
      · cases hst
    | clientClosed =>
      simp only [stepProducer] at hst
      split at hst
      · cases hst
        exact h
      · cases hst
    | run | woken | timedOut | reply | slept | cancelled => cases hst
  · cases hst

/-- `_async_close_impl` does not wait for the worker any more. -/
def PastWorker (s : Runtime ρ) : Prop := s.closeTask.joined = true ∨ s.closeTask = .failed

/-- Once `_async_close_impl` is past the worker, the worker's task is done. -/
lemma workerDone_of_step (h : s.PastWorker → s.WorkerDone) (he : e ≠ .start)
    (hst : step env cfg s e = some t) (ht : t.PastWorker) : t.WorkerDone := by
  by_cases hs : s.PastWorker
  · exact (h hs).step he hst
  have hsame : t.closeTask = s.closeTask → t.WorkerDone := by
    intro heq
    unfold PastWorker at hs ht
    rw [heq] at ht
    exact absurd ht hs
  cases Rule.of_step hst with
  | closeBegun =>
    cases hw : s.worker with
    | none =>
      unfold WorkerDone
      rw [(frame_beginClose (s := s)).1, hw]
      rfl
    | some w =>
      have hclose : s.beginClose.closeTask = .awaitingWorker := by
        rw [closeTask_beginClose, hw]
        rfl
      unfold PastWorker at ht
      rw [hclose] at ht
      rcases ht with ht | ht <;> cases ht
  | shutdownTimedOut => rcases ht with ht | ht <;> cases ht
  | joined => exact workerDone_joinWorker
  | joinFailed w hw hended =>
    unfold WorkerDone
    rw [hw]
    exact hended
  | clientClosed hi hct => exact absurd (.inl (by rw [hct]; rfl)) hs
  | attemptsTimedOut job s' hw hleft =>
    exact hsame (hleft.framed.trans framed_controlTimedOut).closeTask
  | attemptsLeft job failure s' hw hleft =>
    exact hsame (hleft.framed.trans framed_controlFailed).closeTask
  | stateFailed => exact hsame framed_stateExchangeFailed.closeTask
  | stateDone => exact hsame framed_stateExchangeDone.closeTask
  | _ => exact hsame rfl

end Runtime

namespace Integration

variable {ρ : Type} {env : ℕ → Env} {cfg : ℕ → Config}

/-! ### One live worker -/

/-- A runtime is alive. -/
def State.live (s : State ρ) (i : ℕ) : Bool := s.runtimes[i]?.any Managed.live

/-- A setup is left at its first poll while the worker of its runtime is alive, or begins while some
worker is. -/
def State.leaks (s : State ρ) : Event ρ → Bool
  | .raised | .cancelled =>
    match s.attempt with
    | some (.firstPoll i) => s.live i
    | _ => false
  | .setup => s.runtimes.any Managed.live
  | _ => false

/-- The runs without a leak. -/
abbrev Careful [Client ρ] (env : ℕ → Env) (cfg : ℕ → Config) : State ρ → State ρ → Prop :=
  Transition.Reaches (step env cfg) fun s e => s.leaks e = false

/-- The runtime that a setup has created and not stored yet, or else the stored one. -/
def State.owner (s : State ρ) : Option ℕ :=
  match s.attempt with
  | some (.firstPoll i) => some i
  | _ => s.runtimeData

/-- At most one runtime is alive, and it is the stored one. -/
structure OneWorker (s : State ρ) : Prop where
  unique : ∀ i j, s.live i = true → s.live j = true → i = j
  stored : ∀ i, s.live i = true → s.runtimeData = some i

lemma Managed.live_iff {m : Managed ρ} : m.live = true ↔ ¬ m.runtime.WorkerDone := by
  unfold Managed.live Runtime.WorkerDone
  cases m.runtime.worker with
  | none => simp
  | some w => simp

/-- Only the owner is alive. -/
def Owned (s : State ρ) : Prop := ∀ i, s.live i = true → s.owner = some i

/-! ### What a step can do -/

/-- The transitions, one constructor for each kind. -/
inductive Rule [Client ρ] (env : ℕ → Env) (cfg : ℕ → Config) (s : State ρ) :
    Event ρ → State ρ → Prop where
  | setup (ha : s.attempt = none) (hl : s.loaded = false) : Rule env cfg s .setup
      { s with
        runtimes := s.runtimes ++ [{ runtime := createRuntime (env s.runtimes.length) }]
        attempt := some (.firstPoll s.runtimes.length) }
  | unload (ha : s.attempt = none) (hl : s.loaded = true) :
      Rule env cfg s .unload { s with attempt := some .unloading }
  | polled {i : ℕ} (ha : s.attempt = some (.firstPoll i)) : Rule env cfg s .polled
      { s with runtimeData := some i, attempt := some (.forwarding i) }
  | forwarded {i : ℕ} (ha : s.attempt = some (.forwarding i)) : Rule env cfg s .forwarded
      { s with attempt := none, loaded := true }
  | unloaded {i : ℕ} (ha : s.attempt = some .unloading) (hd : s.runtimeData = some i) :
      Rule env cfg s (.unloaded true) (s.callClose i (.closing i))
  | kept (ha : s.attempt = some .unloading) :
      Rule env cfg s (.unloaded false) { s with attempt := none }
  | closed {i : ℕ} {closeTask : CloseTask} {loaded : Bool}
      (ha : s.attempt = some (.abandoning i) ∨ s.attempt = some (.closing i))
      (hct : s.closeTask i = some closeTask)
      (hover : closeTask = .completed ∨ closeTask = .failed) :
      Rule env cfg s .closed { s with attempt := none, loaded := loaded }
  | left {e : Event ρ} {attempt : Attempt} (ha : s.attempt = some attempt)
      (he : e = .raised ∨ e = .cancelled) : Rule env cfg s e (s.leave attempt)
  | runtime {i : ℕ} {m : Managed ρ} {event : KefLsx.Event ρ} {r : Runtime ρ}
      (hm : s.runtimes[i]? = some m) (he : event ≠ .start)
      (hst : m.runtime.step (env i) (cfg i) event = some r) : Rule env cfg s (.runtime i event)
        { s with runtimes := s.runtimes.set i { m with runtime := r } }

variable [Client ρ] {s t : State ρ} {e : Event ρ} {i j : ℕ}

lemma Rule.of_closed (h : step env cfg s .closed = some t) : Rule env cfg s .closed t := by
  simp only [step] at h
  split at h
  · rename_i ha
    split at h
    · rename_i hct
      cases h
      exact .closed (.inl ha) hct (.inl rfl)
    · rename_i hct
      cases h
      exact .closed (.inl ha) hct (.inr rfl)
    · cases h
  · rename_i ha
    split at h
    · rename_i hct
      cases h
      exact .closed (.inr ha) hct (.inl rfl)
    · rename_i hct
      cases h
      exact .closed (.inr ha) hct (.inr rfl)
    · cases h
  · cases h

/-- Every step is one of the transitions. -/
theorem Rule.of_step (h : step env cfg s e = some t) : Rule env cfg s e t := by
  cases e with
  | setup =>
    simp only [step] at h
    split at h
    · rename_i hrest
      cases h
      exact .setup hrest.1 hrest.2
    · cases h
  | unload =>
    simp only [step] at h
    split at h
    · rename_i hrest
      cases h
      exact .unload hrest.1 hrest.2
    · cases h
  | polled =>
    simp only [step] at h
    split at h
    · rename_i ha
      split at h
      · cases h
        exact .polled ha
      · cases h
    · cases h
  | forwarded =>
    simp only [step] at h
    split at h
    · rename_i ha
      cases h
      exact .forwarded ha
    · cases h
  | unloaded ok =>
    simp only [step] at h
    split at h
    · rename_i ha hd
      cases h
      cases ok with
      | true => exact .unloaded ha hd
      | false => exact .kept ha
    · cases h
  | closed => exact .of_closed h
  | raised =>
    simp only [step] at h
    split at h
    · rename_i ha
      cases h
      exact .left ha (.inl rfl)
    · rename_i ha
      cases h
      exact .left ha (.inl rfl)
    · rename_i ha
      cases h
      exact .left ha (.inl rfl)
    · cases h
  | cancelled =>
    obtain ⟨attempt, ha, rfl⟩ := Option.map_eq_some_iff.mp h
    exact .left ha (.inr rfl)
  | runtime i event =>
    simp only [step] at h
    split at h
    · rename_i m hm
      split at h
      · rename_i hadmits
        obtain ⟨r, hst, rfl⟩ := Option.map_eq_some_iff.mp h
        refine .runtime hm ?_ hst
        rintro rfl
        cases hadmits
      · cases h
    · cases h

/-! ### Only the owner is alive -/

omit [Client ρ] in
/-- `async_close` leaves the runtimes where they are. -/
lemma getElem?_callClose {attempt : Attempt} {m : Managed ρ}
    (hm : (s.callClose i attempt).runtimes[j]? = some m) :
    ∃ m', s.runtimes[j]? = some m' ∧ m.runtime = m'.runtime := by
  obtain ⟨m', hm', ⟨-, rfl⟩ | ⟨-, rfl⟩⟩ := Table.of_modify hm
  · exact ⟨m', hm', rfl⟩
  · exact ⟨m, hm', rfl⟩

omit [Client ρ] in
lemma live_of_callClose {attempt : Attempt} (h : (s.callClose i attempt).live j = true) :
    s.live j = true := by
  obtain ⟨m, hm, hlive⟩ := (Option.any_eq_true ..).mp h
  obtain ⟨m', hm', heq⟩ := getElem?_callClose hm
  refine (Option.any_eq_true ..).mpr ⟨m', hm', ?_⟩
  rwa [Managed.live, ← heq]

/-- A runtime that is alive after a step of one of them was alive before it. -/
lemma live_of_runtime {m : Managed ρ} {event : KefLsx.Event ρ} {r : Runtime ρ}
    (hm : s.runtimes[i]? = some m) (he : event ≠ .start)
    (hst : m.runtime.step (env i) (cfg i) event = some r)
    (h : (s.runtimes.set i { m with runtime := r })[j]?.any Managed.live = true) :
    s.live j = true := by
  obtain ⟨m', hm', hlive⟩ := (Option.any_eq_true ..).mp h
  rcases Table.of_set hm' with ⟨rfl, rfl⟩ | ⟨-, hsame⟩
  · refine (Option.any_eq_true ..).mpr ⟨m, hm, ?_⟩
    rw [Managed.live_iff] at hlive ⊢
    exact mt (fun hdone => hdone.step he hst) hlive
  · exact (Option.any_eq_true ..).mpr ⟨m', hsame, hlive⟩

omit [Client ρ] in
lemma live_of_setup {m : Managed ρ} {attempt : Option Attempt}
    (h : ({ s with runtimes := s.runtimes ++ [m], attempt := attempt } : State ρ).live j = true) :
    s.live j = true ∨ j = s.runtimes.length := by
  obtain ⟨m', hm', hlive⟩ := (Option.any_eq_true ..).mp h
  rcases Table.of_concat hm' with hold | ⟨hj, -⟩
  · exact .inl ((Option.any_eq_true ..).mpr ⟨m', hold, hlive⟩)
  · exact .inr hj

omit [Client ρ] in
lemma not_live_of_any (h : s.runtimes.any Managed.live = false) : s.live j = false := by
  refine Bool.eq_false_iff.mpr fun hlive => ?_
  obtain ⟨m, hm, hmlive⟩ := (Option.any_eq_true ..).mp hlive
  rw [List.any_eq_false] at h
  exact h m (List.mem_of_getElem? hm) hmlive

omit [Client ρ] in
/-- Nobody comes to life, and the owner stays the owner. -/
lemma Owned.of_owner (h : Owned s) (hlive : ∀ j, t.live j = true → s.live j = true)
    (howner : ∀ j, s.owner = some j → t.owner = some j) : Owned t :=
  fun j hj => howner j (h j (hlive j hj))

omit [Client ρ] in
/-- Where an attempt is left, only the stored runtime is alive, if it is left without a leak. -/
lemma Owned.leave (h : Owned s) {attempt : Attempt} (ha : s.attempt = some attempt)
    (hok : ∀ i, attempt = .firstPoll i → s.live i = false) : Owned (s.leave attempt) := by
  cases attempt with
  | firstPoll i =>
    intro j hj
    have howner : s.owner = some i := by rw [State.owner, ha]
    obtain rfl : i = j := Option.some.inj (howner.symm.trans (h j hj))
    have hdead := hok i rfl
    rw [show s.live i = true from hj] at hdead
    cases hdead
  | forwarding i =>
    refine h.of_owner (fun j hj => live_of_callClose hj) ?_
    rw [State.owner, ha]
    exact fun _ howner => howner
  | abandoning i | unloading | closing i =>
    refine h.of_owner (fun _ hj => hj) ?_
    rw [State.owner, ha]
    exact fun _ howner => howner

/-- One step without a leak leaves only the owner alive. -/
lemma Owned.step (h : Owned s) (hok : s.leaks e = false) (hst : step env cfg s e = some t) :
    Owned t := by
  cases Rule.of_step hst with
  | setup ha hl =>
    intro j hj
    rcases live_of_setup hj with hlive | rfl
    · rw [not_live_of_any hok] at hlive
      cases hlive
    · rfl
  | unload ha | polled ha | forwarded ha | kept ha =>
    refine h.of_owner (fun _ hj => hj) ?_
    rw [State.owner, ha]
    exact fun _ howner => howner
  | closed ha =>
    refine h.of_owner (fun _ hj => hj) ?_
    rcases ha with ha | ha
    · rw [State.owner, ha]
      exact fun _ howner => howner
    · rw [State.owner, ha]
      exact fun _ howner => howner
  | unloaded ha hd =>
    refine h.of_owner (fun j hj => live_of_callClose hj) ?_
    rw [State.owner, ha]
    exact fun _ howner => howner
  | left ha he =>
    refine h.leave ha ?_
    rintro i rfl
    rcases he with rfl | rfl <;> simpa [State.leaks, ha] using hok
  | runtime hm he hstep =>
    intro j hj
    exact h j (live_of_runtime hm he hstep hj)

lemma owned_of_careful (h : Careful env cfg ({} : State ρ) s) : Owned s := by
  refine h.invariant (I := Owned) (fun i hi => by cases hi) ?_
  intro s t e _ hs hok hst
  exact hs.step hok hst

omit [Client ρ] in
/-- Between two attempts, only the stored runtime is alive. -/
lemma Owned.oneWorker (h : Owned s) (hrest : s.attempt = none) : OneWorker s := by
  have hstored : ∀ i, s.live i = true → s.runtimeData = some i := by
    intro i hi
    have howner := h i hi
    rwa [State.owner, hrest] at howner
  refine ⟨fun i j hi hj => ?_, hstored⟩
  exact Option.some.inj ((hstored i hi).symm.trans (hstored j hj))

/-- The runtimes have been created, and a setup at its first poll has not stored its own. -/
structure Fresh (s : State ρ) : Prop where
  stored : ∀ i, s.runtimeData = some i → i < s.runtimes.length
  creating : ∀ i, s.attempt = some (.firstPoll i) → i < s.runtimes.length ∧ s.runtimeData ≠ some i

omit [Client ρ] in
/-- No runtime is removed, and no other setup comes to its first poll. -/
lemma Fresh.of_eq (h : Fresh s) (hlength : t.runtimes.length = s.runtimes.length)
    (hdata : t.runtimeData = s.runtimeData)
    (hattempt : ∀ i, t.attempt = some (.firstPoll i) → s.attempt = some (.firstPoll i)) :
    Fresh t where
  stored i hi := hlength ▸ h.stored i (hdata ▸ hi)
  creating i hi := by
    rw [hlength, hdata]
    exact h.creating i (hattempt i hi)

lemma Fresh.step (h : Fresh s) (hst : step env cfg s e = some t) : Fresh t := by
  cases Rule.of_step hst with
  | setup ha hl =>
    constructor
    · intro i hi
      rw [List.length_append]
      exact Nat.lt_add_right 1 (h.stored i hi)
    · intro i hi
      obtain rfl : s.runtimes.length = i := Attempt.firstPoll.inj (Option.some.inj hi)
      refine ⟨by rw [List.length_append]; exact Nat.lt_succ_self _, fun hdata => ?_⟩
      exact Nat.lt_irrefl _ (h.stored _ hdata)
  | polled ha =>
    constructor
    · rintro i ⟨⟩
      exact (h.creating _ ha).1
    · intro i hi
      cases hi
  | unload | forwarded | kept | closed => exact h.of_eq rfl rfl fun i hi => by cases hi
  | unloaded => exact h.of_eq (List.length_modify ..) rfl fun i hi => by cases hi
  | @left _ attempt ha he =>
    cases attempt with
    | forwarding => exact h.of_eq (List.length_modify ..) rfl fun i hi => by cases hi
    | _ => exact h.of_eq rfl rfl fun i hi => by cases hi
  | runtime => exact h.of_eq (List.length_set ..) rfl fun i hi => hi

lemma fresh_of_reachable (h : Transition.Reachable (step env cfg) ({} : State ρ) s) : Fresh s := by
  have hinit : Fresh ({} : State ρ) :=
    ⟨fun i hi => (by cases hi), fun i hi => (by cases hi)⟩
  refine h.invariant (I := Fresh) hinit ?_
  intro s t e _ hs _ hst
  exact hs.step hst

/-! ### A worker that outlives its setup -/

/-- `async_close` of a runtime was called. -/
def State.called (s : State ρ) (i : ℕ) : Bool := s.runtimes[i]?.any Managed.closeCalled

/-- What an attempt has done when it is suspended, and what the last one has left. -/
def Staged (s : State ρ) : Prop :=
  match s.attempt with
  | none => s.loaded = false → ∀ i, s.live i = true → s.called i = true
  | some (.firstPoll _) => True
  | some (.forwarding i) => s.runtimeData = some i
  | some (.abandoning i) | some (.closing i) => s.runtimeData = some i ∧ s.called i = true
  | some .unloading => s.loaded = true

/-- No runtime has a worker that its `_async_close_impl` does not wait for any more. -/
def Joined (s : State ρ) : Prop :=
  ∀ (i : ℕ) (m : Managed ρ), s.runtimes[i]? = some m → m.runtime.PastWorker → m.runtime.WorkerDone

omit [Client ρ] in
lemma not_live_of_workerDone {m : Managed ρ} (hm : s.runtimes[i]? = some m)
    (h : m.runtime.WorkerDone) : s.live i = false := by
  rw [State.live, hm, Option.any_some, Bool.eq_false_iff, Ne, Managed.live_iff]
  exact not_not_intro h

omit [Client ρ] in
lemma Joined.callClose (h : Joined s) {attempt : Attempt} : Joined (s.callClose i attempt) := by
  intro j m hm hpast
  obtain ⟨m', hm', heq⟩ := getElem?_callClose hm
  rw [heq] at hpast ⊢
  exact h j m' hm' hpast

lemma Joined.step (h : Joined s) (hst : step env cfg s e = some t) : Joined t := by
  cases Rule.of_step hst with
  | setup =>
    intro j m hm hpast
    rcases Table.of_concat hm with hold | ⟨-, rfl⟩
    · exact h j m hold hpast
    · rcases hpast with hpast | hpast <;> cases hpast
  | unloaded => exact h.callClose
  | @left _ attempt ha he =>
    cases attempt with
    | forwarding => exact h.callClose
    | _ => exact h
  | @runtime i m event r hm he hstep =>
    intro j m' hm' hpast
    rcases Table.of_set hm' with ⟨rfl, rfl⟩ | ⟨-, hsame⟩
    · exact Runtime.workerDone_of_step (h j m hm) he hstep hpast
    · exact h j m' hsame hpast
  | _ => exact h

omit [Client ρ] in
/-- Only the owner is alive, and its worker is done: nobody is alive. -/
lemma Owned.not_live (h : Owned s) (howner : s.owner = some i) (hdead : s.live i = false) :
    s.live j = false := by
  refine Bool.eq_false_iff.mpr fun hlive => ?_
  obtain rfl : i = j := Option.some.inj (howner.symm.trans (h j hlive))
  rw [hdead] at hlive
  cases hlive

omit [Client ρ] in
lemma called_callClose {attempt : Attempt} (hi : i < s.runtimes.length) :
    (s.callClose i attempt).called i = true := by
  show ((s.runtimes.modify i _)[i]?).any Managed.closeCalled = true
  rw [List.getElem?_modify_eq, List.getElem?_eq_getElem hi]
  rfl

/-- One step without a leak. -/
lemma Staged.step (h : Staged s) (howned : Owned s) (hjoined : Joined s) (hfresh : Fresh s)
    (hok : s.leaks e = false) (hst : step env cfg s e = some t) : Staged t := by
  cases Rule.of_step hst with
  | setup => trivial
  | unload ha hl => exact hl
  | polled => rfl
  | forwarded => exact fun hl => by cases hl
  | unloaded ha hd => exact ⟨hd, called_callClose (hfresh.stored _ hd)⟩
  | kept ha =>
    rw [Staged, ha] at h
    intro hl
    have hloaded : s.loaded = false := hl
    rw [h] at hloaded
    cases hloaded
  | @closed i closeTask loaded ha hct hover =>
    have howner : s.owner = some i := by
      rcases ha with ha | ha <;> rw [Staged, ha] at h <;> rw [State.owner, ha] <;> exact h.1
    obtain ⟨m, hm, rfl⟩ := Option.map_eq_some_iff.mp hct
    have hpast : m.runtime.PastWorker := by
      rcases hover with hover | hover
      · exact .inl (by rw [hover]; rfl)
      · exact .inr hover
    intro _ j hj
    have hlive : s.live j = true := hj
    rw [howned.not_live howner (not_live_of_workerDone hm (hjoined i m hm hpast))] at hlive
    cases hlive
  | @left _ attempt ha he =>
    rw [Staged, ha] at h
    cases attempt with
    | firstPoll i =>
      have hdead : s.live i = false := by
        rcases he with rfl | rfl <;> simpa [State.leaks, ha] using hok
      have howner : s.owner = some i := by rw [State.owner, ha]
      intro _ j hj
      have hlive : s.live j = true := hj
      rw [howned.not_live howner hdead] at hlive
      cases hlive
    | forwarding i => exact ⟨h, called_callClose (hfresh.stored _ h)⟩
    | abandoning i | closing i =>
      intro _ j hj
      have howner := howned j hj
      rw [State.owner, ha] at howner
      obtain rfl : i = j := Option.some.inj (h.1.symm.trans howner)
      exact h.2
    | unloading =>
      intro hl
      have hloaded : s.loaded = false := hl
      rw [h] at hloaded
      cases hloaded
  | @runtime i m event r hm he hstep =>
    have hcalled : ∀ j, ({ s with runtimes := s.runtimes.set i { m with runtime := r } } :
        State ρ).called j = s.called j := by
      intro j
      rw [State.called, List.getElem?_set]
      split
      · rename_i hij
        subst hij
        rw [if_pos (List.getElem?_eq_some_iff.mp hm).1, State.called, hm]
        rfl
      · rfl
    unfold Staged at h ⊢
    simp only [hcalled]
    cases ha : s.attempt with
    | none =>
      rw [ha] at h
      intro hl j hj
      exact h hl j (live_of_runtime hm he hstep hj)
    | some attempt =>
      rw [ha] at h
      cases attempt <;> exact h

/-- A worker that is alive between two attempts, while the entry is not set up, is being closed. -/
theorem closing_of_live (h : Careful env cfg ({} : State ρ) s) (hrest : s.attempt = none)
    (hunloaded : s.loaded = false) (hlive : s.live i = true) :
    ∃ m, s.runtimes[i]? = some m ∧ m.closeCalled = true ∧ ¬ m.runtime.PastWorker := by
  have hinit : Joined ({} : State ρ) := fun i m hm => (by cases hm)
  have hjoined : ∀ {s : State ρ}, Transition.Reachable (step env cfg) {} s → Joined s := by
    intro s hs
    refine hs.invariant (I := Joined) hinit ?_
    intro s t e _ hs _ hst
    exact hs.step hst
  have hstaged : Staged s := by
    refine h.invariant (I := Staged) (fun _ i hi => by cases hi) ?_
    intro s t e hr hs hok hst
    exact hs.step (owned_of_careful hr) (hjoined hr.reachable) (fresh_of_reachable hr.reachable)
      hok hst
  rw [Staged, hrest] at hstaged
  obtain ⟨m, hm, hcalled⟩ := (Option.any_eq_true ..).mp (hstaged hunloaded i hlive)
  refine ⟨m, hm, hcalled, fun hpast => ?_⟩
  rw [not_live_of_workerDone hm (hjoined h.reachable i m hm hpast)] at hlive
  cases hlive

/-! ### After a leak -/

/-- A setup at its first poll, with its runtime in this state. -/
def State.creating (s : State ρ) (r : Runtime ρ) : State ρ :=
  { s with
    runtimes := s.runtimes ++ [{ runtime := r }]
    attempt := some (.firstPoll s.runtimes.length) }

lemma step_creating {event : KefLsx.Event ρ} {r r' : Runtime ρ}
    (hadmits : ({ runtime := r } : Managed ρ).admits event = true)
    (hst : r.step (env s.runtimes.length) (cfg s.runtimes.length) event = some r') :
    step env cfg (s.creating r) (.runtime s.runtimes.length event) = some (s.creating r') := by
  simp [step, hadmits, hst, State.creating]

/-- The first poll of a new runtime is served by its first exchange, whatever the reply. -/
lemma exists_firstPoll (env : Env) (cfg : Config) (reply : ρ) : ∃ r₁ r₂ r₃ snapshot,
    (createRuntime env : Runtime ρ).step env cfg .run = some r₁ ∧
    r₁.step env cfg .run = some r₂ ∧ r₂.step env cfg (.reply reply) = some r₃ ∧
    r₃.pollFutures 0 = .result snapshot ∧ r₃.worker = some .loop := by
  let polling : Runtime ρ := ((createRuntime env).goto .loop).asyncWorker env
  cases hreply : Client.asyncGetSource reply with
  | error error =>
    refine ⟨_, polling, polling.stateExchangeFailed env cfg .poll reply error, _, rfl, rfl, ?_, rfl,
      rfl⟩
    show polling.stepReply env cfg reply (.sourceGet .poll) = _
    simp only [Runtime.stepReply, hreply]
  | ok status =>
    refine ⟨_, polling, polling.stateExchangeDone env cfg .poll reply status, _, rfl, rfl, ?_, rfl,
      rfl⟩
    show polling.stepReply env cfg reply (.sourceGet .poll) = _
    simp only [Runtime.stepReply, hreply]

/-- A setup that begins next to a live worker may succeed, and leaves two of them. -/
lemma exists_two_live (reply : ρ) (hold : s.live j = true) :
    ∃ u, Careful env cfg (s.creating (createRuntime (env s.runtimes.length))) u ∧
      u.attempt = none ∧ ¬ OneWorker u := by
  obtain ⟨r₁, r₂, r₃, snapshot, h₁, h₂, h₃, hpoll, hworker⟩ :=
    exists_firstPoll (env s.runtimes.length) (cfg s.runtimes.length) reply
  let created := s.creating (createRuntime (env s.runtimes.length))
  let forwarding : State ρ := { s.creating r₃ with
    runtimeData := some s.runtimes.length, attempt := some (.forwarding s.runtimes.length) }
  let u : State ρ := { forwarding with attempt := none, loaded := true }
  have hpolled : step env cfg (s.creating r₃) .polled = some forwarding := by
    simp [step, State.creating, State.firstPolled, hpoll, forwarding]
  have hforwarded : step env cfg forwarding .forwarded = some u := rfl
  have hgo : ∀ {a b : State ρ} {e : Event ρ}, Careful env cfg created a →
      a.leaks e = false → step env cfg a e = some b → Careful env cfg created b :=
    fun ha hok hst => ha.tail hok hst
  have hu := hgo (hgo (hgo (hgo (hgo .refl rfl (step_creating rfl h₁)) rfl (step_creating rfl h₂))
    rfl (step_creating rfl h₃)) rfl hpolled) rfl hforwarded
  have hlt : j < s.runtimes.length := by
    obtain ⟨m, hm, -⟩ := (Option.any_eq_true ..).mp hold
    exact (List.getElem?_eq_some_iff.mp hm).1
  have hlive : u.live j = true := by
    show ((s.runtimes ++ [{ runtime := r₃ }])[j]?).any Managed.live = true
    rw [List.getElem?_append_left hlt]
    exact hold
  have hnew : u.live s.runtimes.length = true := by
    show ((s.runtimes ++ [{ runtime := r₃ }])[s.runtimes.length]?).any Managed.live = true
    rw [List.getElem?_concat_length]
    simp [Managed.live, hworker, Worker.ended]
  refine ⟨u, hu, rfl, fun hone => ?_⟩
  exact absurd (hone.unique j _ hlive hnew) (Nat.ne_of_lt hlt)

/-- After a leak, the entry comes to rest with a live worker that is not the only one or not the
stored one. -/
lemma exists_of_leaks (reply : ρ) (h : Fresh s) (hleaks : s.leaks e = true)
    (hst : step env cfg s e = some t) :
    ∃ u, Careful env cfg t u ∧ u.attempt = none ∧ ¬ OneWorker u := by
  have hleave : ∀ i, s.attempt = some (.firstPoll i) → s.live i = true →
      ¬ OneWorker { s with attempt := none } := by
    intro i ha hlive hone
    exact (h.creating i ha).2 (hone.stored i hlive)
  cases Rule.of_step hst with
  | setup ha hl =>
    obtain ⟨m, hm, hlive⟩ := List.any_eq_true.mp hleaks
    obtain ⟨j, hj⟩ := List.mem_iff_getElem?.mp hm
    have hold : s.live j = true := by
      rw [State.live, hj]
      exact hlive
    exact exists_two_live reply hold
  | @left _ attempt ha he =>
    have hfirst : ∃ i, attempt = .firstPoll i ∧ s.live i = true := by
      rcases he with rfl | rfl <;> cases attempt <;> simp_all [State.leaks]
    obtain ⟨i, rfl, hlive⟩ := hfirst
    exact ⟨_, .refl, rfl, hleave i ha hlive⟩
  | _ => cases hleaks

/-- Between two attempts at most one worker is alive, and it is the one of the stored runtime, in
the runs in which no setup is left at its first poll, while its worker lives, and none begins while
another worker does. After any such step the entry may come to rest in another way. -/
theorem one_live_worker [Nonempty ρ] (env : ℕ → Env) (cfg : ℕ → Config) :
    (∀ s : State ρ, Careful env cfg {} s → s.attempt = none → OneWorker s) ∧
    ∀ (s t : State ρ) (e : Event ρ), Transition.Reachable (step env cfg) {} s →
      s.leaks e = true → step env cfg s e = some t →
      ∃ u, Careful env cfg t u ∧ u.attempt = none ∧ ¬ OneWorker u := by
  obtain ⟨reply⟩ := ‹Nonempty ρ›
  exact ⟨fun s h hrest => (owned_of_careful h).oneWorker hrest,
    fun s t e h hleaks hst => exists_of_leaks reply (fresh_of_reachable h) hleaks hst⟩

/-- A setup up to its end. -/
def setUp (i : ℕ) : List (Event Transcript) :=
  [.setup, .runtime i .run, .runtime i .run, .runtime i (.reply (.connectFailed .refused)),
    .runtime i .run, .polled, .forwarded]

/-- An unload, and another setup with another preferred source: the second runtime is the only one
that is alive. -/
theorem one_live_worker_reloaded : ∃ s : State Transcript,
    s.attempt = none ∧ s.live 0 = false ∧ s.live 1 = true ∧ OneWorker s := by
  let cfg : ℕ → Config := fun i => .ofOptions (if i = 0 then none else some .aux)
  have hrun : (Transition.run
      (Transition.guarded (step (fun _ => .ticking) cfg) fun s e => !s.leaks e)
      (setUp 0 ++ [.unload, .unloaded true, .runtime 0 .close, .runtime 0 .woken, .runtime 0 .run,
        .runtime 0 .workerJoined, .runtime 0 .clientClosed, .closed] ++ setUp 1)
      ({} : State Transcript)).any
      (fun s => s.attempt = none ∧ s.live 0 = false ∧ s.live 1 = true) = true := by
    decide +kernel
  obtain ⟨s, hs, hs'⟩ := Transition.exists_reachable_of_run hrun
  obtain ⟨hrest, hold, hnew⟩ := of_decide_eq_true hs'
  refine ⟨s, hrest, hold, hnew, ?_⟩
  have : Nonempty Transcript := ⟨.closed⟩
  refine (one_live_worker (fun _ => .ticking) cfg).1 s ?_ hrest
  exact (Transition.Reaches.of_guarded hs).mono fun s e hok => by simpa using hok

/-- The setup is cancelled at the first poll: the worker of a runtime that is not stored lives
on. -/
theorem not_one_live_worker_cancelled : ∃ s : State Transcript,
    Transition.Reachable (step (fun _ => .ticking) fun _ => .ofOptions) {} s ∧
    s.attempt = none ∧ s.live 0 = true ∧ s.runtimeData = none ∧ ¬ OneWorker s := by
  have hrun : (Transition.run (step (fun _ => .ticking) fun _ => .ofOptions)
      [.setup, .runtime 0 .run, .runtime 0 .run, .cancelled] ({} : State Transcript)).any
      (fun s => s.attempt = none ∧ s.live 0 = true ∧ s.runtimeData = none) = true := by
    decide +kernel
  obtain ⟨s, hs, hs'⟩ := Transition.exists_reachable_of_run hrun
  obtain ⟨hrest, hlive, hnone⟩ := of_decide_eq_true hs'
  refine ⟨s, hs, hrest, hlive, hnone, fun hone => ?_⟩
  rw [hone.stored 0 hlive] at hnone
  cases hnone

end Integration

end KefLsx
