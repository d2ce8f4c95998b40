import KefLsx.Core.Future
import KefLsx.Core.Transition

/-!
# Shielded callers

A caller that awaits `asyncio.shield(future)` waits for an outer future of its own. Its cancellation
cancels the outer future and not the inner one, and the outcome of the inner future is delivered to
an outer one that is not done. `step` adds the outer futures to a system with a table of inner ones.

Cancelling one caller is then invisible to the system and to everybody else: a run goes through
without the cancellations just as well (`exists_run_without`).
-/

namespace Shield

variable {σ ε α β : Type*}

/-- The system, and the outer futures. That of a caller who has not come yet counts as pending. -/
@[ext]
structure State (σ α β : Type*) where
  base : σ
  outer : Future.Table α β := fun _ => .pending

inductive Event (ε : Type*) where
  | base (e : ε)
  /-- The caller that waits for this future is cancelled. -/
  | cancel (f : ℕ)
  /-- The outcome of this future reaches its caller. -/
  | deliver (f : ℕ)

/-- The cancellation of this caller. -/
def Event.cancels (f : ℕ) : Event ε → Bool
  | cancel g => g == f
  | _ => false

/-- The events of a run but for the cancellations of this caller. -/
def without (f : ℕ) (events : List (Event ε)) : List (Event ε) :=
  events.filter fun e => !e.cancels f

variable (next : σ → ε → Option σ) (inner : σ → Future.Table α β)

def step (s : State σ α β) : Event ε → Option (State σ α β)
  | .base e => (next s.base e).map fun t => { s with base := t }
  | .cancel f => some { s with outer := Future.settle [f] .cancelled s.outer }
  | .deliver f =>
    if (inner s.base f).isDone then
      some { s with outer := Future.settle [f] (inner s.base f) s.outer }
    else none

variable {next inner} {s s' t : State σ α β} {f : ℕ}

/-- What everybody but one caller sees is the same. -/
structure Same (f : ℕ) (s s' : State σ α β) : Prop where
  base : s'.base = s.base
  outer : ∀ g ≠ f, s'.outer g = s.outer g

lemma Same.refl : Same f s s := ⟨rfl, fun _ _ => rfl⟩

/-- The cancellation of the caller is seen by nobody else. -/
lemma Same.cancel {e : Event ε} (h : Same f s s') (he : e.cancels f = true)
    (hst : step next inner s e = some t) : Same f t s' := by
  cases e with
  | base | deliver => cases he
  | cancel g =>
    obtain rfl : g = f := by simpa [Event.cancels] using he
    cases hst
    refine ⟨h.base, ?_⟩
    intro k hk
    rw [h.outer k hk]
    exact (Future.settle_of_notMem (by simpa using hk)).symm

lemma settle_congr {g : ℕ} {outcome : Future.State α β}
    (h : ∀ k ≠ f, s'.outer k = s.outer k) :
    ∀ k ≠ f, Future.settle [g] outcome s'.outer k = Future.settle [g] outcome s.outer k := by
  intro k hk
  simp [Future.settle, h k hk]

/-- Any event is possible whatever that caller sees, and has the same effect for the others. -/
lemma Same.step (h : Same f s s') (e : Event ε) (hst : step next inner s e = some t) :
    ∃ t', Shield.step next inner s' e = some t' ∧ Same f t t' := by
  cases e with
  | base e =>
    obtain ⟨u, hu, rfl⟩ := Option.map_eq_some_iff.mp hst
    refine ⟨{ s' with base := u }, ?_, rfl, h.outer⟩
    simp [Shield.step, h.base, hu]
  | cancel g =>
    cases hst
    exact ⟨_, rfl, h.base, settle_congr h.outer⟩
  | deliver g =>
    simp only [Shield.step, Option.ite_none_right_eq_some, Option.some.injEq] at hst
    obtain ⟨hdone, rfl⟩ := hst
    refine ⟨{ s' with outer := Future.settle [g] (inner s.base g) s'.outer }, ?_, h.base,
      settle_congr h.outer⟩
    simp [Shield.step, h.base, hdone]

lemma Same.exists_run {events : List (Event ε)} (h : Same f s s')
    (hrun : Transition.run (Shield.step next inner) events s = some t) :
    ∃ t', Transition.run (Shield.step next inner) (without f events) s' = some t' ∧
      Same f t t' := by
  induction events generalizing s s' with
  | nil =>
    cases hrun
    exact ⟨s', rfl, h⟩
  | cons e events ih =>
    obtain ⟨u, hst, hrest⟩ := Option.bind_eq_some_iff.mp hrun
    cases he : e.cancels f with
    | true =>
      rw [without, List.filter_cons_of_neg (by simp [he])]
      exact ih (h.cancel he hst) hrest
    | false =>
      obtain ⟨u', hst', hu⟩ := h.step e hst
      obtain ⟨t', hrun', ht⟩ := ih hu hrest
      refine ⟨t', ?_, ht⟩
      rw [without, List.filter_cons_of_pos (by simp [he]), Transition.run, hst']
      exact hrun'

/-- Without the cancellations of one caller a run takes the system to the same state, and every
other caller sees the same. -/
theorem exists_run_without (f : ℕ) {events : List (Event ε)}
    (h : Transition.run (Shield.step next inner) events s = some t) :
    ∃ t', Transition.run (Shield.step next inner) (without f events) s = some t' ∧
      t'.base = t.base ∧ ∀ g ≠ f, t'.outer g = t.outer g := by
  obtain ⟨t', hrun, ht⟩ := Same.refl.exists_run h
  exact ⟨t', hrun, ht.base, ht.outer⟩

/-- The system runs as it does without outer futures. -/
theorem reachable_base (h : Transition.Reachable (Shield.step next inner) s t) :
    Transition.Reachable next s.base t.base := by
  induction h with
  | refl => exact .refl
  | @tail u t e _ _ hst ih =>
    cases e with
    | base e =>
      obtain ⟨v, hv, rfl⟩ := Option.map_eq_some_iff.mp hst
      exact ih.tail trivial hv
    | cancel g =>
      cases hst
      exact ih
    | deliver g =>
      simp only [Shield.step, Option.ite_none_right_eq_some, Option.some.injEq] at hst
      obtain ⟨-, rfl⟩ := hst
      exact ih

/-- A caller waits, or was cancelled, or has what its future has. -/
def Faithful (inner : σ → Future.Table α β) (s : State σ α β) (f : ℕ) : Prop :=
  s.outer f = .pending ∨ s.outer f = .cancelled ∨
    (inner s.base f).isDone = true ∧ s.outer f = inner s.base f

lemma Faithful.congr (h : Faithful inner s f) (hbase : t.base = s.base)
    (houter : t.outer f = s.outer f) : Faithful inner t f := by
  rw [Faithful, hbase, houter]
  exact h

/-- Settling one future leaves another, or one that is done, alone. -/
lemma settle_singleton (g : ℕ) (outcome : Future.State α β) (futures : Future.Table α β) (f : ℕ) :
    Future.settle [g] outcome futures f = futures f ∨
      f = g ∧ Future.settle [g] outcome futures f = outcome := by
  by_cases hset : f ∈ [g] ∧ (futures f).isPending = true
  · exact .inr ⟨by simpa using hset.1, if_pos hset⟩
  · exact .inl (if_neg hset)

/-- Where futures that are done stay as they are, no caller sees anything but the outcome of its
own. -/
theorem faithful_of_reachable {s₀ : σ}
    (hkeeps : ∀ {s t : σ} {e : ε}, Transition.Reachable next s₀ s → next s e = some t →
      ∀ f, (inner s f).isDone = true → inner t f = inner s f)
    (h : Transition.Reachable (Shield.step next inner) { base := s₀ } t) (f : ℕ) :
    Faithful inner t f := by
  refine h.invariant (I := fun s => Faithful inner s f) (.inl rfl) ?_
  intro s t e hr hs _ hst
  cases e with
  | base e =>
    obtain ⟨v, hv, rfl⟩ := Option.map_eq_some_iff.mp hst
    rcases hs with hp | hc | ⟨hdone, heq⟩
    · exact .inl hp
    · exact .inr (.inl hc)
    · have hsame : inner v f = inner s.base f := hkeeps (reachable_base hr) hv f hdone
      exact .inr (.inr ⟨hsame ▸ hdone, heq.trans hsame.symm⟩)
  | cancel g =>
    cases hst
    rcases settle_singleton g .cancelled s.outer f with hsame | ⟨-, hset⟩
    · exact hs.congr rfl hsame
    · exact .inr (.inl hset)
  | deliver g =>
    simp only [Shield.step, Option.ite_none_right_eq_some, Option.some.injEq] at hst
    obtain ⟨hdone, rfl⟩ := hst
    rcases settle_singleton g (inner s.base g) s.outer f with hsame | ⟨rfl, hset⟩
    · exact hs.congr rfl hsame
    · exact .inr (.inr ⟨hdone, hset⟩)

end Shield
