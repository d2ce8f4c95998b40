import KefLsx.Core.Future

/-!
# Custody of futures

A component that creates futures keeps the pending ones until it has settled them. `Custody` is
a table of futures with the number of those created so far and the list of those kept. A step
`Serves` if it settles kept futures and lets go of settled ones only, or creates a future that it
keeps. Where every step serves, what has been created is done, or pending and kept, so everything
is done once the list is empty.

A future that is lost, neither done nor kept, stays so under every step that serves.
-/

namespace Future

variable {α ε : Type*}

/-- The futures created so far, and those among them that are kept in order to be settled. -/
structure Custody (α ε : Type*) where
  waiters : List ℕ
  count : ℕ
  futures : Table α ε

namespace Custody

variable {c c' : Custody α ε} {f : ℕ}

/-- The future has been created and is not done, and nobody who could settle it keeps it. -/
structure Lost (c : Custody α ε) (f : ℕ) : Prop where
  created : f < c.count
  undone : (c.futures f).isDone = false
  unkept : (c.futures f).isPending = true → f ∉ c.waiters

/-- Whatever is pending has been created and is kept. -/
def Attended (c : Custody α ε) : Prop :=
  ∀ f, (c.futures f).isPending = true → f < c.count ∧ f ∈ c.waiters

/-- No future has been created and left to nobody. -/
def Undropped (c : Custody α ε) : Prop :=
  ∀ f < c.count, (c.futures f).isDone = true ∨ (c.futures f).isPending = true

/-- What a step of the component may do to its futures. -/
inductive Serves (c c' : Custody α ε) : Prop where
  | settle (settled : List ℕ) (outcome : State α ε) (ho : outcome.isDone = true)
      (hcount : c'.count = c.count)
      (hfutures : c'.futures = Future.settle settled outcome c.futures)
      (hkept : ∀ f ∈ settled, f ∈ c.waiters)
      (hold : ∀ f ∈ c.waiters, f ∈ settled ∨ f ∈ c'.waiters)
      (hsub : ∀ f ∈ c'.waiters, f ∈ c.waiters)
  | create (hcount : c'.count = c.count + 1)
      (hfutures : c'.futures = Function.update c.futures c.count .pending)
      (hwaiters : ∀ f, f ∈ c'.waiters ↔ f ∈ c.waiters ∨ f = c.count)

/-- Custody is the same, up to the order of the waiters. -/
lemma Serves.of_eq (hcount : c'.count = c.count) (hfutures : c'.futures = c.futures)
    (hwaiters : ∀ f, f ∈ c'.waiters ↔ f ∈ c.waiters) : Serves c c' := by
  apply Serves.settle [] .cancelled rfl hcount
  · simp [hfutures]
  · simp
  · intro f hf
    exact .inr ((hwaiters f).mpr hf)
  · intro f hf
    exact (hwaiters f).mp hf

lemma Attended.not_isPending (h : c.Attended) (hnil : c.waiters = []) :
    (c.futures f).isPending = false := by
  by_contra hp
  obtain ⟨-, hmem⟩ := h f (by simpa using hp)
  simp [hnil] at hmem

/-- Nobody is kept: everything created is done. -/
lemma Undropped.isDone (h : c.Undropped) (hattended : c.Attended) (hnil : c.waiters = [])
    (hf : f < c.count) : (c.futures f).isDone = true := by
  rcases h f hf with hdone | hp
  · exact hdone
  · rw [hattended.not_isPending hnil] at hp
    cases hp

/-- The futures are settled, and the waiters that are still pending kept. -/
lemma Attended.settle (h : c.Attended) {settled : List ℕ} {outcome : State α ε}
    (ho : outcome.isDone = true) (hcount : c'.count = c.count)
    (hfutures : c'.futures = Future.settle settled outcome c.futures)
    (hold : ∀ f ∈ c.waiters, f ∈ settled ∨ f ∈ c'.waiters) : c'.Attended := by
  intro f hp
  rw [hfutures, isPending_settle (State.not_isPending_of_isDone ho)] at hp
  obtain ⟨hlt, hmem⟩ := h f hp.1
  exact ⟨hcount ▸ hlt, (hold f hmem).resolve_left hp.2⟩

/-- Only waiters that are not pending are let go. -/
lemma Attended.of_eq (h : c.Attended) (hcount : c.count ≤ c'.count)
    (hfutures : ∀ f, (c'.futures f).isPending = true → (c.futures f).isPending = true)
    (hold : ∀ f ∈ c.waiters, (c.futures f).isPending = true → f ∈ c'.waiters) :
    c'.Attended := by
  intro f hp
  obtain ⟨hlt, hmem⟩ := h f (hfutures f hp)
  exact ⟨Nat.lt_of_lt_of_le hlt hcount, hold f hmem (hfutures f hp)⟩

/-- A new future is kept from its creation on. -/
lemma Attended.create (h : c.Attended) (hcount : c'.count = c.count + 1)
    (hfutures : c'.futures = Function.update c.futures c.count .pending)
    (hwaiters : ∀ f, f ∈ c'.waiters ↔ f ∈ c.waiters ∨ f = c.count) : c'.Attended := by
  intro f hp
  rcases eq_or_ne f c.count with rfl | hne
  · exact ⟨by omega, (hwaiters _).mpr (.inr rfl)⟩
  · rw [hfutures, Function.update_of_ne hne] at hp
    obtain ⟨hlt, hmem⟩ := h f hp
    exact ⟨by omega, (hwaiters f).mpr (.inl hmem)⟩

lemma Undropped.settle (h : c.Undropped) {settled : List ℕ} {outcome : State α ε}
    (ho : outcome.isDone = true) (hcount : c'.count = c.count)
    (hfutures : c'.futures = Future.settle settled outcome c.futures) : c'.Undropped := by
  intro f hf
  rw [hfutures]
  rcases h f (hcount ▸ hf) with hdone | hp
  · exact .inl (isDone_settle hdone)
  by_cases hset : f ∈ settled
  · exact .inl (isDone_settle_of_mem ho hp hset)
  · rw [settle_of_notMem hset]
    exact .inr hp

lemma Undropped.create (h : c.Undropped) (hcount : c'.count = c.count + 1)
    (hfutures : c'.futures = Function.update c.futures c.count .pending) : c'.Undropped := by
  intro f hf
  rw [hfutures]
  rcases eq_or_ne f c.count with rfl | hne
  · simp
  · rw [Function.update_of_ne hne]
    apply h f
    omega

/-- A step that serves keeps everything attended. -/
theorem Serves.attended (hs : Serves c c') (h : c.Attended) : c'.Attended := by
  cases hs with
  | settle settled outcome ho hcount hfutures hkept hold hsub =>
    exact h.settle ho hcount hfutures hold
  | create hcount hfutures hwaiters => exact h.create hcount hfutures hwaiters

/-- A step that serves drops nothing. -/
theorem Serves.undropped (hs : Serves c c') (h : c.Undropped) : c'.Undropped := by
  cases hs with
  | settle settled outcome ho hcount hfutures => exact h.settle ho hcount hfutures
  | create hcount hfutures => exact h.create hcount hfutures

/-- Who is lost stays so unless it is settled or kept again. -/
lemma Lost.of_eq (h : c.Lost f) (hcount : c.count ≤ c'.count)
    (hfuture : c'.futures f = c.futures f) (hsub : f ∈ c'.waiters → f ∈ c.waiters) :
    c'.Lost f := by
  refine ⟨Nat.lt_of_lt_of_le h.created hcount, hfuture ▸ h.undone, ?_⟩
  intro hp hmem
  rw [hfuture] at hp
  exact h.unkept hp (hsub hmem)

/-- Settling futures that are kept does not touch who is lost. -/
lemma Lost.settle_eq (h : c.Lost f) {settled : List ℕ} {outcome : State α ε}
    (hkept : ∀ f ∈ settled, f ∈ c.waiters) :
    Future.settle settled outcome c.futures f = c.futures f := by
  by_cases hp : (c.futures f).isPending = true
  · apply settle_of_notMem
    intro hmem
    exact h.unkept hp (hkept f hmem)
  · apply settle_of_done
    simpa using hp

/-- A step that serves does not serve the lost ones. -/
theorem Serves.lost (hs : Serves c c') (h : c.Lost f) : c'.Lost f := by
  cases hs with
  | settle settled outcome ho hcount hfutures hkept hold hsub =>
    apply h.of_eq (Nat.le_of_eq hcount.symm)
    · rw [hfutures, h.settle_eq hkept]
    · exact hsub f
  | create hcount hfutures hwaiters =>
    have hne : f ≠ c.count := Nat.ne_of_lt h.created
    apply h.of_eq (by omega)
    · rw [hfutures, Function.update_of_ne hne]
    · intro hmem
      exact ((hwaiters f).mp hmem).resolve_right hne

end Custody

end Future
