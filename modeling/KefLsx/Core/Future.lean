import Mathlib.Data.Nat.Notation
import Mathlib.Logic.Function.Basic

/-!
# Futures

One-shot cells that a producer creates and waits for and that somebody else settles, once. They
are kept in a table indexed by the order of their creation. Settling a list of waiters, as a loop
`for waiter in waiters: if not waiter.done(): …` does, changes the pending ones among them and
nothing else, so a future that is done keeps its outcome.
-/

namespace Future

variable {α ε : Type*}

/-- The state of one future. -/
inductive State (α ε : Type*) where
  | pending
  | result (value : α)
  | exception (error : ε)
  | cancelled
  /-- Its creator raised an exception of its own and never waited for it. -/
  | dropped
deriving DecidableEq

namespace State

def isPending : State α ε → Bool
  | pending => true
  | _ => false

/-- The future has a result, an exception or a cancellation. -/
def isDone : State α ε → Bool
  | result _ | exception _ | cancelled => true
  | _ => false

def isCancelled : State α ε → Bool
  | cancelled => true
  | _ => false

@[simp] lemma isPending_pending : (pending : State α ε).isPending = true := rfl
@[simp] lemma isPending_result (a : α) : (result a : State α ε).isPending = false := rfl
@[simp] lemma isPending_exception (e : ε) : (exception e : State α ε).isPending = false := rfl
@[simp] lemma isPending_cancelled : (cancelled : State α ε).isPending = false := rfl
@[simp] lemma isPending_dropped : (dropped : State α ε).isPending = false := rfl

lemma isPending_iff {state : State α ε} : state.isPending = true ↔ state = pending := by
  cases state with
  | pending => exact iff_of_true rfl rfl
  | _ => exact iff_of_false Bool.false_ne_true (by rintro ⟨⟩)

lemma isDone_of_isCancelled {state : State α ε} (h : state.isCancelled = true) :
    state.isDone = true := by
  cases state with
  | cancelled => rfl
  | _ => cases h

lemma not_isDone_of_isPending {state : State α ε} (h : state.isPending = true) :
    state.isDone = false := by
  cases state with
  | pending => rfl
  | _ => cases h

lemma not_isPending_of_isDone {state : State α ε} (h : state.isDone = true) :
    state.isPending = false := by
  cases state with
  | pending => cases h
  | _ => rfl

end State

/-- The futures created so far, by number. -/
abbrev Table (α ε : Type*) := ℕ → State α ε

/-- Settle every waiter that is not done. -/
def settle (waiters : List ℕ) (outcome : State α ε) (futures : Table α ε) : Table α ε :=
  fun f => if f ∈ waiters ∧ (futures f).isPending then outcome else futures f

variable {waiters : List ℕ} {outcome : State α ε} {futures : Table α ε} {f : ℕ}

@[simp] lemma settle_nil : settle [] outcome futures = futures := by
  funext f
  simp [settle]

/-- Who is not among the waiters is left alone. -/
lemma settle_of_notMem (h : f ∉ waiters) : settle waiters outcome futures f = futures f := by
  simp [settle, h]

/-- Who is done stays as it is. -/
lemma settle_of_done (h : (futures f).isPending = false) :
    settle waiters outcome futures f = futures f := by
  simp [settle, h]

/-- Who has the outcome now and did not before was a waiter. -/
lemma mem_of_settle {state : State α ε} (h : settle waiters outcome futures f = state)
    (hne : futures f ≠ state) : f ∈ waiters ∧ outcome = state := by
  by_cases hset : f ∈ waiters ∧ (futures f).isPending
  · rw [settle, if_pos hset] at h
    exact ⟨hset.1, h⟩
  · rw [settle, if_neg hset] at h
    exact absurd h hne

/-- If all waiters are done, settling them does nothing. -/
lemma settle_eq_self (h : ∀ f ∈ waiters, (futures f).isPending = false) :
    settle waiters outcome futures = futures := by
  funext f
  by_cases hf : f ∈ waiters
  · exact settle_of_done (h f hf)
  · exact settle_of_notMem hf

/-- Who is still pending was pending before, and was not a waiter. -/
lemma isPending_settle (ho : outcome.isPending = false) :
    (settle waiters outcome futures f).isPending = true ↔
      (futures f).isPending = true ∧ f ∉ waiters := by
  by_cases hf : f ∈ waiters
  · by_cases hp : (futures f).isPending = true
    · simp [settle, hf, hp, ho]
    · simp [settle, hf, hp]
  · simp [settle, hf]

/-- Settling leaves whoever was done, and settles the waiters. -/
lemma isDone_settle (h : (futures f).isDone = true) :
    (settle waiters outcome futures f).isDone = true := by
  rw [settle_of_done (State.not_isPending_of_isDone h)]
  exact h

lemma isDone_settle_of_mem (ho : outcome.isDone = true) (h : (futures f).isPending = true)
    (hf : f ∈ waiters) : (settle waiters outcome futures f).isDone = true := by
  rw [settle, if_pos ⟨hf, h⟩]
  exact ho

end Future
