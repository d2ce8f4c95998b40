import Mathlib.Algebra.Ring.Nat
import Mathlib.Data.List.Basic

/-!
# Loops over a sequence of inputs

The body of a loop takes one input in each turn, and then goes on with a new state or stops with
an outcome: `body : σ → α → Except ω σ`. Over a list of inputs the loop is `turns`; its errors are
the outcomes, and `.ok s` says that it waits for its next input in state `s`.

A `Budget` is a reason for a loop to stop that does not depend on when its inputs come: each of
them has a weight, which the loop adds to a potential that stays within a bound. So the inputs of
a loop that goes on weigh no more than the bound (`Budget.sum_weight_le`), and a loop over an
endless sequence of inputs with positive weights stops (`Budget.exists_stop_of_endless`).
-/

namespace Loop

variable {σ α ω : Type*} {body : σ → α → Except ω σ} {s t : σ} {inputs inputs' : List α}
  {outcome : ω}

/-- Take a turn for each of the inputs, up to the one that stops the loop. -/
def turns (body : σ → α → Except ω σ) (s : σ) (inputs : List α) : Except ω σ :=
  inputs.foldlM body s

lemma turns_cons {a : α} :
    turns body s (a :: inputs) = (body s a).bind fun t => turns body t inputs :=
  List.foldlM_cons

lemma turns_append :
    turns body s (inputs ++ inputs') =
      (turns body s inputs).bind fun t => turns body t inputs' :=
  List.foldlM_append

@[simp] lemma turns_singleton {a : α} : turns body s [a] = body s a := by
  rw [turns_cons]
  cases body s a <;> rfl

/-- A loop that waits takes its next input in the state in which it waits. -/
lemma turns_append_of_wait (h : turns body s inputs = .ok t) :
    turns body s (inputs ++ inputs') = turns body t inputs' := by
  rw [turns_append, h]
  rfl

/-- A loop that has stopped did so in one of its turns. -/
lemma exists_stopping_turn (h : turns body s inputs = .error outcome) :
    ∃ pre a post t, inputs = pre ++ a :: post ∧ turns body s pre = .ok t ∧
      body t a = .error outcome := by
  induction inputs generalizing s with
  | nil => cases h
  | cons a inputs ih =>
    rw [turns_cons] at h
    cases hbody : body s a with
    | error outcome' =>
      rw [hbody] at h
      cases h
      exact ⟨[], a, inputs, s, rfl, rfl, hbody⟩
    | ok t =>
      rw [hbody] at h
      obtain ⟨pre, b, post, u, rfl, hpre, hb⟩ := ih h
      refine ⟨a :: pre, b, post, u, rfl, ?_, hb⟩
      rw [turns_cons, hbody]
      exact hpre

/-- What holds at the start and is preserved by every turn holds as long as the loop goes on. -/
theorem invariant {I : σ → Prop} (h : turns body s inputs = .ok t) (init : I s)
    (pres : ∀ {s a t}, I s → body s a = .ok t → I t) : I t := by
  induction inputs generalizing s with
  | nil =>
    cases h
    exact init
  | cons a inputs ih =>
    rw [turns_cons] at h
    cases hbody : body s a with
    | error outcome =>
      rw [hbody] at h
      cases h
    | ok u =>
      rw [hbody] at h
      exact ih h (pres init hbody)

/-- Of an endless sequence of inputs a loop takes the first `n`, or stops with one of them. -/
lemma wait_or_stop (inputs : ℕ → α) (n : ℕ) :
    (∃ t, turns body s ((List.range n).map inputs) = .ok t) ∨
      ∃ m t outcome, m < n ∧ turns body s ((List.range m).map inputs) = .ok t ∧
        body t (inputs m) = .error outcome := by
  induction n with
  | zero => exact .inl ⟨s, rfl⟩
  | succ n ih =>
    rcases ih with ⟨t, ht⟩ | ⟨m, t, outcome, hm, hstop⟩
    · cases hbody : body t (inputs n) with
      | error outcome => exact .inr ⟨n, t, outcome, Nat.lt_succ_self n, ht, hbody⟩
      | ok u =>
        refine .inl ⟨u, ?_⟩
        rw [List.range_succ, List.map_append, turns_append_of_wait ht, List.map_singleton,
          turns_singleton, hbody]
    · exact .inr ⟨m, t, outcome, Nat.lt_succ_of_lt hm, hstop⟩

/-! ### Loops that stop -/

/-- A reason for a loop to stop: every turn after which it goes on adds the weight of its input to
the potential, and the potential stays within the bound. -/
structure Budget (body : σ → α → Except ω σ) (start : σ) where
  invariant : σ → Prop
  potential : σ → ℕ
  weight : α → ℕ
  bound : ℕ
  invariant_start : invariant start
  invariant_turn : ∀ {s a t}, invariant s → body s a = .ok t → invariant t
  potential_turn : ∀ {s a t}, body s a = .ok t → potential s + weight a ≤ potential t
  potential_le : ∀ {s}, invariant s → potential s ≤ bound

namespace Budget

variable {start : σ} (B : Budget body start)

include B

lemma invariant_of_wait (h : turns body start inputs = .ok t) : B.invariant t :=
  Loop.invariant h B.invariant_start B.invariant_turn

/-- The potential rises by what the inputs weigh. -/
lemma potential_add_sum_le (h : turns body s inputs = .ok t) :
    B.potential s + (inputs.map B.weight).sum ≤ B.potential t := by
  induction inputs generalizing s with
  | nil =>
    cases h
    exact Nat.le_refl _
  | cons a inputs ih =>
    rw [turns_cons] at h
    cases hbody : body s a with
    | error outcome =>
      rw [hbody] at h
      cases h
    | ok u =>
      rw [hbody] at h
      calc B.potential s + ((a :: inputs).map B.weight).sum
          = B.potential s + B.weight a + (inputs.map B.weight).sum := by
            rw [List.map_cons, List.sum_cons, Nat.add_assoc]
        _ ≤ B.potential u + (inputs.map B.weight).sum :=
            Nat.add_le_add_right (B.potential_turn hbody) _
        _ ≤ B.potential t := ih h

/-- The inputs of a loop that goes on weigh no more than the bound. -/
theorem sum_weight_le (h : turns body start inputs = .ok t) :
    (inputs.map B.weight).sum ≤ B.bound :=
  calc (inputs.map B.weight).sum
      ≤ B.potential start + (inputs.map B.weight).sum := Nat.le_add_left _ _
    _ ≤ B.potential t := B.potential_add_sum_le h
    _ ≤ B.bound := B.potential_le (B.invariant_of_wait h)

/-- Inputs that weigh more than the bound stop the loop. -/
theorem exists_stop (h : B.bound < (inputs.map B.weight).sum) :
    ∃ outcome, turns body start inputs = .error outcome := by
  cases hturns : turns body start inputs with
  | error outcome => exact ⟨outcome, rfl⟩
  | ok t => exact absurd (B.sum_weight_le hturns) (Nat.not_le_of_lt h)

/-- An endless sequence of inputs that all weigh something stops the loop. -/
theorem exists_stop_of_endless {inputs : ℕ → α} (hpos : ∀ i, 0 < B.weight (inputs i)) :
    ∃ n t outcome, turns body start ((List.range n).map inputs) = .ok t ∧
      body t (inputs n) = .error outcome := by
  have hweight : ∀ n, n ≤ (((List.range n).map inputs).map B.weight).sum := by
    intro n
    induction n with
    | zero => exact Nat.zero_le _
    | succ n ih =>
      have hn := hpos n
      simp only [List.range_succ, List.map_append, List.map_singleton, List.sum_append,
        List.sum_singleton]
      omega
  rcases wait_or_stop inputs (B.bound + 1) with ⟨t, ht⟩ | ⟨n, t, outcome, -, ht, hstop⟩
  · have hle := B.sum_weight_le ht
    have hlt := hweight (B.bound + 1)
    omega
  · exact ⟨n, t, outcome, ht, hstop⟩

end Budget

end Loop
