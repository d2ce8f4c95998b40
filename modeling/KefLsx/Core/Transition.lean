import Mathlib.Order.Basic

/-!
# Runs of a partial step function

A system is a step function `step : σ → ε → Option σ`: an event is either enabled, and then
determines the next state, or it is not. `Reaches step ok s₀` are the states of the runs from
`s₀` in which every step meets the condition `ok` on the state it leaves and the event it
takes; with the trivial condition they are the reachable states.

The induction over a run is made once, in `Reaches.invariant`. An invariant of a system is then
two goals: it holds in `s₀`, and one step preserves it.
-/

namespace Transition

variable {σ ε : Type*} {step : σ → ε → Option σ} {ok ok' : σ → ε → Prop} {s₀ s t : σ}

/-- States reached from `s₀` by steps that all meet `ok`. -/
inductive Reaches (step : σ → ε → Option σ) (ok : σ → ε → Prop) (s₀ : σ) : σ → Prop where
  | refl : Reaches step ok s₀ s₀
  | tail {s t : σ} {e : ε} (h : Reaches step ok s₀ s) (hok : ok s e) (hst : step s e = some t) :
      Reaches step ok s₀ t

/-- States of the unrestricted runs from `s₀`. -/
abbrev Reachable (step : σ → ε → Option σ) (s₀ : σ) : σ → Prop :=
  Reaches step (fun _ _ => True) s₀

namespace Reaches

/-- A run that meets a condition meets every weaker one. -/
lemma mono (h : Reaches step ok s₀ s) (himp : ∀ s e, ok s e → ok' s e) :
    Reaches step ok' s₀ s := by
  induction h with
  | refl => exact .refl
  | tail _ hok hst ih => exact .tail ih (himp _ _ hok) hst

/-- Forget the condition of a run. -/
lemma reachable (h : Reaches step ok s₀ s) : Reachable step s₀ s :=
  h.mono fun _ _ _ => trivial

/-- What holds at the start and is preserved by every step of a run holds in every state of
the run. The step may use that the state it leaves belongs to the run. -/
theorem invariant {I : σ → Prop} (h : Reaches step ok s₀ s) (init : I s₀)
    (pres : ∀ {s t e}, Reaches step ok s₀ s → I s → ok s e → step s e = some t → I t) : I s := by
  induction h with
  | refl => exact init
  | tail hr hok hst ih => exact pres hr ih hok hst

/-- The potential method: if what a step does is paid for, up to what it takes from a potential,
then so is what a run does. -/
theorem amortized (work paid potential : σ → ℕ) (h : Reaches step ok s₀ s)
    (hstep : ∀ {s t e}, Reaches step ok s₀ s → ok s e → step s e = some t →
      work t + potential t + paid s ≤ work s + potential s + paid t) :
    work s + potential s + paid s₀ ≤ work s₀ + potential s₀ + paid s := by
  refine h.invariant (I := fun s => work s + potential s + paid s₀ ≤
    work s₀ + potential s₀ + paid s) (Nat.le_refl _) ?_
  intro s t e hr hs hok hst
  have hpaid := hstep hr hok hst
  omega

/-- Runs compose. -/
theorem trans {u : σ} (h : Reaches step ok s₀ s) (h' : Reaches step ok s u) :
    Reaches step ok s₀ u := by
  induction h' with
  | refl => exact h
  | tail _ hok hst ih => exact .tail ih hok hst

end Reaches

/-- Execute a list of events, if each is enabled in its turn. -/
def run (step : σ → ε → Option σ) : List ε → σ → Option σ
  | [], s => some s
  | e :: es, s => (step s e).bind (run step es)

lemma run_append {es es' : List ε} :
    run step (es ++ es') s = (run step es s).bind (run step es') := by
  induction es generalizing s with
  | nil => rfl
  | cons e es ih =>
    simp only [List.cons_append, run, Option.bind_assoc]
    congr 1
    funext t
    exact ih

/-- An executed list of events is a run. -/
theorem reachable_of_run {es : List ε} (h : run step es s = some t) : Reachable step s t := by
  induction es generalizing s with
  | nil => cases h; exact .refl
  | cons e es ih =>
    obtain ⟨s', hst, hrun⟩ := Option.bind_eq_some_iff.mp h
    exact (Reaches.tail .refl trivial hst).trans (ih hrun)

/-- What relates the start to no events, and is preserved by every step, relates the state that
an executed list of events leads to with this list. The step may use that the state it leaves
belongs to the run. -/
theorem run_invariant {I : List ε → σ → Prop} {es : List ε} (h : run step es s₀ = some t)
    (init : I [] s₀) (pres : ∀ {es s t e}, run step es s₀ = some s → I es s →
      step s e = some t → I (es ++ [e]) t) : I es t := by
  induction es generalizing s₀ I with
  | nil =>
    cases h
    exact init
  | cons e es ih =>
    obtain ⟨s, hst, hrun⟩ := Option.bind_eq_some_iff.mp h
    refine ih (I := fun es => I (e :: es)) hrun (pres rfl init hst) ?_
    intro es' s' t' e' hrun' hI hst'
    refine pres ?_ hI hst'
    rw [run, hst, Option.bind_some]
    exact hrun'

/-- A measure that no step raises, and that the events of a kind lower, bounds how many of these
events can be executed. -/
theorem add_countP_le {μ : σ → ℕ} {kind : ε → Bool}
    (hstep : ∀ {s t e}, step s e = some t → μ t + (if kind e then 1 else 0) ≤ μ s) {es : List ε}
    (h : run step es s = some t) : μ t + es.countP kind ≤ μ s := by
  induction es generalizing s with
  | nil => cases h; exact Nat.le_refl (μ t)
  | cons e es ih =>
    obtain ⟨s', hst, hrun⟩ := Option.bind_eq_some_iff.mp h
    calc μ t + (e :: es).countP kind
        = μ t + es.countP kind + (if kind e then 1 else 0) := by
          rw [List.countP_cons, Nat.add_assoc]
      _ ≤ μ s' + (if kind e then 1 else 0) := Nat.add_le_add_right (ih hrun) _
      _ ≤ μ s := hstep hst

/-- Events that all lower a measure, as long as an invariant holds, come to an end. -/
theorem length_le_of_lowers {I : σ → Prop} {kind : ε → Prop} {μ : σ → ℕ}
    (hstep : ∀ {s t e}, I s → kind e → step s e = some t → I t ∧ μ t < μ s) {es : List ε}
    (hkind : ∀ e ∈ es, kind e) (hs : I s) (h : run step es s = some t) :
    μ t + es.length ≤ μ s := by
  induction es generalizing s with
  | nil => cases h; exact Nat.le_refl (μ t)
  | cons e es ih =>
    obtain ⟨s', hst, hrun⟩ := Option.bind_eq_some_iff.mp h
    obtain ⟨hs', hlt⟩ := hstep hs (hkind e List.mem_cons_self) hst
    have hrest := ih (fun e he => hkind e (List.mem_cons_of_mem _ he)) hs' hrun
    rw [List.length_cons]
    omega

/-- The system that refuses the events which a test refuses. -/
def guarded (step : σ → ε → Option σ) (test : σ → ε → Bool) (s : σ) (e : ε) : Option σ :=
  if test s e then step s e else none

/-- A run of the guarded system is a run whose steps all pass the test. -/
theorem Reaches.of_guarded {test : σ → ε → Bool} (h : Reachable (guarded step test) s₀ s) :
    Reaches step (fun s e => test s e = true) s₀ s := by
  induction h with
  | refl => exact .refl
  | tail _ _ hst ih =>
    simp only [guarded, Option.ite_none_right_eq_some] at hst
    exact .tail ih hst.1 hst.2

/-- A state of an executed list of events, of which a test holds, is reachable. -/
theorem exists_reachable_of_run {es : List ε} {p : σ → Bool}
    (h : (run step es s).any p = true) : ∃ t, Reachable step s t ∧ p t = true := by
  cases hrun : run step es s with
  | none =>
    rw [hrun] at h
    cases h
  | some t =>
    rw [hrun] at h
    exact ⟨t, reachable_of_run hrun, h⟩

end Transition
