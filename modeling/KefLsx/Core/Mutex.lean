import Mathlib.Logic.Function.Basic

/-!
# Mutual exclusion

Parties go through phases, and some of the phases lie inside a critical section that is guarded by
a lock. `Guards` relates the owner of the lock to the parties inside, and has one lemma for each
way in which a party may go on: it takes the free lock and goes inside, it leaves and releases the
lock, or it stays on its side.
-/

namespace Mutex

variable {ι π : Type*} {inside : π → Prop} {owner : Option ι} {phases : ι → π} {i j : ι}
  {phase : π}

/-- Exactly the owner of the lock is inside. -/
def Guards (inside : π → Prop) (owner : Option ι) (phases : ι → π) : Prop :=
  ∀ i, inside (phases i) ↔ owner = some i

namespace Guards

/-- Two parties inside are the same. -/
lemma eq (h : Guards inside owner phases) (hi : inside (phases i)) (hj : inside (phases j)) :
    i = j :=
  Option.some.inj (((h i).mp hi).symm.trans ((h j).mp hj))

/-- Nobody is inside while the lock is free. -/
lemma not_inside (h : Guards inside owner phases) (hfree : owner = none) : ¬ inside (phases i) := by
  intro hi
  rw [(h i).mp hi] at hfree
  cases hfree

variable [DecidableEq ι]

lemma acquire (h : Guards inside owner phases) (hfree : owner = none) (hphase : inside phase) :
    Guards inside (some i) (Function.update phases i phase) := by
  intro j
  rcases eq_or_ne j i with rfl | hne
  · rw [Function.update_self]
    exact iff_of_true hphase rfl
  · rw [Function.update_of_ne hne]
    exact iff_of_false (h.not_inside hfree) fun heq => hne (Option.some.inj heq).symm

lemma release (h : Guards inside owner phases) (hi : inside (phases i)) (hphase : ¬ inside phase) :
    Guards inside none (Function.update phases i phase) := by
  intro j
  rcases eq_or_ne j i with rfl | hne
  · rw [Function.update_self]
    exact iff_of_false hphase (Option.some_ne_none j).symm
  · rw [Function.update_of_ne hne]
    exact iff_of_false (fun hj => hne (h.eq hj hi)) (Option.some_ne_none j).symm

lemma stay (h : Guards inside owner phases) (hphase : inside phase ↔ inside (phases i)) :
    Guards inside owner (Function.update phases i phase) := by
  intro j
  rcases eq_or_ne j i with rfl | hne
  · rw [Function.update_self, hphase]
    exact h j
  · rw [Function.update_of_ne hne]
    exact h j

end Guards

end Mutex
