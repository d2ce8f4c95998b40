import Mathlib.Data.Finset.Card
import Mathlib.Data.Finset.Image
import Mathlib.Order.Interval.Finset.Nat

/-!
# The first free candidate

A loop `while candidate(n) in used: n += 1`. If the candidates differ from each other, each one that
it passes over is another member of `used`, so that it stops after at most as many increments as
there are members, at the first candidate that is free.
-/

namespace Search

variable {α : Type*} [DecidableEq α] {candidate : ℕ → α} {used : List α} {start n fuel : ℕ}

/-- The loop, from `start` on, with a bound on its iterations. -/
def firstFree (candidate : ℕ → α) (used : List α) : ℕ → ℕ → Option ℕ
  | 0, _ => none
  | fuel + 1, n =>
    if candidate n ∈ used then firstFree candidate used fuel (n + 1) else some n

/-- The loop stops at the first free candidate, if it is given an iteration for each one. -/
lemma firstFree_eq (hfree : candidate n ∉ used) (hle : start ≤ n)
    (hused : ∀ i, start ≤ i → i < n → candidate i ∈ used) (hfuel : n - start < fuel) :
    firstFree candidate used fuel start = some n := by
  induction fuel generalizing start with
  | zero => omega
  | succ fuel ih =>
    rcases Nat.eq_or_lt_of_le hle with rfl | hlt
    · exact if_neg hfree
    · rw [firstFree, if_pos (hused start le_rfl hlt)]
      exact ih hlt (fun i hi hin => hused i (Nat.le_of_succ_le hi) hin) (by omega)

/-- Candidates that are all used are as many members of `used`. -/
lemma length_le_of_used (hinj : Function.Injective candidate)
    (hused : ∀ i, start ≤ i → i < n → candidate i ∈ used) : n - start ≤ used.length := by
  have hsubset : (Finset.Ico start n).image candidate ⊆ used.toFinset := by
    intro c hc
    obtain ⟨i, hi, rfl⟩ := Finset.mem_image.mp hc
    obtain ⟨hstart, hin⟩ := Finset.mem_Ico.mp hi
    exact List.mem_toFinset.mpr (hused i hstart hin)
  calc n - start = (Finset.Ico start n).card := (Nat.card_Ico start n).symm
    _ = ((Finset.Ico start n).image candidate).card :=
      (Finset.card_image_of_injective _ hinj).symm
    _ ≤ used.toFinset.card := Finset.card_le_card hsubset
    _ ≤ used.length := used.toFinset_card_le

/-- If the candidates differ, some candidate is free. -/
lemma exists_free (hinj : Function.Injective candidate) (used : List α) (start : ℕ) :
    ∃ n, start ≤ n ∧ candidate n ∉ used := by
  by_contra hnone
  have hused : ∀ i, start ≤ i → i < start + used.length + 1 → candidate i ∈ used := by
    intro i hi _
    by_contra hfree
    exact hnone ⟨i, hi, hfree⟩
  have hle := length_le_of_used hinj hused
  omega

/-- The loop stops, after at most as many increments as there are members, at the first free
candidate. -/
theorem exists_firstFree (hinj : Function.Injective candidate) (used : List α) (start : ℕ) :
    ∃ n, start ≤ n ∧ n - start ≤ used.length ∧ candidate n ∉ used ∧
      (∀ i, start ≤ i → i < n → candidate i ∈ used) ∧
      ∀ fuel, n - start < fuel → firstFree candidate used fuel start = some n := by
  obtain ⟨hle, hfree⟩ := Nat.find_spec (exists_free hinj used start)
  have hused : ∀ i, start ≤ i → i < Nat.find (exists_free hinj used start) →
      candidate i ∈ used := by
    intro i hi hin
    by_contra hnot
    exact Nat.find_min _ hin ⟨hi, hnot⟩
  exact ⟨_, hle, length_le_of_used hinj hused, hfree, hused,
    fun fuel hfuel => firstFree_eq hfree hle hused hfuel⟩

end Search
