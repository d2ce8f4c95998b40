import Mathlib.Order.Basic

/-!
# A copy of a value that others may change

A device holds a value, and a client keeps a copy of it, which it takes from the device's reports.
Between a report and its arrival, and after it, the value may change. `version` counts the changes
of the value, a report carries the version it was made under, and the client remembers the version
of the report that its copy comes from.

Whatever the order of these steps, a copy of the current version is equal to the value
(`Replica.Coherent`): the client is never wrong about a value that has not changed since.
-/

/-- A value, its copy, and what dates them. -/
structure Replica (α : Type*) where
  value : α
  version : ℕ := 0
  copy : Option α := none
  /-- The version that the copy comes from. -/
  seen : Option ℕ := none
  /-- The report under way: its version, and the value it tells. -/
  report : Option (ℕ × α) := none

namespace Replica

variable {α : Type*} [DecidableEq α] {r r' : Replica α}

/-- The version after the value has become `new`. -/
def nextVersion (version : ℕ) (old new : α) : ℕ := if new = old then version else version + 1

/-- One step of the device, of the client, or of the link between them. -/
inductive Step (r : Replica α) : Replica α → Prop where
  /-- Nothing of this value is concerned. -/
  | idle : Step r r
  /-- Somebody sets the value. -/
  | write (a : α) : Step r { r with value := a, version := nextVersion r.version r.value a }
  /-- The device sets the value as it is asked to, and reports it. -/
  | answer (a : α) :
      Step r { r with
        value := a
        version := nextVersion r.version r.value a
        report := some (nextVersion r.version r.value a, a) }
  /-- The client takes the report for its copy. -/
  | learn (n : ℕ) (a : α) (h : r.report = some (n, a)) :
      Step r { r with copy := some a, seen := some n, report := none }
  /-- The report is lost, or the client does not use it. -/
  | lose : Step r { r with report := none }

/-- What is dated by the current version is right. -/
structure Coherent (r : Replica α) : Prop where
  report_le : ∀ n a, r.report = some (n, a) → n ≤ r.version
  report_eq : ∀ a, r.report = some (r.version, a) → a = r.value
  seen_le : ∀ n, r.seen = some n → n ≤ r.version
  copy_eq : r.seen = some r.version → r.copy = some r.value

lemma le_nextVersion (version : ℕ) (old new : α) : version ≤ nextVersion version old new := by
  unfold nextVersion
  split
  · exact Nat.le_refl version
  · exact Nat.le_succ version

/-- The version stays only with the value. -/
lemma eq_of_nextVersion_le {version : ℕ} {old new : α}
    (h : nextVersion version old new ≤ version) : new = old := by
  by_contra hne
  rw [nextVersion, if_neg hne] at h
  exact Nat.not_succ_le_self version h

lemma Coherent.write (h : Coherent r) (a : α) :
    Coherent { r with value := a, version := nextVersion r.version r.value a } where
  report_le n b hb := Nat.le_trans (h.report_le n b hb) (le_nextVersion ..)
  report_eq b hb := by
    obtain rfl : a = r.value := eq_of_nextVersion_le (h.report_le _ _ hb)
    rw [nextVersion, if_pos rfl] at hb
    exact h.report_eq b hb
  seen_le n hn := Nat.le_trans (h.seen_le n hn) (le_nextVersion ..)
  copy_eq hn := by
    obtain rfl : a = r.value := eq_of_nextVersion_le (h.seen_le _ hn)
    rw [nextVersion, if_pos rfl] at hn
    exact h.copy_eq hn

/-- Every step keeps the copy right. -/
theorem Coherent.step (h : Coherent r) (hst : Step r r') : Coherent r' := by
  cases hst with
  | idle => exact h
  | write a => exact h.write a
  | answer a =>
    have hwrite := h.write a
    refine ⟨?_, ?_, hwrite.seen_le, hwrite.copy_eq⟩
    · rintro n b ⟨⟩
      exact Nat.le_refl _
    · rintro b ⟨⟩
      rfl
  | learn n a hreport =>
    refine ⟨nofun, nofun, ?_, ?_⟩
    · rintro m ⟨⟩
      exact h.report_le n a hreport
    · intro hn
      obtain rfl : n = r.version := Option.some.inj hn
      exact congrArg some (h.report_eq a hreport)
  | lose => exact ⟨nofun, nofun, h.seen_le, h.copy_eq⟩

omit [DecidableEq α] in
/-- A client that has heard nothing is not wrong. -/
lemma coherent_init (a : α) : Coherent { value := a } where
  report_le := nofun
  report_eq := nofun
  seen_le := nofun
  copy_eq := nofun

end Replica
