import Mathlib.Data.List.Basic

/-!
# Tables

A list as a table: a row is named by its index, new rows are added at the end, and rows are changed
in place. For each way to change the table there is a lemma that says what a row of the new table
was before.
-/

namespace Table

variable {α : Type*} {rows : List α} {f : α → α} {a b : α} {i j : ℕ}

/-- A row is an old one or the one that was added. -/
lemma of_concat (h : (rows ++ [a])[i]? = some b) :
    rows[i]? = some b ∨ i = rows.length ∧ b = a := by
  rcases Nat.lt_or_ge i rows.length with hlt | hle
  · rw [List.getElem?_append_left hlt] at h
    exact .inl h
  · rw [List.getElem?_append_right hle, List.getElem?_singleton,
      Option.ite_none_right_eq_some] at h
    exact .inr ⟨by omega, (Option.some.inj h.2).symm⟩

/-- A row is the one that was modified or as before. -/
lemma of_modify (h : (rows.modify i f)[j]? = some b) :
    ∃ a, rows[j]? = some a ∧ (j = i ∧ b = f a ∨ j ≠ i ∧ b = a) := by
  rw [List.getElem?_modify, Option.map_eq_map, Option.map_eq_some_iff] at h
  obtain ⟨a, ha, rfl⟩ := h
  refine ⟨a, ha, ?_⟩
  split
  · rename_i hij
    exact .inl ⟨hij.symm, rfl⟩
  · rename_i hij
    exact .inr ⟨fun hji => hij hji.symm, rfl⟩

/-- A row is the one that was set or as before. -/
lemma of_set (h : (rows.set i a)[j]? = some b) :
    j = i ∧ b = a ∨ j ≠ i ∧ rows[j]? = some b := by
  rw [List.getElem?_set] at h
  split at h
  · rename_i hij
    rw [Option.ite_none_right_eq_some] at h
    exact .inl ⟨hij.symm, (Option.some.inj h.2).symm⟩
  · rename_i hij
    exact .inr ⟨fun hji => hij hji.symm, h⟩

end Table
