import Mathlib.Data.List.Basic

/-!
# Histories

A history is a list of entries, newest first. A property of an entry and of what came before it
is asked of every entry by `Each`, which an invariant extends at the head; `each_iff` reads it at
any place of the history. `newest?` looks for a value, which an entry may have given what came
before it.
-/

namespace History

variable {α β : Type*} {P Q : α → List α → Prop} {history notes : List α}

/-- Every entry has the property `P`, given the entries before it. -/
def Each (P : α → List α → Prop) : List α → Prop
  | [] => True
  | o :: earlier => P o earlier ∧ Each P earlier

@[simp] lemma each_cons {o : α} : Each P (o :: history) ↔ P o history ∧ Each P history := Iff.rfl

/-- The property at any place of the history. -/
theorem each_iff :
    Each P history ↔ ∀ later o earlier, history = later ++ o :: earlier → P o earlier := by
  induction history with
  | nil =>
    refine ⟨?_, fun _ => trivial⟩
    intro _ later o earlier h
    simp at h
  | cons o history ih =>
    rw [each_cons, ih]
    constructor
    · rintro ⟨ho, hrest⟩ later o' earlier h
      cases later with
      | nil => cases h; exact ho
      | cons _ later => exact hrest later o' earlier (List.cons.inj h).2
    · intro h
      refine ⟨h [] o history rfl, ?_⟩
      intro later o' earlier hsplit
      exact h (o :: later) o' earlier (by rw [hsplit, List.cons_append])

/-- Entries of which nothing is asked may be added. -/
lemma Each.append (h : Each P history) (hnotes : ∀ o ∈ notes, ∀ earlier, P o earlier) :
    Each P (notes ++ history) := by
  induction notes with
  | nil => exact h
  | cons o notes ih =>
    refine ⟨hnotes o (by simp) _, ih ?_⟩
    intro o' ho'
    exact hnotes o' (by simp [ho'])

/-- The property of an earlier part of the history. -/
lemma Each.of_append (h : Each P (notes ++ history)) : Each P history := by
  induction notes with
  | nil => exact h
  | cons o notes ih => exact ih h.2

/-- A weaker property is asked of the same entries. -/
lemma Each.mono (h : Each P history) (himp : ∀ o earlier, P o earlier → Q o earlier) :
    Each Q history := by
  rw [each_iff] at h ⊢
  intro later o earlier hsplit
  exact himp o earlier (h later o earlier hsplit)

/-! ### The newest value -/

variable {value : List α → α → Option β}

/-- The value of the newest entry that has one. -/
def newest? (value : List α → α → Option β) : List α → Option β
  | [] => none
  | o :: earlier => (value earlier o).or (newest? value earlier)

lemma newest?_cons {o : α} :
    newest? value (o :: history) = (value history o).or (newest? value history) := rfl

/-- No entry has a value. -/
lemma newest?_eq_none :
    newest? value history = none ↔ Each (fun o earlier => value earlier o = none) history := by
  induction history with
  | nil => exact iff_of_true rfl trivial
  | cons o history ih => rw [newest?_cons, Option.or_eq_none_iff, ih, each_cons]

/-- Entries without a value may be left out, where no value of another depends on them. -/
lemma newest?_filter {p : α → Bool} (hp : ∀ o earlier, p o = false → value earlier o = none)
    (hvalue : ∀ o earlier, value (earlier.filter p) o = value earlier o) :
    newest? value (history.filter p) = newest? value history := by
  induction history with
  | nil => rfl
  | cons o history ih =>
    cases ho : p o with
    | false =>
      rw [List.filter_cons_of_neg (by simp [ho]), ih, newest?_cons, hp o history ho,
        Option.none_or]
    | true => rw [List.filter_cons_of_pos ho, newest?_cons, newest?_cons, hvalue, ih]

end History
