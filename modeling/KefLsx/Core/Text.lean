import Mathlib

/-!
# Texts

A Python string is the list of its characters. This file has the methods of `str` that the
configuration uses, and `str.casefold` as far as its users rely on it: it folds a text piece by
piece, and leaves the underscore and the digits alone.
-/

abbrev Text := List Char

namespace Text

variable {s t before after : Text}

/-! ### Surrounding whitespace -/

/-- `str.isspace` of one character. -/
def isSpace (c : Char) : Bool :=
  (0x09 ≤ c.toNat && c.toNat ≤ 0x0D) || (0x1C ≤ c.toNat && c.toNat ≤ 0x20) ||
    (0x2000 ≤ c.toNat && c.toNat ≤ 0x200A) ||
    [0x85, 0xA0, 0x1680, 0x2028, 0x2029, 0x202F, 0x205F, 0x3000].contains c.toNat

/-- `str.strip`. -/
def strip (s : Text) : Text := (s.dropWhile isSpace).rdropWhile isSpace

/-- There is no whitespace at either end. -/
structure Trimmed (s : Text) : Prop where
  head : ∀ c ∈ s.head?, isSpace c = false
  last : ∀ c ∈ s.getLast?, isSpace c = false

lemma dropWhile_eq_self_of_head {p : Char → Bool} (h : ∀ c ∈ s.head?, p c = false) :
    s.dropWhile p = s := by
  cases s with
  | nil => rfl
  | cons c s => exact List.dropWhile_cons_of_neg (by simp [h c rfl])

lemma rdropWhile_eq_self_of_last {p : Char → Bool} (h : ∀ c ∈ s.getLast?, p c = false) :
    s.rdropWhile p = s := by
  rw [List.rdropWhile_eq_self_iff]
  intro hne
  simp [h _ (List.getLast?_eq_some_getLast hne)]

lemma strip_eq_self (h : Trimmed s) : strip s = s := by
  rw [strip, dropWhile_eq_self_of_head h.head, rdropWhile_eq_self_of_last h.last]

lemma rdropWhile_append_of_forall {p : Char → Bool} (h : ∀ c ∈ after, p c = true) :
    (s ++ after).rdropWhile p = s.rdropWhile p := by
  rw [List.rdropWhile, List.rdropWhile, List.reverse_append,
    List.dropWhile_append_of_pos fun c hc => h c (List.mem_reverse.mp hc)]

/-- Whitespace around a text is stripped from it. -/
lemma strip_surrounded (hs : Trimmed s) (hne : s ≠ []) (hbefore : ∀ c ∈ before, isSpace c = true)
    (hafter : ∀ c ∈ after, isSpace c = true) : strip (before ++ s ++ after) = s := by
  have hhead : ∀ c ∈ (s ++ after).head?, isSpace c = false := by
    intro c hc
    rw [List.head?_append_of_ne_nil _ hne] at hc
    exact hs.head c hc
  rw [strip, List.append_assoc, List.dropWhile_append_of_pos hbefore,
    dropWhile_eq_self_of_head hhead, rdropWhile_append_of_forall hafter,
    rdropWhile_eq_self_of_last hs.last]

/-- The last character is whitespace. -/
def EndsInSpace (s : Text) : Prop := ∃ c ∈ s.getLast?, isSpace c = true

lemma endsInSpace_append (h : t ≠ []) : EndsInSpace (s ++ t) ↔ EndsInSpace t := by
  rw [EndsInSpace, List.getLast?_append_of_ne_nil _ h]
  rfl

lemma not_endsInSpace (h : ∀ c ∈ s, isSpace c = false) : ¬ EndsInSpace s := by
  rintro ⟨c, hc, hspace⟩
  rw [h c (List.mem_of_getLast? hc)] at hspace
  cases hspace

lemma not_endsInSpace_strip (s : Text) : ¬ EndsInSpace (strip s) := by
  rintro ⟨c, hc, hspace⟩
  have hne : strip s ≠ [] := List.ne_nil_of_mem (List.mem_of_getLast? hc)
  have hlast := List.rdropWhile_last_not isSpace (s.dropWhile isSpace) hne
  rw [List.getLast?_eq_some_getLast hne] at hc
  obtain rfl := Option.some.inj hc
  exact hlast hspace

/-- Without whitespace in front, only the end is stripped. -/
lemma strip_of_head (h : ∀ c ∈ s.head?, isSpace c = false) :
    strip s = s.rdropWhile isSpace := by
  rw [strip, dropWhile_eq_self_of_head h]

/-! ### Case -/

/-- `str.lower` of an ASCII string. -/
def lower (s : Text) : Text := s.map Char.toLower

lemma lower_eq_self (h : ∀ c ∈ s, c.toLower = c) : lower s = s := by
  rw [lower, List.map_congr_left h, List.map_id']

lemma toLower_of_not_isAlpha {c : Char} (h : c.isAlpha = false) : c.toLower = c := by
  rw [Char.isAlpha, Bool.or_eq_false_iff] at h
  exact Char.toLower_eq_of_not_isUpper (Bool.not_eq_true _ ▸ h.1)

/-- Only a letter is the lower case of another character. -/
lemma toLower_eq_iff {c d : Char} (h : d.isAlpha = false) : c.toLower = d ↔ c = d := by
  by_cases hc : c.isAlpha = true
  · refine iff_of_false ?_ ?_
    · rintro rfl
      rw [Char.isAlpha_toLower_eq_isAlpha, hc] at h
      cases h
    · rintro rfl
      rw [hc] at h
      cases h
  · rw [toLower_of_not_isAlpha (Bool.eq_false_of_not_eq_true hc)]

/-- A printable ASCII character is no whitespace. -/
lemma isSpace_of_printable {c : Char} (hlow : 0x20 < c.toNat) (hhigh : c.toNat < 0x7F) :
    isSpace c = false := by
  rw [isSpace]
  simp
  omega

lemma isSpace_of_isAlpha {c : Char} (h : c.isAlpha = true) : isSpace c = false := by
  have hcodes : 'A'.val.toNat = 65 ∧ 'Z'.val.toNat = 90 ∧ 'a'.val.toNat = 97 ∧
      'z'.val.toNat = 122 := ⟨rfl, rfl, rfl, rfl⟩
  simp only [Char.isAlpha, Char.isUpper, Char.isLower, Bool.or_eq_true, Bool.and_eq_true,
    decide_eq_true_eq, ge_iff_le, UInt32.le_iff_toNat_le] at h
  apply isSpace_of_printable
  · show 0x20 < c.val.toNat
    omega
  · show c.val.toNat < 0x7F
    omega

lemma isSpace_of_isHexDigit {c : Char} (h : c.isHexDigit = true) : isSpace c = false := by
  have hcodes : 'A'.val.toNat = 65 ∧ 'F'.val.toNat = 70 ∧ 'a'.val.toNat = 97 ∧
      'f'.val.toNat = 102 ∧ '0'.val.toNat = 48 ∧ '9'.val.toNat = 57 :=
    ⟨rfl, rfl, rfl, rfl, rfl, rfl⟩
  simp only [Char.isHexDigit, Char.isDigit, Bool.or_eq_true, Bool.and_eq_true,
    decide_eq_true_eq, ge_iff_le, UInt32.le_iff_toNat_le] at h
  apply isSpace_of_printable
  · show 0x20 < c.val.toNat
    omega
  · show c.val.toNat < 0x7F
    omega

lemma isSpace_toLower (c : Char) : isSpace c.toLower = isSpace c := by
  cases hc : c.isAlpha with
  | false => rw [toLower_of_not_isAlpha hc]
  | true =>
    have hlower : c.toLower.isAlpha = true := by rw [Char.isAlpha_toLower_eq_isAlpha, hc]
    rw [isSpace_of_isAlpha hc, isSpace_of_isAlpha hlower]

/-! ### Splitting -/

variable {sep : Char}

lemma splitOn_cons_self : (sep :: s).splitOn sep = [] :: s.splitOn sep := by
  simp [List.splitOn_cons_eq_if_modifyHead]

/-- A character that is no separator belongs to the first piece. -/
lemma exists_splitOn_cons {c : Char} (h : c ≠ sep) (s : Text) :
    ∃ piece pieces, s.splitOn sep = piece :: pieces ∧
      (c :: s).splitOn sep = (c :: piece) :: pieces := by
  obtain ⟨piece, pieces, hsplit⟩ := List.exists_cons_of_ne_nil (List.splitOn_ne_nil sep s)
  exact ⟨piece, pieces, hsplit, by simp [List.splitOn_cons_eq_if_modifyHead, h, hsplit]⟩

/-- A character is the separator or belongs to a piece. -/
lemma mem_splitOn {c : Char} (h : c ∈ s) : c = sep ∨ ∃ piece ∈ s.splitOn sep, c ∈ piece := by
  induction s with
  | nil => cases h
  | cons d s ih =>
    by_cases hd : d = sep
    · subst hd
      rw [splitOn_cons_self]
      rcases List.mem_cons.mp h with rfl | hmem
      · exact .inl rfl
      · exact (ih hmem).imp_right fun ⟨piece, hpiece, hc⟩ =>
          ⟨piece, List.mem_cons_of_mem _ hpiece, hc⟩
    · obtain ⟨first, pieces, hsplit, hcons⟩ := exists_splitOn_cons hd s
      rw [hcons]
      rcases List.mem_cons.mp h with rfl | hmem
      · exact .inr ⟨_, List.mem_cons_self, List.mem_cons_self⟩
      rcases ih hmem with hsep | ⟨piece, hpiece, hc⟩
      · exact .inl hsep
      rw [hsplit] at hpiece
      rcases List.mem_cons.mp hpiece with rfl | hrest
      · exact .inr ⟨_, List.mem_cons_self, List.mem_cons_of_mem _ hc⟩
      · exact .inr ⟨piece, List.mem_cons_of_mem _ hrest, hc⟩

/-- A text that ends with the separator has an empty piece. -/
lemma nil_mem_splitOn : [] ∈ (s ++ [sep]).splitOn sep := by
  rw [List.splitOn_eq_splitOnP, List.splitOnP_append_cons _ _ (by simp)]
  simp

lemma length_splitOn (s : Text) (sep : Char) :
    s.length + 1 = ((s.splitOn sep).map fun piece => piece.length + 1).sum := by
  induction s with
  | nil => simp
  | cons d s ih =>
    by_cases hd : d = sep
    · subst hd
      rw [splitOn_cons_self, List.map_cons, List.sum_cons, ← ih, List.length_cons]
      simp only [List.length_nil]
      omega
    · obtain ⟨piece, pieces, hsplit, hcons⟩ := exists_splitOn_cons hd s
      rw [hsplit, List.map_cons, List.sum_cons] at ih
      rw [hcons, List.map_cons, List.sum_cons, List.length_cons, List.length_cons]
      omega

/-- Pieces of a bounded length make up a text of a bounded length. -/
lemma length_le_of_splitOn {k : ℕ} (h : ∀ piece ∈ s.splitOn sep, piece.length ≤ k) :
    s.length + 1 ≤ (s.splitOn sep).length * (k + 1) := by
  have hbound : ∀ size ∈ (s.splitOn sep).map fun piece => piece.length + 1, size ≤ k + 1 := by
    intro size hsize
    obtain ⟨piece, hpiece, rfl⟩ := List.mem_map.mp hsize
    exact Nat.succ_le_succ (h piece hpiece)
  have hsum := List.sum_le_card_nsmul _ (k + 1) hbound
  rwa [← length_splitOn, List.length_map, nsmul_eq_mul] at hsum

lemma splitOn_lower (h : sep.isAlpha = false) (s : Text) :
    (lower s).splitOn sep = (s.splitOn sep).map lower := by
  induction s with
  | nil => rfl
  | cons d s ih =>
    have hlower : lower (d :: s) = d.toLower :: lower s := rfl
    by_cases hd : d = sep
    · have hsame : d.toLower = sep := (toLower_eq_iff h).mpr hd
      rw [hlower, hsame, hd, splitOn_cons_self, splitOn_cons_self, List.map_cons, ih]
      rfl
    · obtain ⟨piece, pieces, hsplit, hcons⟩ := exists_splitOn_cons hd s
      obtain ⟨piece', pieces', hsplit', hcons'⟩ :=
        exists_splitOn_cons (mt (toLower_eq_iff h).mp hd) (lower s)
      rw [hsplit', hsplit, List.map_cons] at ih
      obtain ⟨rfl, rfl⟩ := List.cons.inj ih
      rw [hlower, hcons', hcons, List.map_cons]
      rfl

/-! ### `str.casefold` -/

structure Casefold where
  fold : Text → Text
  append : ∀ a b, fold (a ++ b) = fold a ++ fold b
  underscore : fold ['_'] = ['_']
  digit : ∀ c : Char, c.isDigit = true → fold [c] = [c]

namespace Casefold

variable (casefold : Casefold)

lemma fold_nil : casefold.fold [] = [] := by
  have h := casefold.append [] []
  simpa using h

lemma fold_cons (c : Char) (text : Text) :
    casefold.fold (c :: text) = casefold.fold [c] ++ casefold.fold text :=
  casefold.append [c] text

lemma fold_of_digits {text : Text} (h : ∀ c ∈ text, c.isDigit = true) :
    casefold.fold text = text := by
  induction text with
  | nil => exact casefold.fold_nil
  | cons c text ih =>
    rw [fold_cons, casefold.digit c (h c List.mem_cons_self),
      ih fun d hd => h d (List.mem_cons_of_mem c hd)]
    rfl

end Casefold

end Text
