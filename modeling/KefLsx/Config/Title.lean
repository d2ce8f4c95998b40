import KefLsx.Core.Search
import KefLsx.Core.Text

/-!
# Titles of config entries

`_unique_title` of the config flow: a title that another entry has, up to its case, gets the first
suffix `_2`, `_3`, … that is free.
-/

namespace KefLsx

open Text

/-- The `data` of a config entry: where its speaker is. -/
structure Endpoint where
  host : Text
  port : ℕ
deriving DecidableEq

structure ConfigEntry where
  entryId : Text
  title : Text
  data : Endpoint
deriving DecidableEq

namespace ConfigFlow

variable (casefold : Casefold) (entries : List ConfigEntry) (requested : Text)
  (current : Option ConfigEntry)

/-- The entries other than the one that is being reconfigured. -/
def others : List ConfigEntry :=
  entries.filter fun entry => current.all fun c => entry.entryId ≠ c.entryId

/-- `used`: the titles of the other entries, without their case. -/
def used : List Text := (others entries current).map fun entry => casefold.fold entry.title

/-- The f-string `{requested}_{suffix}`. -/
def suffixed (suffix : ℕ) : Text := requested ++ '_' :: Nat.toDigits 10 suffix

/-- `_unique_title`, with a bound on the checks of its loop. -/
def uniqueTitle (fuel : ℕ) : Option Text :=
  if casefold.fold requested ∉ used casefold entries current then some requested
  else (Search.firstFree (fun suffix => casefold.fold (suffixed requested suffix))
    (used casefold entries current) fuel 2).map (suffixed requested)

variable {casefold entries requested current}

lemma mem_used {folded : Text} : folded ∈ used casefold entries current ↔
    ∃ entry ∈ others entries current, casefold.fold entry.title = folded := List.mem_map

/-- The suffix survives the folding. -/
lemma fold_suffixed (suffix : ℕ) : casefold.fold (suffixed requested suffix) =
    casefold.fold requested ++ '_' :: Nat.toDigits 10 suffix := by
  have hdigits : ∀ c ∈ Nat.toDigits 10 suffix, c.isDigit = true :=
    fun c hc => Nat.isDigit_of_mem_toDigits (by decide) (by decide) hc
  rw [suffixed, casefold.append, casefold.fold_cons, casefold.underscore,
    casefold.fold_of_digits hdigits]
  rfl

lemma fold_suffixed_injective (casefold : Casefold) (requested : Text) :
    Function.Injective fun suffix => casefold.fold (suffixed requested suffix) := by
  intro i j h
  simp only [fold_suffixed] at h
  have hdigits := (List.cons.inj (List.append_cancel_left h)).2
  have hvalue := congrArg (fun digits => Nat.ofDigitChars 10 digits 0) hdigits
  simpa only [Nat.ofDigitChars_ten_toDigits] using hvalue

lemma suffixed_ne (suffix : ℕ) : suffixed requested suffix ≠ requested := by
  intro h
  have hlength := congrArg List.length h
  rw [suffixed, List.length_append, List.length_cons] at hlength
  omega

lemma not_mem_used {title : Text} : casefold.fold title ∉ used casefold entries current ↔
    ∀ entry ∈ others entries current, casefold.fold title ≠ casefold.fold entry.title := by
  rw [mem_used]
  constructor
  · intro h entry hentry heq
    exact h ⟨entry, hentry, heq.symm⟩
  · rintro h ⟨entry, hentry, heq⟩
    exact h entry hentry heq.symm

/-- The search finds a free title, if it is given a check for every other entry and one more. -/
lemma exists_uniqueTitle {fuel : ℕ} (h : (others entries current).length < fuel) :
    ∃ title, uniqueTitle casefold entries requested current fuel = some title ∧
      casefold.fold title ∉ used casefold entries current := by
  by_cases hrequested : casefold.fold requested ∉ used casefold entries current
  · exact ⟨requested, if_pos hrequested, hrequested⟩
  obtain ⟨suffix, -, hcount, hnew, -, hstops⟩ := Search.exists_firstFree
    (fold_suffixed_injective casefold requested) (used casefold entries current) 2
  rw [used, List.length_map] at hcount
  refine ⟨suffixed requested suffix, ?_, hnew⟩
  rw [uniqueTitle, if_neg hrequested, hstops fuel (hcount.trans_lt h)]
  rfl

/-- The search for a title stops after at most as many increments as there are other entries. Its
result differs from the titles of them all, whatever their case; it is the requested title exactly
if that one is free, and has the least suffix from 2 on that is free otherwise. -/
theorem uniqueTitle_minimal (casefold : Casefold) (entries : List ConfigEntry) (requested : Text)
    (current : Option ConfigEntry) : ∃ (increments : ℕ) (title : Text),
    increments ≤ (others entries current).length ∧
    (∀ fuel, increments < fuel →
      uniqueTitle casefold entries requested current fuel = some title) ∧
    (∀ entry ∈ others entries current, casefold.fold title ≠ casefold.fold entry.title) ∧
    (title = requested ↔
      ∀ entry ∈ others entries current, casefold.fold requested ≠ casefold.fold entry.title) ∧
    (title ≠ requested → title = suffixed requested (2 + increments) ∧
      ∀ suffix, 2 ≤ suffix → suffix < 2 + increments → ∃ entry ∈ others entries current,
        casefold.fold (suffixed requested suffix) = casefold.fold entry.title) := by
  by_cases hrequested : casefold.fold requested ∉ used casefold entries current
  · have hfree := not_mem_used.mp hrequested
    exact ⟨0, requested, Nat.zero_le _, fun fuel _ => if_pos hrequested, hfree,
      iff_of_true rfl hfree, fun h => absurd rfl h⟩
  obtain ⟨suffix, hle, hcount, hnew, htaken, hstops⟩ := Search.exists_firstFree
    (fold_suffixed_injective casefold requested) (used casefold entries current) 2
  refine ⟨suffix - 2, suffixed requested suffix, ?_, ?_, not_mem_used.mp hnew, ?_, ?_⟩
  · rwa [used, List.length_map] at hcount
  · intro fuel hfuel
    rw [uniqueTitle, if_neg hrequested, hstops fuel hfuel]
    rfl
  · exact iff_of_false (suffixed_ne suffix) fun h => hrequested (not_mem_used.mpr h)
  · intro _
    have hsuffix : 2 + (suffix - 2) = suffix := by omega
    rw [hsuffix]
    refine ⟨rfl, fun i hi his => ?_⟩
    obtain ⟨entry, hentry, heq⟩ := mem_used.mp (htaken i hi his)
    exact ⟨entry, hentry, heq.symm⟩

/-- The folding of ASCII letters, and of the sharp s to two letters. -/
def latinCasefold : Casefold where
  fold text := text.flatMap fun c => if c = 'ß' then ['s', 's'] else [c.toLower]
  append _ _ := List.flatMap_append
  underscore := by decide
  digit c hc := by
    have hsharp : c ≠ 'ß' := by
      rintro rfl
      exact absurd hc (by decide)
    have hupper : ¬ c.isUpper := by
      intro hletter
      simp only [Char.isDigit, Char.isUpper, Bool.and_eq_true, decide_eq_true_eq, ge_iff_le,
        UInt32.le_iff_toNat_le] at hc hletter
      have hcodes : '9'.val.toNat = 57 ∧ 'A'.val.toNat = 65 := ⟨rfl, rfl⟩
      omega
    rw [List.flatMap_singleton, if_neg hsharp, Char.toLower_eq_of_not_isUpper hupper]

/-- Two entries are called `Straße` and `strasse_2`: the third is called `STRASSE_3`. -/
theorem uniqueTitle_minimal_third : ∃ entries : List ConfigEntry,
    entries.map ConfigEntry.title = ["Straße".toList, "strasse_2".toList] ∧
    uniqueTitle latinCasefold entries "STRASSE".toList none 3 = some "STRASSE_3".toList ∧
    ∀ entry ∈ entries, latinCasefold.fold "STRASSE_3".toList ≠
      latinCasefold.fold entry.title := by
  let entry (entryId title : String) : ConfigEntry :=
    { entryId := entryId.toList, title := title.toList, data := { host := [], port := 50001 } }
  obtain ⟨increments, title, hcount, hstops, hnew, -⟩ := uniqueTitle_minimal latinCasefold
    [entry "1" "Straße", entry "2" "strasse_2"] "STRASSE".toList none
  have hfound := hstops 3 (Nat.lt_succ_of_le hcount)
  have htitle : uniqueTitle latinCasefold [entry "1" "Straße", entry "2" "strasse_2"]
      "STRASSE".toList none 3 = some "STRASSE_3".toList := by
    decide +kernel
  obtain rfl : title = "STRASSE_3".toList := Option.some.inj (hfound.symm.trans htitle)
  exact ⟨_, rfl, htitle, hnew⟩

end ConfigFlow

end KefLsx
