import KefLsx.Core.Text

/-!
# Host normalization

`_normalize_host` of the config flow. An IP literal becomes its compressed form, and anything else a
host name in lower case. Two things of the standard library are left open: the address part of an
IPv6 literal, whose compressed form is only assumed to parse back to itself, and the idna codec on
text that is not ASCII.

The result is canonical: normalizing it again changes nothing, but where the text between the
brackets is an IPv6 literal whose zone ends in whitespace. The whitespace is stripped before the
brackets are removed, so that the result still ends in it and the second time loses it.
-/

namespace KefLsx

open Text

/-- What is used of the standard library: the compressed form of an IPv6 address without a zone,
and the idna codec on text that is not ASCII. -/
structure Stdlib where
  ipv6 : Text → Option Text
  idna : Text → Option Text

/-- The compressed form of an IPv6 address is an address in the compressed form, and an address
consists of hexadecimal digits, colons and dots, with a colon among them. -/
structure Stdlib.Lawful (lib : Stdlib) : Prop where
  compressed : ∀ a c, lib.ipv6 a = some c → lib.ipv6 c = some c
  colon : ∀ a c, lib.ipv6 a = some c → ':' ∈ a
  alphabet : ∀ a c, lib.ipv6 a = some c → ∀ x ∈ a, x.isHexDigit = true ∨ x = ':' ∨ x = '.'

lemma Stdlib.Lawful.not_mem {lib : Stdlib} (hlib : lib.Lawful) {a c : Text}
    (h : lib.ipv6 a = some c) {x : Char} (hhex : x.isHexDigit = false) (hcolon : x ≠ ':')
    (hdot : x ≠ '.') : x ∉ a := by
  intro hx
  rcases hlib.alphabet a c h x hx with hdigit | heq | heq
  · rw [hhex] at hdigit
    cases hdigit
  · exact hcolon heq
  · exact hdot heq

lemma Stdlib.Lawful.isSpace {lib : Stdlib} (hlib : lib.Lawful) {a c : Text}
    (h : lib.ipv6 a = some c) {x : Char} (hx : x ∈ a) : isSpace x = false := by
  rcases hlib.alphabet a c h x hx with hhex | rfl | rfl
  · exact isSpace_of_isHexDigit hhex
  · decide
  · decide

namespace Host

/-! ### IP addresses -/

/-- `_parse_octet` accepts the text. -/
def isOctet (octet : Text) : Bool :=
  octet ≠ [] && octet.all Char.isDigit && octet.length ≤ 3 &&
    (octet = ['0'] || octet.head? ≠ some '0') && Nat.ofDigitChars 10 octet 0 ≤ 255

/-- `IPv4Address(s).compressed`: the text is the one of its octets. -/
def ipv4 (s : Text) : Option Text :=
  if (s.splitOn '.').length = 4 ∧ (s.splitOn '.').all isOctet then some s else none

variable (lib : Stdlib)

/-- `IPv6Address(s).compressed`: the zone is kept as it is. -/
def ipv6 (s : Text) : Option Text :=
  if '/' ∈ s then none
  else
    match s.dropWhile (· ≠ '%') with
    | [] => lib.ipv6 s
    | _ :: zone =>
      if zone = [] ∨ '%' ∈ zone then none
      else (lib.ipv6 (s.takeWhile (· ≠ '%'))).map fun compressed => compressed ++ '%' :: zone

/-- `ipaddress.ip_address(s).compressed`. -/
def ipAddress (s : Text) : Option Text := (ipv4 s).or (ipv6 lib s)

/-! ### Host names -/

def isAscii (c : Char) : Bool := c.toNat < 128

/-- `s.encode("idna").decode("ascii")`. ASCII text is only looked at for the lengths of its
labels. -/
def idna (s : Text) : Option Text :=
  if s.all isAscii then
    if (s.splitOn '.').dropLast.all (fun label => 0 < label.length && label.length < 64) ∧
        (s.splitOn '.').getLast?.all (fun label => label.length < 64) then some s
    else none
  else lib.idna s

/-- A character of `_HOST_LABEL`. -/
def isLabelChar (c : Char) : Bool := c.isLower || c.isDigit || c = '-'

/-- `_HOST_LABEL` matches the text. -/
def isLabel (label : Text) : Bool :=
  label.all isLabelChar && 1 ≤ label.length && label.length ≤ 63 &&
    label.head? ≠ some '-' && label.getLast? ≠ some '-'

/-- `host.rstrip(".")`. -/
def rstripDots (s : Text) : Text := s.rdropWhile (· = '.')

/-! ### `_normalize_host` -/

/-- The text begins with `[` and ends with `]`. -/
def Bracketed (s : Text) : Prop := s.head? = some '[' ∧ s.getLast? = some ']'

instance (s : Text) : Decidable (Bracketed s) := inferInstanceAs (Decidable (_ ∧ _))

/-- `host[1:-1]`, if the text is bracketed. -/
def unbracket (s : Text) : Text := if Bracketed s then s.tail.dropLast else s

/-- The part of `_normalize_host` for what is no IP address. -/
def normalizeName (host : Text) : Option Text :=
  (idna lib (rstripDots host)).bind fun encoded =>
    let host := lower encoded
    if 253 < host.length ∨ host = [] then none
    else if (host.splitOn '.').all isLabel then some host
    else none

/-- `_normalize_host`, with no result for `InvalidHost`. -/
def normalizeHost (value : Text) : Option Text :=
  let host := unbracket (strip value)
  (ipAddress lib host).or (normalizeName lib host)

/-! ### What is accepted -/

variable {lib : Stdlib} {s n : Text}

/-- A dot-separated sequence of labels, of at most 253 characters. -/
structure IsHostName (n : Text) : Prop where
  length : n.length ≤ 253
  labels : ∀ label ∈ n.splitOn '.', isLabel label = true

lemma IsHostName.ne_nil (h : IsHostName n) : n ≠ [] := by
  rintro rfl
  exact absurd (h.labels [] (by simp)) (by decide)

lemma isLabelChar_of_mem {label : Text} (h : isLabel label = true) {c : Char} (hc : c ∈ label) :
    isLabelChar c = true := by
  simp only [isLabel, Bool.and_eq_true, List.all_eq_true] at h
  exact h.1.1.1.1 c hc

lemma IsHostName.char (h : IsHostName n) {c : Char} (hc : c ∈ n) :
    isLabelChar c = true ∨ c = '.' := by
  rcases mem_splitOn hc with hdot | ⟨label, hlabel, hmem⟩
  · exact .inr hdot
  · exact .inl (isLabelChar_of_mem (h.labels label hlabel) hmem)

/-- What `_normalize_host` makes of something that is no IP address. -/
lemma normalizeName_eq_some_iff {host : Text} : normalizeName lib host = some n ↔
    ∃ encoded, idna lib (rstripDots host) = some encoded ∧ lower encoded = n ∧ IsHostName n := by
  simp only [normalizeName, Option.bind_eq_some_iff]
  refine exists_congr fun encoded => and_congr_right fun _ => ?_
  constructor
  · intro h
    split at h
    · cases h
    · rename_i hlength
      split at h
      · rename_i hlabels
        cases h
        obtain ⟨hlength, -⟩ := not_or.mp hlength
        exact ⟨rfl, not_lt.mp hlength, List.all_eq_true.mp hlabels⟩
      · cases h
  · rintro ⟨rfl, hname⟩
    have hlength : ¬ (253 < (lower encoded).length ∨ lower encoded = []) :=
      not_or.mpr ⟨not_lt.mpr hname.length, hname.ne_nil⟩
    rw [if_neg hlength, if_pos (List.all_eq_true.mpr hname.labels)]

/-! ### Host names and what becomes one -/

lemma isSpace_of_isLabelChar {c : Char} (h : isLabelChar c = true) : isSpace c = false := by
  simp only [isLabelChar, Bool.or_eq_true, decide_eq_true_eq] at h
  rcases h with (h | h) | rfl
  · exact isSpace_of_isAlpha (by simp [Char.isAlpha, h])
  · exact isSpace_of_isHexDigit (by simp [Char.isHexDigit, h])
  · decide

lemma isAscii_of_isLabelChar {c : Char} (h : isLabelChar c = true) : isAscii c = true := by
  have hcodes : 'a'.val.toNat = 97 ∧ 'z'.val.toNat = 122 ∧ '0'.val.toNat = 48 ∧
      '9'.val.toNat = 57 := ⟨rfl, rfl, rfl, rfl⟩
  simp only [isLabelChar, Char.isLower, Char.isDigit, Bool.or_eq_true, Bool.and_eq_true,
    decide_eq_true_eq, ge_iff_le, UInt32.le_iff_toNat_le] at h
  rw [isAscii, decide_eq_true_eq]
  show c.val.toNat < 128
  rcases h with (h | h) | rfl
  · omega
  · omega
  · decide

lemma isAscii_of_isAlpha {c : Char} (h : c.isAlpha = true) : isAscii c = true := by
  have hcodes : 'Z'.val.toNat = 90 ∧ 'z'.val.toNat = 122 := ⟨rfl, rfl⟩
  simp only [Char.isAlpha, Char.isUpper, Char.isLower, Bool.or_eq_true, Bool.and_eq_true,
    decide_eq_true_eq, ge_iff_le, UInt32.le_iff_toNat_le] at h
  rw [isAscii, decide_eq_true_eq]
  show c.val.toNat < 128
  omega

lemma isAscii_toLower (c : Char) : isAscii c.toLower = isAscii c := by
  cases hc : c.isAlpha with
  | false => rw [toLower_of_not_isAlpha hc]
  | true =>
    have hlower : c.toLower.isAlpha = true := by rw [Char.isAlpha_toLower_eq_isAlpha, hc]
    rw [isAscii_of_isAlpha hc, isAscii_of_isAlpha hlower]

lemma toLower_of_isLabelChar {c : Char} (h : isLabelChar c = true) : c.toLower = c := by
  apply Char.toLower_eq_of_not_isUpper
  have hcodes : 'a'.val.toNat = 97 ∧ 'A'.val.toNat = 65 ∧ 'Z'.val.toNat = 90 ∧
      '0'.val.toNat = 48 ∧ '9'.val.toNat = 57 := ⟨rfl, rfl, rfl, rfl, rfl⟩
  intro hupper
  simp only [isLabelChar, Char.isLower, Char.isDigit, Char.isUpper, Bool.or_eq_true,
    Bool.and_eq_true, decide_eq_true_eq, ge_iff_le, UInt32.le_iff_toNat_le] at h hupper
  rcases h with (h | h) | rfl
  · omega
  · omega
  · exact absurd hupper (by decide)

/-- A host name does not end with a dot. -/
lemma IsHostName.rstripDots (h : IsHostName n) : rstripDots n = n := by
  apply rdropWhile_eq_self_of_last
  intro c hc
  rw [decide_eq_false_iff_not]
  rintro rfl
  obtain ⟨before, rfl⟩ := List.getLast?_eq_some_iff.mp hc
  exact absurd (h.labels [] nil_mem_splitOn) (by decide)

lemma IsHostName.lower (h : IsHostName n) : lower n = n := by
  apply lower_eq_self
  intro c hc
  rcases h.char hc with hlabel | rfl
  · exact toLower_of_isLabelChar hlabel
  · decide

lemma rstripDots_lower (s : Text) : rstripDots (lower s) = lower (rstripDots s) := by
  have hdot : (fun c : Char => decide (c.toLower = '.')) = fun c => decide (c = '.') :=
    funext fun c => decide_eq_decide.mpr (toLower_eq_iff (by decide))
  simp only [Host.rstripDots, Text.lower, List.rdropWhile, ← List.map_reverse, List.dropWhile_map,
    Function.comp_def, hdot]

lemma rstripDots_append {dots : Text} (h : ∀ c ∈ dots, c = '.') :
    rstripDots (s ++ dots) = rstripDots s :=
  rdropWhile_append_of_forall fun c hc => by simp [h c hc]

/-- A character of the text is a dot or one of those left without the dots at the end. -/
lemma mem_rstripDots {c : Char} (h : c ∈ s) : c = '.' ∨ c ∈ rstripDots s := by
  rw [← List.rdropWhile_append_rtakeWhile (p := fun c => decide (c = '.')) (l := s),
    List.mem_append] at h
  rcases h with hkept | hdot
  · exact .inr hkept
  · exact .inl (by simpa using List.mem_rtakeWhile_imp hdot)

/-- The text is the host name, up to the case and dots at the end. -/
def Spells (s n : Text) : Prop := IsHostName n ∧ lower (rstripDots s) = n

lemma IsHostName.spells (h : IsHostName n) : Spells n n := ⟨h, by rw [h.rstripDots, h.lower]⟩

lemma Spells.char (h : Spells s n) {c : Char} (hc : c ∈ s) :
    isLabelChar c.toLower = true ∨ c = '.' := by
  rcases mem_rstripDots hc with hdot | hmem
  · exact .inr hdot
  have hlower : c.toLower ∈ n := h.2 ▸ List.mem_map_of_mem hmem
  rcases h.1.char hlower with hlabel | hdot
  · exact .inl hlabel
  · exact .inr ((toLower_eq_iff (by decide)).mp hdot)

/-- What is not in a host name is not in what spells one, if it is no letter. -/
lemma Spells.not_mem (h : Spells s n) {d : Char} (halpha : d.isAlpha = false) (hdot : d ≠ '.')
    (hlabel : isLabelChar d = false) : d ∉ s := by
  intro hd
  rcases h.char hd with hc | hc
  · rw [(toLower_eq_iff halpha).mpr rfl, hlabel] at hc
    cases hc
  · exact hdot hc

lemma Spells.ne_nil (h : Spells s n) : s ≠ [] := by
  rintro rfl
  exact h.1.ne_nil h.2.symm

lemma Spells.isSpace (h : Spells s n) {c : Char} (hc : c ∈ s) : isSpace c = false := by
  rcases h.char hc with hlabel | rfl
  · rw [← isSpace_toLower]
    exact isSpace_of_isLabelChar hlabel
  · decide

lemma Spells.trimmed (h : Spells s n) : Trimmed s where
  head _ hc := h.isSpace (List.mem_of_mem_head? hc)
  last _ hc := h.isSpace (List.mem_of_getLast? hc)

lemma Spells.unbracket (h : Spells s n) : unbracket s = s := by
  refine if_neg fun hbracketed => ?_
  exact h.not_mem (d := '[') (by decide) (by decide) (by decide)
    (List.mem_of_mem_head? hbracketed.1)

/-- A label has at most 63 characters and at least one, so that the codec takes it. -/
lemma Spells.idna (h : Spells s n) : idna lib (Host.rstripDots s) = some (Host.rstripDots s) := by
  have hascii : (Host.rstripDots s).all isAscii = true := by
    rw [List.all_eq_true]
    intro c hc
    have hlower : c.toLower ∈ n := h.2 ▸ List.mem_map_of_mem hc
    rw [← isAscii_toLower]
    rcases h.1.char hlower with hlabel | hdot
    · exact isAscii_of_isLabelChar hlabel
    · rw [hdot]
      decide
  have hlength : ∀ label ∈ (Host.rstripDots s).splitOn '.',
      0 < label.length ∧ label.length < 64 := by
    intro label hlabel
    have hlower := h.1.labels (lower label)
    rw [← h.2, splitOn_lower (by decide)] at hlower
    have hmatch := hlower (List.mem_map_of_mem hlabel)
    simp only [isLabel, Bool.and_eq_true, decide_eq_true_eq] at hmatch
    have hsame : (lower label).length = label.length := List.length_map ..
    omega
  rw [Host.idna, if_pos hascii, if_pos]
  constructor
  · rw [List.all_eq_true]
    intro label hlabel
    simpa using hlength label (List.dropLast_subset _ hlabel)
  · rw [Option.all_eq_true]
    intro label hlabel
    simpa using (hlength label (List.mem_of_getLast? hlabel)).2

/-! ### IP addresses and what spells a host name -/

lemma isLabelChar_of_isDigit {c : Char} (h : c.isDigit = true) : isLabelChar c = true := by
  simp [isLabelChar, h]

lemma isLabel_of_isOctet {octet : Text} (h : isOctet octet = true) : isLabel octet = true := by
  simp only [isOctet, Bool.and_eq_true, decide_eq_true_eq, List.all_eq_true] at h
  obtain ⟨⟨⟨⟨hne, hdigits⟩, hlength⟩, -⟩, -⟩ := h
  have hpos : 1 ≤ octet.length := List.length_pos_of_ne_nil hne
  have hdash : '-' ∉ octet := fun hmem => absurd (hdigits '-' hmem) (by decide)
  simp only [isLabel, Bool.and_eq_true, decide_eq_true_eq, List.all_eq_true]
  refine ⟨⟨⟨⟨fun c hc => isLabelChar_of_isDigit (hdigits c hc), hpos⟩, ?_⟩, ?_⟩, ?_⟩
  · exact hlength.trans (by decide)
  · exact fun hhead => hdash (List.mem_of_mem_head? hhead)
  · exact fun hlast => hdash (List.mem_of_getLast? hlast)

/-- An IPv4 address is in its compressed form, and a host name. -/
lemma eq_of_ipv4 (h : ipv4 s = some n) : s = n ∧ IsHostName n := by
  unfold ipv4 at h
  split at h
  · rename_i hoctets
    cases h
    obtain ⟨hfour, hall⟩ := hoctets
    rw [List.all_eq_true] at hall
    refine ⟨rfl, ?_, fun label hlabel => isLabel_of_isOctet (hall label hlabel)⟩
    have hsize : ∀ octet ∈ s.splitOn '.', octet.length ≤ 3 := by
      intro octet hoctet
      have hmatch := hall octet hoctet
      simp only [isOctet, Bool.and_eq_true, decide_eq_true_eq] at hmatch
      exact hmatch.1.1.2
    have hlength := length_le_of_splitOn hsize
    rw [hfour] at hlength
    omega
  · cases h

/-- An IPv6 address has a colon. -/
lemma ipv6_eq_none (hlib : lib.Lawful) (h : ':' ∉ s) : ipv6 lib s = none := by
  have hnone : ∀ a, ':' ∉ a → lib.ipv6 a = none := by
    intro a ha
    cases hparse : lib.ipv6 a with
    | none => rfl
    | some c => exact absurd (hlib.colon a c hparse) ha
  rw [ipv6]
  split
  · rfl
  · split
    · exact hnone s h
    · split
      · rfl
      · rw [hnone _ fun hmem => h ((List.takeWhile_prefix _).subset hmem)]
        rfl

/-- Whatever spells a host name is normalized to it. -/
lemma Spells.normalize (hlib : lib.Lawful) (h : Spells s n) :
    (ipAddress lib s).or (normalizeName lib s) = some n := by
  have hv6 : ipv6 lib s = none :=
    ipv6_eq_none hlib (h.not_mem (by decide) (by decide) (by decide))
  rw [ipAddress, hv6, Option.or_none]
  cases hv4 : ipv4 s with
  | some m =>
    obtain ⟨rfl, hname⟩ := eq_of_ipv4 hv4
    rw [← h.2, hname.rstripDots, hname.lower]
    rfl
  | none => exact normalizeName_eq_some_iff.mpr ⟨_, h.idna, h.2, h.1⟩

variable {before after : Text}

lemma Spells.normalizeHost (hlib : lib.Lawful) (h : Spells s n)
    (hbefore : ∀ c ∈ before, Text.isSpace c = true) (hafter : ∀ c ∈ after, Text.isSpace c = true) :
    normalizeHost lib (before ++ s ++ after) = some n := by
  rw [Host.normalizeHost, strip_surrounded h.trimmed h.ne_nil hbefore hafter, h.unbracket]
  exact h.normalize hlib

/-- The text in brackets. -/
def inBrackets (s : Text) : Text := '[' :: (s ++ [']'])

lemma getLast?_inBrackets : (inBrackets s).getLast? = some ']' :=
  List.getLast?_eq_some_iff.mpr ⟨'[' :: s, rfl⟩

lemma unbracket_inBrackets : unbracket (inBrackets s) = s := by
  have hbracketed : Bracketed (inBrackets s) := ⟨rfl, getLast?_inBrackets⟩
  rw [unbracket, if_pos hbracketed]
  exact List.dropLast_concat

lemma trimmed_inBrackets : Trimmed (inBrackets s) where
  head c hc := by
    obtain rfl : '[' = c := Option.some.inj hc
    decide
  last c hc := by
    rw [getLast?_inBrackets] at hc
    obtain rfl : ']' = c := Option.some.inj hc
    decide

lemma Spells.normalizeHost_inBrackets (hlib : lib.Lawful) (h : Spells s n)
    (hbefore : ∀ c ∈ before, Text.isSpace c = true) (hafter : ∀ c ∈ after, Text.isSpace c = true) :
    Host.normalizeHost lib (before ++ inBrackets s ++ after) = some n := by
  rw [Host.normalizeHost, strip_surrounded trimmed_inBrackets (List.cons_ne_nil _ _) hbefore hafter,
    unbracket_inBrackets]
  exact h.normalize hlib

/-! ### IPv6 addresses and their zones -/

lemma dropWhile_percent : s.dropWhile (· ≠ '%') = [] ↔ '%' ∉ s := by
  rw [List.dropWhile_eq_nil_iff]
  constructor
  · exact fun h hmem => absurd (h '%' hmem) (by decide)
  · exact fun h c hc => decide_eq_true fun heq => h (heq ▸ hc)

/-- What follows the characters before the first percent sign begins with it. -/
lemma eq_percent_of_dropWhile {d : Char} {zone : Text} (h : s.dropWhile (· ≠ '%') = d :: zone) :
    s = s.takeWhile (· ≠ '%') ++ '%' :: zone := by
  have hhead := List.head?_dropWhile_not (· ≠ '%') s
  rw [h] at hhead
  obtain rfl : d = '%' := by simpa using hhead
  rw [← h, List.takeWhile_append_dropWhile]

/-- An IPv6 address either has no zone, or its zone is kept. -/
lemma ipv6_eq_some_iff (hlib : lib.Lawful) : ipv6 lib s = some n ↔ lib.ipv6 s = some n ∨
    ∃ a c zone, s = a ++ '%' :: zone ∧ lib.ipv6 a = some c ∧ n = c ++ '%' :: zone ∧ zone ≠ [] ∧
      '%' ∉ zone ∧ '/' ∉ zone := by
  constructor
  · intro h
    unfold ipv6 at h
    split at h
    · cases h
    rename_i hslash
    split at h
    · exact .inl h
    rename_i hdrop
    split at h
    · cases h
    rename_i zone hzone
    obtain ⟨hne, hpercent⟩ := not_or.mp hzone
    obtain ⟨c, hparse, rfl⟩ := Option.map_eq_some_iff.mp h
    have hsplit := eq_percent_of_dropWhile hdrop
    refine .inr ⟨_, c, zone, hsplit, hparse, rfl, hne, hpercent, fun hmem => hslash ?_⟩
    rw [hsplit]
    exact List.mem_append_right _ (List.mem_cons_of_mem _ hmem)
  · rintro (h | ⟨a, c, zone, rfl, hparse, rfl, hne, hpercent, hslash⟩)
    · have hslash : '/' ∉ s := hlib.not_mem h (by decide) (by decide) (by decide)
      have hpercent : '%' ∉ s := hlib.not_mem h (by decide) (by decide) (by decide)
      rw [ipv6, if_neg hslash, dropWhile_percent.mpr hpercent]
      exact h
    · have ha : '%' ∉ a := hlib.not_mem hparse (by decide) (by decide) (by decide)
      have hslash' : '/' ∉ a := hlib.not_mem hparse (by decide) (by decide) (by decide)
      have hpos : ∀ x ∈ a, decide (x ≠ '%') = true :=
        fun x hx => decide_eq_true fun heq => ha (heq ▸ hx)
      have hdrop : (a ++ '%' :: zone).dropWhile (· ≠ '%') = '%' :: zone := by
        rw [List.dropWhile_append_of_pos hpos]
        exact List.dropWhile_cons_of_neg (by decide)
      have htake : (a ++ '%' :: zone).takeWhile (· ≠ '%') = a := by
        rw [List.takeWhile_append_of_pos hpos, List.takeWhile_cons_of_neg (by decide),
          List.append_nil]
      have hnone : ¬ '/' ∈ a ++ '%' :: zone := by simp [hslash', hslash]
      rw [ipv6, if_neg hnone, hdrop, htake, hparse]
      exact if_neg (not_or.mpr ⟨hne, hpercent⟩)

/-- The text is an IPv6 address that ends in whitespace. -/
def SpacedZone (lib : Stdlib) (s : Text) : Prop := (ipv6 lib s).isSome ∧ EndsInSpace s

/-- The compressed form of an IPv6 address is its own, and ends in whitespace if the address
does. -/
lemma ipv6_compressed (hlib : lib.Lawful) (h : ipv6 lib s = some n) :
    ipv6 lib n = some n ∧ (EndsInSpace s ↔ EndsInSpace n) := by
  rcases (ipv6_eq_some_iff hlib).mp h with hplain | ⟨a, c, zone, rfl, hparse, rfl, hne, hzone⟩
  · have hagain := hlib.compressed s n hplain
    refine ⟨(ipv6_eq_some_iff hlib).mpr (.inl hagain), iff_of_false ?_ ?_⟩
    · exact not_endsInSpace fun x => hlib.isSpace hplain
    · exact not_endsInSpace fun x => hlib.isSpace hagain
  · have hagain := hlib.compressed a c hparse
    refine ⟨(ipv6_eq_some_iff hlib).mpr (.inr ⟨c, c, zone, rfl, hagain, rfl, hne, hzone⟩), ?_⟩
    rw [endsInSpace_append (List.cons_ne_nil _ _), endsInSpace_append (List.cons_ne_nil _ _)]

/-- The first character of an IPv6 address is no whitespace and no bracket. -/
lemma head_of_ipv6 (hlib : lib.Lawful) (h : ipv6 lib s = some n) :
    ∀ c ∈ s.head?, isSpace c = false ∧ c ≠ '[' := by
  have haddress : ∀ {a c : Text}, lib.ipv6 a = some c → ∀ x ∈ a, isSpace x = false ∧ x ≠ '[' := by
    intro a c hparse x hx
    refine ⟨hlib.isSpace hparse hx, ?_⟩
    rintro rfl
    exact hlib.not_mem hparse (by decide) (by decide) (by decide) hx
  rcases (ipv6_eq_some_iff hlib).mp h with hplain | ⟨a, c, zone, rfl, hparse, -⟩
  · exact fun x hx => haddress hplain x (List.mem_of_mem_head? hx)
  · have hne : a ≠ [] := List.ne_nil_of_mem (hlib.colon a c hparse)
    rw [List.head?_append_of_ne_nil _ hne]
    exact fun x hx => haddress hparse x (List.mem_of_mem_head? hx)

/-- An IPv6 address is no IPv4 address. -/
lemma ipv4_of_ipv6 (hlib : lib.Lawful) (h : ipv6 lib s = some n) : ipv4 s = none := by
  cases hv4 : ipv4 s with
  | none => rfl
  | some m =>
    obtain ⟨rfl, hname⟩ := eq_of_ipv4 hv4
    rw [ipv6_eq_none hlib (hname.spells.not_mem (by decide) (by decide) (by decide))] at h
    cases h

/-! ### The result is canonical -/

/-- A compressed IPv6 address is normalized to itself exactly if it does not end in whitespace. -/
lemma normalizeHost_of_compressed (hlib : lib.Lawful) (h : ipv6 lib n = some n) :
    normalizeHost lib n = some n ↔ ¬ EndsInSpace n := by
  have hhead := head_of_ipv6 hlib h
  constructor
  · intro hsame hspace
    -- Stripping takes the whitespace away and leaves no bracket in front.
    have hbare : unbracket (strip n) = strip n := by
      refine if_neg fun hbracketed => ?_
      rw [strip_of_head fun c hc => (hhead c hc).1] at hbracketed
      obtain ⟨rest, hrest⟩ := List.rdropWhile_prefix isSpace n
      have hne : n.rdropWhile isSpace ≠ [] :=
        List.ne_nil_of_mem (List.mem_of_mem_head? hbracketed.1)
      rw [← hrest, List.head?_append_of_ne_nil _ hne] at hhead
      exact (hhead '[' hbracketed.1).2 rfl
    have hname : ¬ IsHostName n := by
      intro hname
      rw [ipv6_eq_none hlib (hname.spells.not_mem (by decide) (by decide) (by decide))] at h
      cases h
    rw [normalizeHost, hbare, Option.or_eq_some_iff, ipAddress, Option.or_eq_some_iff] at hsame
    rcases hsame with (hv4 | ⟨-, hv6⟩) | ⟨-, hother⟩
    · exact hname (eq_of_ipv4 hv4).2
    · exact not_endsInSpace_strip n ((ipv6_compressed hlib hv6).2.mpr hspace)
    · obtain ⟨-, -, -, hhost⟩ := normalizeName_eq_some_iff.mp hother
      exact hname hhost
  · intro hspace
    have htrimmed : Trimmed n := by
      refine ⟨fun c hc => (hhead c hc).1, fun c hc => ?_⟩
      exact Bool.eq_false_iff.mpr fun htrue => hspace ⟨c, hc, htrue⟩
    have hbare : unbracket n = n := if_neg fun hbracketed => (hhead '[' hbracketed.1).2 rfl
    rw [normalizeHost, strip_eq_self htrimmed, hbare, ipAddress, ipv4_of_ipv6 hlib h, h]
    rfl

/-- The same host in other words: with letters of another case and dots at the end, bare or in
brackets, and with whitespace around. -/
inductive Variant (s : Text) : Text → Prop where
  | bare {s' dots before after : Text} : lower s' = lower s → (∀ c ∈ dots, c = '.') →
      (∀ c ∈ before, isSpace c = true) → (∀ c ∈ after, isSpace c = true) →
      Variant s (before ++ (s' ++ dots) ++ after)
  | bracketed {s' dots before after : Text} : lower s' = lower s → (∀ c ∈ dots, c = '.') →
      (∀ c ∈ before, isSpace c = true) → (∀ c ∈ after, isSpace c = true) →
      Variant s (before ++ inBrackets (s' ++ dots) ++ after)

/-- The text `s` is normalized to `n` as to a canonical form. -/
structure Canonical (lib : Stdlib) (s n : Text) : Prop where
  idempotent : normalizeHost lib n = some n
  wellFormed : (∃ address, ipAddress lib address = some n) ∨ IsHostName n
  variants : s.all isAscii = true → ipv6 lib s = none → Trimmed s → ¬ Bracketed s →
    ∀ v, Variant s v → normalizeHost lib v = some n

/-- Text that is accepted and is no IPv6 address spells a host name. -/
lemma spells_of_ascii (hascii : s.all isAscii = true) (hv6 : ipv6 lib s = none) (htrim : Trimmed s)
    (hbare : ¬ Bracketed s) (h : normalizeHost lib s = some n) : Spells s n := by
  rw [normalizeHost, strip_eq_self htrim, unbracket, if_neg hbare, ipAddress, hv6, Option.or_none,
    Option.or_eq_some_iff] at h
  rcases h with hv4 | ⟨-, hother⟩
  · obtain ⟨rfl, hname⟩ := eq_of_ipv4 hv4
    exact hname.spells
  · obtain ⟨encoded, hidna, hlower, hname⟩ := normalizeName_eq_some_iff.mp hother
    have hkept : (rstripDots s).all isAscii = true := by
      rw [List.all_eq_true] at hascii ⊢
      exact fun c hc => hascii c ((List.rdropWhile_prefix _ _).subset hc)
    rw [idna, if_pos hkept] at hidna
    split at hidna
    · cases hidna
      exact ⟨hname, hlower⟩
    · cases hidna

lemma Spells.variant {s' dots : Text} (h : Spells s n) (hcase : lower s' = lower s)
    (hdots : ∀ c ∈ dots, c = '.') : Spells (s' ++ dots) n := by
  refine ⟨h.1, ?_⟩
  calc lower (Host.rstripDots (s' ++ dots)) = lower (Host.rstripDots s') := by
        rw [rstripDots_append hdots]
    _ = Host.rstripDots (lower s') := (rstripDots_lower s').symm
    _ = lower (Host.rstripDots s) := by rw [hcase, rstripDots_lower]
    _ = n := h.2

/-- A host name is its own normal form, and that of all its variants. -/
lemma canonical_of_isHostName (hlib : lib.Lawful) (hname : IsHostName n)
    (h : normalizeHost lib s = some n) : Canonical lib s n where
  idempotent := by
    have hsame : normalizeHost lib ([] ++ n ++ []) = some n :=
      hname.spells.normalizeHost hlib (by simp) (by simp)
    rwa [List.nil_append, List.append_nil] at hsame
  wellFormed := .inr hname
  variants := by
    intro hascii hv6 htrim hbare v hv
    have hspells := spells_of_ascii hascii hv6 htrim hbare h
    cases hv with
    | bare hcase hdots hbefore hafter =>
      exact (hspells.variant hcase hdots).normalizeHost hlib hbefore hafter
    | bracketed hcase hdots hbefore hafter =>
      exact (hspells.variant hcase hdots).normalizeHost_inBrackets hlib hbefore hafter

/-- The normal form of a text is canonical exactly if what the text has between its brackets is no
IPv6 address with whitespace at the end of its zone. -/
theorem normalizeHost_canonical (hlib : lib.Lawful) (h : normalizeHost lib s = some n) :
    Canonical lib s n ↔ ¬ SpacedZone lib (unbracket (strip s)) := by
  have hhost := h
  rw [normalizeHost] at hhost
  cases hv6 : ipv6 lib (unbracket (strip s)) with
  | some m =>
    rw [ipAddress, ipv4_of_ipv6 hlib hv6, hv6] at hhost
    obtain rfl : m = n := Option.some.inj hhost
    obtain ⟨hagain, hends⟩ := ipv6_compressed hlib hv6
    rw [SpacedZone, hv6, hends]
    constructor
    · intro hcanonical hspaced
      exact (normalizeHost_of_compressed hlib hagain).mp hcanonical.idempotent hspaced.2
    · intro hspaced
      have hspace : ¬ EndsInSpace m := fun hends => hspaced ⟨rfl, hends⟩
      refine ⟨(normalizeHost_of_compressed hlib hagain).mpr hspace, .inl ⟨m, ?_⟩, ?_⟩
      · rw [ipAddress, hagain, ipv4_of_ipv6 hlib hagain]
        rfl
      · intro _ hnone htrim hbare
        rw [strip_eq_self htrim, unbracket, if_neg hbare, hnone] at hv6
        cases hv6
  | none =>
    have hspaced : ¬ SpacedZone lib (unbracket (strip s)) := by
      rintro ⟨hsome, -⟩
      rw [hv6] at hsome
      cases hsome
    refine iff_of_true (canonical_of_isHostName hlib ?_ h) hspaced
    rw [ipAddress, hv6, Option.or_none, Option.or_eq_some_iff] at hhost
    rcases hhost with hv4 | ⟨-, hother⟩
    · exact (eq_of_ipv4 hv4).2
    · obtain ⟨-, -, -, hname⟩ := normalizeName_eq_some_iff.mp hother
      exact hname

/-- A library that knows of one address only. -/
def linkLocal : Stdlib where
  ipv6 a := if a = "fe80::1".toList then some a else none
  idna _ := none

lemma linkLocal_lawful : linkLocal.Lawful := by
  have honly : ∀ a c, linkLocal.ipv6 a = some c → a = "fe80::1".toList ∧ c = a := by
    intro a c h
    simp only [linkLocal] at h
    split at h
    · rename_i ha
      exact ⟨ha, (Option.some.inj h).symm⟩
    · cases h
  constructor
  · intro a c h
    obtain ⟨rfl, rfl⟩ := honly a c h
    exact h
  · intro a c h
    obtain ⟨rfl, -⟩ := honly a c h
    decide
  · intro a c h x hx
    obtain ⟨rfl, -⟩ := honly a c h
    replace hx : x ∈ ['f', 'e', '8', '0', ':', ':', '1'] := hx
    simp only [List.mem_cons, List.not_mem_nil, or_false] at hx
    rcases hx with rfl | rfl | rfl | rfl | rfl | rfl | rfl <;> decide

theorem normalizeHost_canonical_zone :
    Canonical linkLocal " [fe80::1%eth0] ".toList "fe80::1%eth0".toList := by
  refine (normalizeHost_canonical linkLocal_lawful (by decide)).mpr ?_
  rintro ⟨-, c, hc, hspace⟩
  obtain rfl : '0' = c := Option.some.inj hc
  exact absurd hspace (by decide)

/-- With whitespace at the end of the zone, normalizing again gives something else. -/
theorem not_canonical_zone : linkLocal.Lawful ∧
    normalizeHost linkLocal "[fe80::1%eth0 ]".toList = some "fe80::1%eth0 ".toList ∧
    normalizeHost linkLocal "fe80::1%eth0 ".toList = some "fe80::1%eth0".toList ∧
    ¬ Canonical linkLocal "[fe80::1%eth0 ]".toList "fe80::1%eth0 ".toList := by
  refine ⟨linkLocal_lawful, by decide, by decide, fun h => ?_⟩
  exact absurd h.idempotent (by decide)

end Host

end KefLsx
