import Mathlib.Data.List.Infix
import Mathlib.Data.List.Flatten

/-!
# Incremental readers of a prefix code

A stream of frames is the concatenation of their encodings, and it reaches the reader in chunks
that need not end where a frame ends. The reader keeps the unread suffix in a buffer and, on
every chunk, takes the complete frames off the front.

`Framer` is such a reader with the laws that make it a reader of its code: what stands at the
front of a buffer is a frame exactly when the buffer starts with that frame's encoding, and is
incomplete exactly when the buffer is a proper prefix of some encoding. The results below do not
depend on the code: reading is compositional (`scan_append`), it accepts exactly the
concatenations of encodings followed by a proper prefix of one (`scan_eq_ok_iff`), and cutting
the stream into chunks changes neither the frames nor the leftover (`feeds_eq_scan`).
-/

namespace Framing

variable {α φ ε : Type*}

/-- What stands at the front of a buffer: a frame of `n` symbols, the beginning of one, or
something that starts no frame. -/
inductive Next (φ ε : Type*) where
  | more
  | frame (f : φ) (n : ℕ)
  | bad (e : ε)

/-- A reader of the code `encode`. -/
structure Framer (α φ ε : Type*) where
  encode : φ → List α
  next : List α → Next φ ε
  encode_ne_nil : ∀ f, encode f ≠ []
  next_nil : next [] = .more
  next_frame_iff : ∀ {b f n}, next b = .frame f n ↔ encode f <+: b ∧ n = (encode f).length
  next_more_iff : ∀ {b}, next b = .more ↔ ∃ f, b <+: encode f ∧ b ≠ encode f
  next_bad_append : ∀ {a e}, next a = .bad e → ∀ b, next (a ++ b) = .bad e

namespace Framer

variable (F : Framer α φ ε)

/-! ### Reading a buffer -/

/-- Take frames off the front of a buffer, at most `n` of them. -/
def scanAtMost : ℕ → List α → Except ε (List φ × List α)
  | 0, b => .ok ([], b)
  | n + 1, b =>
    match F.next b with
    | .more => .ok ([], b)
    | .bad e => .error e
    | .frame f k => (scanAtMost n (b.drop k)).map fun r => (f :: r.1, r.2)

/-- Take all complete frames off the front of a buffer; the unread suffix stays. -/
def scan (b : List α) : Except ε (List φ × List α) := F.scanAtMost b.length b

variable {F}

lemma next_encode_append (f : φ) (b : List α) :
    F.next (F.encode f ++ b) = .frame f (F.encode f).length :=
  F.next_frame_iff.mpr ⟨List.prefix_append _ _, rfl⟩

/-- A frame at the front of a buffer is a non-empty part of it. -/
lemma frame_length {b : List α} {f : φ} {n : ℕ} (h : F.next b = .frame f n) :
    0 < n ∧ n ≤ b.length := by
  obtain ⟨hpre, rfl⟩ := F.next_frame_iff.mp h
  exact ⟨List.length_pos_iff.mpr (F.encode_ne_nil f), hpre.length_le⟩

lemma next_frame_append {a : List α} {f : φ} {n : ℕ} (h : F.next a = .frame f n) (b : List α) :
    F.next (a ++ b) = .frame f n := by
  obtain ⟨hpre, hn⟩ := F.next_frame_iff.mp h
  exact F.next_frame_iff.mpr ⟨hpre.trans (List.prefix_append _ _), hn⟩

/-- A limit above the length of the buffer is never reached: every frame takes a symbol. -/
lemma scanAtMost_of_length_le {n : ℕ} {b : List α} (h : b.length ≤ n) :
    F.scanAtMost n b = F.scan b := by
  induction n using Nat.strong_induction_on generalizing b with
  | _ n ih =>
    cases n with
    | zero => simp [scan, List.length_eq_zero_iff.mp (Nat.le_zero.mp h)]
    | succ n =>
      cases hb : b.length with
      | zero =>
        rw [List.length_eq_zero_iff.mp hb]
        simp [scan, scanAtMost, F.next_nil]
      | succ m =>
        simp only [scan, hb, scanAtMost]
        cases hnext : F.next b with
        | more => rfl
        | bad e => rfl
        | frame f k =>
          obtain ⟨hpos, hle⟩ := frame_length hnext
          have hdrop : (b.drop k).length ≤ m := by simp only [List.length_drop]; omega
          simp only
          rw [ih n (by omega) (hdrop.trans (by omega)), ih m (by omega) hdrop]

lemma scan_of_more {b : List α} (h : F.next b = .more) : F.scan b = .ok ([], b) := by
  rw [← scanAtMost_of_length_le (Nat.le_succ b.length)]
  simp [scanAtMost, h]

lemma scan_of_bad {b : List α} {e : ε} (h : F.next b = .bad e) : F.scan b = .error e := by
  rw [← scanAtMost_of_length_le (Nat.le_succ b.length)]
  simp [scanAtMost, h]

lemma scan_of_frame {b : List α} {f : φ} {n : ℕ} (h : F.next b = .frame f n) :
    F.scan b = (F.scan (b.drop n)).map fun r => (f :: r.1, r.2) := by
  rw [← scanAtMost_of_length_le (Nat.le_succ b.length)]
  simp only [scanAtMost, h]
  rw [scanAtMost_of_length_le (by simp)]

@[simp] lemma scan_nil : F.scan [] = .ok ([], []) := scan_of_more F.next_nil

/-- Reading a buffer that grew is reading what was left of it together with what came. -/
theorem scan_append (a b : List α) :
    F.scan (a ++ b) =
      (F.scan a).bind fun r => (F.scan (r.2 ++ b)).map fun t => (r.1 ++ t.1, t.2) := by
  induction hn : a.length using Nat.strong_induction_on generalizing a with
  | _ n ih =>
    cases hnext : F.next a with
    | more =>
      rw [scan_of_more hnext]
      cases hs : F.scan (a ++ b) <;> simp [Except.bind, Except.map, hs]
    | bad e => rw [scan_of_bad hnext, scan_of_bad (F.next_bad_append hnext b)]; rfl
    | frame f k =>
      obtain ⟨hpos, hle⟩ := frame_length hnext
      rw [scan_of_frame hnext, scan_of_frame (next_frame_append hnext b),
        List.drop_append_of_le_length hle,
        ih (a.drop k).length (by simp only [List.length_drop]; omega) _ rfl]
      cases F.scan (a.drop k) with
      | error e => rfl
      | ok r => cases hs : F.scan (r.2 ++ b) <;> simp [Except.bind, Except.map, hs]

/-- Reading accepts exactly the concatenations of encodings followed by a proper prefix of one,
and then gives the frames and that prefix. -/
theorem scan_eq_ok_iff {b : List α} {fs : List φ} {r : List α} :
    F.scan b = .ok (fs, r) ↔ b = fs.flatMap F.encode ++ r ∧ F.next r = .more := by
  constructor
  · induction hn : b.length using Nat.strong_induction_on generalizing b fs with
    | _ n ih =>
      intro h
      cases hnext : F.next b with
      | more => rw [scan_of_more hnext] at h; cases h; simp [hnext]
      | bad e => rw [scan_of_bad hnext] at h; cases h
      | frame f k =>
        obtain ⟨hpos, hle⟩ := frame_length hnext
        rw [scan_of_frame hnext] at h
        cases hs : F.scan (b.drop k) with
        | error e => rw [hs] at h; cases h
        | ok t =>
          rw [hs] at h
          cases h
          obtain ⟨hdrop, hmore⟩ :=
            ih (b.drop k).length (by simp only [List.length_drop]; omega) rfl hs
          obtain ⟨hpre, rfl⟩ := F.next_frame_iff.mp hnext
          refine ⟨?_, hmore⟩
          calc b = F.encode f ++ b.drop (F.encode f).length :=
                  (List.prefix_iff_eq_append.mp hpre).symm
            _ = (f :: t.1).flatMap F.encode ++ t.2 := by
                  conv_lhs => rw [hdrop]
                  simp
  · rintro ⟨rfl, hmore⟩
    induction fs with
    | nil => simpa using scan_of_more hmore
    | cons f fs ih =>
      rw [List.flatMap_cons, List.append_assoc, scan_of_frame (next_encode_append f _),
        List.drop_left, ih]
      rfl

/-- A stream that begins with the frames `fs` has them among its frames `gs`, where these are
followed by what starts no frame. -/
lemma prefix_of_flatMap_append {fs gs : List φ} {a b : List α}
    (hb : ∀ g n, F.next b ≠ .frame g n)
    (h : fs.flatMap F.encode ++ a = gs.flatMap F.encode ++ b) : fs <+: gs := by
  induction fs generalizing gs with
  | nil => exact List.nil_prefix
  | cons f fs ih =>
    rw [List.flatMap_cons, List.append_assoc] at h
    have hf : F.next (F.encode f ++ (fs.flatMap F.encode ++ a)) = .frame f _ :=
      next_encode_append f _
    cases gs with
    | nil =>
      rw [h] at hf
      exact absurd hf (hb f _)
    | cons g gs =>
      rw [List.flatMap_cons, List.append_assoc] at h
      have hg : F.next (F.encode g ++ (gs.flatMap F.encode ++ b)) = .frame g _ :=
        next_encode_append g _
      rw [← h, hf] at hg
      obtain ⟨rfl, -⟩ := Next.frame.inj hg
      exact List.cons_prefix_cons.mpr ⟨rfl, ih (List.append_cancel_left h)⟩

/-- The leftover of a successful reading is incomplete. -/
lemma next_of_scan_ok {b : List α} {t : List φ × List α} (h : F.scan b = .ok t) :
    F.next t.2 = .more :=
  (scan_eq_ok_iff.mp h).2

/-- Every prefix of a readable buffer is readable. -/
lemma scan_ok_of_prefix {a b : List α} (hab : a <+: b) {t : List φ × List α}
    (h : F.scan b = .ok t) : ∃ t', F.scan a = .ok t' := by
  obtain ⟨c, rfl⟩ := hab
  cases hs : F.scan a with
  | ok t' => exact ⟨t', rfl⟩
  | error e =>
    rw [scan_append, hs] at h
    cases h

/-! ### Reading in chunks -/

variable (F) in
/-- Read chunk after chunk from the leftover `r`, until one is refused. -/
def feeds (r : List α) : List (List α) → Except ε (List (List φ) × List α)
  | [] => .ok ([], r)
  | c :: cs =>
    (F.scan (r ++ c)).bind fun s => (feeds s.2 cs).map fun t => (s.1 :: t.1, t.2)

/-- Cutting a stream into chunks changes neither its frames nor its leftover. -/
theorem feeds_eq_scan {r : List α} (hr : F.next r = .more) (cs : List (List α)) :
    (F.feeds r cs).map (fun t => (t.1.flatten, t.2)) = F.scan (r ++ cs.flatten) := by
  induction cs generalizing r with
  | nil => simp [feeds, Except.map, scan_of_more hr]
  | cons c cs ih =>
    rw [List.flatten_cons, ← List.append_assoc, scan_append]
    simp only [feeds]
    cases hs : F.scan (r ++ c) with
    | error e => rfl
    | ok s =>
      simp only [Except.bind]
      rw [← ih (next_of_scan_ok hs)]
      cases F.feeds s.2 cs <;> simp [Except.map]

/-- A refused chunk is the first one whose bytes make the stream unreadable: the chunks before
it are read, and the stream up to its end is not. -/
theorem exists_refused_chunk {r : List α} {cs : List (List α)} {e : ε}
    (h : F.feeds r cs = .error e) :
    ∃ pre c post t, cs = pre ++ c :: post ∧ F.feeds r pre = .ok t ∧
      F.scan (t.2 ++ c) = .error e := by
  induction cs generalizing r with
  | nil => cases h
  | cons c cs ih =>
    simp only [feeds] at h
    cases hs : F.scan (r ++ c) with
    | error e' =>
      rw [hs] at h
      cases h
      exact ⟨[], c, cs, ([], r), rfl, rfl, hs⟩
    | ok s =>
      rw [hs] at h
      cases hf : F.feeds s.2 cs with
      | ok t => simp [Except.bind, Except.map, hf] at h
      | error e' =>
        simp only [Except.bind, Except.map, hf, Except.error.injEq] at h
        subst h
        obtain ⟨pre, c', post, t, rfl, hpre, hbad⟩ := ih hf
        refine ⟨c :: pre, c', post, (s.1 :: t.1, t.2), rfl, ?_, hbad⟩
        simp [feeds, hs, Except.bind, Except.map, hpre]

/-! ### The first symbol that no frame admits -/

/-- A refused buffer has a first symbol at which it became unreadable: what precedes it is read
with leftover `r`, and `r` with this symbol starts no frame. -/
theorem exists_bad_symbol {b : List α} {e : ε} (h : F.scan b = .error e) :
    ∃ (fs : List φ) (r : List α) (x : α) (post : List α),
      b = fs.flatMap F.encode ++ r ++ x :: post ∧ F.next r = .more ∧
        F.next (r ++ [x]) = .bad e := by
  induction b using List.reverseRecOn with
  | nil => simp at h
  | append_singleton b x ih =>
    cases hs : F.scan b with
    | error e' =>
      rw [scan_append, hs] at h
      cases h
      obtain ⟨fs, r, y, post, rfl, hmore, hbad⟩ := ih hs
      exact ⟨fs, r, y, post ++ [x], by simp, hmore, hbad⟩
    | ok t =>
      obtain ⟨rfl, hmore⟩ := scan_eq_ok_iff.mp hs
      refine ⟨t.1, t.2, x, [], rfl, hmore, ?_⟩
      rw [scan_append, hs] at h
      cases hnext : F.next (t.2 ++ [x]) with
      | more => simp [Except.bind, Except.map, scan_of_more hnext] at h
      | bad e' =>
        simp only [Except.bind, scan_of_bad hnext, Except.map, Except.error.injEq] at h
        rw [h]
      | frame f n =>
        -- one more symbol completes a frame only by ending with it
        obtain ⟨hpre, rfl⟩ := F.next_frame_iff.mp hnext
        obtain ⟨hpos, hle⟩ := frame_length hnext
        have hdrop : (t.2 ++ [x]).drop (F.encode f).length = [] := by
          by_contra hne
          have hlt : (F.encode f).length ≤ t.2.length := by
            by_contra hgt
            exact hne (List.drop_eq_nil_of_le (by simp; omega))
          have hpre' : F.encode f <+: t.2 :=
            List.prefix_of_prefix_length_le hpre (List.prefix_append _ _) hlt
          have hframe : F.next t.2 = .frame f (F.encode f).length :=
            F.next_frame_iff.mpr ⟨hpre', rfl⟩
          rw [hmore] at hframe
          cases hframe
        simp [Except.bind, Except.map, scan_of_frame hnext, hdrop] at h

end Framer

end Framing
