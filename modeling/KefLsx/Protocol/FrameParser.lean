import KefLsx.Core.Framing
import KefLsx.Protocol.Encoding
import KefLsx.Protocol.Errors

/-!
# Response framing

`FrameParser` of `protocol.py`. A response stream is a sequence of frames of two lengths, told
apart by their third byte: `52 s FF` is the status of a SET and `52 r 81 v t` the answer to a
GET, with arbitrary bytes `s`, `r`, `v`, `t`. The parser keeps the unread suffix of the stream
and poisons itself, by clearing it, on the first byte that no frame admits.

The parser is an instance of `Framing.Framer`; the main result `feedAll_accepts` says which
streams it accepts and what it emits, whatever the chunking.
-/

namespace KefLsx

open Framing

/-- One complete five-byte GET response. -/
structure GetFrame where
  register : UInt8
  value : UInt8
  trailer : UInt8
deriving DecidableEq

/-- One complete three-byte SET status response. -/
structure SetStatusFrame where
  status : UInt8
deriving DecidableEq

inductive ResponseFrame where
  | get (frame : GetFrame)
  | setStatus (frame : SetStatusFrame)
deriving DecidableEq

/-- The bytes of a frame on the wire. -/
def ResponseFrame.bytes : ResponseFrame → List UInt8
  | .get f => [Wire.response, f.register, Wire.setMarker, f.value, f.trailer]
  | .setStatus f => [Wire.response, f.status, Wire.frameEnd]

/-- The body of the `while self._buffer` loop of `feed`: what stands at the front of the
buffer. -/
def nextFrame : List UInt8 → Next ResponseFrame String
  | [] => .more
  | b :: rest =>
    if b ≠ Wire.response then .bad "Response did not start with R"
    else
      match rest with
      | x :: marker :: rest =>
        if marker = Wire.frameEnd then .frame (.setStatus ⟨x⟩) 3
        else if marker ≠ Wire.setMarker then
          .bad ("Unexpected response marker 0x" ++ hexByte marker)
        else
          match rest with
          | value :: trailer :: _ => .frame (.get ⟨x, value, trailer⟩) 5
          | _ => .more
      | _ => .more

/-! ### The parser reads a prefix code -/

@[simp] lemma Wire.setMarker_ne_frameEnd : (Wire.setMarker = Wire.frameEnd) = False := by decide

lemma nextFrame_frame_iff {b : List UInt8} {f : ResponseFrame} {n : ℕ} :
    nextFrame b = .frame f n ↔ f.bytes <+: b ∧ n = f.bytes.length := by
  constructor
  · intro h
    unfold nextFrame at h
    split at h
    · cases h
    · split_ifs at h with hb
      split at h
      · split_ifs at h with hend hmark
        · cases h
          simp_all [ResponseFrame.bytes]
        · split at h
          · cases h
            simp_all [ResponseFrame.bytes]
          · cases h
      · cases h
  · rintro ⟨⟨rest, rfl⟩, rfl⟩
    cases f <;> simp [nextFrame, ResponseFrame.bytes]

/-- An incomplete frame is the beginning of a status or of a GET answer. -/
lemma nextFrame_more_iff {b : List UInt8} :
    nextFrame b = .more ↔ ∃ f : ResponseFrame, b <+: f.bytes ∧ b ≠ f.bytes := by
  constructor
  · intro h
    match b with
    | [] => exact ⟨.setStatus ⟨0⟩, by simp, by simp [ResponseFrame.bytes]⟩
    | [r] => exact ⟨.setStatus ⟨0⟩, by simp_all [nextFrame, ResponseFrame.bytes]⟩
    | [r, x] => exact ⟨.setStatus ⟨x⟩, by simp_all [nextFrame, ResponseFrame.bytes]⟩
    | [r, x, m] =>
      refine ⟨.get ⟨x, 0, 0⟩, ?_⟩
      simp only [nextFrame] at h
      split_ifs at h
      simp_all [ResponseFrame.bytes]
    | [r, x, m, v] =>
      refine ⟨.get ⟨x, v, 0⟩, ?_⟩
      simp only [nextFrame] at h
      split_ifs at h
      simp_all [ResponseFrame.bytes]
    | r :: x :: m :: v :: t :: rest =>
      simp only [nextFrame] at h
      split_ifs at h
  · rintro ⟨f, ⟨rest, hrest⟩, hne⟩
    have hnil : rest ≠ [] := by
      rintro rfl
      exact hne (by simpa using hrest)
    cases f with
    | get f =>
      match b with
      | [] => rfl
      | [_] | [_, _] | [_, _, _] | [_, _, _, _] =>
        simp only [ResponseFrame.bytes, List.cons_append, List.nil_append, List.cons.injEq]
          at hrest
        simp [nextFrame, hrest]
      | _ :: _ :: _ :: _ :: _ :: _ => simp_all [ResponseFrame.bytes]
    | setStatus f =>
      match b with
      | [] => rfl
      | [_] | [_, _] =>
        simp only [ResponseFrame.bytes, List.cons_append, List.nil_append, List.cons.injEq]
          at hrest
        simp [nextFrame, hrest]
      | _ :: _ :: _ :: _ => simp_all [ResponseFrame.bytes]

/-- A refused buffer stays refused, for the same reason, whatever follows. -/
lemma nextFrame_bad_append {a : List UInt8} {e : String} (h : nextFrame a = .bad e)
    (b : List UInt8) : nextFrame (a ++ b) = .bad e := by
  match a with
  | [] => cases h
  | r :: a =>
    by_cases hr : r = Wire.response
    · match a with
      | [] | [_] => simp [nextFrame, hr] at h
      | x :: m :: a =>
        simp only [nextFrame, List.cons_append] at h ⊢
        split_ifs at h ⊢
        · exact h
        · exact h
        · match a with
          | [] | [_] | _ :: _ :: _ => cases h
    · simpa [nextFrame, hr] using h

lemma bytes_length (f : ResponseFrame) : 3 ≤ f.bytes.length ∧ f.bytes.length ≤ 5 := by
  cases f <;> simp [ResponseFrame.bytes]

/-- An incomplete frame has four bytes at most. -/
lemma length_of_more {rest : List UInt8} (h : nextFrame rest = .more) : rest.length ≤ 4 := by
  obtain ⟨f, hpre, hne⟩ := nextFrame_more_iff.mp h
  have hle := hpre.length_le
  have hlt : rest.length ≠ f.bytes.length := fun heq => hne (hpre.eq_of_length heq)
  have hbound := (bytes_length f).2
  omega

lemma ne_frame_of_more {rest : List UInt8} (h : nextFrame rest = .more) (f : ResponseFrame)
    (m : ℕ) : nextFrame rest ≠ .frame f m := by
  rw [h]
  exact nofun

/-- The response grammar as a prefix code with its reader. -/
def responseFramer : Framer UInt8 ResponseFrame String where
  encode := ResponseFrame.bytes
  next := nextFrame
  encode_ne_nil f := by cases f <;> simp [ResponseFrame.bytes]
  next_nil := rfl
  next_frame_iff := nextFrame_frame_iff
  next_more_iff := nextFrame_more_iff
  next_bad_append := nextFrame_bad_append

/-! ### `FrameParser` -/

structure FrameParser where
  buffer : List UInt8 := []
  bufferLimit : ℕ := 4096
deriving DecidableEq

namespace FrameParser

/-- Whether an incomplete suffix remains. -/
def hasPendingData (p : FrameParser) : Bool := !p.buffer.isEmpty

/-- The `MalformedResponseError` that `_fail` raises. -/
def framingError (message : String) : LsxError :=
  { type := .malformedResponse, message := message }

/-- `_fail`: clear the poisoned buffer and raise a framing error. -/
def fail (p : FrameParser) (message : String) :
    Except LsxError (List ResponseFrame) × FrameParser :=
  (.error (framingError message), { p with buffer := [] })

/-- `feed`: append stream bytes and emit all complete frames. -/
def feed (p : FrameParser) (data : List UInt8) :
    Except LsxError (List ResponseFrame) × FrameParser :=
  let buffer := p.buffer ++ data
  if buffer.length > p.bufferLimit then p.fail "Response buffer exceeded its limit"
  else
    match responseFramer.scan buffer with
    | .error message => p.fail message
    | .ok (frames, rest) => (.ok frames, { p with buffer := rest })

/-- Feed chunk after chunk, up to the first call that raises. -/
def feedAll (p : FrameParser) : List (List UInt8) →
    Except LsxError (List (List ResponseFrame)) × FrameParser
  | [] => (.ok [], p)
  | chunk :: chunks =>
    match p.feed chunk with
    | (.error e, q) => (.error e, q)
    | (.ok frames, q) =>
      match q.feedAll chunks with
      | (.error e, q) => (.error e, q)
      | (.ok out, q) => (.ok (frames :: out), q)

/-- Pending bytes plus the next chunk never exceed the limit, in any call that is made. -/
def WithinLimit (p : FrameParser) : List (List UInt8) → Prop
  | [] => True
  | chunk :: chunks =>
    p.buffer.length + chunk.length ≤ p.bufferLimit ∧
      (∀ frames q, p.feed chunk = (.ok frames, q) → q.WithinLimit chunks)

/-- A parser raises framing errors only. -/
lemma isRejection_feed {p q : FrameParser} {data : List UInt8} {e : LsxError}
    (h : p.feed data = (.error e, q)) : e.isRejection = false := by
  simp only [feed] at h
  split at h
  · cases h
    rfl
  · split at h
    · cases h
      rfl
    · cases h

lemma feed_of_scan_ok {p : FrameParser} {data : List UInt8} {frames : List ResponseFrame}
    {rest : List UInt8} (hlim : p.buffer.length + data.length ≤ p.bufferLimit)
    (h : responseFramer.scan (p.buffer ++ data) = .ok (frames, rest)) :
    p.feed data = (.ok frames, { p with buffer := rest }) := by
  simp only [feed, h]
  rw [if_neg (by simpa using hlim)]

lemma feed_of_scan_error {p : FrameParser} {data : List UInt8} {message : String}
    (hlim : p.buffer.length + data.length ≤ p.bufferLimit)
    (h : responseFramer.scan (p.buffer ++ data) = .error message) :
    p.feed data = p.fail message := by
  simp only [feed, h]
  rw [if_neg (by simpa using hlim)]

/-- Within the limit, feeding chunk after chunk is the chunked reading of the framer. -/
lemma feedAll_eq_feeds {p : FrameParser} {chunks : List (List UInt8)}
    (hlim : p.WithinLimit chunks) :
    p.feedAll chunks =
      match responseFramer.feeds p.buffer chunks with
      | .ok (out, rest) => (.ok out, { p with buffer := rest })
      | .error message => (.error (framingError message), { p with buffer := [] }) := by
  induction chunks generalizing p with
  | nil => rfl
  | cons chunk chunks ih =>
    obtain ⟨hlim, hnext⟩ := hlim
    simp only [feedAll, Framer.feeds]
    cases hs : responseFramer.scan (p.buffer ++ chunk) with
    | error message => rw [feed_of_scan_error hlim hs]; rfl
    | ok t =>
      have hfeed := feed_of_scan_ok hlim hs
      rw [hfeed]
      simp only [ih (hnext _ _ hfeed), Except.bind]
      cases responseFramer.feeds t.2 chunks <;> rfl

lemma WithinLimit.prefix {p : FrameParser} {pre post : List (List UInt8)}
    (h : p.WithinLimit (pre ++ post)) : p.WithinLimit pre := by
  induction pre generalizing p with
  | nil => trivial
  | cons c pre ih => exact ⟨h.1, fun frames q hq => ih (h.2 frames q hq)⟩

/-- The limit also holds in the call after a prefix of the chunks. -/
lemma WithinLimit.next {p q : FrameParser} {pre post : List (List UInt8)} {chunk : List UInt8}
    {out : List (List ResponseFrame)} (h : p.WithinLimit (pre ++ chunk :: post))
    (hpre : p.feedAll pre = (.ok out, q)) :
    q.buffer.length + chunk.length ≤ q.bufferLimit := by
  induction pre generalizing p out with
  | nil => cases hpre; exact h.1
  | cons c pre ih =>
    simp only [feedAll] at hpre
    split at hpre
    · cases hpre
    · rename_i frames p' hc
      split at hpre
      · cases hpre
      · rename_i out' q' hrest
        cases hpre
        exact ih (h.2 _ _ hc) hrest

/-! ### The accepted streams -/

/-- A possibly empty proper prefix of a frame. -/
def ProperPrefix (rest : List UInt8) : Prop :=
  ∃ f : ResponseFrame, rest <+: f.bytes ∧ rest ≠ f.bytes

/-- The byte `x` after the beginning `rest` of a frame violates the grammar: at position 0 a
frame has `52`, at position 2 it has `FF` or `81`, and every other byte is free. -/
def Violates (rest : List UInt8) (x : UInt8) : Prop :=
  (rest = [] ∧ x ≠ Wire.response) ∨
    (∃ s, rest = [Wire.response, s] ∧ x ≠ Wire.frameEnd ∧ x ≠ Wire.setMarker)

/-- The first byte of the stream that violates the grammar has index `i`: complete frames and
the beginning of one more precede it. -/
def FirstViolation (stream : List UInt8) (i : ℕ) : Prop :=
  ∃ (frames : List ResponseFrame) (rest : List UInt8) (x : UInt8) (tail : List UInt8),
    stream = frames.flatMap ResponseFrame.bytes ++ rest ++ x :: tail ∧ Violates rest x ∧
      i = (frames.flatMap ResponseFrame.bytes ++ rest).length

lemma violates_of_bad {rest : List UInt8} {x : UInt8} {e : String}
    (hmore : nextFrame rest = .more) (hbad : nextFrame (rest ++ [x]) = .bad e) :
    Violates rest x := by
  match rest with
  | [] =>
    refine Or.inl ⟨rfl, ?_⟩
    rintro rfl
    simp [nextFrame] at hbad
  | [r] =>
    simp only [nextFrame, List.cons_append, List.nil_append] at hmore hbad
    split_ifs at hmore hbad
  | [r, s] =>
    refine Or.inr ⟨s, ?_⟩
    simp only [nextFrame, List.cons_append, List.nil_append] at hmore hbad
    split_ifs at hmore hbad with hr hend hmark
    simp_all
  | [r, s, m] | [r, s, m, v] =>
    simp only [nextFrame, List.cons_append, List.nil_append] at hmore hbad
    split_ifs at hmore hbad
  | r :: s :: m :: v :: t :: rest =>
    simp only [nextFrame] at hmore
    split_ifs at hmore

/-- A violation refuses the beginning of a frame that it follows. -/
lemma bad_of_violates {rest : List UInt8} {x : UInt8} (h : Violates rest x) :
    nextFrame rest = .more ∧ ∃ message, nextFrame (rest ++ [x]) = .bad message := by
  rcases h with ⟨rfl, hx⟩ | ⟨s, rfl, hend, hmark⟩
  · exact ⟨rfl, "Response did not start with R", by simp [nextFrame, hx]⟩
  · exact ⟨by simp [nextFrame], "Unexpected response marker 0x" ++ hexByte x,
      by simp [nextFrame, hend, hmark]⟩

/-- Up to its first violation a stream is readable; with it, it is not. -/
lemma FirstViolation.scan {stream : List UInt8} {i : ℕ} (h : FirstViolation stream i) :
    i < stream.length ∧ (∃ t, responseFramer.scan (stream.take i) = .ok t) ∧
      ∃ message, responseFramer.scan (stream.take (i + 1)) = .error message := by
  obtain ⟨frames, rest, x, tail, rfl, hx, rfl⟩ := h
  obtain ⟨hmore, message, hbad⟩ := bad_of_violates hx
  have hscan : responseFramer.scan (frames.flatMap ResponseFrame.bytes ++ rest) =
      .ok (frames, rest) :=
    Framer.scan_eq_ok_iff.mpr ⟨rfl, hmore⟩
  refine ⟨by simp, ⟨_, by rw [List.take_left]; exact hscan⟩, message, ?_⟩
  rw [List.take_length_add_append, List.take_succ_cons, List.take_zero, Framer.scan_append, hscan]
  simp only [Except.bind, Framer.scan_of_bad (F := responseFramer) hbad, Except.map]

/-- An unreadable stream has a first violation. -/
lemma exists_firstViolation {stream : List UInt8} {message : String}
    (h : responseFramer.scan stream = .error message) : ∃ i, FirstViolation stream i := by
  obtain ⟨frames, rest, x, tail, hstream, hmore, hbad⟩ := Framer.exists_bad_symbol h
  exact ⟨_, frames, rest, x, tail, hstream, violates_of_bad hmore hbad, rfl⟩

/-- The chunk that a reading refuses holds the first violation of the stream. -/
lemma FirstViolation.mem_refused {pre : List (List UInt8)} {chunk : List UInt8}
    {post : List (List UInt8)} {i : ℕ} {t : List ResponseFrame × List UInt8} {message : String}
    (h : FirstViolation (pre ++ chunk :: post).flatten i)
    (hpre : responseFramer.scan pre.flatten = .ok t)
    (hchunk : responseFramer.scan (pre.flatten ++ chunk) = .error message) :
    pre.flatten.length ≤ i ∧ i < pre.flatten.length + chunk.length := by
  obtain ⟨hi, ⟨u, hok⟩, message', herr⟩ := h.scan
  have hstream : (pre ++ chunk :: post).flatten = pre.flatten ++ chunk ++ post.flatten := by simp
  rw [hstream] at hi hok herr
  constructor
  · by_contra hlt
    have hle : ((pre.flatten ++ chunk ++ post.flatten).take (i + 1)) <+: pre.flatten := by
      rw [List.append_assoc, List.take_append_of_le_length (by omega)]
      exact List.take_prefix _ _
    obtain ⟨v, hv⟩ := Framer.scan_ok_of_prefix hle hpre
    rw [herr] at hv
    cases hv
  · by_contra hge
    have hle : pre.flatten ++ chunk <+: ((pre.flatten ++ chunk ++ post.flatten).take i) :=
      List.prefix_take_iff.mpr ⟨List.prefix_append _ _, by rw [List.length_append]; omega⟩
    obtain ⟨v, hv⟩ := Framer.scan_ok_of_prefix hle hok
    rw [hchunk] at hv
    cases hv

/-- The parser accepts exactly the response grammar, whatever the chunking. All calls succeed iff
the stream is a concatenation of frames followed by a proper prefix of one; then the calls emit
those frames in order, and something is pending iff that prefix is not empty. Otherwise the
first call to raise is the one whose chunk holds the first violating byte, it raises
`MalformedResponseError`, and it leaves the buffer empty. -/
theorem feedAll_accepts (limit : ℕ) (chunks : List (List UInt8))
    (hlim : WithinLimit { bufferLimit := limit } chunks) :
    ((∃ out, (feedAll { bufferLimit := limit } chunks).1 = .ok out) ↔
      ∃ (frames : List ResponseFrame) (rest : List UInt8),
        chunks.flatten = frames.flatMap ResponseFrame.bytes ++ rest ∧ ProperPrefix rest) ∧
    (∀ (frames : List ResponseFrame) (rest : List UInt8),
      chunks.flatten = frames.flatMap ResponseFrame.bytes ++ rest → ProperPrefix rest →
        ∃ out q, feedAll { bufferLimit := limit } chunks = (.ok out, q) ∧
          out.flatten = frames ∧ (q.hasPendingData = true ↔ rest ≠ [])) ∧
    ((¬∃ out, (feedAll { bufferLimit := limit } chunks).1 = .ok out) →
      (∃ i, FirstViolation chunks.flatten i) ∧
        ∀ i, FirstViolation chunks.flatten i →
          ∃ pre chunk post out q e, chunks = pre ++ chunk :: post ∧
            feedAll { bufferLimit := limit } pre = (.ok out, q) ∧
            q.feed chunk = (.error e, { q with buffer := [] }) ∧ e.type = .malformedResponse ∧
            pre.flatten.length ≤ i ∧ i < pre.flatten.length + chunk.length) := by
  have hfeed := feedAll_eq_feeds hlim
  have hscan := Framer.feeds_eq_scan (F := responseFramer) (r := []) rfl chunks
  simp only [List.nil_append] at hscan
  cases hf : responseFramer.feeds [] chunks with
  | ok t =>
    rw [hf] at hfeed hscan
    obtain ⟨hstream, hmore⟩ := Framer.scan_eq_ok_iff.mp hscan.symm
    have hpp : ProperPrefix t.2 := nextFrame_more_iff.mp hmore
    refine ⟨⟨fun _ => ⟨t.1.flatten, t.2, hstream, hpp⟩, fun _ => ⟨t.1, by rw [hfeed]⟩⟩, ?_, ?_⟩
    · intro frames rest hdec hrest
      have hdec' := Framer.scan_eq_ok_iff (F := responseFramer).mpr
        ⟨hdec, nextFrame_more_iff.mpr hrest⟩
      rw [← hscan] at hdec'
      cases hdec'
      exact ⟨t.1, _, hfeed, rfl, by simp [hasPendingData]⟩
    · intro hno
      exact absurd ⟨t.1, by rw [hfeed]⟩ hno
  | error message =>
    rw [hf] at hfeed hscan
    have hrefuse : ¬∃ out, (feedAll { bufferLimit := limit } chunks).1 = .ok out := by
      rintro ⟨out, hout⟩
      rw [hfeed] at hout
      cases hout
    have hnot : ∀ (frames : List ResponseFrame) (rest : List UInt8),
        chunks.flatten = frames.flatMap ResponseFrame.bytes ++ rest → ¬ProperPrefix rest := by
      intro frames rest hdec hrest
      have hdec' := Framer.scan_eq_ok_iff (F := responseFramer).mpr
        ⟨hdec, nextFrame_more_iff.mpr hrest⟩
      rw [← hscan] at hdec'
      cases hdec'
    refine ⟨⟨fun h => absurd h hrefuse, ?_⟩, ?_, fun _ => ⟨exists_firstViolation hscan.symm, ?_⟩⟩
    · rintro ⟨frames, rest, hdec, hrest⟩
      exact absurd hrest (hnot frames rest hdec)
    · intro frames rest hdec hrest
      exact absurd hrest (hnot frames rest hdec)
    · intro i hi
      obtain ⟨pre, chunk, post, t, rfl, hpre, hbad⟩ := Framer.exists_refused_chunk hf
      have hfeedPre := feedAll_eq_feeds hlim.prefix
      rw [hpre] at hfeedPre
      have hscanPre := Framer.feeds_eq_scan (F := responseFramer) (r := []) rfl pre
      rw [hpre] at hscanPre
      have hchunk : responseFramer.scan (pre.flatten ++ chunk) = .error message := by
        rw [Framer.scan_append, ← List.nil_append pre.flatten, ← hscanPre]
        simp only [Except.map, Except.bind, hbad]
      obtain ⟨hlo, hhi⟩ := hi.mem_refused hscanPre.symm hchunk
      exact ⟨pre, chunk, post, t.1, _, framingError message, rfl, hfeedPre,
        feed_of_scan_error (hlim.next hfeedPre) hbad, rfl, hlo, hhi⟩

/-- The stream `52 11 FF 52 25 81 28 01 52`, cut inside the second frame, stays within the
default limit. -/
theorem feedAll_accepts_split :
    WithinLimit { bufferLimit := 4096 } [[0x52, 0x11, 0xFF, 0x52], [0x25, 0x81, 0x28, 0x01, 0x52]] ∧
      ∃ out, (feedAll { bufferLimit := 4096 }
        [[0x52, 0x11, 0xFF, 0x52], [0x25, 0x81, 0x28, 0x01, 0x52]]).1 = .ok out := by
  have hlim : WithinLimit { bufferLimit := 4096 }
      [[0x52, 0x11, 0xFF, 0x52], [0x25, 0x81, 0x28, 0x01, 0x52]] := by
    refine ⟨by decide, fun frames q hq => ⟨?_, fun _ _ _ => trivial⟩⟩
    have hfeed : feed { bufferLimit := 4096 } [0x52, 0x11, 0xFF, 0x52] =
        (.ok [.setStatus ⟨0x11⟩], { bufferLimit := 4096, buffer := [0x52] }) := by rfl
    rw [hfeed] at hq
    cases hq
    decide
  exact ⟨hlim, (feedAll_accepts 4096 _ hlim).1.mpr
    ⟨[.setStatus ⟨0x11⟩, .get ⟨0x25, 0x28, 0x01⟩], [0x52], rfl, .setStatus ⟨0⟩, by decide,
      by decide⟩⟩

end FrameParser

end KefLsx
