import KefLsx.Client.Exchange

/-!
# How a reply is cut into reads

The parser delivers the frames of a read together, and refuses the read as a whole when it meets
a byte that no frame admits. So an exchange whose reply is settled by one of its frames ends with
that frame, unless the read that completes the frame also holds the first such byte (`Spoiled`).
Everything else depends on the bytes of the reply alone (`Concludes`).
-/

namespace KefLsx

open Framing

namespace LsxClient

/-! ### The frame that settles an exchange -/

/-- What an exchange ends with when the frames of a read have settled it. -/
def Examined.verdict : Examined → Option (Except LsxError (Option GetFrame))
  | .unanswered _ => none
  | .answered frame => some (.ok frame)
  | .refused error => some (.error error)

/-- What the frames of a reply, from its beginning on, settle the exchange with. -/
def verdict (register : Option UInt8) (frames : List ResponseFrame) :
    Option (Except LsxError (Option GetFrame)) :=
  (examine register 0 frames).verdict

/-- One of the first frames of the stream settles the exchange with `result`, and ends before the
byte of index `d`. -/
def SettledAt (register : Option UInt8) (stream : List UInt8) (d : ℕ)
    (result : Except LsxError (Option GetFrame)) : Prop :=
  ∃ (before : List ResponseFrame) (frame : ResponseFrame) (after : List UInt8),
    stream = (before ++ [frame]).flatMap ResponseFrame.bytes ++ after ∧
    verdict register before = none ∧ verdict register (before ++ [frame]) = some result ∧
    d = ((before ++ [frame]).flatMap ResponseFrame.bytes).length

/-- One read holds the bytes from index `i` to index `j`. -/
def SameRead (reads : List (List UInt8)) (i j : ℕ) : Prop :=
  ∃ pre read post, reads = pre ++ read :: post ∧ pre.flatten.length ≤ i ∧
    j < pre.flatten.length + read.length

/-- The read that completes the settling frame also holds the first byte that violates the
response grammar. -/
def Spoiled (register : Option UInt8) (reads : List (List UInt8)) : Prop :=
  ∃ d result i, SettledAt register reads.flatten d result ∧
    FrameParser.FirstViolation reads.flatten i ∧ SameRead reads (d - 1) i

/-- What `reader.read(1024)` returns before the end of the stream. -/
def Delivered (reads : List (List UInt8)) : Prop :=
  ∀ read ∈ reads, 1 ≤ read.length ∧ read.length ≤ 1024

variable {register : Option UInt8} {ending : Ending} {frames frames' : List ResponseFrame}
  {stream : List UInt8} {reads : List (List UInt8)} {d d' i j n : ℕ}
  {result result' : Except LsxError (Option GetFrame)}

/-- Frames are examined until one settles the exchange. -/
lemma examine_append :
    examine register n (frames ++ frames') =
      match examine register n frames with
      | .unanswered m => examine register m frames'
      | settled => settled := by
  induction frames generalizing n with
  | nil => rfl
  | cons frame frames ih =>
    by_cases hn : n + 1 > maxFramesPerExchange
    · simp [examine, hn]
    · cases frame with
      | get f =>
        cases register with
        | none => simp [examine, hn, ih]
        | some g =>
          by_cases hg : f.register = g
          · simp [examine, hn, hg]
          · simp [examine, hn, hg, ih]
      | setStatus f =>
        cases register with
        | none =>
          by_cases hf : f.status = Wire.setOkStatus <;> simp [examine, hn, hf]
        | some g => simp [examine, hn]

lemma examine_eq_unanswered {m : ℕ} (h : examine register n frames = .unanswered m) :
    m = n + frames.length := by
  induction frames generalizing n with
  | nil =>
    cases h
    rfl
  | cons frame frames ih =>
    simp only [examine] at h
    split_ifs at h with hn
    cases frame with
    | get f =>
      cases register with
      | none =>
        rw [ih h, List.length_cons]
        omega
      | some g =>
        simp only at h
        split_ifs at h
        rw [ih h, List.length_cons]
        omega
    | setStatus f =>
      cases register with
      | none =>
        simp only at h
        split_ifs at h
      | some g => cases h

/-- As long as nothing is settled, all frames have been examined. -/
lemma examine_of_verdict_eq_none (h : verdict register frames = none) :
    examine register 0 frames = .unanswered frames.length := by
  rw [verdict] at h
  cases he : examine register 0 frames with
  | unanswered m => rw [examine_eq_unanswered he, Nat.zero_add]
  | answered f | refused e =>
    rw [he] at h
    cases h

/-- Once settled, an exchange stays as it is. -/
lemma verdict_append_of_eq_some (h : verdict register frames = some result) :
    verdict register (frames ++ frames') = some result := by
  rw [verdict] at h ⊢
  rw [examine_append]
  cases he : examine register 0 frames with
  | unanswered m =>
    rw [he] at h
    cases h
  | answered f | refused e =>
    rw [he] at h
    exact h

lemma verdict_append_of_eq_none (h : verdict register frames = none) :
    verdict register (frames ++ frames') =
      (examine register frames.length frames').verdict := by
  rw [verdict, examine_append, examine_of_verdict_eq_none h]

lemma SettledAt.pos (h : SettledAt register stream d result) : 0 < d := by
  obtain ⟨before, frame, after, -, -, -, rfl⟩ := h
  have hpos := (bytes_length frame).1
  rw [List.flatMap_append, List.length_append, List.flatMap_singleton]
  omega

/-- Every stream is a sequence of frames followed by what starts no frame. -/
lemma exists_frames (stream : List UInt8) : ∃ (frames : List ResponseFrame) (rest : List UInt8),
    stream = frames.flatMap ResponseFrame.bytes ++ rest ∧ ∀ f n, nextFrame rest ≠ .frame f n := by
  cases hs : responseFramer.scan stream with
  | ok t =>
    obtain ⟨hstream, hmore⟩ := Framer.scan_eq_ok_iff.mp hs
    exact ⟨t.1, t.2, hstream, ne_frame_of_more hmore⟩
  | error e =>
    obtain ⟨fs, r, x, post, hstream, -, hbad⟩ := Framer.exists_bad_symbol hs
    refine ⟨fs, r ++ x :: post, hstream.trans (List.append_assoc _ _ _), ?_⟩
    intro f n hf
    have hbad' := nextFrame_bad_append hbad post
    rw [List.append_assoc, List.singleton_append] at hbad'
    exact absurd (hbad'.symm.trans hf) (by simp)

/-- The settling frame is among the frames of the stream. -/
lemma SettledAt.verdict_eq (h : SettledAt register stream d result) {rest : List UInt8}
    (hstream : stream = frames.flatMap ResponseFrame.bytes ++ rest)
    (hrest : ∀ f n, nextFrame rest ≠ .frame f n) :
    verdict register frames = some result ∧
      d ≤ (frames.flatMap ResponseFrame.bytes).length := by
  obtain ⟨before, frame, after, hdec, -, hv, rfl⟩ := h
  have hpre : before ++ [frame] <+: frames :=
    Framer.prefix_of_flatMap_append (F := responseFramer) hrest (hdec.symm.trans hstream)
  obtain ⟨more, rfl⟩ := hpre
  refine ⟨verdict_append_of_eq_some hv, ?_⟩
  have happend : ((before ++ [frame]) ++ more).flatMap ResponseFrame.bytes =
      (before ++ [frame]).flatMap ResponseFrame.bytes ++ more.flatMap ResponseFrame.bytes :=
    List.flatMap_append
  rw [happend, List.length_append]
  exact Nat.le_add_right _ _

/-- A stream has one settling frame at most. -/
lemma SettledAt.unique (h : SettledAt register stream d result)
    (h' : SettledAt register stream d' result') : d = d' ∧ result = result' := by
  obtain ⟨frames, rest, hstream, hrest⟩ := exists_frames stream
  obtain ⟨hv, -⟩ := h.verdict_eq hstream hrest
  obtain ⟨hv', -⟩ := h'.verdict_eq hstream hrest
  obtain ⟨before, frame, after, hdec, hnone, hsome, rfl⟩ := h
  obtain ⟨before', frame', after', hdec', hnone', hsome', rfl⟩ := h'
  have hpre : before ++ [frame] <+: frames :=
    Framer.prefix_of_flatMap_append (F := responseFramer) hrest (hdec.symm.trans hstream)
  have hpre' : before' ++ [frame'] <+: frames :=
    Framer.prefix_of_flatMap_append (F := responseFramer) hrest (hdec'.symm.trans hstream)
  -- of two different prefixes the shorter one would have settled the exchange before
  have hsame : before ++ [frame] = before' ++ [frame'] := by
    rcases List.prefix_or_prefix_of_prefix hpre hpre' with hle | hle
    · rcases List.prefix_concat_iff.mp hle with heq | ⟨more, hmore⟩
      · exact heq
      · rw [← hmore, verdict_append_of_eq_some hsome] at hnone'
        cases hnone'
    · rcases List.prefix_concat_iff.mp hle with heq | ⟨more, hmore⟩
      · exact heq.symm
      · rw [← hmore, verdict_append_of_eq_some hsome'] at hnone
        cases hnone
  exact ⟨by rw [hsame], Option.some.inj (hv.symm.trans hv')⟩

/-- Frames that settle the exchange have a first one that does. -/
lemma exists_settledAt (h : verdict register frames = some result) (rest : List UInt8) :
    ∃ d ≤ (frames.flatMap ResponseFrame.bytes).length,
      SettledAt register (frames.flatMap ResponseFrame.bytes ++ rest) d result := by
  induction frames using List.reverseRecOn generalizing rest with
  | nil => cases h
  | append_singleton frames frame ih =>
    cases hv : verdict register frames with
    | none => exact ⟨_, le_rfl, frames, frame, rest, rfl, hv, h, rfl⟩
    | some result' =>
      have hsame : result' = result := by
        rw [verdict_append_of_eq_some hv] at h
        exact Option.some.inj h
      obtain ⟨d, hd, hat⟩ := ih (hsame ▸ hv) (frame.bytes ++ rest)
      refine ⟨d, ?_, ?_⟩
      · rw [List.flatMap_append, List.length_append]
        exact hd.trans (Nat.le_add_right _ _)
      · rw [List.flatMap_append, List.flatMap_singleton, List.append_assoc]
        exact hat

/-- What settles a stream early settles its beginning. -/
lemma SettledAt.of_append {rest : List UInt8} (h : SettledAt register (stream ++ rest) d result)
    (hd : d ≤ stream.length) : SettledAt register stream d result := by
  obtain ⟨before, frame, after, hdec, hnone, hsome, rfl⟩ := h
  have hpre : (before ++ [frame]).flatMap ResponseFrame.bytes <+: stream := by
    refine List.prefix_of_prefix_length_le ?_ (List.prefix_append stream rest) hd
    rw [hdec]
    exact List.prefix_append _ _
  obtain ⟨after', rfl⟩ := hpre
  exact ⟨before, frame, after', rfl, hnone, hsome, rfl⟩

/-! ### Reads -/

/-- Two bytes on different sides of a read's end are in different reads. -/
lemma not_sameRead {reads' : List (List UInt8)} (hi : i < reads.flatten.length)
    (hj : reads.flatten.length ≤ j) : ¬ SameRead (reads ++ reads') i j := by
  rintro ⟨pre, read, post, heq, hlo, hhi⟩
  rcases List.append_eq_append_iff.mp heq with ⟨more, rfl, -⟩ | ⟨more, rfl, hmore⟩
  · rw [List.flatten_append, List.length_append] at hlo
    omega
  · cases more with
    | nil =>
      rw [List.append_nil] at hi
      omega
    | cons read' more =>
      obtain ⟨rfl, -⟩ := List.cons.inj hmore
      rw [List.flatten_append, List.length_append, List.flatten_cons, List.length_append] at hj
      omega

lemma FirstViolation.length_le {rest : List UInt8} {t : List ResponseFrame × List UInt8}
    (h : FrameParser.FirstViolation (stream ++ rest) i) (hs : responseFramer.scan stream = .ok t) :
    stream.length ≤ i := by
  obtain ⟨-, -, message, herr⟩ := h.scan
  by_contra hlt
  have hpre : (stream ++ rest).take (i + 1) <+: stream := by
    rw [List.take_append_of_le_length (by omega)]
    exact List.take_prefix _ _
  obtain ⟨t', ht'⟩ := Framer.scan_ok_of_prefix hpre hs
  rw [herr] at ht'
  cases ht'

/-! ### What the reading loop ends with -/

/-- What an exchange over these reads ends with. -/
inductive Concludes (register : Option UInt8) (ending : Ending) (reads : List (List UInt8)) :
    Except LsxError (Option GetFrame) → Prop where
  | settled (d : ℕ) (result : Except LsxError (Option GetFrame))
      (h : SettledAt register reads.flatten d result) (hs : ¬ Spoiled register reads) :
      Concludes register ending reads result
  /-- A read is refused before a frame has settled the exchange. -/
  | refused (message : String) (hscan : responseFramer.scan reads.flatten = .error message)
      (h : Spoiled register reads ∨ ∀ d result, ¬ SettledAt register reads.flatten d result) :
      Concludes register ending reads (.error (FrameParser.framingError message))
  | ended (frames : List ResponseFrame) (rest : List UInt8)
      (hscan : responseFramer.scan reads.flatten = .ok (frames, rest))
      (hnone : verdict register frames = none) :
      Concludes register ending reads (.error (endError { buffer := rest } ending))

/-- The read after `pre` is refused. -/
lemma Concludes.of_refused {pre post : List (List UInt8)} {chunk rest : List UInt8}
    {message : String} (hpre : responseFramer.scan pre.flatten = .ok (frames, rest))
    (hnone : verdict register frames = none)
    (hs : responseFramer.scan (rest ++ chunk) = .error message) :
    Concludes register ending (pre ++ chunk :: post)
      (.error (FrameParser.framingError message)) := by
  have hchunk : responseFramer.scan (pre.flatten ++ chunk) = .error message := by
    rw [Framer.scan_append, hpre]
    simp only [Except.bind, hs, Except.map]
  have hflatten : (pre ++ chunk :: post).flatten = pre.flatten ++ chunk ++ post.flatten := by simp
  have hscan : responseFramer.scan (pre ++ chunk :: post).flatten = .error message := by
    rw [hflatten, Framer.scan_append, hchunk]
    rfl
  refine .refused message hscan ?_
  by_cases hsettled : ∃ d result, SettledAt register (pre ++ chunk :: post).flatten d result
  · obtain ⟨d, result, hat⟩ := hsettled
    obtain ⟨i, hi⟩ := FrameParser.exists_firstViolation hscan
    obtain ⟨hlo, hhi⟩ := hi.mem_refused hpre hchunk
    have hd : pre.flatten.length < d := by
      by_contra hle
      rw [hflatten, List.append_assoc] at hat
      obtain ⟨hstream, hmore⟩ := Framer.scan_eq_ok_iff.mp hpre
      obtain ⟨hv, -⟩ :=
        (hat.of_append (not_lt.mp hle)).verdict_eq hstream (ne_frame_of_more hmore)
      rw [hnone] at hv
      cases hv
    exact .inl ⟨d, result, i, hat, hi, pre, chunk, post, rfl, Nat.le_sub_one_of_lt hd, hhi⟩
  · exact .inr fun d result hat => hsettled ⟨d, result, hat⟩

/-- The read after `pre` completes the settling frame. -/
lemma Concludes.of_settled {pre post : List (List UInt8)} {chunk rest : List UInt8}
    (hscan : responseFramer.scan (pre ++ [chunk]).flatten = .ok (frames, rest))
    (hv : verdict register frames = some result) :
    Concludes register ending (pre ++ chunk :: post) result := by
  have hreads : pre ++ chunk :: post = (pre ++ [chunk]) ++ post := by simp
  have hflatten : (pre ++ chunk :: post).flatten = (pre ++ [chunk]).flatten ++ post.flatten := by
    rw [hreads, List.flatten_append]
  obtain ⟨hstream, -⟩ := Framer.scan_eq_ok_iff.mp hscan
  obtain ⟨d, hd, hat⟩ := exists_settledAt hv (rest ++ post.flatten)
  have hat' : SettledAt register (pre ++ chunk :: post).flatten d result := by
    rw [hflatten, hstream, List.append_assoc]
    exact hat
  have hle : d ≤ (pre ++ [chunk]).flatten.length := by
    rw [hstream, List.length_append]
    exact hd.trans (Nat.le_add_right _ _)
  refine .settled d result hat' ?_
  rintro ⟨d', result', i, hat'', hi, hread⟩
  obtain ⟨rfl, -⟩ := hat'.unique hat''
  have hpos := hat'.pos
  have hge : (pre ++ [chunk]).flatten.length ≤ i := FirstViolation.length_le (hflatten ▸ hi) hscan
  rw [hreads] at hread
  exact not_sameRead (by omega) hge hread

/-- The loop from the state in which the reads `pre` have left it. The induction is on the reads to
come; none of the frames before them has settled the exchange. -/
lemma concludes_readLoop {pre : List (List UInt8)} {parser : FrameParser}
    (hlimit : parser.bufferLimit = 4096)
    (hpre : responseFramer.scan pre.flatten = .ok (frames, parser.buffer))
    (hnone : verdict register frames = none) (hreads : Delivered reads) :
    Concludes register ending (pre ++ reads)
      (readLoop register ending parser frames.length reads) := by
  induction reads generalizing pre parser frames with
  | nil =>
    obtain ⟨buffer, limit⟩ := parser
    cases hlimit
    rw [List.append_nil]
    exact .ended frames buffer hpre hnone
  | cons chunk reads ih =>
    obtain ⟨hchunk, hreads⟩ := List.forall_mem_cons.mp hreads
    have hne : chunk ≠ [] := List.ne_nil_of_length_pos hchunk.1
    have hbuffer : parser.buffer.length ≤ 4 := length_of_more (Framer.next_of_scan_ok hpre)
    have hlim : parser.buffer.length + chunk.length ≤ parser.bufferLimit := by omega
    simp only [readLoop, if_neg hne]
    cases hs : responseFramer.scan (parser.buffer ++ chunk) with
    | error message =>
      rw [FrameParser.feed_of_scan_error hlim hs]
      exact .of_refused hpre hnone hs
    | ok t =>
      obtain ⟨frames', rest⟩ := t
      rw [FrameParser.feed_of_scan_ok hlim hs]
      have hscan : responseFramer.scan (pre ++ [chunk]).flatten =
          .ok (frames ++ frames', rest) := by
        rw [List.flatten_append, List.flatten_singleton, Framer.scan_append, hpre]
        simp only [Except.bind, hs, Except.map]
      have hverdict : verdict register (frames ++ frames') =
          (examine register frames.length frames').verdict := verdict_append_of_eq_none hnone
      simp only
      cases he : examine register frames.length frames' with
      | unanswered m =>
        rw [he] at hverdict
        have hm : m = (frames ++ frames').length := by
          rw [examine_eq_unanswered he, List.length_append]
        have hnext : Concludes register ending ((pre ++ [chunk]) ++ reads)
            (readLoop register ending { parser with buffer := rest } (frames ++ frames').length
              reads) := ih hlimit hscan hverdict hreads
        rw [List.append_assoc, List.singleton_append] at hnext
        rw [hm]
        exact hnext
      | answered f =>
        rw [he] at hverdict
        exact .of_settled hscan hverdict
      | refused e =>
        rw [he] at hverdict
        exact .of_settled hscan hverdict

/-! ### Two ways of cutting one reply -/

lemma Spoiled.exists_settledAt (h : Spoiled register reads) :
    ∃ d result, SettledAt register reads.flatten d result := by
  obtain ⟨d, result, -, hat, -⟩ := h
  exact ⟨d, result, hat⟩

lemma not_settledAt_of_scan {rest : List UInt8}
    (hscan : responseFramer.scan stream = .ok (frames, rest))
    (hnone : verdict register frames = none) : ¬ SettledAt register stream d result := by
  intro hat
  obtain ⟨hstream, hmore⟩ := Framer.scan_eq_ok_iff.mp hscan
  obtain ⟨hv, -⟩ := hat.verdict_eq hstream (ne_frame_of_more hmore)
  rw [hnone] at hv
  cases hv

lemma examine_eq_refused {e : LsxError} (h : examine register n frames = .refused e) :
    e = malformed "Too many unrelated response frames" ∨
      e = malformed "Unexpected SET status while awaiting GET" ∨
      ∃ status, e = .rejected status := by
  induction frames generalizing n with
  | nil => cases h
  | cons frame frames ih =>
    simp only [examine] at h
    split_ifs at h with hn
    · cases h
      exact .inl rfl
    cases frame with
    | get f =>
      cases register with
      | none => exact ih h
      | some g =>
        simp only at h
        split_ifs at h
        exact ih h
    | setStatus f =>
      cases register with
      | none =>
        simp only at h
        split_ifs at h
        cases h
        exact .inr (.inr ⟨f.status, rfl⟩)
      | some g =>
        cases h
        exact .inr (.inl rfl)

lemma message_of_scan {message : String} (h : responseFramer.scan stream = .error message) :
    message = "Response did not start with R" ∨
      ∃ b, message = "Unexpected response marker 0x" ++ hexByte b := by
  obtain ⟨-, rest, x, -, -, -, hbad⟩ := Framer.exists_bad_symbol h
  have hbad' : nextFrame (rest ++ [x]) = .bad message := hbad
  unfold nextFrame at hbad'
  split at hbad'
  · cases hbad'
  split_ifs at hbad'
  · cases hbad'
    exact .inl rfl
  split at hbad'
  · split_ifs at hbad'
    · cases hbad'
      exact .inr ⟨_, rfl⟩
    · split at hbad' <;> cases hbad'
  · cases hbad'

/-- No frame settles an exchange with the error of a refused read. -/
lemma message_ne_of_verdict {message : String} {e : LsxError}
    (hscan : responseFramer.scan stream = .error message)
    (hv : verdict register frames = some (.error e)) (htype : e.type = .malformedResponse) :
    e.message ≠ message := by
  intro hmessage
  have he : examine register 0 frames = .refused e := by
    rw [verdict] at hv
    cases h : examine register 0 frames with
    | unanswered m | answered f =>
      rw [h] at hv
      cases hv
    | refused e' =>
      rw [h] at hv
      cases hv
      rfl
  -- the texts differ within their first twelve characters
  have hchars : message.toList.take 12 ≠ "Too many unr".toList ∧
      message.toList.take 12 ≠ "Unexpected S".toList := by
    rcases message_of_scan hscan with rfl | ⟨b, rfl⟩
    · decide
    · rw [String.toList_append, List.take_append_of_le_length (by decide)]
      decide
  rcases examine_eq_refused he with rfl | rfl | ⟨status, rfl⟩
  · exact hchars.1 (by rw [← hmessage]; rfl)
  · exact hchars.2 (by rw [← hmessage]; rfl)
  · cases htype

/-- An error of the loop leaves the exchange with `write_attempted` set. -/
def raised : Except LsxError (Option GetFrame) → Except LsxError (Option GetFrame)
  | .ok frame => .ok frame
  | .error e => .error { e with writeAttempted := true }

lemma exists_concludes (hreads : Delivered reads) : ∃ result,
    Concludes register ending reads result ∧
      exchange register (.connected reads ending) = raised result := by
  have hloop : Concludes register ending ([] ++ reads)
      (readLoop register ending {} ([] : List ResponseFrame).length reads) :=
    concludes_readLoop rfl Framer.scan_nil rfl hreads
  exact ⟨_, hloop, rfl⟩

lemma raised_ne_raised {message : String}
    (hscan : responseFramer.scan stream = .error message)
    (hat : SettledAt register stream d result) :
    raised result ≠ raised (.error (FrameParser.framingError message)) := by
  obtain ⟨before, frame, after, -, -, hv, -⟩ := hat
  cases result with
  | ok frame => rintro ⟨⟩
  | error e =>
    intro heq
    have hfields := Except.error.inj heq
    rw [LsxError.mk.injEq] at hfields
    exact message_ne_of_verdict hscan hv hfields.1 hfields.2.1

/-- Two exchanges over the same bytes: they end alike exactly if both are spoiled or neither. -/
lemma Concludes.raised_eq_iff (h : Concludes register ending reads result)
    {reads' : List (List UInt8)} (h' : Concludes register ending reads' result')
    (hsame : reads.flatten = reads'.flatten) :
    raised result = raised result' ↔ (Spoiled register reads ↔ Spoiled register reads') := by
  cases h with
  | settled d _ hat hs =>
    cases h' with
    | settled d' _ hat' hs' =>
      obtain ⟨-, rfl⟩ := hat.unique (hsame ▸ hat')
      exact iff_of_true rfl (iff_of_false hs hs')
    | refused message hscan hspoiled =>
      have hs' : Spoiled register reads' :=
        hspoiled.resolve_right fun hnone => hnone d _ (hsame ▸ hat)
      refine iff_of_false ?_ fun hiff => hs (hiff.mpr hs')
      exact raised_ne_raised hscan (hsame ▸ hat)
    | ended frames rest hscan hnone =>
      exact absurd (hsame ▸ hat) (not_settledAt_of_scan hscan hnone)
  | refused message hscan hspoiled =>
    cases h' with
    | settled d' _ hat' hs' =>
      have hs : Spoiled register reads :=
        hspoiled.resolve_right fun hnone => hnone d' _ (hsame.symm ▸ hat')
      refine iff_of_false ?_ fun hiff => hs' (hiff.mp hs)
      exact (raised_ne_raised hscan (hsame.symm ▸ hat')).symm
    | refused message' hscan' hspoiled' =>
      rw [hsame, hscan'] at hscan
      cases hscan
      refine iff_of_true rfl ⟨fun hs => ?_, fun hs => ?_⟩
      · obtain ⟨d, v, hat⟩ := hs.exists_settledAt
        exact hspoiled'.resolve_right fun hnone => hnone d v (hsame ▸ hat)
      · obtain ⟨d, v, hat⟩ := hs.exists_settledAt
        exact hspoiled.resolve_right fun hnone => hnone d v (hsame.symm ▸ hat)
    | ended frames rest hscan' hnone =>
      rw [hsame, hscan'] at hscan
      cases hscan
  | ended frames rest hscan hnone =>
    have hs : ¬ Spoiled register reads := by
      intro hs
      obtain ⟨d, v, hat⟩ := hs.exists_settledAt
      exact not_settledAt_of_scan hscan hnone hat
    cases h' with
    | settled d' _ hat' hs' =>
      exact absurd (hsame.symm ▸ hat') (not_settledAt_of_scan hscan hnone)
    | refused message hscan' hspoiled =>
      rw [hsame, hscan'] at hscan
      cases hscan
    | ended frames' rest' hscan' hnone' =>
      rw [hsame, hscan'] at hscan
      cases hscan
      refine iff_of_true rfl (iff_of_false hs fun hs' => ?_)
      obtain ⟨d, v, hat⟩ := hs'.exists_settledAt
      exact not_settledAt_of_scan hscan' hnone' hat

/-- One reply, cut into reads in two ways, has the same outcome exactly if in both or in neither
the read that completes the settling frame also holds the first byte that violates the grammar.
And an exchange that the beginning of the reply answers succeeds exactly if it is not spoiled
so. -/
theorem exchange_eq_iff (register : Option UInt8) (ending : Ending) {reads' : List (List UInt8)}
    (hreads : Delivered reads) (hreads' : Delivered reads')
    (hsame : reads.flatten = reads'.flatten) :
    (exchange register (.connected reads ending) = exchange register (.connected reads' ending) ↔
      (Spoiled register reads ↔ Spoiled register reads')) ∧
    ∀ d answer, SettledAt register reads.flatten d (.ok answer) →
      (exchange register (.connected reads ending) = .ok answer ↔ ¬ Spoiled register reads) := by
  obtain ⟨result, hends, heq⟩ : ∃ result, Concludes register ending reads result ∧ _ :=
    exists_concludes hreads
  obtain ⟨result', hends', heq'⟩ : ∃ result, Concludes register ending reads' result ∧ _ :=
    exists_concludes hreads'
  rw [heq, heq']
  refine ⟨hends.raised_eq_iff hends' hsame, ?_⟩
  intro d answer hat
  cases hends with
  | settled d' _ hat' hs =>
    obtain ⟨-, rfl⟩ := hat.unique hat'
    exact iff_of_true rfl hs
  | refused message hscan hspoiled =>
    have hs : Spoiled register reads := hspoiled.resolve_right fun hnone => hnone d _ hat
    exact iff_of_false (by rintro ⟨⟩) (not_not.mpr hs)
  | ended frames rest hscan hnone =>
    exact absurd hat (not_settledAt_of_scan hscan hnone)

/-- The acknowledgement of a SET and one byte more, in one read and in two. -/
theorem not_exchange_eq_trailing :
    Delivered [[0x52, 0x11, 0xFF, 0x00]] ∧ Delivered [[0x52, 0x11, 0xFF], [0x00]] ∧
    [[0x52, 0x11, 0xFF, 0x00]].flatten = [[0x52, 0x11, 0xFF], [(0x00 : UInt8)]].flatten ∧
    exchange none (.connected [[0x52, 0x11, 0xFF, 0x00]] .eof) ≠
      exchange none (.connected [[0x52, 0x11, 0xFF], [0x00]] .eof) ∧
    exchange none (.connected [[0x52, 0x11, 0xFF], [0x00]] .eof) = .ok none := by
  refine ⟨?_, ?_, rfl, ?_, rfl⟩
  · simp [Delivered]
  · simp [Delivered]
  · rintro ⟨⟩

/-- The one read is spoiled, the two are not. -/
theorem exchange_eq_iff_trailing :
    Spoiled none [[0x52, 0x11, 0xFF, 0x00]] ∧ ¬ Spoiled none [[0x52, 0x11, 0xFF], [0x00]] := by
  have hone : Delivered [[0x52, 0x11, 0xFF, 0x00]] := by simp [Delivered]
  have htwo : Delivered [[0x52, 0x11, 0xFF], [0x00]] := by simp [Delivered]
  have hat : SettledAt none [0x52, 0x11, 0xFF, 0x00] 3 (.ok none) :=
    ⟨[], .setStatus ⟨0x11⟩, [0x00], rfl, rfl, rfl, rfl⟩
  obtain ⟨hsame, hcut⟩ := exchange_eq_iff none .eof htwo hone rfl
  have hnot : ¬ Spoiled none [[0x52, 0x11, 0xFF], [0x00]] := (hcut 3 none hat).mp rfl
  refine ⟨?_, hnot⟩
  by_contra hspoiled
  cases hsame.mpr (iff_of_false hnot hspoiled)

/-! ### A reply of complete frames -/

/-- The frame ends the wait of an exchange: any status, or the answer to the GET. -/
def settles (register : Option UInt8) : ResponseFrame → Bool
  | .get f => register = some f.register
  | .setStatus _ => true

/-- What an exchange ends with, from the frames of its reply, the bytes of an incomplete frame
after them, and the end of the stream. -/
def replyOutcome (register : Option UInt8) (frames : List ResponseFrame) (rest : List UInt8)
    (ending : Ending) : Except LsxErrorType (Option GetFrame) :=
  match (frames.take 16).find? (settles register) with
  | some (.get f) => .ok (some f)
  | some (.setStatus f) =>
    if register ≠ none then .error .malformedResponse
    else if f.status = 0x11 then .ok none
    else .error (.commandRejected f.status)
  | none =>
    if 17 ≤ frames.length ∨ rest ≠ [] then .error .malformedResponse
    else if ending = .deadline then .error .responseTimeout
    else .error .connectionLost

/-- What examining a settling frame gives. -/
def settled (register : Option UInt8) : ResponseFrame → Examined
  | .get f => .answered (some f)
  | .setStatus f =>
    if register ≠ none then .refused (malformed "Unexpected SET status while awaiting GET")
    else if f.status = Wire.setOkStatus then .answered none
    else .refused (.rejected f.status)

lemma examine_cons_of_le {frame : ResponseFrame} (hn : n + 1 ≤ maxFramesPerExchange) :
    examine register n (frame :: frames) =
      if settles register frame then settled register frame
      else examine register (n + 1) frames := by
  have hlimit : ¬ n + 1 > maxFramesPerExchange := by omega
  cases frame with
  | get f =>
    cases register with
    | none => simp [examine, hlimit, settles]
    | some g =>
      by_cases hg : g = f.register
      · simp [examine, hlimit, settles, settled, hg]
      · have hg' : f.register ≠ g := fun h => hg h.symm
        simp [examine, hlimit, settles, hg, hg']
  | setStatus f =>
    cases register with
    | none =>
      by_cases hf : f.status = Wire.setOkStatus <;>
        simp [examine, hlimit, settles, settled, hf]
    | some g => simp [examine, hlimit, settles, settled]

/-- The frames that may still be examined either settle the exchange, or there are too many of
them, or they are passed over. -/
lemma examine_eq (hn : n ≤ maxFramesPerExchange) :
    examine register n frames =
      match (frames.take (maxFramesPerExchange - n)).find? (settles register) with
      | some frame => settled register frame
      | none =>
        if maxFramesPerExchange < n + frames.length then
          .refused (malformed "Too many unrelated response frames")
        else .unanswered (n + frames.length) := by
  induction frames generalizing n with
  | nil => simp [examine, not_lt.mpr hn]
  | cons frame frames ih =>
    rcases Nat.lt_or_eq_of_le hn with hlt | rfl
    · have htake : (frame :: frames).take (maxFramesPerExchange - n) =
          frame :: frames.take (maxFramesPerExchange - (n + 1)) := by
        rw [show maxFramesPerExchange - n = (maxFramesPerExchange - (n + 1)) + 1 by omega,
          List.take_succ_cons]
      rw [examine_cons_of_le hlt, htake, List.find?_cons]
      cases settles register frame with
      | true => rfl
      | false =>
        have hcount : n.succ + frames.length = n + (frames.length + 1) := by omega
        rw [ih hlt, List.length_cons, hcount]
        rfl
    · simp [examine]

/-- What settles the frames of a reply, or that nothing does. -/
lemma type_of_verdict (hv : verdict register frames = some result) (rest : List UInt8) :
    result.mapError LsxError.type = replyOutcome register frames rest ending := by
  rw [verdict, examine_eq (Nat.zero_le _)] at hv
  rw [replyOutcome]
  simp only [maxFramesPerExchange, Nat.sub_zero, Nat.zero_add] at hv
  cases hf : (frames.take 16).find? (settles register) with
  | some frame =>
    rw [hf] at hv
    cases frame with
    | get f =>
      cases hv
      rfl
    | setStatus f =>
      simp only [settled] at hv ⊢
      split_ifs at hv ⊢ <;> first | contradiction | (cases hv; rfl)
  | none =>
    rw [hf] at hv
    simp only at hv ⊢
    split_ifs at hv with hmany
    · cases hv
      rw [if_pos (.inl hmany)]
      rfl
    · cases hv

lemma type_of_not_verdict (hnone : verdict register frames = none) (rest : List UInt8)
    (hending : ending = .eof ∨ ending = .deadline) :
    replyOutcome register frames rest ending =
      .error (endError { buffer := rest } ending).type := by
  rw [verdict, examine_eq (Nat.zero_le _)] at hnone
  rw [replyOutcome]
  simp only [maxFramesPerExchange, Nat.sub_zero, Nat.zero_add] at hnone
  cases hf : (frames.take 16).find? (settles register) with
  | some frame =>
    rw [hf] at hnone
    cases frame with
    | get f => cases hnone
    | setStatus f =>
      simp only [settled] at hnone
      split_ifs at hnone <;> cases hnone
  | none =>
    rw [hf] at hnone
    simp only at hnone ⊢
    split_ifs at hnone with hmany
    · cases hnone
    · have hfew : ¬ 17 ≤ frames.length := by omega
      cases rest with
      | nil => rcases hending with rfl | rfl <;> simp [endError, hfew, FrameParser.hasPendingData]
      | cons b rest =>
        rcases hending with rfl | rfl <;>
          simp [endError, FrameParser.hasPendingData, malformed]

/-- The outcome of one exchange whose reply consists of complete frames and perhaps the beginning
of another: how the bytes are cut into reads plays no part. Every error of a connected exchange
says that the request was written, and no other does. -/
theorem exchange_of_frames (register : Option UInt8) {rest : List UInt8}
    (hreads : Delivered reads)
    (hstream : reads.flatten = frames.flatMap ResponseFrame.bytes ++ rest)
    (hrest : FrameParser.ProperPrefix rest) (hending : ending = .eof ∨ ending = .deadline) :
    (exchange register (.connected reads ending)).mapError LsxError.type =
        replyOutcome register frames rest ending ∧
      (∀ e, exchange register (.connected reads ending) = .error e → e.writeAttempted = true) ∧
      ∀ (t : Transcript) (e : LsxError), ¬ t.Wrote → exchange register t = .error e →
        e.writeAttempted = false := by
  have hscan : responseFramer.scan reads.flatten = .ok (frames, rest) :=
    Framer.scan_eq_ok_iff.mpr ⟨hstream, nextFrame_more_iff.mpr hrest⟩
  obtain ⟨result, hends, heq⟩ : ∃ result, Concludes register ending reads result ∧ _ :=
    exists_concludes hreads
  refine ⟨?_, ?_, ?_⟩
  · have htype : (raised result).mapError LsxError.type = result.mapError LsxError.type := by
      cases result <;> rfl
    rw [heq, htype]
    cases hends with
    | settled d _ hat =>
      have hmore := ne_frame_of_more (nextFrame_more_iff.mpr hrest)
      exact type_of_verdict (hat.verdict_eq hstream hmore).1 rest
    | refused message hrefused =>
      rw [hscan] at hrefused
      cases hrefused
    | ended frames' rest' hscan' hnone =>
      rw [hscan] at hscan'
      cases hscan'
      exact (type_of_not_verdict hnone rest hending).symm
  · intro e he
    rw [heq] at he
    cases result with
    | ok frame => cases he
    | error e' =>
      cases he
      rfl
  · intro t e ht he
    cases t with
    | closed =>
      cases he
      rfl
    | connectFailed failure =>
      cases he
      rfl
    | connected reads' ending' => exact absurd trivial ht

/-- An answer for another register, the acknowledgement, and a byte more, in three reads. -/
theorem exchange_of_frames_acknowledged :
    (exchange none (.connected [[0x52, 0x25, 0x81], [0x28, 0x01, 0x52, 0x11], [0xFF, 0x52]]
      .deadline)).mapError LsxError.type = .ok none := by
  have hreads : Delivered [[0x52, 0x25, 0x81], [0x28, 0x01, 0x52, 0x11], [0xFF, 0x52]] := by
    simp [Delivered]
  have hstream : [[0x52, 0x25, 0x81], [0x28, 0x01, 0x52, 0x11], [0xFF, 0x52]].flatten =
      [ResponseFrame.get ⟨0x25, 0x28, 0x01⟩, .setStatus ⟨0x11⟩].flatMap ResponseFrame.bytes ++
        [0x52] := rfl
  have hrest : FrameParser.ProperPrefix [0x52] := ⟨.setStatus ⟨0⟩, by decide, by decide⟩
  exact (exchange_of_frames none hreads hstream hrest (.inr rfl)).1

end LsxClient

end KefLsx
