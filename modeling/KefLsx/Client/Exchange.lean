import KefLsx.Protocol.FrameParser

/-!
# One exchange of the client

`LsxClient._async_exchange`: connect, write the request, read chunks until a frame answers it.
What the network and the speaker do in one exchange is a `Transcript`: whether the connection is
established, the chunks that `reader.read` returns, and how the reading ends if no frame answers
first. The outcome is a function of the transcript and of the register that is asked for; the
time limits of the exchange only decide which transcripts occur.

The runtime sees the client through the three calls of `Client`.
-/

namespace KefLsx

open Framing

/-! ### Transcripts -/

/-- How `asyncio.open_connection` fails. The errno `ETIMEDOUT` never reaches `osError`: an `OSError`
with it is a `TimeoutError`, and so a `timeout`. -/
inductive ConnectFailure where
  | timeout
  | refused
  | osError (errno : Option ℤ)
deriving DecidableEq

/-- How the reading ends when no frame has answered: `read` returns no bytes, the response
deadline passes, or the transport fails. -/
inductive Ending where
  | eof
  | deadline
  | osError
deriving DecidableEq

/-- What happens in one exchange. -/
inductive Transcript where
  /-- `async_close` took effect before the exchange. -/
  | closed
  | connectFailed (failure : ConnectFailure)
  | connected (reads : List (List UInt8)) (ending : Ending)
deriving DecidableEq

namespace LsxClient

/-- `_MAX_FRAMES_PER_EXCHANGE`. -/
def maxFramesPerExchange : ℕ := 16

/-- `errno.ECONNREFUSED`, and its Windows value. -/
def refusedErrnos : List ℤ := [111, 10061]

def connectError : ConnectFailure → LsxError
  | .timeout => { type := .connectTimeout, message := "Timed out connecting to KEF LSX" }
  | .refused => { type := .connectRefused, message := "KEF LSX refused the TCP connection" }
  | .osError errno =>
    if errno.any (· ∈ refusedErrnos) then
      { type := .connectRefused, message := "KEF LSX refused the TCP connection" }
    else
      { type := .connectionLost, message := "Unable to establish the KEF LSX connection" }

def malformed (message : String) : LsxError :=
  { type := .malformedResponse, message := message }

/-- The error of an exchange whose reading ended before an answer. -/
def endError (parser : FrameParser) : Ending → LsxError
  | .eof =>
    if parser.hasPendingData then malformed "Connection ended with a partial response"
    else
      { type := .connectionLost, message := "Connection ended before the expected response" }
  | .deadline =>
    if parser.hasPendingData then malformed "Timed out with a partial response"
    else
      { type := .responseTimeout, message := "Timed out waiting for KEF LSX response" }
  | .osError =>
    { type := .connectionLost, message := "KEF LSX connection was lost during exchange" }

/-- What the frames of one read leave an exchange with. -/
inductive Examined where
  /-- No answer among them; so many frames have been examined so far. -/
  | unanswered (framesExamined : ℕ)
  | answered (frame : Option GetFrame)
  | refused (error : LsxError)

/-- The `for frame in parser.feed(chunk)` loop. -/
def examine (expectedRegister : Option UInt8) : ℕ → List ResponseFrame → Examined
  | n, [] => .unanswered n
  | n, frame :: frames =>
    if n + 1 > maxFramesPerExchange then
      .refused (malformed "Too many unrelated response frames")
    else
      match expectedRegister, frame with
      | some register, .get f =>
        if f.register = register then .answered (some f)
        else examine expectedRegister (n + 1) frames
      | some _, .setStatus _ =>
        .refused (malformed "Unexpected SET status while awaiting GET")
      | none, .get _ => examine expectedRegister (n + 1) frames
      | none, .setStatus f =>
        if f.status ≠ Wire.setOkStatus then .refused (.rejected f.status)
        else .answered none

/-- The `while True` loop over the reads; a read of no bytes is the end of the stream. -/
def readLoop (expectedRegister : Option UInt8) (ending : Ending) :
    FrameParser → ℕ → List (List UInt8) → Except LsxError (Option GetFrame)
  | parser, _, [] => .error (endError parser ending)
  | parser, n, chunk :: chunks =>
    if chunk = [] then .error (endError parser .eof)
    else
      match parser.feed chunk with
      | (.error e, _) => .error e
      | (.ok frames, parser) =>
        match examine expectedRegister n frames with
        | .refused e => .error e
        | .answered frame => .ok frame
        | .unanswered n => readLoop expectedRegister ending parser n chunks

/-- The reads that the loop makes: it makes none after the one that ends it. -/
def readsMade (expectedRegister : Option UInt8) :
    FrameParser → ℕ → List (List UInt8) → List (List UInt8)
  | _, _, [] => []
  | parser, n, chunk :: chunks =>
    if chunk = [] then []
    else
      match parser.feed chunk with
      | (.error _, _) => [chunk]
      | (.ok frames, parser) =>
        match examine expectedRegister n frames with
        | .unanswered n => chunk :: readsMade expectedRegister parser n chunks
        | _ => [chunk]

/-- `_async_exchange`. An `LsxError` raised inside the exchange leaves it with
`write_attempted` set to whether `writer.write` had been called. -/
def exchange (expectedRegister : Option UInt8) : Transcript → Except LsxError (Option GetFrame)
  | .closed => .error { type := .clientClosed, message := "KEF LSX client is closed" }
  | .connectFailed failure => .error { connectError failure with writeAttempted := false }
  | .connected reads ending =>
    match readLoop expectedRegister ending {} 0 reads with
    | .ok frame => .ok frame
    | .error e => .error { e with writeAttempted := true }

/-- `async_get_source`. -/
def asyncGetSource (t : Transcript) : Except LsxError SourceStatus :=
  match exchange (some Wire.sourceRegister) t with
  | .error e => .error e
  | .ok none =>
    .error { malformed "Source GET returned no value frame" with writeAttempted := true }
  | .ok (some frame) =>
    match decodeSourceValue frame.value.toNat with
    | .ok status => .ok status
    | .error e => .error { malformed e.message with writeAttempted := true }

/-- `async_get_volume`. -/
def asyncGetVolume (t : Transcript) : Except LsxError VolumeStatus :=
  match exchange (some Wire.volumeRegister) t with
  | .error e => .error e
  | .ok none =>
    .error { malformed "Volume GET returned no value frame" with writeAttempted := true }
  | .ok (some frame) =>
    match decodeVolumeValue frame.value.toNat with
    | .ok status => .ok status
    | .error e => .error { malformed e.message with writeAttempted := true }

/-- `async_set_source` and `async_set_volume`, once their request is encoded. -/
def asyncSet (t : Transcript) : Except LsxError Unit :=
  match exchange none t with
  | .error e => .error e
  | .ok _ => .ok ()

/-! ### A GET is never rejected -/

lemma isRejection_endError {parser : FrameParser} {ending : Ending} :
    (endError parser ending).isRejection = false := by
  cases ending <;> simp only [endError] <;> first | rfl | (split <;> rfl)

lemma isRejection_connectError {failure : ConnectFailure} :
    (connectError failure).isRejection = false := by
  cases failure with
  | osError errno => simp only [connectError]; split <;> rfl
  | _ => rfl

lemma isRejection_examine {register : UInt8} {n : ℕ} {frames : List ResponseFrame} {e : LsxError}
    (h : examine (some register) n frames = .refused e) : e.isRejection = false := by
  induction frames generalizing n with
  | nil => cases h
  | cons frame frames ih =>
    simp only [examine] at h
    split at h
    · cases h
      rfl
    · cases frame with
      | get f =>
        simp only at h
        split at h
        · cases h
        · exact ih h
      | setStatus f =>
        cases h
        rfl

lemma isRejection_readLoop {register : UInt8} {ending : Ending} {parser : FrameParser} {n : ℕ}
    {reads : List (List UInt8)} {e : LsxError}
    (h : readLoop (some register) ending parser n reads = .error e) : e.isRejection = false := by
  induction reads generalizing parser n with
  | nil =>
    cases h
    exact isRejection_endError
  | cons chunk chunks ih =>
    simp only [readLoop] at h
    split at h
    · cases h
      exact isRejection_endError
    · split at h
      · rename_i e' parser' hfeed
        cases h
        exact FrameParser.isRejection_feed hfeed
      · split at h
        · rename_i e' hexamine
          cases h
          exact isRejection_examine hexamine
        · cases h
        · exact ih h

lemma isRejection_exchange {register : UInt8} {t : Transcript} {e : LsxError}
    (h : exchange (some register) t = .error e) : e.isRejection = false := by
  cases t with
  | closed =>
    cases h
    rfl
  | connectFailed failure =>
    cases h
    exact isRejection_connectError
  | connected reads ending =>
    simp only [exchange] at h
    split at h
    · cases h
    · rename_i e' hloop
      have hfalse : e'.isRejection = false := isRejection_readLoop hloop
      cases h
      exact hfalse

/-- `async_get_volume` raises no `CommandRejectedError`. -/
theorem isRejection_asyncGetVolume {t : Transcript} {e : LsxError}
    (h : asyncGetVolume t = .error e) : e.isRejection = false := by
  simp only [asyncGetVolume] at h
  split at h
  · rename_i e' hexchange
    cases h
    exact isRejection_exchange hexchange
  · cases h
    rfl
  · split at h
    · cases h
    · cases h
      rfl

end LsxClient

/-! ### The client as the runtime uses it -/

/-- A client whose calls end, for every behaviour `ρ` of its peer, by returning or by an
`LsxError`; only a SET is rejected. -/
class Client (ρ : Type) where
  asyncGetSource : ρ → Except LsxError SourceStatus
  asyncGetVolume : ρ → Except LsxError VolumeStatus
  asyncSet : ρ → Except LsxError Unit
  isRejection_asyncGetVolume : ∀ r e, asyncGetVolume r = .error e → e.isRejection = false

instance : Client Transcript where
  asyncGetSource := LsxClient.asyncGetSource
  asyncGetVolume := LsxClient.asyncGetVolume
  asyncSet := LsxClient.asyncSet
  isRejection_asyncGetVolume _ _ := LsxClient.isRejection_asyncGetVolume

namespace Transcript

/-- The exchange is answered by one frame, in one read. -/
def answered (frame : ResponseFrame) : Transcript := .connected [frame.bytes] .eof

/-- The source register has this value. -/
def source (value : UInt8) : Transcript := answered (.get ⟨Wire.sourceRegister, value, 0x0B⟩)

/-- The volume register has this value. -/
def volume (value : UInt8) : Transcript := answered (.get ⟨Wire.volumeRegister, value, 0x0B⟩)

/-- A SET is answered by this status. -/
def status (value : UInt8) : Transcript := answered (.setStatus ⟨value⟩)

/-! ### What was written and what was received -/

/-- The request was handed to `writer.write`. -/
def Wrote : Transcript → Prop
  | .connected _ _ => True
  | _ => False

instance (t : Transcript) : Decidable t.Wrote := by
  cases t <;> unfold Wrote <;> infer_instance

/-- The bytes that a SET has read when its exchange ends. -/
def bytesRead : Transcript → List UInt8
  | .connected reads _ => (LsxClient.readsMade none {} 0 reads).flatten
  | _ => []

/-- `reader.read(1024)` returns 1024 bytes at most. -/
def ReadsFit : Transcript → Prop
  | .connected reads _ => ∀ read ∈ reads, read.length ≤ 1024
  | _ => True

instance : (t : Transcript) → Decidable t.ReadsFit
  | .connected reads _ => inferInstanceAs (Decidable (∀ read ∈ reads, read.length ≤ 1024))
  | .closed => inferInstanceAs (Decidable True)
  | .connectFailed _ => inferInstanceAs (Decidable True)

/-- `52 11 FF` -/
def ack : ResponseFrame := .setStatus ⟨Wire.setOkStatus⟩

/-- The status frame `52 11 FF` stands in what the SET has read, after these frames and in whatever
reads it came. -/
def AckAfter (before : List ResponseFrame) (t : Transcript) : Prop :=
  (before ++ [ack]).flatMap ResponseFrame.bytes <+: t.bytesRead

/-- The SET received the status frame `52 11 FF`. -/
def ReceivedAck (t : Transcript) : Prop := ∃ before, t.AckAfter before

/-- The exchange fails although the status frame `52 11 FF` was received: a byte that violates the
grammar was read with it, or a rejection or sixteen frames stand before it. -/
def AckSpoiled (t : Transcript) : Prop :=
  ∃ before, t.AckAfter before ∧ ack ∉ before ∧
    ((∃ i, FrameParser.FirstViolation t.bytesRead i) ∨
      (∃ status, .setStatus status ∈ before) ∨ LsxClient.maxFramesPerExchange ≤ before.length)

/-- Sixteen frames are examined at most, `n` of them before these: the first SET status among
them is `52 11 FF`. -/
def AckWithin (n : ℕ) (frames : List ResponseFrame) : Prop :=
  ∃ before after, frames = before ++ ack :: after ∧
    (∀ frame ∈ before, ∃ f, frame = .get f) ∧ n + before.length < LsxClient.maxFramesPerExchange

/-! ### What an exchange tells about its transcript -/

lemma not_ackWithin_nil {n : ℕ} : ¬ AckWithin n [] := by
  rintro ⟨before, after, h, -⟩
  simp at h

/-- A GET answer is passed over while awaiting a status. -/
lemma ackWithin_get_cons {n : ℕ} {f : GetFrame} {frames : List ResponseFrame} :
    AckWithin n (.get f :: frames) ↔
      n < LsxClient.maxFramesPerExchange ∧ AckWithin (n + 1) frames := by
  constructor
  · rintro ⟨before, after, h, hget, hn⟩
    cases before with
    | nil => cases h
    | cons g before =>
      obtain ⟨rfl, rfl⟩ := List.cons.inj h
      simp only [List.length_cons] at hn
      exact ⟨by omega, before, after, rfl, fun x hx => hget x (by simp [hx]), by omega⟩
  · rintro ⟨-, before, after, rfl, hget, hn⟩
    refine ⟨.get f :: before, after, rfl, ?_, by simp only [List.length_cons]; omega⟩
    intro frame hframe
    rcases List.mem_cons.mp hframe with rfl | hframe
    · exact ⟨f, rfl⟩
    · exact hget frame hframe

/-- The first status decides. -/
lemma ackWithin_setStatus_cons {n : ℕ} {f : SetStatusFrame} {frames : List ResponseFrame} :
    AckWithin n (.setStatus f :: frames) ↔
      n < LsxClient.maxFramesPerExchange ∧ f.status = Wire.setOkStatus := by
  constructor
  · rintro ⟨before, after, h, hget, hn⟩
    cases before with
    | nil =>
      cases h
      exact ⟨by simpa using hn, rfl⟩
    | cons g before =>
      obtain ⟨f', rfl⟩ := hget g (by simp)
      cases h
  · rintro ⟨hn, hf⟩
    refine ⟨[], frames, ?_, by simp, by simpa using hn⟩
    cases f
    cases hf
    rfl

/-- What the frames of one read decide about the acknowledgement. -/
lemma ackWithin_append_iff {n : ℕ} {frames rest : List ResponseFrame} :
    AckWithin n (frames ++ rest) ↔
      match LsxClient.examine none n frames with
      | .refused _ => False
      | .answered _ => True
      | .unanswered m => AckWithin m rest := by
  induction frames generalizing n with
  | nil => exact Iff.rfl
  | cons frame frames ih =>
    by_cases hn : n + 1 > LsxClient.maxFramesPerExchange
    · have hlt : ¬ n < LsxClient.maxFramesPerExchange := by omega
      cases frame <;>
        simp [LsxClient.examine, hn, hlt, ackWithin_get_cons, ackWithin_setStatus_cons]
    · have hlt : n < LsxClient.maxFramesPerExchange := by omega
      cases frame with
      | get f =>
        rw [List.cons_append, ackWithin_get_cons, ih]
        simp [LsxClient.examine, hn, hlt]
      | setStatus f =>
        rw [List.cons_append, ackWithin_setStatus_cons]
        by_cases hf : f.status = Wire.setOkStatus <;>
          simp [LsxClient.examine, hn, hlt, hf]

/-- What a stream acknowledges after its first frames is what its other frames do. -/
lemma ackWithin_of_scan {stream rest : List UInt8} {n : ℕ} {earlier new : List ResponseFrame}
    (h : responseFramer.scan stream = .ok (earlier ++ new, rest)) :
    (∃ frames rest, responseFramer.scan stream = .ok (earlier ++ frames, rest) ∧
      AckWithin n frames) ↔ AckWithin n new := by
  constructor
  · rintro ⟨frames, rest', hscan, hack⟩
    obtain ⟨hframes, -⟩ := Prod.mk.inj (Except.ok.inj (h.symm.trans hscan))
    rwa [List.append_cancel_left hframes]
  · exact fun hack => ⟨new, rest, h, hack⟩

/-- Nothing more is acknowledged where nothing more is read. -/
lemma not_ackWithin_of_unread {stream rest : List UInt8} {n : ℕ} {earlier : List ResponseFrame}
    (hstream : responseFramer.scan stream = .ok (earlier, rest)) :
    ¬ ∃ frames rest, responseFramer.scan (stream ++ ([] : List (List UInt8)).flatten) =
      .ok (earlier ++ frames, rest) ∧ AckWithin n frames := by
  rw [List.flatten_nil, List.append_nil,
    ackWithin_of_scan (hstream.trans (by rw [List.append_nil]))]
  exact not_ackWithin_nil

/-- The frames of the beginning of a stream are the first ones of the stream. -/
lemma frames_prefix_of_scan {stream more rest rest' : List UInt8}
    {frames frames' : List ResponseFrame} (h : responseFramer.scan stream = .ok (frames, rest))
    (h' : responseFramer.scan (stream ++ more) = .ok (frames', rest')) : frames <+: frames' := by
  rw [Framer.scan_append, h] at h'
  simp only [Except.bind] at h'
  cases hs : responseFramer.scan (rest ++ more) with
  | error message =>
    rw [hs] at h'
    cases h'
  | ok u =>
    rw [hs] at h'
    cases h'
    exact List.prefix_append _ _

/-- Frames that leave the exchange open hand it on to those of the next reads. -/
lemma ackWithin_append_of_scan {stream more rest : List UInt8} {n m : ℕ}
    {earlier new : List ResponseFrame}
    (hstream : responseFramer.scan stream = .ok (earlier ++ new, rest))
    (hopen : LsxClient.examine none n new = .unanswered m) :
    (∃ frames rest, responseFramer.scan (stream ++ more) = .ok (earlier ++ new ++ frames, rest) ∧
      AckWithin m frames) ↔
    ∃ frames rest, responseFramer.scan (stream ++ more) = .ok (earlier ++ frames, rest) ∧
      AckWithin n frames := by
  have hverdict (frames : List ResponseFrame) :
      AckWithin n (new ++ frames) ↔ AckWithin m frames := by
    rw [ackWithin_append_iff, hopen]
  constructor
  · rintro ⟨frames, rest', hscan, hack⟩
    exact ⟨new ++ frames, rest', hscan.trans (by rw [List.append_assoc]), (hverdict _).mpr hack⟩
  · rintro ⟨frames, rest', hscan, hack⟩
    have hpre : earlier ++ new <+: earlier ++ frames := frames_prefix_of_scan hstream hscan
    obtain ⟨later, rfl⟩ := (List.prefix_append_right_inj earlier).mp hpre
    exact ⟨later, rest', hscan.trans (by rw [List.append_assoc]), (hverdict _).mp hack⟩

/-- The reading loop of a SET succeeds exactly when what it has read is readable and holds the
acknowledgement in time. The induction is on the reads to come; `earlier` are the frames that were
examined before them. -/
lemma readLoop_none_isOk {ending : Ending} {parser : FrameParser} {n : ℕ} {stream : List UInt8}
    {earlier : List ResponseFrame} {reads : List (List UInt8)}
    (hlimit : parser.bufferLimit = 4096)
    (hstream : responseFramer.scan stream = .ok (earlier, parser.buffer))
    (hreads : ∀ read ∈ reads, read.length ≤ 1024) :
    (LsxClient.readLoop none ending parser n reads).isOk ↔ ∃ frames rest,
      responseFramer.scan (stream ++ (LsxClient.readsMade none parser n reads).flatten) =
        .ok (earlier ++ frames, rest) ∧ AckWithin n frames := by
  induction reads generalizing stream parser n earlier with
  | nil => exact iff_of_false Bool.false_ne_true (not_ackWithin_of_unread hstream)
  | cons chunk reads ih =>
    obtain ⟨hchunk, hreads⟩ := List.forall_mem_cons.mp hreads
    by_cases hc : chunk = []
    · simp only [LsxClient.readLoop, LsxClient.readsMade, if_pos hc]
      exact iff_of_false Bool.false_ne_true (not_ackWithin_of_unread hstream)
    have hbuffer : parser.buffer.length ≤ 4 := length_of_more (Framer.next_of_scan_ok hstream)
    have hlim : parser.buffer.length + chunk.length ≤ parser.bufferLimit := by omega
    have happend : responseFramer.scan (stream ++ chunk) =
        (responseFramer.scan (parser.buffer ++ chunk)).map fun t => (earlier ++ t.1, t.2) := by
      rw [Framer.scan_append, hstream]
      rfl
    simp only [LsxClient.readLoop, LsxClient.readsMade, if_neg hc]
    cases hs : responseFramer.scan (parser.buffer ++ chunk) with
    | error message =>
      rw [hs] at happend
      simp only [FrameParser.feed_of_scan_error hlim hs, FrameParser.fail]
      refine iff_of_false Bool.false_ne_true ?_
      rintro ⟨frames, rest, hscan, -⟩
      rw [List.flatten_singleton, happend] at hscan
      cases hscan
    | ok u =>
      obtain ⟨new, buffer⟩ := u
      rw [hs] at happend
      simp only [FrameParser.feed_of_scan_ok hlim hs]
      have hverdict : AckWithin n (new ++ []) ↔ _ := ackWithin_append_iff
      rw [List.append_nil] at hverdict
      cases he : LsxClient.examine none n new with
      | refused e =>
        rw [he] at hverdict
        rw [List.flatten_singleton, ackWithin_of_scan happend]
        exact iff_of_false Bool.false_ne_true hverdict.mp
      | answered frame =>
        rw [he] at hverdict
        rw [List.flatten_singleton, ackWithin_of_scan happend]
        exact iff_of_true rfl (hverdict.mpr trivial)
      | unanswered m =>
        rw [List.flatten_cons, ← List.append_assoc, ← ackWithin_append_of_scan happend he]
        exact ih hlimit happend hreads

/-- A stream that is readable up to its end has no violation. -/
lemma not_firstViolation {stream rest : List UInt8} {frames : List ResponseFrame} {i : ℕ}
    (h : responseFramer.scan stream = .ok (frames, rest)) :
    ¬ FrameParser.FirstViolation stream i := by
  intro hviolation
  obtain ⟨-, -, message, herror⟩ := hviolation.scan
  obtain ⟨u, hu⟩ := Framer.scan_ok_of_prefix (List.take_prefix (i + 1) stream) h
  rw [herror] at hu
  cases hu

/-- A prefix that ends with its first acknowledgement ends before any other. -/
lemma eq_of_first_ack {before before' after : List ResponseFrame}
    (hpre : before' ++ [ack] <+: before ++ ack :: after) (hfirst : ack ∉ before')
    (hnot : ack ∉ before) : before' = before := by
  obtain ⟨more, hmore⟩ := hpre
  rw [List.append_assoc, List.singleton_append] at hmore
  rcases List.append_eq_append_iff.mp hmore with ⟨l, rfl, hl⟩ | ⟨l, rfl, hl⟩
  · cases l with
    | nil => simp
    | cons frame l =>
      obtain ⟨rfl, -⟩ := List.cons.inj hl
      simp at hnot
  · cases l with
    | nil => simp
    | cons frame l =>
      obtain ⟨rfl, -⟩ := List.cons.inj hl
      simp at hfirst

/-- The acknowledgement is taken exactly when it was received and nothing spoiled it. -/
lemma exists_ackWithin_iff {t : Transcript} :
    (∃ frames rest, responseFramer.scan t.bytesRead = .ok (frames, rest) ∧ AckWithin 0 frames) ↔
      t.ReceivedAck ∧ ¬ t.AckSpoiled := by
  constructor
  · rintro ⟨frames, rest, hscan, before, after, rfl, hget, hfew⟩
    obtain ⟨hstream, hmore⟩ := Framer.scan_eq_ok_iff.mp hscan
    have hack : t.AckAfter before := by
      rw [AckAfter, hstream]
      refine ⟨after.flatMap ResponseFrame.bytes ++ rest, ?_⟩
      simp [responseFramer]
    refine ⟨⟨before, hack⟩, ?_⟩
    rintro ⟨before', ⟨more, hmore'⟩, hfirst, hspoiled⟩
    have hpre : before' ++ [ack] <+: before ++ ack :: after :=
      Framer.prefix_of_flatMap_append (F := responseFramer) (ne_frame_of_more hmore)
        (hmore'.trans hstream)
    have hnot : ack ∉ before := by
      intro hmem
      obtain ⟨f, hf⟩ := hget ack hmem
      cases hf
    obtain rfl : before' = before := eq_of_first_ack hpre hfirst hnot
    rcases hspoiled with ⟨i, hi⟩ | ⟨status, hmem⟩ | hmany
    · exact not_firstViolation hscan hi
    · obtain ⟨f, hf⟩ := hget _ hmem
      cases hf
    · omega
  · rintro ⟨⟨before, hack⟩, hclean⟩
    obtain ⟨first, later, hsplit, hfirst⟩ : ∃ first later,
        before ++ [ack] = first ++ ack :: later ∧ ack ∉ first :=
      List.eq_append_cons_of_mem (by simp)
    have hack' : t.AckAfter first := by
      refine List.IsPrefix.trans ?_ hack
      rw [hsplit, List.append_cons first ack later]
      exact (List.prefix_append (first ++ [ack]) later).flatMap _
    have hunspoiled := fun hspoiled => hclean ⟨first, hack', hfirst, hspoiled⟩
    cases hscan : responseFramer.scan t.bytesRead with
    | error message =>
      exact absurd (.inl (FrameParser.exists_firstViolation hscan)) hunspoiled
    | ok u =>
      obtain ⟨frames, rest⟩ := u
      obtain ⟨hstream, hmore⟩ := Framer.scan_eq_ok_iff.mp hscan
      obtain ⟨more, hbytes⟩ := hack'
      have hpre : first ++ [ack] <+: frames :=
        Framer.prefix_of_flatMap_append (F := responseFramer) (ne_frame_of_more hmore)
          (hbytes.trans hstream)
      obtain ⟨after, rfl⟩ := hpre
      refine ⟨_, rest, rfl, first, after, by simp, ?_, ?_⟩
      · intro frame hframe
        cases frame with
        | get f => exact ⟨f, rfl⟩
        | setStatus status => exact absurd (.inr (.inl ⟨status, hframe⟩)) hunspoiled
      · by_contra hmany
        exact hunspoiled (.inr (.inr (by omega)))

/-- A SET returns exactly when it received the acknowledgement and nothing spoiled it. -/
theorem asyncSet_eq_ok_iff {t : Transcript} (h : t.ReadsFit) :
    LsxClient.asyncSet t = .ok () ↔ t.ReceivedAck ∧ ¬ t.AckSpoiled := by
  rw [← exists_ackWithin_iff]
  cases t with
  | connected reads ending =>
    have hloop : (LsxClient.readLoop none ending {} 0 reads).isOk ↔ ∃ frames rest,
        responseFramer.scan ([] ++ (LsxClient.readsMade none {} 0 reads).flatten) =
          .ok ([] ++ frames, rest) ∧ AckWithin 0 frames :=
      readLoop_none_isOk rfl Framer.scan_nil h
    simp only [List.nil_append] at hloop
    simp only [bytesRead]
    rw [← hloop]
    simp only [LsxClient.asyncSet, LsxClient.exchange]
    cases LsxClient.readLoop none ending {} 0 reads <;> simp [Except.isOk, Except.toBool]
  | _ => simp [LsxClient.asyncSet, LsxClient.exchange, bytesRead, not_ackWithin_nil]

/-- The flag on an error of a SET says whether its request was handed to the transport. -/
theorem writeAttempted_asyncSet {t : Transcript} {e : LsxError}
    (h : LsxClient.asyncSet t = .error e) : e.writeAttempted = true ↔ t.Wrote := by
  cases t with
  | closed =>
    cases h
    simp [Wrote]
  | connectFailed f =>
    cases h
    simp [Wrote]
  | connected reads ending =>
    simp only [LsxClient.asyncSet, LsxClient.exchange] at h
    cases hr : LsxClient.readLoop none ending {} 0 reads with
    | ok frame => simp [hr] at h
    | error e' =>
      simp only [hr, Except.error.injEq] at h
      simp [← h, Wrote]

/-- So does the flag on an error of a volume GET, about the request of the GET. -/
theorem writeAttempted_asyncGetVolume {t : Transcript} {e : LsxError}
    (h : LsxClient.asyncGetVolume t = .error e) : e.writeAttempted = true ↔ t.Wrote := by
  cases t with
  | closed =>
    cases h
    simp [Wrote]
  | connectFailed f =>
    cases h
    simp [Wrote]
  | connected reads ending =>
    simp only [LsxClient.asyncGetVolume, LsxClient.exchange] at h
    cases hr : LsxClient.readLoop (some Wire.volumeRegister) ending {} 0 reads with
    | error e' =>
      simp only [hr, Except.error.injEq] at h
      simp [← h, Wrote]
    | ok frame =>
      cases frame with
      | none =>
        simp only [hr, Except.error.injEq] at h
        simp [← h, Wrote]
      | some frame =>
        simp only [hr] at h
        split at h
        · cases h
        · cases h
          simp [Wrote]

/-- A request that returns was written. -/
lemma wrote_of_asyncSet {t : Transcript} (h : LsxClient.asyncSet t = .ok ()) : t.Wrote := by
  cases t with
  | connected reads ending => trivial
  | _ => simp [LsxClient.asyncSet, LsxClient.exchange] at h

end Transcript

end KefLsx
