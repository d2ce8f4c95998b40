import KefLsx.Client.Chunking
import KefLsx.Client.Connection
import KefLsx.Core.Loop

/-!
# What the peer can make an exchange read

The `while True` loop of `_async_exchange` is a loop over its reads (`awaitReply`). A byte that it
has read is still in the parser, which keeps four at most, or it belongs to one of the frames that
have been examined, which are sixteen at most and have five bytes at most. So a loop that waits has
read 84 bytes at most (`replyBudget`), whatever they are and however they are cut into reads: the
bytes of the peer alone end it, and the deadline is only needed for a peer that sends too few.
-/

namespace KefLsx

open Framing

namespace FrameParser

variable {p q : FrameParser} {data : List UInt8} {frames : List ResponseFrame}

/-- A feed that succeeds has read what was pending together with the data. -/
lemma scan_of_feed (h : p.feed data = (.ok frames, q)) :
    responseFramer.scan (p.buffer ++ data) = .ok (frames, q.buffer) ∧
      q.bufferLimit = p.bufferLimit := by
  simp only [feed] at h
  split at h
  · cases h
  · split at h
    · cases h
    · rename_i hscan
      cases h
      exact ⟨hscan, rfl⟩

/-- A feed that succeeds leaves an incomplete frame. -/
lemma length_le_of_feed (h : p.feed data = (.ok frames, q)) : q.buffer.length ≤ 4 :=
  length_of_more (Framer.next_of_scan_ok (scan_of_feed h).1)

/-- The error of a feed whose bytes exceed the limit. -/
def overflow : LsxError := framingError "Response buffer exceeded its limit"

lemma append_ne_of_not_prefix {a c : String} (h : ¬ a.toList <+: c.toList) (b : String) :
    a ++ b ≠ c := by
  rintro rfl
  apply h
  rw [String.toList_append]
  exact List.prefix_append _ _

/-- No byte is refused with the text of an overflow. -/
lemma message_ne_overflow {stream : List UInt8} {message : String}
    (h : responseFramer.scan stream = .error message) : message ≠ overflow.message := by
  rcases LsxClient.message_of_scan h with rfl | ⟨b, rfl⟩
  · decide
  · exact append_ne_of_not_prefix (by decide) _

theorem feed_eq_overflow_iff :
    (p.feed data).1 = .error overflow ↔ p.bufferLimit < (p.buffer ++ data).length := by
  simp only [feed]
  split
  · rename_i hlimit
    exact iff_of_true rfl hlimit
  · rename_i hlimit
    refine iff_of_false ?_ hlimit
    split
    · rename_i message hscan
      intro heq
      have hmessage := congrArg LsxError.message (Except.error.inj heq)
      exact message_ne_overflow hscan hmessage
    · rintro ⟨⟩

end FrameParser

namespace LsxClient

variable {register : Option UInt8} {parser : FrameParser} {n n' : ℕ} {chunk : List UInt8}
  {reads : List (List UInt8)} {s t : FrameParser × ℕ} {frames : List ResponseFrame}

/-! ### The loop -/

/-- A turn after which the loop goes on: the read is not empty, and its frames settle nothing. -/
lemma readChunk_eq_ok {r : Option UInt8} {parser parser' : FrameParser} {n n' : ℕ}
    {chunk : List UInt8} (h : readChunk r parser n chunk = .ok (parser', n')) :
    chunk ≠ [] ∧ ∃ frames, parser.feed chunk = (.ok frames, parser') ∧
      examine r n frames = .unanswered n' := by
  unfold readChunk at h
  split at h
  · cases h
  rename_i hchunk
  split at h
  · cases h
  rename_i frames _ hfeed
  split at h
  · cases h
  · cases h
  · rename_i hexamine
    cases h
    exact ⟨hchunk, frames, hfeed, hexamine⟩

lemma readLoop_of_readChunk {r : Option UInt8} {parser parser' : FrameParser} {n n' : ℕ}
    {chunk : List UInt8} (h : readChunk r parser n chunk = .ok (parser', n')) (ending : Ending)
    (rest : List (List UInt8)) :
    readLoop r ending parser n (chunk :: rest) = readLoop r ending parser' n' rest := by
  obtain ⟨hchunk, frames, hfeed, hexamine⟩ := readChunk_eq_ok h
  simp only [readLoop, if_neg hchunk, hfeed, hexamine]

/-- How a call ends whose exchange has this result. -/
def Outcome.ofResult : Except LsxError (Option GetFrame) → Outcome
  | .ok frame => .returned frame
  | .error e => .raised e

/-- The read that ends the loop settles what the exchange ends with, whatever would come after. -/
lemma exists_result_of_readChunk {r : Option UInt8} {parser : FrameParser} {n : ℕ}
    {chunk : List UInt8} {outcome : Outcome} (h : readChunk r parser n chunk = .error outcome)
    {reads : List (List UInt8)} (hreads : ∀ ending rest,
      readLoop r ending {} 0 (reads ++ rest) = readLoop r ending parser n rest) :
    ∃ result, outcome = .ofResult result ∧
      ∀ ending rest, exchange r (.connected (reads ++ chunk :: rest) ending) = result := by
  unfold readChunk at h
  split at h
  · rename_i hchunk
    cases h
    refine ⟨.error { endError parser .eof with writeAttempted := true }, rfl, fun ending rest => ?_⟩
    simp only [exchange, hreads, readLoop, if_pos hchunk]
  rename_i hchunk
  split at h
  · rename_i e _ hfeed
    cases h
    refine ⟨.error { e with writeAttempted := true }, rfl, fun ending rest => ?_⟩
    simp only [exchange, hreads, readLoop, if_neg hchunk, hfeed]
  rename_i hfeed
  split at h
  · rename_i e hexamine
    cases h
    refine ⟨.error { e with writeAttempted := true }, rfl, fun ending rest => ?_⟩
    simp only [exchange, hreads, readLoop, if_neg hchunk, hfeed, hexamine]
  · rename_i frame hexamine
    cases h
    refine ⟨.ok frame, rfl, fun ending rest => ?_⟩
    simp only [exchange, hreads, readLoop, if_neg hchunk, hfeed, hexamine]
  · cases h

/-- One turn of the loop, with the parser and the number of frames examined. -/
def readTurn (expectedRegister : Option UInt8) (s : FrameParser × ℕ) (chunk : List UInt8) :
    Except Outcome (FrameParser × ℕ) :=
  readChunk expectedRegister s.1 s.2 chunk

/-- The loop after these reads: it waits for the next one, or has returned or raised. -/
def awaitReply (expectedRegister : Option UInt8) (reads : List (List UInt8)) :
    Except Outcome (FrameParser × ℕ) :=
  Loop.turns (readTurn expectedRegister) ({}, 0) reads

/-- What the loop has when it waits. -/
structure Waits (s : FrameParser × ℕ) : Prop where
  pending : s.1.buffer.length ≤ 4
  examined : s.2 ≤ maxFramesPerExchange
  limit : s.1.bufferLimit = 4096

lemma settled_ne_unanswered {frame : ResponseFrame} : settled register frame ≠ .unanswered n := by
  cases frame with
  | get f => rintro ⟨⟩
  | setStatus f =>
    simp only [settled]
    split_ifs <;> rintro ⟨⟩

/-- The frames that are passed over are not too many. -/
lemma examined_le (hn : n ≤ maxFramesPerExchange) (h : examine register n frames = .unanswered n') :
    n' ≤ maxFramesPerExchange := by
  rw [examine_eq hn] at h
  split at h
  · exact absurd h settled_ne_unanswered
  · split_ifs at h with hmany
    cases h
    exact not_lt.mp hmany

lemma Waits.readTurn (h : Waits s) (hturn : readTurn register s chunk = .ok t) : Waits t := by
  obtain ⟨-, frames, hfeed, hexamine⟩ := readChunk_eq_ok hturn
  refine ⟨FrameParser.length_le_of_feed hfeed, examined_le h.examined hexamine, ?_⟩
  rw [(FrameParser.scan_of_feed hfeed).2, h.limit]

lemma length_flatMap_bytes_le (frames : List ResponseFrame) :
    (frames.flatMap ResponseFrame.bytes).length ≤ 5 * frames.length := by
  induction frames with
  | nil => exact Nat.le_refl _
  | cons frame frames ih =>
    have hframe := (bytes_length frame).2
    rw [List.flatMap_cons, List.length_append, List.length_cons]
    omega

/-- Every byte of a read stays in the parser or is one of five of a frame. -/
lemma bytes_le_of_readTurn (h : readTurn register s chunk = .ok t) :
    5 * s.2 + s.1.buffer.length + chunk.length ≤ 5 * t.2 + t.1.buffer.length := by
  obtain ⟨-, frames, hfeed, hexamine⟩ := readChunk_eq_ok h
  have hcount := examine_eq_unanswered hexamine
  have hstream : s.1.buffer ++ chunk = frames.flatMap ResponseFrame.bytes ++ t.1.buffer :=
    (Framer.scan_eq_ok_iff.mp (FrameParser.scan_of_feed hfeed).1).1
  have hlength := congrArg List.length hstream
  have hframes := length_flatMap_bytes_le frames
  rw [List.length_append, List.length_append] at hlength
  omega

lemma Waits.init : Waits ({}, 0) where
  pending := Nat.zero_le _
  examined := Nat.zero_le _
  limit := rfl

lemma Waits.bytes_le (h : Waits s) : 5 * s.2 + s.1.buffer.length ≤ 84 := by
  have hpending := h.pending
  have hexamined := h.examined
  simp only [maxFramesPerExchange] at hexamined
  omega

/-- The bytes that the loop reads while it waits are those of sixteen frames and four more. -/
def replyBudget (register : Option UInt8) : Loop.Budget (readTurn register) ({}, 0) where
  invariant := Waits
  potential s := 5 * s.2 + s.1.buffer.length
  weight := List.length
  bound := 84
  invariant_start := .init
  invariant_turn := Waits.readTurn
  potential_turn := bytes_le_of_readTurn
  potential_le := Waits.bytes_le

lemma waits_of_awaitReply (h : awaitReply register reads = .ok s) : Waits s :=
  (replyBudget register).invariant_of_wait h

/-- A loop that waits has read 84 bytes at most. -/
theorem length_le_of_awaitReply (h : awaitReply register reads = .ok s) :
    reads.flatten.length ≤ 84 := by
  rw [List.length_flatten]
  exact (replyBudget register).sum_weight_le h

/-! ### What stops it -/

/-- After these reads the loop has returned or raised: the exchange has this result, whatever comes
after them and however the stream ends. -/
def StopsWith (register : Option UInt8) (reads : List (List UInt8))
    (result : Except LsxError (Option GetFrame)) : Prop :=
  awaitReply register reads = .error (.ofResult result) ∧
    ∀ ending rest, exchange register (.connected (reads ++ rest) ending) = result

lemma readLoop_of_turns (h : Loop.turns (readTurn register) s reads = .ok t) (ending : Ending)
    (rest : List (List UInt8)) :
    readLoop register ending s.1 s.2 (reads ++ rest) = readLoop register ending t.1 t.2 rest := by
  induction reads generalizing s with
  | nil =>
    cases h
    rfl
  | cons chunk reads ih =>
    rw [Loop.turns_cons] at h
    cases hturn : readTurn register s chunk with
    | error outcome =>
      rw [hturn] at h
      cases h
    | ok u =>
      rw [hturn] at h
      rw [List.cons_append, readLoop_of_readChunk hturn, ih h]

/-- A loop that has stopped settles the exchange. -/
lemma exists_stopsWith {outcome : Outcome} (h : awaitReply register reads = .error outcome) :
    ∃ result, StopsWith register reads result := by
  obtain ⟨pre, chunk, post, t, rfl, hpre, hstop⟩ := Loop.exists_stopping_turn h
  obtain ⟨result, rfl, hresult⟩ := exists_result_of_readChunk hstop (readLoop_of_turns hpre)
  refine ⟨result, h, fun ending rest => ?_⟩
  rw [List.append_assoc, List.cons_append, hresult]

lemma message_ne_of_verdict_eq_some {e : LsxError}
    (h : verdict register frames = some (.error e)) :
    e.message ≠ FrameParser.overflow.message := by
  rw [verdict] at h
  cases he : examine register 0 frames with
  | unanswered m | answered f =>
    rw [he] at h
    cases h
  | refused e' =>
    rw [he] at h
    cases h
    rcases examine_eq_refused he with rfl | rfl | ⟨status, rfl⟩
    · decide
    · decide
    · exact FrameParser.append_ne_of_not_prefix (by decide) _

lemma message_of_endError (ending : Ending) :
    (endError parser ending).message ≠ FrameParser.overflow.message := by
  cases ending with
  | eof | deadline =>
    simp only [endError]
    split <;> decide
  | osError =>
    simp only [endError]
    decide

/-- No exchange fails with the overflow of its parser. -/
lemma message_of_exchange {ending : Ending} {e : LsxError} (hreads : Delivered reads)
    (h : exchange register (.connected reads ending) = .error e) :
    e.message ≠ FrameParser.overflow.message := by
  obtain ⟨result, hends, heq⟩ : ∃ result, Concludes register ending reads result ∧ _ :=
    exists_concludes hreads
  rw [heq] at h
  cases result with
  | ok frame => cases h
  | error e' =>
    cases h
    cases hends with
    | settled d _ hat =>
      obtain ⟨before, frame, after, -, -, hv, -⟩ := hat
      have hne : e'.message ≠ FrameParser.overflow.message := message_ne_of_verdict_eq_some hv
      exact hne
    | refused message hscan => exact FrameParser.message_ne_overflow hscan
    | ended => exact message_of_endError ending

/-- A read of the size that the client asks for fits into the buffer of a loop that waits. -/
lemma Waits.feed (h : Waits s) (hchunk : chunk.length ≤ 1024) :
    (s.1.buffer ++ chunk).length ≤ 1028 ∧ (s.1.feed chunk).1 ≠ .error FrameParser.overflow := by
  have hpending := h.pending
  have hlimit := h.limit
  have hbuffer : (s.1.buffer ++ chunk).length ≤ 1028 := by
    rw [List.length_append]
    omega
  refine ⟨hbuffer, fun herror => ?_⟩
  have hexceeded := FrameParser.feed_eq_overflow_iff.mp herror
  omega

/-- The bytes of the peer bound the loop of an exchange, and what its parser holds. -/
structure ReplyBounded (register : Option UInt8) : Prop where
  /-- Reads with 85 bytes stop the loop. -/
  stops : ∀ reads, Delivered reads → 85 ≤ reads.flatten.length →
    ∃ result, StopsWith register reads result
  /-- An endless sequence of reads stops it with one that comes after fewer bytes. -/
  stops_endless : ∀ reads : ℕ → List UInt8,
    (∀ i, 1 ≤ (reads i).length ∧ (reads i).length ≤ 1024) →
      ∃ n result, ((List.range n).map reads).flatten.length < 85 ∧
        StopsWith register ((List.range (n + 1)).map reads) result
  /-- What a successful feed leaves pending. -/
  pending : ∀ (p q : FrameParser) (data : List UInt8) (frames : List ResponseFrame),
    p.feed data = (.ok frames, q) → q.buffer.length ≤ 4
  /-- What the buffer holds when a read has been appended to it. -/
  buffer : ∀ reads chunk parser n, Delivered (reads ++ [chunk]) →
    awaitReply register reads = .ok (parser, n) →
      (parser.buffer ++ chunk).length ≤ 1028 ∧ (parser.feed chunk).1 ≠ .error FrameParser.overflow
  no_overflow : ∀ reads ending e, Delivered reads →
    exchange register (.connected reads ending) = .error e →
      e.message ≠ "Response buffer exceeded its limit"

/-- The loop of every exchange is bounded by what the peer sends, without its deadline. -/
theorem reply_bounded (register : Option UInt8) : ReplyBounded register where
  stops reads _ hlength := by
    have hweight : (replyBudget register).bound <
        (reads.map (replyBudget register).weight).sum := by
      rw [List.length_flatten] at hlength
      exact hlength
    obtain ⟨outcome, hstop⟩ := (replyBudget register).exists_stop hweight
    exact exists_stopsWith hstop
  stops_endless reads hreads := by
    have hpos : ∀ i, 0 < (replyBudget register).weight (reads i) := fun i => (hreads i).1
    obtain ⟨n, s, outcome, hwait, hstop⟩ := (replyBudget register).exists_stop_of_endless hpos
    have hlast : awaitReply register ((List.range (n + 1)).map reads) = .error outcome := by
      rw [awaitReply, List.range_succ, List.map_append, Loop.turns_append_of_wait hwait,
        List.map_singleton, Loop.turns_singleton, hstop]
    obtain ⟨result, hresult⟩ := exists_stopsWith hlast
    exact ⟨n, result, Nat.lt_succ_of_le (length_le_of_awaitReply hwait), hresult⟩
  pending _ _ _ _ hfeed := FrameParser.length_le_of_feed hfeed
  buffer _ chunk _ _ hreads hwait :=
    (waits_of_awaitReply hwait).feed (hreads chunk (by simp)).2
  no_overflow _ _ _ hreads herror := message_of_exchange hreads herror

/-! ### The bound is reached -/

/-- A GET frame that answers no request for this register. -/
def unrelated : Option UInt8 → ResponseFrame
  | some g => .get ⟨g + 1, 0, 0⟩
  | none => .get ⟨0, 0, 0⟩

lemma settles_unrelated : settles register (unrelated register) = false := by
  cases register with
  | none => rfl
  | some g => simp [settles, unrelated]

lemma bytes_unrelated : (unrelated register).bytes.length = 5 := by
  cases register with
  | none => rfl
  | some g => rfl

lemma examine_unrelated :
    examine register 0 (List.replicate maxFramesPerExchange (unrelated register)) =
      .unanswered maxFramesPerExchange := by
  have hnone : ((List.replicate maxFramesPerExchange (unrelated register)).take
      (maxFramesPerExchange - 0)).find? (settles register) = none := by
    rw [List.find?_eq_none]
    intro frame hframe
    rw [List.eq_of_mem_replicate (List.mem_of_mem_take hframe), settles_unrelated]
    exact Bool.false_ne_true
  rw [examine_eq (Nat.zero_le _), hnone]
  simp

/-- Sixteen frames that settle nothing and four bytes of the next one leave the loop waiting. -/
theorem exists_waiting (register : Option UInt8) : ∃ reads s,
    Delivered reads ∧ reads.flatten.length = 84 ∧ awaitReply register reads = .ok s := by
  obtain ⟨frames, hframes⟩ : ∃ frames, frames =
      List.replicate maxFramesPerExchange (unrelated register) := ⟨_, rfl⟩
  obtain ⟨stream, hstream⟩ : ∃ stream, stream =
      frames.flatMap ResponseFrame.bytes ++ [0x52, 0x00, 0x81, 0x00] := ⟨_, rfl⟩
  have hlength : stream.length = 84 := by
    simp [hstream, hframes, bytes_unrelated, maxFramesPerExchange]
  have hne : stream ≠ [] := List.ne_nil_of_length_pos (by omega)
  have hscan : responseFramer.scan stream = .ok (frames, [0x52, 0x00, 0x81, 0x00]) :=
    Framer.scan_eq_ok_iff.mpr ⟨hstream, rfl⟩
  have hfeed : FrameParser.feed {} stream = (.ok frames, { buffer := [0x52, 0x00, 0x81, 0x00] }) :=
    FrameParser.feed_of_scan_ok (by simp [hlength]) hscan
  have hexamine : examine register 0 frames = .unanswered maxFramesPerExchange := by
    rw [hframes, examine_unrelated]
  refine ⟨[stream], ({ buffer := [0x52, 0x00, 0x81, 0x00] }, maxFramesPerExchange), ?_, ?_, ?_⟩
  · simp [Delivered, hlength]
  · simp [hlength]
  · rw [awaitReply, Loop.turns_singleton]
    simp only [readTurn, readChunk, if_neg hne, hfeed, hexamine]

end LsxClient

end KefLsx
