import KefLsx.Client.Exchange
import KefLsx.Core.Mutex
import KefLsx.Core.Transition

/-!
# Connections of the client

The calls on one `LsxClient` at the granularity of the event loop: what a call does between two
suspension points is one step. The calls take turns by the exchange lock, which any waiting caller
may get once it is free, and each of them may be cancelled at every suspension point.

A connection is what the client has of it: the transport, with what it has not sent yet.
-/

namespace KefLsx

namespace LsxClient

/-- A connection that was established. -/
inductive Connection where
  /-- The write buffer of its transport is empty, or holds unsent bytes. -/
  | established (unsent : Bool)
  /-- `writer.close()` was called, and there are unsent bytes. -/
  | closing
  | closed
  | aborted
deriving DecidableEq

namespace Connection

def isFinished : Connection → Bool
  | established _ | closing => false
  | closed | aborted => true

def hasUnsent : Connection → Bool
  | established unsent => unsent
  | closing => true
  | closed | aborted => false

/-- `writer.close()`. With an empty write buffer the socket is closed in the next turn of the event
loop, before the caller that awaits it can go on. -/
def close : Connection → Connection
  | established true => closing
  | established false => closed
  | c => c

/-- `writer.transport.abort()`. -/
def abort : Connection → Connection
  | established _ | closing => aborted
  | c => c

/-- The socket takes the unsent bytes. -/
def flush : Connection → Connection
  | established _ => established false
  | closing => closed
  | c => c

/-- The transport calls `connection_lost`. -/
def lose : Connection → Connection
  | established _ | closing => closed
  | c => c

lemma isFinished_of_hasUnsent {c : Connection} (h : c.hasUnsent = true) :
    c.isFinished = false := by
  cases c with
  | established unsent => rfl
  | closing => rfl
  | _ => cases h

lemma isFinished_of_close {c : Connection} (h : c.close.isFinished = false) :
    c.isFinished = false := by
  cases c with
  | established unsent => rfl
  | _ => exact h

lemma isFinished_of_flush {c : Connection} (h : c.flush.isFinished = false) :
    c.isFinished = false := by
  cases c with
  | established unsent => rfl
  | closing => rfl
  | _ => exact h

lemma isFinished_abort (c : Connection) : c.abort.isFinished = true := by
  cases c <;> rfl

lemma isFinished_lose (c : Connection) : c.lose.isFinished = true := by
  cases c <;> rfl

end Connection

/-- `_async_exchange`, with its `expected_register`, or `async_close`. -/
inductive Call where
  | exchange (expectedRegister : Option UInt8)
  | close
deriving DecidableEq

inductive Outcome where
  | returned (frame : Option GetFrame)
  | raised (error : LsxError)
  | cancelled
deriving DecidableEq

/-- The suspension point at which a caller is. -/
inductive Phase where
  | idle
  | acquiring (call : Call)
  | connecting (expectedRegister : Option UInt8)
  | draining (expectedRegister : Option UInt8) (writer : ℕ)
  | reading (expectedRegister : Option UInt8) (writer : ℕ) (parser : FrameParser)
      (framesExamined : ℕ)
  | closing (call : Call) (writer : ℕ) (outcome : Outcome)
  | delaying (call : Call) (outcome : Outcome)
  | finished (call : Call) (outcome : Outcome)
deriving DecidableEq

namespace Phase

/-- The caller has the exchange lock. -/
def holdsLock : Phase → Bool
  | idle | acquiring _ | finished _ _ => false
  | connecting _ | draining _ _ | reading _ _ _ _ | closing _ _ _ | delaying _ _ => true

/-- The writer that the caller writes to and reads from. -/
def active : Phase → Option ℕ
  | draining _ writer | reading _ writer _ _ => some writer
  | _ => none

/-- The writer that the caller uses or waits for. -/
def owned : Phase → Option ℕ
  | draining _ writer | reading _ writer _ _ | closing _ writer _ => some writer
  | _ => none

def isConnecting : Phase → Bool
  | connecting _ => true
  | _ => false

end Phase

/-- The client with its callers, and the connections in the order in which they were
established. -/
structure State where
  exchangeLock : Option ℕ := none
  activeWriter : Option ℕ := none
  closed : Bool := false
  callers : ℕ → Phase := fun _ => .idle
  connections : List Connection := []

/-- What happens next: a caller goes on, a transport has sent what was written or is gone, or a
caller is cancelled. -/
inductive Event where
  | call (caller : ℕ) (call : Call)
  | acquired (caller : ℕ)
  /-- The socket takes the whole request of `writer.write`, or the transport buffers some of it. -/
  | connected (caller : ℕ) (sent : Bool)
  | connectFailed (caller : ℕ) (failure : ConnectFailure)
  | drained (caller : ℕ)
  | read (caller : ℕ) (chunk : List UInt8)
  | ended (caller : ℕ) (ending : Ending)
  | flushed (writer : ℕ)
  | lost (writer : ℕ)
  | waited (caller : ℕ)
  | closeTimeout (caller : ℕ)
  | delayed (caller : ℕ)
  | cancel (caller : ℕ)
deriving DecidableEq

namespace State

variable (s : State) (caller : ℕ)

def goesTo (phase : Phase) : State := { s with callers := Function.update s.callers caller phase }

/-- The call ends, and with it the `async with self._exchange_lock` block. -/
def release (call : Call) (outcome : Outcome) : State :=
  { s.goesTo caller (.finished call outcome) with exchangeLock := none }

/-- `_async_close_writer` up to its `wait_closed()`. -/
def closeWriter (call : Call) (writer : ℕ) (outcome : Outcome) : State :=
  { s.goesTo caller (.closing call writer outcome) with
    connections := s.connections.modify writer Connection.close }

/-- The rest of `_async_close_writer`. Only an exchange closes its writer `before_reconnect`. -/
def closedWriter (reconnectDelay : ℕ) (call : Call) (outcome : Outcome) : State :=
  if call ≠ .close ∧ reconnectDelay ≠ 0 then s.goesTo caller (.delaying call outcome)
  else s.release caller call outcome

/-- Waiting for a writer to close ends in another phase of the caller. -/
lemma callers_closedWriter (reconnectDelay : ℕ) (call : Call) (outcome : Outcome) :
    ∃ phase, (s.closedWriter caller reconnectDelay call outcome).callers =
      Function.update s.callers caller phase := by
  rw [closedWriter]
  split
  · exact ⟨_, rfl⟩
  · exact ⟨_, rfl⟩

@[simp] lemma connections_closedWriter (reconnectDelay : ℕ) (call : Call) (outcome : Outcome) :
    (s.closedWriter caller reconnectDelay call outcome).connections = s.connections := by
  rw [closedWriter]
  split
  · rfl
  · rfl

@[simp] lemma closed_closedWriter (reconnectDelay : ℕ) (call : Call) (outcome : Outcome) :
    (s.closedWriter caller reconnectDelay call outcome).closed = s.closed := by
  rw [closedWriter]
  split
  · rfl
  · rfl

/-- The `finally` block of `_async_exchange`, up to the same point. -/
def leave (expectedRegister : Option UInt8) (writer : ℕ) (outcome : Outcome) : State :=
  { s with activeWriter := if s.activeWriter = some writer then none else s.activeWriter }
    |>.closeWriter caller (.exchange expectedRegister) writer outcome

end State

/-- An `LsxError` raised after `writer.write`. -/
def raisedAfterWrite (error : LsxError) : Outcome := .raised { error with writeAttempted := true }

/-- One turn of the `while True` loop of `_async_exchange`. -/
def readChunk (expectedRegister : Option UInt8) (parser : FrameParser) (framesExamined : ℕ)
    (chunk : List UInt8) : Except Outcome (FrameParser × ℕ) :=
  if chunk = [] then .error (raisedAfterWrite (endError parser .eof))
  else
    match parser.feed chunk with
    | (.error e, _) => .error (raisedAfterWrite e)
    | (.ok frames, parser) =>
      match examine expectedRegister framesExamined frames with
      | .refused e => .error (raisedAfterWrite e)
      | .answered frame => .error (.returned frame)
      | .unanswered framesExamined => .ok (parser, framesExamined)

/-- The error of a call on a closed client. -/
def clientClosed : LsxError := { type := .clientClosed, message := "KEF LSX client is closed" }

/-- A caller gets the exchange lock and goes on to its next suspension point. -/
def acquire (s : State) (caller : ℕ) : Call → State
  | .exchange expectedRegister =>
    if s.closed then s.goesTo caller (.finished (.exchange expectedRegister) (.raised clientClosed))
    else { s.goesTo caller (.connecting expectedRegister) with exchangeLock := some caller }
  | .close =>
    if s.closed then s.goesTo caller (.finished .close (.returned none))
    else
      match s.activeWriter with
      | none => { s.goesTo caller (.finished .close (.returned none)) with closed := true }
      | some writer =>
        { s with exchangeLock := some caller, activeWriter := none, closed := true }
          |>.closeWriter caller .close writer (.returned none)

/-- A caller is cancelled where it is suspended. -/
def cancelled (s : State) (caller : ℕ) : Option State :=
  match s.callers caller with
  | .idle | .finished _ _ => none
  | .acquiring call => some (s.goesTo caller (.finished call .cancelled))
  | .connecting expectedRegister =>
    some (s.release caller (.exchange expectedRegister) .cancelled)
  | .draining expectedRegister writer | .reading expectedRegister writer _ _ =>
    some (s.leave caller expectedRegister writer .cancelled)
  | .closing call _ _ | .delaying call _ => some (s.release caller call .cancelled)

/-- What an event does, if it can happen. -/
def step (reconnectDelay : ℕ) (s : State) : Event → Option State
  | .call caller call =>
    match s.callers caller with
    | .idle => some (s.goesTo caller (.acquiring call))
    | _ => none
  | .acquired caller =>
    match s.exchangeLock, s.callers caller with
    | none, .acquiring call => some (acquire s caller call)
    | _, _ => none
  | .connected caller sent =>
    match s.callers caller with
    | .connecting expectedRegister =>
      some { s.goesTo caller (.draining expectedRegister s.connections.length) with
        activeWriter := some s.connections.length
        connections := s.connections ++ [.established !sent] }
    | _ => none
  | .connectFailed caller failure =>
    match s.callers caller with
    | .connecting expectedRegister =>
      some (s.release caller (.exchange expectedRegister)
        (.raised { connectError failure with writeAttempted := false }))
    | _ => none
  | .drained caller =>
    match s.callers caller with
    | .draining expectedRegister writer =>
      some (s.goesTo caller (.reading expectedRegister writer {} 0))
    | _ => none
  | .read caller chunk =>
    match s.callers caller with
    | .reading expectedRegister writer parser framesExamined =>
      match readChunk expectedRegister parser framesExamined chunk with
      | .error outcome => some (s.leave caller expectedRegister writer outcome)
      | .ok (parser, framesExamined) =>
        some (s.goesTo caller (.reading expectedRegister writer parser framesExamined))
    | _ => none
  | .ended caller ending =>
    match ending, s.callers caller with
    | .eof, _ => none
    | ending, .draining expectedRegister writer =>
      some (s.leave caller expectedRegister writer (raisedAfterWrite (endError {} ending)))
    | ending, .reading expectedRegister writer parser _ =>
      some (s.leave caller expectedRegister writer (raisedAfterWrite (endError parser ending)))
    | _, _ => none
  | .flushed writer =>
    if writer < s.connections.length then
      some { s with connections := s.connections.modify writer Connection.flush }
    else none
  | .lost writer =>
    if writer < s.connections.length then
      some { s with connections := s.connections.modify writer Connection.lose }
    else none
  | .waited caller =>
    match s.callers caller with
    | .closing call writer outcome =>
      if s.connections[writer]?.any Connection.isFinished then
        some (s.closedWriter caller reconnectDelay call outcome)
      else none
    | _ => none
  | .closeTimeout caller =>
    match s.callers caller with
    | .closing call writer outcome =>
      some ({ s with connections := s.connections.modify writer Connection.abort }
        |>.closedWriter caller reconnectDelay call outcome)
    | _ => none
  | .delayed caller =>
    match s.callers caller with
    | .delaying call outcome => some (s.release caller call outcome)
    | _ => none
  | .cancel caller => cancelled s caller

/-! ### What a step can do -/

/-- The caller `k` goes on with its connection. -/
inductive GoesOn (k : ℕ) : Event → Phase → Phase → Prop where
  | drained {r : Option UInt8} {w : ℕ} :
      GoesOn k (.drained k) (.draining r w) (.reading r w {} 0)
  | read {r : Option UInt8} {w n n' : ℕ} {parser parser' : FrameParser} {chunk : List UInt8} :
      readChunk r parser n chunk = .ok (parser', n') →
      GoesOn k (.read k chunk) (.reading r w parser n) (.reading r w parser' n')

/-- The caller `k` leaves the exchange with an outcome. -/
inductive Leaves (k : ℕ) : Event → Phase → Option UInt8 → ℕ → Outcome → Prop where
  | drain {r : Option UInt8} {w : ℕ} {ending : Ending} :
      Leaves k (.ended k ending) (.draining r w) r w (raisedAfterWrite (endError {} ending))
  | read {r : Option UInt8} {w n : ℕ} {parser : FrameParser} {chunk : List UInt8}
      {outcome : Outcome} : readChunk r parser n chunk = .error outcome →
      Leaves k (.read k chunk) (.reading r w parser n) r w outcome
  | ended {r : Option UInt8} {w n : ℕ} {parser : FrameParser} {ending : Ending} :
      Leaves k (.ended k ending) (.reading r w parser n) r w
        (raisedAfterWrite (endError parser ending))
  | cancelDrain {r : Option UInt8} {w : ℕ} :
      Leaves k (.cancel k) (.draining r w) r w .cancelled
  | cancelRead {r : Option UInt8} {w n : ℕ} {parser : FrameParser} :
      Leaves k (.cancel k) (.reading r w parser n) r w .cancelled

/-- The transitions, one constructor for each kind. -/
inductive Rule (reconnectDelay : ℕ) (s : State) : Event → State → Prop where
  -- without the lock
  | called {k : ℕ} {call : Call} (hk : s.callers k = .idle) :
      Rule reconnectDelay s (.call k call) (s.goesTo k (.acquiring call))
  | withdrawn {k : ℕ} {call : Call} (hk : s.callers k = .acquiring call) :
      Rule reconnectDelay s (.cancel k) (s.goesTo k (.finished call .cancelled))
  | refused {k : ℕ} {r : Option UInt8} (hk : s.callers k = .acquiring (.exchange r))
      (hc : s.closed = true) : Rule reconnectDelay s (.acquired k)
        (s.goesTo k (.finished (.exchange r) (.raised clientClosed)))
  | closedAgain {k : ℕ} (hk : s.callers k = .acquiring .close) (hc : s.closed = true) :
      Rule reconnectDelay s (.acquired k) (s.goesTo k (.finished .close (.returned none)))
  -- with the free lock
  | connects {k : ℕ} {r : Option UInt8} (hk : s.callers k = .acquiring (.exchange r))
      (hl : s.exchangeLock = none) (hc : s.closed = false) : Rule reconnectDelay s (.acquired k)
        { s.goesTo k (.connecting r) with exchangeLock := some k }
  | closes {k : ℕ} (hk : s.callers k = .acquiring .close) (hl : s.exchangeLock = none) :
      Rule reconnectDelay s (.acquired k)
        { s.goesTo k (.finished .close (.returned none)) with closed := true }
  | closesActive {k w : ℕ} (hk : s.callers k = .acquiring .close) (hl : s.exchangeLock = none)
      (ha : s.activeWriter = some w) :
      Rule reconnectDelay s (.acquired k)
        ({ s with exchangeLock := some k, activeWriter := none, closed := true }.closeWriter k
          .close w (.returned none))
  -- of the holder of the lock
  | connected {k : ℕ} {r : Option UInt8} {sent : Bool} (hk : s.callers k = .connecting r) :
      Rule reconnectDelay s (.connected k sent)
        { s.goesTo k (.draining r s.connections.length) with
          activeWriter := some s.connections.length
          connections := s.connections ++ [.established !sent] }
  | connectFailed {k : ℕ} {r : Option UInt8} {failure : ConnectFailure}
      (hk : s.callers k = .connecting r) : Rule reconnectDelay s (.connectFailed k failure)
        (s.release k (.exchange r) (.raised { connectError failure with writeAttempted := false }))
  | goesOn {e : Event} {k : ℕ} {phase : Phase} (h : GoesOn k e (s.callers k) phase) :
      Rule reconnectDelay s e (s.goesTo k phase)
  | leaves {e : Event} {k w : ℕ} {r : Option UInt8} {outcome : Outcome}
      (h : Leaves k e (s.callers k) r w outcome) :
      Rule reconnectDelay s e (s.leave k r w outcome)
  | waited {k w : ℕ} {call : Call} {outcome : Outcome}
      (hk : s.callers k = .closing call w outcome)
      (hw : s.connections[w]?.any Connection.isFinished = true) :
      Rule reconnectDelay s (.waited k) (s.closedWriter k reconnectDelay call outcome)
  | closeTimeout {k w : ℕ} {call : Call} {outcome : Outcome}
      (hk : s.callers k = .closing call w outcome) : Rule reconnectDelay s (.closeTimeout k)
        ({ s with connections := s.connections.modify w Connection.abort }.closedWriter k
          reconnectDelay call outcome)
  | delayed {k : ℕ} {call : Call} {outcome : Outcome} (hk : s.callers k = .delaying call outcome) :
      Rule reconnectDelay s (.delayed k) (s.release k call outcome)
  | cancelConnect {k : ℕ} {r : Option UInt8} (hk : s.callers k = .connecting r) :
      Rule reconnectDelay s (.cancel k) (s.release k (.exchange r) .cancelled)
  | cancelClose {k w : ℕ} {call : Call} {outcome : Outcome}
      (hk : s.callers k = .closing call w outcome) :
      Rule reconnectDelay s (.cancel k) (s.release k call .cancelled)
  | cancelDelay {k : ℕ} {call : Call} {outcome : Outcome}
      (hk : s.callers k = .delaying call outcome) :
      Rule reconnectDelay s (.cancel k) (s.release k call .cancelled)
  -- of the transport
  | flushed {w : ℕ} : Rule reconnectDelay s (.flushed w)
      { s with connections := s.connections.modify w Connection.flush }
  | lost {w : ℕ} : Rule reconnectDelay s (.lost w)
      { s with connections := s.connections.modify w Connection.lose }

variable {reconnectDelay : ℕ} {s t : State} {e : Event} {k : ℕ}

lemma Rule.of_acquire {call : Call} (hl : s.exchangeLock = none)
    (hk : s.callers k = .acquiring call) :
    Rule reconnectDelay s (.acquired k) (acquire s k call) := by
  cases call with
  | exchange r =>
    simp only [acquire]
    split
    · rename_i hc
      exact .refused hk hc
    · rename_i hc
      exact .connects hk hl (by simpa using hc)
  | close =>
    simp only [acquire]
    split
    · rename_i hc
      exact .closedAgain hk hc
    · split
      · exact .closes hk hl
      · rename_i ha
        exact .closesActive hk hl ha

lemma Rule.of_cancelled (h : cancelled s k = some t) : Rule reconnectDelay s (.cancel k) t := by
  unfold cancelled at h
  split at h
  · cases h
  · cases h
  · rename_i hk
    cases h
    exact .withdrawn hk
  · rename_i hk
    cases h
    exact .cancelConnect hk
  · rename_i hk
    cases h
    exact .leaves (hk ▸ .cancelDrain)
  · rename_i hk
    cases h
    exact .leaves (hk ▸ .cancelRead)
  · rename_i hk
    cases h
    exact .cancelClose hk
  · rename_i hk
    cases h
    exact .cancelDelay hk

/-- Every step is one of the transitions. -/
theorem Rule.of_step (h : step reconnectDelay s e = some t) : Rule reconnectDelay s e t := by
  cases e with
  | call caller call =>
    simp only [step] at h
    split at h
    · cases h
      exact .called ‹_›
    · cases h
  | acquired caller =>
    simp only [step] at h
    split at h
    · rename_i hl hk
      cases h
      exact .of_acquire hl hk
    · cases h
  | connected caller sent =>
    simp only [step] at h
    split at h
    · cases h
      exact .connected ‹_›
    · cases h
  | connectFailed caller failure =>
    simp only [step] at h
    split at h
    · cases h
      exact .connectFailed ‹_›
    · cases h
  | drained caller =>
    simp only [step] at h
    split at h
    · rename_i hk
      cases h
      exact .goesOn (hk ▸ .drained)
    · cases h
  | read caller chunk =>
    simp only [step] at h
    split at h
    · rename_i hk
      split at h
      · rename_i hread
        cases h
        exact .leaves (hk ▸ .read hread)
      · rename_i hread
        cases h
        exact .goesOn (hk ▸ .read hread)
    · cases h
  | ended caller ending =>
    simp only [step] at h
    split at h
    · cases h
    · rename_i hk
      cases h
      exact .leaves (hk ▸ .drain)
    · rename_i hk
      cases h
      exact .leaves (hk ▸ .ended)
    · cases h
  | flushed writer =>
    simp only [step] at h
    split at h
    · cases h
      exact .flushed
    · cases h
  | lost writer =>
    simp only [step] at h
    split at h
    · cases h
      exact .lost
    · cases h
  | waited caller =>
    simp only [step] at h
    split at h
    · rename_i hk
      split at h
      · cases h
        exact .waited hk ‹_›
      · cases h
    · cases h
  | closeTimeout caller =>
    simp only [step] at h
    split at h
    · cases h
      exact .closeTimeout ‹_›
    · cases h
  | delayed caller =>
    simp only [step] at h
    split at h
    · cases h
      exact .delayed ‹_›
    · cases h
  | cancel caller => exact .of_cancelled h

/-! ### The exchange lock -/

lemma GoesOn.active {phase phase' : Phase} (h : GoesOn k e phase phase') :
    ∃ w, phase.active = some w ∧ phase'.active = some w := by
  cases h with
  | drained => exact ⟨_, rfl, rfl⟩
  | read => exact ⟨_, rfl, rfl⟩

lemma Leaves.active {phase : Phase} {r : Option UInt8} {w : ℕ} {outcome : Outcome}
    (h : Leaves k e phase r w outcome) : phase.active = some w := by
  cases h <;> rfl

lemma Phase.holdsLock_of_active {phase : Phase} {w : ℕ} (h : phase.active = some w) :
    phase.holdsLock = true := by
  cases phase with
  | draining => rfl
  | reading => rfl
  | _ => cases h

lemma Phase.holdsLock_of_owned {phase : Phase} {w : ℕ} (h : phase.owned = some w) :
    phase.holdsLock = true := by
  cases phase with
  | draining => rfl
  | reading => rfl
  | closing => rfl
  | _ => cases h

lemma Phase.owned_of_active {phase : Phase} {w : ℕ} (h : phase.active = some w) :
    phase.owned = some w := by
  cases phase with
  | draining => exact h
  | reading => exact h
  | _ => cases h

lemma Phase.holdsLock_of_isConnecting {phase : Phase} (h : phase.isConnecting = true) :
    phase.holdsLock = true ∧ phase.owned = none := by
  cases phase with
  | connecting => exact ⟨rfl, rfl⟩
  | _ => cases h

/-- Exactly the holder of the exchange lock is inside an exchange or a close, the active writer is
the one it uses, and nobody is inside once the client is closed. -/
structure Exclusive (s : State) : Prop where
  guards : Mutex.Guards (fun phase => phase.holdsLock = true) s.exchangeLock s.callers
  active : ∀ w, s.activeWriter = some w → ∃ k, (s.callers k).active = some w
  quiet : s.closed = true → ∀ k, (s.callers k).holdsLock = false

/-- The lock is free only if there is no active writer. -/
lemma Exclusive.activeWriter_of_free (h : Exclusive s) (hl : s.exchangeLock = none) :
    s.activeWriter = none := by
  cases ha : s.activeWriter with
  | none => rfl
  | some w =>
    obtain ⟨k, hk⟩ := h.active w ha
    exact absurd (Phase.holdsLock_of_active hk) (h.guards.not_inside hl)

/-- The active writer is that of the caller inside, if it is one with a writer. -/
lemma Exclusive.active_of_holder (h : Exclusive s) (hk : (s.callers k).holdsLock = true) {w : ℕ}
    (ha : s.activeWriter = some w) : (s.callers k).active = some w := by
  obtain ⟨j, hj⟩ := h.active w ha
  rwa [h.guards.eq hk (Phase.holdsLock_of_active hj)]

/-- A caller goes on, and whoever had no writer still has none. -/
lemma Exclusive.of_update (h : Exclusive s) {phase : Phase}
    (hguards : Mutex.Guards (fun phase => phase.holdsLock = true) t.exchangeLock t.callers)
    (hcallers : t.callers = Function.update s.callers k phase)
    (hwriter : ∀ w, t.activeWriter = some w → phase.active = some w ∨
      s.activeWriter = some w ∧ (s.callers k).active = none)
    (hclosed : t.closed = true → phase.holdsLock = false ∧
      (s.closed = true ∨ s.exchangeLock = none)) : Exclusive t where
  guards := hguards
  active := by
    intro w ha
    rw [hcallers]
    rcases hwriter w ha with hphase | ⟨hs, hk⟩
    · exact ⟨k, by rwa [Function.update_self]⟩
    · obtain ⟨j, hj⟩ := h.active w hs
      have hne : j ≠ k := by
        rintro rfl
        rw [hk] at hj
        cases hj
      exact ⟨j, by rwa [Function.update_of_ne hne]⟩
  quiet := by
    intro hc j
    obtain ⟨hphase, hbefore⟩ := hclosed hc
    rw [hcallers]
    rcases eq_or_ne j k with rfl | hne
    · rwa [Function.update_self]
    · rw [Function.update_of_ne hne]
      rcases hbefore with hs | hl
      · exact h.quiet hs j
      · exact Bool.eq_false_iff.mpr (h.guards.not_inside hl)

/-- The lock and the callers do not depend on the connections. -/
lemma Exclusive.connections (h : Exclusive s) (connections : List Connection) :
    Exclusive { s with connections := connections } :=
  ⟨h.guards, h.active, h.quiet⟩

/-- A caller stays on its side of the lock and with its writer. -/
lemma Exclusive.goesTo (h : Exclusive s) {phase : Phase}
    (hlock : phase.holdsLock = (s.callers k).holdsLock)
    (hactive : phase.active = (s.callers k).active) : Exclusive (s.goesTo k phase) := by
  apply h.of_update (h.guards.stay (by rw [hlock])) rfl
  · intro w ha
    rw [hactive]
    cases hk : (s.callers k).active with
    | none => exact .inr ⟨ha, rfl⟩
    | some w' =>
      have hsame := h.active_of_holder (Phase.holdsLock_of_active hk) ha
      rw [hk] at hsame
      exact .inl hsame
  · exact fun hc => ⟨hlock.trans (h.quiet hc k), .inl hc⟩

/-- The holder of the lock releases it, once it has no writer. -/
lemma Exclusive.release (h : Exclusive s) (hk : (s.callers k).holdsLock = true)
    (hactive : (s.callers k).active = none) (call : Call) (outcome : Outcome) :
    Exclusive (s.release k call outcome) := by
  have hout : ¬ (Phase.finished call outcome).holdsLock = true := Bool.false_ne_true
  apply h.of_update (h.guards.release hk hout) rfl
  · exact fun w ha => .inr ⟨ha, hactive⟩
  · exact fun hc => ⟨rfl, .inl hc⟩

/-- The `finally` block leaves no active writer. -/
lemma Exclusive.leave (h : Exclusive s) {w : ℕ} (hk : (s.callers k).active = some w)
    (r : Option UInt8) (outcome : Outcome) : Exclusive (s.leave k r w outcome) := by
  have hlock := Phase.holdsLock_of_active hk
  apply h.of_update (h.guards.stay (iff_of_true rfl hlock)) rfl
  · intro w' ha
    have hkept : (if s.activeWriter = some w then none else s.activeWriter) = some w' := ha
    split at hkept
    · cases hkept
    · rename_i hne
      have hsame := h.active_of_holder hlock hkept
      rw [hk] at hsame
      rw [hkept, hsame] at hne
      exact absurd rfl hne
  · intro hc
    rw [h.quiet hc k] at hlock
    cases hlock

lemma Exclusive.closedWriter (h : Exclusive s) {call call' : Call} {w : ℕ} {outcome : Outcome}
    (hk : s.callers k = .closing call w outcome) :
    Exclusive (s.closedWriter k reconnectDelay call' outcome) := by
  rw [State.closedWriter]
  split
  · apply h.goesTo
    · rw [hk]
      rfl
    · rw [hk]
      rfl
  · apply h.release
    · rw [hk]
      rfl
    · rw [hk]
      rfl

/-- One step keeps the callers apart. -/
lemma Exclusive.step (h : Exclusive s) (hst : step reconnectDelay s e = some t) : Exclusive t := by
  cases Rule.of_step hst with
  | called hk | withdrawn hk | refused hk _ | closedAgain hk _ =>
    apply h.goesTo
    · rw [hk]
      rfl
    · rw [hk]
      rfl
  | connects hk hl hc =>
    apply h.of_update (h.guards.acquire hl rfl) rfl
    · exact fun w ha => .inr ⟨ha, by rw [hk]; rfl⟩
    · intro hclosed
      have hs : s.closed = true := hclosed
      rw [hc] at hs
      cases hs
  | closes hk hl =>
    apply h.of_update (h.guards.stay (by rw [hk]; rfl)) rfl
    · exact fun w ha => .inr ⟨ha, by rw [hk]; rfl⟩
    · exact fun _ => ⟨rfl, .inr hl⟩
  | closesActive hk hl ha =>
    rw [h.activeWriter_of_free hl] at ha
    cases ha
  | @connected k r sent hk =>
    have hlock : (s.callers k).holdsLock = true := by rw [hk]; rfl
    apply h.of_update (h.guards.stay (iff_of_true rfl hlock)) rfl
    · exact fun w ha => .inl ha
    · intro hc
      rw [h.quiet hc k] at hlock
      cases hlock
  | connectFailed hk | cancelConnect hk | delayed hk | cancelDelay hk | cancelClose hk =>
    apply h.release
    · rw [hk]
      rfl
    · rw [hk]
      rfl
  | goesOn hgoes =>
    obtain ⟨w, hbefore, hafter⟩ := hgoes.active
    apply h.goesTo
    · rw [Phase.holdsLock_of_active hbefore, Phase.holdsLock_of_active hafter]
    · rw [hbefore, hafter]
  | leaves hleaves => exact h.leave hleaves.active _ _
  | waited hk _ => exact h.closedWriter hk
  | closeTimeout hk => exact (h.connections _).closedWriter hk
  | flushed => exact h.connections _
  | lost => exact h.connections _

/-- Nothing has happened yet. -/
lemma Exclusive.init : Exclusive {} where
  guards _ := iff_of_false Bool.false_ne_true (Option.some_ne_none _).symm
  active _ ha := by cases ha
  quiet hc := by cases hc

lemma exclusive_of_reachable (h : Transition.Reachable (LsxClient.step reconnectDelay) {} s) :
    Exclusive s := by
  refine h.invariant (I := Exclusive) .init ?_
  intro s t e _ hs _ hst
  exact hs.step hst

end LsxClient

end KefLsx
