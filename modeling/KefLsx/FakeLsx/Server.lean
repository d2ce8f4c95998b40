import Mathlib.Algebra.Order.Ring.Nat
import KefLsx.Core.Framing
import KefLsx.Protocol.Encoding

/-!
# The speaker at the other end

`tests/fake_lsx.py`: the stateful speaker that the integration is tested against, when it follows
no script. A connection handler reads chunks, takes complete commands off the front of its buffer
and executes each of them on the state of the speaker (`_auto_reply`).

Seen through its commands the speaker is a file of registers: a GET answers the value of its
register, and an accepted SET changes this value and no other.
-/

namespace KefLsx

namespace FakeLsx

open Framing

/-! ### State and tables -/

/-- The keys of `_STANDBY_OFFSET`. -/
inductive Standby where
  | twenty
  | sixty
  | never
deriving DecidableEq

/-- The key itself. -/
def Standby.minutes : Standby → Option ℤ
  | twenty => some 20
  | sixty => some 60
  | never => none

/-- `SpeakerState`. The volume register has seven bits for the level. -/
structure SpeakerState where
  power : Bool := true
  source : Source := .opt
  standby : Standby := .never
  inverse : Bool := false
  volume : ℕ := 20
  muted : Bool := false
  volume_lt : volume < 128 := by decide
deriving DecidableEq

/-- `_SOURCE_BASE`. -/
def sourceBase : Source → ℕ
  | .wifi => 2
  | .bluetooth => 9
  | .aux => 10
  | .opt => 11

/-- `_STANDBY_OFFSET`. -/
def standbyOffset : Standby → ℕ
  | .twenty => 0
  | .sixty => 16
  | .never => 32

/-- `_SOURCE_CODES`. -/
def sourceCodes : List (ℕ × Source × Standby × Bool) :=
  [Source.wifi, .bluetooth, .aux, .opt].flatMap fun source =>
    [Standby.twenty, .sixty, .never].flatMap fun standby =>
      [false, true].map fun inverse =>
        (sourceBase source + standbyOffset standby + (if inverse then 64 else 0),
          source, standby, inverse)

/-! ### Commands -/

/-- `Command`: the register, and the value that a SET gives it. The source keeps the bytes too,
which these two determine. -/
structure Command where
  register : UInt8
  value : Option UInt8
deriving DecidableEq

/-- `Command.raw`. -/
def Command.raw (command : Command) : List UInt8 :=
  match command.value with
  | none => [Wire.get, command.register, Wire.getMarker]
  | some value => [Wire.set, command.register, Wire.setMarker, value]

/-- What ends a connection handler: the `ValueError`s of `_handle` and of `_parse`. -/
inductive HandlerError where
  | unknownLeader (leader : UInt8)
  | malformedGet (raw : List UInt8)
  | malformedSet (raw : List UInt8)
deriving DecidableEq

/-- `_parse`, of as many bytes as the leader announces. -/
def parse (raw : List UInt8) : Except HandlerError Command :=
  if raw.getD 0 0 = Wire.get then
    if raw.getD 2 0 ≠ Wire.getMarker then .error (.malformedGet raw)
    else .ok ⟨raw.getD 1 0, none⟩
  else if raw.getD 2 0 ≠ Wire.setMarker then .error (.malformedSet raw)
  else .ok ⟨raw.getD 1 0, some (raw.getD 3 0)⟩

/-- The body of the loop `while len(buffer) >= 3`: what stands at the front of the buffer. -/
def nextCommand (buffer : List UInt8) : Next Command HandlerError :=
  if buffer.length < 3 then .more
  else
    let leader := buffer.getD 0 0
    let length := if leader = Wire.get then 3 else if leader = Wire.set then 4 else 0
    if length = 0 then .bad (.unknownLeader leader)
    else if buffer.length < length then .more
    else
      match parse (buffer.take length) with
      | .error e => .bad e
      | .ok command => .frame command length

/-- `get_reply`. -/
def getReply (register value : UInt8) (trailer : UInt8 := 0) : List UInt8 :=
  [Wire.response, register, Wire.setMarker, value, trailer]

/-- `SET_OK`. -/
def setOk : List UInt8 := [Wire.response, Wire.setOkStatus, Wire.frameEnd]

/-- The reply to a SET of a source code that the speaker does not know. -/
def rejected : List UInt8 := [Wire.response, 0x12, Wire.frameEnd]

namespace SpeakerState

variable (s : SpeakerState)

/-- The value of the source register. -/
def sourceValue : ℕ :=
  sourceBase s.source + standbyOffset s.standby + (if s.inverse then 64 else 0) +
    (if s.power then 0 else 128)

/-- The value of the volume register. -/
def volumeValue : ℕ := s.volume + (if s.muted then 128 else 0)

/-- The value with which a GET of the register is answered. -/
def register (register : UInt8) : UInt8 :=
  if register = Wire.sourceRegister then UInt8.ofNat s.sourceValue
  else if register = Wire.volumeRegister then UInt8.ofNat s.volumeValue
  else 0

/-- `_auto_reply`, for a SET. A source code that is not known is rejected after the power bit has
been taken over. -/
def set (register value : UInt8) : List UInt8 × SpeakerState :=
  if register = Wire.sourceRegister then
    let s := { s with power := value < 128 }
    match sourceCodes.lookup (value.toNat % 128) with
    | none => (rejected, s)
    | some (source, standby, inverse) =>
      (setOk, { s with source := source, standby := standby, inverse := inverse })
  else if register = Wire.volumeRegister then
    (setOk, { s with
      muted := 128 ≤ value
      volume := value.toNat % 128
      volume_lt := Nat.mod_lt _ (by decide) })
  else (setOk, s)

/-- `_auto_reply`. -/
def autoReply (command : Command) : List UInt8 × SpeakerState :=
  match command.value with
  | none => (getReply command.register (s.register command.register), s)
  | some value => s.set command.register value

/-- The replies to a sequence of commands, and the state after it. -/
def autoReplies : SpeakerState → List Command → List (List UInt8) × SpeakerState
  | s, [] => ([], s)
  | s, command :: commands =>
    let after := autoReplies (s.autoReply command).2 commands
    ((s.autoReply command).1 :: after.1, after.2)

end SpeakerState

/-! ### A file of registers -/

variable {s : SpeakerState} {register value : UInt8}

/-- A code of the table is the sum that it was made of. -/
lemma code_of_lookup {n : ℕ} (hn : n < 128) {source : Source} {standby : Standby} {inverse : Bool}
    (h : sourceCodes.lookup n = some (source, standby, inverse)) :
    sourceBase source + standbyOffset standby + (if inverse then 64 else 0) = n := by
  have hcodes : ∀ n : Fin 128, ((sourceCodes.lookup n.val).all fun code =>
      sourceBase code.1 + standbyOffset code.2.1 + (if code.2.2 then 64 else 0) == n.val) =
        true := by
    decide +kernel
  have hcode := hcodes ⟨n, hn⟩
  rw [h] at hcode
  simpa using hcode

lemma sourceValue_lt (s : SpeakerState) : s.sourceValue < 256 := by
  unfold SpeakerState.sourceValue
  cases s.source <;> cases s.standby <;> cases s.inverse <;> cases s.power <;> decide

lemma volumeValue_lt (s : SpeakerState) : s.volumeValue < 256 := by
  have hlt := s.volume_lt
  unfold SpeakerState.volumeValue
  split <;> omega

/-- The value of the source register after an accepted SET of it. -/
lemma sourceValue_of_code {t : SpeakerState} (hpower : t.power = decide (value < 128))
    (hcode : sourceBase t.source + standbyOffset t.standby + (if t.inverse then 64 else 0) =
      value.toNat % 128) : t.sourceValue = value.toNat := by
  have hlt := value.toNat_lt
  rw [SpeakerState.sourceValue, hcode, hpower]
  by_cases hv : value < 128
  · have hnat : value.toNat < 128 := UInt8.lt_iff_toNat_lt.mp hv
    simp only [hv, decide_true, if_true]
    omega
  · have hnat : ¬ value.toNat < 128 := fun h => hv (UInt8.lt_iff_toNat_lt.mpr h)
    simp only [hv, decide_false, if_neg Bool.false_ne_true]
    omega

/-- The value of the volume register after a SET of it. -/
lemma volumeValue_set : (s.set Wire.volumeRegister value).2.volumeValue = value.toNat := by
  have hlt := value.toNat_lt
  have hset : s.set Wire.volumeRegister value = (setOk, { s with
      muted := 128 ≤ value
      volume := value.toNat % 128
      volume_lt := Nat.mod_lt _ (by decide) }) := rfl
  rw [hset]
  simp only [SpeakerState.volumeValue]
  by_cases hv : 128 ≤ value
  · have hnat : 128 ≤ value.toNat := UInt8.le_iff_toNat_le.mp hv
    simp only [hv, decide_true, if_true]
    omega
  · have hnat : ¬ 128 ≤ value.toNat := fun h => hv (UInt8.le_iff_toNat_le.mpr h)
    simp only [hv, decide_false, if_neg Bool.false_ne_true]
    omega

lemma rejected_ne_setOk : rejected ≠ setOk := by decide

/-- A SET of the source register sets the four fields that the register packs, or the power bit
alone. -/
lemma set_source_cases (s : SpeakerState) (value : UInt8) :
    (sourceCodes.lookup (value.toNat % 128) = none ∧
        s.set Wire.sourceRegister value = (rejected, { s with power := value < 128 })) ∨
      ∃ source standby inverse,
        sourceCodes.lookup (value.toNat % 128) = some (source, standby, inverse) ∧
        s.set Wire.sourceRegister value = (setOk,
          { s with power := value < 128, source := source, standby := standby,
                   inverse := inverse }) := by
  simp only [SpeakerState.set, if_true]
  cases h : sourceCodes.lookup (value.toNat % 128) with
  | none => exact .inl ⟨rfl, rfl⟩
  | some code => exact .inr ⟨code.1, code.2.1, code.2.2, rfl, rfl⟩

/-- The registers that hold the state of the speaker. -/
def Stored (register : UInt8) : Prop :=
  register = Wire.sourceRegister ∨ register = Wire.volumeRegister

/-- What an accepted SET wrote is what a GET of the register reads back, and the other registers
keep their values. -/
theorem register_set (hreg : Stored register) (h : (s.set register value).1 = setOk) :
    (s.set register value).2.register register = value ∧
      ∀ register', register' ≠ register →
        (s.set register value).2.register register' = s.register register' := by
  rcases hreg with rfl | rfl
  · rcases set_source_cases s value with ⟨-, hset⟩ | ⟨source, standby, inverse, hlookup, hset⟩
    · rw [hset] at h
      exact absurd h rejected_ne_setOk
    · rw [hset]
      refine ⟨?_, ?_⟩
      · have hcode := code_of_lookup (Nat.mod_lt _ (by decide)) hlookup
        simp only [SpeakerState.register, if_true]
        rw [sourceValue_of_code rfl hcode, UInt8.ofNat_toNat]
      · intro register' hne
        simp only [SpeakerState.register, if_neg hne]
        rfl
  · refine ⟨?_, ?_⟩
    · have hvalue : (s.set Wire.volumeRegister value).2.register Wire.volumeRegister =
          UInt8.ofNat (s.set Wire.volumeRegister value).2.volumeValue := rfl
      rw [hvalue, volumeValue_set, UInt8.ofNat_toNat]
    · intro register' hne
      by_cases hsource : register' = Wire.sourceRegister
      · subst hsource
        rfl
      · simp only [SpeakerState.register, if_neg hsource, if_neg hne]

/-- A SET that is executed twice has the effect and the reply of the first time. -/
theorem set_set : (s.set register value).2.set register value = s.set register value := by
  by_cases hsource : register = Wire.sourceRegister
  · subst hsource
    rcases set_source_cases s value with ⟨hlookup, hset⟩ | ⟨source, standby, inverse, hlookup, hset⟩
    · rw [hset]
      simp [SpeakerState.set, hlookup]
    · rw [hset]
      simp [SpeakerState.set, hlookup]
  · by_cases hvolume : register = Wire.volumeRegister
    · subst hvolume
      rfl
    · simp [SpeakerState.set, hsource, hvolume]

/-- Commands that come later find the state that the earlier ones left. -/
lemma autoReplies_append {commands commands' : List Command} :
    s.autoReplies (commands ++ commands') =
      ((s.autoReplies commands).1 ++ ((s.autoReplies commands).2.autoReplies commands').1,
        ((s.autoReplies commands).2.autoReplies commands').2) := by
  induction commands generalizing s with
  | nil => rfl
  | cons command commands ih => simp [SpeakerState.autoReplies, ih]

/-! ### A connection -/

/-- What `_handle` keeps for one connection, and the state of the server that it works on. -/
structure Handler where
  buffer : List UInt8 := []
  commands : List Command := []
  replies : List (List UInt8) := []
  state : SpeakerState
deriving DecidableEq

namespace Handler

/-- Execute the command that stands in the first `k` bytes of the buffer. -/
def execute (h : Handler) (command : Command) (k : ℕ) : Handler :=
  { buffer := h.buffer.drop k
    commands := h.commands ++ [command]
    replies := h.replies ++ [(h.state.autoReply command).1]
    state := (h.state.autoReply command).2 }

/-- The loop over the commands of the buffer, at most `n` of them. -/
def drain : ℕ → Handler → Except HandlerError Handler
  | 0, h => .ok h
  | n + 1, h =>
    match nextCommand h.buffer with
    | .more => .ok h
    | .bad e => .error e
    | .frame command k => drain n (h.execute command k)

/-- One turn of the loop `while chunk := await reader.read(100)`. -/
def feed (h : Handler) (chunk : List UInt8) : Except HandlerError Handler :=
  let buffer := h.buffer ++ chunk
  drain buffer.length { h with buffer := buffer }

/-- `_handle`, from one state of the buffer on. -/
def handle : Handler → List (List UInt8) → Except HandlerError Handler
  | h, [] => .ok h
  | h, chunk :: chunks => (h.feed chunk).bind fun h => handle h chunks

end Handler

@[simp] lemma set_ne_get : (Wire.set = Wire.get) = False := by decide

/-- The front of the buffer is the command that was written there. -/
lemma nextCommand_raw_append (command : Command) (rest : List UInt8) :
    nextCommand (command.raw ++ rest) = .frame command command.raw.length := by
  obtain ⟨register, _ | value⟩ := command
  · have hlen : ¬ rest.length + 1 + 1 + 1 < 3 := by omega
    simp [Command.raw, nextCommand, parse, hlen]
  · have hlen : ¬ rest.length + 1 + 1 + 1 + 1 < 3 := by omega
    have hlen' : ¬ rest.length + 1 + 1 + 1 + 1 < 4 := by omega
    simp [Command.raw, nextCommand, parse, hlen, hlen']

/-- A command that has not arrived as a whole is waited for. -/
lemma nextCommand_of_prefix {command : Command} {b : List UInt8} (h : b <+: command.raw)
    (hlt : b.length < command.raw.length) : nextCommand b = .more := by
  by_cases hshort : b.length < 3
  · rw [nextCommand, if_pos hshort]
  obtain ⟨rest, hrest⟩ := h
  obtain ⟨register, _ | value⟩ := command
  · exact absurd hlt hshort
  · -- three bytes of a SET have arrived
    have hthree : b.length = 3 := by
      have hfour : b.length < 4 := hlt
      omega
    obtain ⟨x, y, z, rfl⟩ := List.length_eq_three.mp hthree
    simp only [Command.raw, List.cons_append, List.nil_append, List.cons.injEq] at hrest
    simp [nextCommand, hrest]

/-- The bytes of a sequence of commands. -/
def stream (commands : List Command) : List UInt8 := commands.flatMap Command.raw

/-- A beginning of the stream is a number of whole commands, and a beginning of the next. -/
lemma exists_split {commands : List Command} {b : List UInt8} (h : b <+: stream commands) :
    ∃ done rest p, commands = done ++ rest ∧ b = stream done ++ p ∧ nextCommand p = .more := by
  induction commands generalizing b with
  | nil =>
    obtain rfl : b = [] := List.prefix_nil.mp h
    exact ⟨[], [], [], rfl, rfl, rfl⟩
  | cons command commands ih =>
    have hraw : command.raw <+: stream (command :: commands) := List.prefix_append _ _
    rcases Nat.lt_or_ge b.length command.raw.length with hlt | hge
    · have hpre : b <+: command.raw := List.prefix_of_prefix_length_le h hraw hlt.le
      exact ⟨[], command :: commands, b, rfl, rfl, nextCommand_of_prefix hpre hlt⟩
    · obtain ⟨c, rfl⟩ := List.prefix_of_prefix_length_le hraw h hge
      have hc : c <+: stream commands := (List.prefix_append_right_inj command.raw).mp h
      obtain ⟨done, rest, p, rfl, rfl, hmore⟩ := ih hc
      exact ⟨command :: done, rest, p, rfl, by simp [stream], hmore⟩

lemma length_le_of_stream {commands : List Command} {b p : List UInt8}
    (h : b = stream commands ++ p) : commands.length ≤ b.length := by
  induction commands generalizing b with
  | nil => exact Nat.zero_le _
  | cons command commands ih =>
    have hlength := ih (b := stream commands ++ p) rfl
    have hraw : 3 ≤ command.raw.length := by
      obtain ⟨register, _ | value⟩ := command <;> simp [Command.raw]
    have hb : b.length = command.raw.length + (stream commands ++ p).length := by
      rw [h]
      simp [stream]
    rw [List.length_cons]
    omega

namespace Handler

/-- The handler after it has executed these commands. -/
def after (h : Handler) (commands : List Command) (buffer : List UInt8) : Handler :=
  { buffer := buffer
    commands := h.commands ++ commands
    replies := h.replies ++ (h.state.autoReplies commands).1
    state := (h.state.autoReplies commands).2 }

/-- The loop executes the whole commands of the buffer in their order, and keeps the rest. -/
lemma drain_stream {h : Handler} {commands : List Command} {p : List UInt8} {n : ℕ}
    (hbuffer : h.buffer = stream commands ++ p) (hmore : nextCommand p = .more)
    (hn : commands.length ≤ n) : h.drain n = .ok (h.after commands p) := by
  induction commands generalizing h n with
  | nil =>
    have hafter : h.after [] p = h := by
      cases h
      simp_all [after, stream, SpeakerState.autoReplies]
    cases n with
    | zero => rw [hafter, drain]
    | succ n =>
      have hnext : nextCommand h.buffer = .more := by
        rw [hbuffer]
        exact hmore
      rw [hafter, drain, hnext]
  | cons command commands ih =>
    cases n with
    | zero => simp at hn
    | succ n =>
      have hfront : h.buffer = command.raw ++ (stream commands ++ p) := by
        rw [hbuffer]
        simp [stream]
      have hnext : nextCommand h.buffer = .frame command command.raw.length := by
        rw [hfront]
        exact nextCommand_raw_append command _
      have hdrop : (h.execute command command.raw.length).buffer = stream commands ++ p := by
        rw [execute, hfront]
        exact List.drop_left
      have hrest := ih hdrop (Nat.le_of_succ_le_succ hn)
      rw [drain, hnext]
      refine hrest.trans ?_
      simp [after, execute, SpeakerState.autoReplies]

lemma after_after {h : Handler} {commands commands' : List Command} {p q : List UInt8} :
    (h.after commands p).after commands' q = h.after (commands ++ commands') q := by
  simp [after, autoReplies_append]

/-- However a stream of commands is cut into chunks, each of them is executed once and in its
order, and a command that is cut short by the end of the stream is not executed. -/
theorem handle_stream {h : Handler} {chunks : List (List UInt8)} {commands : List Command}
    {command : Command} {p : List UInt8} (hmore : nextCommand h.buffer = .more)
    (hstream : h.buffer ++ chunks.flatten = stream commands ++ p) (hp : p <+: command.raw)
    (hlt : p.length < command.raw.length) : h.handle chunks = .ok (h.after commands p) := by
  induction chunks generalizing h commands with
  | nil =>
    -- the stream is what the buffer waits with
    have hbuffer : h.buffer = stream commands ++ p := by simpa using hstream
    have hnil : commands = [] := by
      cases commands with
      | nil => rfl
      | cons command' commands =>
        have hfront : h.buffer = command'.raw ++ (stream commands ++ p) := by
          rw [hbuffer]
          simp [stream]
        rw [hfront, nextCommand_raw_append] at hmore
        cases hmore
    subst hnil
    have hafter : h.after [] p = h := by
      cases h
      simp_all [after, stream, SpeakerState.autoReplies]
    rw [hafter, handle]
  | cons chunk chunks ih =>
    have hwhole : h.buffer ++ chunk <+: stream (commands ++ [command]) := by
      obtain ⟨rest, hrest⟩ := hp
      refine ⟨chunks.flatten ++ rest, ?_⟩
      have hsplit : h.buffer ++ chunk ++ (chunks.flatten ++ rest) =
          (h.buffer ++ (chunk :: chunks).flatten) ++ rest := by simp
      rw [hsplit, hstream]
      simp [stream, hrest]
    obtain ⟨done, rest, q, hcommands, hbuffer, hmore'⟩ := exists_split hwhole
    have hfeed : h.feed chunk = .ok (h.after done q) :=
      drain_stream (h := { h with buffer := h.buffer ++ chunk }) hbuffer hmore'
        (length_le_of_stream hbuffer)
    have hbytes : stream done ++ q ++ chunks.flatten = stream commands ++ p := by
      rw [← hbuffer, ← hstream]
      simp
    rcases List.eq_nil_or_concat rest with rfl | ⟨rest, command', rfl⟩
    · -- the cut command would have arrived as a whole
      have hlength := congrArg List.length hbytes
      rw [List.append_nil] at hcommands
      rw [← hcommands] at hlength
      simp only [stream, List.flatMap_append, List.flatMap_singleton, List.length_append]
        at hlength
      omega
    · rw [List.concat_eq_append, ← List.append_assoc] at hcommands
      obtain ⟨rfl, -⟩ := List.append_inj' hcommands rfl
      have hrest : q ++ chunks.flatten = stream rest ++ p := by
        simpa [stream, List.append_assoc] using hbytes
      rw [handle, hfeed]
      exact (ih (h := h.after done q) hmore' hrest).trans (by rw [after_after])

end Handler

end FakeLsx

end KefLsx
