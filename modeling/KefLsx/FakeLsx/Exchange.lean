import KefLsx.FakeLsx.Server
import KefLsx.Runtime.Encodable
import KefLsx.Client.Chunking

/-!
# An exchange with the speaker

The client's exchange over a connection whose other end is the speaker of `tests/fake_lsx.py`.
The request arrives in pieces and is executed once; the reply arrives in pieces, and the client
either has it as a whole or ends with an error. So a GET returns nothing but the state of the
speaker, and after an acknowledged SET it returns what was set.
-/

namespace KefLsx

open Framing LsxClient

/-! ### What the client reads of a reply -/

namespace Transcript

/-- A connection over which the peer sends these bytes, and perhaps not all of them arrive. -/
def Carries (sent : List UInt8) : Transcript → Prop
  | .connected reads _ => Delivered reads ∧ reads.flatten <+: sent
  | _ => False

/-- All of them arrive. -/
def Completes (sent : List UInt8) : Transcript → Prop
  | .connected reads _ => Delivered reads ∧ reads.flatten = sent
  | _ => False

instance (sent : List UInt8) : (t : Transcript) → Decidable (t.Carries sent)
  | .connected reads _ => inferInstanceAs (Decidable
      ((∀ read ∈ reads, 1 ≤ read.length ∧ read.length ≤ 1024) ∧ reads.flatten <+: sent))
  | .closed => inferInstanceAs (Decidable False)
  | .connectFailed _ => inferInstanceAs (Decidable False)

instance (sent : List UInt8) : (t : Transcript) → Decidable (t.Completes sent)
  | .connected reads _ => inferInstanceAs (Decidable
      ((∀ read ∈ reads, 1 ≤ read.length ∧ read.length ≤ 1024) ∧ reads.flatten = sent))
  | .closed => inferInstanceAs (Decidable False)
  | .connectFailed _ => inferInstanceAs (Decidable False)

variable {sent : List UInt8} {t : Transcript}

lemma Completes.carries (h : t.Completes sent) : t.Carries sent := by
  cases t with
  | connected reads ending => exact ⟨h.1, h.2 ▸ List.prefix_rfl⟩
  | _ => exact h

end Transcript

namespace LsxClient

variable {register : Option UInt8} {t : Transcript} {result : Except LsxError (Option GetFrame)}

/-- A settling frame that arrives as a whole settles the exchange, however its bytes are cut and
whatever happens to the connection after them. -/
lemma exchange_of_completes (frame : ResponseFrame) (h : t.Completes frame.bytes)
    (hv : (settled register frame).verdict = some result) (hs : settles register frame = true) :
    exchange register t = raised result := by
  cases t with
  | connected reads ending =>
    obtain ⟨hreads, hflat⟩ := h
    have hverdict : verdict register [frame] = some result := by
      rw [verdict, examine_cons_of_le (by decide), if_pos hs, hv]
    have hstream : reads.flatten = [frame].flatMap ResponseFrame.bytes ++ [] := by simp [hflat]
    have hscan : responseFramer.scan reads.flatten = .ok ([frame], []) :=
      Framer.scan_eq_ok_iff.mpr ⟨hstream, rfl⟩
    obtain ⟨result', hends, heq⟩ : ∃ result', Concludes register ending reads result' ∧ _ :=
      exists_concludes hreads
    rw [heq]
    cases hends with
    | settled d _ hat =>
      have hverdict' := (hat.verdict_eq hstream (ne_frame_of_more rfl)).1
      rw [hverdict] at hverdict'
      cases hverdict'
      rfl
    | refused message hrefused =>
      rw [hscan] at hrefused
      cases hrefused
    | ended frames rest hscan' hnone =>
      rw [hscan] at hscan'
      cases hscan'
      rw [hverdict] at hnone
      cases hnone
  | _ => exact h.elim

/-- A frame of which some bytes are missing settles nothing. -/
lemma exchange_of_not_completes (register : Option UInt8) (frame : ResponseFrame)
    (h : t.Carries frame.bytes) (hnot : ¬ t.Completes frame.bytes) :
    ∃ e, exchange register t = .error e ∧ e.isRejection = false ∧ e.writeAttempted = true := by
  cases t with
  | connected reads ending =>
    obtain ⟨hreads, hpre⟩ := h
    have hmore : nextFrame reads.flatten = .more :=
      nextFrame_more_iff.mpr ⟨frame, hpre, fun heq => hnot ⟨hreads, heq⟩⟩
    have hscan : responseFramer.scan reads.flatten = .ok ([], reads.flatten) :=
      Framer.scan_of_more hmore
    obtain ⟨result', hends, heq⟩ : ∃ result', Concludes register ending reads result' ∧ _ :=
      exists_concludes hreads
    cases hends with
    | settled d _ hat =>
      have hverdict : verdict register [] = some _ ∧ _ :=
        hat.verdict_eq rfl (ne_frame_of_more hmore)
      cases hverdict.1
    | refused message hrefused =>
      rw [hscan] at hrefused
      cases hrefused
    | ended frames rest hscan' hnone =>
      exact ⟨_, heq, isRejection_endError, rfl⟩
  | _ => exact h.elim

end LsxClient

/-! ### GET -/

namespace FakeLsx

variable {s : SpeakerState} {register value trailer : UInt8} {t : Transcript}

/-- The client has the frame of the reply, or an error that is no rejection. -/
lemma exchange_getReply (h : t.Carries (getReply register value trailer)) :
    (t.Completes (getReply register value trailer) ∧
        exchange (some register) t = .ok (some ⟨register, value, trailer⟩)) ∨
      ¬ t.Completes (getReply register value trailer) ∧
        ∃ e, exchange (some register) t = .error e ∧ e.isRejection = false ∧
          e.writeAttempted = true := by
  by_cases hc : t.Completes (getReply register value trailer)
  · refine .inl ⟨hc, ?_⟩
    have hs : settles (some register) (.get ⟨register, value, trailer⟩) = true := by simp [settles]
    exact exchange_of_completes (.get ⟨register, value, trailer⟩) hc rfl hs
  · exact .inr ⟨hc, exchange_of_not_completes _ (.get ⟨register, value, trailer⟩) h hc⟩

/-- `async_get_source` returns what the whole reply decodes to. -/
lemma asyncGetSource_eq_ok_iff {status : SourceStatus}
    (h : t.Carries (getReply Wire.sourceRegister value trailer)) :
    asyncGetSource t = .ok status ↔ t.Completes (getReply Wire.sourceRegister value trailer) ∧
      decodeSourceValue value.toNat = .ok status := by
  rcases exchange_getReply h with ⟨hc, heq⟩ | ⟨hc, e, heq, -⟩
  · simp only [asyncGetSource, heq, hc, true_and]
    cases decodeSourceValue value.toNat <;> simp
  · simp [asyncGetSource, heq, hc]

/-- `async_get_volume` returns what the whole reply decodes to. -/
lemma asyncGetVolume_eq_ok_iff {status : VolumeStatus}
    (h : t.Carries (getReply Wire.volumeRegister value trailer)) :
    asyncGetVolume t = .ok status ↔ t.Completes (getReply Wire.volumeRegister value trailer) ∧
      decodeVolumeValue value.toNat = .ok status := by
  rcases exchange_getReply h with ⟨hc, heq⟩ | ⟨hc, e, heq, -⟩
  · simp only [asyncGetVolume, heq, hc, true_and]
    cases decodeVolumeValue value.toNat <;> simp
  · simp [asyncGetVolume, heq, hc]

lemma toNat_register_source (s : SpeakerState) :
    (s.register Wire.sourceRegister).toNat = s.sourceValue := by
  rw [SpeakerState.register, if_pos rfl, UInt8.toNat_ofNat']
  exact Nat.mod_eq_of_lt (sourceValue_lt s)

lemma toNat_register_volume (s : SpeakerState) :
    (s.register Wire.volumeRegister).toNat = s.volumeValue := by
  rw [SpeakerState.register, if_neg (by decide), if_pos rfl, UInt8.toNat_ofNat']
  exact Nat.mod_eq_of_lt (volumeValue_lt s)

/-- The value of the source register decodes to the four fields that it packs. -/
lemma decode_sourceRegister (s : SpeakerState) :
    decodeSourceValue (s.register Wire.sourceRegister).toNat =
      .ok ⟨s.source, s.standby.minutes, s.inverse, s.power⟩ := by
  rw [toNat_register_source, SpeakerState.sourceValue]
  cases s.power <;> cases s.source <;> cases s.standby <;> cases s.inverse <;> rfl

/-- The value of the volume register decodes to the level and the mute bit, unless the level is
no percentage. -/
lemma decode_volumeRegister {status : VolumeStatus} :
    decodeVolumeValue (s.register Wire.volumeRegister).toNat = .ok status ↔
      status.volume = s.volume ∧ status.muted = s.muted := by
  have hlt := s.volume_lt
  have hbyte : (0 : ℤ) ≤ s.volumeValue ∧ (s.volumeValue : ℤ) ≤ 0xFF := by
    have hval := volumeValue_lt s
    omega
  have hmod : (s.volumeValue : ℤ) % 0x80 = s.volume := by
    simp only [SpeakerState.volumeValue]
    split <;> omega
  have hmute : decide ((0x80 : ℤ) ≤ s.volumeValue) = s.muted := by
    simp only [SpeakerState.volumeValue]
    by_cases hm : s.muted = true
    · simp [hm]
    · simp [hm]
      omega
  rw [toNat_register_volume, decodeVolumeValue, if_pos hbyte]
  constructor
  · intro h
    split at h
    · cases h
      exact ⟨hmod, hmute⟩
    · cases h
  · rintro ⟨hvolume, hmuted⟩
    have hle := status.volume_le
    rw [dif_pos (by omega)]
    obtain ⟨volume, muted, hnonneg, hle'⟩ := status
    simp only [Except.ok.injEq, VolumeStatus.mk.injEq]
    exact ⟨hmod.trans hvolume.symm, hmute.trans hmuted.symm⟩

/-! ### The whole exchange -/

/-- The speaker executes the request of a connection and replies. -/
def SpeakerState.receive (s : SpeakerState) (request : List UInt8) : List UInt8 × SpeakerState :=
  match nextCommand request with
  | .frame command _ => s.autoReply command
  | _ => ([], s)

@[simp] lemma receive_raw (command : Command) : s.receive command.raw = s.autoReply command := by
  have hnext := nextCommand_raw_append command []
  rw [List.append_nil] at hnext
  rw [SpeakerState.receive, hnext]

/-- The handler of a connection does this once, when the last byte of the request has arrived. -/
lemma handle_raw {chunks : List (List UInt8)} {command : Command}
    (h : chunks.flatten = command.raw) :
    Handler.handle { state := s } chunks = .ok
      { commands := [command], replies := [(s.receive command.raw).1],
        state := (s.receive command.raw).2 } := by
  have hstream : ([] : List UInt8) ++ chunks.flatten = stream [command] ++ [] := by
    simp [stream, h]
  have hpos : 0 < command.raw.length := by
    obtain ⟨register, _ | value⟩ := command <;> simp [Command.raw]
  have hrun := Handler.handle_stream (h := { state := s }) rfl hstream
    (List.nil_prefix (l := command.raw)) hpos
  rw [hrun, receive_raw]
  rfl

/-- A source GET reads what the speaker stores, if it gets the whole reply. -/
lemma asyncGetSource_receive (s : SpeakerState) {t : Transcript}
    (h : t.Carries (s.receive (encodeGet Wire.sourceRegister)).1) (status : SourceStatus) :
    asyncGetSource t = .ok status ↔
      t.Completes (s.receive (encodeGet Wire.sourceRegister)).1 ∧
        status = ⟨s.source, s.standby.minutes, s.inverse, s.power⟩ := by
  have hget : s.receive (encodeGet Wire.sourceRegister) =
      (getReply Wire.sourceRegister (s.register Wire.sourceRegister), s) :=
    receive_raw ⟨Wire.sourceRegister, none⟩
  rw [hget] at h ⊢
  rw [asyncGetSource_eq_ok_iff h, decode_sourceRegister, Except.ok.injEq, eq_comm (b := status)]

/-- A volume GET reads what the speaker stores, if it gets the whole reply. -/
lemma asyncGetVolume_receive (s : SpeakerState) {t : Transcript}
    (h : t.Carries (s.receive (encodeGet Wire.volumeRegister)).1) (status : VolumeStatus) :
    asyncGetVolume t = .ok status ↔
      t.Completes (s.receive (encodeGet Wire.volumeRegister)).1 ∧
        status.volume = s.volume ∧ status.muted = s.muted := by
  have hget : s.receive (encodeGet Wire.volumeRegister) =
      (getReply Wire.volumeRegister (s.register Wire.volumeRegister), s) :=
    receive_raw ⟨Wire.volumeRegister, none⟩
  rw [hget] at h ⊢
  rw [asyncGetVolume_eq_ok_iff h, decode_volumeRegister]

/-- A volume GET returns, with the whole reply, unless the level is no percentage. -/
lemma exists_asyncGetVolume_receive (s : SpeakerState) {t : Transcript}
    (h : t.Carries (s.receive (encodeGet Wire.volumeRegister)).1) :
    (∃ status, asyncGetVolume t = .ok status) ↔
      t.Completes (s.receive (encodeGet Wire.volumeRegister)).1 ∧ s.volume ≤ 100 := by
  constructor
  · rintro ⟨status, hstatus⟩
    obtain ⟨hc, hvolume, -⟩ := (asyncGetVolume_receive s h status).mp hstatus
    have hle := status.volume_le
    exact ⟨hc, by omega⟩
  · rintro ⟨hc, hle⟩
    let status : VolumeStatus := ⟨s.volume, s.muted, by omega, by omega⟩
    exact ⟨status, (asyncGetVolume_receive s h status).mpr ⟨hc, rfl, rfl⟩⟩

/-- For every state of the speaker, and however its reply is cut and wherever it ends: a GET returns
nothing but the state of its register. A source GET returns if it gets the whole reply, and a volume
GET if moreover the level is a percentage; otherwise they end with an error. -/
theorem get_reads_state (s : SpeakerState) (t : Transcript) :
    (t.Carries (s.receive (encodeGet Wire.sourceRegister)).1 →
      ∀ status, asyncGetSource t = .ok status ↔
        t.Completes (s.receive (encodeGet Wire.sourceRegister)).1 ∧
          status = ⟨s.source, s.standby.minutes, s.inverse, s.power⟩) ∧
    (t.Carries (s.receive (encodeGet Wire.volumeRegister)).1 →
      (∀ status, asyncGetVolume t = .ok status ↔
        t.Completes (s.receive (encodeGet Wire.volumeRegister)).1 ∧
          status.volume = s.volume ∧ status.muted = s.muted) ∧
      ((∃ status, asyncGetVolume t = .ok status) ↔
        t.Completes (s.receive (encodeGet Wire.volumeRegister)).1 ∧ s.volume ≤ 100)) :=
  ⟨fun h status => asyncGetSource_receive s h status,
    fun h => ⟨asyncGetVolume_receive s h, exists_asyncGetVolume_receive s h⟩⟩

/-- A muted speaker at level 37, whose reply arrives in two reads, and one at level 110. -/
theorem get_reads_state_muted :
    (∃ status : VolumeStatus,
      asyncGetVolume (.connected [[0x52, 0x25], [0x81, 0xA5, 0x00]] .osError) = .ok status ∧
      status.volume = 37 ∧ status.muted = true) ∧
    ¬ ∃ status, asyncGetVolume (.connected [[0x52, 0x25, 0x81, 0x6E, 0x00]] .eof) = .ok status := by
  constructor
  · let s : SpeakerState := { volume := 37, muted := true }
    have hcomplete : Transcript.Completes (s.receive (encodeGet Wire.volumeRegister)).1
        (.connected [[0x52, 0x25], [0x81, 0xA5, 0x00]] .osError) := by
      refine ⟨?_, rfl⟩
      simp [Delivered]
    obtain ⟨hread, -⟩ := (get_reads_state s
      (.connected [[0x52, 0x25], [0x81, 0xA5, 0x00]] .osError)).2 hcomplete.carries
    let status : VolumeStatus := ⟨37, true, by decide, by decide⟩
    exact ⟨status, (hread status).mpr ⟨hcomplete, rfl, rfl⟩, rfl, rfl⟩
  · let s : SpeakerState := { volume := 110 }
    have hcomplete : Transcript.Completes (s.receive (encodeGet Wire.volumeRegister)).1
        (.connected [[0x52, 0x25, 0x81, 0x6E, 0x00]] .eof) := by
      refine ⟨?_, rfl⟩
      simp [Delivered]
    obtain ⟨-, hreturns⟩ := (get_reads_state s
      (.connected [[0x52, 0x25, 0x81, 0x6E, 0x00]] .eof)).2 hcomplete.carries
    rw [hreturns]
    rintro ⟨-, hle⟩
    exact absurd hle (by decide)

/-! ### SET -/

/-- A SET succeeds with the whole acknowledgement, and with nothing else that the speaker replies
to a SET. -/
lemma asyncSet_eq_ok_iff {sent : List UInt8} (hsent : sent = setOk ∨ sent = rejected)
    (h : t.Carries sent) : asyncSet t = .ok () ↔ t.Completes sent ∧ sent = setOk := by
  obtain ⟨status, rfl⟩ : ∃ status, sent = (ResponseFrame.setStatus ⟨status⟩).bytes := by
    rcases hsent with rfl | rfl
    · exact ⟨_, rfl⟩
    · exact ⟨_, rfl⟩
  by_cases hc : t.Completes (ResponseFrame.setStatus ⟨status⟩).bytes
  · by_cases hok : status = Wire.setOkStatus
    · subst hok
      have heq : exchange none t = _ := exchange_of_completes _ hc rfl rfl
      refine iff_of_true ?_ ⟨hc, rfl⟩
      simp [asyncSet, heq, raised]
    · have hv : (settled none (.setStatus ⟨status⟩)).verdict =
          some (.error (.rejected status)) := by
        simp [settled, hok, Examined.verdict]
      have heq : exchange none t = _ := exchange_of_completes _ hc hv rfl
      simp [asyncSet, heq, raised, hok, setOk, ResponseFrame.bytes]
  · obtain ⟨e, heq, -⟩ := exchange_of_not_completes none _ h hc
    simp [asyncSet, heq, hc]

end FakeLsx

namespace EncoderCall

open FakeLsx

variable {call : EncoderCall} {request : List UInt8} {s : FakeLsx.SpeakerState}

/-- The register that the encoded request writes. -/
def register : EncoderCall → UInt8
  | setSource .. => Wire.sourceRegister
  | setVolume .. => Wire.volumeRegister

/-- The speaker is set as the call asks. -/
def Holds (s : FakeLsx.SpeakerState) : EncoderCall → Prop
  | setSource source standby inverse powerOn =>
    s.source = source ∧ s.standby.minutes = standby ∧ s.inverse = inverse ∧ s.power = powerOn
  | setVolume volume muted => s.volume = volume ∧ s.muted = muted

lemma stored_register (call : EncoderCall) : Stored call.register := by
  cases call with
  | setSource => exact .inl rfl
  | setVolume => exact .inr rfl

/-- An encoded SET is a command that the speaker accepts. -/
lemma exists_command (h : call.encode = .ok request) : ∃ value,
    request = (Command.mk call.register (some value)).raw ∧
      ∀ s : FakeLsx.SpeakerState, (s.set call.register value).1 = setOk := by
  have hrange : call.InRange := exists_encode_iff.mp ⟨request, h⟩
  cases call with
  | setSource source standby inverse powerOn =>
    rcases hrange with rfl | rfl | rfl <;> cases source <;> cases inverse <;> cases powerOn <;>
      cases h <;> exact ⟨_, rfl, fun s => rfl⟩
  | setVolume volume muted =>
    have hset : encodeSet Wire.volumeRegister (volume + (if muted then 0x80 else 0)) =
        .ok request := (if_pos hrange).symm.trans h
    generalize volume + (if muted then 0x80 else 0) = value at hset
    simp only [encodeSet] at hset
    split at hset
    · cases hset
      exact ⟨_, rfl, fun s => rfl⟩
    · cases hset

/-- The speaker accepts an encoded SET: it is set as the call asks, keeps its other register, and
remains as it is when the request is repeated. -/
theorem receive_encode (h : call.encode = .ok request) :
    (s.receive request).1 = setOk ∧ call.Holds (s.receive request).2 ∧
      (∀ register, register ≠ call.register →
        (s.receive request).2.register register = s.register register) ∧
      (s.receive request).2.receive request = s.receive request := by
  obtain ⟨value, rfl, hok⟩ := exists_command h
  have hreceive : ∀ s : FakeLsx.SpeakerState, s.receive (Command.raw ⟨call.register, some value⟩) =
      s.set call.register value := fun s => receive_raw _
  obtain ⟨hread, hother⟩ := register_set (stored_register call) (hok s)
  simp only [hreceive]
  refine ⟨hok s, ?_, hother, set_set⟩
  cases call with
  | setSource source standby inverse powerOn =>
    have hdecode := decode_sourceRegister (s.set Wire.sourceRegister value).2
    have hwritten := decode_encodeSetSource h
    simp only [register] at hread
    rw [hread] at hdecode
    have hsame := Except.ok.inj (hdecode.symm.trans hwritten)
    simpa [Holds, register] using hsame
  | setVolume volume muted =>
    obtain ⟨status, hstatus, hvolume, hmuted⟩ := decode_encodeSetVolume h
    simp only [register] at hread
    have hvalue : requestValue (Command.raw ⟨Wire.volumeRegister, some value⟩) = value.toNat := rfl
    simp only [register, hvalue] at hstatus
    rw [← hread] at hstatus
    obtain ⟨hlevel, hmute⟩ := decode_volumeRegister.mp hstatus
    exact ⟨hlevel.symm.trans hvolume, hmute.symm.trans hmuted⟩

/-- A GET of the register returns what the call set. -/
def ReadsBack (t : Transcript) : EncoderCall → Prop
  | setSource source standby inverse powerOn =>
    asyncGetSource t = .ok ⟨source, standby, inverse, powerOn⟩
  | setVolume volume muted =>
    ∃ status, asyncGetVolume t = .ok status ∧ status.volume = volume ∧ status.muted = muted

lemma Holds.readsBack (hholds : call.Holds s) (h : call.encode = .ok request) {t : Transcript}
    (ht : t.Completes (s.receive (encodeGet call.register)).1) : call.ReadsBack t := by
  cases call with
  | setSource source standby inverse powerOn =>
    obtain ⟨rfl, rfl, rfl, rfl⟩ := hholds
    exact (asyncGetSource_receive s ht.carries _).mpr ⟨ht, rfl⟩
  | setVolume volume muted =>
    have hrange : 0 ≤ volume ∧ volume ≤ 100 := exists_encode_iff.mp ⟨request, h⟩
    obtain ⟨hlevel, hmute⟩ := hholds
    let status : VolumeStatus := ⟨volume, muted, hrange.1, hrange.2⟩
    have hread := (asyncGetVolume_receive s ht.carries status).mpr ⟨ht, hlevel.symm, hmute.symm⟩
    exact ⟨status, hread, rfl, rfl⟩

/-- What becomes of an encoded SET, for every state of the speaker and however the bytes are cut:
it is executed once and acknowledged, and the client takes the whole acknowledgement, and nothing
less, for a success. Then a GET returns what was set; the other register keeps its value, and to
execute the request again changes nothing. -/
theorem set_reads_back (h : call.encode = .ok request) (s : FakeLsx.SpeakerState) :
    ∃ s' : FakeLsx.SpeakerState,
      (∀ chunks : List (List UInt8), chunks.flatten = request → ∃ command,
        Handler.handle { state := s } chunks =
          .ok { commands := [command], replies := [setOk], state := s' }) ∧
      (∀ t : Transcript, t.Carries setOk → (asyncSet t = .ok () ↔ t.Completes setOk)) ∧
      (∀ t : Transcript, t.Completes (s'.receive (encodeGet call.register)).1 →
        call.ReadsBack t) ∧
      (∀ register, register ≠ call.register → s'.register register = s.register register) ∧
      s'.receive request = (setOk, s') := by
  obtain ⟨hok, hholds, hother, hagain⟩ := receive_encode (s := s) h
  obtain ⟨value, hrequest, -⟩ := exists_command h
  refine ⟨(s.receive request).2, ?_, ?_, fun t ht => hholds.readsBack h ht, hother, ?_⟩
  · intro chunks hchunks
    have hhandle := handle_raw (s := s) (hchunks.trans hrequest)
    rw [← hrequest, hok] at hhandle
    exact ⟨_, hhandle⟩
  · intro t ht
    rw [asyncSet_eq_ok_iff (.inl rfl) ht, and_iff_left rfl]
  · rw [hagain, ← hok]

/-- A power-off whose request arrives byte by byte. -/
theorem set_reads_back_off : ∃ (s' : FakeLsx.SpeakerState) (command : FakeLsx.Command),
    Handler.handle { state := {} } [[0x53], [0x30], [0x81], [0x8A]] =
      .ok { commands := [command], replies := [setOk], state := s' } ∧
    s'.receive [0x53, 0x30, 0x81, 0x8A] = (setOk, s') := by
  have hencode : (setSource .aux (some 20) false false).encode = .ok [0x53, 0x30, 0x81, 0x8A] :=
    rfl
  obtain ⟨s', hhandle, -, -, -, hagain⟩ := set_reads_back hencode {}
  obtain ⟨command, hrun⟩ := hhandle [[0x53], [0x30], [0x81], [0x8A]] rfl
  exact ⟨s', command, hrun, hagain⟩

end EncoderCall

end KefLsx
