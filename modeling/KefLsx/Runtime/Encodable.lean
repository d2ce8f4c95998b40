import KefLsx.Runtime.Volume

/-!
# The encoders are called in range

A `ValueError` of an encoder is no `LsxError`, so `_async_control` would not catch it and the worker
would end. It never does: a level comes from a reply that was decoded, from a value that was
clamped when it was submitted, or from a step that is clamped, and `verification_delays` is only
indexed below its length.
-/

namespace KefLsx

/-! ### What the encoders accept -/

/-- The call of an encoder that `_execute_control` makes. -/
inductive EncoderCall where
  | setSource (source : Source) (standby : Option ℤ) (inverse powerOn : Bool)
  | setVolume (volume : ℤ) (muted : Bool)
deriving DecidableEq

namespace EncoderCall

def encode : EncoderCall → Except ValueError (List UInt8)
  | setSource source standby inverse powerOn => encodeSetSource source standby inverse powerOn
  | setVolume volume muted => encodeSetVolume volume muted

/-- The standby time can be set, and the level is a percentage. -/
def InRange : EncoderCall → Prop
  | setSource _ standby _ _ => standby = none ∨ standby = some 20 ∨ standby = some 60
  | setVolume volume _ => 0 ≤ volume ∧ volume ≤ 100

/-- A call in range hands a byte to `encode_set`. -/
lemma InRange.exists_byte {call : EncoderCall} (h : call.InRange) :
    ∃ register value, call.encode = encodeSet register value ∧ 0 ≤ value ∧ value ≤ 0xFF := by
  cases call with
  | setSource source standby inverse powerOn =>
    obtain ⟨offset, hoffset, hlow, hhigh⟩ :
        ∃ offset, standbyOffset.lookup standby = some offset ∧ 0 ≤ offset ∧ offset ≤ 0x20 := by
      rcases h with rfl | rfl | rfl
      · exact ⟨0x20, rfl, by decide, by decide⟩
      · exact ⟨0x00, rfl, by decide, by decide⟩
      · exact ⟨0x10, rfl, by decide, by decide⟩
    have hbase : 0 ≤ sourceBase source ∧ sourceBase source ≤ 0x0B := by
      cases source <;> decide
    refine ⟨Wire.sourceRegister, sourceBase source + offset + (if inverse then 0x40 else 0) +
      (if powerOn then 0 else 0x80), ?_, ?_, ?_⟩
    · rw [encode, encodeSetSource, hoffset]
    · split <;> split <;> omega
    · split <;> split <;> omega
  | setVolume volume muted =>
    refine ⟨Wire.volumeRegister, volume + (if muted then 0x80 else 0), if_pos h, ?_, ?_⟩
    · have hlow := h.1
      split <;> omega
    · have hhigh := h.2
      split <;> omega

/-- The encoders raise nothing exactly on the calls in range. -/
theorem exists_encode_iff {call : EncoderCall} :
    (∃ request, call.encode = .ok request) ↔ call.InRange := by
  constructor
  · rintro ⟨request, h⟩
    cases call with
    | setSource source standby inverse powerOn =>
      have hsome : standbyOffset.lookup standby ≠ none := by
        intro hnone
        rw [encode, encodeSetSource, hnone] at h
        cases h
      by_contra hrange
      obtain ⟨hnever, hrange⟩ := not_or.mp hrange
      obtain ⟨h20, h60⟩ := not_or.mp hrange
      refine hsome (List.lookup_eq_none_iff.mpr ?_)
      simp [standbyOffset, hnever, h20, h60]
    | setVolume volume muted =>
      by_contra hrange
      have hraised : (setVolume volume muted).encode = .error _ := if_neg hrange
      rw [hraised] at h
      cases h
  · intro h
    obtain ⟨register, value, hencode, hbyte⟩ := h.exists_byte
    exact ⟨_, hencode.trans (if_pos hbyte)⟩

end EncoderCall

/-- The call that `_execute_control` makes for a command. -/
def Config.encoderCall (cfg : Config) (speaker : SpeakerState) (command : Command) :
    EncoderCall :=
  let volume := speaker.volume.getD 0
  let muted := speaker.muted.getD false
  let source := cfg.sourceForPowerCommand speaker
  match command with
  | .turnOn _ => .setSource source cfg.standbyTime cfg.inverseOrientation true
  | .turnOff _ => .setSource source cfg.standbyTime cfg.inverseOrientation false
  | .selectSource source => .setSource source cfg.standbyTime cfg.inverseOrientation true
  | .setVolume value => .setVolume value muted
  | .volumeUp => .setVolume (min cfg.maximumVolume (volume + cfg.volumeStep)) muted
  | .volumeDown => .setVolume (max 0 (volume - cfg.volumeStep)) muted
  | .mute => .setVolume volume true
  | .unmute => .setVolume volume false

lemma Config.request_eq_encode (cfg : Config) (speaker : SpeakerState) (command : Command) :
    cfg.request speaker command = (cfg.encoderCall speaker command).encode := by
  cases command <;> rfl

/-- The standby time is one that the speakers have. -/
def Config.SettableStandby (cfg : Config) : Prop :=
  cfg.standbyTime = none ∨ cfg.standbyTime = some 20 ∨ cfg.standbyTime = some 60

/-- The cached level, if there is one, is a percentage. -/
def SpeakerState.Percentage (speaker : SpeakerState) : Prop :=
  ∀ volume, speaker.volume = some volume → 0 ≤ volume ∧ volume ≤ 100

lemma SpeakerState.Percentage.getD {speaker : SpeakerState} (h : speaker.Percentage) :
    0 ≤ speaker.volume.getD 0 ∧ speaker.volume.getD 0 ≤ 100 := by
  cases hv : speaker.volume with
  | none => simp
  | some volume => exact h volume hv

/-- What is cached of the register is what was decoded from it. -/
lemma SpeakerState.Reflects.percentage {speaker : SpeakerState} {known : Option VolumeStatus}
    (h : speaker.Reflects known) : speaker.Percentage := by
  intro volume hvolume
  rw [h.volume, Option.map_eq_some_iff] at hvolume
  obtain ⟨status, -, rfl⟩ := hvolume
  exact ⟨status.volume_nonneg, status.volume_le⟩

/-- A command as it was submitted is encoded in range. -/
lemma Config.inRange_submitted {cfg : Config} {speaker : SpeakerState}
    (hstandby : cfg.SettableStandby) (hs : speaker.Percentage) (r : Request) :
    (cfg.encoderCall speaker (cfg.submitted r)).InRange := by
  have hpos := cfg.maximumVolume_pos
  have hmax := cfg.maximumVolume_le
  have hstep := cfg.volumeStep_pos
  obtain ⟨hlow, hhigh⟩ := hs.getD
  cases r with
  | turnOn | turnOff | selectSource => exact hstandby
  | setVolume volume =>
    constructor
    · exact le_min (by omega) (le_max_left _ _)
    · exact (min_le_left _ _).trans hmax
  | volumeUp =>
    constructor
    · exact le_min (by omega) (by omega)
    · exact (min_le_left _ _).trans hmax
  | volumeDown =>
    constructor
    · exact le_max_left _ _
    · exact max_le (by omega) (by omega)
  | mute muted => cases muted <;> exact ⟨hlow, hhigh⟩

/-! ### The index of the next verification -/

namespace Ledger

variable {ρ : Type} {env : Env} {cfg : Config} {l l' : Ledger ρ}

/-- A GET is due by a delay at an index in range, and the index of the next one is not negative. -/
structure Indexed (env : Env) (cfg : Config) (l : Ledger ρ) : Prop where
  attempt : 0 ≤ l.verification.attempt + 1
  due : ∀ due, l.verification.due = some due →
    ∃ (i : Fin cfg.timing.verificationDelays.length) (n : ℕ), l.verification.attempt = i.val ∧
      due = env.monotonic n + cfg.timing.verificationDelays.get i

lemma Indexed.congr (h : Indexed env cfg l) (hplan : l'.verification = l.verification) :
    Indexed env cfg l' := by
  obtain ⟨hattempt, hdue⟩ := h
  exact ⟨hplan ▸ hattempt, hplan ▸ hdue⟩

lemma Indexed.of_cleared (h : l.verification = {}) : Indexed env cfg l := by
  refine ⟨by rw [h]; decide, ?_⟩
  rw [h]
  rintro due ⟨⟩

lemma indexed_startVerification {job : Control} {expected : SpeakerState} :
    Indexed env cfg (l.startVerification env cfg job expected) := by
  refine ⟨zero_le_one, ?_⟩
  rintro due ⟨⟩
  refine ⟨⟨0, List.length_pos_of_ne_nil cfg.timing.verificationDelays_ne_nil⟩, l.monoReads, rfl, ?_⟩
  rw [List.get_eq_getElem, ← List.head_eq_getElem]
  rfl

/-- After a clear the first delay is taken again, though nothing is expected any more. -/
lemma Indexed.scheduleNextVerification (h : Indexed env cfg l) :
    Indexed env cfg (l.scheduleNextVerification env cfg) := by
  unfold Ledger.scheduleNextVerification
  dsimp only
  split
  · exact ⟨by simpa using h.attempt.trans (Int.le_add_one le_rfl), by rintro due ⟨⟩⟩
  · rename_i delay hdelay
    refine ⟨h.attempt.trans (Int.le_add_one le_rfl), ?_⟩
    rintro due ⟨⟩
    obtain ⟨hi, hget⟩ := List.getElem?_eq_some_iff.mp hdelay
    exact ⟨⟨_, hi⟩, _, (Int.toNat_of_nonneg h.attempt).symm, by rw [List.get_eq_getElem, hget]; rfl⟩

lemma Indexed.completeVerification (h : Indexed env cfg l) :
    Indexed env cfg (l.completeVerification env cfg) := by
  unfold Ledger.completeVerification
  split
  · exact .of_cleared rfl
  · refine Indexed.scheduleNextVerification ?_
    exact ⟨h.attempt, h.due⟩

lemma Indexed.verify {reason : Reason} (h : Indexed env cfg l) :
    Indexed env cfg (l.verify env cfg reason) := by
  have htick : Indexed env cfg (if l.verification.due.isSome then l.tick else l) := by
    split <;> exact h.congr rfl
  unfold Ledger.verify
  dsimp only
  split
  · exact htick.completeVerification
  · exact htick

end Ledger

namespace Runtime

open Log

variable {ρ : Type} {env : Env} {cfg : Config} {s t : Runtime ρ} {e : Event ρ}

lemma indexed_stateExchangeFailed {reason : Reason} {r : ρ} {error : LsxError}
    (h : s.Indexed env cfg) : (s.stateExchangeFailed env cfg reason r error).Indexed env cfg := by
  obtain ⟨l, hl, heq⟩ : ∃ l : Ledger ρ, _ ∧
    (s.stateExchangeFailed env cfg reason r error).toLedger = _ := stateExchangeFailed_eq
  have hcounted : l.Indexed env cfg := by
    rcases hl with ⟨-, rfl⟩ | ⟨-, rfl⟩ <;> exact h.congr rfl
  rw [heq]
  split
  · exact Ledger.Indexed.scheduleNextVerification (hcounted.congr rfl)
  · exact hcounted

lemma indexed_stateExchangeDone {reason : Reason} {r : ρ} {status : SourceStatus}
    (h : s.Indexed env cfg) : (s.stateExchangeDone env cfg reason r status).Indexed env cfg := by
  rw [stateExchangeDone_eq]
  have hrecorded : (((s.toLedger.applySource status).emit
      (.sourceEnded reason s.pollPending r (s.now env))).recordSuccess env cfg true).Indexed
        env cfg := h.congr rfl
  exact hrecorded.verify.congr rfl

lemma indexed_controlFailed {job : Control} {failure : Failure} (h : s.Indexed env cfg) :
    (s.controlFailed env cfg job failure).Indexed env cfg := by
  obtain ⟨l, hl, heq⟩ : ∃ l : Ledger ρ, _ ∧
    (s.controlFailed env cfg job failure).toLedger = _ := controlFailed_eq
  have hcounted : l.Indexed env cfg := by
    rcases hl with ⟨-, rfl⟩ | ⟨-, rfl⟩
    · exact h
    · exact h.congr rfl
  rw [heq]
  split
  · exact Ledger.indexed_startVerification
  · exact hcounted.congr rfl

lemma indexed_controlAcknowledged {job : Control} {first : Option Failure} {r : ρ}
    (h : s.Indexed env cfg) : (s.controlAcknowledged env cfg job first r).Indexed env cfg := by
  obtain ⟨l, hl, heq⟩ : ∃ l : Ledger ρ, _ ∧
    (s.controlAcknowledged env cfg job first r).toLedger = _ := controlAcknowledged_eq
  have hoptimistic : l.Indexed env cfg := by
    rcases hl with rfl | rfl <;> exact h.congr rfl
  rw [heq]
  split
  · exact Ledger.indexed_startVerification.congr rfl
  · exact hoptimistic.congr rfl

variable [Client ρ]

lemma indexed_of_rule (h : s.Indexed env cfg) (hrule : Rule env cfg s e t) :
    t.Indexed env cfg := by
  cases hrule with
  | accepted => exact .of_cleared rfl
  | closeBegun =>
    rw [frame_beginClose.2.1]
    exact .of_cleared rfl
  | stateFailed => exact indexed_stateExchangeFailed h
  | stateDone => exact indexed_stateExchangeDone h
  | attemptsTimedOut job s' hw hs =>
    have hplan : s'.verification = s.verification := by cases hs <;> rfl
    exact h.congr hplan
  | attemptsLeft job failure s' hw hs =>
    have hplan : s'.verification = s.verification := by cases hs <;> rfl
    exact indexed_controlFailed (h.congr hplan)
  | setRejected => exact indexed_controlFailed (h.congr rfl)
  | secondFailed => exact indexed_controlFailed (h.congr rfl)
  | setAcknowledged => exact indexed_controlAcknowledged h
  | _ => exact h.congr rfl

/-- Whenever a verification is due, its delay was taken at an index in range. -/
lemma indexed_of_reachable (h : Transition.Reachable (step env cfg) {} s) :
    s.Indexed env cfg := by
  refine h.invariant (I := fun s => s.Indexed env cfg) (.of_cleared rfl) ?_
  intro s t e _ hs _ hst
  exact indexed_of_rule hs (.of_step hst)

/-! ### The encoders in every run -/

/-- A queue entry holds the command of a request, so that it is encoded in range. -/
lemma inRange_of_live (h : Transition.Reachable (step env cfg) {} s)
    (hstandby : cfg.SettableStandby) {job : Control} (hjob : job ∈ s.live) :
    (cfg.encoderCall s.snapshot.speaker job.command).InRange := by
  have henrolled := enrolled_of_reachable h
  obtain ⟨newest, hnewest, hrequest⟩ := (henrolled.gathered job hjob).newest
  obtain ⟨r, hr⟩ := henrolled.submitted newest (mem_askedFor.mp (List.mem_of_head? hnewest)).1
  have hnew : (cfg.encoderCall s.snapshot.speaker newest.command).InRange := by
    rw [hr]
    exact cfg.inRange_submitted hstandby (reflects_of_reachable h).percentage r
  obtain ⟨request, hencode⟩ := EncoderCall.exists_encode_iff.mpr hnew
  refine EncoderCall.exists_encode_iff.mp ⟨request, ?_⟩
  rw [← Config.request_eq_encode, hrequest, Config.request_eq_encode, hencode]

/-- No encoder has raised. -/
lemma not_crashed_of_reachable (h : Transition.Reachable (step env cfg) {} s)
    (hstandby : cfg.SettableStandby) : ∀ error, s.worker ≠ some (.crashed error) := by
  refine h.invariant (I := fun s => ∀ error, s.worker ≠ some (.crashed error)) (by simp) ?_
  intro s t e hr hs _ hst error hcrashed
  cases Rule.of_step hst with
  | workerCrashed job failure raised hw hc hd hq =>
    have hrange := inRange_of_live hr hstandby (mem_live_of_active (activeControl_of_worker hw))
    obtain ⟨request, hencode⟩ := EncoderCall.exists_encode_iff.mpr hrange
    rw [← Config.request_eq_encode, hq] at hencode
    cases hencode
  | setPublisher | alreadyStarted | submitClosed | coalesced | refused | accepted | pollClosed
  | polled | callerCancelled | closeShared | shutdownTimedOut | joinFailed | clientClosed =>
    exact hs error hcrashed
  | closeBegun => exact hs error (frame_beginClose.1 ▸ hcrashed)
  | _ => cases hcrashed

/-- With a standby time that the speakers have, in every run: the cached level is a percentage, the
encoders are called in range and with a byte, every delay of a verification is taken at an index in
range, and no exception but an `LsxError` or a cancellation ends the worker. -/
theorem encoders_in_range (hstandby : cfg.SettableStandby)
    (h : Transition.Reachable (step env cfg) {} s) :
    s.snapshot.speaker.Percentage ∧
    (∀ job failure, s.worker = some (.attempt job failure) →
      (cfg.encoderCall s.snapshot.speaker job.command).InRange ∧
      ∃ register value,
        cfg.request s.snapshot.speaker job.command = encodeSet register value ∧
        0 ≤ value ∧ value ≤ 0xFF) ∧
    s.Indexed env cfg ∧ ∀ error, s.worker ≠ some (.crashed error) := by
  refine ⟨(reflects_of_reachable h).percentage, ?_, indexed_of_reachable h,
    not_crashed_of_reachable h hstandby⟩
  intro job failure hw
  have hrange := inRange_of_live h hstandby (mem_live_of_active (activeControl_of_worker hw))
  rw [Config.request_eq_encode]
  exact ⟨hrange, hrange.exists_byte⟩

/-- A speaker at 98 is turned up by a step of 5: the level that is encoded is the maximum. -/
theorem encoders_in_range_volumeUp : ∃ (s : Runtime Transcript) (job : Control),
    Transition.Reachable (step .ticking (.ofOptions none 1)) {} s ∧
    s.worker = some (.attempt job none) ∧ s.snapshot.speaker.volume = some 98 ∧
    (Config.ofOptions none 1).encoderCall s.snapshot.speaker job.command =
      .setVolume 100 false ∧
    ((Config.ofOptions none 1).encoderCall s.snapshot.speaker job.command).InRange ∧
    ∀ error, s.worker ≠ some (.crashed error) := by
  have hrun : (Transition.run (step .ticking (.ofOptions none 1))
      [.start, .submit .volumeUp, .run, .run, .run, .reply (Transcript.volume 98), .run, .run]
      ({} : Runtime Transcript)).any
      (fun s => s.snapshot.speaker.volume = some 98 ∧ s.activeControl.any fun job =>
        s.worker = some (.attempt job none) ∧
          (Config.ofOptions none 1).encoderCall s.snapshot.speaker job.command =
            .setVolume 100 false) = true := by
    decide +kernel
  obtain ⟨s, hs, hs'⟩ := Transition.exists_reachable_of_run hrun
  obtain ⟨hvolume, hactive⟩ := of_decide_eq_true hs'
  obtain ⟨job, -, hjob⟩ := (Option.any_eq_true _ _).mp hactive
  obtain ⟨hw, hcall⟩ := of_decide_eq_true hjob
  obtain ⟨-, hattempts, -, halive⟩ := encoders_in_range (.inl rfl) hs
  exact ⟨s, job, hs, hw, hvolume, hcall, (hattempts job none hw).1, halive⟩

end Runtime

end KefLsx
