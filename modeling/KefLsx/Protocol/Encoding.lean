import Mathlib.Data.Int.Order.Basic
import Mathlib.Tactic.NormNum

/-!
# Requests and register values

The pure half of `protocol.py`: the request encoders, and the decoders of the two registers the
integration uses. Register `0x30` packs source, standby time, orientation and power into one
byte; register `0x25` packs the absolute volume and the mute bit.

Python integers are `ℤ` and bytes are `UInt8`; an encoder or decoder that raises `ValueError`
returns the error's message.
-/

namespace KefLsx

/-! ### Wire constants -/

namespace Wire

abbrev get : UInt8 := 0x47
abbrev set : UInt8 := 0x53
abbrev response : UInt8 := 0x52
abbrev getMarker : UInt8 := 0x80
abbrev setMarker : UInt8 := 0x81
abbrev frameEnd : UInt8 := 0xFF
abbrev setOkStatus : UInt8 := 0x11

abbrev sourceRegister : UInt8 := 0x30
abbrev volumeRegister : UInt8 := 0x25

end Wire

/-- The message of a Python `ValueError`. -/
structure ValueError where
  message : String
deriving DecidableEq

/-- Sources supported by first-generation LSX speakers. -/
inductive Source where
  | wifi
  | bluetooth
  | aux
  | opt
deriving DecidableEq

/-- Decoded source, standby, orientation, and power state. -/
structure SourceStatus where
  source : Source
  standby : Option ℤ
  inverse : Bool
  powerOn : Bool
deriving DecidableEq

/-- Decoded absolute volume and mute state. The decoder refuses a level outside `0..100`. -/
structure VolumeStatus where
  volume : ℤ
  muted : Bool
  volume_nonneg : 0 ≤ volume
  volume_le : volume ≤ 100
deriving DecidableEq

/-! ### Tables -/

/-- `_SOURCE_BASE`. -/
def sourceBase : Source → ℤ
  | .wifi => 0x02
  | .bluetooth => 0x09
  | .aux => 0x0A
  | .opt => 0x0B

/-- `_STANDBY_OFFSET`: the settable standby times, `none` for never. -/
def standbyOffset : List (Option ℤ × ℤ) :=
  [(some 20, 0x00), (some 60, 0x10), (none, 0x20)]

/-- `_source_lookup`: the accepted source response values. Bluetooth-paired (`0x0F`) is reported
by speakers but is not a settable source. -/
def sourceLookup : List (ℤ × Source × Option ℤ × Bool) :=
  ([Source.wifi, .bluetooth, .aux, .opt].flatMap fun source =>
    standbyOffset.flatMap fun (standby, offset) =>
      [false, true].map fun inverse =>
        (sourceBase source + offset + (if inverse then 0x40 else 0), source, standby, inverse)) ++
  standbyOffset.flatMap fun (standby, offset) =>
    [false, true].map fun inverse =>
      (0x0F + offset + (if inverse then 0x40 else 0), Source.bluetooth, standby, inverse)

/-! ### Encoders -/

/-- `encode_get`. -/
def encodeGet (register : UInt8) : List UInt8 :=
  [Wire.get, register, Wire.getMarker]

/-- `encode_set`: one four-byte register SET, if the value fits in one byte. -/
def encodeSet (register : UInt8) (value : ℤ) : Except ValueError (List UInt8) :=
  if 0 ≤ value ∧ value ≤ 0xFF then
    .ok [Wire.set, register, Wire.setMarker, UInt8.ofNat value.toNat]
  else .error ⟨"Register and value must fit in one byte"⟩

/-- `encode_set_source`: an absolute source/power SET. -/
def encodeSetSource (source : Source) (standby : Option ℤ) (inverse powerOn : Bool) :
    Except ValueError (List UInt8) :=
  match standbyOffset.lookup standby with
  | none => .error ⟨"Standby must be 20, 60, or None"⟩
  | some offset =>
    encodeSet Wire.sourceRegister
      (sourceBase source + offset + (if inverse then 0x40 else 0) + (if powerOn then 0 else 0x80))

/-- `encode_set_volume`: an absolute volume/mute SET. -/
def encodeSetVolume (volume : ℤ) (muted : Bool) : Except ValueError (List UInt8) :=
  if 0 ≤ volume ∧ volume ≤ 100 then
    encodeSet Wire.volumeRegister (volume + (if muted then 0x80 else 0))
  else .error ⟨"Volume must be between 0 and 100"⟩

/-! ### Decoders -/

/-- `decode_source_value`, with the value-48 quirk. -/
def decodeSourceValue (value : ℤ) : Except ValueError SourceStatus :=
  if 0 ≤ value ∧ value ≤ 0xFF then
    let value := if value = 48 then 82 else value
    match sourceLookup.lookup (value % 0x80) with
    | none => .error ⟨"Unsupported LSX source response: " ++ toString value⟩
    | some (source, standby, inverse) =>
      .ok ⟨source, standby, inverse, decide (value ≤ 0x80)⟩
  else .error ⟨"Source response must fit in one byte"⟩

/-- `decode_volume_value`: the level in the low seven bits, the mute bit above them. -/
def decodeVolumeValue (value : ℤ) : Except ValueError VolumeStatus :=
  if 0 ≤ value ∧ value ≤ 0xFF then
    if h : value % 0x80 ≤ 100 then
      .ok ⟨value % 0x80, decide (0x80 ≤ value), Int.emod_nonneg _ (by norm_num), h⟩
    else .error ⟨"Unsupported LSX volume response: " ++ toString value⟩
  else .error ⟨"Volume response must fit in one byte"⟩

/-! ### What a SET writes is what a GET reads back -/

/-- The byte a SET request carries as the register's new value. -/
def requestValue (request : List UInt8) : ℤ :=
  (request.getD 3 0).toNat

lemma toNat_ofNat_of_le {n : ℤ} (h₀ : 0 ≤ n) (h : n ≤ 0xFF) :
    ((UInt8.ofNat n.toNat).toNat : ℤ) = n := by
  rw [UInt8.toNat_ofNat']
  omega

/-- An encoded SET carries the value it was given. -/
lemma requestValue_encodeSet {register : UInt8} {value : ℤ} {request : List UInt8}
    (h : encodeSet register value = .ok request) :
    requestValue request = value ∧ 0 ≤ value ∧ value ≤ 0xFF := by
  simp only [encodeSet] at h
  split_ifs at h with hv
  cases h
  exact ⟨by simpa [requestValue] using toNat_ofNat_of_le hv.1 hv.2, hv⟩

/-- The source register decodes to what was encoded, for every setting the encoder accepts. -/
theorem decode_encodeSetSource {source : Source} {standby : Option ℤ} {inverse powerOn : Bool}
    {request : List UInt8} (h : encodeSetSource source standby inverse powerOn = .ok request) :
    decodeSourceValue (requestValue request) = .ok ⟨source, standby, inverse, powerOn⟩ := by
  simp only [encodeSetSource] at h
  cases hoff : standbyOffset.lookup standby with
  | none => rw [hoff] at h; cases h
  | some offset =>
    rw [hoff] at h
    rw [(requestValue_encodeSet h).1]
    have hmem : standby = some 20 ∧ offset = 0x00 ∨ standby = some 60 ∧ offset = 0x10 ∨
        standby = none ∧ offset = 0x20 := by
      simp only [standbyOffset, List.lookup_cons] at hoff
      split at hoff
      · simp_all
      · split at hoff
        · simp_all
        · split at hoff <;> simp_all
    rcases hmem with ⟨rfl, rfl⟩ | ⟨rfl, rfl⟩ | ⟨rfl, rfl⟩ <;>
      cases source <;> cases inverse <;> cases powerOn <;> rfl

/-- The volume register decodes to what was encoded, for every level the encoder accepts. -/
theorem decode_encodeSetVolume {volume : ℤ} {muted : Bool} {request : List UInt8}
    (h : encodeSetVolume volume muted = .ok request) :
    ∃ status : VolumeStatus, decodeVolumeValue (requestValue request) = .ok status ∧
      status.volume = volume ∧ status.muted = muted := by
  simp only [encodeSetVolume] at h
  by_cases hv : 0 ≤ volume ∧ volume ≤ 100
  · rw [if_pos hv] at h
    obtain ⟨hval, h₀, h₁⟩ := requestValue_encodeSet h
    have hmod : (volume + if muted then 0x80 else 0) % 0x80 = volume := by
      cases muted <;> simp <;> omega
    rw [hval, decodeVolumeValue, if_pos ⟨h₀, h₁⟩, dif_pos (by omega)]
    refine ⟨_, rfl, hmod, ?_⟩
    cases muted <;> simp <;> omega
  · rw [if_neg hv] at h
    cases h

/-- A volume request determines the level and the mute bit. -/
theorem encodeSetVolume_inj {volume volume' : ℤ} {muted muted' : Bool} {request : List UInt8}
    (h : encodeSetVolume volume muted = .ok request)
    (h' : encodeSetVolume volume' muted' = .ok request) : volume = volume' ∧ muted = muted' := by
  obtain ⟨status, hstatus, rfl, rfl⟩ := decode_encodeSetVolume h
  obtain ⟨status', hstatus', rfl, rfl⟩ := decode_encodeSetVolume h'
  obtain rfl : status = status' := Except.ok.inj (hstatus.symm.trans hstatus')
  exact ⟨rfl, rfl⟩

end KefLsx
