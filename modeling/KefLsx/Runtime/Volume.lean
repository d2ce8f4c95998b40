import KefLsx.Runtime.Coalescing
import KefLsx.Runtime.Plan
import KefLsx.Runtime.Speaker

/-!
# Levels and mute bits

The volume register holds the level and the mute bit in one byte, so that a SET of it writes both,
of which its command names only one. The other is taken from the cached state, which is what the
newest successful GET of the register has read or the newest acknowledged SET has written.
-/

namespace KefLsx

open Log

/-! ### What is known of the register -/

/-- What a SET of the volume register writes. -/
def Call.volume? : Call → Option VolumeStatus
  | .set _ kind _ request =>
    if kind.isVolume then (decodeVolumeValue (requestValue request)).toOption else none
  | _ => none

section Known

variable {ρ : Type} [Client ρ] {log : List (Obs ρ)}

/-- What the end of an exchange tells of the volume register: a GET has read it, or a SET that was
acknowledged has written it. -/
def Obs.volume? (earlier : List (Obs ρ)) : Obs ρ → Option VolumeStatus
  | .maintenanceEnded r _ | .volumeEnded _ r _ => (Client.asyncGetVolume r).toOption
  | .setEnded id _ r _ =>
    (Client.asyncSet r).toOption.bind fun _ => (sets id earlier).head?.bind Call.volume?
  | _ => none

/-- What is known of the volume register: what the newest successful GET of it has read, or the
newest acknowledged SET of it has written, whichever is newer. -/
def Log.lastVolume (log : List (Obs ρ)) : Option VolumeStatus := History.newest? Obs.volume? log

lemma volume?_traffic {o : Obs ρ} : o.volume? (traffic log) = o.volume? log := by
  cases o with
  | setEnded id attempt r time =>
    have hsets : sets id (traffic log) = sets id log := sets_eq_of_calls calls_traffic
    rw [Obs.volume?, hsets, Obs.volume?]
  | _ => rfl

lemma lastVolume_traffic : lastVolume (traffic log) = lastVolume log := by
  refine History.newest?_filter ?_ fun o earlier => volume?_traffic
  intro o earlier ho
  cases o with
  | maintenanceEnded | volumeEnded | setEnded => cases ho
  | _ => rfl

end Known

/-- The volume and the mute bit are cached as they are known. -/
structure SpeakerState.Reflects (speaker : SpeakerState) (known : Option VolumeStatus) : Prop where
  volume : speaker.volume = known.map VolumeStatus.volume
  muted : speaker.muted = known.map VolumeStatus.muted

/-- What an acknowledged command of another register leaves. -/
lemma SpeakerState.Reflects.expectedState {cfg : Config} {speaker : SpeakerState}
    {known : Option VolumeStatus} (h : speaker.Reflects known) {command : Command}
    (hk : command.kind.isVolume = false) :
    (cfg.expectedState speaker command).Reflects known := by
  cases command with
  | turnOn | turnOff | selectSource => exact ⟨h.volume, h.muted⟩
  | setVolume | volumeUp | volumeDown | mute | unmute => cases hk

/-- What an acknowledged command of the volume register leaves is what it has written. -/
lemma reflects_written {cfg : Config} {speaker : SpeakerState} {command : Command}
    {request : List UInt8} (hk : command.kind.isVolume = true)
    (h : cfg.request speaker command = .ok request) :
    ∃ status, decodeVolumeValue (requestValue request) = .ok status ∧
      (cfg.expectedState speaker command).Reflects (some status) := by
  have hwritten : ∃ volume muted, encodeSetVolume volume muted = .ok request ∧
      (cfg.expectedState speaker command).volume = some volume ∧
      (cfg.expectedState speaker command).muted = some muted := by
    cases command with
    | turnOn | turnOff | selectSource => cases hk
    | setVolume | volumeUp | volumeDown | mute | unmute => exact ⟨_, _, h, rfl, rfl⟩
  obtain ⟨volume, muted, hencode, hvolume, hmuted⟩ := hwritten
  obtain ⟨status, hstatus, rfl, rfl⟩ := decode_encodeSetVolume hencode
  exact ⟨status, hstatus, hvolume, hmuted⟩

/-- The entry that is attempted. -/
def Worker.attempted? : Worker → Option Control
  | attempt job _ | setting job _ _ | retrySleep job _ _ => some job
  | _ => none

namespace Runtime

variable {ρ : Type} [Client ρ] {env : Env} {cfg : Config} {s t : Runtime ρ} {e : Event ρ}
  {o : Obs ρ} {f : SpeakerState → SpeakerState}

lemma Answer.inExchange (h : Answer cfg s e f) : s.inExchange = true := by
  cases h with
  | source reason r status hw => rw [inExchange_of_worker hw]; rfl
  | volume r status hw =>
    rcases hw with hw | ⟨job, hw⟩
    · rw [inExchange_of_worker hw]; rfl
    · rw [inExchange_of_worker hw]; rfl
  | acknowledged job first request r hw => rw [inExchange_of_worker hw]; rfl

/-- An answer tells what it caches. -/
lemma Answer.reflects (h : Answer cfg s e f) (hends : Ends env s e o) (hs : Scheduled env cfg s)
    {known : Option VolumeStatus} (hknown : s.snapshot.speaker.Reflects known) :
    (f s.snapshot.speaker).Reflects ((o.volume? s.log).or known) := by
  cases h with
  | source reason r status hw hr =>
    cases hends with
    | source => exact ⟨hknown.volume, hknown.muted⟩
    | maintenance _ _ hw' | volume _ _ _ hw' | set _ _ _ _ _ hw' => simp [hw] at hw'
  | volume r status hw hr =>
    have hread : (Client.asyncGetVolume r).toOption = some status := by rw [hr]; rfl
    cases hends with
    | source _ _ hw' | set _ _ _ _ _ hw' => simp [hw'] at hw
    | maintenance | volume =>
      rw [Obs.volume?, hread]
      exact ⟨rfl, rfl⟩
  | acknowledged job first request r hw hr =>
    cases hends with
    | source _ _ hw' | maintenance _ _ hw' | volume _ _ _ hw' => simp [hw] at hw'
    | set job' first' request' _ time hw' =>
      obtain ⟨rfl, rfl, rfl⟩ : job' = job ∧ first' = first ∧ request' = request := by
        simpa [hw] using hw'.symm
      have hsent := sent_of_setting hs hw
      have hhead : ∃ attempt, (sets job'.id s.log).head? =
          some (.set job'.id job'.command.kind attempt request') := by
        obtain ⟨head, hhead⟩ := Option.isSome_iff_exists.mp
          (List.isSome_head?.mpr hsent.sets_ne_nil)
        obtain ⟨attempt, rfl⟩ := hsent.sets_eq head (List.mem_of_head? hhead)
        exact ⟨attempt, hhead⟩
      obtain ⟨attempt, hhead⟩ := hhead
      have hvalue : (Obs.setEnded job'.id (attemptNumber first') r time).volume? s.log =
          Call.volume? (.set job'.id job'.command.kind attempt request') := by
        simp only [Obs.volume?, hr, hhead, Except.toOption, Option.bind_some]
      rw [hvalue]
      cases hk : job'.command.kind.isVolume with
      | false =>
        rw [Call.volume?, hk]
        exact hknown.expectedState hk
      | true =>
        obtain ⟨status, hstatus, hreflects⟩ := reflects_written hk hsent.executed.request
        rw [Call.volume?, hk, hstatus]
        exact hreflects

/-- An exchange that is not answered tells nothing. -/
lemma Ends.volume?_eq_none (hends : Ends env s e o) (hnone : ∀ f, ¬ Answer cfg s e f) :
    o.volume? s.log = none := by
  cases hends with
  | source => rfl
  | maintenance r time hw =>
    cases hr : Client.asyncGetVolume r with
    | ok status => exact absurd (.volume r status (.inl hw) hr) (hnone _)
    | error => simp [Obs.volume?, hr, Except.toOption]
  | volume job r time hw =>
    cases hr : Client.asyncGetVolume r with
    | ok status => exact absurd (.volume r status (.inr ⟨job, hw⟩) hr) (hnone _)
    | error => simp [Obs.volume?, hr, Except.toOption]
  | set job first request r time hw =>
    cases hr : Client.asyncSet r with
    | ok => exact absurd (.acknowledged job first request r hw hr) (hnone _)
    | error => simp [Obs.volume?, hr, Except.toOption]

lemma reflects_of_step (hs : Scheduled env cfg s) (hrule : Rule env cfg s e t)
    (h : s.snapshot.speaker.Reflects (lastVolume s.log)) :
    t.snapshot.speaker.Reflects (lastVolume t.log) := by
  rw [← lastVolume_traffic] at h ⊢
  cases exchanged_of_rule hrule with
  | none htraffic hflight hkept hevent =>
    rw [htraffic]
    rcases answer_or_unchanged hrule with ⟨f, hf, -⟩ | ⟨-, hspeaker⟩
    · cases hf <;> exact absurd rfl (hevent _)
    · rwa [hspeaker]
  | start call reads remaining hstarts hreads hlog =>
    have hsame : lastVolume (traffic t.log) = lastVolume (traffic s.log) := by
      rw [hlog, traffic_cons rfl]
      rfl
    rw [hsame]
    rcases answer_or_unchanged hrule with ⟨f, hf, -⟩ | ⟨-, hspeaker⟩
    · have hin := hf.inExchange
      rw [hstarts.not_inExchange] at hin
      cases hin
    · rwa [hspeaker]
  | finish o hends htraffic =>
    have hlast : lastVolume (traffic t.log) =
        (o.volume? s.log).or (lastVolume (traffic s.log)) := by
      rw [htraffic, lastVolume, History.newest?_cons, volume?_traffic]
      rfl
    rw [hlast]
    rcases answer_or_unchanged hrule with ⟨f, hf, hspeaker⟩ | ⟨hnone, hspeaker⟩
    · rw [hspeaker]
      exact hf.reflects hends hs h
    · rwa [hspeaker, hends.volume?_eq_none hnone, Option.none_or]

/-- The cached level and mute bit are those of the newest successful GET of the volume register, or
of the newest acknowledged SET of it. -/
lemma reflects_of_reachable (h : Transition.Reachable (step env cfg) {} s) :
    s.snapshot.speaker.Reflects (lastVolume s.log) := by
  refine h.invariant (I := fun s => s.snapshot.speaker.Reflects (lastVolume s.log)) ⟨rfl, rfl⟩ ?_
  intro s t e hr hs _ hst
  exact reflects_of_step (.of_reachable hr) (.of_step hst) hs

/-! ### What is known before a SET -/

/-- The entry that the worker is making its attempts for. -/
def attempted (s : Runtime ρ) : Option Control := s.worker.bind Worker.attempted?

omit [Client ρ] in
lemma attempted_of_worker {w : Worker} (hw : s.worker = some w) : s.attempted = w.attempted? := by
  rw [attempted, hw, Option.bind_some]

/-- The attempts of an entry begin where all is known that its command needs. -/
lemma attempted_of_rule {job : Control} (h : Rule env cfg s e t) (ht : t.attempted = some job) :
    (∃ job', s.attempted = some job' ∧ job'.command.kind = job.command.kind) ∨
      (job.command.kind.isRelative = true → Known s.snapshot.speaker) := by
  cases h with
  | attemptsBegun job' hw hlive hd hknown =>
    cases ht
    exact .inr hknown
  | setStarted job' failure request hw =>
    cases ht
    exact .inl ⟨job', attempted_of_worker hw, (cfg.kind_executed _ _).symm⟩
  | firstFailed job' request r error hw =>
    cases ht
    exact .inl ⟨_, attempted_of_worker hw, rfl⟩
  | slept job' failure delay hw =>
    cases ht
    exact .inl ⟨_, attempted_of_worker hw, rfl⟩
  | closeBegun =>
    rw [attempted, frame_beginClose.1] at ht
    exact .inl ⟨job, ht, rfl⟩
  | setPublisher | alreadyStarted | submitClosed | coalesced | refused | accepted | pollClosed
  | polled | callerCancelled | closeShared | shutdownTimedOut | joinFailed | clientClosed =>
    exact .inl ⟨job, ht, rfl⟩
  | _ => cases ht

/-- While a relative command is attempted, the level and the mute bit are known. -/
def Informed (s : Runtime ρ) : Prop :=
  ∀ job, s.attempted = some job → job.command.kind.isRelative = true → Known s.snapshot.speaker

lemma informed_of_reachable (h : Transition.Reachable (step env cfg) {} s) : Informed s := by
  refine h.invariant (I := Informed) (by rintro job ⟨⟩) ?_
  intro s t e hr hs _ hst job hjob hrel
  have hretains := retains_of_step hr hst
  have hknown : Known s.snapshot.speaker := by
    rcases attempted_of_rule (.of_step hst) hjob with ⟨job', hjob', hkind⟩ | hknown
    · exact hs job' hjob' (hkind ▸ hrel)
    · exact hknown hrel
  exact ⟨hretains.volume hknown.1, hretains.muted hknown.2⟩

/-! ### What a SET writes -/

/-- Of the level and the mute bit, the one that a command of this kind does not name is the known
one, and a step is made from the known level. -/
def Unguessed (cfg : Config) (kind : ControlKind) (known : VolumeStatus) (level : ℤ)
    (muted : Bool) : Prop :=
  match kind with
  | .setVolume => muted = known.muted
  | .volumeUp =>
    muted = known.muted ∧ level = min cfg.maximumVolume (known.volume + cfg.volumeStep)
  | .volumeDown => muted = known.muted ∧ level = max 0 (known.volume - cfg.volumeStep)
  | .mute | .unmute => level = known.volume
  | .turnOn | .turnOff | .selectSource => True

/-- What `_execute_control` chooses for a command of this kind, when this much is known of the
register. -/
structure Chosen (cfg : Config) (kind : ControlKind) (known : Option VolumeStatus) (level : ℤ)
    (muted : Bool) : Prop where
  capped : kind = .setVolume → 0 ≤ level ∧ level ≤ cfg.maximumVolume
  unguessed : kind = .setVolume ∧ known = none ∨
    ∃ status, known = some status ∧ Unguessed cfg kind status level muted

omit [Client ρ] in
/-- The level of a set_volume was clamped when it was submitted. -/
lemma Enrolled.level_of_setVolume (h : Enrolled cfg s) {job : Control} (hjob : job ∈ s.live)
    {value : ℤ} (hcommand : job.command = .setVolume value) {request : List UInt8} {muted : Bool}
    (hq : encodeSetVolume value muted = .ok request) : 0 ≤ value ∧ value ≤ cfg.maximumVolume := by
  have hgathered := h.gathered job hjob
  obtain ⟨newest, hnewest, hrequest⟩ := hgathered.newest
  have hmem := List.mem_of_head? hnewest
  obtain ⟨r, hr⟩ := h.submitted newest (mem_askedFor.mp hmem).1
  have hkind : newest.command.kind = .setVolume := by
    rw [hgathered.kinds newest hmem, hcommand]
    rfl
  obtain ⟨value', hvalue'⟩ := exists_setVolume hkind
  have hsame : encodeSetVolume value' muted = .ok request := by
    have hall := hrequest { muted := some muted }
    rw [hcommand, hvalue'] at hall
    exact hall.symm.trans hq
  rw [(encodeSetVolume_inj hq hsame).1]
  cases r with
  | setVolume volume =>
    rw [hvalue', Config.submitted, Command.setVolume.injEq] at hr
    have hpos := cfg.maximumVolume_pos
    omega
  | mute muted =>
    rw [hr, Config.submitted] at hkind
    split at hkind <;> cases hkind
  | _ =>
    rw [hr] at hkind
    cases hkind

/-- What the worker chooses is what `Chosen` says. -/
lemma chosen_of_starts (h : Transition.Reachable (step env cfg) {} s) {id attempt : ℕ}
    {kind : ControlKind} {request : List UInt8}
    (hstarts : Starts env cfg s (.set id kind attempt request)) (hk : kind.isVolume = true) :
    ∃ level muted, encodeSetVolume level muted = .ok request ∧
      Chosen cfg kind (lastVolume s.log) level muted := by
  cases hstarts with
  | set job failure request hw hc hq =>
    have hreflects := reflects_of_reachable h
    have hactive := activeControl_of_worker hw
    have hinformed := informed_of_reachable h job (attempted_of_worker hw)
    have hstatus : job.command.kind.isRelative = true → ∃ status,
        lastVolume s.log = some status ∧ s.snapshot.speaker.volume = some status.volume ∧
        s.snapshot.speaker.muted = some status.muted := by
      intro hrel
      have hknown := (hinformed hrel).1
      rw [hreflects.volume] at hknown
      obtain ⟨status, hlast⟩ := Option.ne_none_iff_exists'.mp (mt Option.map_eq_none_iff.mpr hknown)
      exact ⟨status, hlast, by rw [hreflects.volume, hlast]; rfl,
        by rw [hreflects.muted, hlast]; rfl⟩
    cases hcommand : job.command with
    | turnOn | turnOff | selectSource =>
      rw [hcommand] at hk
      cases hk
    | setVolume value =>
      rw [hcommand] at hq
      obtain ⟨hlow, hhigh⟩ := (enrolled_of_reachable h).level_of_setVolume
        (mem_live_of_active hactive) hcommand hq
      refine ⟨value, _, hq, fun _ => ⟨hlow, hhigh⟩, ?_⟩
      cases hlast : lastVolume s.log with
      | none => exact .inl ⟨rfl, rfl⟩
      | some status =>
        refine .inr ⟨status, rfl, ?_⟩
        rw [hreflects.muted, hlast]
        rfl
    | volumeUp | volumeDown =>
      rw [hcommand] at hq hstatus
      obtain ⟨status, hlast, hvolume, hmuted⟩ := hstatus rfl
      simp only [Config.request, hvolume, hmuted, Option.getD_some] at hq
      exact ⟨_, _, hq, by rintro ⟨⟩, .inr ⟨status, hlast, rfl, rfl⟩⟩
    | mute | unmute =>
      rw [hcommand] at hq hstatus
      obtain ⟨status, hlast, hvolume, -⟩ := hstatus rfl
      simp only [Config.request, hvolume, Option.getD_some] at hq
      exact ⟨_, _, hq, by rintro ⟨⟩, .inr ⟨status, hlast, rfl⟩⟩

/-- A SET of the volume register writes what is chosen from what was known when it started. -/
def ChosenAt (cfg : Config) : Obs ρ → List (Obs ρ) → Prop
  | .started _ (.set _ kind _ request) _, earlier => kind.isVolume = true →
      ∃ level muted, encodeSetVolume level muted = .ok request ∧
        Chosen cfg kind (lastVolume earlier) level muted
  | _, _ => True

lemma chosenAt_of_step (hr : Transition.Reachable (step env cfg) {} s) (hrule : Rule env cfg s e t)
    (h : History.Each (ChosenAt cfg) (traffic s.log)) :
    History.Each (ChosenAt cfg) (traffic t.log) := by
  cases exchanged_of_rule hrule with
  | none htraffic => rwa [htraffic]
  | start call reads remaining hstarts hreads hlog =>
    rw [hlog, traffic_cons rfl]
    refine ⟨?_, h⟩
    cases call with
    | set id kind attempt request =>
      intro hk
      rw [lastVolume_traffic]
      exact chosen_of_starts hr hstarts hk
    | _ => trivial
  | finish o hends htraffic =>
    rw [htraffic]
    refine ⟨?_, h⟩
    cases hends <;> trivial

lemma chosen_of_reachable (h : Transition.Reachable (step env cfg) {} s)
    {later earlier : List (Obs ρ)} {reads id attempt : ℕ} {kind : ControlKind}
    {request : List UInt8} {remaining : Option Time}
    (hlog : s.log = later ++ .started reads (.set id kind attempt request) remaining :: earlier)
    (hk : kind.isVolume = true) :
    ∃ level muted, encodeSetVolume level muted = .ok request ∧
      Chosen cfg kind (lastVolume earlier) level muted := by
  have hall : History.Each (ChosenAt cfg) (traffic s.log) := by
    refine h.invariant (I := fun s => History.Each (ChosenAt cfg) (traffic s.log)) ?_ ?_
    · trivial
    intro s t e hr hs _ hst
    exact chosenAt_of_step hr (.of_step hst) hs
  rw [hlog, traffic_split rfl] at hall
  rw [← lastVolume_traffic]
  exact History.each_iff.mp hall _ _ _ rfl hk

/-- In every run, the level of every SET of a set_volume, volume_up or volume_down is between 0 and
the maximum if and only if it is no volume_down from a level more than one step above it. -/
theorem level_le_maximum_iff (h : Transition.Reachable (step env cfg) {} s)
    {later earlier : List (Obs ρ)} {reads id attempt : ℕ} {kind : ControlKind}
    {request : List UInt8} {remaining : Option Time}
    (hlog : s.log = later ++ .started reads (.set id kind attempt request) remaining :: earlier)
    (hk : kind = .setVolume ∨ kind = .volumeUp ∨ kind = .volumeDown) :
    ∃ level muted, encodeSetVolume level muted = .ok request ∧
      (0 ≤ level ∧ level ≤ cfg.maximumVolume ↔
        (kind = .volumeDown → ∀ status, lastVolume earlier = some status →
          status.volume ≤ cfg.maximumVolume + cfg.volumeStep)) := by
  have hvolume : kind.isVolume = true := by rcases hk with rfl | rfl | rfl <;> rfl
  obtain ⟨level, muted, hq, hchosen⟩ := chosen_of_reachable h hlog hvolume
  refine ⟨level, muted, hq, ?_⟩
  have hmax := cfg.maximumVolume_pos
  have hstep := cfg.volumeStep_pos
  rcases hk with rfl | rfl | rfl
  · exact iff_of_true (hchosen.capped rfl) (by rintro ⟨⟩)
  · obtain ⟨⟨⟩, -⟩ | ⟨status, -, -, rfl⟩ := hchosen.unguessed
    have hlow := status.volume_nonneg
    exact iff_of_true ⟨by omega, by omega⟩ (by rintro ⟨⟩)
  · obtain ⟨⟨⟩, -⟩ | ⟨status, hlast, -, rfl⟩ := hchosen.unguessed
    constructor
    · rintro ⟨-, hhigh⟩ - status' hlast'
      obtain rfl : status' = status := Option.some.inj (hlast'.symm.trans hlast)
      omega
    · intro hle
      have hlevel := hle rfl status hlast
      omega

/-- A speaker at 90 is turned up, to the maximum of 50. -/
theorem level_le_maximum_iff_volumeUp : ∃ (s : Runtime Transcript) (request : List UInt8)
    (level : ℤ) (muted : Bool),
    Transition.Reachable (step .ticking .ofOptions) {} s ∧
    .set 0 .volumeUp 0 request ∈ calls s.log ∧ encodeSetVolume level muted = .ok request ∧
    0 ≤ level ∧ level ≤ Config.ofOptions.maximumVolume := by
  have hrun : (Transition.run (step .ticking .ofOptions)
      [.start, .submit .volumeUp, .run, .run, .run, .reply (Transcript.volume 90), .run, .run,
        .run] ({} : Runtime Transcript)).any
      (fun s => .set 0 .volumeUp 0 [83, 37, 129, 50] ∈ calls s.log) = true := by
    decide +kernel
  obtain ⟨s, hs, hs'⟩ := Transition.exists_reachable_of_run hrun
  have hset := of_decide_eq_true hs'
  obtain ⟨later, reads, remaining, earlier, hlog⟩ := append_of_mem_calls hset
  obtain ⟨level, muted, hq, hiff⟩ := level_le_maximum_iff hs hlog (.inr (.inl rfl))
  exact ⟨s, _, level, muted, hs, hset, hq, hiff.mpr (by rintro ⟨⟩)⟩

/-- It is turned down, to 85, which is above the maximum of 50. -/
theorem not_level_le_maximum_volumeDown : ∃ (s : Runtime Transcript) (request : List UInt8)
    (level : ℤ) (muted : Bool),
    Transition.Reachable (step .ticking .ofOptions) {} s ∧
    .set 0 .volumeDown 0 request ∈ calls s.log ∧ encodeSetVolume level muted = .ok request ∧
    ¬ (0 ≤ level ∧ level ≤ Config.ofOptions.maximumVolume) := by
  have hrun : (Transition.run (step .ticking .ofOptions)
      [.start, .submit .volumeDown, .run, .run, .run, .reply (Transcript.volume 90), .run, .run,
        .run] ({} : Runtime Transcript)).any
      (fun s => .set 0 .volumeDown 0 [83, 37, 129, 85] ∈ calls s.log) = true := by
    decide +kernel
  obtain ⟨s, hs, hs'⟩ := Transition.exists_reachable_of_run hrun
  exact ⟨s, _, 85, false, hs, of_decide_eq_true hs', by decide +kernel, by decide +kernel⟩

/-- In every run, every SET of the volume register writes, of the level and the mute bit, only what
its command names and what was known when it started, if and only if it is no set_volume with
nothing known. -/
theorem set_unguessed_iff (h : Transition.Reachable (step env cfg) {} s)
    {later earlier : List (Obs ρ)} {reads id attempt : ℕ} {kind : ControlKind}
    {request : List UInt8} {remaining : Option Time}
    (hlog : s.log = later ++ .started reads (.set id kind attempt request) remaining :: earlier)
    (hk : kind.isVolume = true) :
    (∃ known level muted, lastVolume earlier = some known ∧
      encodeSetVolume level muted = .ok request ∧ Unguessed cfg kind known level muted) ↔
      ¬ (kind = .setVolume ∧ lastVolume earlier = none) := by
  obtain ⟨level, muted, hq, hchosen⟩ := chosen_of_reachable h hlog hk
  constructor
  · rintro ⟨known, -, -, hknown, -⟩ ⟨-, hnone⟩
    rw [hknown] at hnone
    cases hnone
  · intro hguess
    obtain ⟨known, hknown, hunguessed⟩ := hchosen.unguessed.resolve_left hguess
    exact ⟨known, level, muted, hknown, hq, hunguessed⟩

/-- A speaker that plays at 20 is muted: the level is the one that was read. -/
theorem set_unguessed_iff_mute : ∃ (s : Runtime Transcript) (request : List UInt8)
    (known : VolumeStatus) (level : ℤ) (muted : Bool),
    Transition.Reachable (step .ticking .ofOptions) {} s ∧
    .set 0 .mute 0 request ∈ calls s.log ∧ encodeSetVolume level muted = .ok request ∧
    Unguessed .ofOptions .mute known level muted := by
  have hrun : (Transition.run (step .ticking .ofOptions)
      [.start, .submit (.mute true), .run, .run, .run, .reply (Transcript.volume 20), .run, .run,
        .run] ({} : Runtime Transcript)).any
      (fun s => .set 0 .mute 0 [83, 37, 129, 148] ∈ calls s.log) = true := by
    decide +kernel
  obtain ⟨s, hs, hs'⟩ := Transition.exists_reachable_of_run hrun
  have hset := of_decide_eq_true hs'
  obtain ⟨later, reads, remaining, earlier, hlog⟩ := append_of_mem_calls hset
  obtain ⟨known, level, muted, -, hq, hunguessed⟩ :=
    (set_unguessed_iff hs hlog rfl).mpr (by rintro ⟨⟨⟩, -⟩)
  exact ⟨s, _, known, level, muted, hs, hset, hq, hunguessed⟩

/-- The first command after the start is a set_volume: nothing is known of the mute bit, and it is
written as 0. -/
theorem not_set_unguessed_setVolume : ∃ (s : Runtime Transcript) (later earlier : List _)
    (reads : ℕ) (request : List UInt8) (remaining : Option Time),
    Transition.Reachable (step .ticking .ofOptions) {} s ∧
    s.log = later ++ .started reads (.set 0 .setVolume 0 request) remaining :: earlier ∧
    encodeSetVolume 10 false = .ok request ∧
    ¬ ∃ known level muted, lastVolume earlier = some known ∧
      encodeSetVolume level muted = .ok request ∧
      Unguessed .ofOptions .setVolume known level muted := by
  have hrun : (Transition.run (step .ticking .ofOptions)
      [.start, .submit (.setVolume (1 / 10)), .run, .run, .run, .run]
      ({} : Runtime Transcript)).any
      (fun s => .set 0 .setVolume 0 [83, 37, 129, 10] ∈ calls s.log ∧
        lastVolume s.log = none) = true := by
    decide +kernel
  obtain ⟨s, hs, hs'⟩ := Transition.exists_reachable_of_run hrun
  obtain ⟨hset, hlast⟩ := of_decide_eq_true hs'
  obtain ⟨later, reads, remaining, earlier, hlog⟩ := append_of_mem_calls hset
  refine ⟨s, later, earlier, reads, _, remaining, hs, hlog, by decide +kernel, ?_⟩
  rintro ⟨known, -, -, hknown, -⟩
  have hnone : lastVolume earlier = none := by
    rw [hlog, lastVolume, History.newest?_eq_none] at hlast
    exact History.newest?_eq_none.mpr hlast.of_append.2
  rw [hnone] at hknown
  cases hknown

end Runtime

end KefLsx
