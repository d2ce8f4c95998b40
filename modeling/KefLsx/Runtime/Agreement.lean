import KefLsx.Runtime.Plan

/-!
# The bytes of a command and the state it should bring about

`_execute_control` and `_expected_state` make the same case analysis twice, once for the request
and once for the cached state. They agree on every kind but one: `turn_off` writes the source for
power commands and expects the source to stay as it is cached.
-/

namespace KefLsx

/-! ### One command -/

/-- The value that a SET carries, as the answer to a GET of its register would be decoded, is what
the state holds of this register. -/
def Agrees (kind : ControlKind) (request : List UInt8) (expected : SpeakerState) : Prop :=
  if kind.isSource then
    ∃ status, decodeSourceValue (requestValue request) = .ok status ∧
      expected.powerOn = some status.powerOn ∧ expected.source = some status.source
  else
    ∃ status, decodeVolumeValue (requestValue request) = .ok status ∧
      expected.volume = some status.volume ∧ expected.muted = some status.muted

/-- A `turn_off` writes the source that is cached. -/
def Config.KeepsSource (cfg : Config) (kind : ControlKind) (speaker : SpeakerState) : Prop :=
  kind = .turnOff → speaker.source = some (cfg.sourceForPowerCommand speaker)

lemma agrees_source {kind : ControlKind} (hk : kind.isSource = true) {source : Source}
    {standby : Option ℤ} {inverse powerOn : Bool} {request : List UInt8} {expected : SpeakerState}
    (h : encodeSetSource source standby inverse powerOn = .ok request)
    (hpower : expected.powerOn = some powerOn) :
    Agrees kind request expected ↔ expected.source = some source := by
  rw [Agrees, if_pos hk, decode_encodeSetSource h]
  constructor
  · rintro ⟨status, hstatus, -, hsource⟩
    cases hstatus
    exact hsource
  · intro hsource
    exact ⟨_, rfl, hpower, hsource⟩

lemma agrees_volume {kind : ControlKind} (hk : kind.isSource = false) {volume : ℤ} {muted : Bool}
    {request : List UInt8} {expected : SpeakerState}
    (h : encodeSetVolume volume muted = .ok request) (hvolume : expected.volume = some volume)
    (hmuted : expected.muted = some muted) : Agrees kind request expected := by
  obtain ⟨status, hstatus, rfl, rfl⟩ := decode_encodeSetVolume h
  rw [Agrees, hk]
  exact ⟨status, hstatus, hvolume, hmuted⟩

/-- The request of an executed command agrees with the state it is expected to bring about, unless
a `turn_off` writes another source than the cached one. -/
theorem agrees_expectedState_iff {cfg : Config} {speaker : SpeakerState} {command : Command}
    {request : List UInt8} (hrequest : cfg.request speaker command = .ok request)
    (hvalue : cfg.executed speaker command = command) :
    Agrees command.kind request (cfg.expectedState speaker command) ↔
      cfg.KeepsSource command.kind speaker := by
  cases command with
  | turnOn value =>
    refine (agrees_source rfl hrequest rfl).trans (iff_of_true ?_ ?_)
    · simp only [Config.executed, Command.turnOn.injEq] at hvalue
      exact hvalue.symm
    · rintro ⟨⟩
  | turnOff value =>
    refine (agrees_source rfl hrequest rfl).trans ?_
    simp [Config.KeepsSource, Config.expectedState, Command.kind]
  | selectSource source =>
    refine (agrees_source rfl hrequest rfl).trans (iff_of_true rfl ?_)
    rintro ⟨⟩
  | setVolume | volumeUp | volumeDown | mute | unmute =>
    refine iff_of_true (agrees_volume rfl hrequest rfl rfl) ?_
    rintro ⟨⟩

/-! ### Every run -/

namespace Runtime

open Log

variable {ρ : Type} [Client ρ] {env : Env} {cfg : Config} {s t : Runtime ρ}

/-- What an acknowledgement leaves and publishes. -/
lemma acknowledged_speaker {job : Control} {first : Option Failure} {request : List UInt8} {r : ρ}
    (hw : s.worker = some (.setting job first request)) (hr : Client.asyncSet r = .ok ())
    (hst : step env cfg s (.reply r) = some t) :
    t.snapshot.speaker = cfg.expectedState s.snapshot.speaker job.command ∧
      (s.publisher = true → t.published = some t.snapshot) := by
  have ht : t = s.controlAcknowledged env cfg job first r := by
    simpa [step, hw, stepReply, hr] using hst.symm
  obtain ⟨l, result, time, -, -, -, -, hpublisher, hspeaker, heq⟩ :
    ∃ (l : Ledger ρ) (result : CommandResult) (time : Time), _ ∧ _ ∧ _ ∧ _ ∧ _ ∧ _ ∧
      (s.controlAcknowledged env cfg job first r).toLedger = _ := controlAcknowledged_cases
  rw [ht, heq, ← hpublisher]
  split
  · exact ⟨hspeaker, fun hp => if_pos hp⟩
  · exact ⟨hspeaker, fun hp => if_pos hp⟩

/-- In every run, the value of a SET agrees with the state that its acknowledgement publishes and
with the state that its plan expects, and that is compared later, if and only if the control is
no `turn_off` of another source than the cached one. -/
theorem agrees_iff_keepsSource (h : Transition.Reachable (step env cfg) {} s) :
    (∀ job first request, s.worker = some (.setting job first request) →
      (Agrees job.command.kind request (cfg.expectedState s.snapshot.speaker job.command) ↔
        cfg.KeepsSource job.command.kind s.snapshot.speaker) ∧
      ∀ r t, Client.asyncSet r = .ok () → step env cfg s (.reply r) = some t →
        t.snapshot.speaker = cfg.expectedState s.snapshot.speaker job.command ∧
        (s.publisher = true → t.published = some t.snapshot)) ∧
    (∀ later id kind expected earlier, s.log = later ++ .planStarted id kind expected :: earlier →
      ∃ speaker command request, command.kind = kind ∧ cfg.request speaker command = .ok request ∧
        expected = cfg.expectedState speaker command ∧
        (∃ attempt, .set id kind attempt request ∈ calls earlier) ∧
        (∀ kind' attempt request', .set id kind' attempt request' ∈ calls earlier →
          request' = request) ∧
        (Agrees kind request expected ↔ cfg.KeepsSource kind speaker)) ∧
    ∀ expected, s.verification.expected = some expected →
      ∃ id kind, lastPlan s.log = some (id, kind, expected) ∧ s.verification.kind = some kind := by
  refine ⟨?_, ?_, ?_⟩
  · intro job first request hw
    have hsent := sent_of_setting (.of_reachable h) hw
    refine ⟨agrees_expectedState_iff hsent.executed.request hsent.executed.value, ?_⟩
    intro r t hr hst
    exact acknowledged_speaker hw hr hst
  · intro later id kind expected earlier hlog
    have hplanned : Planned cfg id kind expected earlier :=
      History.each_iff.mp (each_note_of_reachable h) _ _ _ hlog
    obtain ⟨-, -, speaker, command, request, rfl, hvalue, hrequest, rfl, hne, hall⟩ := hplanned
    refine ⟨speaker, command, request, rfl, hrequest, rfl, ?_, ?_,
      agrees_expectedState_iff hrequest hvalue⟩
    · obtain ⟨call, hcall⟩ := List.exists_mem_of_ne_nil _ hne
      obtain ⟨attempt, rfl⟩ := hall call hcall
      exact ⟨attempt, (mem_sets.mp hcall).1⟩
    · intro kind' attempt request' hmem
      obtain ⟨attempt', heq⟩ := hall _ (mem_sets.mpr ⟨hmem, _, _, _, rfl⟩)
      cases heq
      rfl
  · intro expected hexpected
    rcases (Recorded.of_reachable h).1.plan with
      ⟨-, hnone⟩ | ⟨id, kind, expected', hplan, hkind, h'⟩
    · rw [hnone] at hexpected
      cases hexpected
    · rw [hexpected] at h'
      cases h'
      exact ⟨id, kind, hplan, hkind⟩

/-- A turn_on of a speaker that has not been read: the byte of its SET decodes to the state that it
expects. -/
theorem agrees_turnOn_unread : ∃ (s : Runtime Transcript) (job : Control) (request : List UInt8),
    Transition.Reachable (step .ticking .ofOptions) {} s ∧
    s.worker = some (.setting job none request) ∧
    Agrees .turnOn request (Config.expectedState .ofOptions s.snapshot.speaker job.command) := by
  have hrun : (Transition.run (step .ticking .ofOptions)
      [.start, .submit .turnOn, .run, .run, .run, .run] ({} : Runtime Transcript)).any
      (fun s => s.worker = some (.setting
        { id := 0, command := .turnOn (some .opt), deadline := 801 / 100, waiters := [0],
          result := { id := 0, command := .turnOn, submittedAt := 0 } }
        none [0x53, 0x30, 0x81, 0x2B])) = true := by
    decide +kernel
  obtain ⟨s, hs, hs'⟩ := Transition.exists_reachable_of_run hrun
  have hw := of_decide_eq_true hs'
  obtain ⟨hiff, -⟩ := (agrees_iff_keepsSource hs).1 _ none _ hw
  refine ⟨s, _, _, hs, hw, hiff.mpr ?_⟩
  rintro ⟨⟩

/-- A turn_off with the preferred source Wifi, of a speaker that plays from the optical input: the
byte of its SET decodes to Wifi, and the expected state keeps the optical input. -/
theorem not_agrees_turnOff_preferred :
    ∃ (s : Runtime Transcript) (job : Control) (request : List UInt8),
    Transition.Reachable (step .ticking (.ofOptions (some .wifi))) {} s ∧
    s.worker = some (.setting job none request) ∧
    ¬ Agrees job.command.kind request
      (Config.expectedState (.ofOptions (some .wifi)) s.snapshot.speaker job.command) := by
  have hrun : (Transition.run (step .ticking (.ofOptions (some .wifi)))
      [.start, .run, .run, .reply (Transcript.source 0x0B), .run, .submit .turnOff,
        .reply (Transcript.volume 20), .run, .run, .run] {}).any
      (fun s => s.worker = some (.setting
        { id := 0, command := .turnOff (some .wifi), deadline := 403 / 50, waiters := [0],
          result := { id := 0, command := .turnOff, submittedAt := 10000 } }
        none [0x53, 0x30, 0x81, 0xA2]) ∧ s.snapshot.speaker.source = some .opt) = true := by
    decide +kernel
  obtain ⟨s, hs, hs'⟩ := Transition.exists_reachable_of_run hrun
  obtain ⟨hw, hsource⟩ := of_decide_eq_true hs'
  have hsent := sent_of_setting (.of_reachable hs) hw
  refine ⟨s, _, _, hs, hw, ?_⟩
  rw [agrees_expectedState_iff hsent.executed.request hsent.executed.value]
  intro hkeeps
  have hcached := hkeeps rfl
  rw [hsource] at hcached
  cases hcached

end Runtime

end KefLsx
