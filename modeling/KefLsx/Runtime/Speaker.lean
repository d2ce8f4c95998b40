import KefLsx.Runtime.Schedule

/-!
# The cached state of the speaker

`snapshot.speaker` is written where an exchange is answered: by the decoded status of a GET, or by
the state that an acknowledged SET is expected to have brought about. Everything else that the
runtime does, failures included, leaves the cached state as it is.
-/

namespace KefLsx

/-- What was known stays known. -/
structure SpeakerState.Retains (old new : SpeakerState) : Prop where
  powerOn : old.powerOn ≠ none → new.powerOn ≠ none
  source : old.source ≠ none → new.source ≠ none
  volume : old.volume ≠ none → new.volume ≠ none
  muted : old.muted ≠ none → new.muted ≠ none

namespace SpeakerState.Retains

lemma refl (speaker : SpeakerState) : Retains speaker speaker := ⟨id, id, id, id⟩

lemma trans {a b c : SpeakerState} (h : Retains a b) (h' : Retains b c) : Retains a c :=
  ⟨h'.powerOn ∘ h.powerOn, h'.source ∘ h.source, h'.volume ∘ h.volume, h'.muted ∘ h.muted⟩

end SpeakerState.Retains

namespace Runtime

variable {ρ : Type} [Client ρ] {env : Env} {cfg : Config} {s t : Runtime ρ} {e : Event ρ}
  {f g : SpeakerState → SpeakerState}

/-- The exchange in flight ends with a decoded status or an acknowledgement, which changes the
cached state by `f`. -/
inductive Answer (cfg : Config) (s : Runtime ρ) :
    Event ρ → (SpeakerState → SpeakerState) → Prop where
  | source (reason : Reason) (r : ρ) (status : SourceStatus)
      (hw : s.worker = some (.sourceGet reason)) (hr : Client.asyncGetSource r = .ok status) :
      Answer cfg s (.reply r) fun speaker =>
        { speaker with powerOn := some status.powerOn, source := some status.source }
  | volume (r : ρ) (status : VolumeStatus)
      (hw : s.worker = some .maintenanceGet ∨ ∃ job, s.worker = some (.volumeGet job))
      (hr : Client.asyncGetVolume r = .ok status) :
      Answer cfg s (.reply r) fun speaker =>
        { speaker with volume := some status.volume, muted := some status.muted }
  | acknowledged (job : Control) (first : Option Failure) (request : List UInt8) (r : ρ)
      (hw : s.worker = some (.setting job first request)) (hr : Client.asyncSet r = .ok ()) :
      Answer cfg s (.reply r) fun speaker => cfg.expectedState speaker job.command

lemma Answer.unique (h : Answer cfg s e f) (h' : Answer cfg s e g) : f = g := by
  cases h <;> cases h' <;> simp_all

/-- A step is an answer and changes the cached state as this answer says, or it is none and leaves
the cached state alone. -/
lemma answer_or_unchanged (h : Rule env cfg s e t) :
    (∃ f, Answer cfg s e f ∧ t.snapshot.speaker = f s.snapshot.speaker) ∨
      (∀ f, ¬ Answer cfg s e f) ∧ t.snapshot.speaker = s.snapshot.speaker := by
  cases h with
  | closeBegun =>
    refine .inr ⟨by rintro f ⟨⟩, ?_⟩
    rw [frame_beginClose.2.1]
    rfl
  | stateDone reason r status hw hr =>
    have hnoted : Ledger.Noted _ (s.stateExchangeDone env cfg reason r status).toLedger :=
      noted_stateExchangeDone
    exact .inl ⟨_, .source reason r status hw hr, hnoted.speaker⟩
  | stateFailed reason r e hw hr =>
    have hnoted : Ledger.Noted _ (s.stateExchangeFailed env cfg reason r e).toLedger :=
      noted_stateExchangeFailed
    refine .inr ⟨?_, hnoted.speaker⟩
    rintro f ⟨⟩ <;> simp_all
  | maintenanceDone r status hw hr => exact .inl ⟨_, .volume r status (.inl hw) hr, rfl⟩
  | maintenanceFailed r e hw hr =>
    refine .inr ⟨?_, rfl⟩
    rintro f ⟨⟩ <;> simp_all
  | volumeGetDone job r status hw hr =>
    exact .inl ⟨_, .volume r status (.inr ⟨job, hw⟩) hr, rfl⟩
  | volumeGetFailed job r e hw hr =>
    refine .inr ⟨?_, rfl⟩
    rintro f ⟨⟩ <;> simp_all
  | attemptsTimedOut job s' hw hs => exact .inr ⟨by rintro f ⟨⟩, hs.noted.speaker⟩
  | attemptsLeft job failure s' hw hs =>
    obtain ⟨l, hnoted, -, hspeaker⟩ :
      ∃ l : Ledger ρ, Ledger.Noted l (s'.controlFailed env cfg job failure).toLedger ∧ _ ∧ _ :=
      exists_noted_controlFailed
    exact .inr ⟨by rintro f ⟨⟩, (hnoted.speaker.trans hspeaker).trans hs.noted.speaker⟩
  | setRejected job first request r e hw hr he =>
    obtain ⟨l, hnoted, -, hspeaker⟩ :
      ∃ l : Ledger ρ, Ledger.Noted l (Runtime.controlFailed env cfg
        ((s.setEnded env job first r).record (·.recordSuccess env cfg false)) job
        (Failure.after first e)).toLedger ∧ _ ∧ _ :=
      exists_noted_controlFailed
    refine .inr ⟨?_, hnoted.speaker.trans hspeaker⟩
    rintro f ⟨⟩ <;> simp_all
  | firstFailed job request r e hw hr he =>
    refine .inr ⟨?_, rfl⟩
    rintro f ⟨⟩ <;> simp_all
  | secondFailed job first request r e hw hr he =>
    obtain ⟨l, hnoted, -, hspeaker⟩ :
      ∃ l : Ledger ρ, Ledger.Noted l (Runtime.controlFailed env cfg
        (s.setEnded env job (some first) r) job (Failure.after (some first) e)).toLedger ∧ _ ∧ _ :=
      exists_noted_controlFailed
    refine .inr ⟨?_, hnoted.speaker.trans hspeaker⟩
    rintro f ⟨⟩ <;> simp_all
  | setAcknowledged job first request r hw hr =>
    obtain ⟨l, time, wall, hnoted, -, -, hspeaker, -⟩ :
      ∃ (l : Ledger ρ) (time : Time) (wall : DateTime),
        Ledger.Noted l (s.controlAcknowledged env cfg job first r).toLedger ∧ _ ∧ _ ∧ _ ∧ _ :=
      exists_noted_controlAcknowledged
    exact .inl ⟨_, .acknowledged job first request r hw hr, hnoted.speaker.trans hspeaker⟩
  | _ => exact .inr ⟨by rintro f ⟨⟩, rfl⟩

/-- An answer forgets nothing: a power command is acknowledged with the source it was executed
with. -/
lemma Answer.retains (hs : Scheduled env cfg s) (h : Answer cfg s e f) :
    s.snapshot.speaker.Retains (f s.snapshot.speaker) := by
  cases h with
  | source reason r status => constructor <;> simp
  | volume r status => constructor <;> simp
  | acknowledged job first request r hw =>
    have hvalue : cfg.executed s.snapshot.speaker job.command = job.command := by
      cases first with
      | none => exact (hs.phase _ hw).1.value
      | some failure => exact (hs.phase _ hw).1.value
    rw [← hvalue]
    cases job.command <;> constructor <;> simp [Config.executed, Config.expectedState]

lemma retains_of_step (h : Transition.Reachable (step env cfg) {} s)
    (hst : step env cfg s e = some t) : s.snapshot.speaker.Retains t.snapshot.speaker := by
  rcases answer_or_unchanged (.of_step hst) with ⟨f, hf, hspeaker⟩ | ⟨-, hspeaker⟩
  · rw [hspeaker]
    exact hf.retains (.of_reachable h)
  · rw [hspeaker]
    apply SpeakerState.Retains.refl

/-- The cached state changes by answers and by nothing else, and what is known of the speaker at
some time is known ever after. -/
theorem speaker_survives (h : Transition.Reachable (step env cfg) {} s) :
    (∀ e t, step env cfg s e = some t →
      (∀ f, Answer cfg s e f → t.snapshot.speaker = f s.snapshot.speaker) ∧
      ((∀ f, ¬ Answer cfg s e f) → t.snapshot.speaker = s.snapshot.speaker)) ∧
    ∀ t, Transition.Reachable (step env cfg) s t →
      s.snapshot.speaker.Retains t.snapshot.speaker := by
  constructor
  · intro e t hst
    rcases answer_or_unchanged (.of_step hst) with ⟨f, hf, hspeaker⟩ | ⟨hnone, hspeaker⟩
    · refine ⟨fun g hg => ?_, fun hnone => absurd hf (hnone f)⟩
      rw [hspeaker, hf.unique hg]
    · exact ⟨fun g hg => absurd hg (hnone g), fun _ => hspeaker⟩
  · intro t ht
    refine ht.invariant (I := fun t => s.snapshot.speaker.Retains t.snapshot.speaker)
      (SpeakerState.Retains.refl _) ?_
    intro t u e hr hretains _ hst
    exact hretains.trans (retains_of_step (h.trans hr) hst)

/-- A poll that cannot connect leaves the state that the first poll has read. -/
theorem speaker_survives_connectFailed : ∃ s t : Runtime Transcript,
    Transition.Reachable (step .ticking .ofOptions) {} s ∧
    step .ticking .ofOptions s (.reply (Transcript.connectFailed .refused)) = some t ∧
    s.snapshot.speaker.source = some .opt ∧ t.snapshot.speaker = s.snapshot.speaker ∧
    s.snapshot.speaker.Retains t.snapshot.speaker := by
  have hrun : (Transition.run (step .ticking .ofOptions)
      [.start, .run, .run, .reply (Transcript.source 0x0B), .run, .poll,
        .reply (Transcript.volume 20), .run] {}).any
      (fun s => s.worker = some (.sourceGet .poll) ∧ s.snapshot.speaker.source = some .opt) =
      true := by
    decide +kernel
  obtain ⟨s, hs, hs'⟩ := Transition.exists_reachable_of_run hrun
  obtain ⟨hw, hsource⟩ := of_decide_eq_true hs'
  have hst : step .ticking .ofOptions s (.reply (Transcript.connectFailed .refused)) =
      s.stepReply .ticking .ofOptions (Transcript.connectFailed .refused) (.sourceGet .poll) := by
    simp only [step, hw]
  obtain ⟨hchanges, hretains⟩ := speaker_survives hs
  refine ⟨s, _, hs, hst, hsource, ?_, hretains _ (.tail .refl trivial hst)⟩
  refine (hchanges _ _ hst).2 ?_
  rintro f (⟨_, _, _, _, hr⟩ | ⟨_, _, hw' | ⟨_, hw'⟩, _⟩ | ⟨_, _, _, _, hw', _⟩)
  · cases hr
  · rw [hw] at hw'
    cases hw'
  · rw [hw] at hw'
    cases hw'
  · rw [hw] at hw'
    cases hw'

end Runtime

end KefLsx
