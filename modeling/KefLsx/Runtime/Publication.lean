import KefLsx.Runtime.Effects

/-!
# Publication

Entities see nothing but what is published. Every change of the snapshot is followed by a
publication before another coroutine can run, so what the publisher received last is the snapshot.
-/

namespace KefLsx

namespace Ledger

variable {ρ : Type} {env : Env} {cfg : Config} {l l' l'' : Ledger ρ}

/-- The snapshot was published after its last change, if it was changed. -/
structure Published (l l' : Ledger ρ) : Prop where
  publisher : l'.publisher = l.publisher
  published : l'.published = (if l.publisher then some l'.snapshot else l.published) ∨
    l'.published = l.published ∧ l'.snapshot = l.snapshot

/-- What is published, if anything, is the snapshot. -/
def Current (l : Ledger ρ) : Prop :=
  l.published = none ∨ l.publisher = true ∧ l.published = some l.snapshot

namespace Published

lemma refl : Published l l := ⟨rfl, .inr ⟨rfl, rfl⟩⟩

lemma trans (h : Published l l') (h' : Published l' l'') : Published l l'' := by
  refine ⟨h'.publisher.trans h.publisher, ?_⟩
  rcases h'.published with hp' | ⟨hp', hsnapshot'⟩
  · left
    rw [hp', h.publisher]
    split
    · rfl
    · rename_i hnone
      rcases h.published with hp | ⟨hp, -⟩
      · rw [hp, if_neg hnone]
      · exact hp
  · rcases h.published with hp | ⟨hp, hsnapshot⟩
    · left
      rw [hp', hp, hsnapshot']
    · exact .inr ⟨hp'.trans hp, hsnapshot'.trans hsnapshot⟩

/-- Changes that end with a publication. -/
lemma publish (hpublisher : l'.publisher = l.publisher) (hpublished : l'.published = l.published) :
    Published l l'.publish := by
  refine ⟨hpublisher, .inl ?_⟩
  rw [publish_published, hpublisher, hpublished]
  rfl

/-- Changes that leave the snapshot alone. -/
lemma quiet (hpublisher : l'.publisher = l.publisher) (hpublished : l'.published = l.published)
    (hsnapshot : l'.snapshot = l.snapshot) : Published l l' :=
  ⟨hpublisher, .inr ⟨hpublished, hsnapshot⟩⟩

lemma ite {c : Prop} [Decidable c] (h : c → Published l l') :
    Published l (if c then l' else l) := by
  split
  · exact h ‹_›
  · exact .refl

/-- The published snapshot stays the present one. -/
lemma current (h : Published l l') (hl : Current l) : Current l' := by
  rcases h.published with hp | ⟨hp, hsnapshot⟩
  · cases hpub : l.publisher with
    | true =>
      rw [hpub, if_pos rfl] at hp
      exact .inr ⟨h.publisher.trans hpub, hp⟩
    | false =>
      rw [hpub, if_neg (by simp)] at hp
      rcases hl with hnone | ⟨htrue, -⟩
      · exact .inl (hp.trans hnone)
      · rw [hpub] at htrue
        cases htrue
  · rw [Current, hp, hsnapshot, h.publisher]
    exact hl

end Published

lemma published_tick : Published l l.tick := .quiet rfl rfl rfl

lemma published_recordSuccess {o : Obs ρ} {stateSuccess : Bool}
    (hpublisher : l'.publisher = l.publisher) (hpublished : l'.published = l.published) :
    Published l ((l'.emit o).recordSuccess env cfg stateSuccess) :=
  .publish hpublisher hpublished

lemma published_recordPrimaryFailure {name : String} :
    Published l (l.recordPrimaryFailure env cfg name) := .publish rfl rfl

lemma published_finishControlError {job : Control} {error : ControlError} {attempted : Bool}
    {outcome : Outcome} : Published l (l.finishControlError env job error attempted outcome) :=
  .publish rfl rfl

lemma published_startVerification {job : Control} {expected : SpeakerState} :
    Published l (l.startVerification env cfg job expected) := .quiet rfl rfl rfl

lemma frame_setVerified {value : Bool} :
    (l.setVerified value).publisher = l.publisher ∧
      (l.setVerified value).published = l.published := by
  unfold setVerified
  split <;> exact ⟨rfl, rfl⟩

lemma published_scheduleNextVerification :
    Published l (l.scheduleNextVerification env cfg) := by
  unfold scheduleNextVerification
  dsimp only
  split
  · have hmark : Published l (if l.awaitsVerification then (l.setVerified false).publish else l) :=
      .ite fun _ => .publish frame_setVerified.1 frame_setVerified.2
    exact hmark.trans (.quiet rfl rfl rfl)
  · exact .quiet rfl rfl rfl

lemma published_completeVerification : Published l (l.completeVerification env cfg) := by
  unfold completeVerification
  split
  · exact .publish frame_setVerified.1 frame_setVerified.2
  · exact .trans (.publish (by rfl) (by rfl)) published_scheduleNextVerification

lemma published_verify {reason : Reason} : Published l (l.verify env cfg reason) := by
  have htick : Published l (if l.verification.due.isSome then l.tick else l) :=
    .ite fun _ => .quiet rfl rfl rfl
  unfold verify
  dsimp only
  split
  · exact htick.trans published_completeVerification
  · exact htick

end Ledger

namespace Runtime

variable {ρ : Type} {env : Env} {cfg : Config} {s t : Runtime ρ} {e : Event ρ}

lemma published_stateExchangeFailed {reason : Reason} {r : ρ} {error : LsxError} :
    Ledger.Published s.toLedger (s.stateExchangeFailed env cfg reason r error).toLedger := by
  obtain ⟨l, hl, heq⟩ : ∃ l : Ledger ρ, _ ∧
    (s.stateExchangeFailed env cfg reason r error).toLedger = _ := stateExchangeFailed_eq
  have hpolled : Ledger.Published s.toLedger l := by
    rcases hl with ⟨-, rfl⟩ | ⟨-, rfl⟩
    · exact .publish rfl rfl
    · exact .quiet rfl rfl rfl
  rw [heq]
  refine hpolled.trans (.ite fun _ => ?_)
  exact .trans (.publish (by rfl) (by rfl)) Ledger.published_scheduleNextVerification

lemma published_stateExchangeDone {reason : Reason} {r : ρ} {status : SourceStatus} :
    Ledger.Published s.toLedger (s.stateExchangeDone env cfg reason r status).toLedger := by
  rw [stateExchangeDone_eq]
  exact .trans (.publish (by rfl) (by rfl)) (Ledger.published_verify.trans Ledger.published_tick)

lemma published_controlFailed {job : Control} {failure : Failure} :
    Ledger.Published s.toLedger (s.controlFailed env cfg job failure).toLedger := by
  obtain ⟨l, hl, heq⟩ : ∃ l : Ledger ρ, _ ∧
    (s.controlFailed env cfg job failure).toLedger = _ := controlFailed_eq
  have hcounted : Ledger.Published s.toLedger l := by
    rcases hl with ⟨-, rfl⟩ | ⟨-, rfl⟩
    · exact .refl
    · exact Ledger.published_recordPrimaryFailure
  rw [heq]
  exact hcounted.trans (Ledger.published_finishControlError.trans
    (.ite fun _ => Ledger.published_startVerification))

lemma published_controlAcknowledged {job : Control} {first : Option Failure} {r : ρ} :
    Ledger.Published s.toLedger (s.controlAcknowledged env cfg job first r).toLedger := by
  obtain ⟨l, hl, heq⟩ : ∃ l : Ledger ρ, _ ∧
    (s.controlAcknowledged env cfg job first r).toLedger = _ := controlAcknowledged_eq
  have hrecorded : Ledger.Published s.toLedger
      ((l.emit (.setEnded job.id (attemptNumber first) r (l.now env))).recordSuccess env cfg
        false) := by
    rcases hl with rfl | rfl
    · exact Ledger.published_recordSuccess rfl rfl
    · exact Ledger.published_recordSuccess rfl rfl
  rw [heq]
  refine hrecorded.trans (.publish ?_ ?_)
  · split <;> rfl
  · split <;> rfl

variable [Client ρ]

/-- Every step but `set_publisher` publishes what it changes. -/
lemma published_of_rule (h : Rule env cfg s e t) (he : e ≠ .setPublisher) :
    Ledger.Published s.toLedger t.toLedger := by
  cases h with
  | setPublisher => exact absurd rfl he
  | accepted => exact .publish rfl rfl
  | closeBegun =>
    rw [frame_beginClose.2.1]
    exact .quiet rfl rfl rfl
  | stateFailed => exact published_stateExchangeFailed
  | stateDone => exact published_stateExchangeDone
  | maintenanceFailed => exact .publish rfl rfl
  | maintenanceDone => exact .publish rfl rfl
  | controlExpired => exact .publish rfl rfl
  | volumeGetFailed job r error =>
    exact Ledger.Published.trans (.quiet (by rfl) (by rfl) (by rfl))
      (Ledger.published_recordPrimaryFailure.trans Ledger.published_finishControlError)
  | volumeGetDone => exact .publish rfl rfl
  | attemptsTimedOut job s' hw hs =>
    have htick : Ledger.Published s.toLedger s'.toLedger := by
      cases hs <;> exact .quiet rfl rfl rfl
    exact htick.trans
      (Ledger.published_recordPrimaryFailure.trans Ledger.published_finishControlError)
  | attemptsLeft job failure s' hw hs =>
    have htick : Ledger.Published s.toLedger s'.toLedger := by
      cases hs <;> exact .quiet rfl rfl rfl
    exact htick.trans published_controlFailed
  | setRejected job first request r error =>
    have hrecorded : Ledger.Published s.toLedger
        ((s.setEnded env job first r).record (·.recordSuccess env cfg false)).toLedger :=
      .publish rfl rfl
    exact hrecorded.trans published_controlFailed
  | secondFailed =>
    exact Ledger.Published.trans (.quiet (by rfl) (by rfl) (by rfl)) published_controlFailed
  | setAcknowledged => exact published_controlAcknowledged
  | _ => exact .quiet rfl rfl rfl

lemma current_of_reachable (h : Transition.Reachable (step env cfg) {} s) : s.Current := by
  refine h.invariant (I := fun s => s.Current) (.inl rfl) ?_
  intro s t e _ hs _ hst
  by_cases he : e = .setPublisher
  · subst he
    cases Rule.of_step hst with
    | setPublisher =>
      rcases hs with hnone | ⟨-, hsome⟩
      · exact .inl hnone
      · exact .inr ⟨rfl, hsome⟩
  · exact (published_of_rule (.of_step hst) he).current hs

/-- In every state of every run, what was published last, if anything was, is the snapshot; and
where a publisher is installed, a step that changes the snapshot publishes it. -/
theorem no_unpublished_change (h : Transition.Reachable (step env cfg) {} s) :
    (∀ snapshot, s.published = some snapshot → snapshot = s.snapshot) ∧
    ∀ e t, s.publisher = true → step env cfg s e = some t → t.snapshot ≠ s.snapshot →
      t.published = some t.snapshot := by
  constructor
  · intro snapshot hsome
    rcases current_of_reachable h with hnone | ⟨-, hcurrent⟩
    · rw [hnone] at hsome
      cases hsome
    · rw [hcurrent] at hsome
      exact (Option.some.inj hsome).symm
  · intro e t hpublisher hst hchanged
    by_cases he : e = .setPublisher
    · subst he
      cases Rule.of_step hst with
      | setPublisher => exact absurd rfl hchanged
    · rcases (published_of_rule (.of_step hst) he).published with hp | ⟨-, hsame⟩
      · rw [hp, if_pos hpublisher]
      · exact absurd hsame hchanged

/-- The verification of a turn_on finds another source: the mismatch is published. -/
theorem no_unpublished_change_mismatch : ∃ s : Runtime Transcript,
    Transition.Reachable (step .slow .ofOptions) {} s ∧
    s.snapshot.health.lastError = some "VerificationMismatch" ∧ s.published = some s.snapshot := by
  have hrun : (Transition.run (step .slow .ofOptions)
      [.setPublisher, .start, .run, .run, .submit .turnOn, .reply (Transcript.source 0x0B), .run,
        .run, .run, .reply (Transcript.status 0x11), .run, .reply (Transcript.source 0x0A)]
      ({} : Runtime Transcript)).any
      (fun s => s.snapshot.health.lastError = some "VerificationMismatch" ∧
        s.published ≠ none) = true := by
    decide +kernel
  obtain ⟨s, hs, hs'⟩ := Transition.exists_reachable_of_run hrun
  obtain ⟨hmismatch, hpublished⟩ := of_decide_eq_true hs'
  obtain ⟨snapshot, hsome⟩ := Option.ne_none_iff_exists'.mp hpublished
  refine ⟨s, hs, hmismatch, ?_⟩
  rw [hsome, (no_unpublished_change hs).1 snapshot hsome]

end Runtime

end KefLsx
