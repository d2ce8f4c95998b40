import KefLsx.Deployment.Flight

/-!
# The cached state and the speaker

Each facet of the cached state is a replica of the same facet of the speaker: every step of a
deployment is a step of `Replica`, or concerns neither. So what the runtime publishes about a facet
that has not changed since the runtime heard of it is true, whatever else happens.

When nobody else operates the speaker and no reply is lost, that is always the case between two
exchanges: what is known is right.
-/

namespace KefLsx

open FakeLsx LsxClient

/-! ### What an exchange tells -/

/-- An exchange over which nothing was sent does not succeed. -/
lemma Call.not_succeeds_of_silent {t : Transcript} (h : t.Wrote → t.Carries []) (call : Call) :
    call.succeeds t = false := by
  have hfails : ∀ register, ∃ e, exchange register t = .error e := by
    intro register
    cases t with
    | closed => exact ⟨_, rfl⟩
    | connectFailed failure => exact ⟨_, rfl⟩
    | connected reads ending =>
      obtain ⟨hreads, hnil⟩ := h trivial
      have hflat : reads.flatten = [] := List.prefix_nil.mp hnil
      obtain ⟨e, he, -⟩ := exchange_of_not_completes register (.setStatus ⟨0⟩)
        (t := .connected reads ending) ⟨hreads, hflat ▸ List.nil_prefix⟩
        (fun hc => by simpa [hflat, ResponseFrame.bytes] using hc.2)
      exact ⟨e, he⟩
  obtain ⟨e, hset⟩ := hfails none
  obtain ⟨e', hsource⟩ := hfails (some Wire.sourceRegister)
  obtain ⟨e'', hvolume⟩ := hfails (some Wire.volumeRegister)
  cases call <;>
    simp [Call.succeeds, Client.asyncGetSource, Client.asyncGetVolume, Client.asyncSet,
      asyncGetSource, asyncGetVolume, asyncSet, hset, hsource, hvolume, Except.isOk, Except.toBool]

namespace Facet

/-- The state that an acknowledged command is expected to have brought about is the state of a
speaker that was set as the command asks, in what the acknowledgement tells. -/
lemma cached_expectedState {cfg : Config} {speaker : SpeakerState} {command : Command}
    {after : FakeLsx.SpeakerState} (hholds : (cfg.encoderCall speaker command).Holds after)
    (hvalue : cfg.executed speaker command = command) (id attempt : ℕ) (request : List UInt8)
    (f : Facet) : f.cached (cfg.expectedState speaker command) =
      if (Call.set id command.kind attempt request).tells f then some (f.actual after)
      else f.cached speaker := by
  cases command with
  | turnOn value =>
    obtain ⟨hsource, -, -, hpower⟩ := hholds
    simp only [Config.executed, Command.turnOn.injEq] at hvalue
    cases f <;> simp [Call.tells, Command.kind, ControlKind.isSource, ControlKind.isVolume, cached,
      actual, Config.expectedState, hpower, ← hvalue, hsource]
  | turnOff value =>
    obtain ⟨hsource, -, -, hpower⟩ := hholds
    cases f <;> simp [Call.tells, Command.kind, ControlKind.isSource, ControlKind.isVolume, cached,
      actual, Config.expectedState, hpower]
  | selectSource source =>
    obtain ⟨hsource, -, -, hpower⟩ := hholds
    cases f <;> simp [Call.tells, Command.kind, ControlKind.isSource, ControlKind.isVolume, cached,
      actual, Config.expectedState, hpower, hsource]
  | setVolume | volumeUp | volumeDown | mute | unmute =>
    obtain ⟨hlevel, hmuted⟩ := hholds
    cases f <;> simp [Call.tells, Command.kind, ControlKind.isSource, ControlKind.isVolume, cached,
      actual, Config.expectedState, hlevel, hmuted]

/-- The register that holds the facet. -/
def register : Facet → UInt8
  | power | source => Wire.sourceRegister
  | volume => Wire.volumeRegister

/-- A facet is a part of its register. -/
lemma actual_congr {s t : FakeLsx.SpeakerState} {f : Facet}
    (h : s.register f.register = t.register f.register) : f.actual s = f.actual t := by
  have hstatus (hs : s.register Wire.sourceRegister = t.register Wire.sourceRegister) :
      s.source = t.source ∧ s.standby.minutes = t.standby.minutes ∧ s.inverse = t.inverse ∧
        s.power = t.power := by
    have hdecode := decode_sourceRegister s
    rw [hs, decode_sourceRegister t] at hdecode
    simpa [eq_comm] using hdecode
  cases f with
  | power => exact (hstatus h).2.2.2
  | source => exact (hstatus h).1
  | volume =>
    have hvalue := congrArg UInt8.toNat h
    simp only [register, toNat_register_volume, SpeakerState.volumeValue] at hvalue
    have hs := s.volume_lt
    have ht := t.volume_lt
    have hmuted : s.muted = t.muted := by
      cases hsm : s.muted <;> cases htm : t.muted <;> simp [hsm, htm] at hvalue ⊢ <;> omega
    have hvolume : s.volume = t.volume := by
      rw [hmuted] at hvalue
      omega
    simp [actual, hvolume, hmuted]

/-- The register that a command writes holds the facets that it may change. -/
lemma register_encoderCall (cfg : Config) (speaker : SpeakerState) (command : Command) :
    (cfg.encoderCall speaker command).register =
      if command.kind.isSource then Wire.sourceRegister else Wire.volumeRegister := by
  cases command <;> rfl

end Facet

namespace Runtime

variable {env : Env} {cfg : Config} {s s' : Runtime Transcript} {t : Transcript} {call : Call}

lemma call_of_flight {w : Worker} (hw : s.worker = some w) (hcall : s.flight = some call) :
    w.call? = some call := by
  rw [← flight_of_worker hw, hcall]

/-- A success of the exchange in flight is an answer, and changes the cached state; a failure does
not. -/
lemma answer_of_reply (hcall : s.flight = some call) (h : Rule env cfg s (.reply t) s') :
    (call.succeeds t = true ∧ ∃ g, Answer cfg s (.reply t) g ∧
        s'.snapshot.speaker = g s.snapshot.speaker) ∨
      call.succeeds t = false ∧ s'.snapshot.speaker = s.snapshot.speaker := by
  rcases answer_or_unchanged h with ⟨g, hg, hspeaker⟩ | ⟨hnone, hspeaker⟩
  · refine .inl ⟨?_, g, hg, hspeaker⟩
    cases hg with
    | source reason r status hw hr =>
      cases call_of_flight hw hcall
      simp [Call.succeeds, hr, Except.isOk, Except.toBool]
    | volume r status hw hr =>
      rcases hw with hw | ⟨job, hw⟩ <;> cases call_of_flight hw hcall <;>
        simp [Call.succeeds, hr, Except.isOk, Except.toBool]
    | acknowledged job first request r hw hr =>
      cases call_of_flight hw hcall
      simp [Call.succeeds, hr, Except.isOk, Except.toBool]
  · refine .inr ⟨?_, hspeaker⟩
    obtain ⟨w, hw, hflight⟩ := Option.bind_eq_some_iff.mp hcall
    cases w with
    | sourceGet reason =>
      cases hflight
      cases hr : Client.asyncGetSource t with
      | error e => simp [Call.succeeds, hr, Except.isOk, Except.toBool]
      | ok status => exact absurd (.source reason t status hw hr) (hnone _)
    | maintenanceGet =>
      cases hflight
      cases hr : Client.asyncGetVolume t with
      | error e => simp [Call.succeeds, hr, Except.isOk, Except.toBool]
      | ok status => exact absurd (.volume t status (.inl hw) hr) (hnone _)
    | volumeGet job =>
      cases hflight
      cases hr : Client.asyncGetVolume t with
      | error e => simp [Call.succeeds, hr, Except.isOk, Except.toBool]
      | ok status => exact absurd (.volume t status (.inr ⟨job, hw⟩) hr) (hnone _)
    | setting job first request =>
      cases hflight
      cases hr : Client.asyncSet t with
      | error e => simp [Call.succeeds, hr, Except.isOk, Except.toBool]
      | ok u => exact absurd (.acknowledged job first request t hw hr) (hnone _)
    | _ => cases hflight

/-- The SET in flight is what an encoder made of its command. -/
lemma encoded_of_setting (hs : Scheduled env cfg s) {job : Control} {first : Option Failure}
    {request : List UInt8} (hw : s.worker = some (.setting job first request)) :
    (cfg.encoderCall s.snapshot.speaker job.command).encode = .ok request := by
  rw [← Config.request_eq_encode]
  exact (sent_of_setting hs hw).executed.request

/-- What a success puts into the cached state is the state of the speaker right after it executed
the request. -/
lemma cached_of_answer (hs : Scheduled env cfg s) (hcall : s.flight = some call)
    {g : SpeakerState → SpeakerState} (hg : Answer cfg s (.reply t) g)
    {before after : FakeLsx.SpeakerState} {bytes : List UInt8}
    (hreceive : before.receive call.request = (bytes, after)) (hcarries : t.Carries bytes)
    (f : Facet) : f.cached (g s.snapshot.speaker) =
      if call.tells f then some (f.actual after) else f.cached s.snapshot.speaker := by
  cases hg with
  | source reason r status hw hr =>
    cases call_of_flight hw hcall
    have hget : before.receive (encodeGet Wire.sourceRegister) = (bytes, after) := hreceive
    have hsame : before = after :=
      congrArg Prod.snd ((receive_raw ⟨Wire.sourceRegister, none⟩).symm.trans hget)
    rw [show bytes = (before.receive (encodeGet Wire.sourceRegister)).1 from
      (congrArg Prod.fst hget).symm] at hcarries
    obtain ⟨-, rfl⟩ := (asyncGetSource_receive before hcarries status).mp hr
    subst hsame
    cases f <;> simp [Call.tells, Facet.cached, Facet.actual]
  | volume r status hw hr =>
    have htells : call.request = encodeGet Wire.volumeRegister ∧
        ∀ f, call.tells f = decide (f = .volume) := by
      rcases hw with hw | ⟨job, hw⟩ <;> cases call_of_flight hw hcall <;>
        exact ⟨rfl, fun f => by cases f <;> rfl⟩
    have hget : before.receive (encodeGet Wire.volumeRegister) = (bytes, after) := by
      rw [← htells.1]
      exact hreceive
    have hsame : before = after :=
      congrArg Prod.snd ((receive_raw ⟨Wire.volumeRegister, none⟩).symm.trans hget)
    rw [show bytes = (before.receive (encodeGet Wire.volumeRegister)).1 from
      (congrArg Prod.fst hget).symm] at hcarries
    obtain ⟨-, hlevel, hmuted⟩ := (asyncGetVolume_receive before hcarries status).mp hr
    subst hsame
    cases f <;> simp [htells.2, Facet.cached, Facet.actual, hlevel, hmuted]
  | acknowledged job first request r hw hr =>
    cases call_of_flight hw hcall
    obtain ⟨-, hholds, -⟩ := EncoderCall.receive_encode (s := before) (encoded_of_setting hs hw)
    have hset : before.receive request = (bytes, after) := hreceive
    rw [hset] at hholds
    exact Facet.cached_expectedState hholds (sent_of_setting hs hw).executed.value _ _ _ f

end Runtime

/-! ### Every facet is a replica -/

namespace Deployment

variable {env : Env} {cfg : Config} {speaker : FakeLsx.SpeakerState} {d d' : Deployment}
  {e : Event}

/-- The facet of the speaker, of the cached state, and of the reply in flight. -/
def replica (d : Deployment) (f : Facet) : Replica f.Content where
  value := f.actual d.speaker
  version := (d.dates f).version
  copy := f.cached d.runtime.snapshot.speaker
  seen := (d.dates f).seen
  report := d.reply.map fun reply => (reply.versions f, f.actual reply.speaker)

/-- A reply answers the request in flight. -/
def Answered (d : Deployment) : Prop :=
  ∀ reply, d.reply = some reply → ∃ (call : Call) (before : FakeLsx.SpeakerState),
    d.call? = some call ∧ before.receive call.request = (reply.bytes, reply.speaker) ∧
      call ∈ d.executed

lemma answered_of_moves (h : Answered d) (hmoves : Moves env cfg d e d') : Answered d' := by
  intro reply hreply
  cases hmoves with
  | runtime e runtime hst hr hc =>
    obtain ⟨call, before, hcall, hreceive, hmem⟩ := h reply hreply
    refine ⟨call, before, ?_, hreceive, hmem⟩
    have hflight : d.runtime.flight = some call := hcall
    cases Runtime.flies_of_rule (.of_step hst) hr hc with
    | kept hkept => exact hkept.trans hflight
    | started call' hnone =>
      rw [hnone] at hflight
      cases hflight
  | cancelled | finished => cases hreply
  | executed call hcall =>
    cases hreply
    exact ⟨call, d.speaker, hcall, rfl, List.mem_cons_self⟩
  | executedLate i call hlate =>
    obtain ⟨call', before, hcall, hreceive, hmem⟩ := h reply hreply
    exact ⟨call', before, hcall, hreceive, List.mem_cons_of_mem _ hmem⟩
  | touched => exact h reply hreply

lemma answered_of_reachable (h : Transition.Reachable (step env cfg) (initially speaker) d) :
    Answered d :=
  h.invariant (I := Answered) nofun fun _ hanswered _ hst =>
    answered_of_moves hanswered (.of_step hst)

/-- A step of the runtime that ends no exchange leaves the cached state alone. -/
lemma speaker_of_step {runtime : Runtime Transcript} {e : KefLsx.Event Transcript}
    (hst : Runtime.step env cfg d.runtime e = some runtime) (hr : ∀ r, e ≠ .reply r) :
    runtime.snapshot.speaker = d.runtime.snapshot.speaker := by
  rcases Runtime.answer_or_unchanged (.of_step hst) with ⟨g, hg, -⟩ | ⟨-, hspeaker⟩
  · cases hg <;> exact absurd rfl (hr _)
  · exact hspeaker

/-- The end of an exchange, for one facet: what the reply tells of it is learnt. -/
lemma replica_of_finish (hr : Transition.Reachable (step env cfg) (initially speaker) d)
    {call : Call} {t : Transcript} {runtime : Runtime Transcript} (hcall : d.call? = some call)
    (hpermits : d.Permits t) (hst : Runtime.step env cfg d.runtime (.reply t) = some runtime)
    (f : Facet) : Replica.Step (d.replica f) ((d.finish call t runtime).replica f) := by
  have hanswer := Runtime.answer_of_reply hcall (.of_step hst)
  cases hreply : d.reply with
  | none =>
    have hsilent : call.succeeds t = false := by
      rw [Permits, hreply] at hpermits
      exact Call.not_succeeds_of_silent hpermits call
    rcases hanswer with ⟨hsucceeds, -⟩ | ⟨-, hspeaker⟩
    · rw [hsilent] at hsucceeds
      cases hsucceeds
    · have hsame : (d.finish call t runtime).replica f = d.replica f := by
        simp [replica, finish, datesAfter, hreply, hspeaker]
      rw [hsame]
      exact .idle
  | some reply =>
    rw [Permits, hreply] at hpermits
    obtain ⟨call', before, hcall', hreceive, -⟩ := answered_of_reachable hr reply hreply
    obtain rfl : call' = call := Option.some.inj (hcall'.symm.trans hcall)
    have hreport : (d.replica f).report = some (reply.versions f, f.actual reply.speaker) := by
      simp [replica, hreply]
    rcases hanswer with ⟨hsucceeds, g, hg, hspeaker⟩ | ⟨hfails, hspeaker⟩
    · have hcached := Runtime.cached_of_answer (.of_reachable (runtime_reachable hr)) hcall hg
        hreceive hpermits f
      by_cases htells : call'.tells f = true
      · have hlearn : (d.finish call' t runtime).replica f =
            { d.replica f with
              copy := some (f.actual reply.speaker)
              seen := some (reply.versions f)
              report := none } := by
          simp [replica, finish, datesAfter, hreply, hspeaker, hcached, hsucceeds, htells]
        rw [hlearn]
        exact .learn _ _ hreport
      · have hlose : (d.finish call' t runtime).replica f =
            { d.replica f with report := none } := by
          simp [replica, finish, datesAfter, hreply, hspeaker, hcached, htells]
        rw [hlose]
        exact .lose
    · have hlose : (d.finish call' t runtime).replica f = { d.replica f with report := none } := by
        simp [replica, finish, datesAfter, hreply, hspeaker, hfails]
      rw [hlose]
      exact .lose

/-- A step of the deployment is a step of every replica. -/
theorem replica_of_moves (hr : Transition.Reachable (step env cfg) (initially speaker) d)
    (hmoves : Moves env cfg d e d') (f : Facet) : Replica.Step (d.replica f) (d'.replica f) := by
  cases hmoves with
  | runtime e runtime hst hne =>
    have hsame : ({ d with runtime := runtime } : Deployment).replica f = d.replica f := by
      simp [replica, speaker_of_step hst hne]
    rw [hsame]
    exact .idle
  | cancelled runtime hst =>
    have hlose : (d.cancel runtime).replica f = { d.replica f with report := none } := by
      simp [replica, cancel, speaker_of_step hst nofun]
    rw [hlose]
    exact .lose
  | executed call => exact .answer _
  | finished call t runtime hcall hpermits hst => exact replica_of_finish hr hcall hpermits hst f
  | executedLate | touched => exact .write _

lemma coherent_of_reachable (h : Transition.Reachable (step env cfg) (initially speaker) d)
    (f : Facet) : (d.replica f).Coherent := by
  refine h.invariant (I := fun d => (d.replica f).Coherent) ?_ ?_
  · have hinit : (initially speaker).replica f = { value := f.actual speaker } := by
      cases f <;> rfl
    rw [hinit]
    exact Replica.coherent_init _
  · intro d d' e hr hcoherent _ hst
    exact hcoherent.step (replica_of_moves hr (.of_step hst) f)

/-- In every run, with any other users of the speaker, any lost replies and any requests that are
executed late: what is cached of a facet is true, if the facet has not changed since the speaker
made the reply from which it was cached. Every step is one of the steps of a replica. -/
theorem cached_of_current (h : Transition.Reachable (step env cfg) (initially speaker) d)
    (f : Facet) :
    ((d.dates f).seen = some (d.dates f).version →
      f.cached d.runtime.snapshot.speaker = some (f.actual d.speaker)) ∧
    ∀ e d', step env cfg d e = some d' → Replica.Step (d.replica f) (d'.replica f) :=
  ⟨(coherent_of_reachable h f).copy_eq, fun _ _ hst => replica_of_moves h (.of_step hst) f⟩

/-- The runtime asks for the state and for the volume, and is answered. -/
def introduction (speaker : FakeLsx.SpeakerState) : List Event :=
  [.runtime .start, .runtime .run, .runtime .run, .execute,
    .finish (.connected [(speaker.receive (encodeGet Wire.sourceRegister)).1] .eof),
    .runtime .run, .execute,
    .finish (.connected [(speaker.receive (encodeGet Wire.volumeRegister)).1] .eof)]

/-- Somebody switches the speaker off, which leaves its volume as it is cached. -/
theorem cached_of_current_off : ∃ d : Deployment,
    Transition.Reachable (step .ticking .ofOptions) (initially { volume := 37 }) d ∧
    d.speaker.power = false ∧
    Facet.volume.cached d.runtime.snapshot.speaker = some (Facet.volume.actual d.speaker) := by
  have hrun : (Transition.run (step .ticking .ofOptions)
      (introduction { volume := 37 } ++ [.touch { power := false, volume := 37 }])
      (initially { volume := 37 })).any
      (fun d => d.speaker.power = false ∧
        (d.dates .volume).seen = some (d.dates .volume).version) = true := by
    decide +kernel
  obtain ⟨d, hd, hd'⟩ := Transition.exists_reachable_of_run hrun
  obtain ⟨hpower, hseen⟩ := of_decide_eq_true hd'
  exact ⟨d, hd, hpower, (cached_of_current hd .volume).1 hseen⟩

/-! ### A speaker of one's own -/

/-- Nobody else operates the speaker, no request is executed late, and a reply arrives as a whole.
Connections may fail, and requests be lost. -/
def Undisturbed (d : Deployment) : Event → Prop
  | .touch _ | .executeLate _ => False
  | .finish t => ∀ reply ∈ d.reply, t.Completes reply.bytes
  | .runtime .cancelled => d.reply = none
  | _ => True

instance (d : Deployment) : (e : Event) → Decidable (Undisturbed d e)
  | .touch _ => inferInstanceAs (Decidable False)
  | .executeLate _ => inferInstanceAs (Decidable False)
  | .finish t => inferInstanceAs (Decidable (∀ reply ∈ d.reply, t.Completes reply.bytes))
  | .execute => inferInstanceAs (Decidable True)
  | .runtime e => by
    cases e with
    | cancelled => exact inferInstanceAs (Decidable (d.reply = none))
    | _ => exact inferInstanceAs (Decidable True)

/-- The SET in flight has been executed, and its acknowledgement will tell the facet. -/
def Announced (d : Deployment) (f : Facet) : Prop :=
  ∃ reply id kind attempt request, d.reply = some reply ∧
    d.call? = some (.set id kind attempt request) ∧
    (Call.set id kind attempt request).tells f = true

/-- The facet is unknown, or cached as it is, or the news of it is under way. -/
structure Followed (d : Deployment) (f : Facet) : Prop where
  reply : ∀ reply, d.reply = some reply → reply.versions f = (d.dates f).version
  known : f.cached d.runtime.snapshot.speaker = none ∨
    (d.dates f).seen = some (d.dates f).version ∨ Announced d f

/-- A GET changes nothing. -/
lemma receive_get (speaker : FakeLsx.SpeakerState) (register : UInt8) :
    (speaker.receive (encodeGet register)).2 = speaker :=
  congrArg Prod.snd (receive_raw ⟨register, none⟩)

/-- A SET that tells nothing of a facet leaves the facet as it is, but for the source that a
`turn_off` writes: without a preferred source this is the cached one. -/
lemma actual_of_untold (hs : Runtime.Scheduled env cfg d.runtime) {job : Control}
    {first : Option Failure} {request : List UInt8}
    (hw : d.runtime.worker = some (.setting job first request)) {f : Facet} {id attempt : ℕ}
    (huntold : (Call.set id job.command.kind attempt request).tells f = false)
    (hsource : f = .source → cfg.preferredWakeSource = none ∧
      d.runtime.snapshot.speaker.source = some d.speaker.source) :
    f.actual (d.speaker.receive request).2 = f.actual d.speaker := by
  obtain ⟨-, hholds, hother, -⟩ :=
    EncoderCall.receive_encode (s := d.speaker) (Runtime.encoded_of_setting hs hw)
  have hregister (hne : f.register ≠
      if job.command.kind.isSource then Wire.sourceRegister else Wire.volumeRegister) :
      f.actual (d.speaker.receive request).2 = f.actual d.speaker := by
    refine Facet.actual_congr (hother _ ?_)
    rw [Facet.register_encoderCall]
    exact hne
  cases hcommand : job.command with
  | turnOff value =>
    rw [hcommand] at huntold hholds hregister
    cases f with
    | power => cases huntold
    | source =>
      obtain ⟨hpreferred, hcached⟩ := hsource rfl
      have hwritten := hholds.1
      rw [Config.sourceForPowerCommand, hpreferred, hcached] at hwritten
      exact hwritten
    | volume => exact hregister (show Wire.volumeRegister ≠ Wire.sourceRegister by decide)
  | turnOn | selectSource =>
    rw [hcommand] at huntold hregister
    cases f with
    | power => cases huntold
    | source => cases huntold
    | volume => exact hregister (show Wire.volumeRegister ≠ Wire.sourceRegister by decide)
  | setVolume | volumeUp | volumeDown | mute | unmute =>
    rw [hcommand] at huntold hregister
    cases f with
    | power => exact hregister (show Wire.sourceRegister ≠ Wire.volumeRegister by decide)
    | source => exact hregister (show Wire.sourceRegister ≠ Wire.volumeRegister by decide)
    | volume => cases huntold

lemma Followed.execute (hr : Transition.Reachable (step env cfg) (initially speaker) d) {f : Facet}
    (hf : f = .source → cfg.preferredWakeSource = none) (h : Followed d f) {call : Call}
    (hcall : d.call? = some call) (hreply : d.reply = none) : Followed (d.execute call) f := by
  constructor
  · rintro reply ⟨⟩
    rfl
  have hknown : f.cached d.runtime.snapshot.speaker = none ∨
      (d.dates f).seen = some (d.dates f).version := by
    rcases h.known with hnone | hseen | ⟨reply, -, -, -, -, hsome, -⟩
    · exact .inl hnone
    · exact .inr hseen
    · rw [hreply] at hsome
      cases hsome
  rcases hknown with hnone | hseen
  · exact .inl hnone
  have hcached : f.cached d.runtime.snapshot.speaker = some (f.actual d.speaker) :=
    (coherent_of_reachable hr f).copy_eq hseen
  have hsame (hactual : f.actual (d.speaker.receive call.request).2 = f.actual d.speaker) :
      ((d.execute call).dates f).seen = some ((d.execute call).dates f).version := by
    simpa [Deployment.execute, change, Replica.nextVersion, hactual] using hseen
  obtain ⟨w, hw, hflight⟩ := Option.bind_eq_some_iff.mp hcall
  cases w with
  | sourceGet | maintenanceGet | volumeGet =>
    cases hflight
    exact .inr (.inl (hsame (congrArg f.actual (receive_get d.speaker _))))
  | setting job first request =>
    cases hflight
    cases htells : (Call.set job.id job.command.kind (attemptNumber first) request).tells f with
    | true => exact .inr (.inr ⟨_, _, _, _, _, rfl, hcall, htells⟩)
    | false =>
      refine .inr (.inl (hsame ?_))
      refine actual_of_untold (.of_reachable (runtime_reachable hr)) hw htells ?_
      rintro rfl
      exact ⟨hf rfl, hcached⟩
  | _ => cases hflight

lemma Followed.runtime {f : Facet} (h : Followed d f) {runtime : Runtime Transcript}
    {e : KefLsx.Event Transcript} (hst : Runtime.step env cfg d.runtime e = some runtime)
    (hne : ∀ r, e ≠ .reply r) (hc : e ≠ .cancelled) : Followed { d with runtime := runtime } f := by
  refine ⟨h.reply, ?_⟩
  rcases h.known with hnone | hseen | ⟨reply, id, kind, attempt, request, hreply, hcall, htells⟩
  · refine .inl ?_
    rw [← speaker_of_step hst hne] at hnone
    exact hnone
  · exact .inr (.inl hseen)
  · refine .inr (.inr ⟨reply, id, kind, attempt, request, hreply, ?_, htells⟩)
    have hflight : d.runtime.flight = some (.set id kind attempt request) := hcall
    cases Runtime.flies_of_rule (.of_step hst) hne hc with
    | kept hkept => exact hkept.trans hflight
    | started call hnone =>
      rw [hnone] at hflight
      cases hflight

/-- A whole acknowledgement makes the SET in flight succeed. -/
lemma succeeds_of_completes (hr : Transition.Reachable (step env cfg) (initially speaker) d)
    {id attempt : ℕ} {kind : ControlKind} {request : List UInt8} {reply : Reply} {t : Transcript}
    (hcall : d.call? = some (.set id kind attempt request)) (hreply : d.reply = some reply)
    (ht : t.Completes reply.bytes) : (Call.set id kind attempt request).succeeds t = true := by
  obtain ⟨call, before, hcall', hreceive, -⟩ := answered_of_reachable hr reply hreply
  obtain rfl : call = .set id kind attempt request := Option.some.inj (hcall'.symm.trans hcall)
  obtain ⟨w, hw, hflight⟩ := Option.bind_eq_some_iff.mp hcall
  cases w with
  | setting job first request' =>
    cases hflight
    obtain ⟨hok, -⟩ := EncoderCall.receive_encode (s := before)
      (Runtime.encoded_of_setting (.of_reachable (runtime_reachable hr)) hw)
    have hbytes : setOk = reply.bytes := by
      rw [← hok]
      exact congrArg Prod.fst hreceive
    rw [← hbytes] at ht
    have hset : Client.asyncSet t = .ok () :=
      (asyncSet_eq_ok_iff (.inl rfl) ht.carries).mpr ⟨ht, rfl⟩
    simp [Call.succeeds, hset, Except.isOk, Except.toBool]
  | _ => cases hflight

lemma Followed.finish (hr : Transition.Reachable (step env cfg) (initially speaker) d) {f : Facet}
    (h : Followed d f) {call : Call} {t : Transcript} {runtime : Runtime Transcript}
    (hcall : d.call? = some call) (hpermits : d.Permits t)
    (hst : Runtime.step env cfg d.runtime (.reply t) = some runtime)
    (hok : ∀ reply, d.reply = some reply → t.Completes reply.bytes) :
    Followed (d.finish call t runtime) f := by
  refine ⟨nofun, ?_⟩
  have hannounced (ha : Announced d f) : ∃ reply, d.reply = some reply ∧
      call.succeeds t = true ∧ call.tells f = true := by
    obtain ⟨reply, id, kind, attempt, request, hreply, hset, htells⟩ := ha
    obtain rfl : call = .set id kind attempt request := Option.some.inj (hcall.symm.trans hset)
    exact ⟨reply, hreply, succeeds_of_completes hr hcall hreply (hok reply hreply), htells⟩
  rcases Runtime.answer_of_reply hcall (.of_step hst) with
    ⟨hsucceeds, g, hg, hspeaker⟩ | ⟨hfails, hspeaker⟩
  · cases hreply : d.reply with
    | none =>
      rw [Permits, hreply] at hpermits
      rw [Call.not_succeeds_of_silent hpermits call] at hsucceeds
      cases hsucceeds
    | some reply =>
      rw [Permits, hreply] at hpermits
      by_cases htells : call.tells f = true
      · -- the facet is learnt
        have hversion := h.reply reply hreply
        refine .inr (.inl ?_)
        simp [Deployment.finish, datesAfter, hreply, hsucceeds, htells, hversion]
      · obtain ⟨call', before, hcall', hreceive, -⟩ := answered_of_reachable hr reply hreply
        obtain rfl : call' = call := Option.some.inj (hcall'.symm.trans hcall)
        have hkept := Runtime.cached_of_answer (.of_reachable (runtime_reachable hr)) hcall hg
          hreceive hpermits f
        rw [if_neg htells] at hkept
        have hdates : (d.finish call' t runtime).dates f = d.dates f := by
          simp [Deployment.finish, datesAfter, hreply, htells]
        rcases h.known with hnone | hseen | ha
        · refine .inl ?_
          rw [← hspeaker] at hkept
          exact hkept.trans hnone
        · exact .inr (.inl (by rw [hdates, hseen]))
        · obtain ⟨-, -, -, htells'⟩ := hannounced ha
          exact absurd htells' htells
  · have hdates : (d.finish call t runtime).dates f = d.dates f := by
      cases hreply : d.reply <;> simp [Deployment.finish, datesAfter, hreply, hfails]
    rcases h.known with hnone | hseen | ha
    · refine .inl ?_
      rw [← hspeaker] at hnone
      exact hnone
    · exact .inr (.inl (by rw [hdates, hseen]))
    · obtain ⟨-, -, hsucceeds, -⟩ := hannounced ha
      rw [hfails] at hsucceeds
      cases hsucceeds

lemma followed_of_undisturbed (h : Transition.Reaches (step env cfg) Undisturbed
    (initially speaker) d) {f : Facet} (hf : f = .source → cfg.preferredWakeSource = none) :
    Followed d f := by
  refine h.invariant (I := fun d => Followed d f) ?_ ?_
  · exact ⟨nofun, .inl (by cases f <;> rfl)⟩
  · intro d d' e hr hfollowed hok hstep
    cases Moves.of_step hstep with
    | runtime e runtime hst hne hc => exact hfollowed.runtime hst hne hc
    | cancelled runtime hst =>
      refine ⟨nofun, ?_⟩
      have hspeaker := speaker_of_step hst nofun
      rcases hfollowed.known with hnone | hseen | ⟨reply, -, -, -, -, hsome, -⟩
      · refine .inl ?_
        rw [← hspeaker] at hnone
        exact hnone
      · exact .inr (.inl hseen)
      · rw [show d.reply = none from hok] at hsome
        cases hsome
    | executed call hcall hreply => exact hfollowed.execute hr.reachable hf hcall hreply
    | finished call t runtime hcall hpermits hst =>
      exact hfollowed.finish hr.reachable hcall hpermits hst hok
    | executedLate | touched => exact hok.elim

/-- While nobody else operates the speaker and every reply arrives: between two exchanges, all that
is cached of the speaker is as it is. The source needs that no source is preferred, as the
`turn_off` of another source than the cached one is not taken down in the cached state. -/
theorem cached_of_undisturbed (h : Transition.Reaches (step env cfg) Undisturbed
    (initially speaker) d) (hreply : d.reply = none) :
    (∀ power, d.runtime.snapshot.speaker.powerOn = some power → d.speaker.power = power) ∧
    (cfg.preferredWakeSource = none →
      ∀ source, d.runtime.snapshot.speaker.source = some source → d.speaker.source = source) ∧
    ∀ level muted, d.runtime.snapshot.speaker.volume = some level →
      d.runtime.snapshot.speaker.muted = some muted →
      (d.speaker.volume : ℤ) = level ∧ d.speaker.muted = muted := by
  have htrue (f : Facet) (hf : f = .source → cfg.preferredWakeSource = none) (content : f.Content)
      (hcontent : f.cached d.runtime.snapshot.speaker = some content) :
      f.actual d.speaker = content := by
    rcases (followed_of_undisturbed h hf).known with hnone | hseen | ⟨reply, -, -, -, -, hsome, -⟩
    · rw [hnone] at hcontent
      cases hcontent
    · have hcopy : f.cached d.runtime.snapshot.speaker = some (f.actual d.speaker) :=
        (coherent_of_reachable h.reachable f).copy_eq hseen
      exact Option.some.inj (hcopy.symm.trans hcontent)
    · rw [hreply] at hsome
      cases hsome
  refine ⟨?_, ?_, ?_⟩
  · intro power hpower
    exact htrue .power nofun power hpower
  · intro hpreferred source hsource
    exact htrue .source (fun _ => hpreferred) source hsource
  · intro level muted hlevel hmuted
    have hboth := htrue .volume nofun (level, muted) (by simp [Facet.cached, hlevel, hmuted])
    exact Prod.mk.inj hboth

/-- A volume step whose first answer was lost on the way to the speaker. -/
theorem cached_of_undisturbed_volumeUp : ∃ d : Deployment,
    Transition.Reachable (step .ticking .ofOptions) (initially { volume := 37 }) d ∧
    d.runtime.snapshot.speaker.volume = some 42 ∧ d.speaker.volume = 42 := by
  have hrun : (Transition.run
      (Transition.guarded (step .ticking .ofOptions) fun d e => decide (Undisturbed d e))
      (introduction { volume := 37 } ++ [.runtime .run, .runtime (.submit .volumeUp),
        .runtime .woken, .runtime .run, .runtime .run, .runtime .run,
        .finish (.connected [] .deadline), .runtime .slept, .runtime .run, .execute,
        .finish (.connected [[0x52], [0x11, 0xFF]] .eof)])
      (initially { volume := 37 })).any
      (fun d => d.reply.isNone ∧ d.runtime.snapshot.speaker.volume = some 42 ∧
        d.runtime.snapshot.speaker.muted = some false) = true := by
    decide +kernel
  obtain ⟨d, hd, hd'⟩ := Transition.exists_reachable_of_run hrun
  obtain ⟨hreply, hlevel, hmuted⟩ := of_decide_eq_true hd'
  have hrun' : Transition.Reaches (step .ticking .ofOptions) Undisturbed _ d :=
    (Transition.Reaches.of_guarded hd).mono fun _ _ => of_decide_eq_true
  have htrue := (cached_of_undisturbed hrun' (Option.isNone_iff_eq_none.mp hreply)).2.2
  refine ⟨d, hrun'.reachable, hlevel, ?_⟩
  exact_mod_cast (htrue 42 false hlevel hmuted).1

end Deployment

end KefLsx
