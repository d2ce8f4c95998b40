import KefLsx.Config.Options
import KefLsx.Deployment.Delivery

/-!
# The media player

The services of `media_player.py` over the runtime and its speaker. A service call is refused, or
it is one request of the runtime and waits for its future; what its caller is told is read off the
future. The entity is the only one that asks the runtime for anything, so whatever the speaker is
made to do was asked for by a service call, and a call that returns has been carried out.
-/

namespace KefLsx

open Log

/-- `str(err)`. -/
def ControlError.str : ControlError → String
  | lsx error => error.message
  | timeout message => message

/-- What `_ensure_open` raises. -/
def runtimeClosed : LsxError where
  type := .clientClosed
  message := "KEF LSX runtime is closed"

/-- What `_submit` raises on a full queue. -/
def queueFull : LsxError where
  type := .queueBusy
  message := "KEF LSX control queue is full"

/-- What `_submit` raises, if it does not wait. -/
def Runtime.submitError {ρ : Type} (s : Runtime ρ) (command : Command) : Option LsxError :=
  if s.closing then some runtimeClosed
  else if (s.coalescingEntry command).isNone ∧ queueCapacity ≤ s.controls.length then
    some queueFull
  else none

/-- `Source(source)`. -/
def Source.parse (source : Text) : Option Source :=
  Source.all.find? fun candidate => candidate.value = source

/-! ### The services -/

/-- The services of `KefLsxMediaPlayer`. -/
inductive Service where
  | turnOn
  | turnOff
  | selectSource (source : Text)
  | setVolumeLevel (volume : ℚ)
  | volumeUp
  | volumeDown
  | muteVolume (mute : Bool)
deriving DecidableEq

/-- The translated errors: their keys, with their placeholders. -/
inductive ServiceError where
  | unsupportedSource (source : Text)
  | commandFailed (error : String)
deriving DecidableEq

/-- The method of the runtime that a service calls. -/
def Service.request : Service → Except ServiceError Request
  | turnOn => .ok .turnOn
  | turnOff => .ok .turnOff
  | selectSource source =>
    match Source.parse source with
    | some parsed => .ok (.selectSource parsed)
    | none => .error (.unsupportedSource source)
  | setVolumeLevel volume => .ok (.setVolume volume)
  | volumeUp => .ok .volumeUp
  | volumeDown => .ok .volumeDown
  | muteVolume mute => .ok (.mute mute)

/-- How far a call has come: an exception was raised at once, or it awaits this future. -/
inductive Progress where
  | refused (error : ServiceError)
  | awaiting (future : ℕ)
deriving DecidableEq

structure ServiceCall where
  service : Service
  progress : Progress
deriving DecidableEq

/-- What the caller of a service is told. A cancellation passes through. -/
inductive Answer where
  | waiting
  | returned
  | cancelled
  | raised (error : ServiceError)
deriving DecidableEq

structure MediaPlayer where
  deployment : Deployment := {}
  /-- The calls that have been made, newest first. -/
  serviceCalls : List ServiceCall := []

namespace MediaPlayer

/-- `_attr_source_list`. -/
def sourceList : List Text := Source.all.map Source.value

variable (env : Env) (cfg : Config) (m : MediaPlayer)

/-- `_call`. -/
def answer (d : Deployment) (call : ServiceCall) : Answer :=
  match call.progress with
  | .refused error => .raised error
  | .awaiting future =>
    match d.runtime.controlFutures future with
    | .pending | .dropped => .waiting
    | .result _ => .returned
    | .exception error => .raised (.commandFailed error.str)
    | .cancelled => .cancelled

inductive Event where
  | call (service : Service)
  /-- Anything else that happens. -/
  | deployment (e : Deployment.Event)

/-- The piece of a service call up to its await. -/
def begin (service : Service) (request : Request) (deployment : Deployment) : MediaPlayer :=
  let runtime := m.deployment.runtime
  let progress : Progress :=
    match runtime.submitError (cfg.submitted request) with
    | some error => .refused (.commandFailed error.message)
    | none => .awaiting runtime.controlFutureCount
  { deployment := deployment, serviceCalls := ⟨service, progress⟩ :: m.serviceCalls }

def step (m : MediaPlayer) : Event → Option MediaPlayer
  | .call service =>
    match service.request with
    | .ok request =>
      (Deployment.step env cfg m.deployment (.runtime (.submit request))).map
        (m.begin cfg service request)
    | .error error => some { m with serviceCalls := ⟨service, .refused error⟩ :: m.serviceCalls }
  | .deployment (.runtime (.submit _)) => none
  | .deployment e =>
    (Deployment.step env cfg m.deployment e).map fun deployment =>
      { m with deployment := deployment }

/-- A runtime that is new, and a speaker in any state. -/
def initially (speaker : FakeLsx.SpeakerState) : MediaPlayer where
  deployment := .initially speaker

/-! ### The steps -/

/-- The steps, one constructor for each branch. -/
inductive Serves (m : MediaPlayer) : Event → MediaPlayer → Prop where
  | unsupported (source : Text) (hparse : Source.parse source = none) :
      Serves m (.call (.selectSource source)) { m with serviceCalls :=
        ⟨.selectSource source, .refused (.unsupportedSource source)⟩ :: m.serviceCalls }
  | begun (service : Service) (request : Request) (deployment : Deployment)
      (hrequest : service.request = .ok request)
      (hst : Deployment.step env cfg m.deployment (.runtime (.submit request)) = some deployment) :
      Serves m (.call service) (m.begin cfg service request deployment)
  | deployment (e : Deployment.Event) (deployment : Deployment)
      (he : ∀ request, e ≠ .runtime (.submit request))
      (hst : Deployment.step env cfg m.deployment e = some deployment) :
      Serves m (.deployment e) { m with deployment := deployment }

variable {env cfg} {m m' : MediaPlayer} {e : Event} {speaker : FakeLsx.SpeakerState}

lemma Serves.of_step (h : step env cfg m e = some m') : Serves env cfg m e m' := by
  cases e with
  | call service =>
    simp only [step] at h
    split at h
    · obtain ⟨deployment, hst, rfl⟩ := Option.map_eq_some_iff.mp h
      exact .begun service _ deployment ‹_› hst
    · rename_i error herror
      cases h
      cases service with
      | selectSource source =>
        simp only [Service.request] at herror
        split at herror <;> cases herror
        exact .unsupported source ‹_›
      | _ => cases herror
  | deployment e =>
    have hother (he : ∀ request, e ≠ .runtime (.submit request))
        (h : (Deployment.step env cfg m.deployment e).map
          (fun deployment => { m with deployment := deployment }) = some m') :
        Serves env cfg m (.deployment e) m' := by
      obtain ⟨deployment, hst, rfl⟩ := Option.map_eq_some_iff.mp h
      exact .deployment e deployment he hst
    cases e with
    | runtime e =>
      cases e with
      | submit request => cases h
      | _ => exact hother (by simp) h
    | _ => exact hother (by simp) h

end MediaPlayer

/-! ### Requests -/

namespace Runtime

variable {ρ : Type} [Client ρ] {env : Env} {cfg : Config} {s t : Runtime ρ} {e : KefLsx.Event ρ}

end Runtime

namespace Deployment

variable {env : Env} {cfg : Config} {d d' : Deployment} {e : Event}

end Deployment

/-! ### What the answers tell -/

/-- The speaker is set as the command says. -/
def Config.Meets (cfg : Config) (speaker : FakeLsx.SpeakerState) : Command → Prop
  | .turnOn _ => speaker.power = true
  | .turnOff _ => speaker.power = false
  | .selectSource source => speaker.power = true ∧ speaker.source = source
  | .setVolume level => speaker.volume = level
  | .volumeUp => ∃ level, speaker.volume = min cfg.maximumVolume (level + cfg.volumeStep)
  | .volumeDown => ∃ level, speaker.volume = max 0 (level - cfg.volumeStep)
  | .mute => speaker.muted = true
  | .unmute => speaker.muted = false

namespace MediaPlayer

variable {env : Env} {cfg : Config} {m m' : MediaPlayer} {e : Event}
  {speaker : FakeLsx.SpeakerState} {call : ServiceCall}

/-- What a call asks of the runtime, when it was not refused: the future that it awaits, and the
command. -/
def asks (cfg : Config) (call : ServiceCall) : Option (ℕ × Command) :=
  match call.progress, call.service.request with
  | .awaiting future, .ok request => some (future, cfg.submitted request)
  | _, _ => none

/-- Why a call waits, or raised an exception at once. -/
inductive Begun (cfg : Config) (runtime : Runtime Transcript) (call : ServiceCall) : Prop where
  | unsupported (source : Text) (hservice : call.service = .selectSource source)
      (hsource : source ∉ sourceList)
      (hprogress : call.progress = .refused (.unsupportedSource source))
  | closed (hclosing : runtime.closing = true)
      (hprogress : call.progress = .refused (.commandFailed runtimeClosed.message))
  | full (haccepted : Runtime.queueCapacity ≤ runtime.acceptedCount)
      (hprogress : call.progress = .refused (.commandFailed queueFull.message))
  | asked (future : ℕ) (command : Command) (hprogress : call.progress = .awaiting future)
      (hasks : asks cfg call = some (future, command))

lemma Begun.mono {runtime runtime' : Runtime Transcript} (h : Begun cfg runtime call)
    (hclosing : runtime.closing = true → runtime'.closing = true)
    (haccepted : runtime.acceptedCount ≤ runtime'.acceptedCount) : Begun cfg runtime' call := by
  cases h with
  | unsupported source hservice hsource hprogress =>
    exact .unsupported source hservice hsource hprogress
  | closed hc hprogress => exact .closed (hclosing hc) hprogress
  | full hfull hprogress => exact .full (hfull.trans haccepted) hprogress
  | asked future command hprogress hasks => exact .asked future command hprogress hasks

/-- A step of the runtime keeps what a call has come to. -/
lemma Begun.step {runtime runtime' : Runtime Transcript} {e : KefLsx.Event Transcript}
    (h : Begun cfg runtime call)
    (hr : Transition.Reachable (Runtime.step env cfg) {} runtime)
    (hst : Runtime.step env cfg runtime e = some runtime') : Begun cfg runtime' call := by
  have hrule := Runtime.Rule.of_step hst
  exact h.mono (Runtime.closing_of_rule hrule (Runtime.closing_iff hr).mpr)
    (Runtime.counts_of_rule hrule).1

/-- The request `a` has been carried out: the speaker has executed a SET of its entry, which sets it
as the newest request of the entry asks, and what is shown of it is what the SET leaves behind. -/
structure CarriedOut (cfg : Config) (d : Deployment) (a newest : Asked)
    (snapshot : RuntimeSnapshot) (set : Call) : Prop where
  executed : set ∈ d.executed
  setFor : set.setFor = some a.id
  latest : newest ∈ (askedFor a.id d.runtime.log).head?
  sharing : Runtime.Sharing a newest
  meets : ∀ before : FakeLsx.SpeakerState,
    cfg.Meets (before.receive set.request).2 newest.command
  shown : ∀ (before : FakeLsx.SpeakerState) (f : Facet), set.tells f = true →
    f.cached snapshot.speaker = some (f.actual (before.receive set.request).2)

/-- The step cancels the call that awaits this future. -/
abbrev Event.cancelCall (future : ℕ) : Event := .deployment (.runtime (.cancelCaller future))

/-- What the answer of a call tells, after these steps. -/
inductive Tells (cfg : Config) (es : List Event) (d : Deployment) (call : ServiceCall) :
    Answer → Prop where
  | refused (error : ServiceError) (hprogress : call.progress = .refused error)
      (hbegun : Begun cfg d.runtime call) : Tells cfg es d call (.raised error)
  | waiting (a : Asked) (ha : a ∈ asked d.runtime.log)
      (hasks : asks cfg call = some (a.future, a.command))
      (hopen : a.id ∉ (Runtime.completions d.runtime.log).map Prod.fst) :
      Tells cfg es d call .waiting
  | cancelled (a : Asked) (ha : a ∈ asked d.runtime.log)
      (hasks : asks cfg call = some (a.future, a.command))
      (hwithdrawn : .cancelCall a.future ∈ es ∨ d.runtime.closing = true) :
      Tells cfg es d call .cancelled
  | returned (a newest : Asked) (snapshot : RuntimeSnapshot) (set : Call)
      (ha : a ∈ asked d.runtime.log) (hasks : asks cfg call = some (a.future, a.command))
      (hdone : CarriedOut cfg d a newest snapshot set) : Tells cfg es d call .returned
  | failed (a : Asked) (outcome : Outcome) (error : ControlError) (result : CommandResult)
      (ha : a ∈ asked d.runtime.log) (hasks : asks cfg call = some (a.future, a.command))
      (hend : .completed a.id outcome result ∈ d.runtime.log)
      (herror : outcome.error? = some error) (hname : result.error = some error.name)
      (hunwritten : result.writeAttempted = false →
        ∀ set ∈ d.executed ++ d.late, set.setFor ≠ some a.id) :
      Tells cfg es d call (.raised (.commandFailed error.str))

inductive PlayerState where
  | on
  | off
deriving DecidableEq

/-- `state`. -/
def state (speaker : SpeakerState) : Option PlayerState :=
  speaker.powerOn.map fun power => if power then .on else .off

/-- `source`. -/
def source (speaker : SpeakerState) : Option Text := speaker.source.map Source.value

end MediaPlayer

end KefLsx
