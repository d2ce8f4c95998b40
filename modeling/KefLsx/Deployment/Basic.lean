import KefLsx.Core.Replica
import KefLsx.FakeLsx.Exchange

/-!
# The runtime and its speaker

The runtime, the speaker, and the exchange between them. The speaker executes the request of the
exchange in flight once, at any moment, or never; what the client then reads is a part of the
reply. An exchange that is given up leaves its request behind when it may have been written: the
speaker may still execute it, at any later time. And the speaker has other users.

What the runtime knows of the speaker comes in three facets: the power state, the source, and the
level with the mute bit. Two counters that nothing reads date them: how often a facet of the
speaker has changed, and at which change it was when the cached state was taken from it.
-/

namespace KefLsx

/-! ### Facets -/

/-- What is cached of the speaker. -/
inductive Facet where
  | power
  | source
  | volume
deriving DecidableEq

namespace Facet

abbrev Content : Facet → Type
  | power => Bool
  | source => Source
  | volume => ℤ × Bool

instance decidableEqContent : (f : Facet) → DecidableEq f.Content
  | power => inferInstanceAs (DecidableEq Bool)
  | source => inferInstanceAs (DecidableEq Source)
  | volume => inferInstanceAs (DecidableEq (ℤ × Bool))

/-- The facet of the speaker itself. -/
def actual (speaker : FakeLsx.SpeakerState) : (f : Facet) → f.Content
  | power => speaker.power
  | source => speaker.source
  | volume => (speaker.volume, speaker.muted)

/-- The facet as it is cached, if it is known. -/
def cached (speaker : SpeakerState) : (f : Facet) → Option f.Content
  | power => speaker.powerOn
  | source => speaker.source
  | volume => speaker.volume.bind fun level => speaker.muted.map fun muted => (level, muted)

end Facet

/-! ### The exchange in flight -/

/-- The bytes that the client writes. -/
def Call.request : Call → List UInt8
  | sourceGet _ => encodeGet Wire.sourceRegister
  | maintenanceGet | volumeGet .. => encodeGet Wire.volumeRegister
  | set _ _ _ request => request

/-- What the runtime learns from a success of the exchange. An acknowledged `turn_off` tells it
nothing of the source. -/
def Call.tells : Call → Facet → Bool
  | sourceGet _, .power | sourceGet _, .source => true
  | maintenanceGet, .volume | volumeGet .., .volume => true
  | set _ kind .., .power => kind.isSource
  | set _ kind .., .source => kind.isSource && kind ≠ .turnOff
  | set _ kind .., .volume => kind.isVolume
  | _, _ => false

/-- Whether the client's call succeeds. -/
def Call.succeeds (t : Transcript) : Call → Bool
  | sourceGet _ => (Client.asyncGetSource t).isOk
  | maintenanceGet | volumeGet .. => (Client.asyncGetVolume t).isOk
  | set .. => (Client.asyncSet t).isOk

/-- The exchange that the worker awaits. -/
def Worker.call? : Worker → Option Call
  | sourceGet reason => some (.sourceGet reason)
  | maintenanceGet => some .maintenanceGet
  | volumeGet job => some (.volumeGet job.id job.command.kind)
  | setting job failure request =>
    some (.set job.id job.command.kind (attemptNumber failure) request)
  | _ => none

/-! ### The deployment -/

/-- The reply to the request in flight, and the speaker right after it was executed. -/
structure Reply where
  bytes : List UInt8
  speaker : FakeLsx.SpeakerState
  /-- How often each facet had changed by then. -/
  versions : Facet → ℕ

/-- How often a facet of the speaker has changed, and at which of these changes it was when the
cached state was taken from it. -/
structure Dates where
  version : ℕ := 0
  seen : Option ℕ := none

structure Deployment where
  runtime : Runtime Transcript := {}
  speaker : FakeLsx.SpeakerState := {}
  /-- The request in flight has been executed. -/
  reply : Option Reply := none
  /-- Requests of exchanges that were given up, which the speaker may still execute. -/
  late : List Call := []
  /-- What the speaker has executed for the runtime, newest first. -/
  executed : List Call := []
  dates : Facet → Dates := fun _ => {}

namespace Deployment

variable (env : Env) (cfg : Config) (d : Deployment)

/-- The exchange in flight. -/
def call? : Option Call := d.runtime.worker.bind Worker.call?

/-- The speaker changes. -/
def change (speaker : FakeLsx.SpeakerState) : Deployment :=
  { d with
    speaker := speaker
    dates := fun f => { d.dates f with
      version := Replica.nextVersion (d.dates f).version (f.actual d.speaker) (f.actual speaker) } }

/-- The speaker executes the request in flight. -/
def execute (call : Call) : Deployment :=
  let (bytes, speaker) := d.speaker.receive call.request
  let d := d.change speaker
  { d with
    reply := some { bytes := bytes, speaker := speaker, versions := fun f => (d.dates f).version }
    executed := call :: d.executed }

/-- What the client may have seen of the exchange in flight. -/
def Permits (t : Transcript) : Prop :=
  match d.reply with
  | some reply => t.Carries reply.bytes
  | none => t.Wrote → t.Carries []

instance (t : Transcript) : Decidable (d.Permits t) :=
  match h : d.reply with
  | some reply => decidable_of_iff (t.Carries reply.bytes) (by rw [Permits, h])
  | none => decidable_of_iff (t.Wrote → t.Carries []) (by rw [Permits, h])

/-- What is left behind by an exchange that ends, when its request may have been written. -/
def leftBehind (call : Call) (written : Bool) : List Call :=
  if d.reply.isNone && written then call :: d.late else d.late

/-- The dates of the cached state, when the exchange has ended with this transcript. -/
def datesAfter (call : Call) (t : Transcript) : Facet → Dates :=
  match d.reply with
  | some reply => fun f =>
    if call.succeeds t && call.tells f then { d.dates f with seen := some (reply.versions f) }
    else d.dates f
  | none => d.dates

inductive Event where
  /-- Anything that happens in the runtime, but for the end of an exchange. -/
  | runtime (e : KefLsx.Event Transcript)
  | execute
  /-- The exchange in flight ends. -/
  | finish (t : Transcript)
  /-- The speaker executes a request that was left behind. -/
  | executeLate (i : ℕ)
  /-- Somebody else operates the speaker. -/
  | touch (speaker : FakeLsx.SpeakerState)

/-- A forced shutdown cancels the worker in its exchange. -/
def cancel (runtime : Runtime Transcript) : Deployment :=
  { d with
    runtime := runtime
    reply := none
    late := match d.call? with
      | some call => d.leftBehind call true
      | none => d.late }

/-- A step of the runtime which does not end the exchange in flight, or drops it. -/
def stepRuntime (d : Deployment) (e : KefLsx.Event Transcript) : Option Deployment :=
  match e with
  | .reply _ => none
  | .cancelled => (Runtime.step env cfg d.runtime .cancelled).map d.cancel
  | e => (Runtime.step env cfg d.runtime e).map fun runtime => { d with runtime := runtime }

/-- The exchange in flight ends. -/
def finish (call : Call) (t : Transcript) (runtime : Runtime Transcript) : Deployment :=
  { d with
    runtime := runtime
    reply := none
    late := d.leftBehind call t.Wrote
    dates := d.datesAfter call t }

def step (d : Deployment) : Event → Option Deployment
  | .runtime e => d.stepRuntime env cfg e
  | .execute =>
    match d.call?, d.reply with
    | some call, none => some (d.execute call)
    | _, _ => none
  | .finish t =>
    match d.call? with
    | some call =>
      if d.Permits t then (Runtime.step env cfg d.runtime (.reply t)).map (d.finish call t)
      else none
    | none => none
  | .executeLate i =>
    match d.late[i]? with
    | some call =>
      let d := d.change (d.speaker.receive call.request).2
      some { d with late := d.late.eraseIdx i, executed := call :: d.executed }
    | none => none
  | .touch speaker => some (d.change speaker)

/-- A runtime that is new, and a speaker in any state. -/
def initially (speaker : FakeLsx.SpeakerState) : Deployment := { speaker := speaker }

end Deployment

end KefLsx
