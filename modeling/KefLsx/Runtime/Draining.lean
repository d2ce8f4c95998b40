import KefLsx.Runtime.Coalescing
import KefLsx.Runtime.Finality

/-!
# Draining the queue

A queue in which adjacent set_volume requests have been merged is drained to the same cached state
and the same registers as one with an entry for each request. Both drains run against a speaker
that answers every exchange, so that a GET reads what was written last. What a drain has still to
do is a fold over the commands of the queue (`Runtime.outcome`), which no step of the worker
changes, and of two adjacent set_volume commands the first makes no difference to it. The turns that
the worker has left (`Runtime.turnsLeft`) get fewer with each of them, so that every drain ends.
-/

namespace KefLsx

/-! ### The speaker -/

/-- The two registers of a speaker: what a GET of them reads at first, and the last byte that was
written since. -/
structure Registers where
  source : SourceStatus
  volume : VolumeStatus
  sourceWritten : Option ℤ := none
  volumeWritten : Option ℤ := none
deriving DecidableEq

namespace Registers

variable (p : Registers)

def readSource : Option SourceStatus :=
  match p.sourceWritten with
  | none => some p.source
  | some value => (decodeSourceValue value).toOption

def readVolume : Option VolumeStatus :=
  match p.volumeWritten with
  | none => some p.volume
  | some value => (decodeVolumeValue value).toOption

def write (request : List UInt8) : Registers :=
  if request.getD 1 0 = Wire.sourceRegister then
    { p with sourceWritten := some (requestValue request) }
  else if request.getD 1 0 = Wire.volumeRegister then
    { p with volumeWritten := some (requestValue request) }
  else p

/-- Only the last SET of the volume register counts. -/
lemma write_write {volume volume' : ℤ} {muted muted' : Bool} {request request' : List UInt8}
    (h : encodeSetVolume volume muted = .ok request)
    (h' : encodeSetVolume volume' muted' = .ok request') :
    (p.write request).write request' = p.write request' := by
  have hregister : ∀ {volume : ℤ} {muted : Bool} {request : List UInt8},
      encodeSetVolume volume muted = .ok request → request.getD 1 0 = Wire.volumeRegister := by
    intro volume muted request hencode
    simp only [encodeSetVolume, encodeSet] at hencode
    split_ifs at hencode <;> cases hencode <;> rfl
  have hother : ¬ Wire.volumeRegister = Wire.sourceRegister := by decide
  simp only [write, hregister h, hregister h', if_neg hother, if_true]

end Registers

/-- The turns that the worker takes to read an unknown volume, and to come back to the entry that
needs it. -/
def SpeakerState.readTurns (speaker : SpeakerState) : ℕ :=
  if speaker.volume.isSome ∧ speaker.muted.isSome then 0 else 3

/-- What is cached of a speaker, and its registers. -/
structure Scene where
  speaker : SpeakerState
  registers : Registers

namespace Scene

variable (a : Scene)

/-- A GET of the source register is answered. -/
def readSource : Scene :=
  match a.registers.readSource with
  | none => a
  | some status =>
    { a with speaker :=
      { a.speaker with powerOn := some status.powerOn, source := some status.source } }

/-- A GET of the volume register is answered. -/
def readVolume : Scene :=
  match a.registers.readVolume with
  | none => a
  | some status =>
    { a with speaker :=
      { a.speaker with volume := some status.volume, muted := some status.muted } }

lemma readVolume_readVolume : a.readVolume.readVolume = a.readVolume := by
  unfold readVolume
  cases hread : a.registers.readVolume with
  | none => simp only [hread]
  | some status => simp only [hread]

end Scene

/-! ### What a command does -/

/-- The command needs the volume and the mute bit, and one of them is unknown. -/
def Command.Unread (command : Command) (speaker : SpeakerState) : Prop :=
  command.kind.isRelative = true ∧ (speaker.volume = none ∨ speaker.muted = none)

instance (command : Command) (speaker : SpeakerState) : Decidable (command.Unread speaker) :=
  inferInstanceAs (Decidable (_ ∧ _))

namespace Config

variable (cfg : Config) (a : Scene)

/-- The SET of a command is acknowledged. -/
def written (command : Command) : Scene :=
  match cfg.request a.speaker command with
  | .ok request =>
    { speaker := cfg.expectedState a.speaker (cfg.executed a.speaker command)
      registers := a.registers.write request }
  | .error _ => a

/-- A command is done: the volume register is read first where the command needs it. -/
def performed (command : Command) : Scene :=
  cfg.written (if command.Unread a.speaker then a.readVolume else a) command

variable {cfg a}

/-- What was read for a command need not be read again. -/
lemma performed_readVolume (command : Command) :
    cfg.performed a.readVolume command = cfg.written a.readVolume command := by
  unfold performed
  split
  · rw [a.readVolume_readVolume]
  · rfl

/-- The level of a set_volume is in range from its submission on. -/
lemma level_of_submitted {r : Request} {value : ℤ} (h : cfg.submitted r = .setVolume value) :
    0 ≤ value ∧ value ≤ 100 := by
  have hpos := cfg.maximumVolume_pos
  have hmax := cfg.maximumVolume_le
  cases r with
  | setVolume volume =>
    rw [submitted, Command.setVolume.injEq] at h
    omega
  | mute muted => cases muted <;> cases h
  | _ => cases h

/-- Of two adjacent set_volume commands the first makes no difference: it leaves the mute bit as
it is taken to be by the second. -/
lemma performed_setVolume_setVolume (value : ℤ) {value' : ℤ} (h : 0 ≤ value' ∧ value' ≤ 100) :
    cfg.performed (cfg.performed a (.setVolume value)) (.setVolume value') =
      cfg.performed a (.setVolume value') := by
  have hread : ∀ (b : Scene) (level : ℤ),
      cfg.performed b (.setVolume level) = cfg.written b (.setVolume level) := by
    intro b level
    rw [performed, if_neg (by rintro ⟨⟨⟩, -⟩)]
  obtain ⟨request', hrequest'⟩ :
      ∃ request', encodeSetVolume value' (a.speaker.muted.getD false) = .ok request' := by
    refine ⟨_, (if_pos h).trans (if_pos ?_)⟩
    have hlow := h.1
    have hhigh := h.2
    split <;> omega
  simp only [hread]
  cases hrequest : encodeSetVolume value (a.speaker.muted.getD false) with
  | error error => simp only [written, request, hrequest]
  | ok request =>
    simp only [written, Config.request, hrequest, hrequest', executed, expectedState,
      Option.getD_some, a.registers.write_write hrequest hrequest']

/-- What a command leaves is known if it was known before. -/
lemma readTurns_expectedState_le {speaker : SpeakerState} {command : Command} :
    (cfg.expectedState speaker command).readTurns ≤ speaker.readTurns := by
  unfold SpeakerState.readTurns
  split
  · exact Nat.zero_le _
  · rename_i hnew
    rw [if_neg]
    rintro ⟨hvolume, hmuted⟩
    apply hnew
    cases command <;> simp_all [expectedState]

end Config

namespace Runtime

variable {ρ : Type}

/-! ### Drains -/

/-- What the worker's exchange and its entry leave. -/
def served (cfg : Config) (s : Runtime ρ) (p : Registers) : Scene :=
  let a : Scene := { speaker := s.snapshot.speaker, registers := p }
  match s.worker with
  | some (.sourceGet _) => a.readSource
  | some .maintenanceGet => a.readVolume
  | some (.control job) => cfg.performed a job.command
  | some (.volumeGet job) => cfg.performed a.readVolume job.command
  | some (.attempt job _) | some (.retrySleep job _ _) => cfg.written a job.command
  | some (.setting job _ request) =>
    { speaker := cfg.expectedState s.snapshot.speaker job.command, registers := p.write request }
  | _ => a

/-- What is left when the exchange in flight has been answered and all entries have been done. -/
def outcome (cfg : Config) (s : Runtime ρ) (p : Registers) : Scene :=
  (s.controls.map Control.command).foldl cfg.performed (s.served cfg p)

/-- The worker looks for work, and the queue is empty. -/
def Exhausted (s : Runtime ρ) : Prop := s.controls = [] ∧ s.worker = some .loop

instance (s : Runtime ρ) : Decidable (Exhausted s) := inferInstanceAs (Decidable (_ ∧ _))

lemma outcome_of_exhausted {cfg : Config} {s : Runtime ρ} {p : Registers} (h : Exhausted s) :
    s.outcome cfg p = { speaker := s.snapshot.speaker, registers := p } := by
  simp only [outcome, served, h.1, h.2]
  rfl

/-- The entry that the worker looks at has expired. -/
def expires (env : Env) (s : Runtime ρ) : Bool :=
  match s.worker with
  | some (.control job) | some (.attempt job _) => job.deadline ≤ s.now env
  | _ => false

end Runtime

/-- The worker goes on. -/
def Event.isTurn {ρ : Type} : Event ρ → Bool
  | run | reply _ | woken | timedOut | slept => true
  | _ => false

/-- Events of the worker, and those that have nothing to do with controls. -/
def Event.isWork {ρ : Type} : Event ρ → Bool
  | run | reply _ | woken | timedOut | slept | poll | setPublisher => true
  | _ => false

lemma Event.isWork_of_isTurn {ρ : Type} {e : Event ρ} (h : e.isTurn = true) : e.isWork = true := by
  cases e with
  | run | reply | woken | timedOut | slept => rfl
  | _ => cases h

namespace Worker

/-- The turns that the worker has until it looks for the next entry, with those that it takes to
read the volume first. -/
def turns (reads : ℕ) : Worker → ℕ
  | volumeGet _ => 5
  | loop => reads
  | control _ | retrySleep .. => reads + 3
  | attempt .. => reads + 2
  | _ => reads + 1

/-- The task is not done, and does not wait for work. -/
def busy : Worker → Bool
  | waiting _ | returned | cancelled | crashed _ => false
  | _ => true

end Worker

/-- The registers after an event: an exchange ends only with the answer that the speaker gives. -/
def Registers.answer {ρ : Type} [Client ρ] (p : Registers) (w : Option Worker) :
    Event ρ → Option Registers
  | .reply r =>
    match w with
    | some (.sourceGet _) =>
      if p.readSource.isSome ∧ (Client.asyncGetSource r).toOption = p.readSource then some p
      else none
    | some .maintenanceGet | some (.volumeGet _) =>
      if p.readVolume.isSome ∧ (Client.asyncGetVolume r).toOption = p.readVolume then some p
      else none
    | some (.setting _ _ request) =>
      if (Client.asyncSet r).toOption.isSome then some (p.write request) else none
    | _ => some p
  | _ => some p

namespace Runtime

variable {ρ : Type} [Client ρ] {env : Env} {cfg : Config} {s t : Runtime ρ} {e : Event ρ}
  {p q : Registers} {job : Control}

/-- One step of a drain: there is work left on an open runtime, the speaker answers every exchange,
no entry is let go and none expires. -/
def drain (env : Env) (cfg : Config) : Runtime ρ × Registers → Event ρ →
    Option (Runtime ρ × Registers)
  | (s, p), e =>
    if e.isWork ∧ s.closing = false ∧ ¬ Exhausted s ∧ s.dropped? env cfg e = none ∧
        s.expires env = false then
      (p.answer s.worker e).bind fun q => (step env cfg s e).map fun t => (t, q)
    else none

/-- The turns that a drain has left at most: an entry of the queue takes four, and the first one
that needs the volume three more, if it is unknown. -/
def turnsLeft (s : Runtime ρ) : ℕ :=
  s.worker.elim 0 (Worker.turns s.snapshot.speaker.readTurns) + 4 * s.controls.length

def busy (s : Runtime ρ) : Bool := s.worker.any Worker.busy

/-- A drain takes no more turns of the worker than it has left. Until the queue is exhausted the
worker has another turn, whatever the reply if it awaits one, and the drain takes it unless an entry
is let go or expires or an exchange fails. -/
structure DrainEnds (env : Env) (cfg : Config) (s : Runtime ρ) (p : Registers) : Prop where
  bounded : ∀ es x, Transition.run (drain env cfg) es (s, p) = some x →
    es.countP Event.isTurn ≤ s.turnsLeft
  progress : ∀ t q, Transition.Reachable (drain env cfg) (s, p) (t, q) → ¬ Exhausted t →
    ∃ turn : ρ → Event ρ, ∀ r, (turn r).isTurn = true ∧ (step env cfg t (turn r)).isSome ∧
      (t.dropped? env cfg (turn r) = none → t.expires env = false →
        (q.answer t.worker (turn r)).isSome → (drain env cfg (t, q) (turn r)).isSome)

/-- What a step of a drain does: the outcome stays the same, and either so do the entries that have
not been done and the futures, or an entry is acknowledged. -/
inductive Drained (cfg : Config) (s : Runtime ρ) (p : Registers) (t : Runtime ρ) (q : Registers) :
    Prop where
  | advanced (houtcome : t.outcome cfg q = s.outcome cfg p)
      (hlive : t.live.map Control.waiters = s.live.map Control.waiters)
      (hfutures : t.controlFutures = s.controlFutures)
  | acknowledged (job : Control) (snapshot : RuntimeSnapshot)
      (houtcome : t.outcome cfg q = s.outcome cfg p) (hactive : s.activeControl = some job)
      (hlive : t.live = s.controls)
      (hfutures : t.controlFutures = Future.settle job.waiters (.result snapshot) s.controlFutures)

/-- A step of a drain takes one of the turns, if it is one, and leaves the worker busy. -/
structure Turned (e : Event ρ) (s t : Runtime ρ) : Prop where
  turns : t.turnsLeft + (if e.isTurn then 1 else 0) ≤ s.turnsLeft
  busy : s.busy = true → t.busy = true
  closing : t.closing = false

omit [Client ρ] in
lemma Turned.of_worker {w w' : Worker} (hw : s.worker = some w) (hw' : t.worker = some w')
    (hopen : t.closing = false) (hbusy : w'.busy = true)
    (hturns : w'.turns t.snapshot.speaker.readTurns + 4 * t.controls.length <
      w.turns s.snapshot.speaker.readTurns + 4 * s.controls.length) : Turned e s t where
  turns := by
    rw [turnsLeft, turnsLeft, hw, hw', Option.elim_some, Option.elim_some]
    split <;> omega
  busy _ := by rwa [Runtime.busy, hw', Option.any_some]
  closing := hopen

/-- What the speaker answers to a GET of its source register. -/
lemma source_of_answer {reason : Reason} {r : ρ}
    (h : p.answer (some (.sourceGet reason)) (.reply r) = some q) :
    ∃ status, Client.asyncGetSource r = .ok status ∧ p.readSource = some status ∧ q = p := by
  simp only [Registers.answer, Option.ite_none_right_eq_some, Option.some.injEq] at h
  obtain ⟨⟨hsome, hread⟩, rfl⟩ := h
  cases hr : Client.asyncGetSource r with
  | error error =>
    rw [← hread, hr] at hsome
    cases hsome
  | ok status => exact ⟨status, rfl, by rw [← hread, hr]; rfl, rfl⟩

lemma volume_of_answer {w : Worker} {r : ρ} (hw : w = .maintenanceGet ∨ ∃ job, w = .volumeGet job)
    (h : p.answer (some w) (.reply r) = some q) :
    ∃ status, Client.asyncGetVolume r = .ok status ∧ p.readVolume = some status ∧ q = p := by
  have hread : (p.readVolume.isSome ∧ (Client.asyncGetVolume r).toOption = p.readVolume) ∧
      p = q := by
    rcases hw with rfl | ⟨job, rfl⟩ <;>
      simpa only [Registers.answer, Option.ite_none_right_eq_some, Option.some.injEq] using h
  obtain ⟨⟨hsome, hread⟩, rfl⟩ := hread
  cases hr : Client.asyncGetVolume r with
  | error error =>
    rw [← hread, hr] at hsome
    cases hsome
  | ok status => exact ⟨status, rfl, by rw [← hread, hr]; rfl, rfl⟩

lemma set_of_answer {first : Option Failure} {request : List UInt8} {r : ρ}
    (h : p.answer (some (.setting job first request)) (.reply r) = some q) :
    Client.asyncSet r = .ok () ∧ q = p.write request := by
  simp only [Registers.answer, Option.ite_none_right_eq_some, Option.some.injEq] at h
  obtain ⟨hsome, rfl⟩ := h
  cases hr : Client.asyncSet r with
  | error error =>
    rw [hr] at hsome
    cases hsome
  | ok => exact ⟨rfl, rfl⟩

omit [Client ρ] in
/-- The worker goes on with the entry that it holds, or without one. -/
lemma Drained.moved {w w' : Worker} (hw : s.worker = some w) (hw' : t.worker = some w')
    (hopen : t.closing = false) (hserved : t.served cfg q = s.served cfg p)
    (hjob : w'.job?.map Control.waiters = w.job?.map Control.waiters)
    (hbusy : w'.busy = true)
    (hturns : w'.turns t.snapshot.speaker.readTurns < w.turns s.snapshot.speaker.readTurns)
    (hcontrols : t.controls = s.controls := by rfl)
    (hfutures : t.controlFutures = s.controlFutures := by rfl) :
    Drained cfg s p t q ∧ Turned e s t := by
  refine ⟨.advanced ?_ ?_ hfutures, .of_worker hw hw' hopen hbusy ?_⟩
  · rw [outcome, outcome, hcontrols, hserved]
  · rw [live, live, activeControl_of_worker hw, activeControl_of_worker hw', hcontrols]
    cases hj : w.job? <;> cases hj' : w'.job? <;> simp_all
  · rw [hcontrols]
    exact Nat.add_lt_add_right hturns _

lemma drained_of_drain (h : drain env cfg (s, p) e = some (t, q)) :
    Drained cfg s p t q ∧ Turned e s t := by
  simp only [drain, Option.ite_none_right_eq_some, Option.bind_eq_some_iff, Option.map_eq_some_iff,
    Prod.mk.injEq] at h
  obtain ⟨⟨hwork, hopen, hbusy, hkeeps, hlate⟩, q', hanswer, t', hst, rfl, rfl⟩ := h
  have hattempts : ∀ {job : Control} {failure : Option Failure} {s' : Runtime ρ},
      s.worker = some (.attempt job failure) → ¬ s.LeavesAttempts env job s' := by
    intro job failure s' hw hleft
    simp only [expires, hw, decide_eq_false_iff_not] at hlate
    cases hleft with
    | closing hc =>
      rw [hopen] at hc
      cases hc
    | expired hc hd => exact hlate hd
  have hfree : s.worker = some .loop → s.controls ≠ [] :=
    fun hw hq => hbusy ⟨hq, hw⟩
  have hquiet : ∀ {w w' : Worker}, s.worker = some w →
      ({ s with worker := some w } : Runtime ρ).served cfg p = (s.goto w').served cfg p →
      w'.job?.map Control.waiters = w.job?.map Control.waiters → w'.busy = true →
      w'.turns s.snapshot.speaker.readTurns < w.turns s.snapshot.speaker.readTurns →
      Drained cfg s p (s.goto w') p ∧ Turned e s (s.goto w') := by
    intro w w' hw hserved hjob hbusy hturns
    refine Drained.moved hw rfl hopen ?_ hjob hbusy hturns
    rw [← hserved]
    simp only [served, hw]
  cases Rule.of_step hst with
  | setPublisher | pollClosed | polled =>
    cases hanswer
    exact ⟨.advanced rfl rfl rfl, Nat.le_refl _, id, hopen⟩
  | workerBegun hw =>
    cases hanswer
    exact hquiet hw rfl rfl rfl (Nat.lt_succ_self _)
  | workerReturned hw hc =>
    rw [hopen] at hc
    cases hc
  | woken timeout hw =>
    cases hanswer
    exact hquiet hw rfl rfl rfl (Nat.lt_succ_self _)
  | timedOut timeout hw =>
    cases hanswer
    exact hquiet hw rfl rfl rfl (Nat.lt_succ_self _)
  | slept job failure delay hw =>
    cases hanswer
    exact hquiet hw rfl rfl rfl (Nat.lt_succ_self _)
  | controlSelected job rest hw hc hq =>
    cases hanswer
    refine ⟨.advanced ?_ ?_ rfl, .of_worker hw rfl hopen rfl ?_⟩
    · rw [outcome, outcome, hq]
      simp only [served, hw]
      rfl
    · rw [live_of_inactive (activeControl_of_worker hw), hq]
      rfl
    · show s.snapshot.speaker.readTurns + 3 + 4 * rest.length <
        s.snapshot.speaker.readTurns + 4 * s.controls.length
      rw [hq, List.length_cons]
      omega
  | verificationStarted hw hc hq | pollStarted hw hc hq | maintenanceStarted hw hc hq
  | maintenanceSkipped hw hc hq | waited hw hc hq => exact absurd hq (hfree hw)
  | stateFailed reason r error hw hr =>
    obtain ⟨status, hok, -⟩ := source_of_answer (hw ▸ hanswer)
    rw [hr] at hok
    cases hok
  | maintenanceFailed r error hw hr =>
    obtain ⟨status, hok, -⟩ := volume_of_answer (.inl rfl) (hw ▸ hanswer)
    rw [hr] at hok
    cases hok
  | volumeGetFailed job r error hw hr =>
    obtain ⟨status, hok, -⟩ := volume_of_answer (.inr ⟨job, rfl⟩) (hw ▸ hanswer)
    rw [hr] at hok
    cases hok
  | setRejected job first request r error hw hr | firstFailed job request r error hw hr
  | secondFailed job first request r error hw hr =>
    have hok := (set_of_answer (hw ▸ hanswer)).1
    rw [hr] at hok
    cases hok
  | stateDone reason r status hw hr =>
    obtain ⟨status', hok, hread, rfl⟩ := source_of_answer (hw ▸ hanswer)
    obtain rfl : status = status' := Except.ok.inj (hr.symm.trans hok)
    have hnoted : Ledger.Noted _ (s.stateExchangeDone env cfg reason r status).toLedger :=
      noted_stateExchangeDone
    have hframed : Framed s (s.stateExchangeDone env cfg reason r status) :=
      framed_stateExchangeDone
    have hturns : (s.stateExchangeDone env cfg reason r status).snapshot.speaker.readTurns =
        s.snapshot.speaker.readTurns := by
      rw [hnoted.speaker]
      rfl
    refine Drained.moved hw worker_stateExchangeDone (hframed.closing.trans hopen) ?_ rfl rfl
      (hturns ▸ Nat.lt_succ_self _) hframed.controls controlFutures_answerPolls
    simp only [served, hw, worker_stateExchangeDone, Scene.readSource, hread]
    rw [hnoted.speaker]
    rfl
  | maintenanceDone r status hw hr =>
    obtain ⟨status', hok, hread, rfl⟩ := volume_of_answer (.inl rfl) (hw ▸ hanswer)
    obtain rfl : status = status' := Except.ok.inj (hr.symm.trans hok)
    refine Drained.moved hw rfl hopen ?_ rfl rfl (Nat.succ_pos _)
    simp only [served, hw, Scene.readVolume, hread]
    rfl
  | controlSkipped job hw hall =>
    rw [dropped?_of_skipped hw hall] at hkeeps
    cases hkeeps
  | controlExpired job hw hlive hd =>
    simp only [expires, hw, decide_eq_false_iff_not] at hlate
    exact absurd hd hlate
  | volumeGetStarted job hw hlive hd hk hunknown =>
    cases hanswer
    have hturns : s.snapshot.speaker.readTurns = 3 := by
      refine if_neg fun hread => ?_
      rcases hunknown with hnone | hnone <;> simp [hnone] at hread
    refine Drained.moved hw rfl hopen ?_ rfl rfl (hturns ▸ Nat.lt_succ_self _)
    simp only [served, hw]
    refine Config.performed_readVolume job.command |>.trans ?_
    rw [Config.performed, if_pos ⟨hk, hunknown⟩]
    rfl
  | attemptsBegun job hw hlive hd hknown =>
    cases hanswer
    refine Drained.moved hw rfl hopen ?_ rfl rfl (Nat.lt_succ_self _)
    simp only [served, hw]
    have hread : ¬ job.command.Unread s.snapshot.speaker := by
      rintro ⟨hrel, hnone | hnone⟩
      · exact (hknown hrel).1 hnone
      · exact (hknown hrel).2 hnone
    rw [Config.performed, if_neg hread]
    rfl
  | volumeGetDone job r status hw hr =>
    obtain ⟨status', hok, hread, rfl⟩ := volume_of_answer (.inr ⟨job, rfl⟩) (hw ▸ hanswer)
    obtain rfl : status = status' := Except.ok.inj (hr.symm.trans hok)
    refine ⟨.advanced ?_ ?_ rfl, .of_worker hw rfl hopen rfl ?_⟩
    · rw [outcome, outcome]
      simp only [served, hw, Scene.readVolume, hread]
      rfl
    · rw [live_of_active (activeControl_of_worker hw)]
      rfl
    · show 0 + 4 * (s.controls.length + 1) < 5 + 4 * s.controls.length
      omega
  | attemptsTimedOut job s' hw hs => exact absurd hs (hattempts hw)
  | attemptsLeft job failure s' hw hs => exact absurd hs (hattempts hw)
  | workerCrashed job failure error hw hc hd hq =>
    rw [dropped?_of_crashed hw hc hd hq] at hkeeps
    cases hkeeps
  | setStarted job failure request hw hc hd hq =>
    cases hanswer
    refine Drained.moved hw rfl hopen ?_ rfl rfl (Nat.lt_succ_self _)
    simp only [served, hw, Config.written, hq]
    rfl
  | setAcknowledged job first request r hw hr =>
    obtain ⟨-, rfl⟩ := set_of_answer (hw ▸ hanswer)
    obtain ⟨l, time, wall, hnoted, -, -, hspeaker, -⟩ :
      ∃ (l : Ledger ρ) (time : Time) (wall : DateTime),
        Ledger.Noted l (s.controlAcknowledged env cfg job first r).toLedger ∧ _ ∧ _ ∧ _ ∧ _ :=
      exists_noted_controlAcknowledged
    have hloop : (s.controlAcknowledged env cfg job first r).worker = some .loop := rfl
    have hframed : Framed s (s.controlAcknowledged env cfg job first r) :=
      framed_controlAcknowledged
    refine ⟨.acknowledged job _ ?_ (activeControl_of_worker hw) ?_ rfl,
      .of_worker hw hloop (hframed.closing.trans hopen) rfl ?_⟩
    · rw [outcome, outcome, hframed.controls]
      simp only [served, hw, hloop]
      rw [hnoted.speaker.trans hspeaker]
    · exact live_of_inactive (activeControl_of_worker hloop)
    · rw [hframed.controls, hnoted.speaker.trans hspeaker]
      exact Nat.add_lt_add_right (Nat.lt_succ_of_le cfg.readTurns_expectedState_le) _
  | _ => cases hwork

/-- The outcome of a drain is settled when it begins. -/
lemma outcome_of_drains (h : Transition.Reachable (drain env cfg) (s, p) (t, q)) :
    t.outcome cfg q = s.outcome cfg p := by
  refine h.invariant (I := fun x => x.1.outcome cfg x.2 = s.outcome cfg p) rfl ?_
  rintro ⟨t, q⟩ ⟨u, q'⟩ e - ih - hst
  have hdrained : Drained cfg t q u q' := (drained_of_drain hst).1
  cases hdrained with
  | advanced houtcome => exact houtcome.trans ih
  | acknowledged job snapshot houtcome => exact houtcome.trans ih

/-- A caller has been given a snapshot, or waits on an entry that has not been done. -/
def Attended (s : Runtime ρ) (f : ℕ) : Prop :=
  (∃ snapshot, s.controlFutures f = .result snapshot) ∨
    s.controlFutures f = .pending ∧ f ∈ (s.live.map Control.waiters).flatten

omit [Client ρ] in
lemma Attended.drained {f : ℕ} (h : Attended s f) (hst : Drained cfg s p t q) :
    Attended t f := by
  cases hst with
  | advanced houtcome hlive hfutures =>
    rw [Attended, hlive, hfutures]
    exact h
  | acknowledged job snapshot houtcome hactive hlive hfutures =>
    rw [Attended, hlive, hfutures]
    rcases h with ⟨result, hresult⟩ | ⟨hpending, hmem⟩
    · refine .inl ⟨result, ?_⟩
      rw [Future.settle_of_done (by simp [hresult]), hresult]
    rw [live_of_active hactive, List.map_cons, List.flatten_cons, List.mem_append] at hmem
    by_cases hf : f ∈ job.waiters
    · exact .inl ⟨snapshot, if_pos ⟨hf, by simp [hpending]⟩⟩
    · refine .inr ⟨?_, hmem.resolve_left hf⟩
      rw [Future.settle_of_notMem hf, hpending]

/-- Who waits when a drain begins has been given a snapshot when it ends. -/
lemma result_of_drains (h : Transition.Reachable (drain env cfg) (s, p) (t, q))
    (hdone : Exhausted t) {f : ℕ} (hf : Attended s f) :
    ∃ snapshot, t.controlFutures f = .result snapshot := by
  have hend : Attended t f := by
    refine h.invariant (I := fun x => Attended x.1 f) hf ?_
    rintro ⟨t, q⟩ ⟨u, q'⟩ e - ih - hst
    exact ih.drained (drained_of_drain hst).1
  rcases hend with hresult | ⟨-, hmem⟩
  · exact hresult
  · rw [live_of_inactive (activeControl_of_worker hdone.2), hdone.1] at hmem
    cases hmem

/-- A busy worker has a turn. -/
lemma exists_turn (h : s.busy = true) : ∃ turn : ρ → Event ρ,
    ∀ r, (turn r).isTurn = true ∧ (step env cfg s (turn r)).isSome := by
  obtain ⟨w, hw, hbusy⟩ := (Option.any_eq_true ..).mp h
  cases w with
  | created | loop | control | attempt =>
    exact ⟨fun _ => .run, fun _ => ⟨rfl, by simp [step, hw, stepRun]⟩⟩
  | sourceGet | maintenanceGet | volumeGet | setting =>
    refine ⟨.reply, fun r => ⟨rfl, ?_⟩⟩
    simp only [step, hw, stepReply]
    split <;> rfl
  | retrySleep => exact ⟨fun _ => .slept, fun _ => ⟨rfl, by simp [step, hw]⟩⟩
  | _ => cases hbusy

lemma ends_of_busy (hopen : s.closing = false) (hbusy : s.busy = true) :
    DrainEnds env cfg s p where
  bounded es x hrun := by
    have hle : x.1.turnsLeft + es.countP Event.isTurn ≤ s.turnsLeft :=
      Transition.add_countP_le (μ := fun x => x.1.turnsLeft)
        (fun hst => (drained_of_drain hst).2.turns) hrun
    exact (Nat.le_add_left _ _).trans hle
  progress t q h hwork := by
    obtain ⟨htbusy, htopen⟩ : t.busy = true ∧ t.closing = false := by
      refine h.invariant (I := fun x => x.1.busy = true ∧ x.1.closing = false) ⟨hbusy, hopen⟩ ?_
      rintro ⟨t, q⟩ ⟨u, q'⟩ e - ih - hst
      have hturned : Turned e t u := (drained_of_drain hst).2
      exact ⟨hturned.busy ih.1, hturned.closing⟩
    obtain ⟨turn, hturns⟩ : ∃ turn : ρ → Event ρ, ∀ r, _ ∧ (step env cfg t (turn r)).isSome :=
      exists_turn htbusy
    refine ⟨turn, fun r => ⟨(hturns r).1, (hturns r).2, fun hkeeps hlate hanswer => ?_⟩⟩
    obtain ⟨hturn, hst⟩ := hturns r
    obtain ⟨q', hq'⟩ := Option.isSome_iff_exists.mp hanswer
    obtain ⟨u, hu⟩ := Option.isSome_iff_exists.mp hst
    rw [drain, if_pos ⟨Event.isWork_of_isTurn hturn, htopen, hwork, hkeeps, hlate⟩, hq', hu]
    rfl

/-! ### Queues with and without merging -/

/-- The requests are submitted in this order, and none is refused for want of capacity. -/
inductive Submitted (env : Env) (cfg : Config) (s : Runtime ρ) : List Request → Runtime ρ → Prop
    where
  | nil : Submitted env cfg s [] s
  | snoc {rs : List Request} {r : Request} {c d : Runtime ρ} (h : Submitted env cfg s rs c)
      (hst : step env cfg c (.submit r) = some d) (hfree : ¬ RaisesQueueBusy c d) :
      Submitted env cfg s (rs ++ [r]) d

/-- A request is not refused while there is room. -/
lemma Submitted.submit {rs : List Request} {c : Runtime ρ} (h : Submitted env cfg s rs c)
    (r : Request) (hi : c.idle = true) (hroom : c.controls.length < queueCapacity) :
    Submitted env cfg s (rs ++ [r]) (c.submit env cfg (cfg.submitted r)) := by
  have hst : step env cfg c (.submit r) = some (c.submit env cfg (cfg.submitted r)) := by
    unfold step
    split
    all_goals first | contradiction | skip
    exact if_pos hi
  refine .snoc h hst fun hbusy => ?_
  exact absurd ((raisesQueueBusy_iff hst).mp hbusy).2.1 (not_le.mpr hroom)

/-- Every request has an entry of its own. -/
def acceptAll (env : Env) (cfg : Config) (s : Runtime ρ) (rs : List Request) : Runtime ρ :=
  rs.foldl (fun s r => s.accept env cfg (cfg.submitted r)) s

/-- An entry stands for these adjacent requests: it holds the newest of them and a caller for each,
and they are more than one only if all of them set the volume. -/
structure StandsFor (cfg : Config) (group : List Request) (job : Control) : Prop where
  newest : ∃ r, group.getLast? = some r ∧ job.command = cfg.submitted r
  waiters : job.waiters.length = group.length
  kinds : ∀ r ∈ group, (cfg.submitted r).kind = job.command.kind
  shared : group.length = 1 ∨ job.command.kind = .setVolume

omit [Client ρ] in
lemma standsFor_newEntry (r : Request) :
    StandsFor cfg [r] (s.newEntry env cfg (cfg.submitted r)) :=
  ⟨⟨r, rfl, rfl⟩, rfl, by simp [newEntry], .inl rfl⟩

/-- A request is merged into an entry. -/
lemma StandsFor.merged {group : List Request} {r : Request} {f : ℕ} (h : StandsFor cfg group job)
    (hk : job.command.kind = .setVolume) (hr : (cfg.submitted r).kind = .setVolume) :
    StandsFor cfg (group ++ [r])
      { job with command := cfg.submitted r, waiters := job.waiters ++ [f] } := by
  refine ⟨⟨r, List.getLast?_concat, rfl⟩, ?_, ?_, .inr hr⟩
  · simp [h.waiters]
  · intro r' hr'
    rcases List.mem_append.mp hr' with hmem | hmem
    · exact (h.kinds r' hmem).trans (hk.trans hr.symm)
    · rw [List.mem_singleton.mp hmem]

/-- What is in the queue after these requests, which found it empty. -/
structure Gathering (cfg : Config) (s : Runtime ρ) (rs : List Request) (c : Runtime ρ) : Prop where
  worker : c.worker = s.worker
  speaker : c.snapshot.speaker = s.snapshot.speaker
  closing : c.closing = false
  outcome : ∀ a, (c.controls.map Control.command).foldl cfg.performed a =
    (rs.map cfg.submitted).foldl cfg.performed a
  groups : ∃ groups : List (List Request), groups.flatten = rs ∧
    List.Forall₂ (StandsFor cfg) groups c.controls
  waiters : (c.controls.map Control.waiters).flatten =
    List.range' s.controlFutureCount rs.length
  count : c.controlFutureCount = s.controlFutureCount + rs.length
  pending : ∀ f ∈ List.range' s.controlFutureCount rs.length, c.controlFutures f = .pending

omit [Client ρ] in
lemma gathering_nil (hopen : s.closing = false) (hempty : s.controls = []) :
    Gathering cfg s [] s := by
  refine ⟨rfl, rfl, hopen, fun a => by rw [hempty]; rfl, ⟨[], rfl, ?_⟩, by rw [hempty]; rfl, rfl,
    by simp⟩
  rw [hempty]
  exact .nil

omit [Client ρ] in
/-- The callers are numbered in the order of their requests. -/
lemma range_concat (rs : List Request) (r : Request) (start : ℕ) :
    List.range' start (rs ++ [r]).length = List.range' start rs.length ++ [start + rs.length] := by
  rw [List.length_append, List.length_singleton, List.range'_concat, one_mul]

omit [Client ρ] in
/-- The new caller waits, and those before it still do. -/
lemma Gathering.pending_update {rs : List Request} {c : Runtime ρ} (h : Gathering cfg s rs c)
    (r : Request) : ∀ f ∈ List.range' s.controlFutureCount (rs ++ [r]).length,
      Function.update c.controlFutures c.controlFutureCount .pending f = .pending := by
  intro f hf
  rw [range_concat, List.mem_append, List.mem_singleton, ← h.count] at hf
  rcases hf with hf | rfl
  · by_cases hnew : f = c.controlFutureCount
    · rw [hnew, Function.update_self]
    · rw [Function.update_of_ne hnew, h.pending f hf]
  · rw [Function.update_self]

/-- The last pair of two lists that correspond to each other. -/
lemma forall₂_concat {α β : Type*} {R : α → β → Prop} {as : List α} {bs : List β} {b : β}
    (h : List.Forall₂ R as (bs ++ [b])) :
    ∃ as' a, as = as' ++ [a] ∧ List.Forall₂ R as' bs ∧ R a b := by
  rw [← List.forall₂_reverse_iff, List.reverse_append, List.reverse_singleton,
    List.singleton_append, List.forall₂_cons_right_iff] at h
  obtain ⟨a, as', hab, hrest, hreverse⟩ := h
  refine ⟨as'.reverse, a, ?_, ?_, hab⟩
  · rw [← List.reverse_cons, ← hreverse, List.reverse_reverse]
  · rwa [← List.forall₂_reverse_iff, List.reverse_reverse]

omit [Client ρ] in
lemma Gathering.coalesced {rs : List Request} {r : Request} {c : Runtime ρ}
    (h : Gathering cfg s rs c) (hj : c.coalescingEntry (cfg.submitted r) = some job) :
    Gathering cfg s (rs ++ [r]) (c.coalesce env job (cfg.submitted r)) := by
  obtain ⟨hkind, hkind', hlast⟩ := coalescingEntry_eq_some hj
  obtain ⟨groups, hflatten, hgroups⟩ := h.groups
  have hcontrols : (c.coalesce env job (cfg.submitted r)).controls = c.controls.dropLast ++
      [{ job with
        command := cfg.submitted r, waiters := job.waiters ++ [c.controlFutureCount] }] := rfl
  refine ⟨h.worker, h.speaker, h.closing, ?_, ?_, ?_, ?_, h.pending_update r⟩
  · intro a
    obtain ⟨value, hvalue⟩ := exists_setVolume hkind'
    obtain ⟨value', hvalue'⟩ := exists_setVolume hkind
    have hbefore := h.outcome a
    rw [hlast] at hbefore
    simp only [List.map_append, List.map_cons, List.map_nil, List.foldl_append, List.foldl_cons,
      List.foldl_nil, hvalue] at hbefore
    rw [hcontrols]
    simp only [List.map_append, List.map_cons, List.map_nil, List.foldl_append, List.foldl_cons,
      List.foldl_nil, hvalue', ← hbefore]
    exact (Config.performed_setVolume_setVolume value (Config.level_of_submitted hvalue')).symm
  · rw [hlast] at hgroups
    obtain ⟨before, group, rfl, hbefore, hgroup⟩ := forall₂_concat hgroups
    refine ⟨before ++ [group ++ [r]], ?_, ?_⟩
    · rw [← hflatten]
      simp
    · rw [hcontrols]
      exact List.rel_append hbefore (.cons (hgroup.merged hkind' hkind) .nil)
  · have hbefore := h.waiters
    rw [hlast] at hbefore
    rw [hcontrols, range_concat, ← hbefore, ← h.count]
    simp
  · rw [List.length_append, List.length_singleton, ← Nat.add_assoc, ← h.count]
    rfl

omit [Client ρ] in
lemma Gathering.accepted {rs : List Request} {r : Request} {c : Runtime ρ}
    (h : Gathering cfg s rs c) :
    Gathering cfg s (rs ++ [r]) (c.accept env cfg (cfg.submitted r)) := by
  obtain ⟨groups, hflatten, hgroups⟩ := h.groups
  have hcontrols : (c.accept env cfg (cfg.submitted r)).controls =
      c.controls ++ [c.newEntry env cfg (cfg.submitted r)] := rfl
  refine ⟨h.worker, h.speaker, h.closing, ?_, ?_, ?_, ?_, h.pending_update r⟩
  · intro a
    rw [hcontrols, List.map_append, List.foldl_append, h.outcome, List.map_append,
      List.foldl_append]
    rfl
  · refine ⟨groups ++ [[r]], by rw [← hflatten]; simp, ?_⟩
    rw [hcontrols]
    exact List.rel_append hgroups (.cons (standsFor_newEntry r) .nil)
  · rw [hcontrols, range_concat, ← h.waiters, ← h.count]
    simp [newEntry]
  · rw [List.length_append, List.length_singleton, ← Nat.add_assoc, ← h.count]
    rfl

lemma gathering_of_submitted (hopen : s.closing = false) (hempty : s.controls = [])
    {rs : List Request} {c : Runtime ρ} (h : Submitted env cfg s rs c) : Gathering cfg s rs c := by
  induction h with
  | nil => exact gathering_nil hopen hempty
  | snoc h hst hfree ih =>
    cases Rule.of_step hst with
    | submitClosed r hi hc =>
      rw [ih.closing] at hc
      cases hc
    | coalesced r job hi hc hj => exact ih.coalesced hj
    | refused r hi hc hj hfull =>
      exact absurd ((raisesQueueBusy_iff hst).mpr ⟨hc, hfull, hj⟩) hfree
    | accepted r hi hc hj => exact ih.accepted

omit [Client ρ] in
/-- The queue with an entry for each request. -/
lemma acceptAll_eq (rs : List Request) : (s.acceptAll env cfg rs).worker = s.worker ∧
    (s.acceptAll env cfg rs).closing = s.closing ∧
    (s.acceptAll env cfg rs).snapshot.speaker = s.snapshot.speaker ∧
    (s.acceptAll env cfg rs).controls.map Control.command =
      s.controls.map Control.command ++ rs.map cfg.submitted := by
  induction rs generalizing s with
  | nil => simp [acceptAll]
  | cons r rs ih =>
    obtain ⟨hworker, hclosing, hspeaker, hcontrols⟩ :=
      ih (s := s.accept env cfg (cfg.submitted r))
    refine ⟨hworker.trans rfl, hclosing.trans rfl, hspeaker.trans rfl, hcontrols.trans ?_⟩
    show (s.controls ++ [s.newEntry env cfg (cfg.submitted r)]).map Control.command ++ _ = _
    simp [newEntry]

/-- Where the worker is busy when the requests are made, the queue is drained to its end, with
merging and without. -/
theorem ends_of_submitted (hopen : s.closing = false) (hempty : s.controls = []) {rs : List Request}
    {c : Runtime ρ} (hc : Submitted env cfg s rs c) (hbusy : s.busy = true) (env' : Env) :
    DrainEnds env cfg c p ∧ DrainEnds env' cfg (s.acceptAll env' cfg rs) p := by
  have hgathering := gathering_of_submitted hopen hempty hc
  obtain ⟨hworker, hclosing, -⟩ : (s.acceptAll env' cfg rs).worker = s.worker ∧ _ ∧ _ ∧ _ :=
    acceptAll_eq rs
  refine ⟨ends_of_busy hgathering.closing ?_, ends_of_busy (hclosing.trans hopen) ?_⟩
  · rwa [busy, hgathering.worker]
  · rwa [busy, hworker]

/-- A queue in which requests were merged is drained to the same cached state and registers as one
with an entry for each request. Only adjacent set_volume requests are merged, and every caller is
given a snapshot. Where the worker is busy when the requests are made, both drains come to their
end. -/
theorem drained_alike (hopen : s.closing = false) (hempty : s.controls = []) {rs : List Request}
    {c : Runtime ρ} (hc : Submitted env cfg s rs c)
    (ht : Transition.Reachable (drain env cfg) (c, p) (t, q)) (hdone : Exhausted t)
    {env' : Env} {t' : Runtime ρ} {q' : Registers}
    (ht' : Transition.Reachable (drain env' cfg) (s.acceptAll env' cfg rs, p) (t', q'))
    (hdone' : Exhausted t') :
    t.snapshot.speaker = t'.snapshot.speaker ∧ q = q' ∧
    (∃ groups : List (List Request), groups.flatten = rs ∧
      List.Forall₂ (StandsFor cfg) groups c.controls) ∧
    (c.controls.map Control.waiters).flatten = List.range' s.controlFutureCount rs.length ∧
    (∀ f ∈ List.range' s.controlFutureCount rs.length,
      ∃ snapshot, t.controlFutures f = .result snapshot) ∧
    (s.busy = true → DrainEnds env cfg c p ∧ DrainEnds env' cfg (s.acceptAll env' cfg rs) p) := by
  have hgathering := gathering_of_submitted hopen hempty hc
  obtain ⟨hworker, -, hspeaker, hcontrols⟩ :
      (s.acceptAll env' cfg rs).worker = s.worker ∧ _ ∧ _ ∧ _ := acceptAll_eq rs
  have hserved : c.served cfg p = (s.acceptAll env' cfg rs).served cfg p := by
    simp only [served, hgathering.worker, hgathering.speaker, hworker, hspeaker]
  have hsame : c.outcome cfg p = (s.acceptAll env' cfg rs).outcome cfg p := by
    rw [outcome, outcome, hserved, hgathering.outcome, hcontrols, hempty]
    rfl
  have hend : t.outcome cfg q = t'.outcome cfg q' :=
    (outcome_of_drains ht).trans (hsame.trans (outcome_of_drains ht').symm)
  rw [outcome_of_exhausted hdone, outcome_of_exhausted hdone', Scene.mk.injEq] at hend
  refine ⟨hend.1, hend.2, hgathering.groups, hgathering.waiters, ?_,
    fun hbusy => ends_of_submitted hopen hempty hc hbusy env'⟩
  intro f hf
  refine result_of_drains ht hdone (.inr ⟨hgathering.pending f hf, ?_⟩)
  rw [live, List.map_append, List.flatten_append, hgathering.waiters]
  exact List.mem_append_right _ hf

/-- While a poll is in flight, the volume of a speaker that plays at 30 is set to 10, then to 20,
and turned up: it is written as 20 and 25, or as 10, 20 and 25. -/
theorem drained_alike_setVolume : ∃ s c t t' : Runtime Transcript, ∃ p q : Registers,
    s.worker = some (.sourceGet .poll) ∧ c.controls.length = 2 ∧
    Transition.Reachable (drain .ticking .ofOptions) (c, p) (t, q) ∧
    Transition.Reachable (drain .ticking .ofOptions)
      (s.acceptAll .ticking .ofOptions [.setVolume (1 / 10), .setVolume (1 / 5), .volumeUp], p)
      (t', q) ∧
    q.volumeWritten = some 25 ∧ t.snapshot.speaker = t'.snapshot.speaker ∧
    ∃ snapshot, t.controlFutures 0 = .result snapshot := by
  let s : Runtime Transcript := { worker := some (.sourceGet .poll), pollPending := true }
  let p : Registers :=
    { source := ⟨.opt, none, false, true⟩, volume := ⟨30, true, by decide, by decide⟩ }
  let requests : List Request := [.setVolume (1 / 10), .setVolume (1 / 5), .volumeUp]
  let merged : Runtime Transcript :=
    requests.foldl (fun c r => c.submit .ticking .ofOptions (Config.ofOptions.submitted r)) s
  have hnil : Submitted .ticking .ofOptions s [] s := .nil
  have hsubmitted : Submitted .ticking .ofOptions s requests merged :=
    ((hnil.submit (.setVolume (1 / 10)) rfl (by decide)).submit (.setVolume (1 / 5)) rfl
      (by decide)).submit .volumeUp rfl (by decide)
  let acknowledged : List (Event Transcript) :=
    [.run, .run, .run, .reply (Transcript.status 0x11)]
  have hrun : (Transition.run (drain .ticking .ofOptions)
      (.reply (Transcript.source 0x2B) :: (acknowledged ++ acknowledged)) (merged, p)).any
      (fun x => merged.controls.length = 2 ∧ Exhausted x.1 ∧ x.2.volumeWritten = some 25) =
      true := by
    decide +kernel
  have hrun' : (Transition.run (drain .ticking .ofOptions)
      (.reply (Transcript.source 0x2B) :: (acknowledged ++ acknowledged ++ acknowledged))
      (s.acceptAll .ticking .ofOptions requests, p)).any (fun x => Exhausted x.1) = true := by
    decide +kernel
  obtain ⟨⟨t, q⟩, ht, hend⟩ := Transition.exists_reachable_of_run hrun
  obtain ⟨⟨t', q'⟩, ht', hdone'⟩ := Transition.exists_reachable_of_run hrun'
  obtain ⟨hlength, hdone, hwritten⟩ := of_decide_eq_true hend
  obtain ⟨hspeaker, rfl, -, -, hresult, -⟩ :=
    drained_alike rfl rfl hsubmitted ht hdone ht' (of_decide_eq_true hdone')
  exact ⟨s, merged, t, t', p, q, rfl, hlength, ht, ht', hwritten, hspeaker,
    hresult 0 (by decide)⟩

end Runtime

end KefLsx
