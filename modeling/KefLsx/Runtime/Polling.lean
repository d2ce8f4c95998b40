import KefLsx.Core.Shield
import KefLsx.Runtime.Closing

/-!
# Polls

The callers of `async_poll` register their futures, and whichever source GET ends next resolves
all of them, however it ends. They wait behind a shield, so that the runtime does not see their
cancellation.
-/

namespace KefLsx

/-! ### Reading the log -/

namespace Obs

variable {ρ : Type}

/-- The end of a source GET. -/
def isSourceEnd : Obs ρ → Bool
  | sourceEnded .. => true
  | _ => false

/-- The start of a source GET. -/
def isSourceStart : Obs ρ → Bool
  | started _ (.sourceGet _) _ => true
  | _ => false

end Obs

namespace Log

variable {ρ : Type} {log between : List (Obs ρ)} {o : Obs ρ}

/-- How many source GETs have been started since one ended. -/
def sourceStarts : List (Obs ρ) → ℕ
  | [] => 0
  | o :: log => if o.isSourceEnd then 0 else sourceStarts log + if o.isSourceStart then 1 else 0

lemma sourceStarts_cons_le : sourceStarts (o :: log) ≤ sourceStarts log + 1 := by
  rw [sourceStarts]
  split
  · exact Nat.zero_le _
  · split <;> omega

lemma sourceStarts_traffic : sourceStarts (traffic log) = sourceStarts log := by
  induction log with
  | nil => rfl
  | cons o log ih =>
    cases ho : o.isTraffic with
    | true => rw [traffic_cons ho, sourceStarts, sourceStarts, ih]
    | false =>
      rw [traffic_cons_of_quiet ho, ih, sourceStarts]
      cases o with
      | started | sourceEnded => cases ho
      | _ => simp [Obs.isSourceEnd, Obs.isSourceStart]

/-- Between two ends of source GETs, whoever started there was counted. -/
lemma countP_le_sourceStarts (h : ∀ o ∈ between, o.isSourceEnd = false) :
    between.countP Obs.isSourceStart ≤ sourceStarts (between ++ log) := by
  induction between with
  | nil => simp
  | cons o between ih =>
    have hrest := ih fun o' ho' => h o' (List.mem_cons_of_mem _ ho')
    have ho : o.isSourceEnd = false := h o (List.mem_cons_self ..)
    rw [List.countP_cons, List.cons_append, sourceStarts, ho]
    exact Nat.add_le_add_right hrest _

end Log

namespace Runtime

open Log

variable {ρ : Type} {env : Env} {cfg : Config} {s t u : Runtime ρ} {e : Event ρ} {f : ℕ}

/-- A source GET ends. -/
def EndsGet (s : Runtime ρ) (e : Event ρ) : Prop :=
  ∃ reason r, s.worker = some (.sourceGet reason) ∧ e = .reply r

variable [Client ρ]

/-- The snapshot with which a source GET that ends in `t` resolves the polls: that of the end, or
that of the failure of a poll, before a failed verification is taken note of. -/
def delivered (env : Env) (cfg : Config) (s t : Runtime ρ) (r : ρ) : RuntimeSnapshot :=
  match Client.asyncGetSource r with
  | .ok _ => t.snapshot
  | .error error => (s.toLedger.recordPrimaryFailure env cfg error.type.name).snapshot

/-! ### What a step does to the polls -/

/-- What a step does to the polls. -/
inductive Polled (env : Env) (cfg : Config) (s : Runtime ρ) (e : Event ρ) (t : Runtime ρ) :
    Prop where
  | kept (hfutures : t.pollFutures = s.pollFutures) (hwaiters : t.pollWaiters = s.pollWaiters)
      (hpending : t.pollPending = s.pollPending) (hcount : t.pollFutureCount = s.pollFutureCount)
      (hends : EndsGet s e → s.pollPending = false)
  | registered (hfutures : t.pollFutures =
        Function.update s.pollFutures s.pollFutureCount .pending)
      (hwaiters : t.pollWaiters = s.pollWaiters ++ [s.pollFutureCount])
      (hpending : t.pollPending = true) (hcount : t.pollFutureCount = s.pollFutureCount + 1)
      (hends : ¬ EndsGet s e)
  | answered (reason : Reason) (r : ρ) (hw : s.worker = some (.sourceGet reason))
      (he : e = .reply r) (hfutures : t.pollFutures =
        Future.settle s.pollWaiters (.result (delivered env cfg s t r)) s.pollFutures)
      (hwaiters : t.pollWaiters = []) (hpending : t.pollPending = false)
      (hcount : t.pollFutureCount = s.pollFutureCount)
  | closed (he : e = .close)
      (hfutures : t.pollFutures = Future.settle s.pollWaiters .cancelled s.pollFutures)
      (hwaiters : t.pollWaiters = []) (hpending : t.pollPending = false)
      (hcount : t.pollFutureCount = s.pollFutureCount)

/-- The polls are left alone by a step that ends no source GET. -/
lemma Polled.of_eq (hends : ¬ EndsGet s e) (hfutures : t.pollFutures = s.pollFutures := by rfl)
    (hwaiters : t.pollWaiters = s.pollWaiters := by rfl)
    (hpending : t.pollPending = s.pollPending := by rfl)
    (hcount : t.pollFutureCount = s.pollFutureCount := by rfl) : Polled env cfg s e t :=
  .kept hfutures hwaiters hpending hcount fun h => absurd h hends

omit [Client ρ] in
lemma not_endsGet_of_worker {w : Worker} (hw : s.worker = some w)
    (hne : ∀ reason, w ≠ .sourceGet reason) : ¬ EndsGet s e := by
  rintro ⟨reason, r, hget, -⟩
  rw [hw] at hget
  exact hne reason (Option.some.inj hget)

omit [Client ρ] in
lemma not_endsGet_of_event (hne : ∀ r, e ≠ .reply r) : ¬ EndsGet s e := by
  rintro ⟨reason, r, -, he⟩
  exact hne r he

lemma polled_stateExchangeFailed {reason : Reason} {r : ρ} {error : LsxError}
    (hw : s.worker = some (.sourceGet reason)) (hr : Client.asyncGetSource r = .error error) :
    Polled env cfg s (.reply r) (s.stateExchangeFailed env cfg reason r error) := by
  by_cases hp : reason = .poll ∨ s.pollPending = true
  · have hanswers : (decide (reason = .poll ∨ s.pollPending = true)) = true := decide_eq_true hp
    refine .answered reason r hw rfl ?_ ?_ ?_
      framed_stateExchangeFailed.pollFutureCount
    · simp only [stateExchangeFailed, delivered, hr, answerPolls, hanswers, if_true]
      rfl
    · simp only [stateExchangeFailed, answerPolls, hanswers, if_true]
      rfl
    · simp only [stateExchangeFailed, answerPolls, hanswers, if_true]
      rfl
  · have hanswers : (decide (reason = .poll ∨ s.pollPending = true)) = false :=
      decide_eq_false hp
    have hnone : s.pollPending = false := by simpa using (not_or.mp hp).2
    refine .kept ?_ ?_ ?_ framed_stateExchangeFailed.pollFutureCount fun _ => hnone
    · simp only [stateExchangeFailed, answerPolls, hanswers]
      rfl
    · simp only [stateExchangeFailed, answerPolls, hanswers]
      rfl
    · simp only [stateExchangeFailed, answerPolls, hanswers]
      rfl

lemma polled_stateExchangeDone {reason : Reason} {r : ρ} {status : SourceStatus}
    (hw : s.worker = some (.sourceGet reason)) (hr : Client.asyncGetSource r = .ok status) :
    Polled env cfg s (.reply r) (s.stateExchangeDone env cfg reason r status) := by
  cases hp : s.pollPending with
  | true =>
    refine .answered reason r hw rfl ?_ ?_ ?_
      framed_stateExchangeDone.pollFutureCount
    · simp only [stateExchangeDone, delivered, hr, answerPolls, record_pollPending, hp, if_true]
      rfl
    · simp only [stateExchangeDone, answerPolls, record_pollPending, hp, if_true]
      rfl
    · simp only [stateExchangeDone, answerPolls, record_pollPending, hp, if_true]
      rfl
  | false =>
    refine .kept ?_ ?_ ?_ framed_stateExchangeDone.pollFutureCount fun _ => hp
    · show (answerPolls _ s.pollPending).pollFutures = s.pollFutures
      rw [hp]
      rfl
    · show (answerPolls _ s.pollPending).pollWaiters = s.pollWaiters
      rw [hp]
      rfl
    · show (answerPolls _ s.pollPending).pollPending = s.pollPending
      rw [hp]
      exact hp

lemma polled_of_rule (h : Rule env cfg s e t) : Polled env cfg s e t := by
  cases h with
  | started hw hc => exact .registered rfl rfl rfl rfl (not_endsGet_of_event (by simp))
  | polled hi hc => exact .registered rfl rfl rfl rfl (not_endsGet_of_event (by simp))
  | closeBegun =>
    obtain ⟨-, -, -, -, -, hwaiters, -, hcount⟩ := frame_beginClose (s := s)
    exact .closed rfl polls_beginClose.1 hwaiters polls_beginClose.2 hcount
  | stateFailed reason r error hw hr => exact polled_stateExchangeFailed hw hr
  | stateDone reason r status hw hr => exact polled_stateExchangeDone hw hr
  | maintenanceFailed r error hw | maintenanceDone r status hw =>
    exact .of_eq (not_endsGet_of_worker hw (by simp))
  | volumeGetFailed job r error hw | volumeGetDone job r status hw =>
    exact .of_eq (not_endsGet_of_worker hw (by simp))
  | setRejected job first request r error hw | firstFailed job request r error hw
  | secondFailed job first request r error hw | setAcknowledged job first request r hw =>
    exact .of_eq (not_endsGet_of_worker hw (by simp))
  | attemptsTimedOut job s' hw hs | attemptsLeft job failure s' hw hs =>
    have hne : ¬ EndsGet s .run := not_endsGet_of_event (by simp)
    cases hs <;> exact .of_eq hne
  | _ => exact .of_eq (not_endsGet_of_event (by simp))

/-! ### Who is registered -/

/-- The flag and the list go together, and the list holds the futures that are pending. -/
structure Registered (s : Runtime ρ) : Prop where
  pending : s.pollPending = true ↔ s.pollWaiters ≠ []
  kept : ∀ f, (s.pollFutures f).isPending = true ↔ f ∈ s.pollWaiters
  created : ∀ f, s.pollFutureCount ≤ f → s.pollFutures f = .dropped

omit [Client ρ] in
lemma Registered.lt_count (h : Registered s) (hf : s.pollFutures f ≠ .dropped) :
    f < s.pollFutureCount := by
  by_contra hle
  exact hf (h.created f (not_lt.mp hle))

omit [Client ρ] in
/-- Everybody is answered, and the list is empty. -/
lemma Registered.settled {outcome : Future.State RuntimeSnapshot ControlError} (h : Registered s)
    (ho : outcome.isPending = false)
    (hfutures : t.pollFutures = Future.settle s.pollWaiters outcome s.pollFutures)
    (hwaiters : t.pollWaiters = []) (hpending : t.pollPending = false)
    (hcount : t.pollFutureCount = s.pollFutureCount) : Registered t := by
  refine ⟨by simp [hwaiters, hpending], ?_, ?_⟩
  · intro f
    rw [hfutures, hwaiters, Future.isPending_settle ho, h.kept]
    simp
  · intro f hle
    have hdropped := h.created f (hcount ▸ hle)
    rw [hfutures, Future.settle_of_done (by simp [hdropped]), hdropped]

lemma Registered.step (h : Registered s) (hp : Polled env cfg s e t) : Registered t := by
  cases hp with
  | kept hfutures hwaiters hpending hcount =>
    refine ⟨by rw [hpending, hwaiters]; exact h.pending, ?_, ?_⟩
    · rw [hfutures, hwaiters]
      exact h.kept
    · rw [hfutures, hcount]
      exact h.created
  | registered hfutures hwaiters hpending hcount =>
    refine ⟨by simp [hpending, hwaiters], ?_, ?_⟩
    · intro f
      rw [hfutures, hwaiters, List.mem_append, List.mem_singleton]
      by_cases hf : f = s.pollFutureCount
      · simp [hf]
      · rw [Function.update_of_ne hf, h.kept]
        simp [hf]
    · intro f hle
      rw [hfutures, Function.update_of_ne (by omega)]
      exact h.created f (by omega)
  | answered reason r hw he hfutures hwaiters hpending hcount =>
    exact h.settled rfl hfutures hwaiters hpending hcount
  | closed he hfutures hwaiters hpending hcount =>
    exact h.settled rfl hfutures hwaiters hpending hcount

lemma registered_of_reachable (h : Transition.Reachable (step env cfg) {} s) : Registered s := by
  refine h.invariant (I := Registered) ⟨by simp, by simp, fun _ _ => rfl⟩ ?_
  intro s t e _ hs _ hst
  have hrule := Rule.of_step hst
  exact hs.step (polled_of_rule hrule)

/-- Who has been answered keeps the answer. -/
lemma Registered.done_of_polled (h : Registered s) (hp : Polled env cfg s e t)
    (hdone : (s.pollFutures f).isDone = true) : t.pollFutures f = s.pollFutures f := by
  have hset := Future.State.not_isPending_of_isDone hdone
  cases hp with
  | kept hfutures => rw [hfutures]
  | registered hfutures =>
    have hlt : f < s.pollFutureCount :=
      h.lt_count fun heq => by simp [heq, Future.State.isDone] at hdone
    rw [hfutures, Function.update_of_ne hlt.ne]
  | answered reason r hw he hfutures => rw [hfutures, Future.settle_of_done hset]
  | closed he hfutures => rw [hfutures, Future.settle_of_done hset]

/-- Who waits goes on waiting until a source GET ends, or the runtime is closed. -/
lemma Registered.pending_of_polled (h : Registered s) (hp : Polled env cfg s e t)
    (hpending : (s.pollFutures f).isPending = true) (hclose : e ≠ .close) (hends : ¬ EndsGet s e) :
    (t.pollFutures f).isPending = true := by
  cases hp with
  | kept hfutures => rwa [hfutures]
  | registered hfutures =>
    have hlt : f < s.pollFutureCount := h.lt_count fun heq => by simp [heq] at hpending
    rwa [hfutures, Function.update_of_ne hlt.ne]
  | answered reason r hw he => exact absurd ⟨reason, r, hw, he⟩ hends
  | closed he => exact absurd he hclose

/-- Whichever source GET ends answers who waits. -/
lemma Registered.answered_of_polled {r : ρ} (h : Registered s)
    (hp : Polled env cfg s (.reply r) t) (hpending : (s.pollFutures f).isPending = true)
    (hends : EndsGet s (.reply r)) :
    t.pollFutures f = .result (delivered env cfg s t r) := by
  have hmem := (h.kept f).mp hpending
  cases hp with
  | kept _ _ _ _ hnone =>
    have hwaits : s.pollPending = true := h.pending.mpr (List.ne_nil_of_mem hmem)
    rw [hnone hends] at hwaits
    cases hwaits
  | registered _ _ _ _ hnot => exact absurd hends hnot
  | answered reason r' hw he hfutures =>
    cases he
    rw [hfutures, Future.settle, if_pos ⟨hmem, hpending⟩]
  | closed he => cases he

/-- A source GET that ends leaves nobody waiting. -/
lemma Registered.waiters_eq_nil (h : Registered s) (hp : Polled env cfg s e t)
    (hends : EndsGet s e) : t.pollWaiters = [] := by
  cases hp with
  | kept _ hwaiters _ _ hnone =>
    rw [hwaiters]
    by_contra hne
    have hwaits := h.pending.mpr hne
    rw [hnone hends] at hwaits
    cases hwaits
  | registered _ _ _ _ hnot => exact absurd hends hnot
  | answered _ _ _ _ _ hwaiters => exact hwaiters
  | closed _ _ hwaiters => exact hwaiters

/-- A GET for polls is started while one is pending. -/
lemma pollPending_of_started (h : Rule env cfg s e t) (ht : t.worker = some (.sourceGet .poll))
    (hs : s.worker ≠ some (.sourceGet .poll)) : s.pollPending = true := by
  cases h with
  | pollStarted hw hc hq hdue hp => exact hp
  | closeBegun => exact absurd (frame_beginClose.1.symm.trans ht) hs
  | setPublisher | alreadyStarted | submitClosed | coalesced | refused | accepted | pollClosed
  | polled | callerCancelled | closeShared | shutdownTimedOut | joinFailed | clientClosed =>
    exact absurd ht hs
  | _ => cases ht

/-! ### The answer to a poll -/

/-- Nobody closes the runtime. -/
def StaysOpen (_ : Runtime ρ) (e : Event ρ) : Prop := e ≠ .close

/-- Nobody closes the runtime, and no source GET ends. -/
def Quiet (s : Runtime ρ) (e : Event ρ) : Prop := e ≠ .close ∧ ¬ EndsGet s e

/-- From `s` on, where the poll `f` was pending, no source GET has ended and it still is, or the
first that did has resolved it for good. -/
inductive Answered (env : Env) (cfg : Config) (s : Runtime ρ) (f : ℕ) (t : Runtime ρ) : Prop where
  | waits (hrun : Transition.Reaches (step env cfg) Quiet s t)
      (hpending : t.pollFutures f = .pending)
  | resolved (u u' : Runtime ρ) (reason : Reason) (r : ρ)
      (hrun : Transition.Reaches (step env cfg) Quiet s u)
      (hw : u.worker = some (.sourceGet reason)) (hst : step env cfg u (.reply r) = some u')
      (hrest : Transition.Reaches (step env cfg) StaysOpen u' t)
      (hresult : t.pollFutures f = .result (delivered env cfg u u' r))

lemma answered_of_reaches (h : Transition.Reachable (step env cfg) {} s)
    (hpending : s.pollFutures f = .pending)
    (ht : Transition.Reaches (step env cfg) StaysOpen s t) : Answered env cfg s f t := by
  refine ht.invariant (I := Answered env cfg s f) (.waits .refl hpending) ?_
  intro u v e hu hanswered hopen hst
  have hregistered := registered_of_reachable (h.trans hu.reachable)
  have hpolled : Polled env cfg u e v := polled_of_rule (.of_step hst)
  cases hanswered with
  | waits hrun hp =>
    have hwaits := Future.State.isPending_iff.mpr hp
    by_cases hends : EndsGet u e
    · obtain ⟨reason, r, hw, rfl⟩ := hends
      exact .resolved u v reason r hrun hw hst .refl
        (hregistered.answered_of_polled hpolled hwaits ⟨reason, r, hw, rfl⟩)
    · have hstill := hregistered.pending_of_polled hpolled hwaits hopen hends
      exact .waits (hrun.tail ⟨hopen, hends⟩ hst) (Future.State.isPending_iff.mp hstill)
  | resolved w w' reason r hrun hw hst' hrest hresult =>
    refine .resolved w w' reason r hrun hw hst' (hrest.tail hopen hst) ?_
    rw [hregistered.done_of_polled hpolled (by rw [hresult]; rfl), hresult]

/-! ### How many source GETs -/

/-- At most one source GET has been started since one ended, and if one has it is in flight, or it
was dropped by a forced shutdown. -/
structure OneGet (s : Runtime ρ) : Prop where
  entries : History.Each (fun o earlier => sourceStarts (o :: earlier) ≤ 1) (traffic s.log)
  inFlight : sourceStarts (traffic s.log) ≠ 0 →
    s.closing = true ∨ ∃ reason, s.worker = some (.sourceGet reason)

omit [Client ρ] in
lemma sourceStarts_le_one {log : List (Obs ρ)}
    (h : History.Each (fun o earlier => sourceStarts (o :: earlier) ≤ 1) log) :
    sourceStarts log ≤ 1 := by
  cases log with
  | nil => exact Nat.zero_le 1
  | cons o log => exact h.1

omit [Client ρ] in
/-- What ends is a source GET, or none was in flight. -/
lemma isSourceEnd_of_ends {o : Obs ρ} (h : Ends env s e o) : o.isSourceEnd = true ∨
    o.isSourceEnd = false ∧ o.isSourceStart = false ∧
      ∀ reason, s.worker ≠ some (.sourceGet reason) := by
  cases h with
  | source => exact .inl rfl
  | maintenance r time hw | volume job r time hw | set job first request r time hw =>
    exact .inr ⟨rfl, rfl, by simp [hw]⟩

lemma OneGet.step (h : OneGet s) (hr : Transition.Reachable (step env cfg) {} s)
    (hst : step env cfg s e = some t) : OneGet t := by
  have hrule := Rule.of_step hst
  have hclosing : s.closing = true → t.closing = true :=
    closing_of_rule hrule (closing_iff hr).mpr
  cases exchanged_of_rule hrule with
  | none htraffic hflight hkept =>
    refine ⟨htraffic ▸ h.entries, ?_⟩
    intro hne
    rcases h.inFlight (htraffic ▸ hne) with hc | ⟨reason, hw⟩
    · exact .inl (hclosing hc)
    · by_cases hct : s.closeTask = .cancellingWorker
      · exact .inl (hclosing ((closing_iff hr).mpr (by simp [hct])))
      · have hin : t.inExchange = true := (hkept hct).trans (inExchange_of_worker hw)
        exact .inr ⟨reason, (hflight hin).trans hw⟩
  | start call reads remaining hstarts hreads hlog hflight hget =>
    have hopen : s.closing = false := hstarts.closing_eq_false (.of_reachable hr)
    have hzero : sourceStarts (traffic s.log) = 0 := by
      by_contra hne
      rcases h.inFlight hne with hc | ⟨reason, hw⟩
      · rw [hopen] at hc
        cases hc
      · have hin := hstarts.not_inExchange
        rw [inExchange_of_worker hw] at hin
        cases hin
    have htraffic : traffic t.log = .started reads call remaining :: traffic s.log := by
      rw [hlog]
      exact traffic_cons rfl
    refine ⟨?_, ?_⟩
    · rw [htraffic]
      exact ⟨sourceStarts_cons_le.trans (Nat.succ_le_succ hzero.le), h.entries⟩
    · intro hne
      cases call with
      | sourceGet reason => exact .inr ⟨reason, hget reason rfl⟩
      | _ =>
        rw [htraffic] at hne
        exact absurd (by simp [sourceStarts, hzero, Obs.isSourceStart, Obs.isSourceEnd]) hne
  | finish o hends htraffic =>
    rcases isSourceEnd_of_ends hends with hend | ⟨hend, hstart, hnot⟩
    · have hzero : sourceStarts (o :: traffic s.log) = 0 := by simp [sourceStarts, hend]
      refine ⟨?_, ?_⟩
      · rw [htraffic]
        exact ⟨hzero.trans_le (Nat.zero_le 1), h.entries⟩
      · intro hne
        rw [htraffic] at hne
        exact absurd hzero hne
    · have hsame : sourceStarts (o :: traffic s.log) = sourceStarts (traffic s.log) := by
        simp [sourceStarts, hend, hstart]
      refine ⟨?_, ?_⟩
      · rw [htraffic]
        exact ⟨hsame.trans_le (sourceStarts_le_one h.entries), h.entries⟩
      · intro hne
        rw [htraffic, hsame] at hne
        rcases h.inFlight hne with hc | ⟨reason, hw⟩
        · exact .inl (hclosing hc)
        · exact absurd hw (hnot reason)

lemma oneGet_of_reachable (h : Transition.Reachable (step env cfg) {} s) : OneGet s := by
  refine h.invariant (I := OneGet) ⟨trivial, fun hne => absurd rfl hne⟩ ?_
  intro s t e hr hs _ hst
  exact hs.step hr hst

omit [Client ρ] in
/-- Between two ends of source GETs only one is started. -/
lemma OneGet.countP_le (h : OneGet s) {later between earlier : List (Obs ρ)}
    (hlog : s.log = later ++ between ++ earlier) (hnone : ∀ o ∈ between, o.isSourceEnd = false) :
    between.countP Obs.isSourceStart ≤ 1 := by
  have htraffic : traffic s.log = traffic later ++ traffic (between ++ earlier) := by
    rw [hlog, List.append_assoc, traffic, List.filter_append]
    rfl
  have heach := h.entries
  rw [htraffic] at heach
  have hone := sourceStarts_le_one heach.of_append
  rw [sourceStarts_traffic] at hone
  exact (countP_le_sourceStarts hnone).trans hone

/-! ### The runtime with the callers of `async_poll` -/

/-- A step of the runtime, or of the callers of `async_poll` behind their shields. -/
def stepPollers (env : Env) (cfg : Config) :=
  Shield.step (step (ρ := ρ) env cfg) Runtime.pollFutures

/-- In every run the pending flag and the list of waiters go together. A poll registers its future;
the first source GET that ends resolves it, whatever was asked for and however it ends, and nothing
else does; GETs for polls are started for somebody who waits, and no end of a source GET leaves
anybody waiting. Between two ends only one source GET is started, however many polls there are.
Every caller gets what its future has; and without the cancellations of one caller the run takes
the runtime to the same state, and all other callers get the same. -/
theorem polls_served_once {events : List (Shield.Event (Event ρ))}
    {u : Shield.State (Runtime ρ) RuntimeSnapshot ControlError}
    (h : Transition.run (stepPollers env cfg) events { base := {} } = some u) :
    (u.base.pollPending = true ↔ u.base.pollWaiters ≠ []) ∧
    (∀ t, u.base.closing = false → step env cfg u.base .poll = some t →
      t.pollFutures u.base.pollFutureCount = .pending) ∧
    (∀ f t, u.base.pollFutures f = .pending →
      Transition.Reaches (step env cfg) StaysOpen u.base t → Answered env cfg u.base f t) ∧
    (∀ e t, step env cfg u.base e = some t →
      (t.worker = some (.sourceGet .poll) → u.base.worker ≠ some (.sourceGet .poll) →
        u.base.pollWaiters ≠ []) ∧
      (EndsGet u.base e → t.pollWaiters = [])) ∧
    (∀ later between earlier, u.base.log = later ++ between ++ earlier →
      (∀ o ∈ between, o.isSourceEnd = false) → between.countP Obs.isSourceStart ≤ 1) ∧
    (∀ f, Shield.Faithful Runtime.pollFutures u f) ∧
    ∀ f, ∃ v, Transition.run (stepPollers env cfg) (Shield.without f events) { base := {} } =
        some v ∧ v.base = u.base ∧ ∀ g ≠ f, v.outer g = u.outer g := by
  have hu := Transition.reachable_of_run h
  have hr : Transition.Reachable (step env cfg) {} u.base := Shield.reachable_base hu
  have hregistered := registered_of_reachable hr
  refine ⟨hregistered.pending, ?_, fun f t => answered_of_reaches hr, ?_, ?_, ?_, ?_⟩
  · intro t hopen hst
    cases Rule.of_step hst with
    | pollClosed hi hc =>
      rw [hopen] at hc
      cases hc
    | polled => simp [addPoll]
  · intro e t hst
    have hrule := Rule.of_step hst
    refine ⟨?_, hregistered.waiters_eq_nil (polled_of_rule hrule)⟩
    intro ht hs
    exact hregistered.pending.mp (pollPending_of_started hrule ht hs)
  · intro later between earlier hlog hnone
    exact (oneGet_of_reachable hr).countP_le hlog hnone
  · refine Shield.faithful_of_reachable ?_ hu
    intro s t e hr hst f hdone
    have hrule := Rule.of_step hst
    exact (registered_of_reachable hr).done_of_polled (polled_of_rule hrule) hdone
  · intro f
    exact Shield.exists_run_without f h

/-- Two polls while the first GET is in flight; the caller of one is cancelled, and the other gets
the answer as it does when nobody is cancelled. -/
theorem polls_served_once_cancelled :
    ∃ u v : Shield.State (Runtime Transcript) RuntimeSnapshot ControlError,
      Transition.run (stepPollers .ticking .ofOptions) [.base .start, .base .run, .base .run,
        .base .poll, .base .poll, .base (.reply (Transcript.source 0x0B)), .deliver 0, .deliver 2]
        { base := {} } = some v ∧
      u.outer 1 = .cancelled ∧ u.outer 2 = .result u.base.snapshot ∧
      v.base = u.base ∧ v.outer 2 = .result u.base.snapshot ∧
      u.base.log.countP Obs.isSourceStart = 1 ∧ u.base.pollWaiters = [] := by
  have hrun : (Transition.run (stepPollers .ticking .ofOptions) [.base .start, .base .run,
      .base .run, .base .poll, .base .poll, .cancel 1, .base (.reply (Transcript.source 0x0B)),
      .deliver 0, .deliver 2]
      ({ base := {} } : Shield.State (Runtime Transcript) RuntimeSnapshot ControlError)).any
      (fun u => u.outer 1 = .cancelled ∧ u.outer 2 = .result u.base.snapshot ∧
        u.base.log.countP Obs.isSourceStart = 1 ∧ u.base.pollPending = false) = true := by
    decide +kernel
  obtain ⟨u, hu, hu'⟩ := (Option.any_eq_true _ _).mp hrun
  obtain ⟨hcancelled, hanswered, hone, hpending⟩ := of_decide_eq_true hu'
  obtain ⟨hflag, -, -, -, -, -, hwithout⟩ := polls_served_once hu
  obtain ⟨v, hv, hbase, hothers⟩ := hwithout 1
  have hnobody : u.base.pollWaiters = [] := by
    by_contra hne
    rw [hflag.mpr hne] at hpending
    cases hpending
  exact ⟨u, v, hv, hcancelled, hanswered, hbase, (hothers 2 (by decide)).trans hanswered, hone,
    hnobody⟩

end Runtime

end KefLsx
