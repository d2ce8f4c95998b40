import KefLsx.Client.Connection
import KefLsx.Core.Table
import KefLsx.Core.Transition

/-!
# One connection at a time

The speaker takes one connection at a time, so the client closes a connection before it releases
the lock. A transport whose write buffer is empty is closed at once; one with unsent bytes stays
open until the socket has taken them. A cancellation that arrives while a caller waits for that
releases the lock at once: the connection is then neither closed nor aborted, where the passing of
the close timeout would have aborted it. In the runs without such a cancellation there is one
connection at a time.
-/

namespace KefLsx

namespace LsxClient

variable {reconnectDelay : ℕ} {s t : State} {e : Event} {k : ℕ}

/-- The event cancels a caller that waits for a connection with unsent bytes to close. -/
def State.interruptsClose (s : State) : Event → Bool
  | .cancel caller =>
    match s.callers caller with
    | .closing _ writer _ => s.connections[writer]?.any Connection.hasUnsent
    | _ => false
  | _ => false

/-- `writer.close()` has been called on the connection that a caller waits for. -/
def Shut (s : State) : Prop :=
  ∀ k call w outcome, s.callers k = .closing call w outcome →
    ∀ unsent, s.connections[w]? ≠ some (.established unsent)

lemma established_of_modify {l : List Connection} {f : Connection → Connection} {w i : ℕ}
    {unsent : Bool} (hf : ∀ c, f c = .established unsent → ∃ unsent', c = .established unsent')
    (h : (l.modify w f)[i]? = some (.established unsent)) :
    ∃ unsent', l[i]? = some (.established unsent') := by
  obtain ⟨c, hc, ⟨-, heq⟩ | ⟨-, rfl⟩⟩ := Table.of_modify h
  · obtain ⟨unsent', rfl⟩ := hf c heq.symm
    exact ⟨unsent', hc⟩
  · exact ⟨unsent, hc⟩

/-- A caller goes on to a phase in which it does not wait, or has closed what it waits for. -/
lemma Shut.of_update (h : Shut s) {phase : Phase}
    (hcallers : t.callers = Function.update s.callers k phase)
    (hconnections : ∀ (w : ℕ) (unsent : Bool), t.connections[w]? = some (.established unsent) →
      ∃ unsent', s.connections[w]? = some (.established unsent'))
    (hphase : ∀ call w outcome, phase = .closing call w outcome →
      ∀ unsent, t.connections[w]? ≠ some (.established unsent)) : Shut t := by
  intro j call w outcome hj unsent hw
  rw [hcallers] at hj
  rcases eq_or_ne j k with rfl | hne
  · rw [Function.update_self] at hj
    exact hphase call w outcome hj unsent hw
  · rw [Function.update_of_ne hne] at hj
    obtain ⟨unsent', hw'⟩ := hconnections w unsent hw
    exact h j call w outcome hj unsent' hw'

lemma Shut.modify (h : Shut s) {f : Connection → Connection} {w : ℕ}
    (hf : ∀ c unsent, f c = .established unsent → ∃ unsent', c = .established unsent') :
    Shut { s with connections := s.connections.modify w f } := by
  intro j call w' outcome hj unsent hw
  obtain ⟨unsent', hw'⟩ := established_of_modify (fun c => hf c unsent) hw
  exact h j call w' outcome hj unsent' hw'

lemma Shut.closeWriter (h : Shut s) (call : Call) (w : ℕ) (outcome : Outcome) :
    Shut (s.closeWriter k call w outcome) := by
  have hclose (c : Connection) (unsent : Bool) : c.close ≠ .established unsent := by
    rcases c with (_ | _) | _ | _ | _ <;> rintro ⟨⟩
  refine h.of_update rfl ?_ ?_
  · exact fun w unsent => established_of_modify fun c heq => absurd heq (hclose c unsent)
  · intro call' w' outcome' heq unsent hw
    cases heq
    obtain ⟨c, -, ⟨-, heq⟩ | ⟨hne, -⟩⟩ := Table.of_modify hw
    · exact hclose c unsent heq.symm
    · exact hne rfl

lemma Shut.closedWriter (h : Shut s) (call : Call) (outcome : Outcome) :
    Shut (s.closedWriter k reconnectDelay call outcome) := by
  rw [State.closedWriter]
  split
  · exact h.of_update rfl (fun _ unsent hw => ⟨unsent, hw⟩) (by rintro _ _ _ ⟨⟩)
  · exact h.of_update rfl (fun _ unsent hw => ⟨unsent, hw⟩) (by rintro _ _ _ ⟨⟩)

/-- One step keeps what is waited for closed. -/
lemma Shut.step (h : Shut s) (hs : Exclusive s) (hst : step reconnectDelay s e = some t) :
    Shut t := by
  have hmoves {t : State} {k : ℕ} {phase : Phase}
      (hcallers : t.callers = Function.update s.callers k phase)
      (hconnections : t.connections = s.connections)
      (hphase : ∀ call w outcome, phase ≠ .closing call w outcome) : Shut t := by
    refine h.of_update hcallers (fun w unsent hw => ⟨unsent, hconnections ▸ hw⟩) ?_
    exact fun call w outcome heq => absurd heq (hphase call w outcome)
  cases Rule.of_step hst with
  | @connected k r sent hk =>
    intro j call w outcome hj
    have hlock : (s.callers k).holdsLock = true := (congrArg Phase.holdsLock hk).trans rfl
    have hupdate : Function.update s.callers k (.draining r s.connections.length) j =
        .closing call w outcome := hj
    rcases eq_or_ne j k with rfl | hne
    · rw [Function.update_self] at hupdate
      cases hupdate
    · rw [Function.update_of_ne hne] at hupdate
      -- nobody else is inside while a connection is attempted
      have hinside : (s.callers j).holdsLock = true :=
        (congrArg Phase.holdsLock hupdate).trans rfl
      exact absurd (hs.guards.eq hinside hlock) hne
  | goesOn hgoes =>
    refine hmoves rfl rfl ?_
    rintro call w outcome rfl
    obtain ⟨_, -, hafter⟩ := hgoes.active
    cases hafter
  | closesActive => exact Shut.closeWriter (s := { s with closed := _ }) h _ _ _
  | leaves => exact Shut.closeWriter (s := { s with activeWriter := _ }) h _ _ _
  | waited => exact h.closedWriter _ _
  | closeTimeout =>
    apply Shut.closedWriter
    exact h.modify fun c unsent heq => by cases c <;> cases heq
  | flushed =>
    refine h.modify fun c unsent heq => ?_
    cases c with
    | established unsent' => exact ⟨unsent', rfl⟩
    | _ => cases heq
  | lost => exact h.modify fun c unsent heq => by cases c <;> cases heq
  | _ => exact hmoves rfl rfl nofun

lemma shut_of_reachable (h : Transition.Reachable (LsxClient.step reconnectDelay) {} s) :
    Shut s := by
  refine h.invariant (I := Shut) (fun _ _ _ _ hk => by cases hk) ?_
  intro s t e hr hs _ hst
  exact hs.step (exclusive_of_reachable hr) hst

/-- A connection that is not finished belongs to a caller. -/
def Covered (s : State) : Prop :=
  ∀ w c, s.connections[w]? = some c → c.isFinished = false → ∃ k, (s.callers k).owned = some w

/-- No connection gets unfinished. -/
lemma unfinished_of_modify {l : List Connection} {f : Connection → Connection} {w i : ℕ}
    {c : Connection} (hf : ∀ c, (f c).isFinished = false → c.isFinished = false)
    (h : (l.modify w f)[i]? = some c) (hc : c.isFinished = false) :
    ∃ c', l[i]? = some c' ∧ c'.isFinished = false := by
  obtain ⟨c', hc', ⟨-, rfl⟩ | ⟨-, rfl⟩⟩ := Table.of_modify h
  · exact ⟨c', hc', hf c' hc⟩
  · exact ⟨c, hc', hc⟩

/-- A caller goes on: of the unfinished connections, the new one and the one that it had are now
its own, if they are still unfinished. -/
lemma Covered.of_update (h : Covered s) {phase : Phase}
    (hcallers : t.callers = Function.update s.callers k phase)
    (hconnections : ∀ w c, t.connections[w]? = some c → c.isFinished = false →
      phase.owned = some w ∨
        (∃ c', s.connections[w]? = some c' ∧ c'.isFinished = false) ∧
          (s.callers k).owned ≠ some w) : Covered t := by
  intro w c hw hc
  rw [hcallers]
  rcases hconnections w c hw hc with hphase | ⟨⟨c', hw', hc'⟩, hother⟩
  · exact ⟨k, by rwa [Function.update_self]⟩
  · obtain ⟨j, hj⟩ := h w c' hw' hc'
    have hne : j ≠ k := by
      rintro rfl
      exact hother hj
    exact ⟨j, by rwa [Function.update_of_ne hne]⟩

/-- A caller keeps its connection, or has none that is unfinished. -/
lemma Covered.goesTo (h : Covered s) {phase : Phase}
    (howned : ∀ w c, (s.callers k).owned = some w → s.connections[w]? = some c →
      c.isFinished = false → phase.owned = some w) : Covered (s.goesTo k phase) := by
  refine h.of_update rfl ?_
  intro w c hw hc
  by_cases hk : (s.callers k).owned = some w
  · exact .inl (howned w c hk hw hc)
  · exact .inr ⟨⟨c, hw, hc⟩, hk⟩

lemma Covered.lock (h : Covered s) (exchangeLock activeWriter : Option ℕ) (closed : Bool) :
    Covered { s with
      exchangeLock := exchangeLock, activeWriter := activeWriter, closed := closed } := h

/-- A caller with an unfinished connection closes it. -/
lemma Covered.closeWriter (h : Covered s) {w : ℕ} (hk : (s.callers k).owned = some w)
    (call : Call) (outcome : Outcome) : Covered (s.closeWriter k call w outcome) := by
  refine h.of_update rfl ?_
  intro i c hi hc
  rcases eq_or_ne i w with rfl | hne
  · exact .inl rfl
  · have hbefore := unfinished_of_modify (fun _ => Connection.isFinished_of_close) hi hc
    exact .inr ⟨hbefore, by simpa [hk] using hne.symm⟩

lemma Covered.closedWriter (h : Covered s) {call : Call} {outcome : Outcome}
    (hfinished : ∀ w c, (s.callers k).owned = some w → s.connections[w]? = some c →
      c.isFinished = true) : Covered (s.closedWriter k reconnectDelay call outcome) := by
  have hnone : ∀ {phase : Phase}, Covered (s.goesTo k phase) := by
    intro phase
    refine h.goesTo fun w c hk hw hc => ?_
    rw [hfinished w c hk hw] at hc
    cases hc
  rw [State.closedWriter]
  split
  · exact hnone
  · exact hnone.lock none _ _

/-- The close timeout aborts the connection of the caller. -/
lemma Covered.abort (h : Covered s) {call : Call} {w : ℕ} {outcome : Outcome}
    (hk : s.callers k = .closing call w outcome) :
    Covered ({ s with connections := s.connections.modify w Connection.abort }.closedWriter k
      reconnectDelay call outcome) := by
  have haborted : ∀ c, (s.connections.modify w Connection.abort)[w]? = some c →
      c.isFinished = true := by
    intro c hc
    obtain ⟨c', -, ⟨-, rfl⟩ | ⟨hne, -⟩⟩ := Table.of_modify hc
    · exact c'.isFinished_abort
    · exact absurd rfl hne
  apply Covered.closedWriter
  · intro i c hi hc
    obtain ⟨c', hc', hunfinished⟩ :=
      unfinished_of_modify (f := Connection.abort) (fun c => by simp [c.isFinished_abort]) hi hc
    exact h i c' hc' hunfinished
  · intro i c hi hc
    have howned : (s.callers k).owned = some w := by rw [hk]; rfl
    obtain rfl : w = i := Option.some.inj (howned.symm.trans hi)
    exact haborted c hc

/-- One step leaves no connection without a caller, if it does not interrupt a close. -/
lemma Covered.step (h : Covered s) (hs : Exclusive s) (hshut : Shut s)
    (hok : s.interruptsClose e = false) (hst : step reconnectDelay s e = some t) : Covered t := by
  have hnone : ∀ {k : ℕ} {phase : Phase}, (s.callers k).owned = none →
      Covered (s.goesTo k phase) := by
    intro k phase hk
    refine h.goesTo fun w c hw => ?_
    rw [hk] at hw
    cases hw
  cases Rule.of_step hst with
  | called hk | withdrawn hk | refused hk _ | closedAgain hk _ =>
    apply hnone
    rw [hk]
    rfl
  | connects hk hl hc =>
    apply Covered.lock
    apply hnone
    rw [hk]
    rfl
  | closes hk hl =>
    apply Covered.lock
    apply hnone
    rw [hk]
    rfl
  | closesActive hk hl ha =>
    rw [hs.activeWriter_of_free hl] at ha
    cases ha
  | connected hk =>
    refine h.of_update rfl fun w c hw hc => ?_
    rcases Table.of_concat hw with hold | ⟨rfl, -⟩
    · exact .inr ⟨⟨c, hold, hc⟩, by rw [hk]; exact (Option.some_ne_none w).symm⟩
    · exact .inl rfl
  | connectFailed hk | cancelConnect hk | delayed hk | cancelDelay hk =>
    apply Covered.lock
    apply hnone
    rw [hk]
    rfl
  | cancelClose hk =>
    apply Covered.lock
    refine h.goesTo fun i c hi hc hunfinished => ?_
    rw [hk] at hi
    obtain rfl := Option.some.inj hi
    cases c with
    | established unsent => exact absurd hc (hshut _ _ _ _ hk unsent)
    | closing => simp [State.interruptsClose, hk, hc, Connection.hasUnsent] at hok
    | _ => cases hunfinished
  | goesOn hgoes =>
    obtain ⟨w, hbefore, hafter⟩ := hgoes.active
    refine h.goesTo fun i c hi _ _ => ?_
    rw [Phase.owned_of_active hbefore] at hi
    rw [Phase.owned_of_active hafter, hi]
  | leaves hleaves =>
    exact (h.lock _ _ _).closeWriter (Phase.owned_of_active hleaves.active) _ _
  | waited hk hw =>
    refine h.closedWriter fun i c hi hc => ?_
    rw [hk] at hi
    obtain rfl := Option.some.inj hi
    simpa [hc] using hw
  | closeTimeout hk => exact h.abort hk
  | flushed =>
    intro i c hi hc
    obtain ⟨c', hc', hunfinished⟩ :=
      unfinished_of_modify (fun _ => Connection.isFinished_of_flush) hi hc
    exact h i c' hc' hunfinished
  | lost =>
    intro i c hi hc
    obtain ⟨c', hc', hunfinished⟩ :=
      unfinished_of_modify (f := Connection.lose) (fun c => by simp [c.isFinished_lose]) hi hc
    exact h i c' hc' hunfinished

/-- What the client promises of its connections in a state. -/
structure OneAtATime (reconnectDelay : ℕ) (s : State) : Prop where
  /-- While a connection is attempted, all the earlier ones are closed or aborted. -/
  attempt : ∀ k, (s.callers k).isConnecting = true → ∀ c ∈ s.connections, c.isFinished = true
  /-- On a closed client no connection is attempted. -/
  quiet : s.closed = true → ∀ k, (s.callers k).isConnecting = false
  /-- On a closed client no connection is opened. -/
  unopened : s.closed = true → ∀ e t, step reconnectDelay s e = some t →
    t.closed = true ∧ t.connections.length = s.connections.length
  /-- Nobody is active while the lock is free. -/
  free : s.exchangeLock = none → s.activeWriter = none

/-- A closed client stays so, and opens nothing. -/
lemma Exclusive.unopened (h : Exclusive s) (hc : s.closed = true)
    (hst : LsxClient.step reconnectDelay s e = some t) :
    t.closed = true ∧ t.connections.length = s.connections.length := by
  cases Rule.of_step hst with
  | connects _ _ hopen =>
    rw [hc] at hopen
    cases hopen
  | closesActive hk hl ha =>
    rw [h.activeWriter_of_free hl] at ha
    cases ha
  | @connected k _ _ hk =>
    have hquiet := h.quiet hc k
    rw [hk] at hquiet
    cases hquiet
  | leaves => exact ⟨hc, List.length_modify ..⟩
  | waited => rwa [State.closed_closedWriter, State.connections_closedWriter, and_iff_left rfl]
  | closeTimeout =>
    rw [State.closed_closedWriter, State.connections_closedWriter]
    exact ⟨hc, List.length_modify ..⟩
  | flushed | lost => exact ⟨hc, List.length_modify ..⟩
  | closes => exact ⟨rfl, rfl⟩
  | _ => exact ⟨hc, rfl⟩

/-- Whatever is cancelled and when, nothing is opened once the client is closed, and nobody is
active while the lock is free. -/
theorem quiet_of_reachable (h : Transition.Reachable (LsxClient.step reconnectDelay) {} s) :
    (s.closed = true → (∀ k, (s.callers k).isConnecting = false) ∧
      ∀ e t, LsxClient.step reconnectDelay s e = some t →
        t.closed = true ∧ t.connections.length = s.connections.length) ∧
    (s.exchangeLock = none → s.activeWriter = none) := by
  have hs := exclusive_of_reachable h
  refine ⟨fun hc => ⟨fun k => ?_, fun e t hst => hs.unopened hc hst⟩, hs.activeWriter_of_free⟩
  refine Bool.eq_false_iff.mpr fun hk => ?_
  have hlock := (Phase.holdsLock_of_isConnecting hk).1
  rw [hs.quiet hc k] at hlock
  cases hlock

/-- There is one connection at a time, in the runs in which nobody is cancelled that waits for a
connection with unsent bytes to close. -/
lemma oneAtATime_of_uninterrupted
    (h : Transition.Reaches (LsxClient.step reconnectDelay)
      (fun s e => s.interruptsClose e = false) {} s) : OneAtATime reconnectDelay s := by
  have hs := exclusive_of_reachable h.reachable
  have hcovered : Covered s := by
    refine h.invariant (I := Covered) (fun w c hw => by cases hw) ?_
    intro s t e hr hs hok hst
    exact hs.step (exclusive_of_reachable hr.reachable) (shut_of_reachable hr.reachable) hok hst
  obtain ⟨hclosed, hfree⟩ := quiet_of_reachable h.reachable
  refine ⟨?_, fun hc => (hclosed hc).1, fun hc => (hclosed hc).2, hfree⟩
  intro k hk c hc
  by_contra hunfinished
  obtain ⟨w, hw⟩ := List.mem_iff_getElem?.mp hc
  obtain ⟨j, hj⟩ := hcovered w c hw (by simpa using hunfinished)
  obtain ⟨hlock, hnone⟩ := Phase.holdsLock_of_isConnecting hk
  obtain rfl := hs.guards.eq hlock (Phase.holdsLock_of_owned hj)
  rw [hnone] at hj
  cases hj

/-- A step moves one caller. -/
lemma Rule.callers (h : Rule reconnectDelay s e t) :
    ∃ k phase, t.callers = Function.update s.callers k phase := by
  cases h with
  | waited => exact ⟨_, State.callers_closedWriter _ _ _ _ _⟩
  | closeTimeout => exact ⟨_, State.callers_closedWriter _ _ _ _ _⟩
  | flushed | lost => exact ⟨0, _, (Function.update_eq_self 0 s.callers).symm⟩
  | _ => exact ⟨_, _, rfl⟩

/-- There is always a caller that has not called yet. -/
lemma idle_of_reachable (h : Transition.Reachable (LsxClient.step reconnectDelay) {} s) :
    ∃ n, ∀ k, n ≤ k → s.callers k = .idle := by
  refine h.invariant (I := fun s => ∃ n, ∀ k, n ≤ k → s.callers k = .idle)
    ⟨0, fun _ _ => rfl⟩ ?_
  rintro s t e _ ⟨n, hn⟩ _ hst
  obtain ⟨j, phase, hcallers⟩ := (Rule.of_step hst).callers
  refine ⟨max n (j + 1), fun k hk => ?_⟩
  rw [hcallers, Function.update_of_ne (by omega)]
  exact hn k (le_of_max_le_left hk)

/-- After every such cancellation a connection may be attempted at once, while the one before is
not finished. -/
lemma not_oneAtATime_of_interruptsClose
    (h : Transition.Reachable (LsxClient.step reconnectDelay) {} s)
    (hbad : s.interruptsClose e = true) (hst : LsxClient.step reconnectDelay s e = some t) :
    ∃ u, Transition.Reachable (LsxClient.step reconnectDelay) t u ∧
      ¬ OneAtATime reconnectDelay u := by
  have hs := exclusive_of_reachable h
  have ht : Transition.Reachable (LsxClient.step reconnectDelay) {} t := h.tail trivial hst
  obtain ⟨n, hn⟩ := idle_of_reachable ht
  unfold State.interruptsClose at hbad
  split at hbad
  · rename_i k
    split at hbad
    · rename_i call w outcome hk
      obtain ⟨c, hc, hunsent⟩ : ∃ c, s.connections[w]? = some c ∧ c.hasUnsent = true := by
        simpa [Option.any_eq_true] using hbad
      have hunfinished := Connection.isFinished_of_hasUnsent hunsent
      have hopen : s.closed = false := by
        refine Bool.eq_false_iff.mpr fun hclosed => ?_
        have hlock := hs.quiet hclosed k
        rw [hk] at hlock
        cases hlock
      obtain rfl : s.release k call .cancelled = t := by
        simpa [LsxClient.step, cancelled, hk] using hst
      let called := (s.release k call .cancelled).goesTo n (.acquiring (.exchange none))
      let u : State := { called.goesTo n (.connecting none) with exchangeLock := some n }
      have hcalled : LsxClient.step reconnectDelay (s.release k call .cancelled)
          (.call n (.exchange none)) = some called := by
        simp [LsxClient.step, hn n le_rfl, called]
      have hacquired : LsxClient.step reconnectDelay called (.acquired n) = some u := by
        have hphase : called.callers n = .acquiring (.exchange none) := Function.update_self ..
        have hfree : called.exchangeLock = none := rfl
        have hclosed : called.closed = false := hopen
        simp [LsxClient.step, hphase, hfree, acquire, hclosed, u]
      refine ⟨u, (Transition.Reaches.refl.tail trivial hcalled).tail trivial hacquired, ?_⟩
      intro hone
      have hconnecting : (u.callers n).isConnecting = true := by
        simp [u, State.goesTo, Phase.isConnecting]
      have hfinished := hone.attempt n hconnecting c (List.mem_of_getElem? hc)
      rw [hunfinished] at hfinished
      cases hfinished
    · cases hbad
  · cases hbad

/-- The socket does not take the whole request at once. -/
def Event.buffers : Event → Bool
  | .connected _ sent => !sent
  | _ => false

/-- Where the socket takes every request at once, no transport ever has unsent bytes. -/
lemma hasUnsent_of_reaches
    (h : Transition.Reaches (step reconnectDelay) (fun _ e => e.buffers = false) {} s) :
    ∀ c ∈ s.connections, c.hasUnsent = false := by
  refine h.invariant (I := fun s => ∀ c ∈ s.connections, c.hasUnsent = false)
    (fun _ hc => absurd hc List.not_mem_nil) ?_
  intro s t e _ hs hok hst
  have hmodify {f : Connection → Connection} {w : ℕ}
      (hf : ∀ c, c.hasUnsent = false → (f c).hasUnsent = false) :
      ∀ c ∈ s.connections.modify w f, c.hasUnsent = false := by
    intro c hc
    obtain ⟨i, hi⟩ := List.mem_iff_getElem?.mp hc
    obtain ⟨c', hc', ⟨-, rfl⟩ | ⟨-, rfl⟩⟩ := Table.of_modify hi
    · exact hf c' (hs c' (List.mem_of_getElem? hc'))
    · exact hs c (List.mem_of_getElem? hc')
  have hclose (c : Connection) (hc : c.hasUnsent = false) : c.close.hasUnsent = false := by
    rcases c with (_ | _) | _ | _ | _
    · rfl
    all_goals exact hc
  cases Rule.of_step hst with
  | @connected k r sent hk =>
    intro c hc
    rcases List.mem_append.mp hc with hold | hnew
    · exact hs c hold
    · rw [List.mem_singleton.mp hnew]
      exact hok
  | closesActive | leaves => exact hmodify hclose
  | waited =>
    rw [State.connections_closedWriter]
    exact hs
  | closeTimeout =>
    rw [State.connections_closedWriter]
    exact hmodify fun c _ => by cases c <;> rfl
  | flushed => exact hmodify fun c _ => by cases c <;> rfl
  | lost => exact hmodify fun c _ => by cases c <;> rfl
  | _ => exact hs

/-- So no cancellation meets one. -/
lemma interruptsClose_of_reaches
    (h : Transition.Reaches (step reconnectDelay) (fun _ e => e.buffers = false) {} s) (e : Event) :
    s.interruptsClose e = false := by
  unfold State.interruptsClose
  split
  · split
    · rename_i writer _ _
      cases hc : s.connections[writer]? with
      | none => rfl
      | some c => exact hasUnsent_of_reaches h c (List.mem_of_getElem? hc)
    · rfl
  · rfl

/-- There is one connection at a time in the runs in which nobody is cancelled that waits for a
connection with unsent bytes to close, and only there. Where the socket takes every request at once,
there are no others. -/
theorem one_connection (reconnectDelay : ℕ) :
    (∀ s, Transition.Reaches (step reconnectDelay) (fun s e => s.interruptsClose e = false) {} s →
      OneAtATime reconnectDelay s) ∧
    (∀ s t e, Transition.Reachable (step reconnectDelay) {} s → s.interruptsClose e = true →
      step reconnectDelay s e = some t →
      ∃ u, Transition.Reachable (step reconnectDelay) t u ∧ ¬ OneAtATime reconnectDelay u) ∧
    ∀ s e, Transition.Reaches (step reconnectDelay) (fun _ e => e.buffers = false) {} s →
      s.interruptsClose e = false :=
  ⟨fun _ h => oneAtATime_of_uninterrupted h,
    fun _ _ _ h hbad hst => not_oneAtATime_of_interruptsClose h hbad hst,
    fun _ e h => interruptsClose_of_reaches h e⟩

/-- Two callers, of whom the first one has a request that the socket does not take, until the
response deadline passes. -/
def stalled : List Event :=
  [.call 0 (.exchange (some Wire.sourceRegister)), .call 1 (.exchange none), .acquired 0,
    .connected 0 false, .drained 0, .ended 0 .deadline]

/-- The second caller connects after the connection of the first one has been closed. -/
theorem one_connection_second : ∃ s : State,
    (s.callers 1).isConnecting = true ∧ s.connections = [.closed] ∧ OneAtATime 200 s := by
  have hrun : (Transition.run (Transition.guarded (step 200) fun s e => !s.interruptsClose e)
      (stalled ++ [.flushed 0, .waited 0, .delayed 0, .acquired 1]) {}).any
      (fun s => (s.callers 1).isConnecting && s.connections = [.closed]) = true := by
    decide +kernel
  obtain ⟨s, hs, hstate⟩ := Transition.exists_reachable_of_run hrun
  rw [Bool.and_eq_true, decide_eq_true_eq] at hstate
  refine ⟨s, hstate.1, hstate.2, (one_connection 200).1 s ?_⟩
  exact (Transition.Reaches.of_guarded hs).mono fun s e hok => by simpa using hok

/-- The first caller is cancelled while it waits for its connection to close: the second one
connects before the transport has sent what it holds. -/
theorem not_one_connection_interrupted : ∃ s : State,
    Transition.Reachable (step 200) {} s ∧ (s.callers 1).isConnecting = true ∧
    s.connections = [.closing] ∧ ¬ OneAtATime 200 s := by
  have hrun : (Transition.run (step 200) (stalled ++ [.cancel 0, .acquired 1]) {}).any
      (fun s => (s.callers 1).isConnecting && s.connections = [.closing]) = true := by
    decide +kernel
  obtain ⟨s, hs, hstate⟩ := Transition.exists_reachable_of_run hrun
  rw [Bool.and_eq_true, decide_eq_true_eq] at hstate
  obtain ⟨hconnecting, hconnections⟩ := hstate
  refine ⟨s, hs, hconnecting, hconnections, fun h => ?_⟩
  have hfinished := h.attempt 1 hconnecting .closing (by simp [hconnections])
  cases hfinished

end LsxClient

end KefLsx
