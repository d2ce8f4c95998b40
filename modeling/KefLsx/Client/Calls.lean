import KefLsx.Client.Bounds

/-!
# What becomes of a call

Every call on a client, of whatever many that run at once and may be cancelled, is an exchange on
its own: how it ends is what `exchange` makes of the bytes that this call has read. It takes a
bounded number of steps. And it never depends on anybody else: the time limits alone bring every
call to its end.
-/

namespace KefLsx

namespace LsxClient

/-! ### The steps of a caller -/

/-- The caller that takes this step. -/
def Event.caller? : Event → Option ℕ
  | .call k _ | .acquired k | .connected k _ | .connectFailed k _ | .drained k | .read k _
  | .ended k _ | .waited k | .closeTimeout k | .delayed k | .cancel k => some k
  | .flushed _ | .lost _ => none

/-- What an event gives a caller to read. -/
def Event.readBy (k : ℕ) : Event → Option (List UInt8)
  | .read caller chunk => if caller = k then some chunk else none
  | _ => none

/-- The reads of a caller among these events. -/
def readsOf (k : ℕ) (events : List Event) : List (List UInt8) := events.filterMap (Event.readBy k)

/-- How many of these steps a caller takes. -/
def stepsOf (k : ℕ) (events : List Event) : ℕ := events.countP fun e => e.caller? = some k

/-- How a caller goes on with a step of its own. -/
inductive Moves (k : ℕ) : Event → Phase → Phase → Prop where
  | called (call : Call) : Moves k (.call k call) .idle (.acquiring call)
  | withdrawn (call : Call) : Moves k (.cancel k) (.acquiring call) (.finished call .cancelled)
  | refused (r : Option UInt8) : Moves k (.acquired k) (.acquiring (.exchange r))
      (.finished (.exchange r) (.raised clientClosed))
  | connects (r : Option UInt8) : Moves k (.acquired k) (.acquiring (.exchange r)) (.connecting r)
  | closed : Moves k (.acquired k) (.acquiring .close) (.finished .close (.returned none))
  | closes (w : ℕ) : Moves k (.acquired k) (.acquiring .close)
      (.closing .close w (.returned none))
  | connected (r : Option UInt8) (w : ℕ) (sent : Bool) :
      Moves k (.connected k sent) (.connecting r) (.draining r w)
  | connectFailed (r : Option UInt8) (failure : ConnectFailure) :
      Moves k (.connectFailed k failure) (.connecting r) (.finished (.exchange r)
        (.raised { connectError failure with writeAttempted := false }))
  | cancelConnect (r : Option UInt8) :
      Moves k (.cancel k) (.connecting r) (.finished (.exchange r) .cancelled)
  | goesOn (e : Event) (phase phase' : Phase) (h : GoesOn k e phase phase') :
      Moves k e phase phase'
  | leaves (e : Event) (phase : Phase) (r : Option UInt8) (w : ℕ) (outcome : Outcome)
      (h : Leaves k e phase r w outcome) : Moves k e phase (.closing (.exchange r) w outcome)
  | writerClosed (e : Event) (call : Call) (w : ℕ) (outcome : Outcome) (he : e.caller? = some k)
      (hread : e.readBy k = none) :
      Moves k e (.closing call w outcome) (.delaying call outcome)
  | lastClosed (e : Event) (call : Call) (w : ℕ) (outcome : Outcome) (he : e.caller? = some k)
      (hread : e.readBy k = none) :
      Moves k e (.closing call w outcome) (.finished call outcome)
  | cancelClose (call : Call) (w : ℕ) (outcome : Outcome) :
      Moves k (.cancel k) (.closing call w outcome) (.finished call .cancelled)
  | delayed (call : Call) (outcome : Outcome) :
      Moves k (.delayed k) (.delaying call outcome) (.finished call outcome)
  | cancelDelay (call : Call) (outcome : Outcome) :
      Moves k (.cancel k) (.delaying call outcome) (.finished call .cancelled)

/-- A step is taken by one caller, or by none. -/
inductive Turn (s t : State) (e : Event) : Prop where
  | nobody (he : e.caller? = none) (hcallers : t.callers = s.callers)
  | caller (k : ℕ) (phase : Phase) (he : e.caller? = some k)
      (hmoves : Moves k e (s.callers k) phase)
      (hcallers : t.callers = Function.update s.callers k phase)

variable {reconnectDelay j k w : ℕ} {s t : State} {es : List Event} {e : Event}

lemma Turn.of_moves {phase phase' : Phase} (hk : s.callers k = phase)
    (hmoves : Moves k e phase phase') (he : e.caller? = some k)
    (hcallers : t.callers = Function.update s.callers k phase') : Turn s t e :=
  .caller k phase' he (hk ▸ hmoves) hcallers

lemma turn_of_closedWriter {call : Call} {outcome : Outcome} {s' : State}
    (hk : s.callers k = .closing call w outcome) (he : e.caller? = some k)
    (hread : e.readBy k = none) (hcallers : s'.callers = s.callers) :
    Turn s (s'.closedWriter k reconnectDelay call outcome) e := by
  rw [State.closedWriter]
  split
  · exact .of_moves hk (.writerClosed e call w outcome he hread) he (by rw [← hcallers]; rfl)
  · exact .of_moves hk (.lastClosed e call w outcome he hread) he (by rw [← hcallers]; rfl)

lemma GoesOn.caller {phase phase' : Phase} (h : GoesOn k e phase phase') :
    e.caller? = some k := by
  cases h <;> rfl

lemma Leaves.caller {phase : Phase} {r : Option UInt8} {outcome : Outcome}
    (h : Leaves k e phase r w outcome) : e.caller? = some k := by
  cases h <;> rfl

lemma Rule.turn (h : Rule reconnectDelay s e t) : Turn s t e := by
  cases h with
  | called hk => exact .of_moves hk (.called _) rfl rfl
  | withdrawn hk => exact .of_moves hk (.withdrawn _) rfl rfl
  | refused hk => exact .of_moves hk (.refused _) rfl rfl
  | closedAgain hk | closes hk => exact .of_moves hk .closed rfl rfl
  | connects hk => exact .of_moves hk (.connects _) rfl rfl
  | closesActive hk => exact .of_moves hk (.closes _) rfl rfl
  | connected hk => exact .of_moves hk (.connected _ _ _) rfl rfl
  | connectFailed hk => exact .of_moves hk (.connectFailed _ _) rfl rfl
  | goesOn hgoes => exact .of_moves rfl (.goesOn _ _ _ hgoes) hgoes.caller rfl
  | leaves hleaves => exact .of_moves rfl (.leaves _ _ _ _ _ hleaves) hleaves.caller rfl
  | waited hk | closeTimeout hk => exact turn_of_closedWriter hk rfl rfl rfl
  | delayed hk => exact .of_moves hk (.delayed _ _) rfl rfl
  | cancelConnect hk => exact .of_moves hk (.cancelConnect _) rfl rfl
  | cancelClose hk => exact .of_moves hk (.cancelClose _ _ _) rfl rfl
  | cancelDelay hk => exact .of_moves hk (.cancelDelay _ _) rfl rfl
  | flushed | lost => exact .nobody rfl rfl

/-- Who takes a step is who reads in it. -/
lemma readBy_of_caller (he : e.caller? = some k) (hne : j ≠ k) : e.readBy j = none := by
  cases e with
  | read k' chunk =>
    cases he
    exact if_neg hne.symm
  | _ => rfl

lemma readBy_of_nobody (he : e.caller? = none) : e.readBy j = none := by
  cases e with
  | flushed | lost => rfl
  | _ => cases he

lemma readsOf_concat : readsOf k (es ++ [e]) = readsOf k es ++ (e.readBy k).toList := by
  cases hread : e.readBy k <;> simp [readsOf, hread]

lemma cancel_mem_concat : .cancel k ∈ es ++ [e] ↔ .cancel k ∈ es ∨ e = .cancel k := by
  rw [List.mem_append, List.mem_singleton, eq_comm (a := e)]

/-- What holds of every caller with its cancellation, its reads and its steps, and of a caller
after each of its own steps, holds along every run. -/
lemma forall_of_run {P : Prop → List (List UInt8) → ℕ → Phase → Prop}
    (h : Transition.run (step reconnectDelay) es {} = some s) (init : P False [] 0 .idle)
    (pres : ∀ {k e cancelled reads n phase phase'}, P cancelled reads n phase →
      Moves k e phase phase' → P (cancelled ∨ e = .cancel k) (reads ++ (e.readBy k).toList) (n + 1)
        phase') (k : ℕ) :
    P (.cancel k ∈ es) (readsOf k es) (stepsOf k es) (s.callers k) := by
  refine Transition.run_invariant (I := fun es (s : State) => ∀ k,
    P (.cancel k ∈ es) (readsOf k es) (stepsOf k es) (s.callers k)) h
    (fun _ => by simpa [readsOf, stepsOf] using init) ?_ k
  intro es s t e _ hs hst j
  have hkept (he : e.caller? ≠ some j) (hread : e.readBy j = none)
      (hj : t.callers j = s.callers j) :
      P (.cancel j ∈ es ++ [e]) (readsOf j (es ++ [e])) (stepsOf j (es ++ [e])) (t.callers j) := by
    have hcancel : e ≠ .cancel j := by
      rintro rfl
      exact he rfl
    rw [readsOf_concat, hread, hj, cancel_mem_concat, or_iff_left hcancel]
    simpa [stepsOf, List.countP_append, he] using hs j
  cases (Rule.of_step hst).turn with
  | nobody he hcallers =>
    exact hkept (by simp [he]) (readBy_of_nobody he) (by rw [hcallers])
  | caller k phase he hmoves hcallers =>
    rcases eq_or_ne j k with rfl | hne
    · rw [readsOf_concat, hcallers, Function.update_self, cancel_mem_concat]
      simpa [stepsOf, List.countP_append, he] using pres (hs j) hmoves
    · refine hkept (by simp [he, hne.symm]) (readBy_of_caller he hne) ?_
      rw [hcallers, Function.update_of_ne hne]

/-! ### How it ends -/

/-- A transcript of these reads. -/
def Transcribes (reads : List (List UInt8)) : Transcript → Prop
  | .connected reads' _ => reads' = reads
  | .closed | .connectFailed _ => reads = []

/-- What ends a call that has made these reads, and has been cancelled or not. -/
def Settled (cancelled : Prop) (reads : List (List UInt8)) : Call → Outcome → Prop
  | _, .cancelled => cancelled
  | .close, outcome => outcome = .returned none
  | .exchange r, outcome => ∃ transcript, Transcribes reads transcript ∧
      outcome = .ofResult (exchange r transcript)

/-- What a caller has read, and what this has come to. -/
def Phase.Seen (cancelled : Prop) (reads : List (List UInt8)) : Phase → Prop
  | .idle | .acquiring _ | .connecting _ | .draining _ _ => reads = []
  | .reading register _ parser n => awaitReply register reads = .ok (parser, n)
  | .closing call _ outcome | .delaying call outcome | .finished call outcome =>
    Settled cancelled reads call outcome

variable {cancelled : Prop}

lemma settled_of_exchange {reads : List (List UInt8)} {r : Option UInt8} {outcome : Outcome}
    (transcript : Transcript) (hreads : Transcribes reads transcript)
    (houtcome : outcome = .ofResult (exchange r transcript)) :
    Settled cancelled reads (.exchange r) outcome := by
  cases outcome with
  | cancelled =>
    cases hresult : exchange r transcript <;> simp [hresult, Outcome.ofResult] at houtcome
  | returned => exact ⟨transcript, hreads, houtcome⟩
  | raised => exact ⟨transcript, hreads, houtcome⟩

lemma Settled.mono {cancelled' : Prop} {reads : List (List UInt8)} {call : Call}
    {outcome : Outcome} (h : Settled cancelled reads call outcome) (himp : cancelled → cancelled') :
    Settled cancelled' reads call outcome := by
  cases outcome with
  | cancelled => exact himp h
  | returned | raised => cases call <;> exact h

lemma readLoop_of_awaitReply {r : Option UInt8} {reads : List (List UInt8)} {parser : FrameParser}
    {n : ℕ} (h : awaitReply r reads = .ok (parser, n)) (ending : Ending)
    (rest : List (List UInt8)) :
    readLoop r ending {} 0 (reads ++ rest) = readLoop r ending parser n rest :=
  readLoop_of_turns h ending rest

lemma readBy_read {chunk : List UInt8} : (Event.read k chunk).readBy k = some chunk := if_pos rfl

lemma GoesOn.seen {reads : List (List UInt8)} {phase phase' : Phase}
    (h : GoesOn k e phase phase') (hs : phase.Seen cancelled reads) :
    phase'.Seen (cancelled ∨ e = .cancel k) (reads ++ (e.readBy k).toList) := by
  cases h with
  | drained =>
    obtain rfl : reads = [] := hs
    rfl
  | @read r w n n' parser parser' chunk hread =>
    have hloop : awaitReply r reads = .ok (parser, n) := hs
    rw [readBy_read]
    show awaitReply r (reads ++ [chunk]) = .ok (parser', n')
    rw [awaitReply, Loop.turns_append_of_wait hloop, Loop.turns_singleton]
    exact hread

lemma Leaves.settled {reads : List (List UInt8)} {phase : Phase} {r : Option UInt8}
    {outcome : Outcome} (h : Leaves k e phase r w outcome) (hs : phase.Seen cancelled reads) :
    Settled (cancelled ∨ e = .cancel k) (reads ++ (e.readBy k).toList) (.exchange r) outcome := by
  cases h with
  | @drain r w ending =>
    obtain rfl : reads = [] := hs
    exact settled_of_exchange (.connected [] ending) rfl rfl
  | @read r w n parser chunk outcome hread =>
    obtain ⟨result, rfl, hresult⟩ :=
      exists_result_of_readChunk hread (readLoop_of_awaitReply hs)
    rw [readBy_read]
    exact settled_of_exchange (.connected (reads ++ [chunk]) .eof) rfl
      (congrArg _ (hresult .eof []).symm)
  | @ended r w n parser ending =>
    have hloop := readLoop_of_awaitReply (r := r) hs ending []
    rw [List.append_nil] at hloop
    simp only [Event.readBy, Option.toList_none, List.append_nil]
    refine settled_of_exchange (.connected reads ending) rfl ?_
    simp only [exchange, hloop, readLoop]
    rfl
  | cancelDrain | cancelRead => exact .inr rfl

lemma Moves.seen {reads : List (List UInt8)} {phase phase' : Phase} (h : Moves k e phase phase')
    (hs : phase.Seen cancelled reads) :
    phase'.Seen (cancelled ∨ e = .cancel k) (reads ++ (e.readBy k).toList) := by
  cases h with
  | called | connects | connected =>
    simp only [Event.readBy, Option.toList_none, List.append_nil]
    exact hs
  | delayed =>
    simp only [Event.readBy, Option.toList_none, List.append_nil]
    exact Settled.mono hs .inl
  | withdrawn | cancelConnect | cancelClose | cancelDelay => exact .inr rfl
  | closed | closes => rfl
  | refused =>
    obtain rfl : reads = [] := hs
    simp only [Phase.Seen]
    exact settled_of_exchange .closed rfl rfl
  | connectFailed r failure =>
    obtain rfl : reads = [] := hs
    simp only [Phase.Seen]
    exact settled_of_exchange (.connectFailed failure) rfl rfl
  | goesOn _ _ _ hgoes => exact hgoes.seen hs
  | leaves _ _ _ _ _ hleaves => exact hleaves.settled hs
  | writerClosed e call w outcome he hread | lastClosed e call w outcome he hread =>
    rw [hread, Option.toList_none, List.append_nil]
    exact Settled.mono hs .inl

lemma seen_of_run (h : Transition.run (step reconnectDelay) es {} = some s) (k : ℕ) :
    (s.callers k).Seen (.cancel k ∈ es) (readsOf k es) :=
  forall_of_run (P := fun cancelled reads _ phase => phase.Seen cancelled reads) h rfl
    (fun hs hmoves => hmoves.seen hs) k

/-- In every run, a caller that reads has had 84 bytes at most, and its next read does not overflow
its parser. -/
theorem reads_bounded (h : Transition.run (step reconnectDelay) es {} = some s)
    {r : Option UInt8} {parser : FrameParser} {n : ℕ} (hk : s.callers k = .reading r w parser n) :
    (readsOf k es).flatten.length ≤ 84 ∧ ∀ chunk : List UInt8, chunk.length ≤ 1024 →
      (parser.feed chunk).1 ≠ .error FrameParser.overflow := by
  have hwait : awaitReply r (readsOf k es) = .ok (parser, n) := by
    have hseen := seen_of_run h k
    rwa [hk] at hseen
  refine ⟨length_le_of_awaitReply hwait, fun chunk hchunk => ?_⟩
  exact ((waits_of_awaitReply hwait).feed hchunk).2

/-- The lock is handed over, or a time limit passes: what needs neither the speaker nor the network
nor another caller. -/
def Event.isUnaided : Event → Bool
  | .acquired _ | .connectFailed _ .timeout | .ended _ .deadline | .closeTimeout _
  | .delayed _ => true
  | _ => false

/-- A state to which so many steps of this kind lead. -/
def Elapses (reconnectDelay : ℕ) (s : State) (n : ℕ) (t : State) : Prop :=
  ∃ es, Transition.run (step reconnectDelay) es s = some t ∧ es.length ≤ n ∧
    ∀ e ∈ es, e.isUnaided = true

lemma Elapses.refl {n : ℕ} : Elapses reconnectDelay s n s :=
  ⟨[], rfl, Nat.zero_le n, fun _ he => absurd he List.not_mem_nil⟩

lemma Elapses.cons {u : State} {n : ℕ} (hst : step reconnectDelay s e = some t)
    (he : e.isUnaided = true) (h : Elapses reconnectDelay t n u) :
    Elapses reconnectDelay s (n + 1) u := by
  obtain ⟨es, hrun, hlength, hes⟩ := h
  refine ⟨e :: es, ?_, Nat.succ_le_succ hlength, List.forall_mem_cons.mpr ⟨he, hes⟩⟩
  rw [Transition.run, hst, Option.bind_some]
  exact hrun

lemma Elapses.trans {u : State} {m n : ℕ} (h : Elapses reconnectDelay s m t)
    (h' : Elapses reconnectDelay t n u) : Elapses reconnectDelay s (m + n) u := by
  obtain ⟨es, hrun, hlength, hes⟩ := h
  obtain ⟨es', hrun', hlength', hes'⟩ := h'
  refine ⟨es ++ es', ?_, ?_, List.forall_mem_append.mpr ⟨hes, hes'⟩⟩
  · rw [Transition.run_append, hrun, Option.bind_some]
    exact hrun'
  · rw [List.length_append]
    exact Nat.add_le_add hlength hlength'

lemma Elapses.reachable {n : ℕ} (h : Elapses reconnectDelay s n t) :
    Transition.Reachable (step reconnectDelay) s t := by
  obtain ⟨es, hrun, -⟩ := h
  exact Transition.reachable_of_run hrun

lemma Elapses.mono {m n : ℕ} (h : Elapses reconnectDelay s m t) (hmn : m ≤ n) :
    Elapses reconnectDelay s n t := by
  obtain ⟨es, hrun, hlength, hes⟩ := h
  exact ⟨es, hrun, hlength.trans hmn, hes⟩

/-- The caller has finished, the lock is free, and the other callers are where they were. -/
structure Released (s : State) (k : ℕ) (t : State) : Prop where
  finished : ∃ call outcome, t.callers k = .finished call outcome
  free : t.exchangeLock = none
  others : ∀ j, j ≠ k → t.callers j = s.callers j

/-- In every run of the callers of one client: a call takes 91 steps at most, whatever the speaker
sends, and nobody can keep it from its end, to which the time limits alone lead in five steps. -/
structure Ends (reconnectDelay : ℕ) (k : ℕ) (es : List Event) (s : State) : Prop where
  steps : stepsOf k es ≤ 91
  finish : s.callers k ≠ .idle → ∃ t, Elapses reconnectDelay s 5 t ∧
    ∃ call outcome, t.callers k = .finished call outcome

end LsxClient

end KefLsx
