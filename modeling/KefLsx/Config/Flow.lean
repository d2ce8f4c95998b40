import KefLsx.Client.Exchange
import KefLsx.Config.Host
import KefLsx.Config.Title
import KefLsx.Core.Table
import KefLsx.Core.Transition

/-!
# Config flows

User flows and reconfigure flows of `config_flow.py`, any number of them side by side. A flow
rejects an endpoint that another entry has, probes the speaker, and stores the endpoint; a user flow
stores it when Home Assistant adds its entry, some time after the flow has asked for that.

The entries keep distinct endpoints where no flow stores an endpoint that another flow has checked
and not yet stored: the check is not repeated after the probe. Where one does, the other one may
still store the endpoint a second time.
-/

namespace KefLsx

open Text

namespace ConfigFlow

/-- What the user submits. -/
structure UserInput where
  name : Text
  host : Text
  port : ℕ
deriving DecidableEq

/-- Where a flow is: at its form, awaiting `_async_validate_endpoint`, or with the result that
creates its entry or ends the flow. -/
inductive Phase where
  | form (error : Option String)
  | probing (name : Text) (endpoint : Endpoint)
  | creating (title : Text) (endpoint : Endpoint)
  | created
  | aborted (reason : String)
  | removed
deriving DecidableEq

/-- The endpoint that the flow has checked and not yet stored. -/
def Phase.endpoint : Phase → Option Endpoint
  | probing _ endpoint | creating _ endpoint => some endpoint
  | _ => none

structure Flow where
  /-- The id of the entry that is reconfigured. -/
  entry : Option Text
  phase : Phase
deriving DecidableEq

/-- The entries, and the flows in the order in which they were started. -/
structure State where
  entries : List ConfigEntry
  flows : List Flow := []
deriving DecidableEq

inductive Event where
  | start (entry : Option Text)
  | submit (flow : ℕ) (input : UserInput)
  /-- The exchange of `_async_validate_endpoint` ends. -/
  | probed (flow : ℕ) (reply : Transcript)
  /-- The probe raises something that is no `LsxError`. -/
  | unexpected (flow : ℕ)
  /-- Home Assistant adds the entry under a new id. -/
  | stored (flow : ℕ) (entryId : Text)
  | removed (flow : ℕ)

/-- `DEFAULT_NAME`. -/
def defaultName : Text := "KEF LSX".toList

variable (lib : Stdlib) (casefold : Casefold)

namespace State

/-- The flow goes on. -/
def goesTo (s : State) (i : ℕ) (phase : Phase) : State :=
  { s with flows := s.flows.modify i fun flow => { flow with phase := phase } }

/-- `_get_reconfigure_entry`, for a reconfigure flow. -/
def current (s : State) : Option Text → Option (Option ConfigEntry)
  | none => some none
  | some entryId => (s.entries.find? fun entry => entry.entryId = entryId).map some

/-- `_async_abort_entries_match` finds an entry. -/
def matched (s : State) (current : Option ConfigEntry) (endpoint : Endpoint) : Bool :=
  (others s.entries current).any fun entry => entry.data = endpoint

/-- The title of `_unique_title`, whose loop has a check for every other entry and one more. -/
def title (s : State) (current : Option ConfigEntry) (name : Text) : Text :=
  (uniqueTitle casefold s.entries name current ((others s.entries current).length + 1)).getD name

/-- `async_update_entry` of one entry. -/
def updated (entries : List ConfigEntry) (entryId title : Text) (endpoint : Endpoint) :
    List ConfigEntry :=
  entries.map fun entry =>
    if entry.entryId = entryId then { entry with title := title, data := endpoint } else entry

/-- The endpoint is valid: the `else` branch of the `try` in `_async_step_endpoint`. -/
def accept (s : State) (i : ℕ) (current : Option ConfigEntry) (name : Text)
    (endpoint : Endpoint) : State :=
  match current with
  | none => s.goesTo i (.creating (s.title casefold none name) endpoint)
  | some entry =>
    { s.goesTo i (.aborted "reconfigure_successful") with
      entries := updated s.entries entry.entryId (s.title casefold (some entry) name) endpoint }

/-- `_async_step_endpoint` up to its `await`. -/
def submit (s : State) (i : ℕ) (current : Option ConfigEntry) (input : UserInput) : State :=
  match Host.normalizeHost lib input.host with
  | none => s.goesTo i (.form (some "invalid_host"))
  | some host =>
    let name := if strip input.name = [] then defaultName else strip input.name
    let endpoint : Endpoint := { host := host, port := input.port }
    if s.matched current endpoint then s.goesTo i (.aborted "already_configured")
    else if current.any fun entry => entry.data = endpoint then
      s.accept casefold i current name endpoint
    else s.goesTo i (.probing name endpoint)

end State

/-- What an event does, if it can happen. -/
def step (s : State) : Event → Option State
  | .start entry =>
    (s.current entry).map fun _ => { s with flows := s.flows ++ [⟨entry, .form none⟩] }
  | .submit i input =>
    match s.flows[i]? with
    | some ⟨entry, .form _⟩ =>
      (s.current entry).map fun current => s.submit lib casefold i current input
    | _ => none
  | .probed i reply =>
    match s.flows[i]? with
    | some ⟨entry, .probing name endpoint⟩ =>
      match LsxClient.asyncGetSource reply with
      | .error _ => some (s.goesTo i (.form (some "cannot_connect")))
      | .ok _ => (s.current entry).map fun current => s.accept casefold i current name endpoint
    | _ => none
  | .unexpected i =>
    match s.flows[i]? with
    | some ⟨_, .probing _ _⟩ => some (s.goesTo i (.form (some "unknown")))
    | _ => none
  | .stored i entryId =>
    match s.flows[i]? with
    | some ⟨_, .creating title endpoint⟩ =>
      if s.entries.any fun entry => entry.entryId = entryId then none
      else
        some { s.goesTo i .created with
          entries := s.entries ++ [{ entryId := entryId, title := title, data := endpoint }] }
    | _ => none
  | .removed i => if i < s.flows.length then some (s.goesTo i .removed) else none

/-- The loop of `_unique_title` has enough checks, and its title is of no other entry. -/
theorem title_unique (s : State) (current : Option ConfigEntry) (name : Text) :
    uniqueTitle casefold s.entries name current ((others s.entries current).length + 1) =
      some (s.title casefold current name) ∧
    ∀ entry ∈ others s.entries current,
      casefold.fold (s.title casefold current name) ≠ casefold.fold entry.title := by
  obtain ⟨title, htitle, hfree⟩ : ∃ title, uniqueTitle casefold s.entries name current _ =
      some title ∧ _ := exists_uniqueTitle (Nat.lt_succ_self (others s.entries current).length)
  have hsame : s.title casefold current name = title := by
    rw [State.title, htitle]
    rfl
  rw [hsame]
  exact ⟨htitle, not_mem_used.mp hfree⟩

/-! ### What a step can do -/

/-- The flow that stores its endpoint in this step. -/
def State.stores (s : State) : Event → Option ℕ
  | .probed i reply =>
    match s.flows[i]?, LsxClient.asyncGetSource reply with
    | some ⟨some _, .probing _ _⟩, .ok _ => some i
    | _, _ => none
  | .stored i _ => some i
  | _ => none

/-- The transitions, one constructor for each kind. -/
inductive Rule (s : State) : Event → State → Prop where
  | started {entry : Option Text} (hcurrent : (s.current entry).isSome) :
      Rule s (.start entry) { s with flows := s.flows ++ [⟨entry, .form none⟩] }
  /-- The flow has nothing to store: it rejects its input, its probe fails, or it is removed. -/
  | dropped {e : Event} {i : ℕ} {phase : Phase} (hphase : phase.endpoint = none) :
      Rule s e (s.goesTo i phase)
  | checked {e : Event} {i : ℕ} {entry : Option Text} {error : Option String}
      {current : Option ConfigEntry} {name : Text} {endpoint : Endpoint}
      (hflow : s.flows[i]? = some ⟨entry, .form error⟩) (hcurrent : s.current entry = some current)
      (hmatch : s.matched current endpoint = false) :
      Rule s e (s.goesTo i (.probing name endpoint))
  | unchanged {e : Event} {i : ℕ} {entry : ConfigEntry} {title : Text}
      (hentry : entry ∈ s.entries) :
      Rule s e { s.goesTo i (.aborted "reconfigure_successful") with
        entries := State.updated s.entries entry.entryId title entry.data }
  | asked {e : Event} {i : ℕ} {name title : Text} {endpoint : Endpoint}
      (hflow : s.flows[i]? = some ⟨none, .probing name endpoint⟩) :
      Rule s e (s.goesTo i (.creating title endpoint))
  | reconfigured {e : Event} {i : ℕ} {entryId name title : Text} {endpoint : Endpoint}
      (hflow : s.flows[i]? = some ⟨some entryId, .probing name endpoint⟩)
      (hstores : s.stores e = some i) (hknown : entryId ∈ s.entries.map ConfigEntry.entryId) :
      Rule s e { s.goesTo i (.aborted "reconfigure_successful") with
        entries := State.updated s.entries entryId title endpoint }
  | stored {i : ℕ} {entry : Option Text} {entryId title : Text} {endpoint : Endpoint}
      (hflow : s.flows[i]? = some ⟨entry, .creating title endpoint⟩)
      (hfresh : entryId ∉ s.entries.map ConfigEntry.entryId) :
      Rule s (.stored i entryId) { s.goesTo i .created with
        entries := s.entries ++ [{ entryId := entryId, title := title, data := endpoint }] }

variable {lib casefold} {s t : State} {e : Event} {i : ℕ}

lemma any_entryId {entries : List ConfigEntry} {entryId : Text} :
    (entries.any fun entry => entry.entryId = entryId) = true ↔
      entryId ∈ entries.map ConfigEntry.entryId := by
  rw [List.any_eq_true, List.mem_map]
  simp only [decide_eq_true_eq]

/-- The entry of a reconfigure flow is the one with its id. -/
lemma mem_of_current {entry : Option Text} {c : ConfigEntry} (h : s.current entry = some (some c)) :
    entry = some c.entryId ∧ c ∈ s.entries := by
  cases entry with
  | none => cases h
  | some entryId =>
    obtain ⟨c', hfind, heq⟩ := Option.map_eq_some_iff.mp h
    obtain rfl : c' = c := Option.some.inj heq
    have hid := List.find?_some hfind
    rw [decide_eq_true_eq] at hid
    exact ⟨congrArg some hid.symm, List.mem_of_find?_eq_some hfind⟩

lemma eq_none_of_current {entry : Option Text} (h : s.current entry = some none) :
    entry = none := by
  cases entry with
  | none => rfl
  | some entryId =>
    obtain ⟨c, -, heq⟩ := Option.map_eq_some_iff.mp h
    cases heq

lemma Rule.of_submit {entry : Option Text} {error : Option String} {current : Option ConfigEntry}
    (hflow : s.flows[i]? = some ⟨entry, .form error⟩) (hcurrent : s.current entry = some current)
    (input : UserInput) : Rule s e (s.submit lib casefold i current input) := by
  unfold State.submit
  split
  · exact .dropped rfl
  · simp only
    split
    · exact .dropped rfl
    · rename_i hmatch
      split
      · rename_i hunchanged
        cases current with
        | none => cases hunchanged
        | some c =>
          have hdata : c.data = _ := of_decide_eq_true hunchanged
          rw [← hdata]
          exact .unchanged (mem_of_current hcurrent).2
      · exact .checked hflow hcurrent (by simpa using hmatch)

/-- Every step is one of the transitions. -/
theorem Rule.of_step (h : step lib casefold s e = some t) : Rule s e t := by
  cases e with
  | start entry =>
    obtain ⟨current, hcurrent, rfl⟩ := Option.map_eq_some_iff.mp h
    exact .started (by rw [hcurrent]; rfl)
  | submit i input =>
    simp only [step] at h
    split at h
    · rename_i hflow
      obtain ⟨current, hcurrent, rfl⟩ := Option.map_eq_some_iff.mp h
      exact .of_submit hflow hcurrent input
    · cases h
  | probed i reply =>
    simp only [step] at h
    split at h
    · rename_i entry name endpoint hflow
      split at h
      · cases h
        exact .dropped rfl
      · rename_i hreply
        obtain ⟨current, hcurrent, rfl⟩ := Option.map_eq_some_iff.mp h
        cases current with
        | none =>
          obtain rfl := eq_none_of_current hcurrent
          exact .asked hflow
        | some c =>
          obtain ⟨rfl, hmem⟩ := mem_of_current hcurrent
          refine .reconfigured hflow ?_ (List.mem_map_of_mem hmem)
          simp only [State.stores, hflow, hreply]
    · cases h
  | unexpected i =>
    simp only [step] at h
    split at h
    · cases h
      exact .dropped rfl
    · cases h
  | stored i entryId =>
    simp only [step] at h
    split at h
    · rename_i hflow
      split at h
      · cases h
      · rename_i hfresh
        cases h
        exact .stored hflow (mt any_entryId.mpr hfresh)
    · cases h
  | removed i =>
    simp only [step] at h
    split at h
    · cases h
      exact .dropped rfl
    · cases h

/-! ### The endpoints of the entries -/

/-- The entries have distinct ids and distinct endpoints, and what a flow is about to store is in no
other entry. -/
structure Distinct (s : State) : Prop where
  ids : (s.entries.map ConfigEntry.entryId).Nodup
  endpoints : (s.entries.map ConfigEntry.data).Nodup
  checked : ∀ (j : ℕ) (g : Flow), s.flows[j]? = some g →
    ∀ entry ∈ s.entries, g.phase.endpoint = some entry.data → g.entry = some entry.entryId

lemma flow_goesTo {phase : Phase} {j : ℕ} {g : Flow}
    (h : (s.goesTo i phase).flows[j]? = some g) :
    (∃ f, s.flows[j]? = some f ∧ g = { f with phase := phase } ∧ j = i) ∨
      s.flows[j]? = some g ∧ j ≠ i := by
  obtain ⟨f, hf, ⟨hj, rfl⟩ | ⟨hne, rfl⟩⟩ := Table.of_modify h
  · exact .inl ⟨f, hf, rfl, hj⟩
  · exact .inr ⟨hf, hne⟩

/-- The entry of an id has the new endpoint, and the others are as before. -/
lemma mem_updated {entries : List ConfigEntry} {entryId title : Text} {endpoint : Endpoint}
    {entry : ConfigEntry} (h : entry ∈ State.updated entries entryId title endpoint) :
    ∃ before ∈ entries, entry.entryId = before.entryId ∧
      (before.entryId = entryId ∧ entry.data = endpoint ∨
        before.entryId ≠ entryId ∧ entry.data = before.data) := by
  obtain ⟨before, hbefore, rfl⟩ := List.mem_map.mp h
  refine ⟨before, hbefore, ?_⟩
  by_cases hid : before.entryId = entryId
  · rw [if_pos hid]
    exact ⟨rfl, .inl ⟨hid, rfl⟩⟩
  · rw [if_neg hid]
    exact ⟨rfl, .inr ⟨hid, rfl⟩⟩

lemma ids_updated (entries : List ConfigEntry) (entryId title : Text) (endpoint : Endpoint) :
    (State.updated entries entryId title endpoint).map ConfigEntry.entryId =
      entries.map ConfigEntry.entryId := by
  rw [State.updated, List.map_map]
  refine List.map_congr_left fun entry _ => ?_
  simp only [Function.comp_apply]
  split <;> rfl

/-- The endpoints stay distinct if no other entry has the one that is stored. -/
lemma endpoints_updated {entries : List ConfigEntry} {entryId title : Text} {endpoint : Endpoint}
    (hids : (entries.map ConfigEntry.entryId).Nodup)
    (hdata : (entries.map ConfigEntry.data).Nodup)
    (hfree : ∀ entry ∈ entries, entry.data = endpoint → entry.entryId = entryId) :
    ((State.updated entries entryId title endpoint).map ConfigEntry.data).Nodup := by
  rw [State.updated, List.map_map, List.nodup_map_iff_inj_on hids.of_map]
  intro a ha b hb heq
  simp only [Function.comp_apply] at heq
  by_cases haid : a.entryId = entryId
  · by_cases hbid : b.entryId = entryId
    · exact List.inj_on_of_nodup_map hids ha hb (haid.trans hbid.symm)
    · rw [if_pos haid, if_neg hbid] at heq
      exact absurd (hfree b hb heq.symm) hbid
  · by_cases hbid : b.entryId = entryId
    · rw [if_neg haid, if_pos hbid] at heq
      exact absurd (hfree a ha heq) haid
    · rw [if_neg haid, if_neg hbid] at heq
      exact List.inj_on_of_nodup_map hdata ha hb heq

/-- Both flows are about to store the same endpoint, and not in the same entry. -/
def Flow.Rivals (f g : Flow) : Prop :=
  f.phase.endpoint.isSome ∧ f.phase.endpoint = g.phase.endpoint ∧
    (f.entry = none ∨ f.entry ≠ g.entry)

instance (f g : Flow) : Decidable (f.Rivals g) := inferInstanceAs (Decidable (_ ∧ _ ∧ _))

/-- The flow that stores its endpoint in this step, if there is one, has no rival. -/
def State.Unrivalled (s : State) (e : Event) : Prop :=
  ∀ i ∈ s.stores e, ∀ j < s.flows.length, j ≠ i →
    ∀ f ∈ s.flows[i]?, ∀ g ∈ s.flows[j]?, ¬ f.Rivals g

instance (s : State) (e : Event) : Decidable (s.Unrivalled e) := by
  unfold State.Unrivalled
  infer_instance

/-- A flow without a rival: whoever else is about to store the endpoint has the same entry. -/
lemma State.Unrivalled.entry_eq (h : s.Unrivalled e) (hstores : s.stores e = some i) {j : ℕ}
    {f g : Flow} (hf : s.flows[i]? = some f) (hg : s.flows[j]? = some g) (hne : j ≠ i)
    {endpoint : Endpoint} (hfp : f.phase.endpoint = some endpoint)
    (hgp : g.phase.endpoint = some endpoint) : f.entry ≠ none ∧ f.entry = g.entry := by
  have hlt : j < s.flows.length := (List.getElem?_eq_some_iff.mp hg).1
  have hnot := h i hstores j hlt hne f hf g hg
  have hendpoint : f.phase.endpoint = g.phase.endpoint := hfp.trans hgp.symm
  constructor
  · intro hnone
    exact hnot ⟨by rw [hfp]; rfl, hendpoint, .inl hnone⟩
  · by_contra hother
    exact hnot ⟨by rw [hfp]; rfl, hendpoint, .inr hother⟩

/-- A flow goes on without storing anything. -/
lemma Distinct.goesTo (h : Distinct s) {phase : Phase}
    (hphase : ∀ f, s.flows[i]? = some f → ∀ entry ∈ s.entries,
      phase.endpoint = some entry.data → f.entry = some entry.entryId) :
    Distinct (s.goesTo i phase) where
  ids := h.ids
  endpoints := h.endpoints
  checked := by
    intro j g hg entry hentry hp
    rcases flow_goesTo hg with ⟨f, hf, rfl, rfl⟩ | ⟨hg, -⟩
    · exact hphase f hf entry hentry hp
    · exact h.checked j g hg entry hentry hp

/-- An entry gets an endpoint that only it may have. -/
lemma Distinct.updated (h : Distinct s) {entryId title : Text} {endpoint : Endpoint} {phase : Phase}
    (hphase : phase.endpoint = none)
    (hfree : ∀ entry ∈ s.entries, entry.data = endpoint → entry.entryId = entryId)
    (hothers : ∀ j g, s.flows[j]? = some g → j ≠ i → g.phase.endpoint = some endpoint →
      g.entry = some entryId) :
    Distinct { s.goesTo i phase with
      entries := State.updated s.entries entryId title endpoint } where
  ids := by
    rw [ids_updated]
    exact h.ids
  endpoints := endpoints_updated h.ids h.endpoints hfree
  checked := by
    intro j g hg entry hentry hp
    rcases flow_goesTo hg with ⟨f, hf, rfl, rfl⟩ | ⟨hg, hne⟩
    · rw [hphase] at hp
      cases hp
    obtain ⟨before, hbefore, hid, ⟨hsame, hdata⟩ | ⟨-, hdata⟩⟩ := mem_updated hentry
    · rw [hid, hsame]
      exact hothers j g hg hne (hdata ▸ hp)
    · rw [hid]
      exact h.checked j g hg before hbefore (hdata ▸ hp)

/-- No other entry has the endpoint that was not matched. -/
lemma entryId_of_matched {entry : Option Text} {current : Option ConfigEntry}
    {endpoint : Endpoint} (hcurrent : s.current entry = some current)
    (hmatch : s.matched current endpoint = false) {other : ConfigEntry}
    (hother : other ∈ s.entries) (hdata : other.data = endpoint) :
    entry = some other.entryId := by
  by_contra hne
  rw [State.matched, List.any_eq_false] at hmatch
  refine hmatch other (List.mem_filter.mpr ⟨hother, ?_⟩) (decide_eq_true hdata)
  cases current with
  | none => rfl
  | some c =>
    obtain ⟨rfl, -⟩ := mem_of_current hcurrent
    exact decide_eq_true fun heq => hne (congrArg some heq.symm)

/-- Only user flows create entries, and the entries of the reconfigure flows exist. -/
structure Known (s : State) : Prop where
  user : ∀ (j : ℕ) (g : Flow), s.flows[j]? = some g →
    ∀ title endpoint, g.phase = .creating title endpoint → g.entry = none
  entry : ∀ (j : ℕ) (g : Flow), s.flows[j]? = some g →
    ∀ entryId ∈ g.entry, entryId ∈ s.entries.map ConfigEntry.entryId

/-- A flow goes on, and no id is lost. -/
lemma Known.goesTo (h : Known s) {phase : Phase} {entries : List ConfigEntry}
    (hids : ∀ entryId ∈ s.entries.map ConfigEntry.entryId,
      entryId ∈ entries.map ConfigEntry.entryId)
    (hphase : ∀ title endpoint, phase = .creating title endpoint →
      ∀ f, s.flows[i]? = some f → f.entry = none) :
    Known { s.goesTo i phase with entries := entries } where
  user := by
    intro j g hg title endpoint hp
    rcases flow_goesTo hg with ⟨f, hf, rfl, rfl⟩ | ⟨hg, -⟩
    · exact hphase title endpoint hp f hf
    · exact h.user j g hg title endpoint hp
  entry := by
    intro j g hg entryId hentry
    rcases flow_goesTo hg with ⟨f, hf, rfl, rfl⟩ | ⟨hg, -⟩
    · exact hids entryId (h.entry j f hf entryId hentry)
    · exact hids entryId (h.entry j g hg entryId hentry)

lemma Known.step (h : Known s) (hst : step lib casefold s e = some t) : Known t := by
  have hsame : ∀ {entryId title : Text} {endpoint : Endpoint},
      ∀ id ∈ s.entries.map ConfigEntry.entryId,
        id ∈ (State.updated s.entries entryId title endpoint).map ConfigEntry.entryId := by
    intro entryId title endpoint id hid
    rwa [ids_updated]
  cases Rule.of_step hst with
  | @started entry hcurrent =>
    constructor
    · intro j g hg title endpoint hp
      rcases Table.of_concat hg with hold | ⟨-, rfl⟩
      · exact h.user j g hold title endpoint hp
      · cases hp
    · intro j g hg entryId hentry
      rcases Table.of_concat hg with hold | ⟨-, rfl⟩
      · exact h.entry j g hold entryId hentry
      · obtain rfl : entry = some entryId := hentry
        obtain ⟨current, hsome⟩ := Option.isSome_iff_exists.mp hcurrent
        cases current with
        | none => cases eq_none_of_current hsome
        | some c =>
          obtain ⟨hid, hmem⟩ := mem_of_current hsome
          rw [Option.some.inj hid]
          exact List.mem_map_of_mem hmem
  | dropped hphase =>
    refine h.goesTo (fun _ hid => hid) fun title endpoint heq => ?_
    rw [heq] at hphase
    cases hphase
  | checked => exact h.goesTo (fun _ hid => hid) fun _ _ heq => by cases heq
  | unchanged => exact h.goesTo hsame fun _ _ heq => by cases heq
  | asked hflow =>
    refine h.goesTo (fun _ hid => hid) fun _ _ _ f hf => ?_
    rw [hflow] at hf
    obtain rfl := Option.some.inj hf
    rfl
  | reconfigured => exact h.goesTo hsame fun _ _ heq => by cases heq
  | stored =>
    refine h.goesTo (fun id hid => ?_) fun _ _ heq => by cases heq
    rw [List.map_append]
    exact List.mem_append_left _ hid

/-- One step keeps the endpoints distinct, if it stores none with a rival. -/
lemma Distinct.step (h : Distinct s) (hknown : Known s) (hok : s.Unrivalled e)
    (hst : step lib casefold s e = some t) : Distinct t := by
  cases Rule.of_step hst with
  | @started entry hcurrent =>
    refine ⟨h.ids, h.endpoints, fun j g hg other hother hp => ?_⟩
    rcases Table.of_concat hg with hold | ⟨-, rfl⟩
    · exact h.checked j g hold other hother hp
    · cases hp
  | dropped hphase =>
    refine h.goesTo fun f hf entry hentry hp => ?_
    rw [hphase] at hp
    cases hp
  | checked hflow hcurrent hmatch =>
    refine h.goesTo fun f hf entry hentry hp => ?_
    rw [hflow] at hf
    obtain rfl := Option.some.inj hf
    exact entryId_of_matched hcurrent hmatch hentry (Option.some.inj hp).symm
  | @unchanged _ _ entry _ hentry =>
    apply h.updated rfl
    · intro other hother hdata
      rw [List.inj_on_of_nodup_map h.endpoints hother hentry hdata]
    · intro j g hg _ hp
      exact h.checked j g hg entry hentry hp
  | asked hflow =>
    refine h.goesTo fun f hf entry hentry hp => ?_
    exact h.checked _ f hf entry hentry (by rw [hflow] at hf; cases hf; exact hp)
  | reconfigured hflow hstores =>
    apply h.updated rfl
    · intro other hother hdata
      have hid := h.checked _ _ hflow other hother (congrArg some hdata.symm)
      exact (Option.some.inj hid).symm
    · intro j g hg hne hp
      exact (hok.entry_eq hstores hflow hg hne rfl hp).2.symm
  | @stored i entry entryId title endpoint hflow hfresh =>
    obtain rfl : entry = none := hknown.user i _ hflow title endpoint rfl
    have hnew : endpoint ∉ s.entries.map ConfigEntry.data := by
      intro hmem
      obtain ⟨other, hother, hdata⟩ := List.mem_map.mp hmem
      cases h.checked i _ hflow other hother (congrArg some hdata.symm)
    refine ⟨?_, ?_, fun j g hg other hother hp => ?_⟩
    · rw [List.map_append, List.map_singleton, ← List.concat_eq_append]
      exact h.ids.concat hfresh
    · rw [List.map_append, List.map_singleton, ← List.concat_eq_append]
      exact h.endpoints.concat hnew
    · rcases flow_goesTo hg with ⟨f, hf, rfl, rfl⟩ | ⟨hg, hne⟩
      · cases hp
      rcases List.mem_append.mp hother with hold | hadded
      · exact h.checked j g hg other hold hp
      · obtain rfl := List.mem_singleton.mp hadded
        exact absurd rfl (hok.entry_eq rfl hflow hg hne rfl hp).1

/-! ### Rivals store an endpoint twice -/

/-- The exchange of a probe that succeeds. -/
def reachedReply : Transcript := .source 0x12

lemma asyncGetSource_reachedReply : ∃ status, LsxClient.asyncGetSource reachedReply = .ok status :=
  ⟨_, rfl⟩

/-- Two entries have the same endpoint. -/
def Duplicated (s : State) : Prop := ¬ (s.entries.map ConfigEntry.data).Nodup

lemma duplicated_of_ne {a b : ConfigEntry} (ha : a ∈ s.entries) (hb : b ∈ s.entries)
    (hdata : a.data = b.data) (hne : a.entryId ≠ b.entryId) : Duplicated s := by
  intro hnodup
  rw [List.inj_on_of_nodup_map hnodup ha hb hdata] at hne
  exact hne rfl

variable (lib casefold) in
/-- A user flow that asked for its entry gets it, whatever has happened since. -/
lemma duplicated_of_creating {title : Text} {entry : Option Text} {other : ConfigEntry}
    (hflow : s.flows[i]? = some ⟨entry, .creating title other.data⟩) (hother : other ∈ s.entries) :
    ∃ u, Transition.Reachable (step lib casefold) s u ∧ Duplicated u := by
  obtain ⟨entryId, hfresh⟩ :=
    Infinite.exists_notMem_finset (s.entries.map ConfigEntry.entryId).toFinset
  rw [List.mem_toFinset] at hfresh
  have hst : step lib casefold s (.stored i entryId) = some { s.goesTo i .created with
      entries := s.entries ++ [{ entryId := entryId, title := title, data := other.data }] } := by
    simp only [step, hflow, if_neg (mt any_entryId.mp hfresh)]
  refine ⟨_, .tail .refl trivial hst, ?_⟩
  have hid : other.entryId ≠ entryId := fun heq => hfresh (heq ▸ List.mem_map_of_mem hother)
  exact duplicated_of_ne (List.mem_append_left _ hother)
    (List.mem_append_right _ (List.mem_singleton_self _)) rfl hid

variable (lib casefold) in
/-- A flow may store the endpoint of another entry, if it is about to. -/
lemma duplicated_of_flow (hknown : Known s) {g : Flow} {other : ConfigEntry}
    (hflow : s.flows[i]? = some g) (hother : other ∈ s.entries)
    (hp : g.phase.endpoint = some other.data) (hne : g.entry ≠ some other.entryId) :
    ∃ u, Transition.Reachable (step lib casefold) s u ∧ Duplicated u := by
  obtain ⟨status, hreply⟩ := asyncGetSource_reachedReply
  obtain ⟨entry, phase⟩ := g
  cases phase with
  | creating title endpoint =>
    obtain rfl : endpoint = other.data := Option.some.inj hp
    exact duplicated_of_creating lib casefold hflow hother
  | probing name endpoint =>
    obtain rfl : endpoint = other.data := Option.some.inj hp
    cases entry with
    | none =>
      have hst : step lib casefold s (.probed i reachedReply) =
          some (s.accept casefold i none name other.data) := by
        simp only [step, hflow, hreply, State.current, Option.map_some]
      have hasked : (s.accept casefold i none name other.data).flows[i]? =
          some ⟨none, .creating (s.title casefold none name) other.data⟩ := by
        simp only [State.accept, State.goesTo, List.getElem?_modify_eq, hflow]
        rfl
      obtain ⟨u, hu, hdup⟩ := duplicated_of_creating lib casefold hasked hother
      exact ⟨u, (Transition.Reaches.tail .refl trivial hst).trans hu, hdup⟩
    | some entryId =>
      have hsome : (s.entries.find? fun entry => entry.entryId = entryId).isSome := by
        obtain ⟨c, hc, hid⟩ := List.mem_map.mp (hknown.entry i _ hflow entryId rfl)
        exact List.find?_isSome.mpr ⟨c, hc, decide_eq_true hid⟩
      obtain ⟨c, hfind⟩ := Option.isSome_iff_exists.mp hsome
      have hcurrent : s.current (some entryId) = some (some c) := by
        simp only [State.current, hfind, Option.map_some]
      obtain ⟨hid, hc⟩ := mem_of_current hcurrent
      have hother' : other.entryId ≠ c.entryId :=
        fun heq => hne (hid.trans (congrArg some heq.symm))
      have hst : step lib casefold s (.probed i reachedReply) =
          some (s.accept casefold i (some c) name other.data) := by
        simp only [step, hflow, hreply, hcurrent, Option.map_some]
      refine ⟨_, .tail .refl trivial hst, ?_⟩
      refine duplicated_of_ne (List.mem_map.mpr ⟨other, hother, if_neg hother'⟩)
        (List.mem_map.mpr ⟨c, hc, if_pos rfl⟩) rfl hother'
  | _ => cases hp

/-- After a flow has stored its endpoint, an entry has it, which is its own or a new one; the other
flows are where they were. -/
lemma stored_of_stores (hknown : Known s) {f : Flow} (hstores : s.stores e = some i)
    (hflow : s.flows[i]? = some f) (hst : step lib casefold s e = some t) :
    (∃ entry ∈ t.entries, f.phase.endpoint = some entry.data ∧
      (f.entry = some entry.entryId ∨
        f.entry = none ∧ entry.entryId ∉ s.entries.map ConfigEntry.entryId)) ∧
      ∀ j, j ≠ i → t.flows[j]? = s.flows[j]? := by
  have hothers : ∀ {phase : Phase} (j : ℕ), j ≠ i →
      (s.goesTo i phase).flows[j]? = s.flows[j]? := by
    intro phase j hne
    simp only [State.goesTo, List.getElem?_modify, if_neg hne.symm, Option.map_eq_map,
      Option.map_id']
  unfold State.stores at hstores
  split at hstores
  · rename_i i' reply
    split at hstores
    · rename_i entryId name endpoint status hflow' hreply
      obtain rfl : i' = i := Option.some.inj hstores
      obtain rfl := Option.some.inj (hflow'.symm.trans hflow)
      simp only [step, hflow', hreply] at hst
      obtain ⟨current, hcurrent, rfl⟩ := Option.map_eq_some_iff.mp hst
      cases current with
      | none => cases eq_none_of_current hcurrent
      | some c =>
        obtain ⟨hid, hc⟩ := mem_of_current hcurrent
        exact ⟨⟨_, List.mem_map.mpr ⟨c, hc, if_pos rfl⟩, rfl, .inl hid⟩, hothers⟩
    · cases hstores
  · rename_i i' entryId
    obtain rfl : i' = i := Option.some.inj hstores
    simp only [step] at hst
    split at hst
    · rename_i entry title endpoint hflow'
      obtain rfl := Option.some.inj (hflow'.symm.trans hflow)
      split at hst
      · cases hst
      · rename_i hfresh
        cases hst
        have hnone : entry = none := hknown.user i' _ hflow title endpoint rfl
        exact ⟨⟨_, List.mem_append_right _ (List.mem_singleton_self _), rfl,
          .inr ⟨hnone, mt any_entryId.mpr hfresh⟩⟩, hothers⟩
    · cases hst
  · cases hstores

lemma known_of_reachable {entries : List ConfigEntry}
    (h : Transition.Reachable (step lib casefold) { entries := entries } s) : Known s := by
  refine h.invariant (I := Known) ⟨?_, ?_⟩ ?_
  · intro j g hg
    cases hg
  · intro j g hg
    cases hg
  · intro s t e _ hs _ hst
    exact hs.step hst

/-- The endpoints of the entries stay distinct in the runs in which no flow stores an endpoint
while a rival is about to store it. Where one does, the rival may store it a second time. -/
theorem endpoints_distinct (lib : Stdlib) (casefold : Casefold) (entries : List ConfigEntry)
    (hids : (entries.map ConfigEntry.entryId).Nodup)
    (hdata : (entries.map ConfigEntry.data).Nodup) :
    (∀ s, Transition.Reaches (step lib casefold) State.Unrivalled { entries := entries } s →
      (s.entries.map ConfigEntry.data).Nodup) ∧
    ∀ s t e, Transition.Reachable (step lib casefold) { entries := entries } s →
      step lib casefold s e = some t → ¬ s.Unrivalled e →
      ∃ u, Transition.Reachable (step lib casefold) t u ∧
        ¬ (u.entries.map ConfigEntry.data).Nodup := by
  constructor
  · intro s h
    have hdistinct : Distinct s := by
      refine h.invariant (I := Distinct) ⟨hids, hdata, ?_⟩ ?_
      · intro j g hg
        cases hg
      · intro s t e hr hs hok hst
        exact hs.step (known_of_reachable hr.reachable) hok hst
    exact hdistinct.endpoints
  · intro s t e h hst hrival
    have hknown := known_of_reachable h
    simp only [State.Unrivalled, not_forall, not_not] at hrival
    obtain ⟨i, hstores, j, -, hne, f, hf, g, hg, -, hsame, hentry⟩ := hrival
    obtain ⟨⟨entry, hmem, hdata, hown⟩, hothers⟩ := stored_of_stores hknown hstores hf hst
    have hflow : t.flows[j]? = some g := by
      rw [hothers j hne]
      exact hg
    apply duplicated_of_flow lib casefold (hknown.step hst) hflow hmem (hsame ▸ hdata)
    intro hgentry
    rcases hown with hown | ⟨-, hnew⟩
    · rcases hentry with hnone | hdiffer
      · rw [hnone] at hown
        cases hown
      · exact hdiffer (hown.trans hgentry.symm)
    · exact hnew (hknown.entry j g hg _ hgentry)

/-- A form filled in with a name and a host. -/
def input (name host : String) : UserInput :=
  { name := name.toList, host := host.toList, port := 50001 }

/-- An entry that is already there. -/
def desk : ConfigEntry :=
  { entryId := ['1'], title := "Desk".toList, data := ⟨"desk.local".toList, 50001⟩ }

/-- One entry, and two flows for other endpoints: one creates an entry, and one gives the first
entry another endpoint. -/
theorem endpoints_distinct_kitchen : ∃ s : State,
    s.entries.map ConfigEntry.data =
      [⟨"bath.local".toList, 50001⟩, ⟨"kitchen.local".toList, 50001⟩] ∧
    (s.entries.map ConfigEntry.data).Nodup := by
  have hrun : (Transition.run
      (Transition.guarded (step Host.linkLocal latinCasefold) fun s e => s.Unrivalled e)
      [.start none, .start (some ['1']), .submit 0 (input "Kitchen" " Kitchen.Local "),
        .submit 1 (input "Bath" "[bath.local]"), .probed 1 reachedReply, .probed 0 reachedReply,
        .stored 0 ['2']] { entries := [desk] }).any
      (fun s => s.entries.map ConfigEntry.data =
        [⟨"bath.local".toList, 50001⟩, ⟨"kitchen.local".toList, 50001⟩]) = true := by
    decide +kernel
  obtain ⟨s, hs, hentries⟩ := Transition.exists_reachable_of_run hrun
  refine ⟨s, of_decide_eq_true hentries, ?_⟩
  refine (endpoints_distinct Host.linkLocal latinCasefold [desk] (by decide) (by decide)).1 s ?_
  exact (Transition.Reaches.of_guarded hs).mono fun _ _ => of_decide_eq_true

/-- Two user flows for the same endpoint both pass the check before one of them stores it. -/
theorem not_endpoints_distinct_twice : ∃ s : State,
    Transition.Reachable (step Host.linkLocal latinCasefold) { entries := [] } s ∧
    s.entries.map ConfigEntry.data =
      [⟨"desk.local".toList, 50001⟩, ⟨"desk.local".toList, 50001⟩] ∧
    ¬ (s.entries.map ConfigEntry.data).Nodup := by
  have hrun : (Transition.run (step Host.linkLocal latinCasefold)
      [.start none, .start none, .submit 0 (input "Desk" "desk.local"),
        .submit 1 (input "Shelf" "DESK.local."), .probed 0 reachedReply, .probed 1 reachedReply,
        .stored 0 ['1'], .stored 1 ['2']] { entries := [] }).any
      (fun s => s.entries.map ConfigEntry.data =
        [⟨"desk.local".toList, 50001⟩, ⟨"desk.local".toList, 50001⟩]) = true := by
    decide +kernel
  obtain ⟨s, hs, hentries⟩ := Transition.exists_reachable_of_run hrun
  have hdata := of_decide_eq_true hentries
  refine ⟨s, hs, hdata, ?_⟩
  rw [hdata]
  decide

end ConfigFlow

end KefLsx
