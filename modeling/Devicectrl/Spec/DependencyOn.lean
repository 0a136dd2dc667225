import Devicectrl.Native.NotificationCalls
import Devicectrl.Spec.DependencyCascade

/-!
# Dependencies that follow their dependent on

What the automation turns on once a device is turned on. It looks a device up by its first
relationship, and receives the hooks of its own requests, so it works its way along the chain of
first relationships; a second relationship of a device is never looked at.

`Answered` and `Caused` are the two halves of the invariant: no hook that was heard is forgotten,
and nothing is turned on without one.

## Key results

- `requested_iff`: at rest, the devices the automation has turned on are those on the chain of a
  device that was turned on
- `followsOn_iff`: every dependency of a device follows it on exactly when all of them are on its
  chain
-/

namespace Devicectrl.Dependencies

variable {config : DependencyAutomationConfig} {devices : Devices} {controllers : Controllers}
  {st st' : State} {app app' : AppState} {k k' : Automation} {l : Label} {as bs : List Act}
  {d e : DeviceId}

/-! ## Relationships -/

/-- The relationships lead from device `d` to device `e`. -/
def Reaches (config : DependencyAutomationConfig) : DeviceId → DeviceId → Prop :=
  Relation.TransGen fun d e => ⟨d, e⟩ ∈ config

/-- No device needs itself, directly or through others. -/
def Acyclic (config : DependencyAutomationConfig) : Prop :=
  ∀ d, ¬Reaches config d d

/-- First relationships lead from device `d` to device `e`. -/
abbrev OnChain (config : DependencyAutomationConfig) : DeviceId → DeviceId → Prop :=
  Chain.Follows (dependency config)

/-- Every relationship of device `d`, or of a device on its chain, leads to a device on the
chain. -/
def Linear (config : DependencyAutomationConfig) (d : DeviceId) : Prop :=
  ∀ r ∈ config, (r.dependentId = d ∨ OnChain config d r.dependentId) →
    OnChain config d r.dependencyId

/-- What `find` comes to is one of the relationships. -/
theorem mem_of_dependency (h : dependency config d = some e) : ⟨d, e⟩ ∈ config := by
  obtain ⟨r, hr, rfl⟩ := Option.map_eq_some_iff.mp h
  obtain rfl : r.dependentId = d := by simpa using List.find?_some hr
  exact List.mem_of_find?_eq_some hr

/-- A device on the chain is one that is reached. -/
theorem reaches_of_onChain (h : OnChain config d e) : Reaches config d e := by
  induction h with
  | single h => exact .single (mem_of_dependency h)
  | tail _ h ih => exact ih.tail (mem_of_dependency h)

/-- All that a device reaches is on its chain exactly when the chain leaves nothing out. -/
theorem linear_iff : Linear config d ↔ ∀ e, Reaches config d e → OnChain config d e := by
  constructor
  · intro hl e h
    induction h with
    | single hr => exact hl _ hr (.inl rfl)
    | tail _ hr ih => exact hl _ hr (.inr ih)
  · rintro h ⟨a, b⟩ hr (hd | ha)
    · obtain rfl : a = d := hd
      exact h b (.single hr)
    · exact h b ((reaches_of_onChain ha).tail hr)

/-- A chain that never comes back to a device ends. -/
theorem Acyclic.terminates (h : Acyclic config) (d : DeviceId) :
    Chain.Terminates (dependency config) d := by
  have hvalues : ∀ a b, dependency config a = some b →
      b ∈ config.map DependencyRelationship.dependencyId := by
    intro a b hab
    exact List.mem_map.mpr ⟨_, mem_of_dependency hab, rfl⟩
  exact Chain.terminates_of_acyclic hvalues (fun a ha => h a (reaches_of_onChain ha)) d

/-- Relationships that lead to devices of lower and lower rank have no cycle. -/
theorem acyclic_of_rank (rank : DeviceId → Nat)
    (h : ∀ r ∈ config, rank r.dependencyId < rank r.dependentId) : Acyclic config := by
  intro d hd
  have hrank (e : DeviceId) (he : Reaches config d e) : rank e < rank d := by
    induction he with
    | single hr => exact h _ hr
    | tail _ hr ih => exact Nat.lt_trans (h _ hr) ih
  exact Nat.lt_irrefl _ (hrank d hd)

/-! ## Answers that turn a device on -/

/-- A hook that turns a device on is answered by turning its dependency on. -/
theorem onEvent_of_turnsOn {hook : Hook} (h : turnsOn hook = some d) :
    onEvent config hook = (dependency config d).map fun e =>
      (⟨e, .power .on⟩, "failed to process dependent update request") := by
  unfold turnsOn at h
  split at h
  · cases h
    simp only [onEvent, dependency]
    cases find config d <;> rfl
  · cases h
    simp only [onEvent, dependency]
    cases find config d <;> rfl
  · cases h

/-- Only such a hook is answered by turning a device on. -/
theorem turnsOn_of_onEvent {hook : Hook} {context : String}
    (h : onEvent config hook = some (⟨e, .power .on⟩, context)) :
    ∃ d, turnsOn hook = some d ∧ dependency config d = some e := by
  cases hook with
  -- The dispatch turns its device on, since it is looked up
  | deviceUpdateDispatch request =>
    obtain ⟨d, update⟩ := request
    simp only [onEvent] at h
    split at h
    · rename_i r hf
      cases h
      exact ⟨d, rfl, by simp [dependency, hf]⟩
    · cases h
  -- The report is `On`, since the answer is
  | deviceStateUpdate update =>
    obtain ⟨d, reachable, state⟩ := update
    simp only [onEvent] at h
    split at h
    · rename_i r hf
      cases h
      exact ⟨d, rfl, by simp [dependency, hf]⟩
    · cases h
    · cases h
  | sceneActivate scene => cases h

/-! ## No hook is forgotten -/

/-- The automation has heard of the hook, from another task or from its own request. -/
def State.Heard (st : State) (hook : Hook) : Prop :=
  hook ∈ st.heard ∨ ∃ request ∈ st.requests, hook = .deviceUpdateDispatch request

/-- The request was made, or is about to be. -/
def State.Asks (st : State) (request : UpdateRequest) : Prop :=
  request ∈ st.requests ∨ st.automation.request? = some request

/-- Every hook is either still before the automation or answered. -/
def Answered (config : DependencyAutomationConfig) (st : State) : Prop :=
  ∀ hook, st.Heard hook → hook ∈ unread st.app st.automation ∨
    ∀ request context, onEvent config hook = some (request, context) → st.Asks request

/-- What is heard after a step of its own was heard before, or is its own request. -/
theorem heard_own (h : exec config st (.own l) = some st') {hook : Hook} (hh : st'.Heard hook) :
    st.Heard hook ∨
      ∃ request, st.automation.request? = some request ∧ hook = .deviceUpdateDispatch request := by
  obtain ⟨-, hheard, hrequests⟩ := exec_own h
  rcases hh with hh | ⟨request, hmem, rfl⟩
  · rw [hheard] at hh
    exact .inl (.inl hh)
  · rw [hrequests, List.mem_append] at hmem
    rcases hmem with hmem | hmem
    · exact .inl (.inr ⟨request, hmem, rfl⟩)
    · exact .inr ⟨request, Option.mem_toList.mp hmem, rfl⟩

/-- Once it is asked for, a request is made. -/
theorem asks_own (h : exec config st (.own l) = some st') {request : UpdateRequest}
    (ha : st.Asks request) : st'.Asks request := by
  obtain ⟨-, -, hrequests⟩ := exec_own h
  refine .inl ?_
  rw [hrequests]
  rcases ha with ha | ha
  · exact List.mem_append_left _ ha
  · exact List.mem_append_right _ (Option.mem_toList.mpr ha)

/-- What was heard and what was answered stays so. It is left to say where the hooks are that
were unread, and the hook of a request that the automation makes. -/
theorem Answered.advance (ha : Answered config st) (h : exec config st (.own l) = some st')
    (hunread : ∀ hook ∈ unread st.app st.automation, hook ∈ unread st'.app st'.automation ∨
      ∀ request context, onEvent config hook = some (request, context) → st'.Asks request)
    (hown : ∀ request, st.automation.request? = some request →
      .deviceUpdateDispatch request ∈ unread st'.app st'.automation) : Answered config st' := by
  intro hook hh
  rcases heard_own h hh with hh | ⟨request, hrequest, rfl⟩
  · rcases ha hook hh with hmem | hanswered
    · exact hunread hook hmem
    · exact .inr fun request context ho => asks_own h (hanswered request context ho)
  · exact .inl (hown request hrequest)

/-- As long as it succeeds, a step of the automation forgets no hook. -/
theorem Answered.own (ha : Answered config st) (hw : WellFormed st.app st.automation)
    (h : exec config st (.own l) = some st') (hne : ∀ e, st'.automation ≠ .returned e) :
    Answered config st' := by
  obtain ⟨hstep, -, -⟩ := exec_own h
  apply ha.advance h
  · intro hook hmem
    clear h
    obtain ⟨app, k, requests, heard⟩ := st
    obtain ⟨app', k', requests', heard'⟩ := st'
    cases hstep with
    | subscribe => exact absurd hmem List.not_mem_nil
    | lag h => exact absurd rfl (hne _)
    | ignore h ho =>
      -- The hook that is read calls for no answer
      rw [unread_received h, List.mem_cons] at hmem
      rcases hmem with rfl | hmem
      · exact .inr fun request context ho' => nomatch ho.symm.trans ho'
      · exact .inl hmem
    | answer h ho =>
      rw [unread_received h, List.mem_cons] at hmem
      rcases hmem with rfl | hmem
      · refine .inr fun request context ho' => .inr ?_
        cases ho.symm.trans ho'
        rfl
      · exact .inl hmem
    | refuse h => exact absurd rfl (hne _)
    | request h =>
      refine .inl ?_
      show hook ∈ app'.hooks.sender.unread _
      rw [unread_requested hw h]
      exact List.mem_append_left _ hmem
    | fail h => exact absurd rfl (hne _)
    | succeed h => exact .inl hmem
  · intro request hrequest
    clear h
    obtain ⟨app, k, requests, heard⟩ := st
    obtain ⟨app', k', requests', heard'⟩ := st'
    cases hstep with
    | request h =>
      -- Its own hook is before the automation from now on
      cases hrequest
      show _ ∈ app'.hooks.sender.unread _
      rw [unread_requested hw h]
      exact List.mem_append_right _ (List.mem_singleton_self _)
    | refuse h => exact absurd rfl (hne _)
    | _ => cases hrequest

/-- Other tasks leave no hook unanswered that was read. -/
theorem Answered.other {task : Task} (ha : Answered config st)
    (hw : WellFormed st.app st.automation) (h : exec config st (.other task) = some st') :
    Answered config st' := by
  obtain ⟨ht, hk, hrequests, hheard⟩ := exec_other h
  have hunread := unread_other hw ht
  have hasks {request : UpdateRequest} (ha : st.Asks request) : st'.Asks request := by
    rw [State.Asks, hrequests, hk]
    exact ha
  -- What was heard before stays where it was
  have hkeep {hook : Hook} (hh : st.Heard hook) : hook ∈ unread st'.app st'.automation ∨
      ∀ request context, onEvent config hook = some (request, context) → st'.Asks request := by
    rcases ha hook hh with hmem | hanswered
    · refine .inl ?_
      rw [hk, hunread]
      exact List.mem_append_left _ hmem
    · exact .inr fun request context ho => hasks (hanswered request context ho)
  rintro hook (hh | ⟨request, hmem, rfl⟩)
  · rw [hheard] at hh
    split at hh
    · rename_i hsome
      rcases List.mem_append.mp hh with hh | hh
      · exact hkeep (.inl hh)
      · refine .inl ?_
        rw [hk, hunread, if_pos hsome]
        exact List.mem_append_right _ hh
    · exact hkeep (.inl hh)
  · rw [hrequests] at hmem
    exact hkeep (.inr ⟨request, hmem, rfl⟩)

/-! ## Nothing is turned on without a cause -/

/-- Device `e` is on the chain of a device that a hook of another task turned on. -/
def TurnedOn (config : DependencyAutomationConfig) (heard : List Hook) (e : DeviceId) : Prop :=
  ∃ hook ∈ heard, ∃ d, turnsOn hook = some d ∧ OnChain config d e

/-- More hooks turn on no fewer devices. -/
theorem TurnedOn.mono {heard heard' : List Hook} (h : heard ⊆ heard')
    (ht : TurnedOn config heard e) : TurnedOn config heard' e := by
  obtain ⟨hook, hmem, hd⟩ := ht
  exact ⟨hook, h hmem, hd⟩

/-- Every hook that the automation has yet to receive was heard, and it turns a device on only
along the chain of one that was turned on. -/
structure Caused (config : DependencyAutomationConfig) (st : State) : Prop where
  unread : ∀ hook ∈ unread st.app st.automation, st.Heard hook
  asks : ∀ e, st.Asks ⟨e, .power .on⟩ → TurnedOn config st.heard e

/-- The answer to a hook that was heard turns a device of a chain on. -/
theorem Caused.answer (hc : Caused config st) {hook : Hook} {context : String}
    (hh : st.Heard hook) (ho : onEvent config hook = some (⟨e, .power .on⟩, context)) :
    TurnedOn config st.heard e := by
  obtain ⟨d, hd, he⟩ := turnsOn_of_onEvent ho
  rcases hh with hh | ⟨request, hmem, rfl⟩
  · exact ⟨hook, hh, d, hd, .single he⟩
  · obtain rfl := turnsOn_dispatch_iff.mp hd
    obtain ⟨hook', hmem', d', hd', hchain⟩ := hc.asks d (.inl (hmem))
    exact ⟨hook', hmem', d', hd', hchain.tail he⟩

/-- A step asks for nothing but what it was about to, or the answer to what it received. -/
theorem asks_own_inv (h : exec config st (.own l) = some st') {request : UpdateRequest}
    (ha : st'.Asks request) : st.Asks request ∨
      ∃ hook ∈ unread st.app st.automation, ∃ context,
        onEvent config hook = some (request, context) := by
  obtain ⟨hstep, -, hrequests⟩ := exec_own h
  -- The state is taken apart, so that the requests are those of one more step
  clear h
  obtain ⟨app, k, requests, heard⟩ := st
  obtain ⟨app', k', requests', heard'⟩ := st'
  obtain rfl : requests' = requests ++ k.request?.toList := hrequests
  rcases ha with hmem | hr
  · rcases List.mem_append.mp hmem with hmem | hmem
    · exact .inl (.inl hmem)
    · exact .inl (.inr (Option.mem_toList.mp hmem))
  · -- a request in hand is new, so the hook it answers has just been received
    cases hstep with
    | answer h ho =>
      cases hr
      exact .inr ⟨_, by rw [unread_received h]; exact List.mem_cons_self, _, ho⟩
    | subscribe => exact nomatch hr
    | lag h => exact nomatch hr
    | ignore h ho => exact nomatch hr
    | refuse h => exact nomatch hr
    | request h => exact nomatch hr
    | fail h => exact nomatch hr
    | succeed h => exact nomatch hr

/-- What a step leaves to be received was there before, or is the hook of its own request. -/
theorem unread_own (hw : WellFormed st.app st.automation)
    (h : exec config st (.own l) = some st') {hook : Hook}
    (hmem : hook ∈ unread st'.app st'.automation) : hook ∈ unread st.app st.automation ∨
      ∃ request ∈ st'.requests, hook = .deviceUpdateDispatch request := by
  obtain ⟨hstep, -, hrequests⟩ := exec_own h
  clear h
  obtain ⟨app, k, requests, heard⟩ := st
  obtain ⟨app', k', requests', heard'⟩ := st'
  obtain rfl : requests' = requests ++ k.request?.toList := hrequests
  cases hstep with
  -- Nothing was unread by a receiver that is just made
  | subscribe =>
    have hnil := Broadcast.Channel.unread_resubscribe app.hooks.sender
    have hmem' : hook ∈ app.hooks.sender.resubscribe.1.unread app.hooks.sender.resubscribe.2 := hmem
    rw [hnil] at hmem'
    exact absurd hmem' List.not_mem_nil
  | lag h => exact absurd hmem List.not_mem_nil
  | ignore h ho =>
    rw [unread_received h]
    exact .inl (List.mem_cons_of_mem _ hmem)
  | answer h ho =>
    rw [unread_received h]
    exact .inl (List.mem_cons_of_mem _ hmem)
  | refuse h => exact absurd hmem List.not_mem_nil
  | @request rx request context device _ h =>
    -- Of what is unread only the hook of the request is new
    have hunread := unread_requested hw h
    have hmem' : hook ∈ app'.hooks.sender.unread rx := hmem
    rw [hunread, List.mem_append, List.mem_singleton] at hmem'
    rcases hmem' with hmem' | rfl
    · exact .inl hmem'
    · exact .inr ⟨request, List.mem_append_right _ (List.mem_singleton_self _), rfl⟩
  | fail h => exact absurd hmem List.not_mem_nil
  | succeed h => exact .inl hmem

/-- The automation asks for nothing without a cause. -/
theorem Caused.own (hc : Caused config st) (hw : WellFormed st.app st.automation)
    (h : exec config st (.own l) = some st') : Caused config st' := by
  obtain ⟨-, hheard, hrequests⟩ := exec_own h
  refine ⟨fun hook hmem => ?_, fun e ha => ?_⟩
  · rcases unread_own hw h hmem with hmem | hrequest
    · rcases hc.unread hook hmem with hh | ⟨request, hr, rfl⟩
      · exact .inl (by rw [hheard]; exact hh)
      · exact .inr ⟨request, by rw [hrequests]; exact List.mem_append_left _ hr, rfl⟩
    · exact .inr hrequest
  · rw [hheard]
    rcases asks_own_inv h ha with ha | ⟨hook, hmem, context, ho⟩
    · exact hc.asks e ha
    · exact hc.answer (hc.unread hook hmem) ho

/-- Other tasks make it ask for nothing. -/
theorem Caused.other {task : Task} (hc : Caused config st)
    (hw : WellFormed st.app st.automation) (h : exec config st (.other task) = some st') :
    Caused config st' := by
  obtain ⟨ht, hk, hrequests, hheard⟩ := exec_other h
  have hunread := unread_other hw ht
  refine ⟨fun hook hmem => ?_, fun e ha => ?_⟩
  · -- what was unread is still caused, and a hook of another task was heard
    rw [hk, hunread] at hmem
    rcases List.mem_append.mp hmem with hmem | hmem
    · rcases hc.unread hook hmem with hh | ⟨request, hr, rfl⟩
      · exact .inl (heard_subset h hh)
      · exact .inr ⟨request, by rw [hrequests]; exact hr, rfl⟩
    · -- a hook is heard only by an automation that listens
      split at hmem
      · rename_i hsome
        refine .inl ?_
        rw [hheard, if_pos hsome]
        exact List.mem_append_right _ hmem
      · exact absurd hmem List.not_mem_nil
  · rw [State.Asks, hrequests, hk] at ha
    exact (hc.asks e ha).mono (heard_subset h)

/-! ## Runs -/

/-- In every run what was asked for has a cause. -/
theorem run_caused (h : run config (initial devices controllers) as = some st) :
    Caused config st := by
  -- The two invariants are kept together: the second needs the first
  have hstep : ∀ s a s', (WellFormed s.app s.automation ∧ Caused config s) →
      exec config s a = some s' → WellFormed s'.app s'.automation ∧ Caused config s' := by
    rintro s a s' ⟨hw, hc⟩ hexec
    refine ⟨exec_wellFormed hw hexec, ?_⟩
    cases a with
    | own l => exact hc.own hw hexec
    | other task => exact hc.other hw hexec
  refine (Lts.run_invariant _ hstep h ⟨.initial devices controllers, ?_, ?_⟩).2
  · exact fun _ hmem => absurd hmem List.not_mem_nil
  · rintro e (hmem | hr)
    · exact absurd hmem List.not_mem_nil
    · exact nomatch hr

/-- In a run that succeeds every hook that was read is answered. -/
theorem run_answered (h : run config (initial devices controllers) as = some st)
    (hs : RunSucceeds config (initial devices controllers) as) : Answered config st := by
  -- Both are kept as long as the actions succeed
  have hstep : ∀ s a s', (WellFormed s.app s.automation ∧ Answered config s) →
      Act.Succeeds s a → exec config s a = some s' →
      WellFormed s'.app s'.automation ∧ Answered config s' := by
    rintro s a s' ⟨hw, ha⟩ hs hexec
    refine ⟨exec_wellFormed hw hexec, ?_⟩
    cases a with
    | own l => exact ha.own hw hexec (((exec_own hexec).1.succeeds_iff hw).mp hs)
    | other task => exact ha.other hw hexec
  refine (Lts.run_invariant_along _ hstep hs h ⟨.initial devices controllers, ?_⟩).2
  rintro hook (hmem | ⟨request, hmem, -⟩)
  · exact absurd hmem List.not_mem_nil
  · exact absurd hmem List.not_mem_nil

/-- At rest, the requests that the automation has made to turn a device on are those for the
devices on the chains of the devices that were turned on. -/
theorem requested_iff (h : run config (initial devices controllers) as = some st)
    (hs : RunSucceeds config (initial devices controllers) as) (hq : Quiet st) :
    ⟨e, .power .on⟩ ∈ st.requests ↔ TurnedOn config st.heard e := by
  constructor
  · intro hmem
    exact (run_caused h).asks e (.inl hmem)
  · rintro ⟨hook, hmem, d, hd, hchain⟩
    obtain ⟨⟨rx, hk⟩, hunread⟩ := hq
    -- At rest a hook that was heard has been answered
    have hanswered {hook : Hook} (hh : st.Heard hook) {d e : DeviceId}
        (hd : turnsOn hook = some d) (he : dependency config d = some e) :
        ⟨e, .power .on⟩ ∈ st.requests := by
      rcases run_answered h hs hook hh with hmem | hanswered
      · rw [hunread] at hmem
        exact absurd hmem List.not_mem_nil
      · have ho := @onEvent_of_turnsOn config d hook hd
        rw [he, Option.map_some] at ho
        rcases hanswered _ _ ho with hr | hr
        · exact hr
        · rw [hk] at hr
          exact nomatch hr
    induction hchain with
    | single he => exact hanswered (.inl hmem) hd he
    | tail _ he ih => exact hanswered (.inr ⟨_, ih, rfl⟩) rfl he

/-! ## Coming to rest -/

/-- An automation that is ready, and has only chains before it that end, comes to rest. -/
theorem Ready.drains (hr : Ready config st.app st.automation)
    (hw : WellFormed st.app st.automation) (hlistens : st.automation.receiver?.isSome = true)
    (he : Ending config st.app st.automation) :
    ∃ bs st', (∀ b ∈ bs, b.isOwn = true) ∧ RunSucceeds config st bs ∧
      run config st bs = some st' ∧ st'.heard = st.heard ∧ Quiet st' := by
  -- On the work before it
  induction hn : work config st.app st.automation generalizing st with
  | zero =>
    have hquiet : Quiet st := by
      have hwork := hn
      by_contra hbusy
      obtain ⟨l, app', k', hstart, hs, -, -⟩ := hr.step hw hlistens
        fun rx hk hnil => hbusy ⟨⟨rx, hk⟩, hnil⟩
      have hdone := (startAutomation_cases hstart).work_eq hw he hs
      omega
    exact ⟨[], st, fun _ hmem => absurd hmem List.not_mem_nil, trivial, rfl, rfl, hquiet⟩
  | succ n ih =>
    by_cases hquiet : Quiet st
    · exact ⟨[], st, fun _ hmem => absurd hmem List.not_mem_nil, trivial, rfl, rfl, hquiet⟩
    · obtain ⟨l, app', k', hstart, hs, hr', hlistens'⟩ := hr.step hw hlistens
        fun rx hk hnil => hquiet ⟨⟨rx, hk⟩, hnil⟩
      let m : State :=
        { st with
          app := app'
          automation := k'
          requests := st.requests ++ st.automation.request?.toList }
      have hexec : exec config st (.own l) = some m := by
        rw [exec, hstart, Option.map_some]
      have hstep := startAutomation_cases hstart
      have hwork : work config m.app m.automation + 1 = work config st.app st.automation :=
        hstep.work_eq hw he hs
      have hm : Ready config m.app m.automation := hr'
      obtain ⟨bs, st', hown, hsucceeds, hrun, hheard, hq⟩ :=
        ih hm (hstep.wellFormed hw) hlistens' (hstep.ending hw he) (by omega)
      refine ⟨.own l :: bs, st', fun b hmem => ?_, (Lts.along_cons _ hexec).mpr ⟨hs, hsucceeds⟩,
        ?_, hheard, hq⟩
      · rcases List.mem_cons.mp hmem with rfl | hmem
        · rfl
        · exact hown b hmem
      · rw [run, Lts.run_cons_of _ hexec]
        exact hrun

/-- A table with every dependency. -/
def inPlace (config : DependencyAutomationConfig) : Devices :=
  config.foldr (fun r devices => devices.insert r.dependencyId
    ⟨r.dependencyId, .switch, .unknown, .simple ⟨⟨[]⟩⟩⟩) ∅

/-- Every dependency is a device that is in place. -/
theorem inPlace_lookup {r : DependencyRelationship} (h : r ∈ config) :
    (inPlace config).lookup r.dependencyId =
      some ⟨r.dependencyId, .switch, .unknown, .simple ⟨⟨[]⟩⟩⟩ := by
  induction config with
  | nil => exact absurd h List.not_mem_nil
  | cons r' config ih =>
    by_cases he : r.dependencyId = r'.dependencyId
    · show (AList.insert r'.dependencyId _ _).lookup r.dependencyId = _
      rw [he]
      exact AList.lookup_insert _
    · -- a later entry of the list is below this one
      show (AList.insert r'.dependencyId _ _).lookup r.dependencyId = _
      rw [AList.lookup_insert_ne he]
      rcases List.mem_cons.mp h with rfl | h
      · exact absurd rfl he
      · exact ih h

/-- The automation subscribes, and somebody turns device `d` on. -/
def turnOn (d : DeviceId) : List Act :=
  [.own .poll, .other (.sendHook (.deviceUpdateDispatch ⟨d, .power .on⟩))]

/-- With the dependencies in place, the automation comes to rest after a device of an acyclic
configuration has been turned on. -/
theorem turnOn_drains (h : Acyclic config) (d : DeviceId) :
    ∃ devices controllers bs st, run config (initial devices controllers) (turnOn d ++ bs) =
        some st ∧ RunSucceeds config (initial devices controllers) (turnOn d ++ bs) ∧
      (∀ b ∈ bs, b.isOwn = true) ∧ st.heard = [.deviceUpdateDispatch ⟨d, .power .on⟩] ∧
      Quiet st := by
  -- The devices of the relationships are there, and the Simple controller is enabled
  let controllers : Controllers := ⟨true, false, false, false⟩
  have hstart : ∃ m, run config (initial (inPlace config) controllers) (turnOn d) = some m ∧
      m.heard = [.deviceUpdateDispatch ⟨d, .power .on⟩] ∧ m.automation = .receiving ⟨0⟩ ∧
      m.app.hooks.sender.unread ⟨0⟩ = [.deviceUpdateDispatch ⟨d, .power .on⟩] ∧
      m.app.devices = inPlace config ∧ m.app.controllers = controllers :=
    ⟨_, rfl, rfl, rfl, rfl, rfl, rfl⟩
  obtain ⟨m, hm, hheard, hk, hunread, hdevices, hcontrollers⟩ := hstart
  -- The automation is ready to answer
  have hready : Ready config m.app m.automation := by
    rw [hk]
    apply Ready.receiving
    · intro r hr
      rw [hdevices, hcontrollers]
      exact ⟨_, inPlace_lookup hr, rfl⟩
    · rw [hunread]
      show 1 ≤ 16
      decide
  -- The chain of the one hook ends
  have hending : Ending config m.app m.automation := by
    rw [hk]
    refine ⟨fun hook hmem => ?_, nofun⟩
    rw [unread_receiving, hunread, List.mem_singleton] at hmem
    subst hmem
    exact (terminates_on config d).mpr (h.terminates d)
  obtain ⟨bs, st, hown, hsucceeds, hrun, hheard', hq⟩ :=
    hready.drains (run_wellFormed hm) (by rw [hk]; rfl) hending
  refine ⟨inPlace config, controllers, bs, st, ?_, ?_, hown, hheard'.trans hheard, hq⟩
  · rw [run, Lts.run_append_of _ hm]
    exact hrun
  · exact (Lts.along_append _ hm).mpr ⟨⟨trivial, trivial, trivial⟩, hsucceeds⟩

/-- Whenever device `d` has been turned on and the automation is at rest again, with every step a
success and no device reporting a state, each device that `d` reaches has been turned on. -/
def FollowsOn (config : DependencyAutomationConfig) (d : DeviceId) : Prop :=
  ∀ devices controllers as st, run config (initial devices controllers) as = some st →
    RunSucceeds config (initial devices controllers) as →
    (∀ task, .other task ∈ as → task.isForeign = true) →
    .deviceUpdateDispatch ⟨d, .power .on⟩ ∈ st.heard → Quiet st →
      ∀ e, Reaches config d e → ⟨e, .power .on⟩ ∈ st.requests

/-- In an acyclic configuration all dependencies of a device follow it on exactly when every
relationship of the device, and of those on its chain, leads to a device on its chain. -/
theorem followsOn_iff (config : DependencyAutomationConfig) (d : DeviceId)
    (hacyclic : Acyclic config) : FollowsOn config d ↔ Linear config d := by
  rw [linear_iff]
  constructor
  · intro hf e he
    obtain ⟨devices, controllers, bs, st, hrun, hs, hown, hheard, hq⟩ := turnOn_drains hacyclic d
    have hforeign : ∀ task, .other task ∈ turnOn d ++ bs → task.isForeign = true := by
      intro task hmem
      rcases List.mem_append.mp hmem with hmem | hmem
      · simp only [turnOn, List.mem_cons, List.not_mem_nil, or_false] at hmem
        rcases hmem with hmem | hmem
        · exact nomatch hmem
        · cases hmem
          rfl
      · exact absurd (hown _ hmem) Bool.false_ne_true
    have hmem := hf devices controllers _ st hrun hs hforeign
      (by rw [hheard]; exact List.mem_singleton_self _) hq e he
    -- Only the chain of `d` was turned on
    obtain ⟨hook, hmem', d', hd', hchain⟩ := (requested_iff hrun hs hq).mp hmem
    rw [hheard, List.mem_singleton] at hmem'
    subst hmem'
    cases hd'
    exact hchain
  · intro hl devices controllers as st hrun hs _ hheard hq e he
    exact (requested_iff hrun hs hq).mpr ⟨_, hheard, d, rfl, hl e he⟩

end Devicectrl.Dependencies

/-! ## A lamp on a socket and a fan -/

namespace Devicectrl.Dependencies.Demo

def fan : DeviceId := ⟨"fan"⟩

/-- The lamp depends on two devices. -/
def fork : DependencyAutomationConfig := [⟨lamp, socket⟩, ⟨lamp, fan⟩]

/-- What the lamp needs comes below it. -/
def rank (d : DeviceId) : Nat :=
  if d = lamp then 1 else 0

/-- The automation answers the lamp's hook, and receives the one of its own request. -/
def settle : List Act :=
  [.own .poll, .own .poll, .own (.dispatched (.ok ())), .own .poll]

end Devicectrl.Dependencies.Demo

namespace Devicectrl.Dependencies

open Demo

/-- The chain of lamp and socket is followed. -/
theorem followsOn_iff_demo : FollowsOn chain lamp := by
  apply (followsOn_iff chain lamp (acyclic_of_rank rank (by decide))).mpr
  intro r hr _
  obtain rfl : r = ⟨lamp, socket⟩ := List.mem_singleton.mp hr
  exact .single rfl

/-- The second dependency of a device is left off. -/
theorem not_followsOn : ¬∀ config d, Acyclic config → FollowsOn config d := by
  intro h
  have hs : RunSucceeds fork (initial Demo.devices Demo.controllers) (turnOn lamp ++ settle) :=
    ⟨trivial, trivial, Nat.le_of_ble_eq_true rfl, rfl, ⟨rfl, rfl⟩, Nat.le_of_ble_eq_true rfl,
      trivial⟩
  -- The fork is acyclic, and its second dependency is never turned on
  have hmem := h fork lamp (acyclic_of_rank rank (by decide)) Demo.devices Demo.controllers
    (turnOn lamp ++ settle) _ rfl hs ?_ List.mem_cons_self ⟨⟨_, rfl⟩, rfl⟩ fan
    (.single (List.mem_cons_of_mem _ List.mem_cons_self))
  · exact absurd (List.mem_singleton.mp hmem) (by decide)
  · intro task hmem
    simp only [turnOn, settle, List.mem_append, List.mem_cons, List.not_mem_nil, or_false] at hmem
    rcases hmem with (hmem | hmem) | hmem | hmem | hmem | hmem
    all_goals cases hmem
    rfl

end Devicectrl.Dependencies
