import Devicectrl.ForStd.Chain
import Devicectrl.Spec.DependencyAutomation

/-!
# The cascade of dependent requests

Every request of the automation sends a hook that the automation receives in its turn, so a
hook sets off a chain of requests, one for each relationship it leads to.

## Key results

- `cascade_ends`: when the chain of every hook that other tasks sent ends, the automation makes
  finitely many requests and comes to rest
- `cascade_endless`: a hook whose chain does not end keeps it from resting, and with all
  dependencies in place it never stops
-/

namespace Devicectrl.Dependencies

variable {config : DependencyAutomationConfig} {devices : Devices} {controllers : Controllers}
  {st st' : State} {app app' : AppState} {k k' : Automation} {l : Label} {as bs : List Act}

/-! ## Chains of hooks -/

/-- The hook that the automation's answer to a hook sends. -/
def follow (config : DependencyAutomationConfig) (hook : Hook) : Option Hook :=
  (onEvent config hook).map fun r => .deviceUpdateDispatch r.1

/-- A hook sets off finitely many requests. -/
abbrev Terminates (config : DependencyAutomationConfig) (hook : Hook) : Prop :=
  Chain.Terminates (follow config) hook

/-- The number of requests a hook sets off. -/
noncomputable abbrev cost (config : DependencyAutomationConfig) (hook : Hook) : Nat :=
  Chain.length (follow config) hook

/-- The number of requests that some hooks set off together. -/
noncomputable def totalCost (config : DependencyAutomationConfig) (hooks : List Hook) : Nat :=
  (hooks.map (cost config)).sum

@[simp] theorem totalCost_nil : totalCost config [] = 0 := rfl

/-- The first hook sets off its requests, and the others theirs. -/
@[simp] theorem totalCost_cons (hook : Hook) (hooks : List Hook) :
    totalCost config (hook :: hooks) = cost config hook + totalCost config hooks := by
  simp [totalCost]

/-- The costs of hooks add up. -/
@[simp] theorem totalCost_append (hooks hooks' : List Hook) :
    totalCost config (hooks ++ hooks') = totalCost config hooks + totalCost config hooks' := by
  simp [totalCost]

/-- A hook without an answer is followed by nothing. -/
theorem follow_of_none {hook : Hook} (h : onEvent config hook = none) :
    follow config hook = none := by
  rw [follow, h, Option.map_none]

/-- A hook with an answer is followed by the announcement of it. -/
theorem follow_of_some {hook : Hook} {request : UpdateRequest} {context : String}
    (h : onEvent config hook = some (request, context)) :
    follow config hook = some (.deviceUpdateDispatch request) := by
  rw [follow, h, Option.map_some]

/-- A hook without an answer sets off no request. -/
theorem cost_of_none {hook : Hook} (h : onEvent config hook = none) : cost config hook = 0 :=
  Chain.length_of_none (follow_of_none h)

/-- A hook sets off the request that answers it and what this one's own hook sets off. -/
theorem cost_of_some {hook : Hook} {request : UpdateRequest} {context : String}
    (h : onEvent config hook = some (request, context))
    (ht : Terminates config (.deviceUpdateDispatch request)) :
    cost config hook = cost config (.deviceUpdateDispatch request) + 1 :=
  Chain.length_of_some (follow_of_some h) ht

/-- A request is for the dependency of one of the relationships. -/
theorem onEvent_some {hook : Hook} {request : UpdateRequest} {context : String}
    (h : onEvent config hook = some (request, context)) :
    ∃ d ∈ config, d.dependencyId = request.deviceId := by
  cases hook with
  -- A dispatch is looked up by the device of its request
  | deviceUpdateDispatch r =>
    simp only [onEvent] at h
    split at h
    · rename_i dependency hf _
      cases h
      exact ⟨dependency, List.mem_of_find?_eq_some hf, rfl⟩
    · exact nomatch h
  -- A report is looked up by its device, on and off alike
  | deviceStateUpdate update =>
    simp only [onEvent] at h
    split at h
    · rename_i dependency hf _
      cases h
      exact ⟨dependency, List.mem_of_find?_eq_some hf, rfl⟩
    · rename_i dependency hf _
      cases h
      exact ⟨dependency, List.mem_of_find?_eq_some hf, rfl⟩
    · exact nomatch h
  | sceneActivate scene => exact nomatch h

/-! ### Devices that are turned on -/

/-- The device that a request or a report turns on. -/
def turnsOn : Hook → Option DeviceId
  | .deviceUpdateDispatch ⟨id, .power .on⟩ => some id
  | .deviceStateUpdate ⟨id, _, .switch ⟨.on⟩⟩ => some id
  | _ => none

/-- A request turns a device on as it says. -/
theorem turnsOn_dispatch_iff {request : UpdateRequest} {d : DeviceId} :
    turnsOn (.deviceUpdateDispatch request) = some d ↔ request = ⟨d, .power .on⟩ := by
  constructor
  · intro h
    unfold turnsOn at h
    split at h
    · rename_i he
      cases h
      exact Hook.deviceUpdateDispatch.inj he
    · rename_i he
      exact nomatch he
    · exact nomatch h
  · rintro rfl
    rfl

/-- The device that a device depends on, by its first relationship. -/
def dependency (config : DependencyAutomationConfig) (id : DeviceId) : Option DeviceId :=
  (find config id).map DependencyRelationship.dependencyId

/-- A request to turn a device on is followed by one for its dependency. -/
theorem follow_on (config : DependencyAutomationConfig) (id : DeviceId) :
    follow config (.deviceUpdateDispatch ⟨id, .power .on⟩) =
      (dependency config id).map fun d => .deviceUpdateDispatch ⟨d, .power .on⟩ := by
  simp only [follow, onEvent, dependency]
  cases find config id <;> rfl

/-- Turning a device on ends when the chain of its dependencies does. -/
theorem terminates_on (config : DependencyAutomationConfig) (id : DeviceId) :
    Terminates config (.deviceUpdateDispatch ⟨id, .power .on⟩) ↔
      Chain.Terminates (dependency config) id :=
  exists_congr fun _ => Chain.ends_map (follow_on config)

/-- A report that a device is on is followed by the same request. -/
theorem follow_reportOn (config : DependencyAutomationConfig) (id : DeviceId) (reachable : Bool) :
    follow config (.deviceStateUpdate ⟨id, reachable, .switch ⟨.on⟩⟩) =
      follow config (.deviceUpdateDispatch ⟨id, .power .on⟩) := by
  simp only [follow, onEvent]
  cases find config id <;> rfl

/-- A request for anything else is not followed by any. -/
theorem follow_dispatch {request : UpdateRequest} (h : request.update ≠ .power .on) :
    follow config (.deviceUpdateDispatch request) = none := by
  apply follow_of_none
  simp only [onEvent]
  split
  · rename_i hu
    exact absurd hu h
  · rfl

/-- A report of any other state is followed by a request to turn a device off at most. -/
theorem terminates_report {update : UpdateNotification} (h : update.newState ≠ .switch ⟨.on⟩) :
    Terminates config (.deviceStateUpdate update) := by
  cases ho : onEvent config (.deviceStateUpdate update) with
  | none => exact Chain.terminates_of_none (follow_of_none ho)
  | some r =>
    obtain ⟨request, context⟩ := r
    -- The answer to a report that is not `On` switches off, and that is answered by nothing
    have hoff : request.update ≠ .power .on := by
      simp only [onEvent] at ho
      split at ho
      · rename_i hu
        exact absurd hu h
      · cases ho
        exact nofun
      · exact nomatch ho
    rw [Terminates, Chain.terminates_iff_of_some (follow_of_some ho)]
    exact Chain.terminates_of_none (follow_dispatch hoff)

/-- Only a device whose dependencies go on forever sets off requests without end. -/
theorem terminates_iff (config : DependencyAutomationConfig) (hook : Hook) :
    Terminates config hook ↔
      ∀ id, turnsOn hook = some id → Chain.Terminates (dependency config) id := by
  -- A hook that turns nothing on is answered at most once
  have hnone (ht : Terminates config hook) (hno : turnsOn hook = none) :
      Terminates config hook ↔
        ∀ id, turnsOn hook = some id → Chain.Terminates (dependency config) id := by
    rw [hno]
    exact ⟨fun _ => nofun, fun _ => ht⟩
  cases hook with
  | deviceUpdateDispatch request =>
    by_cases hu : request.update = .power .on
    · obtain ⟨id, update⟩ := request
      cases hu
      rw [terminates_on]
      exact ⟨fun ht _ hid => Option.some.inj hid ▸ ht, fun ht => ht id rfl⟩
    · refine hnone (Chain.terminates_of_none (follow_dispatch hu)) ?_
      simp only [turnsOn]
      split <;> simp_all
  | deviceStateUpdate update =>
    by_cases hu : update.newState = .switch ⟨.on⟩
    · obtain ⟨id, reachable, state⟩ := update
      cases hu
      rw [Terminates, Chain.terminates_congr (follow_reportOn config id reachable)]
      exact (terminates_on config id).trans
        ⟨fun ht _ hid => Option.some.inj hid ▸ ht, fun ht => ht id rfl⟩
    · refine hnone (terminates_report hu) ?_
      simp only [turnsOn]
      split <;> simp_all
  | sceneActivate scene => exact hnone (Chain.terminates_of_none rfl) rfl

/-! ## What is left to do -/

/-- The hooks the automation has yet to receive. -/
def unread (app : AppState) (k : Automation) : List Hook :=
  match k.receiver? with
  | some rx => app.hooks.sender.unread rx
  | none => []

/-- The automation waits for a hook, and there is none. -/
def Quiet (st : State) : Prop :=
  (∃ rx, st.automation = .receiving rx) ∧ unread st.app st.automation = []

/-- The requests that what the automation has yet to receive and to request will set off. -/
noncomputable def remaining (config : DependencyAutomationConfig) (app : AppState)
    (k : Automation) : Nat :=
  totalCost config (unread app k) +
    match k.request? with
    | some request => 1 + cost config (.deviceUpdateDispatch request)
    | none => 0

/-- The steps other than receiving and requesting that it will take for them. -/
def Automation.busy : Automation → Nat
  | .spawned => 1
  | .dispatching .. => 1
  | _ => 0

/-- The steps the automation will take if nobody else sends a hook: to receive, to request and
to dispatch. -/
noncomputable def work (config : DependencyAutomationConfig) (app : AppState)
    (k : Automation) : Nat :=
  3 * remaining config app k + (unread app k).length + k.busy

/-- Everything the automation is about to answer sets off finitely many requests. -/
structure Ending (config : DependencyAutomationConfig) (app : AppState) (k : Automation) :
    Prop where
  unread : ∀ hook ∈ unread app k, Terminates config hook
  request : ∀ request, k.request? = some request →
    Terminates config (.deviceUpdateDispatch request)

section Stages

variable {rx : Broadcast.Receiver} {request : UpdateRequest} {device : Device} {context : String}
  {e : Error}

theorem unread_receiving : unread app (.receiving rx) = app.hooks.sender.unread rx := rfl

theorem unread_requesting :
    unread app (.requesting rx request context) = app.hooks.sender.unread rx := rfl

theorem unread_dispatching :
    unread app (.dispatching rx device context) = app.hooks.sender.unread rx := rfl

theorem remaining_receiving :
    remaining config app (.receiving rx) = totalCost config (app.hooks.sender.unread rx) := rfl

theorem remaining_requesting :
    remaining config app (.requesting rx request context) =
      totalCost config (app.hooks.sender.unread rx) +
        (1 + cost config (.deviceUpdateDispatch request)) := rfl

theorem remaining_dispatching :
    remaining config app (.dispatching rx device context) =
      totalCost config (app.hooks.sender.unread rx) := rfl

theorem remaining_leave : remaining config (leave app e).1 (leave app e).2 = 0 := rfl

end Stages

/-! ## Steps of the automation -/

/-- What was unread before a receive is the hook and the rest. -/
theorem unread_received {rx rx' : Broadcast.Receiver} {hook : Hook}
    (h : app.hooks.sender.recv rx = some (.ok hook, rx')) :
    unread app (.receiving rx) = hook :: app.hooks.sender.unread rx' :=
  (Broadcast.Channel.recv_ok h).2.2.1

/-- A request adds its own hook to what the automation has yet to receive. -/
theorem unread_requested {rx : Broadcast.Receiver} {request : UpdateRequest} {context : String}
    {device : Device} (hw : WellFormed app (.requesting rx request context))
    (h : beginUpdateRequest request app = .ok (device, app')) :
    app'.hooks.sender.unread rx =
      app.hooks.sender.unread rx ++ [.deviceUpdateDispatch request] := by
  obtain ⟨-, -, -, hsender⟩ := beginUpdateRequest_ok h
  rw [hsender]
  exact Broadcast.Channel.unread_send (hw.receiver rx rfl) _

/-- Nothing the automation does turns an ending chain into an endless one. -/
theorem Step.ending (h : Step config app k l app' k') (hw : WellFormed app k)
    (he : Ending config app k) : Ending config app' k' := by
  cases h with
  | subscribe =>
    refine ⟨fun hook hmem => ?_, nofun⟩
    have hnil := Broadcast.Channel.unread_resubscribe app.hooks.sender
    have hmem' : hook ∈ app.hooks.sender.resubscribe.1.unread app.hooks.sender.resubscribe.2 := hmem
    rw [hnil] at hmem'
    exact absurd hmem' List.not_mem_nil
  | lag h => exact ⟨fun _ hmem => absurd hmem List.not_mem_nil, nofun⟩
  | ignore h ho =>
    have hcons := unread_received h
    refine ⟨fun hook hmem => he.unread hook ?_, nofun⟩
    rw [hcons]
    exact List.mem_cons_of_mem _ hmem
  | @answer rx rx' hook request context h ho =>
    have hcons := unread_received h
    refine ⟨fun hook' hmem => he.unread hook' (by rw [hcons]; exact List.mem_cons_of_mem _ hmem),
      fun request' hr => ?_⟩
    cases hr
    -- The request follows its hook on the chain
    have hhook := he.unread hook (by rw [hcons]; exact List.mem_cons_self)
    exact (Chain.terminates_iff_of_some (follow_of_some ho)).mp hhook
  | refuse h => exact ⟨fun _ hmem => absurd hmem List.not_mem_nil, nofun⟩
  | request h =>
    refine ⟨fun hook hmem => ?_, nofun⟩
    have hmem' := hmem
    simp only [unread, Automation.receiver?] at hmem'
    rw [unread_requested hw h, List.mem_append, List.mem_singleton] at hmem'
    rcases hmem' with hmem' | rfl
    · exact he.unread hook hmem'
    · exact he.request _ rfl
  | fail h => exact ⟨fun _ hmem => absurd hmem List.not_mem_nil, nofun⟩
  | succeed h => exact ⟨he.unread, nofun⟩

/-- A step makes at most the request it accounts for. -/
theorem Step.remaining_le (h : Step config app k l app' k') (hw : WellFormed app k)
    (he : Ending config app k) :
    remaining config app' k' + k.request?.toList.length ≤ remaining config app k := by
  have he' := h.ending hw he
  cases h with
  -- Nothing was unread by a receiver that is just made
  | subscribe =>
    rw [remaining_receiving, Broadcast.Channel.unread_resubscribe]
    exact Nat.zero_le _
  | lag h => exact Nat.zero_le _
  | ignore h ho =>
    rw [remaining_receiving, remaining_receiving, (Broadcast.Channel.recv_ok h).2.2.1,
      totalCost_cons]
    exact Nat.le_add_left _ _
  | answer h ho =>
    have hcost := cost_of_some ho (he'.request _ rfl)
    -- The chain of the answer is one shorter than the chain of the hook
    rw [remaining_receiving, remaining_requesting, (Broadcast.Channel.recv_ok h).2.2.1,
      totalCost_cons, hcost]
    show _ + 0 ≤ _
    omega
  | refuse h =>
    rw [remaining_requesting, remaining_leave]
    -- The request that is refused was one
    show 0 + 1 ≤ _
    omega
  | request h =>
    -- The hook of the request comes into the channel, with the rest of its chain
    rw [remaining_requesting, remaining_dispatching, unread_requested hw h, totalCost_append,
      totalCost_cons, totalCost_nil]
    show _ + 1 ≤ _
    omega
  | fail h => exact Nat.zero_le _
  | succeed h => exact Nat.le_refl _

/-- A step that succeeds is one step less to take. -/
theorem Step.work_eq (h : Step config app k l app' k') (hw : WellFormed app k)
    (he : Ending config app k) (hs : Succeeds app k l) :
    work config app' k' + 1 = work config app k := by
  have he' := h.ending hw he
  have hne := (h.succeeds_iff hw).mp hs
  cases h with
  | subscribe =>
    have hnil := Broadcast.Channel.unread_resubscribe app.hooks.sender
    simp only [work, remaining_receiving, unread_receiving, hnil]
    rfl
  -- A failure is no success
  | lag h => exact absurd rfl (hne _)
  | ignore h ho =>
    -- A hook that is answered by nothing takes one step
    have hcost := cost_of_none ho
    simp only [work, remaining_receiving, unread_receiving, (Broadcast.Channel.recv_ok h).2.2.1,
      totalCost_cons, List.length_cons, hcost, Automation.busy]
    omega
  | answer h ho =>
    -- A hook that is answered takes the steps of its answer besides
    have hcost := cost_of_some ho (he'.request _ rfl)
    simp only [work, remaining_receiving, remaining_requesting, unread_receiving,
      unread_requesting, (Broadcast.Channel.recv_ok h).2.2.1, totalCost_cons, List.length_cons,
      hcost, Automation.busy]
    omega
  | refuse h => exact absurd rfl (hne _)
  | request h =>
    -- The hook that was announced is one more to be read
    simp only [work, remaining_requesting, remaining_dispatching, unread_requesting,
      unread_dispatching, unread_requested hw h, totalCost_append, totalCost_cons, totalCost_nil,
      List.length_append, List.length_cons, List.length_nil, Automation.busy]
    omega
  | fail h => exact absurd rfl (hne _)
  | succeed h => rfl

/-! ## Runs -/

/-- An action of the automation succeeds. -/
def Act.Succeeds (st : State) : Act → Prop
  | .own label => Dependencies.Succeeds st.app st.automation label
  | .other _ => True

/-- Every action of a run from `st` succeeds. -/
abbrev RunSucceeds (config : DependencyAutomationConfig) (st : State) (as : List Act) : Prop :=
  Lts.Along (exec config) Act.Succeeds st as

/-- Left alone, the automation takes finitely many steps as long as these succeed, and stops
only when there is nothing left to receive. -/
structure Drains (config : DependencyAutomationConfig) (st : State) : Prop where
  bounded : ∃ n, ∀ bs st', (∀ b ∈ bs, b.isOwn = true) → RunSucceeds config st bs →
    run config st bs = some st' → bs.length ≤ n
  quiet : ∀ bs st', (∀ b ∈ bs, b.isOwn = true) → RunSucceeds config st bs →
    run config st bs = some st' → Quiet st' ∨ ∃ l st'', exec config st' (.own l) = some st''

/-- A step of the automation, as an action. -/
theorem exec_own (h : exec config st (.own l) = some st') :
    Step config st.app st.automation l st'.app st'.automation ∧ st'.heard = st.heard ∧
      st'.requests = st.requests ++ st.automation.request?.toList := by
  obtain ⟨p, hp, rfl⟩ := Option.map_eq_some_iff.mp h
  exact ⟨startAutomation_cases hp, rfl, rfl⟩

/-- A step of another task, as an action. It is heard by an automation that listens. -/
theorem exec_other {task : Task} (h : exec config st (.other task) = some st') :
    task.run st.app = some st'.app ∧ st'.automation = st.automation ∧
      st'.requests = st.requests ∧
      st'.heard = if st.automation.receiver?.isSome then st.heard ++ task.hooks else st.heard := by
  obtain ⟨app', ht, rfl⟩ := Option.map_eq_some_iff.mp h
  exact ⟨runOther_eq ht, rfl, rfl, rfl⟩

/-- Every action keeps the automation well formed. -/
theorem exec_wellFormed {a : Act} (hw : WellFormed st.app st.automation)
    (h : exec config st a = some st') : WellFormed st'.app st'.automation := by
  cases a with
  | own l => exact (exec_own h).1.wellFormed hw
  | other task =>
    obtain ⟨ht, hk, -⟩ := exec_other h
    rw [hk]
    exact hw.task ht

/-- While it listens the automation gets the hooks of the other tasks after those it has yet to
receive. -/
theorem unread_other {task : Task} (hw : WellFormed app k) (h : task.run app = some app') :
    unread app' k = unread app k ++ if k.receiver?.isSome then task.hooks else [] := by
  -- A receiver gets every hook that is sent once it is subscribed
  have hheard : ∀ rx, k.receiver? = some rx → (∀ e, k ≠ .returned e) →
      app'.hooks.sender.unread rx = app.hooks.sender.unread rx ++ task.hooks := by
    intro rx hrx hne
    obtain ⟨sent, hsent, -, -, hsome⟩ := Task.run_hooks h
    rw [hsome (hw.receivers hne)] at hsent
    simp only [Broadcast.Channel.unread, hsent]
    exact List.drop_append_of_le_length (hw.receiver rx hrx)
  cases k with
  | spawned => rfl
  | receiving rx => exact hheard rx rfl fun e he => by cases he
  | requesting rx request context => exact hheard rx rfl fun e he => by cases he
  | dispatching rx device context => exact hheard rx rfl fun e he => by cases he
  | returned e => rfl

/-- The requests that were made and those yet to come were set off by the hooks the automation
heard from other tasks. -/
structure Accounted (config : DependencyAutomationConfig) (st : State) : Prop where
  ending : Ending config st.app st.automation
  requests : st.requests.length + remaining config st.app st.automation ≤
    totalCost config st.heard

/-- The automation spends what it has left on its requests. -/
theorem Accounted.own (ha : Accounted config st) (hw : WellFormed st.app st.automation)
    (h : exec config st (.own l) = some st') : Accounted config st' := by
  obtain ⟨hstep, hheard, hrequests⟩ := exec_own h
  refine ⟨hstep.ending hw ha.ending, ?_⟩
  have hle := hstep.remaining_le hw ha.ending
  have hbudget := ha.requests
  rw [hheard, hrequests, List.length_append]
  omega

/-- What other tasks send is heard, and counts from then on. -/
theorem Accounted.other {task : Task} (ha : Accounted config st)
    (hw : WellFormed st.app st.automation) (h : exec config st (.other task) = some st')
    (hends : ∀ hook ∈ st'.heard, Terminates config hook) : Accounted config st' := by
  obtain ⟨ht, hk, hrequests, hheard⟩ := exec_other h
  have hunread := unread_other hw ht
  -- Before it has subscribed the automation hears nothing
  by_cases hsome : st.automation.receiver?.isSome = true
  · rw [if_pos hsome] at hunread hheard
    refine ⟨⟨fun hook hmem => ?_, fun request hr => ?_⟩, ?_⟩
    · rw [hk, hunread, List.mem_append] at hmem
      rcases hmem with hmem | hmem
      · exact ha.ending.unread hook hmem
      · exact hends hook (by rw [hheard]; exact List.mem_append_right _ hmem)
    · rw [hk] at hr
      exact ha.ending.request request hr
    · have hbudget := ha.requests
      simp only [remaining] at hbudget ⊢
      rw [hk, hunread, hrequests, hheard, totalCost_append, totalCost_append]
      omega
  · rw [if_neg hsome] at hunread hheard
    rw [List.append_nil] at hunread
    refine ⟨⟨fun hook hmem => ?_, fun request hr => ?_⟩, ?_⟩
    · rw [hk, hunread] at hmem
      exact ha.ending.unread hook hmem
    · rw [hk] at hr
      exact ha.ending.request request hr
    · have hbudget := ha.requests
      simp only [remaining] at hbudget ⊢
      rw [hk, hunread, hrequests, hheard]
      exact hbudget

/-- The automation hears more and more. -/
theorem heard_subset {a : Act} (h : exec config st a = some st') : st.heard ⊆ st'.heard := by
  cases a with
  | own l =>
    rw [(exec_own h).2.1]
    exact List.Subset.refl _
  | other task =>
    rw [(exec_other h).2.2.2]
    split
    · exact List.subset_append_left _ _
    · exact List.Subset.refl _

/-- The automation is well formed in every state that is reached. -/
theorem run_wellFormed (h : run config (initial devices controllers) as = some st) :
    WellFormed st.app st.automation :=
  Lts.run_invariant _ (I := fun st : State => WellFormed st.app st.automation)
    (fun _ _ _ hw he => exec_wellFormed hw he) h (.initial devices controllers)

/-- The account holds in every state that is reached, if what was heard ends. -/
theorem run_accounted (h : run config (initial devices controllers) as = some st)
    (hends : ∀ hook ∈ st.heard, Terminates config hook) : Accounted config st := by
  -- Both invariants are kept, and the second as long as what is heard ends
  have hstep : ∀ s a s', (WellFormed s.app s.automation ∧
      ((∀ hook ∈ s.heard, Terminates config hook) → Accounted config s)) →
      exec config s a = some s' → WellFormed s'.app s'.automation ∧
      ((∀ hook ∈ s'.heard, Terminates config hook) → Accounted config s') := by
    rintro s a s' ⟨hw, ha⟩ he
    refine ⟨exec_wellFormed hw he, fun hends => ?_⟩
    have ha := ha fun hook hmem => hends hook (heard_subset he hmem)
    cases a with
    | own l => exact ha.own hw he
    | other task => exact ha.other hw he hends
  refine (Lts.run_invariant _ hstep h ⟨.initial devices controllers, fun _ => ?_⟩).2 hends
  exact ⟨⟨fun _ hmem => absurd hmem List.not_mem_nil, nofun⟩, Nat.zero_le _⟩

/-- An automation whose steps have succeeded has not returned. -/
theorem run_not_returned (hw : WellFormed st.app st.automation)
    (hne : ∀ e, st.automation ≠ .returned e) (hs : RunSucceeds config st as)
    (h : run config st as = some st') : ∀ e, st'.automation ≠ .returned e := by
  have hstep : ∀ s a s', (WellFormed s.app s.automation ∧ ∀ e, s.automation ≠ .returned e) →
      Act.Succeeds s a → exec config s a = some s' →
      WellFormed s'.app s'.automation ∧ ∀ e, s'.automation ≠ .returned e := by
    rintro s a s' ⟨hw, hne⟩ hs he
    refine ⟨exec_wellFormed hw he, ?_⟩
    cases a with
    | own l => exact ((exec_own he).1.succeeds_iff hw).mp hs
    | other task => rw [(exec_other he).2.1]; exact hne
  exact (Lts.run_invariant_along _ hstep hs h ⟨hw, hne⟩).2

/-- The automation's own steps count down its work. -/
theorem run_work (hw : WellFormed st.app st.automation) (he : Ending config st.app st.automation)
    (hown : ∀ b ∈ bs, b.isOwn = true) (hs : RunSucceeds config st bs)
    (h : run config st bs = some st') :
    bs.length + work config st'.app st'.automation = work config st.app st.automation := by
  -- On the steps, each of which takes one off the work
  induction bs generalizing st with
  | nil => cases h; exact Nat.zero_add _
  | cons b bs ih =>
    obtain ⟨m, hb, hrun⟩ := Lts.run_cons _ h
    obtain ⟨hsb, hrest⟩ := (Lts.along_cons _ hb).mp hs
    cases b with
    | other task => exact nomatch hown _ List.mem_cons_self
    | own l =>
      obtain ⟨hstep, -⟩ := exec_own hb
      have hwork := hstep.work_eq hw he hsb
      have hlen := ih (hstep.wellFormed hw) (hstep.ending hw he)
        (fun b hmem => hown b (List.mem_cons_of_mem _ hmem)) hrest hrun
      rw [List.length_cons]
      omega

/-- Only a receive can be pending, when there is nothing to receive. -/
theorem startAutomation_enabled (config : DependencyAutomationConfig) (app : AppState)
    (hne : ∀ e, k ≠ .returned e) :
    (∃ rx, k = .receiving rx ∧ app.hooks.sender.unread rx = []) ∨
      ∃ l p, startAutomation config app k l = some p := by
  cases k with
  -- The automation subscribes whenever it is polled
  | spawned => exact .inr ⟨.poll, _, rfl⟩
  | receiving rx =>
    -- It waits exactly while nothing is in its channel
    cases hr : app.hooks.sender.recv rx with
    | none => exact .inl ⟨rx, rfl, Broadcast.Channel.unread_of_recv_none hr⟩
    | some r =>
      refine .inr ⟨.poll, Option.isSome_iff_exists.mp ?_⟩
      obtain ⟨r, rx'⟩ := r
      cases r with
      | error e => simp [startAutomation, hr]
      | ok hook =>
        cases ho : onEvent config hook with
        | none => simp [startAutomation, hr, ho]
        | some request => simp [startAutomation, hr, ho]
  | requesting rx request context =>
    refine .inr ⟨.poll, Option.isSome_iff_exists.mp ?_⟩
    -- A request is announced or refused, and either is a step
    cases hb : beginUpdateRequest request app with
    | error e => simp [startAutomation, hb, withContext]
    | ok p => simp [startAutomation, hb, withContext]
  | dispatching rx device context =>
    refine .inr ⟨.dispatched (.ok ()), Option.isSome_iff_exists.mp ?_⟩
    -- The dispatch returns, and however it does is a step
    cases hd : Controllers.dispatchUpdate app device (.ok ()) with
    | error e => simp [startAutomation, hd, withContext]
    | ok u => simp [startAutomation, hd, withContext]
  | returned e => exact absurd rfl (hne e)

/-- The automation can step unless it has returned or is quiet. -/
theorem quiet_or_step (config : DependencyAutomationConfig)
    (hne : ∀ e, st.automation ≠ .returned e) :
    Quiet st ∨ ∃ l st', exec config st (.own l) = some st' := by
  rcases startAutomation_enabled config st.app hne with ⟨rx, hk, hunread⟩ | ⟨l, p, hp⟩
  · refine .inl ⟨⟨rx, hk⟩, ?_⟩
    rw [hk]
    exact hunread
  · exact .inr ⟨l, Option.isSome_iff_exists.mp (by simp [exec, hp])⟩

/-- With finitely many hooks from other tasks, none of which turns on a device whose dependencies
go on forever, and steps that succeed, the automation makes finitely many requests and comes to
rest. -/
theorem cascade_ends (config : DependencyAutomationConfig) (devices : Devices)
    (controllers : Controllers) (as : List Act) (st : State)
    (h : run config (initial devices controllers) as = some st)
    (hs : RunSucceeds config (initial devices controllers) as)
    (hends : ∀ hook ∈ st.heard, ∀ id, turnsOn hook = some id →
      Chain.Terminates (dependency config) id) :
    st.requests.length ≤ totalCost config st.heard ∧ Drains config st := by
  have hw := run_wellFormed h
  have ha := run_accounted h fun hook hmem => (terminates_iff config hook).mpr (hends hook hmem)
  -- Every step succeeds, so the automation is still there at the end
  have hspawned : ∀ e, (initial devices controllers).automation ≠ .returned e := by
    intro e he
    cases he
  have hne := run_not_returned (.initial devices controllers) hspawned hs h
  refine ⟨?_, ⟨work config st.app st.automation, fun bs st' hown hs h => ?_⟩,
    fun bs st' hown hs h => quiet_or_step config (run_not_returned hw hne hs h)⟩
  · have hbudget := ha.requests
    omega
  · -- the bound is the work before it at the start
    have hwork := run_work hw ha.ending hown hs h
    omega

/-! ## Endless chains -/

/-- Who has nothing to read and nothing to ask has no endless chain. -/
theorem ending_of_nil (hunread : unread app k = []) (hrequest : k.request? = none) :
    Ending config app k := by
  refine ⟨fun hook hmem => ?_, fun request hr => ?_⟩
  · rw [hunread] at hmem
    exact absurd hmem List.not_mem_nil
  · rw [hrequest] at hr
    exact nomatch hr

/-- As long as the automation goes on, it does not get rid of an endless chain. -/
theorem Step.ending_of (h : Step config app k l app' k') (hw : WellFormed app k)
    (hne : ∀ e, k' ≠ .returned e) (he : Ending config app' k') : Ending config app k := by
  cases h with
  | subscribe => exact ending_of_nil rfl rfl
  | lag h => exact absurd rfl (hne _)
  | ignore h ho =>
    refine ⟨fun hook' hmem => ?_, nofun⟩
    rw [unread_received h, List.mem_cons] at hmem
    rcases hmem with rfl | hmem
    · exact Chain.terminates_of_none (follow_of_none ho)
    · exact he.unread hook' hmem
  | answer h ho =>
    refine ⟨fun hook' hmem => ?_, nofun⟩
    rw [unread_received h, List.mem_cons] at hmem
    rcases hmem with rfl | hmem
    · exact (Chain.terminates_iff_of_some (follow_of_some ho)).mpr (he.request _ rfl)
    · exact he.unread hook' hmem
  | refuse h => exact absurd rfl (hne _)
  | @request rx request context device app' h =>
    -- The request stands in the queue again, as its hook
    have happ : ∀ hook ∈ app.hooks.sender.unread rx ++ [.deviceUpdateDispatch request],
        Terminates config hook := by
      intro hook hmem
      rw [← unread_requested hw h] at hmem
      exact he.unread hook hmem
    refine ⟨fun hook hmem => happ hook (List.mem_append_left _ hmem), fun request' hr => ?_⟩
    cases hr
    exact happ _ (List.mem_append_right _ (List.mem_singleton_self _))
  | fail h => exact absurd rfl (hne _)
  | succeed h => exact ⟨he.unread, nofun⟩

/-- Everything needed for the automation to answer what it has yet to answer: the dependencies
are devices with a controller, and the channel has room for the next request. -/
structure Ready (config : DependencyAutomationConfig) (app : AppState) (k : Automation) :
    Prop where
  dependencies : ∀ d ∈ config, ∃ device, app.devices.lookup d.dependencyId = some device ∧
    (app.controllers.field device.controller).1 = true
  request : ∀ request, k.request? = some request → ∃ d ∈ config, d.dependencyId = request.deviceId
  device : ∀ rx device context, k = .dispatching rx device context →
    (app.controllers.field device.controller).1 = true
  room : (unread app k).length + k.request?.toList.length ≤ 16

/-- An automation at its receive is ready if its dependencies are there. -/
theorem Ready.receiving {rx : Broadcast.Receiver}
    (hd : ∀ d ∈ config, ∃ device, app.devices.lookup d.dependencyId = some device ∧
      (app.controllers.field device.controller).1 = true)
    (hroom : (app.hooks.sender.unread rx).length ≤ 16) : Ready config app (.receiving rx) :=
  ⟨hd, nofun, nofun, hroom⟩

/-- With something left to do, an automation that is ready takes a step that succeeds. -/
theorem Ready.step (hr : Ready config app k) (hw : WellFormed app k)
    (hlistens : k.receiver?.isSome = true) (hbusy : ∀ rx, k = .receiving rx → unread app k ≠ []) :
    ∃ l app' k', startAutomation config app k l = some (app', k') ∧ Succeeds app k l ∧
      Ready config app' k' ∧ k'.receiver?.isSome = true := by
  cases k with
  | spawned => exact absurd hlistens Bool.false_ne_true
  | receiving rx =>
    have hroom : (app.hooks.sender.unread rx).length ≤ 16 := hr.room
    cases hunread : app.hooks.sender.unread rx with
    | nil => exact absurd hunread (hbusy rx rfl)
    | cons hook rest =>
      have hrecv := Broadcast.Channel.recv_of_unread hunread (by rw [hw.capacity]; exact hroom)
      have hrest : (app.hooks.sender.unread ⟨rx.next + 1⟩).length + 1 ≤ 16 := by
        rw [(Broadcast.Channel.recv_ok hrecv).2.2.1] at hroom
        exact hroom
      cases ho : onEvent config hook with
      | none =>
        exact ⟨.poll, app, .receiving ⟨rx.next + 1⟩, by simp [startAutomation, hrecv, ho], hroom,
          .receiving hr.dependencies (Nat.le_of_succ_le hrest), rfl⟩
      -- The first unread hook calls for a request
      | some r =>
        obtain ⟨request, context⟩ := r
        refine ⟨.poll, app, .requesting ⟨rx.next + 1⟩ request context,
          by simp [startAutomation, hrecv, ho], hroom,
          ⟨hr.dependencies, fun request' h => ?_, fun rx' device' context' h => ?_, hrest⟩, rfl⟩
        · cases h
          exact onEvent_some ho
        · cases h
  | requesting rx request context =>
    -- The request is for a dependency of the configuration, so it is found and announced
    obtain ⟨d, hd, hid⟩ := hr.request request rfl
    obtain ⟨device, hdevice, henabled⟩ := hr.dependencies d hd
    rw [hid] at hdevice
    have hpos := hw.receivers fun e he => by cases he
    obtain ⟨app', hbegin⟩ := beginUpdateRequest_of_lookup hpos hdevice
    obtain ⟨-, hdevices, hcontrollers, -⟩ := beginUpdateRequest_ok hbegin
    refine ⟨.poll, app', .dispatching rx device context, ?_, ?_,
      ⟨?_, fun request' h => ?_, ?_, ?_⟩, rfl⟩
    · simp [startAutomation, hbegin, withContext]
    · exact Option.isSome_iff_exists.mpr ⟨device, hdevice⟩
    · rw [hdevices, hcontrollers]
      exact hr.dependencies
    · cases h
    · intro rx' device' context' h
      cases h
      -- The hook of the request comes into the channel
      rw [hcontrollers]
      exact henabled
    · have hroom := hr.room
      simp only [unread, Automation.receiver?, unread_requested hw hbegin, List.length_append]
      exact hroom
  | dispatching rx device context =>
    -- The dispatch of an enabled controller succeeds
    have henabled := hr.device rx device context rfl
    refine ⟨.dispatched (.ok ()), app, .receiving rx, ?_, ⟨henabled, rfl⟩,
      .receiving hr.dependencies hr.room, rfl⟩
    simp [startAutomation, Controllers.dispatchUpdate_ok_iff.mpr ⟨henabled, rfl⟩, withContext]
  | returned e => exact absurd hlistens Bool.false_ne_true

/-- An automation with an endless chain before it listens, and has something left to do. -/
theorem busy_of_endless (he : ¬Ending config app k) :
    k.receiver?.isSome = true ∧ ∀ rx, k = .receiving rx → unread app k ≠ [] := by
  constructor
  · by_contra hnone
    rw [Option.not_isSome_iff_eq_none] at hnone
    cases k with
    | spawned => exact he (ending_of_nil rfl rfl)
    | returned e => exact he (ending_of_nil rfl rfl)
    | receiving rx => exact nomatch hnone
    | requesting rx request context => exact nomatch hnone
    | dispatching rx device context => exact nomatch hnone
  · rintro rx rfl hnil
    exact he (ending_of_nil hnil rfl)

/-- It goes on for any number of steps. -/
theorem Ready.spins (hr : Ready config st.app st.automation)
    (hw : WellFormed st.app st.automation) (he : ¬Ending config st.app st.automation) (n : Nat) :
    ∃ bs st', bs.length = n ∧ (∀ b ∈ bs, b.isOwn = true) ∧ RunSucceeds config st bs ∧
      run config st bs = some st' := by
  -- A ready automation stays ready, and its endless chain endless
  induction n generalizing st with
  | zero => exact ⟨[], st, rfl, fun _ hmem => absurd hmem List.not_mem_nil, trivial, rfl⟩
  | succ n ih =>
    obtain ⟨hlistens, hbusy⟩ := busy_of_endless he
    obtain ⟨l, app', k', hstart, hs, hr', -⟩ := hr.step hw hlistens hbusy
    let m : State :=
      { st with
        app := app'
        automation := k'
        requests := st.requests ++ st.automation.request?.toList }
    have hexec : exec config st (.own l) = some m := by
      rw [exec, hstart, Option.map_some]
    have hstep := startAutomation_cases hstart
    have hne := (hstep.succeeds_iff hw).mp hs
    have hm : Ready config m.app m.automation := hr'
    obtain ⟨bs, st', hlen, hown, hsucceeds, hrun⟩ :=
      ih hm (hstep.wellFormed hw) fun he' => he (hstep.ending_of hw hne he')
    refine ⟨.own l :: bs, st', by rw [List.length_cons, hlen], fun b hmem => ?_, ?_, ?_⟩
    · rcases List.mem_cons.mp hmem with rfl | hmem
      · rfl
      · exact hown b hmem
    · exact (Lts.along_cons _ hexec).mpr ⟨hs, hsucceeds⟩
    · rw [run, Lts.run_cons_of _ hexec]
      exact hrun

/-- In a run whose steps succeed, what is before the automation ends only if everything it
heard does. -/
theorem run_ending (h : run config (initial devices controllers) as = some st)
    (hs : RunSucceeds config (initial devices controllers) as)
    (he : Ending config st.app st.automation) : ∀ hook ∈ st.heard, Terminates config hook := by
  have hstep : ∀ s a s', (WellFormed s.app s.automation ∧
      (Ending config s.app s.automation → ∀ hook ∈ s.heard, Terminates config hook)) →
      Act.Succeeds s a → exec config s a = some s' → WellFormed s'.app s'.automation ∧
      (Ending config s'.app s'.automation → ∀ hook ∈ s'.heard, Terminates config hook) := by
    rintro s a s' ⟨hw, hends⟩ hs hexec
    refine ⟨exec_wellFormed hw hexec, fun he hook hmem => ?_⟩
    cases a with
    | own l =>
      obtain ⟨hstep, hheard, -⟩ := exec_own hexec
      rw [hheard] at hmem
      exact hends (hstep.ending_of hw ((hstep.succeeds_iff hw).mp hs) he) hook hmem
    | other task =>
      obtain ⟨ht, hk, -, hheard⟩ := exec_other hexec
      have hunread := unread_other hw ht
      rw [hk] at he
      -- What was before the automation is still before it
      have hbefore : Ending config s.app s.automation :=
        ⟨fun hook hmem => he.unread hook (by rw [hunread]; exact List.mem_append_left _ hmem),
          he.request⟩
      rw [hheard] at hmem
      split at hmem
      · rename_i hsome
        rw [if_pos hsome] at hunread
        rcases List.mem_append.mp hmem with hmem | hmem
        · exact hends hbefore hook hmem
        · exact he.unread hook (by rw [hunread]; exact List.mem_append_right _ hmem)
      · exact hends hbefore hook hmem
  -- Nothing has been heard at the start
  refine (Lts.run_invariant_along _ hstep hs h ⟨.initial devices controllers, ?_⟩).2 he
  exact fun _ _ hmem => absurd hmem List.not_mem_nil

/-- A device whose dependencies go on forever keeps the automation from coming to rest once it
is turned on, and when every dependency is in place the automation goes on forever. -/
theorem cascade_endless {hook : Hook} {id : DeviceId}
    (h : run config (initial devices controllers) as = some st)
    (hs : RunSucceeds config (initial devices controllers) as) (hmem : hook ∈ st.heard)
    (hon : turnsOn hook = some id) (hendless : ¬Chain.Terminates (dependency config) id) :
    ¬Quiet st ∧ (Ready config st.app st.automation → ¬Drains config st) := by
  have he : ¬Ending config st.app st.automation := fun he =>
    hendless ((terminates_iff config hook).mp (run_ending h hs he hook hmem) id hon)
  constructor
  · rintro ⟨⟨rx, hk⟩, hunread⟩
    exact he (ending_of_nil hunread (by rw [hk]; rfl))
  · intro hr hd
    obtain ⟨n, hn⟩ := hd.bounded
    obtain ⟨bs, st', hlen, hown, hsucceeds, hrun⟩ := hr.spins (run_wellFormed h) he (n + 1)
    have hle := hn bs st' hown hsucceeds hrun
    omega

end Devicectrl.Dependencies

/-! ## A device that depends on itself -/

namespace Devicectrl.Dependencies.Demo

def lamp : DeviceId := ⟨"lamp"⟩

def socket : DeviceId := ⟨"socket"⟩

/-- The lamp needs the socket. -/
def chain : DependencyAutomationConfig := [⟨lamp, socket⟩]

/-- The lamp needs itself. -/
def loop : DependencyAutomationConfig := [⟨lamp, lamp⟩]

def controllers : Controllers := ⟨true, false, false, false⟩

def devices : Devices :=
  AList.insert lamp ⟨lamp, .switch, .unknown, .simple ⟨⟨[7]⟩⟩⟩
    (AList.insert socket ⟨socket, .switch, .unknown, .simple ⟨⟨[8]⟩⟩⟩ ∅)

/-- A client turns the lamp on. -/
def lampOn : Hook := .deviceUpdateDispatch ⟨lamp, .power .on⟩

/-- Somebody turns the lamp on. -/
def turnOn : List Act :=
  [.own .poll, .other (.sendHook lampOn)]

end Devicectrl.Dependencies.Demo

namespace Devicectrl.Dependencies

open Demo

/-- For the chain the requests end. -/
theorem cascade_ends_demo :
    ∃ st, run chain (initial Demo.devices Demo.controllers) turnOn = some st ∧
      st.requests.length ≤ totalCost chain st.heard ∧ Drains chain st := by
  refine ⟨_, rfl, cascade_ends chain Demo.devices Demo.controllers turnOn _ rfl
    ⟨trivial, trivial, trivial⟩ fun hook hmem => ?_⟩
  obtain rfl : hook = lampOn := List.mem_singleton.mp hmem
  rintro id ⟨⟩
  exact ⟨1, .step rfl (.last rfl)⟩

/-- Turning on a device that depends on itself makes the automation turn it on forever. -/
theorem not_drains :
    ¬∀ config devices controllers as st, run config (initial devices controllers) as = some st →
      RunSucceeds config (initial devices controllers) as → Drains config st := by
  intro h
  have hs : RunSucceeds loop (initial Demo.devices Demo.controllers) turnOn :=
    ⟨trivial, trivial, trivial⟩
  have hendless : ¬Chain.Terminates (dependency loop) lamp := Chain.not_terminates_of_self rfl
  refine (cascade_endless rfl hs List.mem_cons_self rfl hendless).2 ?_
    (h loop Demo.devices Demo.controllers turnOn _ rfl hs)
  refine ⟨fun d hd => ?_, nofun, nofun, by decide⟩
  obtain rfl : d = ⟨lamp, lamp⟩ := List.mem_singleton.mp hd
  exact ⟨_, rfl, rfl⟩

end Devicectrl.Dependencies
