import Devicectrl.ForStd.Forwarding
import Devicectrl.Spec.DependencyAutomation
import Devicectrl.Spec.RequestLedger

/-!
# The dependency automation among the other tasks

The automation answers the hooks of all tasks of the server, its own among them: once it has
subscribed it skips none and answers none twice, however the tasks interleave.

## Key results

- `Follows.step`: what the automation has answered, by where it is
- `server_follows`: its requests in a run of the server
-/

namespace Devicectrl

/-! ## The automation -/

/-- The request that answers a hook, if one does. -/
def Dependencies.answer (relationships : DependencyAutomationConfig) (hook : Hook) :
    Option UpdateRequest :=
  (Dependencies.onEvent relationships hook).map Prod.fst

/-- An automation that subscribed when `since` hooks had been sent, by where it is: what it has
requested, and of that what has been announced. -/
inductive Follows (relationships : DependencyAutomationConfig) (ch : Broadcast.Channel Hook)
    (since : Nat) : DependencyTask → Prop
  | receiving {rx requests}
      (h : ch.Forwards (Dependencies.answer relationships) since rx requests (some []))
      (ha : requests.Sublist (dispatchRequests (ch.sent.drop since))) :
      Follows relationships ch since ⟨.receiving rx, requests⟩
  | requesting {rx request context requests}
      (h : ch.Forwards (Dependencies.answer relationships) since rx requests (some [request]))
      (ha : requests.Sublist (dispatchRequests (ch.sent.drop since))) :
      Follows relationships ch since ⟨.requesting rx request context, requests⟩
  | dispatching {rx device context requests}
      (h : ch.Forwards (Dependencies.answer relationships) since rx requests (some []))
      (ha : requests.Sublist (dispatchRequests (ch.sent.drop since))) :
      Follows relationships ch since ⟨.dispatching rx device context, requests⟩
  /-- The last request may have failed before it was announced. -/
  | returned {e requests}
      (h : requests <+: (ch.sent.drop since).filterMap (Dependencies.answer relationships))
      (ha : requests.dropLast.Sublist (dispatchRequests (ch.sent.drop since))) :
      Follows relationships ch since ⟨.returned e, requests⟩

namespace Follows

variable {relationships : DependencyAutomationConfig} {ch ch' : Broadcast.Channel Hook}
  {since : Nat} {app app' : AppState} {task : DependencyTask} {l : Dependencies.Label}

/-- From its subscription on the automation has requested nothing. -/
theorem subscribe (relationships : DependencyAutomationConfig) (ch : Broadcast.Channel Hook) :
    Follows relationships ch ch.sent.length ⟨.receiving ⟨ch.sent.length⟩, []⟩ :=
  .receiving (.subscribe ch _) (List.nil_sublist _)

/-- Hooks that are sent later leave those before in their order. -/
theorem dispatchRequests_grows (hgrows : ch.Grows ch') (since : Nat) :
    (dispatchRequests (ch.sent.drop since)).Sublist (dispatchRequests (ch'.sent.drop since)) :=
  (hgrows.drop_prefix since).sublist.filterMap _

/-- Hooks that are sent while the automation waits are yet to be answered. -/
theorem grows (h : Follows relationships ch since task) (hgrows : ch.Grows ch') :
    Follows relationships ch' since task := by
  have hannounced := dispatchRequests_grows hgrows since
  cases h with
  | receiving h ha => exact .receiving (h.grows hgrows) (ha.trans hannounced)
  | requesting h ha => exact .requesting (h.grows hgrows) (ha.trans hannounced)
  | dispatching h ha => exact .dispatching (h.grows hgrows) (ha.trans hannounced)
  | returned h ha =>
    exact .returned (h.trans ((hgrows.drop_prefix since).filterMap _)) (ha.trans hannounced)

/-- The request in hand is announced. -/
theorem announce {request : UpdateRequest} {requests : List UpdateRequest}
    (hsince : since ≤ app.hooks.sender.sent.length)
    (hs : app.Sends app' [.deviceUpdateDispatch request])
    (ha : requests.Sublist (dispatchRequests (app.hooks.sender.sent.drop since))) :
    (requests ++ [request]).Sublist (dispatchRequests (app'.hooks.sender.sent.drop since)) := by
  rw [hs.sender, List.drop_append_of_le_length hsince, dispatchRequests_append]
  exact ha.append (List.Sublist.refl [request])

/-- The automation goes on. -/
theorem step {k k' : Dependencies.Automation} {requests : List UpdateRequest}
    (h : Follows relationships app.hooks.sender since ⟨k, requests⟩)
    (hgrows : app.hooks.sender.Grows app'.hooks.sender)
    (hstep : Dependencies.Step relationships app k l app' k') :
    Follows relationships app'.hooks.sender since ⟨k', requests ++ k.request?.toList⟩ := by
  have hannounced := dispatchRequests_grows hgrows since
  cases hstep with
  -- An automation that follows has subscribed
  | subscribe => cases h
  | lag hr =>
    simp only [Dependencies.Automation.request?, Option.toList_none, List.append_nil]
    cases h with
    | receiving h ha =>
      -- A receiver that has lagged is given up, with what was announced
      exact .returned (h.grows hgrows).order ((List.dropLast_sublist _).trans ha)
  | ignore hr ho =>
    simp only [Dependencies.Automation.request?, Option.toList_none, List.append_nil]
    cases h with
    | receiving h ha =>
      -- A hook without an answer is passed over
      exact .receiving (h.skip hr (by rw [Dependencies.answer, ho, Option.map_none])) ha
  | answer hr ho =>
    simp only [Dependencies.Automation.request?, Option.toList_none, List.append_nil]
    cases h with
    | receiving h ha =>
      -- A hook with an answer is taken in hand
      exact .requesting (h.take hr (by rw [Dependencies.answer, ho, Option.map_some])) ha
  | refuse hb =>
    cases h with
    | requesting h ha =>
      -- The request in hand has not been announced, and `dropLast` leaves it out
      apply Follows.returned (h.grows hgrows).pass.order
      rw [List.dropLast_concat]
      exact ha.trans hannounced
  | request hb =>
    cases h with
    | requesting h ha =>
      obtain ⟨hsince, hnext, -⟩ := h.live _ rfl
      -- The request in hand is announced, and counts from now on
      exact .dispatching (h.grows hgrows).pass
        (announce (Nat.le_trans hsince hnext) (beginUpdateRequest_sends hb) ha)
  | fail hd =>
    simp only [Dependencies.Automation.request?, Option.toList_none, List.append_nil]
    cases h with
    | dispatching h ha =>
      exact .returned (h.grows hgrows).order ((List.dropLast_sublist _).trans ha)
  | succeed hd =>
    simp only [Dependencies.Automation.request?, Option.toList_none, List.append_nil]
    cases h with
    | dispatching h ha => exact .receiving h ha

end Follows

/-! ## Runs -/

section Runs

variable {env : ServerEnv} {config : Config} {relationships : DependencyAutomationConfig}
  {i since : Nat} {st st' : System.State ServerState ServerTask}
  {a : System.Act Unit TaskStart TaskLabel}

/-- What a task does to the state only adds hooks. -/
theorem AppState.Change.grows {app app' : AppState} {act : Option Task}
    (h : app.Change act app') : app.hooks.sender.Grows app'.hooks.sender := by
  cases h with
  | store h =>
    rw [storeNotification_hooks h]
    exact .refl _
  | send h => exact ⟨rfl, rfl, List.prefix_append _ _⟩
  | _ => exact ⟨rfl, rfl, List.prefix_refl _⟩

/-- Whatever a task does, the hook stream only grows. -/
theorem serverTasks_grows (hexec : (serverTasks env config).exec st a = some st') :
    st.shared.app.hooks.sender.Grows st'.shared.app.hooks.sender := by
  cases a with
  | env e =>
    obtain ⟨henv, -⟩ := System.exec_env hexec
    rw [collectDeviceCerts_cases henv]
    exact .refl _
  | spawn start =>
    obtain ⟨task, hspawn, -⟩ := System.exec_spawn hexec
    rw [(acceptTask_cases hspawn).app_eq]
    exact .refl _
  | step i l =>
    obtain ⟨task, task', -, hstep, -⟩ := System.exec_step hexec
    -- A step of a task makes one change, and every change lets the channel grow
    obtain ⟨act, hchange, -⟩ := (ServerTask.step_cases hstep).changes
    exact hchange.grows

/-- The automation is task `i`. -/
def FollowsAt (relationships : DependencyAutomationConfig) (i since : Nat)
    (st : System.State ServerState ServerTask) : Prop :=
  ∃ task, st.comps[i]? = some (.dependencies task) ∧
    Follows relationships st.shared.app.hooks.sender since task

/-- Every action keeps the automation in step with its hooks. -/
theorem FollowsAt.exec (hconfig : config.automations.dependencies = some relationships)
    (h : FollowsAt relationships i since st)
    (hexec : (serverTasks env config).exec st a = some st') :
    FollowsAt relationships i since st' := by
  obtain ⟨task, hi, hfollows⟩ := h
  have hgrows := serverTasks_grows hexec
  have hlt : i < st.comps.length := (List.getElem?_eq_some_iff.mp hi).1
  cases a with
  | env e =>
    obtain ⟨-, hcomps⟩ := System.exec_env hexec
    exact ⟨task, by rw [hcomps]; exact hi, hfollows.grows hgrows⟩
  | spawn start =>
    obtain ⟨spawned, -, hcomps⟩ := System.exec_spawn hexec
    refine ⟨task, ?_, hfollows.grows hgrows⟩
    rw [hcomps, List.getElem?_append_left hlt]
    exact hi
  | step j l =>
    obtain ⟨task₁, task', hj, hstep, hcomps⟩ := System.exec_step hexec
    by_cases hji : j = i
    · subst hji
      rw [hi] at hj
      cases hj
      unfold FollowsAt
      generalize st'.shared = server' at hstep hgrows ⊢
      -- A task that follows is the dependency automation, and makes its own step
      cases ServerTask.step_cases hstep with
      | dependencies hconfig' hcall h =>
        obtain rfl := Option.some.inj (hconfig.symm.trans hconfig')
        obtain ⟨p, hp, he⟩ := Option.map_eq_some_iff.mp h
        cases he
        refine ⟨_, ?_, hfollows.step hgrows (Dependencies.startAutomation_cases hp)⟩
        rw [hcomps, List.getElem?_set_self hlt]
    · -- another task at most sends hooks
      refine ⟨task, ?_, hfollows.grows hgrows⟩
      rw [hcomps, List.getElem?_set_ne hji]
      exact hi

/-- From its first poll on, in every run of the server with all its tasks in any order: what the
dependency automation has requested are the first answers to the hooks sent since, one to each hook
that has one and in their order, among them the hooks of its own requests. As long as the
automation has not failed, all of it has been announced in this order, and all but the last if it
has. Where it awaits the next hook, it has answered exactly those before that. -/
theorem server_follows (env : ServerEnv) (config : Config)
    (relationships : DependencyAutomationConfig)
    (hconfig : config.automations.dependencies = some relationships)
    (st₁ st : System.State ServerState ServerTask) (i : Nat)
    (hi : st₁.comps[i]? = some (.dependencies ⟨.spawned, []⟩))
    (as : List (System.Act Unit TaskStart TaskLabel))
    (h : (serverTasks env config).run st₁ (.step i (.dependencies .poll) :: as) = some st) :
    let since := st₁.shared.app.hooks.sender.sent.length
    let hooks := st.shared.app.hooks.sender.sent.drop since
    ∃ task, st.comps[i]? = some (.dependencies task) ∧
      task.requests <+: hooks.filterMap (Dependencies.answer relationships) ∧
      ((∀ e, task.automation ≠ .returned e) → task.requests.Sublist (dispatchRequests hooks)) ∧
      task.requests.dropLast.Sublist (dispatchRequests hooks) ∧
      ∀ rx, task.automation = .receiving rx →
        task.requests = (st.shared.app.hooks.sender.between since rx.next).filterMap
          (Dependencies.answer relationships) := by
  intro since hooks
  obtain ⟨st₂, hpoll, hrun⟩ := Lts.run_cons _ h
  have hfirst : FollowsAt relationships i since st₂ := by
    obtain ⟨task, task', hi', hstep, hcomps⟩ := System.exec_step hpoll
    rw [hi] at hi'
    cases hi'
    have hlt : i < st₁.comps.length := (List.getElem?_eq_some_iff.mp hi).1
    have htask : st₂.comps[i]? = some task' := by rw [hcomps, List.getElem?_set_self hlt]
    have hstep : ServerTask.step env config st₁.shared (.dependencies ⟨.spawned, []⟩)
      (.dependencies .poll) = some (st₂.shared, task') := hstep
    unfold FollowsAt
    generalize st₂.shared = server' at hstep ⊢
    cases ServerTask.step_cases hstep with
    | dependencies hconfig' hcall h =>
      obtain ⟨p, hp, he⟩ := Option.map_eq_some_iff.mp h
      cases he
      cases hp
      exact ⟨_, htask, .subscribe _ _⟩
  obtain ⟨task, htask, hfollows⟩ := Lts.run_invariant _
    (fun _ _ _ hs he => FollowsAt.exec hconfig hs he) hrun hfirst
  refine ⟨task, htask, ?_⟩
  -- By where the automation is: a request is made and announced in one part
  cases hfollows with
  | receiving hf ha =>
    refine ⟨hf.order, fun _ => ha, (List.dropLast_sublist _).trans ha, fun rx hrx => ?_⟩
    cases hrx
    obtain ⟨-, -, hrequests⟩ := hf.live [] rfl
    rw [List.append_nil] at hrequests
    exact hrequests
  | requesting hf ha =>
    exact ⟨hf.order, fun _ => ha, (List.dropLast_sublist _).trans ha, fun rx hrx => by cases hrx⟩
  | dispatching hf ha =>
    exact ⟨hf.order, fun _ => ha, (List.dropLast_sublist _).trans ha, fun rx hrx => by cases hrx⟩
  | @returned e requests hf ha =>
    exact ⟨hf, fun hlive => absurd rfl (hlive e), ha, fun rx hrx => by cases hrx⟩

end Runs

end Devicectrl

namespace Devicectrl

open ServerTask.Demo in
/-- The automation listens, a client turns the lamp on, and the fan that it depends on follows. -/
def ServerTask.Demo.followed : List (System.Act Unit TaskStart TaskLabel) :=
  turnedOn ++ [.step 1 (.dependencies .poll), .step 1 (.dependencies .poll),
    .step 1 (.dependencies (.dispatched (.ok ())))]

open ServerTask.Demo in
/-- The automation has answered the lamp, and has announced its answer. -/
theorem server_follows_demo :
    ∃ (st : System.State ServerState ServerTask) (task : DependencyTask),
      (serverTasks env config).run (serverInitial config devices)
          (.step 1 (.dependencies .poll) :: followed) = some st ∧
        st.comps[1]? = some (.dependencies task) ∧
        task.requests = [⟨Simple.Demo.fan, .power .on⟩] ∧
        task.requests <+: (st.shared.app.hooks.sender.sent.drop 0).filterMap
          (Dependencies.answer [⟨Simple.Demo.lamp, Simple.Demo.fan⟩]) := by
  have hrun : ∃ st, (serverTasks env config).run (serverInitial config devices)
      (.step 1 (.dependencies .poll) :: followed) = some st ∧
      ∃ task, st.comps[1]? = some (.dependencies task) ∧
        task.requests = [⟨Simple.Demo.fan, .power .on⟩] := ⟨_, rfl, _, rfl, rfl⟩
  obtain ⟨st, hst, task, htask, hrequests⟩ := hrun
  obtain ⟨task', htask', hprefix, -⟩ := server_follows env config
    [⟨Simple.Demo.lamp, Simple.Demo.fan⟩] rfl _ st 1 rfl followed hst
  -- Both describe the task with index `1`
  rw [htask] at htask'
  cases htask'
  exact ⟨st, task, hst, htask, hrequests, hprefix⟩

end Devicectrl
