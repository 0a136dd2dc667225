import Devicectrl.Spec.DevicesLock
import Devicectrl.Spec.TaskChanges

/-!
# What the tasks of the server do

The inversion lemmas of `ServerTask.step` and of what the server accepts. A part of a task calls a
controller, if at all, and makes one change to the state that all tasks share.

## Key results

- `ServerTask.step_cases`: every part of a task is one of `ServerTask.Step`
- `ServerTask.Step.changes`: the change it makes, and that the task had it in hand
- `mainTasks_cases`, `acceptTask_cases`: what is spawned first, and what is accepted
-/

namespace Devicectrl

variable {app app' : AppState}

/-! ## Calls of the controllers -/

namespace ControllerCall

/-- What a controller that broadcasts is to send. -/
def message : ControllerCall → DeviceBoundMessage
  | .sendUpdate _ request _ => .updateCommand ⟨request.deviceId, request.update⟩
  | .sendQuery device _ => .stateQuery device.id

/-- The same call of a controller on its own. -/
def serverCall : ControllerCall → Server.Call
  | .sendUpdate _ request _ => .sendUpdate request
  | .sendQuery device _ => .sendQuery device

variable {call : ControllerCall} {controller controller' : Controller}

/-- The call broadcasts its message, or fails and changes nothing. -/
theorem send_cases (h : call.send controller = some controller') :
    (controller.send call.message = .ok controller' ∧ call.outcome = .ok ()) ∨
      ∃ e, controller.send call.message = .error e ∧ call.outcome = .error e ∧
        controller' = controller := by
  cases call with
  | sendUpdate device request outcome =>
    simp only [send] at h
    split at h
    · -- the send fails, and that is what the call has answered
      rename_i e he
      obtain ⟨ho, hc⟩ := Option.ite_none_right_eq_some.mp h
      exact .inr ⟨e, he, ho, (Option.some.inj hc).symm⟩
    · -- the send succeeds, and so does the call
      rename_i controller₁ he
      obtain ⟨ho, hc⟩ := Option.ite_none_right_eq_some.mp h
      exact .inl ⟨he.trans (congrArg Except.ok (Option.some.inj hc)), ho⟩
  | sendQuery device outcome =>
    simp only [send] at h
    split at h
    · rename_i e he
      obtain ⟨ho, hc⟩ := Option.ite_none_right_eq_some.mp h
      exact .inr ⟨e, he, ho, (Option.some.inj hc).symm⟩
    · rename_i controller₁ he
      obtain ⟨ho, hc⟩ := Option.ite_none_right_eq_some.mp h
      exact .inl ⟨he.trans (congrArg Except.ok (Option.some.inj hc)), ho⟩

/-- On a controller of its own, the call does the same. -/
theorem serverCall_of_send (h : call.send controller = some controller') (app : AppState) :
    Server.call ⟨app, controller⟩ call.serverCall = some ⟨app, controller'⟩ := by
  cases call with
  | sendUpdate device request outcome =>
    -- The same send, from the side of the controller's own system
    rcases send_cases h with ⟨hs, -⟩ | ⟨e, hs, -, rfl⟩
    · have hupdate : controller.sendUpdate request = .ok controller' := hs
      simp only [serverCall, Server.call, hupdate]
    · have hupdate : controller'.sendUpdate request = .error e := hs
      simp only [serverCall, Server.call, hupdate]
  | sendQuery device outcome =>
    rcases send_cases h with ⟨hs, -⟩ | ⟨e, hs, -, rfl⟩
    · have hquery : controller.sendQuery device = .ok controller' := hs
      simp only [serverCall, Server.call, hquery]
    · have hquery : controller'.sendQuery device = .error e := hs
      simp only [serverCall, Server.call, hquery]

end ControllerCall

/-- The device is one of the Simple controller, and that is enabled. -/
def ControllerCall.toSimple (controllers : Controllers) (call : ControllerCall) : Bool :=
  match call.device.controller with
  | .simple _ => controllers.simple
  | _ => false

/-- The device is one of the Krypton controller, and that is enabled. -/
def ControllerCall.toKrypton (controllers : Controllers) (call : ControllerCall) : Bool :=
  match call.device.controller with
  | .krypton _ => controllers.krypton
  | _ => false

/-- A call leads from one state of the server to another. -/
inductive ServerState.Called (server : ServerState) : Option ControllerCall → ServerState → Prop
  | nothing : Called server none server
  /-- The controller is not enabled, or has no state that tasks share. -/
  | other {call : ControllerCall} (hs : call.toSimple server.app.controllers = false)
      (hk : call.toKrypton server.app.controllers = false) : Called server (some call) server
  | simple {call : ControllerCall} {config simple} (hc : call.device.controller = .simple config)
      (he : server.app.controllers.simple = true) (h : call.send server.simple = some simple) :
      Called server (some call) { server with simple }
  | krypton {call : ControllerCall} {config krypton}
      (hc : call.device.controller = .krypton config)
      (he : server.app.controllers.krypton = true) (h : call.send server.krypton = some krypton) :
      Called server (some call) { server with krypton }

namespace ServerState

variable {server server' : ServerState} {call? : Option ControllerCall}

/-- What a call does to the server, by where it goes. -/
theorem call_cases (h : call?.elim (some server) server.call = some server') :
    server.Called call? server' := by
  cases call? with
  | none =>
    cases h
    exact .nothing
  | some call =>
    simp only [Option.elim_some, ServerState.call] at h
    split at h
    · rename_i config he hc
      obtain ⟨simple, hs, rfl⟩ := Option.map_eq_some_iff.mp h
      rw [hc] at he
      exact .simple hc he hs
    · rename_i config he hc
      obtain ⟨krypton, hs, rfl⟩ := Option.map_eq_some_iff.mp h
      rw [hc] at he
      exact .krypton hc he hs
    · rename_i hsimple hkrypton
      cases h
      -- Tplink and Govee have no state that tasks share, and what is not enabled is not called
      apply Called.other
      · cases hc : call.device.controller with
        | simple config =>
          have hne := hsimple config
          rw [hc] at hne
          simpa [ControllerCall.toSimple, hc, Controllers.field] using hne
        | _ => simp [ControllerCall.toSimple, hc]
      · cases hc : call.device.controller with
        | krypton config =>
          have hne := hkrypton config
          rw [hc] at hne
          simpa [ControllerCall.toKrypton, hc, Controllers.field] using hne
        | _ => simp [ControllerCall.toKrypton, hc]

/-- A call goes to a controller, and changes no more than that. -/
theorem Called.app_eq (h : server.Called call? server') : server'.app = server.app := by
  cases h <;> rfl

/-- A call leaves the certificates. -/
theorem Called.deviceCerts (h : server.Called call? server') :
    server'.deviceCerts = server.deviceCerts := by
  cases h <;> rfl

/-- A part that may call a controller: the call, and then the rest. -/
theorem calling_cases {κ : Type} {step : AppState → Option (AppState × κ)} {k : κ}
    (h : server.calling call? step = some (server', k)) :
    ∃ called app', server.Called call? called ∧ step server.app = some (app', k) ∧
      server' = { called with app := app' } := by
  simp only [calling] at h
  split at h
  · cases h
  · rename_i called hcalled
    obtain ⟨p, hp, he⟩ := Option.map_eq_some_iff.mp h
    cases he
    exact ⟨called, p.1, call_cases hcalled, hp, rfl⟩

end ServerState

/-! ## Parts of the tasks -/

namespace ServerTask

/-- A part of a task. -/
inductive Step (env : ServerEnv) (config : Config) (server : ServerState) :
    ServerTask → TaskLabel → ServerState → ServerTask → Prop
  | client {session l called app' session'}
      (hcall : server.Called (session.controllerCall? l) called)
      (h : session.step env.socket config.scenes server.app l = some (app', session')) :
      Step env config server (.client session) (.client l) { called with app := app' }
        (.client session')
  | http {call l called app' call'} (hcall : server.Called (call.controllerCall? l) called)
      (h : call.step config.scenes server.app l = some (app', call')) :
      Step env config server (.http call) (.http l) { called with app := app' } (.http call')
  | simple {connection l globalConfig simple connection'}
      (hconfig : config.controllers.simple = some globalConfig)
      (h : (Simple.handleConn env.simple globalConfig.serverPrivateKey).turn server.simpleServer
        connection l = some (simple, connection')) :
      Step env config server (.simple connection) (.simple l)
        { server with app := simple.app, simple := simple.controller } (.simple connection')
  | krypton {connection l globalConfig deviceCerts krypton connection'}
      (hconfig : config.controllers.krypton = some globalConfig)
      (hcerts : server.deviceCerts = some deviceCerts)
      (h : (Krypton.handleConn env.incoming.krypton globalConfig deviceCerts).turn
        server.kryptonServer connection l = some (krypton, connection')) :
      Step env config server (.krypton connection) (.krypton l)
        { server with app := krypton.app, krypton := krypton.controller } (.krypton connection')
  | listener {controller listening l app' listening'}
      (h : listening.step env.incoming controller server.app l = some (app', listening')) :
      Step env config server (.listener controller listening) (.listener l)
        { server with app := app' } (.listener controller listening')
  | dependencies {task l relationships called app' task'}
      (hconfig : config.automations.dependencies = some relationships)
      (hcall : server.Called (task.controllerCall? l) called)
      (h : task.step relationships server.app l = some (app', task')) :
      Step env config server (.dependencies task) (.dependencies l) { called with app := app' }
        (.dependencies task')
  | sunset {task l automationConfig called app' task'}
      (hconfig : config.automations.sunsetLightTemp = some automationConfig)
      (hcall : server.Called (task.controllerCall? l) called)
      (h : task.step env.almanac automationConfig server.app l = some (app', task')) :
      Step env config server (.sunset task) (.sunset l) { called with app := app' }
        (.sunset task')
  | queryAll {call l called call'}
      (hcall : server.Called (call.controllerCall? server.app.devices l) called)
      (h : call.step (devicesEnv env config) server.app l = some (server.app, call')) :
      Step env config server (.queryAll call) (.queryAll l) called (.queryAll call')

variable {env : ServerEnv} {config : Config} {server server' : ServerState}
  {task task' : ServerTask} {l : TaskLabel}

theorem step_cases (h : task.step env config server l = some (server', task')) :
    Step env config server task l server' task' := by
  unfold step at h
  split at h
  · obtain ⟨called, app', hcall, hstep, rfl⟩ := ServerState.calling_cases h
    obtain ⟨p, hp, he⟩ := Option.map_eq_some_iff.mp hstep
    cases he
    exact .client hcall hp
  · obtain ⟨called, app', hcall, hstep, rfl⟩ := ServerState.calling_cases h
    obtain ⟨p, hp, he⟩ := Option.map_eq_some_iff.mp hstep
    cases he
    exact .http hcall hp
  · split at h
    · cases h
    · rename_i globalConfig hconfig
      obtain ⟨p, hp, he⟩ := Option.map_eq_some_iff.mp h
      cases he
      exact .simple hconfig hp
  · split at h
    · rename_i globalConfig deviceCerts hconfig hcerts
      obtain ⟨p, hp, he⟩ := Option.map_eq_some_iff.mp h
      cases he
      exact .krypton hconfig hcerts hp
    · cases h
  · obtain ⟨p, hp, he⟩ := Option.map_eq_some_iff.mp h
    cases he
    exact .listener hp
  · split at h
    · cases h
    · rename_i relationships hconfig
      obtain ⟨called, app', hcall, hstep, rfl⟩ := ServerState.calling_cases h
      obtain ⟨p, hp, he⟩ := Option.map_eq_some_iff.mp hstep
      cases he
      exact .dependencies hconfig hcall hp
  · split at h
    · cases h
    · rename_i automationConfig hconfig
      obtain ⟨called, app', hcall, hstep, rfl⟩ := ServerState.calling_cases h
      obtain ⟨p, hp, he⟩ := Option.map_eq_some_iff.mp hstep
      cases he
      exact .sunset hconfig hcall hp
  · obtain ⟨called, app', hcall, hstep, rfl⟩ := ServerState.calling_cases h
    obtain ⟨⟨app₁, call'⟩, hp, he⟩ := Option.map_eq_some_iff.mp hstep
    cases he
    -- The queries only read the table
    obtain rfl := (QueryAll.step_cases hp).1
    rw [← hcall.app_eq]
    exact .queryAll hcall hp
  · cases h

end ServerTask

namespace ServerTask

/-- The requests that a task has yet to be done with. -/
def requests (scenes : ScenesConfig) : ServerTask → List UpdateRequest
  | .client session => session.requests scenes
  | .http call => call.requests scenes
  | .dependencies task => task.asking
  | .sunset task => task.requests
  | _ => []

/-- The requests that a task has handed to the controller of a device. -/
def handed : ServerTask → List (Device × UpdateRequest)
  | .client session => session.handed
  | .http call => call.handed
  | .dependencies task => task.handed
  | .sunset task => task.handed
  | _ => []

/-- The notifications that a task is processing. -/
def notifications : ServerTask → List UpdateNotification
  | .simple connection => connection.conn.notifications
  | .krypton connection => connection.conn.notifications
  | .listener _ listening => listening.notifications
  | _ => []

/-- The receivers of hooks that a task has. -/
def subscriptions : ServerTask → Nat
  | .client session => session.subscriptions
  | .dependencies task => task.subscriptions
  | _ => 0

variable {env : ServerEnv} {config : Config} {server server' : ServerState}
  {task task' : ServerTask} {l : TaskLabel}

/-- A connection changes what its `handle_conn` does. -/
theorem turn_changes {κ ν ℓ : Type} {H : HandleConn κ ν ℓ} {server server' : Server}
    {k k' : Connection κ} {l : HandleConn.Label ℓ} {notifications : List UpdateNotification}
    (hstep : ∀ {l app' conn}, H.step server.app k.conn l = some (app', conn) →
      Notifies server.app notifications app')
    (h : H.turn server k l = some (server', k')) :
    Changes server.app 0 [] notifications server'.app 0 := by
  cases l with
  | own l =>
    obtain ⟨hown, -, -⟩ := HandleConn.turn_own h
    exact .notification (hstep hown)
  | recvRequest r =>
    obtain ⟨-, -, -, hserver⟩ := HandleConn.turn_recv h
    -- A request, or lag, concerns the channel of the controller alone
    have happ : server'.app = server.app := by
      rw [hserver]
      exact (H.leave_eq server k').2.1
    rw [happ]
    exact .stay

/-- A part of a task makes one change. -/
theorem Step.changes (h : Step env config server task l server' task') :
    Changes server.app task.subscriptions (task.requests config.scenes) task.notifications
      server'.app task'.subscriptions := by
  cases h with
  | client hcall h => exact ClientSession.step_changes h
  | http hcall h => exact (HttpCall.step_requests h).changes 0
  | simple hconfig h => exact turn_changes Simple.Conn.step_notifies h
  | krypton hconfig hcerts h => exact turn_changes Krypton.Conn.step_notifies h
  | listener h => exact .notification (StartListening.step_notifies h)
  | dependencies hconfig hcall h => exact DependencyTask.step_changes h
  | sunset hconfig hcall h => exact SunsetTask.step_changes h
  | queryAll hcall h =>
    -- `query_all` changes nothing but what its calls broadcast
    rw [hcall.app_eq]
    exact .stay

/-- No step of a task changes the certificates that were collected. -/
theorem Step.deviceCerts (h : Step env config server task l server' task') :
    server'.deviceCerts = server.deviceCerts := by
  cases h with
  | client hcall h => exact hcall.deviceCerts
  | http hcall h => exact hcall.deviceCerts
  | simple hconfig h => rfl
  | krypton hconfig hcerts h => rfl
  | listener h => rfl
  | dependencies hconfig hcall h => exact hcall.deviceCerts
  | sunset hconfig hcall h => exact hcall.deviceCerts
  | queryAll hcall h => exact hcall.deviceCerts

/-- But for what a connection does to its own controller, a part of a task does no more to the
controllers than the call it makes. -/
theorem Step.called (h : Step env config server task l server' task') :
    ∃ call? called, server.Called call? called ∧
      ((∀ k, task ≠ .simple k) → server'.simple = called.simple) ∧
      ((∀ k, task ≠ .krypton k) → server'.krypton = called.krypton) := by
  cases h with
  | client hcall h => exact ⟨_, _, hcall, fun _ => rfl, fun _ => rfl⟩
  | http hcall h => exact ⟨_, _, hcall, fun _ => rfl, fun _ => rfl⟩
  | @simple connection =>
    exact ⟨none, server, .nothing, fun hne => absurd rfl (hne connection), fun _ => rfl⟩
  -- The connections are only touched by their own turns
  | @krypton connection =>
    exact ⟨none, server, .nothing, fun _ => rfl, fun hne => absurd rfl (hne connection)⟩
  | listener h => exact ⟨none, server, .nothing, fun _ => rfl, fun _ => rfl⟩
  | dependencies hconfig hcall h => exact ⟨_, _, hcall, fun _ => rfl, fun _ => rfl⟩
  | sunset hconfig hcall h => exact ⟨_, _, hcall, fun _ => rfl, fun _ => rfl⟩
  | queryAll hcall h => exact ⟨_, _, hcall, fun _ => rfl, fun _ => rfl⟩

end ServerTask

/-! ## What is accepted -/

/-- A task that begins on its own: it has no receiver of hooks yet, and the state of the server is
as it was but for a subscription to a controller. -/
inductive AcceptTask (env : ServerEnv) (config : Config) (server : ServerState) :
    TaskStart → ServerState → ServerTask → Prop
  | client {transport} :
      AcceptTask env config server (.client transport) server (.client (.start transport))
  | http {bytes} :
      AcceptTask env config server (.http bytes) server (.http (.start env.http bytes))
  | simple {expectedRecvNonce globalConfig}
      (hconfig : config.controllers.simple = some globalConfig) :
      AcceptTask env config server (.simple expectedRecvNonce)
        { server with simple := server.simpleServer.subscribe.1.controller }
        (.simple ⟨.start expectedRecvNonce, ⟨server.simple.requestSender.sent.length⟩,
          server.simple.requestSender.sent.length⟩)
  | krypton {globalConfig deviceCerts} (hconfig : config.controllers.krypton = some globalConfig)
      (hcerts : server.deviceCerts = some deviceCerts) :
      AcceptTask env config server .krypton
        { server with krypton := server.kryptonServer.subscribe.1.controller }
        (.krypton ⟨.start (), ⟨server.krypton.requestSender.sent.length⟩,
          server.krypton.requestSender.sent.length⟩)

/-- A task that `main` or `start_automations` spawns, by what is configured. -/
inductive InitialTask (config : Config) : ServerTask → Prop
  | tplink (h : config.controllers.tplink = true) :
      InitialTask config (.listener .tplink .receiving)
  | govee (h : config.controllers.govee = true) : InitialTask config (.listener .govee .receiving)
  | queryAll : InitialTask config (.queryAll .begin)
  | sunset (h : config.automations.sunsetLightTemp.isSome = true) :
      InitialTask config (.sunset ⟨.computing, []⟩)
  | dependencies (h : config.automations.dependencies.isSome = true) :
      InitialTask config (.dependencies ⟨.spawned, []⟩)

/-- The tasks of `main`, one by one. -/
theorem mainTasks_cases {config : Config} {task : ServerTask} (h : task ∈ mainTasks config) :
    InitialTask config task := by
  simp only [mainTasks, List.mem_append, List.mem_ite_nil_right, List.mem_singleton] at h
  rcases h with (((⟨htplink, rfl⟩ | ⟨hgovee, rfl⟩) | rfl) | ⟨hsunset, rfl⟩) | ⟨hdependencies, rfl⟩
  · exact .tplink htplink
  · exact .govee hgovee
  · exact .queryAll
  · exact .sunset hsunset
  · exact .dependencies hdependencies

section Accept

variable {env : ServerEnv} {config : Config} {server server' : ServerState} {start : TaskStart}
  {task : ServerTask}

/-- What begins on its own, one by one. -/
theorem acceptTask_cases (h : acceptTask env config server start = some (server', task)) :
    AcceptTask env config server start server' task := by
  unfold acceptTask at h
  split at h
  · -- clients of the two sockets, where their servers are configured
    split at h
    · cases h
      exact .client
    · cases h
  · split at h
    · cases h
      exact .client
    · cases h
  · split at h
    · cases h
      exact .http
    · cases h
  · -- connections, where their controllers are
    split at h
    · cases h
    · rename_i globalConfig hconfig
      cases h
      exact .simple hconfig
  · split at h
    · rename_i globalConfig deviceCerts hconfig hcerts
      cases h
      exact .krypton hconfig hcerts
    · cases h

/-- To begin a task changes nothing of the table and of the hooks. -/
theorem AcceptTask.app_eq (h : AcceptTask env config server start server' task) :
    server'.app = server.app := by
  cases h <;> rfl

/-- To begin a task leaves the certificates. -/
theorem AcceptTask.deviceCerts (h : AcceptTask env config server start server' task) :
    server'.deviceCerts = server.deviceCerts := by
  cases h <;> rfl

/-- A task that begins has not subscribed yet. -/
theorem AcceptTask.subscriptions (h : AcceptTask env config server start server' task) :
    task.subscriptions = 0 := by
  cases h <;> rfl

/-- The certificates are those of the table that `main` has loaded. -/
theorem collectDeviceCerts_cases (h : collectDeviceCerts config server = some server') :
    server' = { server with deviceCerts := some (Krypton.collectCerts server.app.devices) } := by
  unfold collectDeviceCerts at h
  split at h
  · exact (Option.some.inj h).symm
  · cases h

end Accept

end Devicectrl
