import Devicectrl.ForStd.SystemPart
import Devicectrl.Spec.DevicesLock
import Devicectrl.Spec.RequestBroadcast
import Devicectrl.Spec.ServerTasks
import Devicectrl.Spec.SimpleRuns
import Devicectrl.Spec.SunsetWakes
import Mathlib.Algebra.Order.BigOperators.Group.List

/-!
# Runs of the whole server

Three systems are parts of the server with all its tasks: the sessions of its clients, and the
connections of the Simple and of the Krypton controller. What the other tasks do is for each of
them the work of its environment, so that all that is proved of them holds within the server.

## Key results

- `Serves.exec`: what every action of the server keeps, first of all that the receivers of hooks
  are the one of `AppState` and those of the tasks
- `clientPart`, `simplePart`, `kryptonPart`: the three parts
- `server_parts`: a run of the server is a run of each of them
- `server_receivers`: who is subscribed to hooks and to requests, and that none is ever sent to a
  closed channel
-/

namespace Devicectrl

variable {env : ServerEnv} {config : Config} {devices : Devices} {app app' : AppState}

/-! ## The configuration of a table -/

/-- All but the states, in the order of the table. -/
def Devices.configs (devices : Devices) :
    List (DeviceId × DeviceId × DeviceType × ControllerConfig) :=
  devices.entries.map fun entry => (entry.1, entry.2.config)

/-- A notification that is stored changes a state only. -/
theorem storeNotification_configs {update : UpdateNotification}
    (h : storeNotification update app = .ok app') : app'.devices.configs = app.devices.configs := by
  obtain ⟨device, hd, rfl⟩ := storeNotification_ok h
  apply AList.map_entries_replace
  intro device' hd'
  obtain rfl := Option.some.inj (hd.symm.trans hd')
  rfl

/-- A fold only sees of each element what its step sees. -/
private theorem foldl_eq_of_map_eq {α β γ : Type*} {f : β → α → β} {g : α → γ}
    (hf : ∀ b a a', g a = g a' → f b a = f b a') {l l' : List α} (h : l.map g = l'.map g) (b : β) :
    l.foldl f b = l'.foldl f b := by
  induction l generalizing l' b with
  | nil =>
    rw [List.map_nil, eq_comm, List.map_eq_nil_iff] at h
    rw [h]
  | cons a l ih =>
    cases l' with
    | nil => cases h
    | cons a' l' =>
      -- The heads have the same picture, so the accumulators stay equal
      rw [List.map_cons, List.map_cons, List.cons.injEq] at h
      rw [List.foldl_cons, List.foldl_cons, hf b a a' h.1]
      exact ih h.2 _

/-- The certificates that are collected depend on the configuration only. -/
theorem collectCerts_congr {devices devices' : Devices} (h : devices'.configs = devices.configs) :
    Krypton.collectCerts devices' = Krypton.collectCerts devices := by
  apply foldl_eq_of_map_eq _ h
  intro certs entry entry' hentry
  have hconfig : entry.2.config = entry'.2.config := (Prod.mk.inj hentry).2
  have hid : entry.2.id = entry'.2.id := congrArg (fun p => p.1) hconfig
  have hcontroller : entry.2.controller = entry'.2.controller := congrArg (fun p => p.2.2) hconfig
  simp only [hid, hcontroller]

namespace AppState.Change

variable {act : Option Task}

/-- No change leaves another configuration in the table. -/
theorem configs (h : app.Change act app') : app'.devices.configs = app.devices.configs := by
  cases h with
  | store h => exact storeNotification_configs h
  | _ => rfl

/-- The receivers that a change leaves. -/
theorem receivers (h : app.Change act app')
    (hle : Task.leaves act ≤ app.hooks.sender.receivers) :
    app'.hooks.sender.receivers + Task.leaves act =
      app.hooks.sender.receivers + Task.joins act := by
  cases h with
  | stay => rfl
  | store h =>
    rw [storeNotification_hooks h]
    rfl
  | send h => rfl
  | subscribe => rfl
  | leave => exact Nat.sub_add_cancel hle

end AppState.Change

/-! ## What every action keeps -/

/-- The receivers of hooks are the one of `AppState`, which is never dropped, and those of the
tasks; all else is as `main` has set it up. -/
structure Serves (config : Config) (devices : Devices)
    (st : System.State ServerState ServerTask) : Prop where
  configs : st.shared.app.devices.configs = devices.configs
  controllers : st.shared.app.controllers = .new config.controllers
  receivers : st.shared.app.hooks.sender.receivers =
    1 + (st.comps.map ServerTask.subscriptions).sum
  deviceCerts : ∀ certs ∈ st.shared.deviceCerts, certs = Krypton.collectCerts devices

namespace Serves

variable {st st' : System.State ServerState ServerTask}

/-- The server serves its configuration when `main` starts. -/
theorem initial (config : Config) (devices : Devices) :
    Serves config devices (serverInitial config devices) := by
  refine ⟨rfl, rfl, ?_, by simp [serverInitial]⟩
  have hsum : ((mainTasks config).map ServerTask.subscriptions).sum = 0 := by
    apply List.sum_eq_zero
    intro n hn
    obtain ⟨task, htask, rfl⟩ := List.mem_map.mp hn
    cases mainTasks_cases htask <;> rfl
  show 1 = 1 + ((mainTasks config).map ServerTask.subscriptions).sum
  rw [hsum]

/-- There is always a receiver of hooks, and one more if a task has one. -/
theorem subscriptions_lt (h : Serves config devices st) {i : Nat} {task : ServerTask}
    (hi : st.comps[i]? = some task) :
    task.subscriptions < st.shared.app.hooks.sender.receivers := by
  have hle : task.subscriptions ≤ (st.comps.map ServerTask.subscriptions).sum :=
    List.le_sum_of_mem (List.mem_map_of_mem (List.mem_of_getElem? hi))
  rw [h.receivers]
  omega

/-- A part of a task leaves as many receivers as the tasks then have. -/
theorem step (h : Serves config devices st) {i : Nat} {task task' : ServerTask} {l : TaskLabel}
    {server : ServerState} (hi : st.comps[i]? = some task)
    (hstep : task.Step env config st.shared l server task') :
    Serves config devices ⟨server, st.comps.set i task'⟩ := by
  obtain ⟨act, hchange, hsub, -⟩ := hstep.changes
  have hlt := h.subscriptions_lt hi
  have hone := Task.leaves_or_joins act
  refine ⟨hchange.configs.trans h.configs, hchange.controllers.trans h.controllers, ?_, ?_⟩
  · -- the receivers follow what the task joins and leaves
    have hreceivers := hchange.receivers (by omega)
    have hsum := List.sum_map_set ServerTask.subscriptions hi task'
    have hst := h.receivers
    show server.app.hooks.sender.receivers = 1 + ((st.comps.set i task').map _).sum
    omega
  · -- the certificates are those of the table they were collected from
    intro certs hcerts
    apply h.deviceCerts
    rw [← hstep.deviceCerts]
    exact hcerts

/-- One action of the server goes on serving. -/
theorem exec (h : Serves config devices st) {a : System.Act Unit TaskStart TaskLabel}
    (hexec : (serverTasks env config).exec st a = some st') : Serves config devices st' := by
  cases a with
  | env e =>
    -- The certificates are collected from a table with the configuration of the first
    obtain ⟨henv, hcomps⟩ := System.exec_env hexec
    have hshared := collectDeviceCerts_cases henv
    have happ : st'.shared.app = st.shared.app := by rw [hshared]
    refine ⟨by rw [happ, h.configs], by rw [happ, h.controllers],
      by rw [happ, h.receivers, hcomps], fun certs hcerts => ?_⟩
    rw [hshared] at hcerts
    obtain rfl := Option.some.inj hcerts
    exact collectCerts_congr h.configs
  | spawn start =>
    obtain ⟨task, hspawn, hcomps⟩ := System.exec_spawn hexec
    have haccept := acceptTask_cases hspawn
    refine ⟨by rw [haccept.app_eq, h.configs], by rw [haccept.app_eq, h.controllers], ?_, ?_⟩
    · rw [haccept.app_eq, h.receivers, hcomps, List.map_append, List.sum_append]
      simp [haccept.subscriptions]
    · intro certs hcerts
      rw [haccept.deviceCerts] at hcerts
      exact h.deviceCerts certs hcerts
  | step i l =>
    obtain ⟨task, task', hi, hstep, hcomps⟩ := System.exec_step hexec
    have hst := h.step hi (ServerTask.step_cases hstep)
    rwa [← hcomps] at hst

/-- Every run of the server goes on serving. -/
theorem run {as : List (System.Act Unit TaskStart TaskLabel)}
    (hrun : (serverTasks env config).run (serverInitial config devices) as = some st) :
    Serves config devices st :=
  Lts.run_invariant _ (fun _ _ _ hs he => hs.exec he) hrun (.initial config devices)

/-- The controllers and the devices of a run are those it began with. -/
theorem sameConfig (h : Serves config devices st) :
    (AppState.new devices (.new config.controllers)).SameConfig st.shared.app := by
  refine ⟨AList.map_lookup_congr h.configs, ?_, h.controllers⟩
  have hreceivers := h.receivers
  show 0 < st.shared.app.hooks.sender.receivers ↔ 0 < 1
  omega

end Serves

/-! ## Parts -/

section Leads

variable {st : System.State ServerState ServerTask} {i : Nat} {task task' : ServerTask}
  {l : TaskLabel} {server : ServerState}

/-- What a part of a task changes, one of the tasks of `Task.run` changes. -/
theorem Serves.acts (hs : Serves config devices st) (hi : st.comps[i]? = some task)
    (hstep : task.Step env config st.shared l server task') :
    server.app = st.shared.app ∨ ∃ t : Task, t.run st.shared.app = some server.app := by
  obtain ⟨act, hchange, hsub, -⟩ := hstep.changes
  have hlt := hs.subscriptions_lt hi
  apply hchange.run
  · omega
  · rintro rfl
    simp only [Task.leaves, Task.joins] at hsub
    omega

/-- A change by another task is one that the client sessions allow for. -/
theorem clientSessions_leads (socket : SocketEnv) (scenes : ScenesConfig)
    (h : app' = app ∨ ∃ t : Task, t.run app = some app') :
    (clientSessions socket scenes).EnvLeads app app' := by
  rcases h with rfl | ⟨t, ht⟩
  · exact .refl _
  · exact .single ht

variable {κ ν ℓ : Type} (H : HandleConn κ ν ℓ)

/-- A change by another task is one that the connections of a controller allow for. -/
theorem HandleConn.leads_task (h : app' = app ∨ ∃ t : Task, t.run app = some app')
    (controller : Controller) : H.system.EnvLeads ⟨app, controller⟩ ⟨app', controller⟩ := by
  rcases h with rfl | ⟨t, ht⟩
  · exact .refl _
  · have hcall : H.system.env ⟨app, controller⟩ (.task t) = some ⟨app', controller⟩ := by
      show Option.map _ (t.run app) = _
      rw [ht]
      rfl
    exact .single hcall

variable {server called : ServerState} {call? : Option ControllerCall}

/-- A call is one of the Simple controller or nothing to it. -/
theorem HandleConn.leads_simple (h : server.Called call? called) :
    H.system.EnvLeads server.simpleServer called.simpleServer := by
  cases h with
  | @simple call config simple hc he hs =>
    have hcall : H.system.env server.simpleServer call.serverCall = some ⟨server.app, simple⟩ :=
      ControllerCall.serverCall_of_send hs server.app
    exact .single hcall
  | _ => exact .refl _

/-- As `leads_simple`, for the Krypton controller. -/
theorem HandleConn.leads_krypton (h : server.Called call? called) :
    H.system.EnvLeads server.kryptonServer called.kryptonServer := by
  cases h with
  | @krypton call config krypton hc he hs =>
    have hcall : H.system.env server.kryptonServer call.serverCall = some ⟨server.app, krypton⟩ :=
      ControllerCall.serverCall_of_send hs server.app
    exact .single hcall
  | _ => exact .refl _

end Leads

namespace ServerTask

/-- The session that a task runs. -/
def session? : ServerTask → Option ClientSession
  | .client session => some session
  | _ => none

/-- The Simple connection that a task runs. -/
def simple? : ServerTask → Option (Connection Simple.Conn)
  | .simple connection => some connection
  | _ => none

/-- The Krypton connection that a task runs. -/
def krypton? : ServerTask → Option (Connection Krypton.Conn)
  | .krypton connection => some connection
  | _ => none

end ServerTask

/-- The sessions of the clients. -/
def clientPart (env : ServerEnv) (config : Config) (devices : Devices) :
    System.Part (serverTasks env config) (clientSessions env.socket config.scenes) where
  share server := server.app
  pick := ServerTask.session?
  inv := Serves config devices
  inv_exec hs h := hs.exec h
  env_ok := by
    intro st e server hs h
    rw [collectDeviceCerts_cases h]
    exact .refl _
  spawn_ok := by
    intro st start server task hs h
    cases acceptTask_cases h with
    | @client transport => exact .inr ⟨transport, _, rfl, rfl⟩
    | _ => exact .inl ⟨rfl, .refl _⟩
  step_ok := by
    intro st i task l server task' hs hi h
    have hstep := ServerTask.step_cases h
    have hleads := clientSessions_leads env.socket config.scenes (hs.acts hi hstep)
    cases hstep with
    | @client session l called app' session' hcall hsession =>
      exact .inr ⟨session, l, session', rfl, rfl, hsession⟩
    -- To the sessions, any other task is one of `Task.run`
    | _ => exact .inl ⟨rfl, rfl, hleads⟩

/-- The connections of the Simple controller. -/
def simplePart (env : ServerEnv) (config : Config) (devices : Devices)
    {globalConfig : SimpleControllerGlobalConfig}
    (hconfig : config.controllers.simple = some globalConfig) :
    System.Part (serverTasks env config)
      (Simple.handleConn env.simple globalConfig.serverPrivateKey).system where
  share := ServerState.simpleServer
  pick := ServerTask.simple?
  inv := Serves config devices
  inv_exec hs h := hs.exec h
  env_ok := by
    intro st e server hs h
    rw [collectDeviceCerts_cases h]
    exact .refl _
  spawn_ok := by
    intro st start server task hs h
    cases acceptTask_cases h with
    | @simple expectedRecvNonce => exact .inr ⟨expectedRecvNonce, _, rfl, rfl⟩
    | _ => exact .inl ⟨rfl, .refl _⟩
  step_ok := by
    intro st i task l server task' hs hi h
    have hstep := ServerTask.step_cases h
    have htask := hs.acts hi hstep
    obtain ⟨call?, called, hcall, hsimple, -⟩ := hstep.called
    -- To the connections, another task calls their controller and then is one of `Task.run`
    have hleads (hne : ∀ k, task ≠ .simple k) :
        (Simple.handleConn env.simple globalConfig.serverPrivateKey).system.EnvLeads
          st.shared.simpleServer server.simpleServer := by
      have hcalled := HandleConn.leads_simple
        (Simple.handleConn env.simple globalConfig.serverPrivateKey) hcall
      refine hcalled.trans ?_
      rw [ServerState.simpleServer, ServerState.simpleServer, hsimple hne, hcall.app_eq]
      exact HandleConn.leads_task _ htask _
    cases hstep with
    | @simple connection l globalConfig' simple connection' hconfig' hturn =>
      cases hconfig.symm.trans hconfig'
      exact .inr ⟨connection, l, connection', rfl, rfl, hturn⟩
    | _ => exact .inl ⟨rfl, rfl, hleads (by simp)⟩

/-- The connections of the Krypton controller, which trusts the certificates of its devices. -/
def kryptonPart (env : ServerEnv) (config : Config) (devices : Devices)
    {globalConfig : Krypton.KryptonControllerGlobalConfig}
    (hconfig : config.controllers.krypton = some globalConfig) :
    System.Part (serverTasks env config)
      (Krypton.handleConn env.incoming.krypton globalConfig
        (Krypton.collectCerts devices)).system where
  share := ServerState.kryptonServer
  pick := ServerTask.krypton?
  inv := Serves config devices
  inv_exec hs h := hs.exec h
  env_ok := by
    intro st e server hs h
    rw [collectDeviceCerts_cases h]
    exact .refl _
  spawn_ok := by
    intro st start server task hs h
    cases acceptTask_cases h with
    | krypton => exact .inr ⟨(), _, rfl, rfl⟩
    | _ => exact .inl ⟨rfl, .refl _⟩
  step_ok := by
    intro st i task l server task' hs hi h
    have hstep := ServerTask.step_cases h
    have htask := hs.acts hi hstep
    obtain ⟨call?, called, hcall, -, hkrypton⟩ := hstep.called
    -- A step of any other task is environment for the connections
    have hleads (hne : ∀ k, task ≠ .krypton k) :
        (Krypton.handleConn env.incoming.krypton globalConfig
          (Krypton.collectCerts devices)).system.EnvLeads
          st.shared.kryptonServer server.kryptonServer := by
      have hcalled := HandleConn.leads_krypton (Krypton.handleConn env.incoming.krypton
        globalConfig (Krypton.collectCerts devices)) hcall
      refine hcalled.trans ?_
      rw [ServerState.kryptonServer, ServerState.kryptonServer, hkrypton hne, hcall.app_eq]
      exact HandleConn.leads_task _ htask _
    cases hstep with
    | @krypton connection l globalConfig' deviceCerts krypton connection' hconfig' hcerts hturn =>
      cases hconfig.symm.trans hconfig'
      -- The certificates in use are those of the loaded table
      obtain rfl := hs.deviceCerts deviceCerts hcerts
      exact .inr ⟨connection, l, connection', rfl, rfl, hturn⟩
    | _ => exact .inl ⟨rfl, rfl, hleads (by simp)⟩

/-! ## Runs -/

section Runs

variable {st : System.State ServerState ServerTask}
  {as : List (System.Act Unit TaskStart TaskLabel)}

/-- `main` spawns no session and no connection. -/
theorem mem_mainTasks {task : ServerTask} (h : task ∈ mainTasks config) :
    task.session? = none ∧ task.simple? = none ∧ task.krypton? = none := by
  cases mainTasks_cases h <;> exact ⟨rfl, rfl, rfl⟩

/-- Within the server, the sessions of the clients have a run of their own. -/
theorem clientSessions_of_run
    (h : (serverTasks env config).run (serverInitial config devices) as = some st) :
    ∃ as₁, (clientSessions env.socket config.scenes).run
        (sessionsInitial devices (.new config.controllers)) as₁ =
      some ⟨st.shared.app, st.comps.filterMap ServerTask.session?⟩ := by
  obtain ⟨as₁, has₁⟩ := (clientPart env config devices).run (.initial config devices) h
  refine ⟨as₁, ?_⟩
  -- At the start there is no session, so the view is the initial state
  have hview : (clientPart env config devices).view (serverInitial config devices) =
      sessionsInitial devices (.new config.controllers) := by
    rw [System.Part.view, sessionsInitial]
    congr 1
    exact List.filterMap_eq_nil_iff.mpr fun task htask => (mem_mainTasks htask).1
  rw [← hview]
  exact has₁

/-- The Simple connections of a run of the server make a run of their own. -/
theorem simpleConnections_of_run {globalConfig : SimpleControllerGlobalConfig}
    (hconfig : config.controllers.simple = some globalConfig)
    (h : (serverTasks env config).run (serverInitial config devices) as = some st) :
    ∃ as₁, (Simple.handleConn env.simple globalConfig.serverPrivateKey).system.run
        (HandleConn.initial (.new devices (.new config.controllers))) as₁ =
      some ⟨st.shared.simpleServer, st.comps.filterMap ServerTask.simple?⟩ := by
  obtain ⟨as₁, has₁⟩ := (simplePart env config devices hconfig).run (.initial config devices) h
  refine ⟨as₁, ?_⟩
  -- At the start there is no connection, so the view is the initial state
  have hview : (simplePart env config devices hconfig).view (serverInitial config devices) =
      HandleConn.initial (.new devices (.new config.controllers)) := by
    rw [System.Part.view, HandleConn.initial]
    congr 1
    exact List.filterMap_eq_nil_iff.mpr fun task htask => (mem_mainTasks htask).2.1
  rw [← hview]
  exact has₁

/-- The Krypton connections of a run of the server make a run of their own. -/
theorem kryptonConnections_of_run {globalConfig : Krypton.KryptonControllerGlobalConfig}
    (hconfig : config.controllers.krypton = some globalConfig)
    (h : (serverTasks env config).run (serverInitial config devices) as = some st) :
    ∃ as₁, (Krypton.handleConn env.incoming.krypton globalConfig
        (Krypton.collectCerts devices)).system.run
        (HandleConn.initial (.new devices (.new config.controllers))) as₁ =
      some ⟨st.shared.kryptonServer, st.comps.filterMap ServerTask.krypton?⟩ := by
  obtain ⟨as₁, has₁⟩ := (kryptonPart env config devices hconfig).run (.initial config devices) h
  refine ⟨as₁, ?_⟩
  -- At the start there is no connection, so the view is the initial state
  have hview : (kryptonPart env config devices hconfig).view (serverInitial config devices) =
      HandleConn.initial (.new devices (.new config.controllers)) := by
    rw [System.Part.view, HandleConn.initial]
    congr 1
    exact List.filterMap_eq_nil_iff.mpr fun task htask => (mem_mainTasks htask).2.2
  rw [← hview]
  exact has₁

/-- Every run of the server is, for the sessions of its clients and for the connections of each
controller, a run of these alone among tasks that do as `Task.run` and calls that do as
`Server.call`. -/
theorem server_parts (env : ServerEnv) (config : Config) (devices : Devices)
    (as : List (System.Act Unit TaskStart TaskLabel)) (st : System.State ServerState ServerTask)
    (h : (serverTasks env config).run (serverInitial config devices) as = some st) :
    (∃ as₁, (clientSessions env.socket config.scenes).run
        (sessionsInitial devices (.new config.controllers)) as₁ =
      some ⟨st.shared.app, st.comps.filterMap ServerTask.session?⟩) ∧
    (∀ globalConfig, config.controllers.simple = some globalConfig →
      ∃ as₁, (Simple.handleConn env.simple globalConfig.serverPrivateKey).system.run
          (HandleConn.initial (.new devices (.new config.controllers))) as₁ =
        some ⟨st.shared.simpleServer, st.comps.filterMap ServerTask.simple?⟩) ∧
    ∀ globalConfig, config.controllers.krypton = some globalConfig →
      ∃ as₁, (Krypton.handleConn env.incoming.krypton globalConfig
          (Krypton.collectCerts devices)).system.run
          (HandleConn.initial (.new devices (.new config.controllers))) as₁ =
        some ⟨st.shared.kryptonServer, st.comps.filterMap ServerTask.krypton?⟩ :=
  ⟨clientSessions_of_run h, fun _ hconfig => simpleConnections_of_run hconfig h,
    fun _ hconfig => kryptonConnections_of_run hconfig h⟩

/-- The request channel of a controller is open for its connections in every run. -/
theorem HandleConn.openFor {κ ν ℓ : Type} {H : HandleConn κ ν ℓ} (hH : H.Lawful) {app₀ : AppState}
    {as : List (System.Act Server.Call ν (Label ℓ))} {st : System.State Server (Connection κ)}
    (h : H.system.run (HandleConn.initial app₀) as = some st) :
    st.shared.controller.requestSender.OpenFor (st.comps.countP fun k => H.isOpen k.conn) :=
  .of_receivers (Subscribed.run hH h).receivers

/-- In every state of every run of the server, hooks are received by `AppState`, by the sessions
that have subscribed and not returned, and by the automation while it runs; the requests of a
controller by itself and by its open connections. No task that has ended is left subscribed, and
nothing is ever sent to a closed channel. -/
theorem server_receivers (env : ServerEnv) (config : Config) (devices : Devices)
    (as : List (System.Act Unit TaskStart TaskLabel)) (st : System.State ServerState ServerTask)
    (h : (serverTasks env config).run (serverInitial config devices) as = some st) :
    st.shared.app.hooks.sender.OpenFor (st.comps.map ServerTask.subscriptions).sum ∧
      (config.controllers.simple.isSome → st.shared.simple.requestSender.OpenFor
        ((st.comps.filterMap ServerTask.simple?).countP fun k => k.conn.isOpen)) ∧
      (config.controllers.krypton.isSome → st.shared.krypton.requestSender.OpenFor
        ((st.comps.filterMap ServerTask.krypton?).countP fun k => k.conn.isOpen)) := by
  refine ⟨.of_receivers (Serves.run h).receivers, fun hsimple => ?_, fun hkrypton => ?_⟩
  · obtain ⟨globalConfig, hconfig⟩ := Option.isSome_iff_exists.mp hsimple
    obtain ⟨as₁, has₁⟩ := simpleConnections_of_run hconfig h
    exact HandleConn.openFor (Simple.handleConn_lawful _ _) has₁
  · obtain ⟨globalConfig, hconfig⟩ := Option.isSome_iff_exists.mp hkrypton
    obtain ⟨as₁, has₁⟩ := kryptonConnections_of_run hconfig h
    exact HandleConn.openFor (Krypton.handleConn_lawful _ _ _) has₁

end Runs

end Devicectrl

/-! ## A lamp, and a fan that it depends on -/

namespace Devicectrl.ServerTask.Demo

open Simple.Demo (lamp fan privateKey report reportFrame)

/-- A client turns the lamp on, whatever it says. -/
def env : ServerEnv where
  socket := ⟨fun _ => .ok (.updateRequest ⟨lamp, .power .on⟩), .mergeSort _, .mergeSort _⟩
  http _ := .error ["expected value"]
  simple := Simple.Demo.env
  incoming := TableCall.Demo.env
  controllers := LockUser.Demo.lockEnv.controllers
  almanac := SunsetLightTemp.Demo.almanac

/-- A switch that a second switch depends on, both of the Simple controller. -/
def config : Config where
  servers := ⟨true, false, false⟩
  devices := AList.insert "lamp" ⟨.switch, .simple ⟨⟨[7]⟩⟩⟩
    (AList.insert "fan" ⟨.switch, .simple ⟨⟨[7]⟩⟩⟩ ∅)
  controllers := ⟨some ⟨privateKey⟩, none, false, false⟩
  automations := ⟨none, some [⟨lamp, fan⟩]⟩
  scenes := ∅

def devices : Devices := (loadDevices 64 config.devices).getD ∅

/-- A client subscribes, and the lamp connects and reports that it is on. The query of all states
is task `0`, the dependency automation task `1`. -/
def reported : List (System.Act Unit TaskStart TaskLabel) :=
  [.step 1 (.dependencies .poll), .spawn (.client .tcp), .step 2 (.client (.accept (.ok ()))),
    .spawn (.simple 0), .step 3 (.simple (.own (.greet (.ok ())))),
    .step 3 (.simple (.own (.deliver (be32 5 ++ be32 1 ++ [0])))),
    .step 3 (.simple (.own .identify)), .step 3 (.simple (.own (.deliver (reportFrame 1)))),
    .step 3 (.simple (.own (.session .read))), .step 3 (.simple (.own (.session .send))),
    .step 3 (.simple (.own (.session .recvMessage))),
    .step 3 (.simple (.own (.session .process))), .step 3 (.simple (.own (.session .process))),
    .step 2 (.client .recv), .step 2 (.client (.sent (.ok ())))]

end Devicectrl.ServerTask.Demo

namespace Devicectrl

open ServerTask.Demo

/-- The session of the client is a run of its own. -/
theorem server_parts_demo :
    ∃ st, (serverTasks env config).run (serverInitial config devices) reported = some st ∧
      ∃ as₁, (clientSessions env.socket config.scenes).run
          (sessionsInitial devices (.new config.controllers)) as₁ =
        some ⟨st.shared.app, st.comps.filterMap ServerTask.session?⟩ :=
  ⟨_, rfl, (server_parts env config devices reported _ rfl).1⟩

/-- The client, the automation and the first receiver subscribe to the hooks. -/
theorem server_receivers_demo :
    ∃ st, (serverTasks env config).run (serverInitial config devices) reported = some st ∧
      st.shared.app.hooks.sender.receivers = 3 ∧
      st.shared.app.hooks.sender.OpenFor (st.comps.map ServerTask.subscriptions).sum :=
  ⟨_, rfl, rfl, (server_receivers env config devices reported _ rfl).1⟩

end Devicectrl
