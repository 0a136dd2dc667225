import Devicectrl.Native.DependencyPlant
import Devicectrl.Native.DevicesLock
import Devicectrl.Native.Http
import Devicectrl.Native.SimpleConn
import Devicectrl.Native.SunsetLightTemp
import Devicectrl.Native.UdpListeners

/-!
# All tasks of the server

The server as `main` sets it up: the listeners of the controllers and their connections, the
clients of the backends, the automations and the query of all states, each cut where it awaits, on
one `AppState`.

The devices lock is left out here, which only adds interleavings.
-/

namespace Devicectrl

/-! ## Configuration -/

/-- Which backends are configured. -/
structure ServersConfig where
  tcp : Bool
  http : Bool
  websocket : Bool
  deriving DecidableEq, Repr

/-- The key that the server signs its messages with. -/
structure SimpleControllerGlobalConfig where
  serverPrivateKey : SigningKey
  deriving DecidableEq, Repr

/-- Of the UDP controllers only whether they are configured. -/
structure ControllersConfig where
  simple : Option SimpleControllerGlobalConfig
  krypton : Option Krypton.KryptonControllerGlobalConfig
  tplink : Bool
  govee : Bool
  deriving DecidableEq, Repr

/-- `Config` of `config.rs`. -/
structure Config where
  servers : ServersConfig
  devices : DevicesConfig
  controllers : ControllersConfig
  automations : AutomationsConfig
  scenes : ScenesConfig

/-- `Controllers::new`, once the sockets are bound. -/
def Controllers.new (config : ControllersConfig) : Controllers :=
  ⟨config.simple.isSome, config.krypton.isSome, config.tplink, config.govee⟩

/-- What the tasks call of other crates. -/
structure ServerEnv where
  socket : SocketEnv
  http : List UInt8 → Except Error ServerBoundHttpMessage
  simple : Simple.Env
  incoming : IncomingEnv
  controllers : ControllerEnv
  almanac : Almanac

/-! ## Calls of the controllers -/

/-- A call of `send_update` or `send_query`, and how it ends. -/
inductive ControllerCall where
  | sendUpdate (device : Device) (request : UpdateRequest) (outcome : Except Error Unit)
  | sendQuery (device : Device) (outcome : Except Error Unit)
  deriving DecidableEq

namespace ControllerCall

/-- The device that a controller is called for. -/
def device : ControllerCall → Device
  | .sendUpdate device _ _ => device
  | .sendQuery device _ => device

/-- What the controller has answered. -/
def outcome : ControllerCall → Except Error Unit
  | .sendUpdate _ _ outcome => outcome
  | .sendQuery _ outcome => outcome

/-- The call on a controller that broadcasts. The outcome names what it returns. -/
def send (call : ControllerCall) (controller : Controller) : Option Controller :=
  let result :=
    match call with
    | .sendUpdate _ request _ => controller.sendUpdate request
    | .sendQuery device _ => controller.sendQuery device
  match result with
  | .error e => if call.outcome = .error e then some controller else none
  | .ok controller => if call.outcome = .ok () then some controller else none

end ControllerCall

/-- The call in a part of `process_update_request`. -/
def RequestCall.controllerCall? : RequestCall → RequestLabel → Option ControllerCall
  | .dispatching device request, .dispatched outcome => some (.sendUpdate device request outcome)
  | _, _ => none

/-- What a part of a scene calls of the controllers. -/
def SceneCall.controllerCall? : SceneCall → SceneLabel → Option ControllerCall
  | .joining calls, .member i l => calls[i]?.bind fun call => call.controllerCall? l
  | _, _ => none

/-- What a part of `handle_line` calls of the controllers. -/
def Line.controllerCall? : Line → LineLabel → Option ControllerCall
  | .requesting call, .request l => call.controllerCall? l
  | .activating call, .scene l => call.controllerCall? l
  | .dispatching device, .dispatched outcome => some (.sendQuery device outcome)
  | _, _ => none

/-- What a part of a session calls of the controllers. -/
def ClientSession.controllerCall? (session : ClientSession) : SessionLabel → Option ControllerCall
  | .line l =>
    match session.stage with
    | .handling line _ => line.controllerCall? l
    | _ => none
  | _ => none

/-- What a part of `handle_request` calls of the controllers. -/
def HttpCall.controllerCall? : HttpCall → HttpLabel → Option ControllerCall
  | .requesting call, .request l => call.controllerCall? l
  | .activating call, .scene l => call.controllerCall? l
  | _, _ => none

/-- The queries are in the order of the table. -/
def QueryAll.controllerCall? (devices : Devices) : QueryAll → QueryAllLabel → Option ControllerCall
  | .joining queries, .member i (.broadcast outcome) =>
    match queries[i]?, devices.entries[i]? with
    | some (_, some (.broadcast _)), some entry => some (.sendQuery entry.2 outcome)
    | _, _ => none
  | _, _ => none

/-! ## Automations -/

/-- The dependency automation. `requests` are the update requests it has made. -/
structure DependencyTask where
  automation : Dependencies.Automation
  requests : List UpdateRequest
  deriving DecidableEq

namespace DependencyTask

/-- What a part of the automation calls of the controllers. -/
def controllerCall? (task : DependencyTask) : Dependencies.Label → Option ControllerCall
  | .dispatched outcome =>
    match task.automation, task.requests.getLast? with
    | .dispatching _ device _, some request => some (.sendUpdate device request outcome)
    | _, _ => none
  | _ => none

/-- The automation goes on. A request that it makes is noted. -/
def step (config : DependencyAutomationConfig) (app : AppState) (task : DependencyTask)
    (l : Dependencies.Label) : Option (AppState × DependencyTask) :=
  (Dependencies.startAutomation config app task.automation l).map fun p =>
    (p.1, ⟨p.2, task.requests ++ task.automation.request?.toList⟩)

end DependencyTask

/-- The sunset automation. `calls` are the calls of `process_update_request` that its ramps await,
each with the number of its ramp. -/
structure SunsetTask where
  automation : SunsetLightTemp
  calls : List (Nat × RequestCall)

/-- The automation goes on by itself, or a call that one of its ramps awaits does. -/
inductive SunsetTaskLabel where
  /-- Of the ramps only that they begin and have slept. -/
  | own (l : SunsetLabel)
  | request (j : Nat) (l : RequestLabel)

namespace SunsetTask

/-- The calls that some events of the automation begin. -/
def begun (events : List SunsetEvent) : List (Nat × RequestCall) :=
  events.filterMap fun
    | .ramp i (.request request) => some (i, .begin request)
    | _ => none

/-- After a step of the automation. The calls are dropped with the ramps. -/
def after (calls : List (Nat × RequestCall)) (p : SunsetLightTemp × List SunsetEvent) :
    SunsetTask :=
  match p.1 with
  | .ramping _ => ⟨p.1, calls ++ begun p.2⟩
  | _ => ⟨p.1, []⟩

/-- What a part of the automation calls of the controllers. -/
def controllerCall? (task : SunsetTask) : SunsetTaskLabel → Option ControllerCall
  | .request j l => task.calls[j]?.bind fun call => call.2.controllerCall? l
  | _ => none

/-- One part of the automation. When a call returns its ramp goes on at once. -/
def step (almanac : Almanac) (config : SunsetLightTempAutomationConfig) (app : AppState)
    (task : SunsetTask) : SunsetTaskLabel → Option (AppState × SunsetTask)
  -- That is what the call of the ramp is for
  | .own (.ramp _ (.dispatched _)) => none
  | .own l => (task.automation.step almanac config l).map fun p => (app, after task.calls p)
  | .request j l =>
    match task.calls[j]? with
    | none => none
    | some (i, call) =>
      match call.step app l with
      | none => none
      | some (app, .returned result) =>
        (task.automation.step almanac config (.ramp i (.dispatched result))).map fun p =>
          (app, after (task.calls.eraseIdx j) p)
      | some (app, call) => some (app, { task with calls := task.calls.set j (i, call) })

end SunsetTask

/-! ## Tasks -/

/-- What the tasks share. `deviceCerts` is what `start_listening` of the Krypton controller has
collected; it listens once it has. -/
structure ServerState where
  app : AppState
  simple : Controller
  krypton : Controller
  deviceCerts : Option (AList fun _ : DeviceId => List UInt8)

namespace ServerState

/-- What the connections of each controller share. -/
def simpleServer (server : ServerState) : Server :=
  ⟨server.app, server.simple⟩

/-- What the connections of the Krypton controller share. -/
def kryptonServer (server : ServerState) : Server :=
  ⟨server.app, server.krypton⟩

/-- The controller of the device is called, if it is enabled. What the UDP controllers do changes
nothing that is shared. -/
def call (server : ServerState) (call : ControllerCall) : Option ServerState :=
  match (server.app.controllers.field call.device.controller).1, call.device.controller with
  | true, .simple _ => (call.send server.simple).map fun simple => { server with simple }
  | true, .krypton _ => (call.send server.krypton).map fun krypton => { server with krypton }
  | _, _ => some server

/-- A part of a task that may call a controller. -/
def calling {κ : Type} (server : ServerState) (call? : Option ControllerCall)
    (step : AppState → Option (AppState × κ)) : Option (ServerState × κ) :=
  match call?.elim (some server) server.call with
  | none => none
  | some server' => (step server.app).map fun p => ({ server' with app := p.1 }, p.2)

end ServerState

/-- A task of the server, by what it is. -/
inductive ServerTask where
  | client (session : ClientSession)
  | http (call : HttpCall)
  | simple (connection : Connection Simple.Conn)
  | krypton (connection : Connection Krypton.Conn)
  | listener (controller : UdpController) (listening : StartListening)
  | dependencies (task : DependencyTask)
  | sunset (task : SunsetTask)
  | queryAll (call : QueryAll)

/-- A part of a task, by what it is. -/
inductive TaskLabel where
  | client (l : SessionLabel)
  | http (l : HttpLabel)
  | simple (l : HandleConn.Label Simple.Conn.Label)
  | krypton (l : HandleConn.Label Krypton.Conn.Label)
  | listener (l : ListenLabel)
  | dependencies (l : Dependencies.Label)
  | sunset (l : SunsetTaskLabel)
  | queryAll (l : QueryAllLabel)

/-- What is accepted while the server runs. -/
inductive TaskStart where
  | client (transport : Transport)
  /-- A request over HTTP, with its body. -/
  | http (bytes : Except Error (List UInt8))
  | simple (expectedRecvNonce : UInt32)
  | krypton

namespace ServerTask

/-- The environment of `DevicesLock` that `query_all_device_states` is written for. -/
def devicesEnv (env : ServerEnv) (config : Config) : DevicesEnv where
  controllers := env.controllers
  incoming := env.incoming
  sort := env.socket.sort
  scenes := config.scenes
  dependencies := config.automations.dependencies.getD []

/-- One part of a task. -/
def step (env : ServerEnv) (config : Config) (server : ServerState) :
    ServerTask → TaskLabel → Option (ServerState × ServerTask)
  | .client session, .client l =>
    server.calling (session.controllerCall? l) fun app =>
      -- The call of the controller and the step of the task are one part
      (session.step env.socket config.scenes app l).map fun p => (p.1, .client p.2)
  | .http call, .http l =>
    server.calling (call.controllerCall? l) fun app =>
      (call.step config.scenes app l).map fun p => (p.1, .http p.2)
  | .simple connection, .simple l =>
    match config.controllers.simple with
    | none => none
    | some globalConfig =>
      let conn := Simple.handleConn env.simple globalConfig.serverPrivateKey
      (conn.turn server.simpleServer connection l).map fun p =>
        ({ server with app := p.1.app, simple := p.1.controller }, .simple p.2)
  | .krypton connection, .krypton l =>
    -- The certificates are collected before a connection is accepted
    match config.controllers.krypton, server.deviceCerts with
    | some globalConfig, some deviceCerts =>
      let conn := Krypton.handleConn env.incoming.krypton globalConfig deviceCerts
      (conn.turn server.kryptonServer connection l).map fun p =>
        ({ server with app := p.1.app, krypton := p.1.controller }, .krypton p.2)
    | _, _ => none
  | .listener controller listening, .listener l =>
    (listening.step env.incoming controller server.app l).map fun p =>
      ({ server with app := p.1 }, .listener controller p.2)
  | .dependencies task, .dependencies l =>
    match config.automations.dependencies with
    | none => none
    | some relationships =>
      server.calling (task.controllerCall? l) fun app =>
        (task.step relationships app l).map fun p => (p.1, .dependencies p.2)
  | .sunset task, .sunset l =>
    match config.automations.sunsetLightTemp with
    | none => none
    | some automationConfig =>
      server.calling (task.controllerCall? l) fun app =>
        (task.step env.almanac automationConfig app l).map fun p => (p.1, .sunset p.2)
  | .queryAll call, .queryAll l =>
    server.calling (call.controllerCall? server.app.devices l) fun app =>
      (call.step (devicesEnv env config) app l).map fun p => (p.1, .queryAll p.2)
  | _, _ => none

end ServerTask

/-- The accept loops, and a request on a connection of the HTTP backend. -/
def acceptTask (env : ServerEnv) (config : Config) (server : ServerState) :
    TaskStart → Option (ServerState × ServerTask)
  | .client .tcp => if config.servers.tcp then some (server, .client (.start .tcp)) else none
  | .client .websocket =>
    if config.servers.websocket then some (server, .client (.start .websocket)) else none
  | .http bytes =>
    if config.servers.http then some (server, .http (.start env.http bytes)) else none
  | .simple expectedRecvNonce =>
    match config.controllers.simple with
    | none => none
    | some _ =>
      -- Each connection has a receiver of the requests from here on
      let (simple, requestReceiver) := server.simpleServer.subscribe
      some ({ server with simple := simple.controller },
        .simple ⟨.start expectedRecvNonce, requestReceiver, requestReceiver.next⟩)
  | .krypton =>
    match config.controllers.krypton, server.deviceCerts with
    | some _, some _ =>
      let (krypton, requestReceiver) := server.kryptonServer.subscribe
      some ({ server with krypton := krypton.controller },
        .krypton ⟨.start (), requestReceiver, requestReceiver.next⟩)
    | _, _ => none

/-- `start_listening` of the Krypton controller reads the certificates of its devices. -/
def collectDeviceCerts (config : Config) (server : ServerState) : Option ServerState :=
  if config.controllers.krypton.isSome ∧ server.deviceCerts = none then
    some { server with deviceCerts := some (Krypton.collectCerts server.app.devices) }
  else none

/-- The server with all its tasks. -/
def serverTasks (env : ServerEnv) (config : Config) :
    System ServerState ServerTask Unit TaskStart TaskLabel where
  env server _ := collectDeviceCerts config server
  spawn := acceptTask env config
  step := ServerTask.step env config

/-- The tasks that `main` and `start_automations` spawn, the accept loops apart. -/
def mainTasks (config : Config) : List ServerTask :=
  (if config.controllers.tplink then [.listener .tplink .receiving] else []) ++
    (if config.controllers.govee then [.listener .govee .receiving] else []) ++
    [.queryAll .begin] ++
    (if config.automations.sunsetLightTemp.isSome then [.sunset ⟨.computing, []⟩] else []) ++
    if config.automations.dependencies.isSome then [.dependencies ⟨.spawned, []⟩] else []

/-- The state `main` sets up, with the tasks it spawns. -/
def serverInitial (config : Config) (devices : Devices) : System.State ServerState ServerTask :=
  ⟨⟨.new devices (.new config.controllers), .new, .new, none⟩, mainTasks config⟩

end Devicectrl
