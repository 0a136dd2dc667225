import Devicectrl.ForStd.LockedFutures
import Devicectrl.Native.Dependencies
import Devicectrl.Native.Ingestion
import Devicectrl.Native.SendUpdate
import Devicectrl.Native.ServerBackends

/-!
# The devices lock

Every operation that takes the lock of `AppState.devices`, cut where it awaits, with its need of
the lock there: which guards are in scope, and whether it awaits the lock. What a backend or a
connection does before and after needs no lock and is left out, and so is what becomes of an
operation's result.
-/

namespace Devicectrl

open RwLock (Need Future TryJoinAll Body)

/-- What the operations call, and the configuration they read. -/
structure DevicesEnv where
  controllers : ControllerEnv
  incoming : IncomingEnv
  sort : CatalogSort
  scenes : ScenesConfig
  dependencies : DependencyAutomationConfig

/-! ## Update requests -/

/-- The guard of `process_update_request` lives until its controller has returned. -/
def UpdateCall.need : UpdateCall → Need
  | .begin _ => ⟨[], some .read⟩
  | .dispatching .. => ⟨[.read], none⟩
  | .returned _ => .nothing

/-- `process_update_request` as a future that reads the device table. -/
def processUpdateRequest (env : DevicesEnv) : Future AppState UpdateCall UpdateLabel where
  step := UpdateCall.step env.controllers
  need := UpdateCall.need

/-! ## State queries -/

/-- The `StateQuery` of `handle_line`, by where it awaits. While it is dispatched, the query borrows
its device from the table. -/
inductive StateQuery where
  | begin (deviceId : DeviceId)
  | dispatching (deviceId : DeviceId) (device : Device) (call : DeviceCall)
  | returned (result : Except Error Unit)

namespace StateQuery

/-- The query after its controller went on or returned. -/
def after (deviceId : DeviceId) (device : Device) : DeviceCall ⊕ Except Error Unit → StateQuery
  | .inl call => .dispatching deviceId device call
  | .inr result => .returned result

/-- The query is looked up and dispatched, and then sent. -/
def step (env : DevicesEnv) (app : AppState) :
    StateQuery → UpdateLabel → Option (AppState × StateQuery)
  | .begin deviceId, .poll =>
    match app.devices.lookup deviceId with
    | none => some (app, .returned (.error ["failed to find device"]))
    | some device =>
      some (app, after deviceId device (DeviceCall.dispatchQueryState env.controllers app device))
  | .dispatching deviceId device call, .device l =>
    (call.step env.controllers l).map fun r => (app, after deviceId device r)
  | _, _ => none

/-- The guard is taken for the lookup and kept until the query is over. -/
def need : StateQuery → Need
  | .begin _ => ⟨[], some .read⟩
  | .dispatching _ _ _ => ⟨[.read], none⟩
  | .returned _ => .nothing

end StateQuery

/-- The query of one device as a future. -/
def queryState (env : DevicesEnv) : Future AppState StateQuery UpdateLabel where
  step := StateQuery.step env
  need := StateQuery.need

/-- `query_all_device_states`, by where it awaits. Each query has the device that it borrows, and
its call, which is `none` when it has ended: its error is only logged. -/
inductive QueryAll where
  | begin
  | joining (queries : List (Device × Option DeviceCall))
  | returned

/-- The table is read, the query of one device goes on, or all of them are over. -/
inductive QueryAllLabel where
  | poll
  | member (i : Nat) (l : DeviceLabel)
  | joined
  deriving DecidableEq

namespace QueryAll

/-- The queries are begun under one guard and then go on side by side. -/
def step (env : DevicesEnv) (app : AppState) :
    QueryAll → QueryAllLabel → Option (AppState × QueryAll)
  | .begin, .poll =>
    some (app, .joining (app.devices.entries.map fun entry =>
      (entry.2, (DeviceCall.dispatchQueryState env.controllers app entry.2).getLeft?)))
  | .joining queries, .member i l =>
    match queries[i]? with
    | some (device, some call) =>
      (call.step env.controllers l).map fun r =>
        (app, .joining (queries.set i (device, r.getLeft?)))
    | _ => none
  -- `join_all` returns when all of its queries have
  | .joining queries, .joined =>
    if queries.all fun query => query.2.isNone then some (app, .returned) else none
  | _, _ => none

/-- The guard lives as long as `join_all`, whose queries borrow from it. -/
def need : QueryAll → Need
  | .begin => ⟨[], some .read⟩
  | .joining _ => ⟨[.read], none⟩
  | .returned => .nothing

end QueryAll

/-- `query_all_device_states` as an operation whose guard outlives its queries. -/
def queryAllDeviceStates (env : DevicesEnv) : Future AppState QueryAll QueryAllLabel where
  step := QueryAll.step env
  need := QueryAll.need

/-! ## Lookups

Three places take the lock to read the table, and await nothing else before they drop it. -/

/-- A call that reads the table once and returns. -/
inductive Lookup (α β : Type) where
  | begin (a : α)
  | returned (b : β)

/-- The lookup of what `f` reads. -/
def lookupDevices {α β : Type} (f : AppState → α → β) : Future AppState (Lookup α β) Unit where
  step
    | app, .begin a, _ => some (app, .returned (f app a))
    | _, _, _ => none
  need
    | .begin _ => ⟨[], some .read⟩
    | .returned _ => .nothing

/-- `catalog`. -/
def catalogLookup (env : DevicesEnv) :
    Future AppState (Lookup Unit ClientBoundSocketMessage) Unit :=
  lookupDevices fun app _ => catalog env.sort env.scenes app

/-- The public key of a device that connects to the Simple controller. -/
def publicKeyLookup : Future AppState (Lookup DeviceId (Except Error VerifyingKey)) Unit :=
  lookupDevices fun app deviceId => Simple.lookupPublicKey app.devices deviceId

/-- The certificates that the Krypton controller collects before it listens. -/
def deviceCertsLookup : Future AppState (Lookup Unit (AList fun _ : DeviceId => List UInt8)) Unit :=
  lookupDevices fun app _ => Krypton.collectCerts app.devices

/-! ## Messages of devices -/

/-- The handling of a message, by where it awaits. -/
inductive MessageCall where
  | begin (source : Incoming)
  | processing (call : NotificationCall)
  | returned (result : Except Error Unit)

namespace MessageCall

/-- After a message was handled: the notification is to be stored, or the call is over. -/
def after : Except Error (Option UpdateNotification) → MessageCall
  | .error e => .returned (.error e)
  | .ok none => .returned (.ok ())
  | .ok (some update) => .processing (.store update)

/-- A Simple connection looked its device up when it began. The other controllers read the
table for every message. -/
def start : Incoming → MessageCall
  | .simple deviceId message => after (Simple.handleMessage message deviceId)
  | source => .begin source

/-- The message is handled, and its notification is stored and announced. -/
def step (env : DevicesEnv) (app : AppState) : MessageCall → Unit → Option (AppState × MessageCall)
  | .begin source, _ => some (app, after (source.decode env.incoming app.devices))
  | .processing call, _ =>
    match processUpdateNotification app call with
    | (app, .inl call') => some (app, .processing call')
    | (app, .inr result) => some (app, .returned result)
  | .returned _, _ => none

/-- The read guard ends with the block that decodes the message, the write guard with the one
that stores the state. -/
def need : MessageCall → Need
  | .begin _ => ⟨[], some .read⟩
  | .processing (.store _) => ⟨[], some .write⟩
  | .processing (.sendHook _) => .nothing
  | .returned _ => .nothing

end MessageCall

/-- The handling of one message as a future. -/
def messageHandling (env : DevicesEnv) : Future AppState MessageCall Unit where
  step := MessageCall.step env
  need := MessageCall.need

/-! ## Automations -/

/-- The dependency automation, by where it awaits. -/
inductive DependencyCall where
  | receiving (receiver : Broadcast.Receiver)
  | requesting (receiver : Broadcast.Receiver) (call : UpdateCall) (context : String)
  | returned (error : Error)

/-- A hook is received, or the call for it goes on. -/
inductive DependencyLabel where
  | recv
  | request (l : UpdateLabel)
  deriving DecidableEq

namespace DependencyCall

/-- The automation ends with an error and drops its receiver. -/
def leave (app : AppState) (error : Error) : AppState × DependencyCall :=
  ({ app with hooks := { app.hooks with sender := app.hooks.sender.dropReceiver } },
    .returned error)

/-- `process_update_request(..).await.context(..)?` -/
def afterRequest (app : AppState) (receiver : Broadcast.Receiver) (context : String) :
    UpdateCall → AppState × DependencyCall
  | .returned (.error e) => leave app (context :: e)
  | .returned (.ok ()) => (app, .receiving receiver)
  | call => (app, .requesting receiver call context)

/-- The automation of dependencies with its calls taken apart down to the lock. -/
def step (env : DevicesEnv) (app : AppState) :
    DependencyCall → DependencyLabel → Option (AppState × DependencyCall)
  | .receiving receiver, .recv =>
    match app.hooks.sender.recv receiver with
    | none => none
    | some (.error e, _) => some (leave app [e.message])
    | some (.ok event, receiver) =>
      match Dependencies.onEvent env.dependencies event with
      | none => some (app, .receiving receiver)
      | some (request, context) => some (app, .requesting receiver (.begin request) context)
  | .requesting receiver call context, .request l =>
    (call.step env.controllers app l).map fun p => afterRequest p.1 receiver context p.2
  | _, _ => none

/-- It needs the table during its calls only. -/
def need : DependencyCall → Need
  | .requesting _ call _ => call.need
  | _ => .nothing

end DependencyCall

/-- The automation of dependencies as a future. -/
def dependencyAutomation (env : DevicesEnv) : Future AppState DependencyCall DependencyLabel where
  step := DependencyCall.step env
  need := DependencyCall.need

/-- What the sunset automation does for one device: it makes the requests of its range one after
the other, and sleeps after each. -/
inductive Ramp where
  | requesting (call : UpdateCall) (rest : List UpdateRequest)
  | sleeping (rest : List UpdateRequest)
  | returned (result : Except Error Unit)

/-- The call of a ramp goes on, or its pause is over. -/
inductive RampLabel where
  | request (l : UpdateLabel)
  | slept
  deriving DecidableEq

namespace Ramp

/-- The result of a ramp that is over. -/
def result? : Ramp → Option (Except Error Unit)
  | .returned result => some result
  | _ => none

/-- A ramp with these requests to make. -/
def start : List UpdateRequest → Ramp
  | [] => .returned (.ok ())
  | request :: rest => .requesting (.begin request) rest

/-- `process_update_request(..).await?` -/
def afterRequest (rest : List UpdateRequest) : UpdateCall → Ramp
  | .returned (.error e) => .returned (.error e)
  | .returned (.ok ()) => .sleeping rest
  | call => .requesting call rest

/-- One request after the other, with a pause before each but the first. -/
def step (env : DevicesEnv) (app : AppState) : Ramp → RampLabel → Option (AppState × Ramp)
  | .requesting call rest, .request l =>
    (call.step env.controllers app l).map fun p => (p.1, afterRequest rest p.2)
  | .sleeping rest, .slept => some (app, start rest)
  | _, _ => none

/-- A ramp needs the table during its calls only. -/
def need : Ramp → Need
  | .requesting call _ => call.need
  | _ => .nothing

end Ramp

/-- The ramp of one device as a future. -/
def sunsetRamp (env : DevicesEnv) : Future AppState Ramp RampLabel where
  step := Ramp.step env
  need := Ramp.need

/-! ## All operations -/

/-- The kinds of operations. -/
inductive LockUser where
  | processUpdateRequest
  | processSceneActivate
  | stateQuery
  | queryAllDeviceStates
  | catalog
  | publicKey
  | deviceCerts
  | handleMessage
  | dependencies
  | sunset
  deriving DecidableEq

namespace LockUser

/-- Where an operation is, by what it is. -/
abbrev State : LockUser → Type
  | .processUpdateRequest => UpdateCall
  | .processSceneActivate => TryJoinAll UpdateCall Error
  | .stateQuery => StateQuery
  | .queryAllDeviceStates => QueryAll
  | .catalog => Lookup Unit ClientBoundSocketMessage
  | .publicKey => Lookup DeviceId (Except Error VerifyingKey)
  | .deviceCerts => Lookup Unit (AList fun _ : DeviceId => List UInt8)
  | .handleMessage => MessageCall
  | .dependencies => DependencyCall
  | .sunset => TryJoinAll Ramp Error

/-- What an operation does next, by what it is. -/
abbrev Label : LockUser → Type
  | .processUpdateRequest => UpdateLabel
  | .processSceneActivate => Nat × UpdateLabel
  | .stateQuery => UpdateLabel
  | .queryAllDeviceStates => QueryAllLabel
  | .catalog => Unit
  | .publicKey => Unit
  | .deviceCerts => Unit
  | .handleMessage => Unit
  | .dependencies => DependencyLabel
  | .sunset => Nat × RampLabel

/-- What each operation does. -/
def body (env : DevicesEnv) : (user : LockUser) → Body AppState user.State user.Label
  | .processUpdateRequest => (Devicectrl.processUpdateRequest env).body
  | .processSceneActivate =>
    TryJoinAll.body (Devicectrl.processUpdateRequest env) UpdateCall.result?
  | .stateQuery => (queryState env).body
  | .queryAllDeviceStates => (Devicectrl.queryAllDeviceStates env).body
  | .catalog => (catalogLookup env).body
  | .publicKey => publicKeyLookup.body
  | .deviceCerts => deviceCertsLookup.body
  | .handleMessage => (messageHandling env).body
  | .dependencies => (dependencyAutomation env).body
  | .sunset => TryJoinAll.body (sunsetRamp env) Ramp.result?

end LockUser

/-- What starts an operation. -/
inductive LockCall where
  | updateRequest (request : UpdateRequest)
  | activateScene (sceneId : SceneId)
  | stateQuery (deviceId : DeviceId)
  | queryAll
  | queryCatalog
  | publicKey (deviceId : DeviceId)
  | deviceCerts
  | message (source : Incoming)
  | dependencies
  /-- The sun sets; for each device what it is to be requested. -/
  | sunset (ramps : List (List UpdateRequest))

/-- An operation up to its first await. -/
def LockCall.start (env : DevicesEnv) (app : AppState) :
    LockCall → AppState × Σ user, LockUser.State user
  | .updateRequest request => (app, ⟨.processUpdateRequest, .begin request⟩)
  | .activateScene sceneId =>
    -- `process_scene_activate` reads `scenes` without the lock, and sends its hook first
    match env.scenes.lookup sceneId with
    | none => (app, ⟨.processSceneActivate, .returned (.error ["Could not find scene!"])⟩)
    | some scene =>
      match app.hooks.sender.send (.sceneActivate sceneId) with
      | none =>
        (app, ⟨.processSceneActivate,
          .returned (.error ["failed to send scene activation hook", "channel closed"])⟩)
      | some sender =>
        ({ app with hooks := { app.hooks with sender } },
          ⟨.processSceneActivate, TryJoinAll.start (scene.map .begin)⟩)
  | .stateQuery deviceId => (app, ⟨.stateQuery, .begin deviceId⟩)
  | .queryAll => (app, ⟨.queryAllDeviceStates, .begin⟩)
  | .queryCatalog => (app, ⟨.catalog, .begin ()⟩)
  | .publicKey deviceId => (app, ⟨.publicKey, .begin deviceId⟩)
  | .deviceCerts => (app, ⟨.deviceCerts, .begin ()⟩)
  | .message source => (app, ⟨.handleMessage, .start source⟩)
  -- The receiver is made before the automation waits for its first hook
  | .dependencies =>
    let (sender, receiver) := app.hooks.sender.resubscribe
    ({ app with hooks := { app.hooks with sender } }, ⟨.dependencies, .receiving receiver⟩)
  | .sunset ramps => (app, ⟨.sunset, TryJoinAll.start (ramps.map .start)⟩)

/-- Any number of operations on one server, among tasks that store no states. -/
def devicesLock (env : DevicesEnv) :
    RwLock.Operations AppState (Σ user, LockUser.State user) Task LockCall
      (Σ user, LockUser.Label user) :=
  (Body.sigma (LockUser.body env)).operations
    (fun app task => if task.isWriter then none else task.run app)
    (fun app call => some (call.start env app))

end Devicectrl
