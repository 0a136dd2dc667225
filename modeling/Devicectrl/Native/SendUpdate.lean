import Devicectrl.Native.Govee
import Devicectrl.Native.Requests
import Devicectrl.Native.Tplink

/-!
# Updates and queries, down to the sockets

`send_update` and `send_query` of the four controllers, cut where they await, and
`process_update_request` with them in place of an outcome. Such a call goes on or returns; what
it does changes nothing that other tasks share. A label carries what a socket or a timer yields.
-/

namespace Devicectrl

/-- What the UDP controllers call of `serde_json` and `devicectrl-common`. -/
structure ControllerEnv where
  fromSlice : List UInt8 → Except Error Json.Value
  toVec : Json.Value → Except Error (List UInt8)
  govee : Govee.Env

/-- What ends where a controller awaits. -/
inductive DeviceLabel where
  /-- `request_sender.send` of the Simple and the Krypton controller. -/
  | broadcast (result : Except Error Unit)
  | bound (result : Except Error Unit)
  | sent (result : Except Error Unit)
  /-- A datagram, with the address it comes from. -/
  | received (result : Except Error (Ipv4Addr × List UInt8))
  | timedOut
  | slept
  deriving DecidableEq

/-! ## TP-Link -/

namespace Tplink

/-- `send_update`, by where it awaits. `querying` is `send_query`. -/
inductive SendUpdate where
  | binding (payload : Json.Value)
  | sending (data : List UInt8)
  | receiving
  | querying (data : List UInt8)

namespace SendUpdate

/-- `send_command` up to `send_to`: the command is encoded and encrypted. -/
def sendCommand (env : ControllerEnv) (command : Json.Value)
    (next : List UInt8 → SendUpdate) : SendUpdate ⊕ Except Error Unit :=
  match env.toVec command with
  | .error e => .inr (.error e)
  | .ok data => .inl (next (encrypt data))

/-- `send_query` up to `send_to`. -/
def sendQuery (env : ControllerEnv) : SendUpdate ⊕ Except Error Unit :=
  sendCommand env buildQueryPayload .querying

/-- `send_update` up to its first await. -/
def start (request : UpdateRequest) : SendUpdate ⊕ Except Error Unit :=
  match buildUpdatePayload request.update with
  | .error e => .inr (.error e)
  | .ok payload => .inl (.binding payload)

/-- `receive_response` has read a datagram. `recv` does not tell whose it is. -/
def confirm (env : ControllerEnv) (device : Device) (datagram : List UInt8) :
    SendUpdate ⊕ Except Error Unit :=
  match env.fromSlice (decrypt (datagram.take 1500)) with
  | .error e => .inr (.error e)
  | .ok setRes =>
    match isResponseSuccess setRes device.deviceType with
    | .error e => .inr (.error e)
    | .ok false => .inr (.error ["Device update was unsuccessful"])
    | .ok true => sendQuery env

/-- The parts of `send_update`: the command is sent, answered, and followed by a query. -/
def step (env : ControllerEnv) (device : Device) :
    SendUpdate → DeviceLabel → Option (SendUpdate ⊕ Except Error Unit)
  | .binding payload, .bound result =>
    match result with
    | .error e => some (.inr (.error e))
    -- The socket is bound before the payload is encoded
    | .ok () => some (sendCommand env payload .sending)
  | .sending _, .sent result =>
    match result with
    | .error e => some (.inr (.error e))
    | .ok () => some (.inl .receiving)
  | .receiving, .received result =>
    match result with
    | .error e => some (.inr (.error e))
    -- The first datagram on the socket is taken for the answer, whoever sent it
    | .ok (_, datagram) => some (confirm env device datagram)
  -- `timeout(..)` elapses
  | .receiving, .timedOut =>
    some (.inr (.error ["timed out waiting for response", "deadline has elapsed"]))
  | .querying _, .sent result => some (.inr result)
  | _, _ => none

end SendUpdate

end Tplink

/-! ## Govee -/

namespace Govee

/-- `send_update`, by where it awaits. `querying` is `send_query`. -/
inductive SendUpdate where
  | sending (data : List UInt8)
  | sleeping
  | querying (data : List UInt8)

namespace SendUpdate

/-- `send_command` up to `send_to`. -/
def sendCommand (env : ControllerEnv) (command : Json.Value)
    (next : List UInt8 → SendUpdate) : SendUpdate ⊕ Except Error Unit :=
  match env.toVec command with
  | .error e => .inr (.error e)
  | .ok data => .inl (next data)

/-- `send_query` up to `send_to`. -/
def sendQuery (env : ControllerEnv) : SendUpdate ⊕ Except Error Unit :=
  sendCommand env buildQueryPayload .querying

/-- `send_update` up to its first await. -/
def start (env : ControllerEnv) (device : Device) (request : UpdateRequest) :
    SendUpdate ⊕ Except Error Unit :=
  match buildUpdatePayload env.govee device request.update with
  | .error e => .inr (.error e)
  | .ok payload => sendCommand env payload .sending

/-- The parts of `send_update`: the command is sent, and a query after a pause. -/
def step (env : ControllerEnv) :
    SendUpdate → DeviceLabel → Option (SendUpdate ⊕ Except Error Unit)
  | .sending _, .sent result =>
    match result with
    | .error e => some (.inr (.error e))
    | .ok () => some (.inl .sleeping)
  | .sleeping, .slept => some (sendQuery env)
  | .querying _, .sent result => some (.inr result)
  | _, _ => none

end SendUpdate

end Govee

/-! ## The four controllers -/

/-- A call of `send_update` or `send_query`, by where it awaits. -/
inductive DeviceCall where
  | broadcast (message : DeviceBoundMessage)
  | tplink (device : Device) (call : Tplink.SendUpdate)
  | govee (call : Govee.SendUpdate)

namespace DeviceCall

/-- `send_update` of the device's controller, up to its first await. -/
def sendUpdate (env : ControllerEnv) (device : Device) (request : UpdateRequest) :
    DeviceCall ⊕ Except Error Unit :=
  match device.controller with
  | .simple _ => .inl (.broadcast (.updateCommand ⟨request.deviceId, request.update⟩))
  | .krypton _ => .inl (.broadcast (.updateCommand ⟨request.deviceId, request.update⟩))
  | .tplink _ => (Tplink.SendUpdate.start request).map (.tplink device) id
  | .govee _ => (Govee.SendUpdate.start env device request).map .govee id

/-- `send_query` of the device's controller, up to its first await. -/
def sendQuery (env : ControllerEnv) (device : Device) : DeviceCall ⊕ Except Error Unit :=
  match device.controller with
  | .simple _ => .inl (.broadcast (.stateQuery device.id))
  | .krypton _ => .inl (.broadcast (.stateQuery device.id))
  | .tplink _ => (Tplink.SendUpdate.sendQuery env).map (.tplink device) id
  | .govee _ => (Govee.SendUpdate.sendQuery env).map .govee id

/-- What `dispatch_update` and `dispatch_query_state` of `Controllers` share: the controller of
the device has to be enabled. -/
def dispatch (app : AppState) (device : Device) (send : DeviceCall ⊕ Except Error Unit) :
    DeviceCall ⊕ Except Error Unit :=
  match app.controllers.field device.controller with
  | (true, _) => send
  | (false, name) => .inr (.error [name ++ " controller is not enabled!"])

/-- `Controllers::dispatch_update`. -/
def dispatchUpdate (env : ControllerEnv) (app : AppState) (device : Device)
    (request : UpdateRequest) : DeviceCall ⊕ Except Error Unit :=
  dispatch app device (sendUpdate env device request)

/-- `Controllers::dispatch_query_state`. -/
def dispatchQueryState (env : ControllerEnv) (app : AppState) (device : Device) :
    DeviceCall ⊕ Except Error Unit :=
  dispatch app device (sendQuery env device)

/-- The call goes on as that of its controller does. -/
def step (env : ControllerEnv) :
    DeviceCall → DeviceLabel → Option (DeviceCall ⊕ Except Error Unit)
  | .broadcast _, .broadcast result => some (.inr result)
  | .tplink device call, l => (call.step env device l).map fun r => r.map (.tplink device) id
  | .govee call, l => (call.step env l).map fun r => r.map .govee id
  | _, _ => none

/-- A call goes on with whatever ends next where it awaits: a send, a timeout or a sleep. -/
theorem exists_step (env : ControllerEnv) (call : DeviceCall) :
    ∃ l, (call.step env l).isSome := by
  cases call with
  -- A broadcast ends at once, and every other call has the await it is at
  | broadcast message => exact ⟨.broadcast (.ok ()), rfl⟩
  | tplink device call =>
    cases call with
    | binding payload => exact ⟨.bound (.ok ()), rfl⟩
    | sending data => exact ⟨.sent (.ok ()), rfl⟩
    | receiving => exact ⟨.timedOut, rfl⟩
    | querying data => exact ⟨.sent (.ok ()), rfl⟩
  | govee call =>
    cases call with
    | sending data => exact ⟨.sent (.ok ()), rfl⟩
    | sleeping => exact ⟨.slept, rfl⟩
    | querying data => exact ⟨.sent (.ok ()), rfl⟩

end DeviceCall

/-! ## Update requests -/

/-- A call of `process_update_request`, by where it awaits. -/
inductive UpdateCall where
  | begin (request : UpdateRequest)
  | dispatching (device : Device) (request : UpdateRequest) (call : DeviceCall)
  | returned (result : Except Error Unit)

/-- The device is looked up, or its controller goes on. -/
inductive UpdateLabel where
  | poll
  | device (l : DeviceLabel)
  deriving DecidableEq

namespace UpdateCall

/-- The result of a call that has returned. -/
def result? : UpdateCall → Option (Except Error Unit)
  | .returned result => some result
  | _ => none

/-- The call after its controller went on or returned. -/
def after (device : Device) (request : UpdateRequest) :
    DeviceCall ⊕ Except Error Unit → UpdateCall
  | .inl call => .dispatching device request call
  | .inr result => .returned result

/-- One part of `process_update_request`. -/
def step (env : ControllerEnv) (app : AppState) :
    UpdateCall → UpdateLabel → Option (AppState × UpdateCall)
  | .begin request, .poll =>
    match beginUpdateRequest request app with
    | .error e => some (app, .returned (.error e))
    | .ok (device, app) =>
      some (app, after device request (DeviceCall.dispatchUpdate env app device request))
  | .dispatching device request call, .device l =>
    (call.step env l).map fun r => (app, after device request r)
  | _, _ => none

end UpdateCall

end Devicectrl
