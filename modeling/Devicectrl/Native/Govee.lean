import Devicectrl.ForStd.Json
import Devicectrl.Native.AppState

/-!
# Govee controller

The payloads and one turn of the listener of `controllers/govee.rs`, up to its call of
`process_update_notification`.
-/

namespace Devicectrl.Govee

open Json (Value)

/-- Brightness is a percentage. -/
def BRIGHTNESS_PROPS : NumericProperties where
  min := 0
  max := 100
  step := 1

/-- What the controller calls of `serde_json` and `devicectrl-common`. -/
structure Env where
  fromSlice : List UInt8 → Except Error Value
  toState : NumericProperties → UInt32 → NumericState
  applyTo : NumericUpdate → NumericState → UInt32

/-! ## Payloads -/

/-- A light is turned on by a 1. -/
def turnValue : SwitchPower → Value
  | .on => .ofNat 1
  | .off => .ofNat 0

/-- The message that carries a command with its data. -/
def command (cmd : String) (data : Value) : Value :=
  .single "msg" (.object [("cmd", .string cmd), ("data", data)])

/-- The payload that makes a light do what an update asks for. -/
def buildUpdatePayload (env : Env) (device : Device) (update : AttributeUpdate) :
    Except Error Value := do
  let brightnessState ←
    match device.state with
    | .unknown => .ok (env.toState BRIGHTNESS_PROPS 0)
    | .dimmableLight state => .ok state.brightness
    | .colorLight state => .ok state.brightness
    | _ => .error ["Unsupported state for govee controller update!"]
  match update with
  | .power power => .ok (command "turn" (.single "value" (turnValue power)))
  -- Brightness will also turn the device on if it is off
  | .brightness brightness =>
    .ok (command "brightness"
      (.single "value" (.ofNat (env.applyTo brightness brightnessState).toNat)))
  | _ => .error ["Unsupported update for govee controller update!"]

/-- The payload that makes a light report its state. -/
def buildQueryPayload : Value :=
  command "devStatus" (.object [])

/-- The state that the payload of a report says. -/
def parseQueryPayload (env : Env) (payload : Value) (deviceType : DeviceType) :
    Except Error DeviceState :=
  let data := (payload.index "msg").index "data"
  match deviceType with
  | .dimmableLight =>
    match (data.index "onOff").asI64 with
    | none => .error ["govee device query payload missing onOff"]
    | some onOff =>
      match (data.index "brightness").asU64 with
      | none => .error ["govee device query payload missing brightness"]
      | some brightness =>
        -- `as u32` keeps the low half of the brightness
        .ok (.dimmableLight ⟨if onOff = 1 then .on else .off,
          env.toState BRIGHTNESS_PROPS brightness.toUInt32⟩)
  | _ => .error ["Unsupported state for govee controller query!"]

/-! ## The listener -/

/-- The device whose configured address a datagram comes from. -/
def findDevice (devices : Devices) (addr : Ipv4Addr) : Option Device :=
  (devices.entries.map fun entry => entry.2).find? fun device =>
    match device.controller with
    | .govee config => config.address = addr
    | _ => false

/-- One turn of `start_listening`, up to the notification it processes. The buffer holds 1500
bytes. -/
def receive (env : Env) (devices : Devices) (addr : Ipv4Addr) (datagram : List UInt8) :
    Except Error (Option UpdateNotification) :=
  match findDevice devices addr with
  -- `return Ok(())` on a state for an unknown device
  | none => .ok none
  | some device =>
    match env.fromSlice (datagram.take 1500) with
    | .error e => .error e
    | .ok payload =>
      match parseQueryPayload env payload device.deviceType with
      | .error e => .error e
      | .ok newState => .ok (some ⟨device.id, true, newState⟩)

end Devicectrl.Govee
