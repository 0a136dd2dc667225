import Devicectrl.Native.SendUpdate

/-!
# What a call emits

What `send_update` and `send_query` hand to the channel of their controller or to a socket, when
that accepts it.
-/

namespace Devicectrl

/-- Something that is sent on behalf of a request. -/
inductive Emission where
  /-- On `request_sender` of the Simple controller. -/
  | simple (message : DeviceBoundMessage)
  /-- On `request_sender` of the Krypton controller. -/
  | krypton (message : DeviceBoundMessage)
  | datagram (address : Ipv4Addr) (port : UInt16) (data : List UInt8)
  deriving DecidableEq

/-- The port `send_command` of the TP-Link controller sends to. -/
def Tplink.SEND_PORT : UInt16 := 9999

/-- The port that lights listen on for commands. -/
def Govee.GOVEE_SEND_PORT : UInt16 := 4003

namespace DeviceCall

/-- What the controller of `config` sends where it awaits. -/
def emission (config : ControllerConfig) : DeviceCall → Option Emission
  | .broadcast message =>
    match config with
    | .simple _ => some (.simple message)
    | .krypton _ => some (.krypton message)
    | _ => none
  | .tplink _ (.sending data) | .tplink _ (.querying data) =>
    match config with
    | .tplink config => some (.datagram config.address Tplink.SEND_PORT data)
    | _ => none
  | .govee (.sending data) | .govee (.querying data) =>
    match config with
    | .govee config => some (.datagram config.address Govee.GOVEE_SEND_PORT data)
    | _ => none
  -- What is received, and the sleep, go to nobody
  | _ => none

/-- What a step emits: what is being sent, if the send succeeds. -/
def emits (config : ControllerConfig) (call : DeviceCall) : DeviceLabel → List Emission
  | .broadcast (.ok ()) | .sent (.ok ()) => (call.emission config).toList
  | _ => []

end DeviceCall

/-- What a step of `process_update_request` emits. -/
def UpdateCall.emits : UpdateCall → UpdateLabel → List Emission
  | .dispatching device _ call, .device l => call.emits device.controller l
  | _, _ => []

end Devicectrl
