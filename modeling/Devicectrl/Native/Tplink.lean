import Devicectrl.ForStd.Json
import Devicectrl.Native.AppState

/-!
# TP-Link controller

The cipher, the payloads and one turn of the listener of `controllers/tplink.rs`, up to its call
of `process_update_notification`.
-/

namespace Devicectrl.Tplink

open Json (Value)

/-! ## The cipher -/

/-- The running key begins with this. -/
def ENCRYPTION_KEY : UInt8 := 0xAB

/-- The running key of `encrypt` is the byte it wrote last. -/
def encryptWith (key : UInt8) : List UInt8 → List UInt8
  | [] => []
  | b :: message => (key ^^^ b) :: encryptWith (key ^^^ b) message

/-- A message is encrypted from the first key on. -/
def encrypt (message : List UInt8) : List UInt8 :=
  encryptWith ENCRYPTION_KEY message

/-- The running key of `decrypt` is the byte it read last. -/
def decryptWith (key : UInt8) : List UInt8 → List UInt8
  | [] => []
  | b :: cipher => (b ^^^ key) :: decryptWith b cipher

/-- It is decrypted from the same key on. -/
def decrypt (cipher : List UInt8) : List UInt8 :=
  decryptWith ENCRYPTION_KEY cipher

/-! ## Payloads -/

/-- What a switch calls its power. -/
def relayState : SwitchPower → Value
  | .on => .ofNat 1
  | .off => .ofNat 0

/-- The payload that switches a plug. -/
def buildUpdatePayload : AttributeUpdate → Except Error Value
  | .power power =>
    .ok (.single "system" (.single "set_relay_state" (.single "state" (relayState power))))
  | _ => .error ["Unsupported state for tplink controller!"]

/-- The payload that makes a plug report its state. -/
def buildQueryPayload : Value :=
  .single "system" (.single "get_sysinfo" (.object []))

/-- The state that the payload of a report says. -/
def parseQueryPayload (payload : Value) (deviceType : DeviceType) : Except Error DeviceState :=
  match deviceType with
  | .switch =>
    match (((payload.index "system").index "get_sysinfo").index "relay_state").asI64 with
    | none => .error ["tplink device query payload missing relay state"]
    | some relayState => .ok (.switch ⟨if relayState = 1 then .on else .off⟩)
  | _ => .error ["Unsupported state for tplink controller!"]

/-- Whether a plug says that it has done what it was told. -/
def isResponseSuccess (payload : Value) (deviceType : DeviceType) : Except Error Bool :=
  match deviceType with
  | .switch =>
    match (((payload.index "system").index "set_relay_state").index "err_code").asI64 with
    | none => .error ["tplink device response payload missing relay state err code"]
    | some errCode => .ok (errCode = 0)
  | _ => .error ["Unsupported state for tplink controller!"]

/-! ## The listener -/

/-- The device whose configured address a datagram comes from. -/
def findDevice (devices : Devices) (addr : Ipv4Addr) : Option Device :=
  (devices.entries.map fun entry => entry.2).find? fun device =>
    match device.controller with
    | .tplink config => config.address = addr
    | _ => false

/-- One turn of `start_listening`, up to the notification it processes. `fromSlice` is that of
`serde_json`; the buffer holds 1500 bytes. -/
def receive (fromSlice : List UInt8 → Except Error Value) (devices : Devices) (addr : Ipv4Addr)
    (datagram : List UInt8) : Except Error (Option UpdateNotification) :=
  match findDevice devices addr with
  -- `return Ok(())` on a state for an unknown device
  | none => .ok none
  | some device =>
    match fromSlice (decrypt (datagram.take 1500)) with
    | .error e => .error e
    | .ok payload =>
      match parseQueryPayload payload device.deviceType with
      | .error e => .error e
      | .ok newState => .ok (some ⟨device.id, true, newState⟩)

end Devicectrl.Tplink
