import Devicectrl.Native.Govee
import Devicectrl.Native.Krypton
import Devicectrl.Native.NotificationCalls
import Devicectrl.Native.Requests
import Devicectrl.Native.Simple
import Devicectrl.Native.Tplink

/-!
# The device table and what reaches it

`load_devices` of `devices/mod.rs`, and the calls that read and write the table it loads: update
requests, and the messages of the four controllers up to the end of
`process_update_notification`.
-/

namespace Devicectrl

/-! ## Loading the table -/

/-- What is configured of a device, under its name. -/
structure DeviceConfig where
  deviceType : DeviceType
  controller : ControllerConfig
  deriving DecidableEq, Repr

/-- `HashMap<String, DeviceConfig>`, its entries in the order in which it iterates. -/
abbrev DevicesConfig := AList fun _ : String => DeviceConfig

/-- `DeviceId::new` and `push_str`, which panics on a text that does not fit. -/
def DeviceId.ofString (capacity : Nat) (text : String) : Option DeviceId :=
  if text.utf8ByteSize ≤ capacity then some ⟨text⟩ else none

/-- The table entry of a configured device. -/
def DeviceConfig.load (id : DeviceId) (config : DeviceConfig) : Device :=
  ⟨id, config.deviceType, .unknown, config.controller⟩

/-- `load_devices`; `none` is the panic of `push_str`. -/
def loadDevices (capacity : Nat) (config : DevicesConfig) : Option Devices :=
  config.entries.foldlM
    (fun devices entry =>
      (DeviceId.ofString capacity entry.1).map fun id => devices.insert id (entry.2.load id))
    ∅

/-! ## Messages of the controllers -/

/-- A message as a controller receives it: on a connection identified as a device, or from an
address. -/
inductive Incoming where
  | simple (deviceId : DeviceId) (message : ServerBoundSimpleMessage)
  | krypton (deviceId : DeviceId) (buf : List UInt8)
  | tplink (addr : Ipv4Addr) (datagram : List UInt8)
  | govee (addr : Ipv4Addr) (datagram : List UInt8)
  deriving DecidableEq

/-- What the controllers call to decode them. -/
structure IncomingEnv where
  krypton : Krypton.Env
  tplink : List UInt8 → Except Error Json.Value
  govee : Govee.Env

/-- The notification that a message makes the server process. -/
def Incoming.decode (env : IncomingEnv) (devices : Devices) :
    Incoming → Except Error (Option UpdateNotification)
  | .simple deviceId message =>
    -- The connection is open because its device has a public key
    match Simple.lookupPublicKey devices deviceId with
    | .error e => .error e
    | .ok _ => Simple.handleMessage message deviceId
  | .krypton deviceId buf => Krypton.handleMessage env.krypton buf deviceId devices
  | .tplink addr datagram => Tplink.receive env.tplink devices addr datagram
  | .govee addr datagram => Govee.receive env.govee devices addr datagram

/-! ## Calls -/

/-- A call that works on the table: an update request, or a message that was accepted. -/
inductive TableCall where
  | request (call : RequestCall)
  | notification (source : Incoming) (call : NotificationCall)
  | returned
  deriving DecidableEq

/-- What starts a call. -/
inductive TableMessage where
  | request (request : UpdateRequest)
  | incoming (source : Incoming)
  deriving DecidableEq

/-- A part of an update request, or of processing a notification. -/
inductive TableLabel where
  | request (l : RequestLabel)
  | process
  deriving DecidableEq

/-- The state that the calls share. `stored` are the notifications that were stored, in order; no
step reads them. -/
structure Table where
  app : AppState
  stored : List UpdateNotification

namespace TableCall

/-- A message that is rejected, or reports no state, is done with. -/
def start (env : IncomingEnv) (app : AppState) : TableMessage → TableCall
  | .request r => .request (.begin r)
  | .incoming source =>
    match source.decode env app.devices with
    | .ok (some update) => .notification source (.store update)
    | _ => .returned

/-- One part of a call. A state that is stored is noted. -/
def step (table : Table) : TableCall → TableLabel → Option (Table × TableCall)
  | .request current, .request l =>
    (current.step table.app l).map fun p => ({ table with app := p.1 }, .request p.2)
  | .notification source call, .process =>
    match processUpdateNotification table.app call with
    | (app, .inl call') =>
      some (⟨app, table.stored ++ call.stores⟩, .notification source call')
    | (app, .inr _) => some ({ table with app }, .returned)
  | _, _ => none

end TableCall

/-- Any number of calls on one table, among tasks that do not report states. -/
def tableCalls (env : IncomingEnv) : System Table TableCall Task TableMessage TableLabel where
  env table task :=
    if task.isForeign then (task.run table.app).map fun app => { table with app } else none
  spawn table message := some (table, .start env table.app message)
  step := TableCall.step

/-- The server once it has loaded its devices. -/
def tableInitial (devices : Devices) (controllers : Controllers) :
    System.State Table TableCall :=
  ⟨⟨.new devices controllers, []⟩, []⟩

end Devicectrl
