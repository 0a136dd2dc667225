import Devicectrl.ForStd.AList
import Devicectrl.ForStd.Channels
import Devicectrl.Native.Common

/-!
# Devices, hooks and the application state

The device table (`devices/mod.rs`), the hook channel (`hooks.rs`), the configuration
and the state every task of the server shares (`AppState` of `main.rs`).
-/

namespace Devicectrl

/-! ## Configuration -/

/-- A `p256::ecdsa::VerifyingKey`, by its encoding. -/
structure VerifyingKey where
  bytes : List UInt8
  deriving DecidableEq, Repr

/-- A `p256::ecdsa::SigningKey`, by its encoding. -/
structure SigningKey where
  bytes : List UInt8
  deriving DecidableEq, Repr

abbrev Ipv4Addr := UInt32

/-- The key that the messages of a device are verified with. -/
structure SimpleControllerConfig where
  publicKey : VerifyingKey
  deriving DecidableEq, Repr

/-- The certificate that a device presents. -/
structure KryptonControllerConfig where
  certBytes : List UInt8
  deriving DecidableEq, Repr

/-- Where a plug is found. -/
structure TplinkControllerConfig where
  address : Ipv4Addr
  deriving DecidableEq, Repr

/-- Where a light is found. -/
structure GoveeControllerConfig where
  address : Ipv4Addr
  deriving DecidableEq, Repr

/-- How a device is controlled. Its identifier is in `Device`. -/
inductive ControllerConfig where
  | simple (config : SimpleControllerConfig)
  | krypton (config : KryptonControllerConfig)
  | tplink (config : TplinkControllerConfig)
  | govee (config : GoveeControllerConfig)
  deriving DecidableEq, Repr

/-- The dependent needs the dependency to be on while it is. -/
structure DependencyRelationship where
  dependentId : DeviceId
  dependencyId : DeviceId
  deriving DecidableEq, Repr

abbrev DependencyAutomationConfig := List DependencyRelationship

/-- The color temperatures of a device at sunset, and how long the change takes. -/
structure SunsetDeviceConfig where
  deviceId : DeviceId
  colorTempRange : UInt32 × UInt32
  totalDurationSecs : UInt64
  deriving DecidableEq, Repr

/-- The devices whose color temperature follows the sunset. -/
structure SunsetLightTempAutomationConfig where
  devices : List SunsetDeviceConfig
  deriving DecidableEq, Repr

/-- The automations that are configured, none of which has to be. -/
structure AutomationsConfig where
  sunsetLightTemp : Option SunsetLightTempAutomationConfig
  dependencies : Option DependencyAutomationConfig
  deriving DecidableEq, Repr

/-! ## Devices -/

/-- A device and its state as last stored. -/
structure Device where
  id : DeviceId
  deviceType : DeviceType
  state : DeviceState
  controller : ControllerConfig
  deriving DecidableEq, Repr

/-- `HashMap<DeviceId, Device>`, its entries in the order in which it iterates. -/
abbrev Devices := AList fun _ : DeviceId => Device

/-- Everything about a device that comes from the configuration: all but its state. -/
def Device.config (device : Device) : DeviceId × DeviceType × ControllerConfig :=
  (device.id, device.deviceType, device.controller)

/-! ## Hooks -/

/-- What hooks tell: an update was dispatched or a state stored, or a scene was activated. -/
inductive Hook where
  | deviceUpdateDispatch (request : UpdateRequest)
  | deviceStateUpdate (notification : UpdateNotification)
  | sceneActivate (scene : SceneId)
  deriving DecidableEq, Repr

/-- The channel of the hooks, with a receiver of its own that keeps it open. -/
structure HooksChannel where
  sender : Broadcast.Channel Hook
  receiver : Broadcast.Receiver

/-- `HooksChannel::default`. -/
def HooksChannel.default : HooksChannel :=
  let (sender, receiver) := Broadcast.channel 16
  ⟨sender, receiver⟩

/-! ## Controllers -/

/-- Which controllers the configuration enables. -/
structure Controllers where
  simple : Bool
  krypton : Bool
  tplink : Bool
  govee : Bool
  deriving DecidableEq, Repr

/-- The controller of a device's kind, and the name `make_controllers!` reports it by. -/
def Controllers.field (controllers : Controllers) : ControllerConfig → Bool × String
  | .simple _ => (controllers.simple, "Simple")
  | .krypton _ => (controllers.krypton, "Krypton")
  | .tplink _ => (controllers.tplink, "Tplink")
  | .govee _ => (controllers.govee, "Govee")

/-- What all tasks of the server share. -/
structure AppState where
  devices : Devices
  hooks : HooksChannel
  controllers : Controllers

/-- The state `main` sets up. -/
def AppState.new (devices : Devices) (controllers : Controllers) : AppState :=
  ⟨devices, HooksChannel.default, controllers⟩

/-- `Controllers::dispatch_update`: `sendUpdate` is what the device's own controller answers. -/
def Controllers.dispatchUpdate (app : AppState) (device : Device)
    (sendUpdate : Except Error Unit) : Except Error Unit :=
  match app.controllers.field device.controller with
  | (true, _) => sendUpdate
  | (false, name) => .error [name ++ " controller is not enabled!"]

end Devicectrl
