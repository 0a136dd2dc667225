import Mathlib.Data.String.Basic
import Devicectrl.ForStd.SortUnstable
import Devicectrl.Native.Requests

/-!
# Server backends

What the backends of `server_backends` share: the messages of `devicectrl-common` that they
exchange with their clients, and the catalog of `server_backends/mod.rs`.
-/

namespace Devicectrl

/-! ## Messages -/

/-- `protocol::socket::DeviceDescriptor`. -/
structure DeviceDescriptor where
  deviceId : DeviceId
  deviceType : DeviceType
  deriving DecidableEq, Repr

/-- What a client sends over TCP or WebSocket. -/
inductive ServerBoundSocketMessage where
  | updateRequest (request : UpdateRequest)
  | stateQuery (deviceId : DeviceId)
  | activateScene (sceneId : SceneId)
  | queryCatalog
  | other (fields : List UInt8)
  deriving DecidableEq, Repr

/-- What the server sends to such a client. `failure` is `From<anyhow::Error>`. -/
inductive ClientBoundSocketMessage where
  | requestReceived
  | failure (error : Error)
  | updateNotification (notification : UpdateNotification)
  | catalog (devices : List DeviceDescriptor) (scenes : List SceneId)
  | unimplemented
  deriving DecidableEq, Repr

/-- What a client sends over HTTP, and what it is answered. -/
inductive ServerBoundHttpMessage where
  | updateRequest (request : UpdateRequest)
  | activateScene (sceneId : SceneId)
  | other (fields : List UInt8)
  deriving DecidableEq, Repr

/-- What is answered over HTTP. -/
inductive ClientBoundHttpMessage where
  | requestReceived
  | unimplemented
  deriving DecidableEq, Repr

/-! ## The catalog -/

/-- Ids are ordered as their texts. -/
def DeviceDescriptor.sortKey (device : DeviceDescriptor) : String :=
  device.deviceId.name

/-- Scenes are ordered as their texts. -/
def SceneId.sortKey (scene : SceneId) : String :=
  scene.name

/-- The two sorts of `catalog_message`. -/
structure CatalogSort where
  devices : SortUnstable DeviceDescriptor.sortKey
  scenes : SortUnstable SceneId.sortKey

/-- What the catalog says of a device. -/
def Device.descriptor (device : Device) : DeviceDescriptor :=
  ⟨device.id, device.deviceType⟩

/-- `catalog_message`: both lists are sorted. -/
def catalogMessage (sort : CatalogSort) (devices : List DeviceDescriptor)
    (scenes : List SceneId) : ClientBoundSocketMessage :=
  .catalog (sort.devices.sort devices) (sort.scenes.sort scenes)

/-- `catalog`, once it has the read lock. The two maps are iterated in the order of their
entries. -/
def catalog (sort : CatalogSort) (scenes : ScenesConfig) (app : AppState) :
    ClientBoundSocketMessage :=
  catalogMessage sort (app.devices.entries.map fun entry => entry.2.descriptor) scenes.keys

end Devicectrl
