import Mathlib.Algebra.BigOperators.Group.List.Basic
import Mathlib.Algebra.Order.Ring.Nat

/-!
# devicectrl-common

The types of the `devicectrl-common` crate that the server stores and passes on.
A variant the server never names is folded into an `other` constructor that keeps its
contents as bytes.
-/

namespace Devicectrl

/-- An `anyhow::Error`: its chain of messages, the outermost context first. -/
abbrev Error := List String

/-- `.context(c)` on a result that already carries an error. -/
def withContext {α : Type} (c : String) : Except Error α → Except Error α
  | .ok a => .ok a
  | .error e => .error (c :: e)

/-- The id of a device, a name. -/
structure DeviceId where
  name : String
  deriving DecidableEq, Repr

/-- The id of a scene, a name. -/
structure SceneId where
  name : String
  deriving DecidableEq, Repr

/-! ## Device types, states and updates -/

/-- What a device is. -/
inductive DeviceType where
  | switch
  | dimmableLight
  | colorLight
  | other (name : String)
  deriving DecidableEq, Repr

/-- Whether a switch is on. -/
inductive SwitchPower where
  | on
  | off
  deriving DecidableEq, Repr

/-- The state of a switch. -/
structure SwitchState where
  power : SwitchPower
  deriving DecidableEq, Repr

/-- The bounds of a numeric attribute, and the steps it is changed in. -/
structure NumericProperties where
  min : UInt32
  max : UInt32
  step : UInt32
  deriving DecidableEq, Repr

/-- A numeric attribute of a device, with its bounds. -/
structure NumericState where
  properties : NumericProperties
  value : UInt32
  deriving DecidableEq, Repr

/-- The state of a light that can be dimmed. -/
structure DimmableLightState where
  power : SwitchPower
  brightness : NumericState
  deriving DecidableEq, Repr

/-- `fields` are the attributes other than the brightness. -/
structure ColorLightState where
  brightness : NumericState
  fields : List UInt8
  deriving DecidableEq, Repr

/-- The state of a device, by its type, with `unknown` before the first report. -/
inductive DeviceState where
  | unknown
  | switch (state : SwitchState)
  | dimmableLight (state : DimmableLightState)
  | colorLight (state : ColorLightState)
  | other (name : String) (fields : List UInt8)
  deriving DecidableEq, Repr

/-- How a numeric attribute is updated. -/
inductive NumericUpdate where
  | absolute (value : UInt32)
  | other (fields : List UInt8)
  deriving DecidableEq, Repr

/-- What an update does to one attribute. -/
inductive AttributeUpdate where
  | power (power : SwitchPower)
  | brightness (update : NumericUpdate)
  | colorTemp (update : NumericUpdate)
  | other (name : String) (fields : List UInt8)
  deriving DecidableEq, Repr

/-- A request to update a device. -/
structure UpdateRequest where
  deviceId : DeviceId
  update : AttributeUpdate
  deriving DecidableEq, Repr

/-- The update as it is sent to the device. -/
structure UpdateCommand where
  deviceId : DeviceId
  update : AttributeUpdate
  deriving DecidableEq, Repr

/-- A device reports its state. -/
structure UpdateNotification where
  deviceId : DeviceId
  reachable : Bool
  newState : DeviceState
  deriving DecidableEq, Repr

/-! ## Device protocols

`protocol::simple` and `protocol::krypton` name the same variants of their messages. -/

/-- What a device sends to the server. -/
inductive ServerBoundMessage where
  | identify (deviceId : DeviceId)
  | requestReceived
  | failure (message : String)
  | updateNotification (notification : UpdateNotification)
  | other (fields : List UInt8)
  deriving DecidableEq, Repr

/-- What the server sends to a device. `failure` is `From<anyhow::Error>`. -/
inductive DeviceBoundMessage where
  | updateCommand (command : UpdateCommand)
  | stateQuery (deviceId : DeviceId)
  | failure (error : Error)
  | other (fields : List UInt8)
  deriving DecidableEq, Repr

/-- What a device of the Simple controller sends. -/
abbrev ServerBoundSimpleMessage := ServerBoundMessage

/-- What is sent to a device of the Simple controller. -/
abbrev DeviceBoundSimpleMessage := DeviceBoundMessage

/-- What a device of the Krypton controller sends. -/
abbrev ServerBoundKryptonMessage := ServerBoundMessage

/-- What is sent to a device of the Krypton controller. -/
abbrev DeviceBoundKryptonMessage := DeviceBoundMessage

/-- The device a request is for: the `match &request` by which the select loops of both
controllers tell their own requests from those of other connections. -/
def DeviceBoundMessage.requestDevice : DeviceBoundMessage → Option DeviceId
  | .updateCommand command => some command.deviceId
  | .stateQuery deviceId => some deviceId
  | _ => none

/-- The requests for device `deviceId` among `messages`, in order. -/
def requestsFor (deviceId : DeviceId) (messages : List DeviceBoundMessage) :
    List DeviceBoundMessage :=
  messages.filter fun m => m.requestDevice = some deviceId

@[simp] theorem requestsFor_nil (d : DeviceId) : requestsFor d [] = [] := rfl

/-- The requests for a device keep their order. -/
@[simp] theorem requestsFor_append (d : DeviceId) (ms ms' : List DeviceBoundMessage) :
    requestsFor d (ms ++ ms') = requestsFor d ms ++ requestsFor d ms' :=
  List.filter_append ms ms'

/-- More messages are more requests for a device. -/
theorem requestsFor_mono (d : DeviceId) {ms ms' : List DeviceBoundMessage} (h : ms <+: ms') :
    requestsFor d ms <+: requestsFor d ms' :=
  h.filter _

/-- A request for the device is kept. -/
theorem requestsFor_own {d : DeviceId} {m : DeviceBoundMessage} (h : m.requestDevice = some d) :
    requestsFor d [m] = [m] := by
  simp [requestsFor, h]

/-- A request for another device is left out. -/
theorem requestsFor_foreign {d : DeviceId} {m : DeviceBoundMessage}
    (h : m.requestDevice ≠ some d) : requestsFor d [m] = [] := by
  simp [requestsFor, h]

/-- The body that the two `handle_message` functions share, up to their call of
`process_update_notification`: the notification to process, if the message carries one. -/
def ServerBoundMessage.handle (message : ServerBoundMessage) (deviceId : DeviceId) :
    Except Error (Option UpdateNotification) :=
  match message with
  | .identify _ => .error ["Device sent another identify"]
  | .requestReceived => .ok none
  | .failure _ => .ok none
  | .updateNotification notification =>
    if notification.deviceId ≠ deviceId then
      .error ["Device sent update with incorrect device id"]
    else .ok (some notification)
  | .other _ => .ok none

/-- The notification a message carries. -/
def ServerBoundMessage.notification? : ServerBoundMessage → Option UpdateNotification
  | .updateNotification notification => some notification
  | _ => none

/-- The notifications of device `deviceId` among `messages`, in order. -/
def notificationsOf (deviceId : DeviceId) (messages : List ServerBoundMessage) :
    List UpdateNotification :=
  (messages.filterMap ServerBoundMessage.notification?).filter fun n => n.deviceId = deviceId

@[simp] theorem notificationsOf_nil (d : DeviceId) : notificationsOf d [] = [] := rfl

/-- The notifications of a device keep their order. -/
@[simp] theorem notificationsOf_append (d : DeviceId) (ms ms' : List ServerBoundMessage) :
    notificationsOf d (ms ++ ms') = notificationsOf d ms ++ notificationsOf d ms' := by
  simp only [notificationsOf, List.filterMap_append, List.filter_append]

namespace ServerBoundMessage

variable {m : ServerBoundMessage} {d : DeviceId} {n : UpdateNotification}

/-- A message with a notification to process is an update notification of the connection's
own device. -/
theorem handle_ok_some (h : m.handle d = .ok (some n)) :
    m = .updateNotification n ∧ n.deviceId = d := by
  cases m with
  | updateNotification n' =>
    simp only [handle] at h
    split at h
    · -- a report of another device is refused
      exact nomatch h
    · rename_i hd
      cases h
      exact ⟨rfl, not_not.mp hd⟩
  -- Every other message is refused, whoever sends it
  | identify _ => exact nomatch h
  | requestReceived => exact nomatch h
  | failure _ => exact nomatch h
  | other _ => exact nomatch h

/-- `handle` lets exactly the notifications of the connection's own device through. -/
theorem notificationsOf_of_handle (h : m.handle d = .ok (some n)) :
    notificationsOf d [m] = [n] := by
  obtain ⟨rfl, hd⟩ := handle_ok_some h
  simp [notificationsOf, notification?, hd]

/-- A message that is not a notification of the device counts for none. -/
theorem notificationsOf_of_handle_none (h : ∀ n, m.handle d ≠ .ok (some n)) :
    notificationsOf d [m] = [] := by
  cases m with
  | updateNotification n' =>
    have hd : n'.deviceId ≠ d := fun hd => h n' (by simp [handle, hd])
    simp [notificationsOf, notification?, hd]
  | identify _ => rfl
  | requestReceived => rfl
  | failure _ => rfl
  | other _ => rfl

end ServerBoundMessage

end Devicectrl
