import Devicectrl.Native.UdpListeners
import Devicectrl.Spec.StateTypes

/-!
# What the UDP listeners store

A turn of a listener either leaves the server alone, or stores the state that the datagram
reports for one device and sends one hook of it. Which of the two is decided by the sender, by
the first 1500 bytes of the datagram and by the device that was found, and whatever other tasks
do in between changes nothing of it.

## Key results

- `UdpController.decode_cases`: when a datagram is accepted, and as what
- `StartListening.reading_refines`, `processing_refines`: a turn is a call on the device table
- `listener_turns`: what the turns of a listener have done, in every run
-/

namespace Devicectrl

/-! ## Datagrams -/

namespace UdpController

/-- How a device that reports from an address is configured. -/
def config : UdpController → Ipv4Addr → ControllerConfig
  | .tplink, addr => .tplink ⟨addr⟩
  | .govee, addr => .govee ⟨addr⟩

/-- The text of a datagram: the buffer holds 1500 bytes, and TP-Link devices encrypt. -/
def text : UdpController → List UInt8 → List UInt8
  | .tplink, datagram => Tplink.decrypt (datagram.take 1500)
  | .govee, datagram => datagram.take 1500

/-- The parser of a controller. -/
def fromSlice (env : IncomingEnv) : UdpController → List UInt8 → Except Error Json.Value
  | .tplink => env.tplink
  | .govee => env.govee.fromSlice

/-- The device that a controller finds for an address. -/
def findDevice : UdpController → Devices → Ipv4Addr → Option Device
  | .tplink => Tplink.findDevice
  | .govee => Govee.findDevice

/-- The state that a controller reads in a payload. -/
def parseQueryPayload (env : IncomingEnv) :
    UdpController → Json.Value → DeviceType → Except Error DeviceState
  | .tplink => Tplink.parseQueryPayload
  | .govee => Govee.parseQueryPayload env.govee

/-- The one type of device whose state the controller can read. -/
def supported : UdpController → DeviceType
  | .tplink => .switch
  | .govee => .dimmableLight

/-- The payload has the fields that the controller reads, with integers of the types that it
reads them as. -/
def HasFields : UdpController → Json.Value → Prop
  | .tplink, payload =>
    (((payload.index "system").index "get_sysinfo").index "relay_state").asI64.isSome
  | .govee, payload =>
    (((payload.index "msg").index "data").index "onOff").asI64.isSome ∧
      (((payload.index "msg").index "data").index "brightness").asU64.isSome

/-- No device of the kind has the sender's address, or the bytes are not JSON, or the type of
the device is not supported, or a field is missing or of the wrong type. -/
def Rejects (controller : UdpController) (env : IncomingEnv) (devices : Devices) (addr : Ipv4Addr)
    (datagram : List UInt8) : Prop :=
  (∀ id device, devices.lookup id = some device → device.controller ≠ controller.config addr) ∨
    ∃ device, controller.findDevice devices addr = some device ∧
      ((∃ e, controller.fromSlice env (controller.text datagram) = .error e) ∨
        device.deviceType ≠ controller.supported ∨
        ∃ payload, controller.fromSlice env (controller.text datagram) = .ok payload ∧
          ¬controller.HasFields payload)

/-- `update` is what the datagram reports, of a device of the kind with the sender's address. -/
structure Accepts (controller : UdpController) (env : IncomingEnv) (devices : Devices)
    (addr : Ipv4Addr) (datagram : List UInt8) (update : UpdateNotification) (device : Device) :
    Prop where
  found : controller.findDevice devices addr = some device
  lookup : devices.lookup update.deviceId = some device
  configured : device.controller = controller.config addr
  reachable : update.reachable = true
  state : ∃ payload, controller.fromSlice env (controller.text datagram) = .ok payload ∧
    controller.parseQueryPayload env payload device.deviceType = .ok update.newState
  fits : update.newState ≠ .unknown ∧ update.newState.fits device.deviceType = true

variable {env : IncomingEnv} {controller : UdpController} {devices : Devices} {addr : Ipv4Addr}
  {datagram : List UInt8}

/-- Both controllers look for a device configured with the address. -/
theorem findDevice_eq (controller : UdpController) (devices : Devices) (addr : Ipv4Addr) :
    controller.findDevice devices addr =
      (devices.entries.map fun entry => entry.2).find? fun device =>
        device.controller = controller.config addr := by
  -- Both functions compare the addresses of the controller's own devices
  cases controller with
  | tplink =>
    show Tplink.findDevice devices addr = _
    unfold Tplink.findDevice
    congr 1
    funext device
    cases device.controller with
    | tplink c =>
      obtain ⟨address⟩ := c
      simp [config]
    | _ => simp [config]
  | govee =>
    show Govee.findDevice devices addr = _
    unfold Govee.findDevice
    congr 1
    funext device
    cases device.controller with
    | govee c =>
      obtain ⟨address⟩ := c
      simp [config]
    | _ => simp [config]

/-- The two listeners decode in the same steps. -/
theorem decode_eq (env : IncomingEnv) (controller : UdpController) (devices : Devices)
    (addr : Ipv4Addr) (datagram : List UInt8) :
    (controller.incoming addr datagram).decode env devices =
      match controller.findDevice devices addr with
      | none => .ok none
      | some device =>
        match controller.fromSlice env (controller.text datagram) with
        | .error e => .error e
        | .ok payload =>
          match controller.parseQueryPayload env payload device.deviceType with
          | .error e => .error e
          | .ok newState => .ok (some ⟨device.id, true, newState⟩) := by
  -- The two controllers differ in their three functions only
  cases controller with
  | tplink => rfl
  | govee => rfl

/-- No device is found where none is configured with the address. -/
theorem findDevice_eq_none_iff : controller.findDevice devices addr = none ↔
    ∀ id device, devices.lookup id = some device → device.controller ≠ controller.config addr := by
  rw [findDevice_eq, List.find?_eq_none]
  constructor
  · intro h id device hd
    have hmem : device ∈ devices.entries.map fun entry => entry.2 :=
      List.mem_map.mpr ⟨⟨id, device⟩, AList.mem_lookup_iff.mp hd, rfl⟩
    simpa using h device hmem
  · intro h device hmem
    obtain ⟨⟨id, device⟩, hentry, rfl⟩ := List.mem_map.mp hmem
    simpa using h id device (AList.mem_lookup_iff.mpr hentry)

/-- The device that is found is one of the table, configured with the address. -/
theorem findDevice_some (hk : devices.Keyed) {device : Device}
    (h : controller.findDevice devices addr = some device) :
    devices.lookup device.id = some device ∧ device.controller = controller.config addr := by
  rw [findDevice_eq] at h
  have hcontroller := List.find?_some h
  exact ⟨hk.find h, of_decide_eq_true hcontroller⟩

/-- A payload is read exactly when the type is supported and the fields are there. -/
theorem parseQueryPayload_ok_iff {payload : Json.Value} {deviceType : DeviceType} :
    (∃ state, controller.parseQueryPayload env payload deviceType = .ok state) ↔
      deviceType = controller.supported ∧ controller.HasFields payload := by
  -- Each parses one type of device, and reads its own fields
  cases controller with
  | tplink =>
    cases deviceType with
    -- Only a switch is parsed, by its `relay_state`
    | switch =>
      show (∃ state, Tplink.parseQueryPayload payload .switch = .ok state) ↔ _
      simp only [Tplink.parseQueryPayload, supported, HasFields, true_and]
      cases (((payload.index "system").index "get_sysinfo").index "relay_state").asI64 <;> simp
    | _ => simp [parseQueryPayload, Tplink.parseQueryPayload, supported]
  | govee =>
    cases deviceType with
    -- Only a dimmable light is parsed, by `onOff` and `brightness`
    | dimmableLight =>
      show (∃ state, Govee.parseQueryPayload env.govee payload .dimmableLight = .ok state) ↔ _
      simp only [Govee.parseQueryPayload, supported, HasFields, true_and]
      cases (((payload.index "msg").index "data").index "onOff").asI64 with
      | none => simp
      | some onOff =>
        cases (((payload.index "msg").index "data").index "brightness").asU64 <;> simp
    | _ => simp [parseQueryPayload, Govee.parseQueryPayload, supported]

/-- What is read is a state of the type. -/
theorem parseQueryPayload_fits {payload : Json.Value} {deviceType : DeviceType}
    {state : DeviceState}
    (h : controller.parseQueryPayload env payload deviceType = .ok state) :
    state ≠ .unknown ∧ state.fits deviceType = true := by
  -- Neither parses an unknown state
  cases controller with
  | tplink =>
    refine ⟨?_, Tplink.parseQueryPayload_fits h⟩
    intro he
    subst he
    simp only [parseQueryPayload, Tplink.parseQueryPayload] at h
    split at h
    · split at h <;> cases h
    · cases h
  | govee =>
    refine ⟨?_, Govee.parseQueryPayload_fits h⟩
    intro he
    subst he
    simp only [parseQueryPayload, Govee.parseQueryPayload] at h
    split at h
    · split at h
      · cases h
      · split at h <;> cases h
    · cases h

/-- A datagram of a device that was found is rejected for its text, its type or its fields. -/
theorem rejects_iff_of_found {device : Device}
    (h : controller.findDevice devices addr = some device) :
    controller.Rejects env devices addr datagram ↔
      ∀ payload, controller.fromSlice env (controller.text datagram) = .ok payload →
        ¬∃ state, controller.parseQueryPayload env payload device.deviceType = .ok state := by
  have hsome : ¬∀ id device, devices.lookup id = some device →
      device.controller ≠ controller.config addr := by
    rw [← findDevice_eq_none_iff, h]
    exact Option.some_ne_none device
  simp only [Rejects, hsome, false_or, h, Option.some.injEq, exists_eq_left',
    parseQueryPayload_ok_iff]
  -- No JSON at all, or a payload that is refused
  cases controller.fromSlice env (controller.text datagram) with
  | error e => simp
  | ok payload =>
    simp only [reduceCtorEq, exists_false, false_or, Except.ok.injEq, exists_eq_left',
      forall_eq']
    exact not_and_or.symm

/-- A datagram is accepted, as what it reports, or rejected. -/
theorem decode_cases (hk : devices.Keyed) :
    (controller.Rejects env devices addr datagram ∧
      ∀ update, (controller.incoming addr datagram).decode env devices ≠ .ok (some update)) ∨
    (¬controller.Rejects env devices addr datagram ∧ ∃ update device,
      (controller.incoming addr datagram).decode env devices = .ok (some update) ∧
        controller.Accepts env devices addr datagram update device) := by
  rw [decode_eq]
  cases hfind : controller.findDevice devices addr with
  | none => exact .inl ⟨.inl (findDevice_eq_none_iff.mp hfind), by simp⟩
  | some device =>
    obtain ⟨hlookup, hconfig⟩ := findDevice_some hk hfind
    rw [rejects_iff_of_found hfind]
    cases hslice : controller.fromSlice env (controller.text datagram) with
    | error e => exact .inl ⟨by simp, by simp⟩
    | ok payload =>
      cases hparse : controller.parseQueryPayload env payload device.deviceType with
      | error e =>
        refine .inl ⟨?_, by simp [hparse]⟩
        intro payload' he hread
        obtain ⟨state, hstate⟩ := hread
        cases he
        rw [hparse] at hstate
        cases hstate
      | ok state =>
        -- The one way through all checks
        have haccepts : controller.Accepts env devices addr datagram ⟨device.id, true, state⟩
            device :=
          ⟨hfind, hlookup, hconfig, rfl, ⟨payload, hslice, hparse⟩, parseQueryPayload_fits hparse⟩
        refine .inr ⟨fun h => h payload rfl ⟨state, hparse⟩, _, device, ?_, haccepts⟩
        simp only [hparse]

/-- Nothing is both accepted and rejected. -/
theorem Accepts.not_rejects {update : UpdateNotification} {device : Device}
    (h : controller.Accepts env devices addr datagram update device) :
    ¬controller.Rejects env devices addr datagram := by
  rw [rejects_iff_of_found h.found]
  obtain ⟨payload, hslice, hparse⟩ := h.state
  exact fun hrejects => hrejects payload hslice ⟨_, hparse⟩

end UdpController

/-! ## Steps of a listener -/

namespace StartListening

/-- A step of `start_listening`. -/
inductive Step (env : IncomingEnv) (controller : UdpController) (app : AppState) :
    StartListening → ListenLabel → AppState → StartListening → Prop
  | receiveFails {e} :
      Step env controller app .receiving (.received (.error e)) app .receiving
  | receive {addr datagram} :
      Step env controller app .receiving (.received (.ok (addr, datagram))) app
        (.reading addr datagram)
  | reject {addr datagram}
      (h : ∀ update,
        (controller.incoming addr datagram).decode env app.devices ≠ .ok (some update)) :
      Step env controller app (.reading addr datagram) .poll app .receiving
  | accept {addr datagram update}
      (h : (controller.incoming addr datagram).decode env app.devices = .ok (some update)) :
      Step env controller app (.reading addr datagram) .poll app (.processing (.store update))
  | goOn {call app' call'} (h : call.Step app app' (.inl call')) :
      Step env controller app (.processing call) .poll app' (.processing call')
  | done {call app' result} (h : call.Step app app' (.inr result)) :
      Step env controller app (.processing call) .poll app' .receiving

variable {env : IncomingEnv} {controller : UdpController} {app app' : AppState}
  {listener listener' : StartListening} {l : ListenLabel}

theorem step_cases (h : listener.step env controller app l = some (app', listener')) :
    Step env controller app listener l app' listener' := by
  unfold step at h
  -- Split by the stage: receiving, reading a datagram, processing its notification
  split at h
  · cases h
    exact .receiveFails
  · cases h
    exact .receive
  · split at h
    · rename_i update hdecode
      cases h
      exact .accept hdecode
    · rename_i hdecode
      cases h
      exact .reject hdecode
  · split at h
    · rename_i hcall
      cases h
      exact .goOn (processUpdateNotification_cases hcall)
    · rename_i hcall
      cases h
      exact .done (processUpdateNotification_cases hcall)
  · cases h

/-- The call on the device table that a turn has become. -/
def toTableCall (source : Incoming) : StartListening → TableCall
  | .processing call => .notification source call
  | _ => .returned

/-- When the listener has the table, it starts the call of its datagram. -/
theorem reading_refines {addr : Ipv4Addr} {datagram : List UInt8}
    (h : (StartListening.reading addr datagram).step env controller app .poll =
      some (app', listener')) :
    app' = app ∧ TableCall.start env app (.incoming (controller.incoming addr datagram)) =
      listener'.toTableCall (controller.incoming addr datagram) := by
  cases step_cases h with
  | reject hdecode =>
    refine ⟨rfl, ?_⟩
    -- A datagram that is not accepted has its call done with at once
    simp only [TableCall.start]
    rfl
  | accept hdecode =>
    refine ⟨rfl, ?_⟩
    simp only [TableCall.start, hdecode]
    rfl

/-- From then on its steps are those of the call. -/
theorem processing_refines {t : Table} {call : NotificationCall} (source : Incoming)
    (h : (StartListening.processing call).step env controller t.app .poll =
      some (app', listener')) :
    ∃ t', t'.app = app' ∧ TableCall.step t (.notification source call) .process =
      some (t', listener'.toTableCall source) := by
  -- One call of `process_update_notification` on both sides
  cases hcall : processUpdateNotification t.app call with
  | mk app₁ r =>
    simp only [step, hcall] at h
    simp only [TableCall.step, hcall]
    cases r with
    | inl call' =>
      cases h
      exact ⟨_, rfl, rfl⟩
    | inr result =>
      cases h
      exact ⟨_, rfl, rfl⟩

/-- How many steps a turn still takes at most. -/
def left : StartListening → Nat
  | .receiving => 0
  | .reading .. => 3
  | .processing (.store _) => 2
  | .processing (.sendHook _) => 1

/-- A turn takes three steps at most. -/
theorem left_le (listener : StartListening) : listener.left ≤ 3 := by
  unfold left
  split <;> omega

/-- Within a turn the listener always has a step to make, towards its end. -/
theorem exists_poll (env : IncomingEnv) (controller : UdpController) (app : AppState)
    (h : listener ≠ .receiving) :
    ∃ app' listener', listener.step env controller app .poll = some (app', listener') ∧
      listener'.left < listener.left := by
  -- A datagram is read, stored and announced, in this order
  cases listener with
  | receiving => exact absurd rfl h
  | reading addr datagram =>
    simp only [step]
    split
    · exact ⟨app, _, rfl, Nat.lt_succ_self 2⟩
    · exact ⟨app, .receiving, rfl, Nat.succ_pos 2⟩
  -- A failure at any of these goes back to receiving
  | processing call =>
    simp only [step]
    cases hcall : processUpdateNotification app call with
    | mk app' r =>
      cases processUpdateNotification_cases hcall with
      | store hs => exact ⟨app', _, rfl, Nat.lt_succ_self 1⟩
      | failStore he => exact ⟨app, .receiving, rfl, Nat.succ_pos 1⟩
      | sendHook hs => exact ⟨app', .receiving, rfl, Nat.one_pos⟩
      | failHook he => exact ⟨app, .receiving, rfl, Nat.one_pos⟩

end StartListening

/-! ## Turns -/

/-- A datagram, and the server before and after each step that the listener made for it. -/
structure ListenTurn where
  addr : Ipv4Addr
  datagram : List UInt8
  polls : List (AppState × AppState)

/-- Where the datagram of a turn is from. -/
def ListenTurn.source (turn : ListenTurn) : Ipv4Addr × List UInt8 :=
  (turn.addr, turn.datagram)

/-- One entry of the table is set, only in its state, and nothing else of the server. -/
structure AppState.SetsState (app : AppState) (update : UpdateNotification) (app' : AppState) :
    Prop where
  entry : ∃ device, app.devices.lookup update.deviceId = some device ∧
    app'.devices.lookup update.deviceId = some { device with state := update.newState }
  others : ∀ id, id ≠ update.deviceId → app'.devices.lookup id = app.devices.lookup id
  hooks : app'.hooks = app.hooks
  controllers : app'.controllers = app.controllers

/-- A notification that is stored sets one state. -/
theorem AppState.SetsState.of_store {app app' : AppState} {update : UpdateNotification}
    (h : storeNotification update app = .ok app') : app.SetsState update app' := by
  obtain ⟨device, hd, -⟩ := storeNotification_ok h
  refine ⟨⟨device, hd, ?_⟩, fun id => storeNotification_lookup_ne h, storeNotification_hooks h,
    (storeNotification_sameConfig h).controllers⟩
  rw [storeNotification_lookup h, if_pos rfl, hd]
  rfl

/-- What a turn has done. If the datagram is rejected, by the table as it was read, then nothing.
Else it has set one entry, in its state only, to what the datagram reports, and then sent one
hook of that. -/
def ListenTurn.Ingested (env : IncomingEnv) (controller : UdpController) (turn : ListenTurn) :
    Prop :=
  ∃ read,
    (controller.Rejects env read.devices turn.addr turn.datagram ∧ turn.polls = [(read, read)]) ∨
    (¬controller.Rejects env read.devices turn.addr turn.datagram ∧
      ∃ update device store store' send send',
        controller.Accepts env read.devices turn.addr turn.datagram update device ∧
        turn.polls = [(read, read), (store, store'), (send, send')] ∧
        (store.devices.lookup update.deviceId).map Device.config = some device.config ∧
        store.SetsState update store' ∧ send.Sends send' [.deviceStateUpdate update])

/-- A listener on the server, with the turn that it is in and those that it has finished. -/
structure ListenRun where
  app : AppState
  listener : StartListening
  turn : Option ListenTurn
  finished : List ListenTurn

/-- A task of the server, or a step of the listener. -/
inductive ListenAct where
  | task (task : Task)
  | listener (l : ListenLabel)

/-- The datagram that an action receives. -/
def ListenAct.datagram? : ListenAct → Option (Ipv4Addr × List UInt8)
  | .listener (.received (.ok source)) => some source
  | _ => none

namespace ListenRun

/-- A listener that has received nothing. -/
def start (app : AppState) : ListenRun :=
  ⟨app, .receiving, none, []⟩

/-- A step of the listener is noted in its turn, which is finished when it waits for the next
datagram. -/
def after (st : ListenRun) (app : AppState) (listener : StartListening) : ListenLabel → ListenRun
  | .received (.ok (addr, datagram)) => ⟨app, listener, some ⟨addr, datagram, []⟩, st.finished⟩
  | .received (.error _) => ⟨app, listener, st.turn, st.finished⟩
  | .poll =>
    let turn := st.turn.map fun turn => { turn with polls := turn.polls ++ [(st.app, app)] }
    if listener = .receiving then ⟨app, listener, none, st.finished ++ turn.toList⟩
    else ⟨app, listener, turn, st.finished⟩

/-- One action of the run of a listener. -/
def exec (env : IncomingEnv) (controller : UdpController) (st : ListenRun) :
    ListenAct → Option ListenRun
  | .task task => (task.run st.app).map fun app => { st with app }
  | .listener l => (st.listener.step env controller st.app l).map fun p => st.after p.1 p.2 l

/-- What the turn of a listener has done, by where the listener is. -/
def Current (env : IncomingEnv) (controller : UdpController) (app : AppState)
    (turn : Option ListenTurn) : StartListening → Prop
  | .receiving => turn = none
  | .reading addr datagram => turn = some ⟨addr, datagram, []⟩
  | .processing (.store update) => ∃ addr datagram read device,
      turn = some ⟨addr, datagram, [(read, read)]⟩ ∧
        controller.Accepts env read.devices addr datagram update device ∧ read.SameConfig app
  | .processing (.sendHook update) => ∃ addr datagram read device store store',
      turn = some ⟨addr, datagram, [(read, read), (store, store')]⟩ ∧
        controller.Accepts env read.devices addr datagram update device ∧
        (store.devices.lookup update.deviceId).map Device.config = some device.config ∧
        store.SetsState update store'

/-- The invariant of a run from `app`. -/
structure Inv (env : IncomingEnv) (controller : UdpController) (app : AppState)
    (st : ListenRun) : Prop where
  same : app.SameConfig st.app
  finished : ∀ turn ∈ st.finished, turn.Ingested env controller
  current : Current env controller st.app st.turn st.listener

variable {env : IncomingEnv} {controller : UdpController} {app : AppState} {st st' : ListenRun}
  {act : ListenAct} {l : ListenLabel}

/-- No turn has been made at the start. -/
theorem inv_start (env : IncomingEnv) (controller : UdpController) (app : AppState) :
    Inv env controller app (start app) :=
  ⟨.refl app, fun _ hmem => absurd hmem List.not_mem_nil, rfl⟩

/-- Other tasks keep what a turn relies on: that its device is still configured. -/
theorem Current.congr {app' : AppState} {turn : Option ListenTurn} {listener : StartListening}
    (h : Current env controller app turn listener) (hsame : app.SameConfig app') :
    Current env controller app' turn listener := by
  cases listener with
  | receiving => exact h
  | reading addr datagram => exact h
  | processing call =>
    cases call with
    | store update =>
      obtain ⟨addr, datagram, read, device, hturn, haccepts, hread⟩ := h
      exact ⟨addr, datagram, read, device, hturn, haccepts, hread.trans hsame⟩
    | sendHook update => exact h

/-- One finished turn more is ingested as well. -/
theorem forall_finished {finished : List ListenTurn} {turn : ListenTurn}
    (h : ∀ turn ∈ finished, turn.Ingested env controller) (hturn : turn.Ingested env controller) :
    ∀ turn' ∈ finished ++ [turn], turn'.Ingested env controller := by
  intro turn' hmem
  cases List.mem_append.mp hmem with
  | inl hmem => exact h turn' hmem
  | inr hmem =>
    obtain rfl : turn' = turn := List.mem_singleton.mp hmem
    exact hturn

/-- A step of the listener keeps its turns ingested. -/
theorem Inv.step (hk : app.devices.Keyed) (hr : 0 < app.hooks.sender.receivers)
    {app' : AppState} {listener' : StartListening} (hst : Inv env controller app st)
    (h : st.listener.step env controller st.app l = some (app', listener')) :
    Inv env controller app (st.after app' listener' l) := by
  obtain ⟨stApp, listener, turn, finished⟩ := st
  obtain ⟨hsame, hfinished, hcurrent⟩ := hst
  have hkeyed : stApp.devices.Keyed := AppState.SameConfig.keyed hsame hk
  cases StartListening.step_cases h with
  | receiveFails => exact ⟨hsame, hfinished, hcurrent⟩
  | receive => exact ⟨hsame, hfinished, rfl⟩
  | @reject addr datagram hdecode =>
    -- The turn ends with the server as it was read
    obtain rfl : turn = some ⟨addr, datagram, []⟩ := hcurrent
    refine ⟨hsame, forall_finished hfinished ⟨stApp, .inl ⟨?_, rfl⟩⟩, rfl⟩
    cases UdpController.decode_cases hkeyed with
    | inl h => exact h.1
    | inr h =>
      obtain ⟨-, update, device, hok, -⟩ := h
      exact absurd hok (hdecode update)
  | @accept addr datagram update hdecode =>
    obtain rfl : turn = some ⟨addr, datagram, []⟩ := hcurrent
    cases UdpController.decode_cases hkeyed with
    | inl h => exact absurd hdecode (h.2 update)
    | inr h =>
      obtain ⟨-, update', device, hok, haccepts⟩ := h
      rw [hdecode] at hok
      cases hok
      exact ⟨hsame, hfinished, addr, datagram, stApp, device, rfl, haccepts, .refl stApp⟩
  | @goOn call _ call' hcall =>
    cases hcall with
    | @store update _ hstore =>
      -- The entry is that of the device that was found, whoever has stored a state of it since
      obtain ⟨addr, datagram, read, device, rfl, haccepts, hread⟩ := hcurrent
      refine ⟨hsame.trans (storeNotification_sameConfig hstore), hfinished, addr, datagram, read,
        device, stApp, app', rfl, haccepts, ?_, .of_store hstore⟩
      rw [hread.devices, haccepts.lookup]
      rfl
  | @done call _ result hcall =>
    cases hcall with
    | @failStore update e he =>
      -- The device was configured when the datagram was read, and still is
      obtain ⟨addr, datagram, read, device, rfl, haccepts, hread⟩ := hcurrent
      obtain ⟨device', hd', -⟩ := hread.lookup haccepts.lookup
      rw [lookup_of_storeNotification_error he] at hd'
      cases hd'
    | failHook he =>
      -- The server keeps a receiver of its own
      have hpos := hsame.receivers.mpr hr
      have hzero := receivers_of_sendNotificationHook_error he
      omega
    | @sendHook update _ hok =>
      obtain ⟨addr, datagram, read, device, store, store', rfl, haccepts, hconfig, hset⟩ := hcurrent
      have hsend := sends_of_sendNotificationHook hok
      refine ⟨hsame.trans hsend.sameConfig, forall_finished hfinished ⟨read, .inr ?_⟩, rfl⟩
      exact ⟨haccepts.not_rejects, update, device, store, store', stApp, app', haccepts, rfl,
        hconfig, hset, hsend⟩

/-- One action keeps its turns ingested. -/
theorem Inv.exec (hk : app.devices.Keyed) (hr : 0 < app.hooks.sender.receivers)
    (hst : Inv env controller app st) (h : ListenRun.exec env controller st act = some st') :
    Inv env controller app st' := by
  cases act with
  | task task =>
    obtain ⟨app', htask, rfl⟩ := Option.map_eq_some_iff.mp h
    have hsame := Task.run_sameConfig htask
    exact ⟨hst.same.trans hsame, hst.finished, hst.current.congr hsame⟩
  | listener l =>
    obtain ⟨⟨app', listener'⟩, hstep, rfl⟩ := Option.map_eq_some_iff.mp h
    exact hst.step hk hr hstep

/-- The datagrams of a run so far, finished or not. -/
def sources (st : ListenRun) : List (Ipv4Addr × List UInt8) :=
  (st.finished ++ st.turn.toList).map ListenTurn.source

/-- A datagram is added to those of a run when it is received, and none is lost. -/
theorem sources_exec (hst : Inv env controller app st)
    (h : ListenRun.exec env controller st act = some st') :
    st'.sources = st.sources ++ act.datagram?.toList := by
  -- Only the receipt of a datagram adds to the sources
  cases act with
  | task task =>
    obtain ⟨app', -, rfl⟩ := Option.map_eq_some_iff.mp h
    exact (List.append_nil _).symm
  | listener l =>
    obtain ⟨⟨app', listener'⟩, hstep, rfl⟩ := Option.map_eq_some_iff.mp h
    obtain ⟨stApp, listener, turn, finished⟩ := st
    have hcurrent := hst.current
    cases StartListening.step_cases hstep with
    | receiveFails => exact (List.append_nil _).symm
    | receive =>
      -- Before it no turn is under way
      obtain rfl : turn = none := hcurrent
      simp [sources, after, ListenAct.datagram?, ListenTurn.source]
    | _ => cases turn <;> simp [sources, after, ListenAct.datagram?, ListenTurn.source]

/-- The turns of a run have the datagrams that were received, in order. -/
theorem sources_run {acts : List ListenAct} (hk : app.devices.Keyed)
    (hr : 0 < app.hooks.sender.receivers) (hst : Inv env controller app st)
    (hrun : Lts.run (ListenRun.exec env controller) st acts = some st') :
    st'.sources = st.sources ++ acts.filterMap ListenAct.datagram? := by
  induction acts generalizing st with
  | nil =>
    cases hrun
    exact (List.append_nil _).symm
  | cons act acts ih =>
    obtain ⟨m, hexec, hrun⟩ := Lts.run_cons _ hrun
    -- The invariant holds before each step, so that none is lost there
    rw [ih (hst.exec hk hr hexec) hrun, sources_exec hst hexec, List.append_assoc]
    cases hact : act.datagram? <;> simp [hact]

/-- By its own steps, a listener is at its socket again before long. -/
theorem exists_receiving (env : IncomingEnv) (controller : UdpController) (st : ListenRun) :
    ∃ n st', n ≤ st.listener.left ∧ st'.listener = .receiving ∧
      Lts.run (ListenRun.exec env controller) st (List.replicate n (.listener .poll)) =
        some st' := by
  -- On the steps that the turn still takes
  induction hleft : st.listener.left using Nat.strong_induction_on generalizing st with
  | _ k ih =>
    by_cases hreceiving : st.listener = .receiving
    · exact ⟨0, st, Nat.zero_le _, hreceiving, rfl⟩
    · obtain ⟨app', listener', hstep, hlt⟩ :=
        StartListening.exists_poll env controller st.app hreceiving
      have hexec : ListenRun.exec env controller st (.listener .poll) =
          some (st.after app' listener' .poll) := by
        simp only [ListenRun.exec, hstep, Option.map_some]
      have hlistener : (st.after app' listener' .poll).listener = listener' := by
        simp only [after]
        split <;> rfl
      obtain ⟨n, st', hn, hst', hrun⟩ :=
        ih _ (hleft ▸ hlt) (st.after app' listener' .poll) (by rw [hlistener])
      refine ⟨n + 1, st', by omega, hst', ?_⟩
      rw [List.replicate_succ, Lts.run_cons_of _ hexec]
      exact hrun

/-- The run of one turn that accepts its datagram, with no other task in between. -/
theorem run_accepted {addr : Ipv4Addr} {datagram : List UInt8} {update : UpdateNotification}
    {app' app'' : AppState}
    (hdecode : (controller.incoming addr datagram).decode env app.devices = .ok (some update))
    (hstore : storeNotification update app = .ok app')
    (hsend : sendNotificationHook update app' = .ok app'') :
    Lts.run (ListenRun.exec env controller) (.start app)
        [.listener (.received (.ok (addr, datagram))), .listener .poll, .listener .poll,
          .listener .poll] =
      some ⟨app'', .receiving, none,
        [⟨addr, datagram, [(app, app), (app, app'), (app', app'')]⟩]⟩ := by
  simp [Lts.run, ListenRun.exec, StartListening.step, processUpdateNotification, start, after,
    hdecode, hstore, hsend]

end ListenRun

/-- In every run of a listener among other tasks, each finished turn has left the server alone,
if its datagram is rejected, or else has set the state of one entry to what the first 1500 bytes
of the datagram report and sent one hook of it. From wherever it is the listener comes back to its
socket by at most three steps, with every datagram so far finished in order, and takes the next. -/
theorem listener_turns (env : IncomingEnv) (controller : UdpController) (app : AppState)
    (hk : app.devices.Keyed) (hr : 0 < app.hooks.sender.receivers) (acts : List ListenAct)
    (st : ListenRun) (hrun : Lts.run (ListenRun.exec env controller) (.start app) acts = some st) :
    (∀ turn ∈ st.finished, turn.Ingested env controller) ∧
      ∃ n st', n ≤ 3 ∧
        Lts.run (ListenRun.exec env controller) st (List.replicate n (.listener .poll)) = some st' ∧
        st'.listener = .receiving ∧
        st'.finished.map ListenTurn.source = acts.filterMap ListenAct.datagram? ∧
        (∀ turn ∈ st'.finished, turn.Ingested env controller) ∧
        ∀ result, (ListenRun.exec env controller st' (.listener (.received result))).isSome := by
  have hinv : ∀ {s s' acts}, ListenRun.Inv env controller app s →
      Lts.run (ListenRun.exec env controller) s acts = some s' →
        ListenRun.Inv env controller app s' := by
    intro s s' acts hs hrun
    exact Lts.run_invariant _ (fun _ _ _ hs h => hs.exec hk hr h) hrun hs
  have hstart := ListenRun.inv_start env controller app
  have hst := hinv hstart hrun
  obtain ⟨n, st', hn, hlistener, hrun'⟩ := ListenRun.exists_receiving env controller st
  have hst' := hinv hst hrun'
  refine ⟨hst.finished, n, st', Nat.le_trans hn (StartListening.left_le _), hrun', hlistener, ?_,
    hst'.finished, ?_⟩
  · have hsources := ListenRun.sources_run hk hr hst hrun'
    rw [ListenRun.sources_run hk hr hstart hrun] at hsources
    -- At the socket no turn is open, and the polls have received nothing
    have hturn : st'.turn = none := by
      have hcurrent := hst'.current
      rw [hlistener] at hcurrent
      exact hcurrent
    have hpolls : (List.replicate n (ListenAct.listener .poll)).filterMap
        ListenAct.datagram? = [] := by
      simp [List.filterMap_replicate, ListenAct.datagram?]
    rw [hpolls, List.append_nil] at hsources
    simpa [ListenRun.sources, hturn, ListenRun.start] using hsources
  · intro result
    simp only [ListenRun.exec, hlistener]
    cases result with
    | error e => rfl
    | ok source => rfl

/-! ## A lamp that reports itself again -/

namespace ListenRun.Demo

/-- Where the lamp answers. -/
def lampAddr : Ipv4Addr := 0x0A000002

/-- The text of a status: on, at half of the brightness. -/
def status : List UInt8 :=
  "\x7b\"msg\":\x7b\"data\":\x7b\"onOff\":1,\"brightness\":50\x7d\x7d\x7d".toUTF8.data.toList

/-- The status of a lamp that is half bright. -/
def payload : Json.Value :=
  .single "msg" (.single "data" (.object [("onOff", .ofNat 1), ("brightness", .ofNat 50)]))

/-- The status with spaces anywhere in it is JSON. -/
def fromSlice (bytes : List UInt8) : Except Error Json.Value :=
  if bytes.filter (fun b => b ≠ 32) = status then .ok payload
  else .error ["expected value at line 1 column 1"]

/-- The JSON of both controllers. -/
def env : IncomingEnv :=
  { TableCall.Demo.env with
    tplink := fromSlice
    govee := { TableCall.Demo.env.govee with fromSlice } }

/-- On, at half of the brightness. -/
def half : DeviceState :=
  .dimmableLight ⟨.on, ⟨Govee.BRIGHTNESS_PROPS, 50⟩⟩

/-- The lamp as it was stored last. -/
def lamp : Device :=
  ⟨⟨"lamp"⟩, .dimmableLight, half, .govee ⟨lampAddr⟩⟩

def app : AppState :=
  .new (AList.insert lamp.id lamp ∅) ⟨false, false, false, true⟩

/-- What the status reports. -/
def reported : UpdateNotification := ⟨lamp.id, true, half⟩

/-- The status with spaces behind it, and then something that is no JSON. -/
def padded (spaces : Nat) : List UInt8 :=
  status ++ List.replicate spaces 32 ++ [120]

/-- The table of the lamp is keyed by its id. -/
theorem keyed : app.devices.Keyed := by
  intro id device hd
  by_cases hid : id = lamp.id
  · subst hid
    cases hd
    rfl
  · have hnone : app.devices.lookup id = none := AList.lookup_insert_ne hid
    rw [hd] at hnone
    cases hnone

/-- With the `x` behind it the whole datagram is no JSON. -/
theorem fromSlice_padded (n : Nat) : ∃ e, env.govee.fromSlice (padded n) = .error e := by
  refine ⟨_, if_neg fun h => ?_⟩
  have hmem : (120 : UInt8) ∈ status := by
    rw [← h, List.mem_filter]
    exact ⟨List.mem_append_right _ (List.mem_singleton_self 120), rfl⟩
  exact absurd hmem (by decide)

/-- With enough spaces, the buffer holds the status and spaces. -/
theorem fromSlice_take {n : Nat} (h : 1500 ≤ n) :
    fromSlice ((padded n).take 1500) = .ok payload := by
  refine if_pos ?_
  have hlength : status.length ≤ 1500 := by decide
  -- The datagram is cut, but only in the spaces that pad it
  have htake : (padded n).take 1500 = status ++ List.replicate (1500 - status.length) 32 := by
    rw [padded, List.append_assoc, List.take_append, List.take_of_length_le hlength,
      List.take_append_of_le_length (by rw [List.length_replicate]; omega), List.take_replicate]
    congr 2
    omega
  -- Which the decoder drops
  have hspaces : (List.replicate (1500 - status.length) (32 : UInt8)).filter
      (fun b => b ≠ 32) = [] := by
    rw [List.filter_replicate]
    rfl
  rw [htake, List.filter_append, hspaces, List.append_nil]
  rfl

/-- The padded status is decoded as the status alone. -/
theorem decode_padded {n : Nat} (h : 1500 ≤ n) :
    (UdpController.govee.incoming lampAddr (padded n)).decode env app.devices =
      .ok (some reported) := by
  have hslice : UdpController.govee.fromSlice env (UdpController.govee.text (padded n)) =
      .ok payload := fromSlice_take h
  rw [UdpController.decode_eq, hslice]
  rfl

/-- A datagram from an address that no lamp has, then the status of the lamp. -/
def acts : List ListenAct :=
  [.listener (.received (.ok (7, status))), .listener .poll,
    .listener (.received (.ok (lampAddr, status))), .listener .poll, .listener .poll,
    .listener .poll]

end ListenRun.Demo

open ListenRun in
/-- Both datagrams are finished with, and the second is ingested. -/
theorem listener_turns_lamp :
    ∃ st, Lts.run (ListenRun.exec Demo.env .govee) (.start Demo.app) Demo.acts = some st ∧
      st.finished.length = 2 ∧ ∀ turn ∈ st.finished, turn.Ingested Demo.env .govee := by
  have hrun : ∃ st, Lts.run (ListenRun.exec Demo.env .govee) (.start Demo.app) Demo.acts = some st ∧
      st.finished.length = 2 := ⟨_, rfl, rfl⟩
  obtain ⟨st, hst, hlength⟩ := hrun
  exact ⟨st, hst, hlength,
    (listener_turns Demo.env .govee Demo.app Demo.keyed (by decide) _ st hst).1⟩

open ListenRun in
/-- A datagram that reports what is stored has its hook sent, and no entry changes. One that is no
JSON as a whole is stored, if the part of it that fits the buffer is JSON. -/
theorem listener_turns_exceptions :
    (∃ st, Lts.run (ListenRun.exec Demo.env .govee) (.start Demo.app)
        [.listener (.received (.ok (Demo.lampAddr, Demo.status))), .listener .poll,
          .listener .poll, .listener .poll] = some st ∧
      st.app.hooks.sender.sent = [.deviceStateUpdate Demo.reported] ∧
        st.app.devices = Demo.app.devices) ∧
    ∃ datagram, (∃ e, Demo.env.govee.fromSlice datagram = .error e) ∧
      ∃ st, Lts.run (ListenRun.exec Demo.env .govee) (.start Demo.app)
          [.listener (.received (.ok (Demo.lampAddr, datagram))), .listener .poll,
            .listener .poll, .listener .poll] = some st ∧
        st.app.hooks.sender.sent = [.deviceStateUpdate Demo.reported] :=
  ⟨⟨_, rfl, rfl, rfl⟩, Demo.padded 1500, Demo.fromSlice_padded 1500, _,
    ListenRun.run_accepted (Demo.decode_padded (Nat.le_refl 1500)) rfl rfl, rfl⟩

end Devicectrl
