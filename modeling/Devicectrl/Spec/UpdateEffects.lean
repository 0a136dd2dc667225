import Devicectrl.Native.Emissions
import Devicectrl.Spec.RequestCalls

/-!
# What an update request does to the outside

The hook that a call of `process_update_request` sends and the commands that it emits. The hook
comes before the checks of the controller, and the commands after all of them but one: the
TP-Link controller looks at the type of its device when the device has answered.

## Key results

- `DeviceCall.step_emits`: a controller emits its commands in order, as long as nothing fails
- `failed_update_effects`: what a request has done when it is refused
-/

namespace Devicectrl

/-! ## The commands of a controller -/

namespace Tplink.SendUpdate

/-- The datagram of `send_command`. -/
def commandData (env : ControllerEnv) (command : Json.Value) : List (List UInt8) :=
  match env.toVec command with
  | .error _ => []
  | .ok data => [encrypt data]

/-- What follows the answer of the device: a query, if its type is one that the answer can be
checked for. -/
def afterAnswer (env : ControllerEnv) (device : Device) : List (List UInt8) :=
  if device.deviceType = .switch then commandData env buildQueryPayload else []

/-- What a call has yet to send, unless it fails. -/
def left (env : ControllerEnv) (device : Device) : SendUpdate → List (List UInt8)
  | .binding payload =>
    match env.toVec payload with
    | .error _ => []
    | .ok data => encrypt data :: afterAnswer env device
  | .sending data => data :: afterAnswer env device
  | .receiving => afterAnswer env device
  | .querying data => [data]

/-- A step of `send_update` or `send_query`. -/
inductive Step (env : ControllerEnv) (device : Device) :
    SendUpdate → DeviceLabel → SendUpdate ⊕ Except Error Unit → Prop
  | bindFails {payload e} : Step env device (.binding payload) (.bound (.error e)) (.inr (.error e))
  | bind {payload} :
      Step env device (.binding payload) (.bound (.ok ())) (sendCommand env payload .sending)
  | sendFails {data e} : Step env device (.sending data) (.sent (.error e)) (.inr (.error e))
  | send {data} : Step env device (.sending data) (.sent (.ok ())) (.inl .receiving)
  | receiveFails {e} : Step env device .receiving (.received (.error e)) (.inr (.error e))
  | receive {addr datagram} : Step env device .receiving (.received (.ok (addr, datagram)))
      (confirm env device datagram)
  | timeOut : Step env device .receiving .timedOut
      (.inr (.error ["timed out waiting for response", "deadline has elapsed"]))
  | query {data result} : Step env device (.querying data) (.sent result) (.inr result)

theorem step_cases {env : ControllerEnv} {device : Device} {call : SendUpdate} {l : DeviceLabel}
    {r : SendUpdate ⊕ Except Error Unit} (h : call.step env device l = some r) :
    Step env device call l r := by
  -- Each stage has one arm, with its label
  unfold step at h
  split at h
  · split at h
    · cases h; exact .bindFails
    · cases h; exact .bind
  · split at h
    · cases h; exact .sendFails
    · cases h; exact .send
  · split at h
    · cases h; exact .receiveFails
    · cases h; exact .receive
  · cases h; exact .timeOut
  · cases h; exact .query
  · cases h

end Tplink.SendUpdate

namespace Govee.SendUpdate

/-- The datagram of `send_command`. -/
def commandData (env : ControllerEnv) (command : Json.Value) : List (List UInt8) :=
  match env.toVec command with
  | .error _ => []
  | .ok data => [data]

/-- What a call has yet to send, unless it fails. -/
def left (env : ControllerEnv) : SendUpdate → List (List UInt8)
  | .sending data => data :: commandData env buildQueryPayload
  | .sleeping => commandData env buildQueryPayload
  | .querying data => [data]

/-- A step of `send_update` or `send_query`. -/
inductive Step (env : ControllerEnv) :
    SendUpdate → DeviceLabel → SendUpdate ⊕ Except Error Unit → Prop
  | sendFails {data e} : Step env (.sending data) (.sent (.error e)) (.inr (.error e))
  | send {data} : Step env (.sending data) (.sent (.ok ())) (.inl .sleeping)
  | sleep : Step env .sleeping .slept (sendQuery env)
  | query {data result} : Step env (.querying data) (.sent result) (.inr result)

theorem step_cases {env : ControllerEnv} {call : SendUpdate} {l : DeviceLabel}
    {r : SendUpdate ⊕ Except Error Unit} (h : call.step env l = some r) : Step env call l r := by
  unfold step at h
  split at h
  · split at h
    · cases h; exact .sendFails
    · cases h; exact .send
  · cases h; exact .sleep
  · cases h; exact .query
  · cases h

end Govee.SendUpdate

namespace DeviceCall

/-- What a call has yet to emit, unless it fails. -/
def left (env : ControllerEnv) (config : ControllerConfig) : DeviceCall → List Emission
  | .broadcast message => ((DeviceCall.broadcast message).emission config).toList
  | .tplink device call => (call.left env device).flatMap fun data =>
      (DeviceCall.emission config (.tplink device (.sending data))).toList
  | .govee call => (call.left env).flatMap fun data =>
      (DeviceCall.emission config (.govee (.sending data))).toList

/-- A step that emits `emitted` leaves the rest to emit; one that fails emits nothing. -/
def Accounts (env : ControllerEnv) (config : ControllerConfig) (call : DeviceCall)
    (emitted : List Emission) : DeviceCall ⊕ Except Error Unit → Prop
  | .inl call' => emitted ++ call'.left env config = call.left env config
  | .inr (.ok ()) => emitted = call.left env config
  | .inr (.error _) => emitted = []

variable {env : ControllerEnv} {config : ControllerConfig} {device : Device}

/-- The query of a TP-Link device is accounted for. -/
theorem accounts_tplink_query {call : Tplink.SendUpdate}
    (h : call.left env device = Tplink.SendUpdate.commandData env Tplink.buildQueryPayload) :
    Accounts env config (.tplink device call) []
      ((Tplink.SendUpdate.sendQuery env).map (.tplink device) id) := by
  rw [Tplink.SendUpdate.sendQuery, Tplink.SendUpdate.sendCommand]
  cases hdata : env.toVec Tplink.buildQueryPayload with
  | error e => rfl
  | ok data =>
    rw [Tplink.SendUpdate.commandData, hdata] at h
    -- Nothing is emitted by encoding the query: its datagram is what is left
    show [] ++ _ = _
    rw [left, left, h]
    rfl

/-- A success is read off the answer of a switch only. -/
theorem isSwitch_of_success {setRes : Json.Value} {deviceType : DeviceType} {success : Bool}
    (h : Tplink.isResponseSuccess setRes deviceType = .ok success) : deviceType = .switch := by
  cases deviceType with
  | switch => rfl
  | dimmableLight => cases h
  | colorLight => cases h
  | other name => cases h

/-- The answer of a TP-Link device is followed by a query only if it is a success. -/
theorem accounts_confirm (datagram : List UInt8) :
    Accounts env config (.tplink device .receiving) []
      ((Tplink.SendUpdate.confirm env device datagram).map (.tplink device) id) := by
  rw [Tplink.SendUpdate.confirm]
  split
  · rfl
  · rename_i setRes _
    split
    · rfl
    · rfl
    · rename_i hsuccess
      -- Only after a success is the device queried, and then it is a switch
      apply accounts_tplink_query
      rw [Tplink.SendUpdate.left, Tplink.SendUpdate.afterAnswer,
        if_pos (isSwitch_of_success hsuccess)]

/-- The query of a Govee device is accounted for. -/
theorem accounts_govee_query {call : Govee.SendUpdate}
    (h : call.left env = Govee.SendUpdate.commandData env Govee.buildQueryPayload) :
    Accounts env config (.govee call) [] ((Govee.SendUpdate.sendQuery env).map .govee id) := by
  rw [Govee.SendUpdate.sendQuery, Govee.SendUpdate.sendCommand]
  cases hdata : env.toVec Govee.buildQueryPayload with
  | error e => rfl
  | ok data =>
    rw [Govee.SendUpdate.commandData, hdata] at h
    -- As for TP-Link, without the encryption
    show [] ++ _ = _
    rw [left, left, h]
    rfl

/-- A controller emits its commands in order, as long as nothing fails. -/
theorem step_emits {call : DeviceCall} {l : DeviceLabel} {r : DeviceCall ⊕ Except Error Unit}
    (h : call.step env l = some r) : Accounts env config call (call.emits config l) r := by
  cases call with
  | broadcast message =>
    cases l with
    | broadcast result =>
      cases h
      cases result with
      | error e => rfl
      | ok _ => rfl
    | bound result => cases h
    | sent result => cases h
    | received result => cases h
    | timedOut => cases h
    | slept => cases h
  | tplink device call =>
    obtain ⟨r, hr, rfl⟩ := Option.map_eq_some_iff.mp h
    cases Tplink.SendUpdate.step_cases hr with
    | bindFails => rfl
    | @bind payload =>
      -- The socket is bound: the payload is encoded, and its datagram sent next
      rw [Tplink.SendUpdate.sendCommand]
      cases hdata : env.toVec payload with
      | error e => rfl
      | ok data =>
        show [] ++ _ = _
        simp only [left, Tplink.SendUpdate.left, hdata, List.nil_append]
    | sendFails => rfl
    | send => rfl
    | receiveFails => rfl
    | receive => exact accounts_confirm _
    | timeOut => rfl
    -- The query is the last datagram, and its result that of the call
    | @query data result =>
      cases result with
      | error e => rfl
      | ok _ => exact (List.append_nil _).symm
  | govee call =>
    obtain ⟨r, hr, rfl⟩ := Option.map_eq_some_iff.mp h
    cases Govee.SendUpdate.step_cases hr with
    | sendFails => rfl
    | send => rfl
    | sleep => exact accounts_govee_query rfl
    | @query data result =>
      cases result with
      | error e => rfl
      | ok _ => exact (List.append_nil _).symm

/-! ### Without failures -/

/-- No socket fails, and the device answers that it succeeded. -/
def Unfailing (env : ControllerEnv) : DeviceLabel → Prop
  | .broadcast result => result = .ok ()
  | .bound result => result = .ok ()
  | .sent result => result = .ok ()
  | .received result => ∃ addr datagram setRes, result = .ok (addr, datagram) ∧
      env.fromSlice (Tplink.decrypt (datagram.take 1500)) = .ok setRes ∧
        Tplink.isResponseSuccess setRes .switch = .ok true
  | .timedOut => False
  | .slept => True

/-- The answer of the device can be checked. -/
def Checkable : DeviceCall → Prop
  | .tplink device _ => device.deviceType = .switch
  | _ => True

/-- A call that goes on, or returns `Ok`. -/
def Succeeds : DeviceCall ⊕ Except Error Unit → Prop
  | .inl call => call.Checkable
  | .inr result => result = .ok ()

/-- A command that can be encoded is sent by the TP-Link controller. -/
theorem succeeds_tplink_command (hvec : ∀ v, ∃ data, env.toVec v = .ok data)
    (hdevice : device.deviceType = .switch) (command : Json.Value)
    (next : List UInt8 → Tplink.SendUpdate) :
    Succeeds ((Tplink.SendUpdate.sendCommand env command next).map (.tplink device) id) := by
  obtain ⟨data, hdata⟩ := hvec command
  rw [Tplink.SendUpdate.sendCommand, hdata]
  exact hdevice

/-- A command that can be encoded is sent by the Govee controller. -/
theorem succeeds_govee_command (hvec : ∀ v, ∃ data, env.toVec v = .ok data)
    (command : Json.Value) (next : List UInt8 → Govee.SendUpdate) :
    Succeeds ((Govee.SendUpdate.sendCommand env command next).map .govee id) := by
  obtain ⟨data, hdata⟩ := hvec command
  rw [Govee.SendUpdate.sendCommand, hdata]
  trivial

/-- Once a controller awaits, only a failure outside makes it fail. -/
theorem step_succeeds (hvec : ∀ v, ∃ data, env.toVec v = .ok data) {call : DeviceCall}
    {l : DeviceLabel} {r : DeviceCall ⊕ Except Error Unit} (hcall : call.Checkable)
    (hl : Unfailing env l) (h : call.step env l = some r) : Succeeds r := by
  cases call with
  | broadcast message =>
    cases l with
    | broadcast result =>
      cases h
      exact hl
    | bound result => cases h
    | sent result => cases h
    | received result => cases h
    | timedOut => cases h
    | slept => cases h
  | tplink device call =>
    obtain ⟨r, hr, rfl⟩ := Option.map_eq_some_iff.mp h
    cases Tplink.SendUpdate.step_cases hr with
    | bindFails => cases hl
    | bind => exact succeeds_tplink_command hvec hcall _ _
    | sendFails => cases hl
    | send => exact hcall
    | receiveFails =>
      obtain ⟨addr, datagram, setRes, he, -⟩ := hl
      cases he
    | receive =>
      -- The answer of the switch says that it was set, so that the query follows
      obtain ⟨addr, datagram, setRes, he, hslice, hsuccess⟩ := hl
      cases he
      have hdevice : device.deviceType = .switch := hcall
      rw [Tplink.SendUpdate.confirm, hslice, hdevice]
      simp only [hsuccess]
      exact succeeds_tplink_command hvec hdevice _ _
    | timeOut => exact hl.elim
    | query => exact hl
  | govee call =>
    obtain ⟨r, hr, rfl⟩ := Option.map_eq_some_iff.mp h
    cases Govee.SendUpdate.step_cases hr with
    | sendFails => cases hl
    | send => trivial
    | sleep => exact succeeds_govee_command hvec _ _
    | query => exact hl

end DeviceCall

/-! ## Update requests -/

namespace UpdateCall

/-- A step of `process_update_request`. -/
inductive Step (env : ControllerEnv) (app : AppState) :
    UpdateCall → UpdateLabel → AppState → UpdateCall → Prop
  | refuse {request e} (h : beginUpdateRequest request app = .error e) :
      Step env app (.begin request) .poll app (.returned (.error e))
  | send {request device app'} (h : beginUpdateRequest request app = .ok (device, app')) :
      Step env app (.begin request) .poll app'
        (after device request (DeviceCall.dispatchUpdate env app' device request))
  | device {device request call l r} (h : call.step env l = some r) :
      Step env app (.dispatching device request call) (.device l) app (after device request r)

variable {env : ControllerEnv} {app app' : AppState} {call call' : UpdateCall} {l : UpdateLabel}

theorem step_cases (h : call.step env app l = some (app', call')) :
    Step env app call l app' call' := by
  unfold step at h
  -- The request is refused or sent; a device that is called takes its step
  split at h
  · split at h
    · rename_i e he
      cases h
      exact .refuse he
    · rename_i device app₁ hbegin
      cases h
      exact .send hbegin
  · obtain ⟨r, hr, he⟩ := Option.map_eq_some_iff.mp h
    cases he
    exact .device hr
  · cases h

/-- No step stores the state of a device. -/
theorem step_devices (h : call.step env app l = some (app', call')) :
    app'.devices = app.devices := by
  cases step_cases h with
  | refuse hbegin => rfl
  | send hbegin => exact (beginUpdateRequest_sends hbegin).devices
  | device hdev => rfl

/-- What a request emits on its own, as long as nothing fails. -/
def left (env : ControllerEnv) (app : AppState) : UpdateCall → List Emission
  | .begin request =>
    match beginUpdateRequest request app with
    | .error _ => []
    | .ok (device, app') =>
      match DeviceCall.dispatchUpdate env app' device request with
      | .inl call => call.left env device.controller
      | .inr _ => []
  | .dispatching device _ call => call.left env device.controller
  | .returned _ => []

end UpdateCall

/-- The device's controller does not look at the type of the device, or the type is one that it
can check an answer for. -/
def Device.AnswerCheckable (device : Device) : Prop :=
  ∀ config, device.controller = .tplink config → device.deviceType = .switch

/-- A call for a device that can be checked stays within what can be. -/
theorem DeviceCall.checkable_of_dispatch {env : ControllerEnv} {app : AppState} {device : Device}
    {request : UpdateRequest} {call : DeviceCall}
    (h : DeviceCall.dispatchUpdate env app device request = .inl call)
    (hdevice : device.AnswerCheckable) : call.Checkable := by
  rw [dispatchUpdate, dispatch] at h
  -- The controller is enabled, or the call is refused
  split at h
  · rw [sendUpdate] at h
    split at h
    · cases h
      trivial
    · cases h
      trivial
    · -- only the calls of the TP-Link controller look at the type of the device
      rename_i config hconfig
      rw [Tplink.SendUpdate.start] at h
      split at h
      · cases h
      · cases h
        exact hdevice config hconfig
    · cases hstart : Govee.SendUpdate.start env device request with
      | inl call' =>
        rw [hstart] at h
        cases h
        trivial
      | inr result =>
        rw [hstart] at h
        cases h
  · cases h

/-! ## A request among other tasks -/

/-- A call of `process_update_request` on the server, with the hooks that it has sent and the
commands that it has emitted. -/
structure UpdateRun where
  app : AppState
  call : UpdateCall
  hooks : List Hook
  emitted : List Emission

/-- A task of the server, or a step of the call. -/
inductive UpdateAct where
  | task (task : Task)
  | call (l : UpdateLabel)

namespace UpdateRun

/-- A request that nothing has been done for. -/
def start (app : AppState) (request : UpdateRequest) : UpdateRun :=
  ⟨app, .begin request, [], []⟩

/-- One action of the run of a request. -/
def exec (env : ControllerEnv) (st : UpdateRun) : UpdateAct → Option UpdateRun
  | .task task => (task.run st.app).map fun app => { st with app }
  | .call l => (st.call.step env st.app l).map fun p =>
      { app := p.1
        call := p.2
        hooks := st.hooks ++ p.1.hooks.sender.sent.drop st.app.hooks.sender.sent.length
        emitted := st.emitted ++ st.call.emits l }

/-- The call fails by itself, and not by a socket or a device. -/
def Unfailing (env : ControllerEnv) : UpdateAct → Prop
  | .call (.device l) => DeviceCall.Unfailing env l
  | _ => True

/-- No step of the call changes the device table. -/
def KeepsTable (env : ControllerEnv) (st : UpdateRun) (acts : List UpdateAct) : Prop :=
  Lts.Along (exec env) (fun st act => ∀ l st', act = .call l → exec env st act = some st' →
    st'.app.devices = st.app.devices) st acts

/-- What a refused request has done: nothing, if its device is unknown; and for a known device
its hook is all, unless the controller only checks the type when the device has answered. -/
structure Refused (app : AppState) (request : UpdateRequest) (hooks : List Hook)
    (emitted : List Emission) : Prop where
  unknown : app.devices.lookup request.deviceId = none → hooks = [] ∧ emitted = []
  known : ∀ device, app.devices.lookup request.deviceId = some device →
    hooks = [.deviceUpdateDispatch request] ∧ (device.AnswerCheckable → emitted = [])

/-- What a call has done, by where it is. -/
def Done (app : AppState) (request : UpdateRequest) (hooks : List Hook)
    (emitted : List Emission) : UpdateCall → Prop
  | .begin request' => request' = request ∧ hooks = [] ∧ emitted = []
  | .dispatching device _ call => hooks = [.deviceUpdateDispatch request] ∧
      (device.AnswerCheckable → call.Checkable) ∧
        (app.devices.lookup request.deviceId).map Device.config = some device.config
  | .returned (.ok ()) => True
  | .returned (.error _) => Refused app request hooks emitted

variable {env : ControllerEnv} {app : AppState} {request : UpdateRequest} {st st' : UpdateRun}
variable {act : UpdateAct} {hooks : List Hook} {emitted : List Emission}

/-- Whether an answer can be checked is a matter of configuration. -/
theorem answerCheckable_congr {device device' : Device} (h : device'.config = device.config) :
    device'.AnswerCheckable ↔ device.AnswerCheckable := by
  simp only [Device.config, Prod.mk.injEq] at h
  obtain ⟨-, htype, hcontroller⟩ := h
  simp only [Device.AnswerCheckable, htype, hcontroller]

/-- What a step of a call adds to what it has sent. -/
theorem drop_sent {app app' : AppState} {hooks : List Hook} (h : app.Sends app' hooks) :
    app'.hooks.sender.sent.drop app.hooks.sender.sent.length = hooks := by
  rw [h.sender]
  exact List.drop_left

/-- With a receiver there, a request is refused before its hook only if its device is unknown. -/
theorem Refused.of_begin {app' : AppState} {e : Error} (hr : 0 < app.hooks.sender.receivers)
    (hsame : app.SameConfig app') (h : beginUpdateRequest request app' = .error e) :
    Refused app request [] [] where
  unknown _ := ⟨rfl, rfl⟩
  known device hd := by
    -- A device that was known still is, so that its request begins
    obtain ⟨device', hd', -⟩ := hsame.lookup hd
    obtain ⟨app'', hok⟩ := beginUpdateRequest_of_lookup (hsame.receivers.mpr hr) hd'
    rw [h] at hok
    cases hok

/-- A device in the table that refuses has been announced and told nothing. -/
theorem Refused.of_known {device : Device}
    (hd : (app.devices.lookup request.deviceId).map Device.config = some device.config)
    (hhooks : hooks = [.deviceUpdateDispatch request])
    (hemitted : device.AnswerCheckable → emitted = []) : Refused app request hooks emitted where
  unknown hnone := by
    rw [hnone] at hd
    cases hd
  known device' hd' := by
    -- What is asked of the device is asked of its configuration, which stays
    rw [hd', Option.map_some] at hd
    exact ⟨hhooks, fun h => hemitted ((answerCheckable_congr (Option.some.inj hd)).mp h)⟩

/-- After its hook a call awaits its controller, or has been refused before a command. -/
theorem Done.of_dispatch {app' : AppState} {device : Device}
    (hd : (app.devices.lookup request.deviceId).map Device.config = some device.config) :
    Done app request [.deviceUpdateDispatch request] []
      (.after device request (DeviceCall.dispatchUpdate env app' device request)) := by
  cases hdispatch : DeviceCall.dispatchUpdate env app' device request with
  | inl call => exact ⟨rfl, DeviceCall.checkable_of_dispatch hdispatch, hd⟩
  | inr result =>
    cases result with
    | ok _ => trivial
    | error e => exact Refused.of_known hd rfl fun _ => rfl

/-- A controller that awaits fails of its own only where it cannot check the answer. -/
theorem Done.of_device {device : Device} {request' : UpdateRequest} {call : DeviceCall}
    {l : DeviceLabel} {r : DeviceCall ⊕ Except Error Unit} {emitted' : List Emission}
    (hvec : ∀ v, ∃ data, env.toVec v = .ok data) (hl : DeviceCall.Unfailing env l)
    (h : call.step env l = some r)
    (hdone : Done app request hooks emitted (.dispatching device request' call)) :
    Done app request hooks emitted' (.after device request' r) := by
  obtain ⟨hhooks, hcheckable, hd⟩ := hdone
  -- A call whose steps do not fail has not failed
  have hsucceeds : device.AnswerCheckable → DeviceCall.Succeeds r := fun hdevice =>
    DeviceCall.step_succeeds hvec (hcheckable hdevice) hl h
  -- It goes on, or it returns the success that `Done` asks for
  cases r with
  | inl call' => exact ⟨hhooks, hsucceeds, hd⟩
  | inr result =>
    cases result with
    | ok _ => trivial
    | error e =>
      refine Refused.of_known hd hhooks fun hdevice => ?_
      cases hsucceeds hdevice

/-- One action of the run keeps the account of what it has done. -/
theorem Done.exec (hvec : ∀ v, ∃ data, env.toVec v = .ok data)
    (hr : 0 < app.hooks.sender.receivers) (hact : Unfailing env act)
    (h : UpdateRun.exec env st act = some st')
    (hst : app.SameConfig st.app ∧ Done app request st.hooks st.emitted st.call) :
    app.SameConfig st'.app ∧ Done app request st'.hooks st'.emitted st'.call := by
  obtain ⟨hsame, hdone⟩ := hst
  cases act with
  | task task =>
    obtain ⟨app', htask, rfl⟩ := Option.map_eq_some_iff.mp h
    exact ⟨hsame.trans (Task.run_sameConfig htask), hdone⟩
  | call l =>
    obtain ⟨⟨app', call'⟩, hstep, rfl⟩ := Option.map_eq_some_iff.mp h
    obtain ⟨stApp, call, hooks, emitted⟩ := st
    cases UpdateCall.step_cases hstep with
    | refuse hbegin =>
      -- No hook was sent
      obtain ⟨rfl, rfl, rfl⟩ := hdone
      refine ⟨hsame, ?_⟩
      show Refused app _ ([] ++ List.drop _ _) _
      rw [drop_sent (.refl stApp)]
      exact Refused.of_begin hr hsame hbegin
    | @send request' device _ hbegin =>
      obtain ⟨rfl, rfl, rfl⟩ := hdone
      have hsends := beginUpdateRequest_sends hbegin
      refine ⟨hsame.trans hsends.sameConfig, ?_⟩
      have hd : (app.devices.lookup request'.deviceId).map Device.config = some device.config := by
        rw [← hsame.devices, (beginUpdateRequest_ok hbegin).1]
        rfl
      -- The hook of the request is the one that was sent since
      show Done app request' ([] ++ List.drop _ _) _ _
      rw [drop_sent hsends]
      exact Done.of_dispatch hd
    | @device device request' call l r hdev =>
      refine ⟨hsame, ?_⟩
      -- The controller sends no hook
      show Done app request (hooks ++ List.drop _ _) _ _
      rw [drop_sent (.refl stApp), List.append_nil]
      exact Done.of_device hvec hact hdev hdone

/-- No step of the call sets a state. -/
theorem exec_keepsTable {l : UpdateLabel} (h : UpdateRun.exec env st (.call l) = some st') :
    st'.app.devices = st.app.devices := by
  obtain ⟨⟨app', call'⟩, hstep, rfl⟩ := Option.map_eq_some_iff.mp h
  exact UpdateCall.step_devices hstep

/-- Every run of the call leaves the table. -/
theorem keepsTable (env : ControllerEnv) (st : UpdateRun) (acts : List UpdateAct) :
    KeepsTable env st acts := by
  apply Lts.along_of_forall
  rintro s act - l s' rfl h
  exact exec_keepsTable h

end UpdateRun

/-- A request that is refused, with no failure of a socket or of a device, has left the device
table alone. If its device is unknown it has done nothing. Otherwise its hook was sent, and
nothing was emitted unless the type of its device is checked after the command. -/
theorem failed_update_effects (env : ControllerEnv) (hvec : ∀ v, ∃ data, env.toVec v = .ok data)
    (app : AppState) (hr : 0 < app.hooks.sender.receivers) (request : UpdateRequest)
    (acts : List UpdateAct) (st : UpdateRun)
    (hrun : Lts.run (UpdateRun.exec env) (.start app request) acts = some st)
    (hacts : ∀ act ∈ acts, UpdateRun.Unfailing env act) (e : Error)
    (he : st.call = .returned (.error e)) :
    UpdateRun.KeepsTable env (.start app request) acts ∧
      UpdateRun.Refused app request st.hooks st.emitted := by
  -- The invariant of a run: what a call has done, by where it is
  have hdone := Lts.run_invariant_of_forall (Q := UpdateRun.Unfailing env) _
    (fun _ _ _ hs hact h => UpdateRun.Done.exec hvec hr hact h hs) hacts hrun
    ⟨.refl app, rfl, rfl, rfl⟩
  rw [he] at hdone
  exact ⟨UpdateRun.keepsTable env _ acts, hdone.2⟩

/-! ## A lamp and a plug -/

namespace UpdateRun.Demo

def lamp : Device :=
  ⟨⟨"lamp"⟩, .dimmableLight, .unknown, .govee ⟨0x0A000002⟩⟩

/-- A TP-Link device that the configuration has as a light. -/
def plug : Device :=
  ⟨⟨"plug"⟩, .dimmableLight, .unknown, .tplink ⟨0x0A000003⟩⟩

/-- The Govee controller is not enabled. -/
def app : AppState :=
  .new (AList.insert lamp.id lamp (AList.insert plug.id plug ∅)) ⟨false, false, true, false⟩

/-- The text of the command that switches a plug on. -/
def turnOn : List UInt8 :=
  "\x7b\"system\":\x7b\"set_relay_state\":\x7b\"state\":1\x7d\x7d\x7d".toUTF8.data.toList

/-- The text of the query. -/
def query : List UInt8 :=
  "\x7b\"system\":\x7b\"get_sysinfo\":\x7b\x7d\x7d\x7d".toUTF8.data.toList

/-- The answer of a plug that has switched. -/
def switched : List UInt8 :=
  "\x7b\"system\":\x7b\"set_relay_state\":\x7b\"err_code\":0\x7d\x7d\x7d".toUTF8.data.toList

/-- A payload is its text, and only the plug's success is an answer. -/
def env : ControllerEnv where
  fromSlice bytes :=
    if bytes = switched then
      .ok (.single "system" (.single "set_relay_state" (.single "err_code" (.ofNat 0))))
    else .error ["expected value at line 1 column 1"]
  toVec v :=
    match (v.index "system").index "set_relay_state" with
    | .null => .ok query
    | _ => .ok turnOn
  govee := ⟨fun _ => .error ["expected value at line 1 column 1"],
    fun props value => ⟨props, value⟩, fun _ state => state.value⟩

/-- Every command has a text. -/
theorem toVec_ok (v : Json.Value) : ∃ data, env.toVec v = .ok data := by
  show ∃ data, (match (v.index "system").index "set_relay_state" with
    | .null => .ok query
    | _ => .ok turnOn) = Except.ok data
  split
  · exact ⟨_, rfl⟩
  · exact ⟨_, rfl⟩

end UpdateRun.Demo

open UpdateRun in
/-- The request for the lamp is refused after its hook, and without a command. -/
theorem failed_update_effects_lamp :
    ∃ st, Lts.run (UpdateRun.exec Demo.env) (.start Demo.app ⟨Demo.lamp.id, .power .on⟩)
        [.call .poll] = some st ∧
      Refused Demo.app ⟨Demo.lamp.id, .power .on⟩ st.hooks st.emitted := by
  have hrun : ∃ st, Lts.run (UpdateRun.exec Demo.env) (.start Demo.app ⟨Demo.lamp.id, .power .on⟩)
      [.call .poll] = some st ∧
        st.call = .returned (.error ["Govee controller is not enabled!"]) := ⟨_, rfl, rfl⟩
  obtain ⟨st, hst, he⟩ := hrun
  exact ⟨st, hst, (failed_update_effects Demo.env Demo.toVec_ok Demo.app
    (by decide) _ _ st hst (by simp [Unfailing]) _ he).2⟩

open UpdateRun in
/-- Refused requests leave traces: the hook of one for a controller that is not enabled, and the
command to a TP-Link device that is not a switch. -/
theorem failed_update_traces :
    (∃ st, Lts.run (UpdateRun.exec Demo.env) (.start Demo.app ⟨Demo.lamp.id, .power .on⟩)
        [.call .poll] = some st ∧
      st.call = .returned (.error ["Govee controller is not enabled!"]) ∧
        st.hooks = [.deviceUpdateDispatch ⟨Demo.lamp.id, .power .on⟩]) ∧
    ∃ st, Lts.run (UpdateRun.exec Demo.env) (.start Demo.app ⟨Demo.plug.id, .power .on⟩)
        [.call .poll, .call (.device (.bound (.ok ()))), .call (.device (.sent (.ok ()))),
          .call (.device (.received (.ok (0x0A000003, Tplink.encrypt Demo.switched))))] =
          some st ∧
      st.call = .returned (.error ["Unsupported state for tplink controller!"]) ∧
        st.emitted = [.datagram 0x0A000003 9999 (Tplink.encrypt Demo.turnOn)] :=
  ⟨⟨_, rfl, rfl, rfl⟩, ⟨_, rfl, rfl, rfl⟩⟩

end Devicectrl
