import Devicectrl.ForStd.GuardedReads
import Devicectrl.Spec.DevicesLock
import Devicectrl.Spec.UpdateEffects

/-!
# What is dispatched is what is stored

A dispatch works on the entry of the device table that it was given for as long as it lasts: the
guard of `process_update_request` keeps reports from being stored meanwhile, and so do those of the
queries.

## Key results

- `UpdateCall.Reads`, `StateQuery.Reads`, `QueryAll.Reads`: what is read under a guard
- `LockUser.relies`: every operation relies on no more
- `devicesLock_reads`: what is dispatched is stored, in every state of every run
-/

namespace Devicectrl

open RwLock (Need Future TryJoinAll Body)

variable {env : DevicesEnv}

/-! ## Calls of controllers -/

/-- The device and the message that a call of a controller was given. -/
def DeviceCall.IsOf (device : Device) (message : DeviceBoundMessage) : DeviceCall → Prop
  | .broadcast message' => message' = message
  | .tplink device' _ => device' = device
  | .govee _ => True

namespace DeviceCall

variable {controllers : ControllerEnv} {app : AppState} {device : Device}
  {message : DeviceBoundMessage} {call call' : DeviceCall}

/-- A call that goes on is still of its device. -/
theorem IsOf.step (h : call.IsOf device message) {l : DeviceLabel}
    (hstep : call.step controllers l = some (.inl call')) : call'.IsOf device message := by
  cases call with
  -- A broadcast is over after one step
  | broadcast message' =>
    cases l with
    | broadcast result => cases hstep
    | _ => cases hstep
  | tplink device' sending =>
    obtain ⟨r, -, he⟩ := Option.map_eq_some_iff.mp hstep
    -- The call goes on with the device it was made for
    cases r with
    | inl sending' =>
      cases he
      exact h
    | inr result => cases he
  | govee sending =>
    obtain ⟨r, -, he⟩ := Option.map_eq_some_iff.mp hstep
    cases r with
    | inl sending' =>
      cases he
      trivial
    | inr result => cases he

/-- What is dispatched for a device is a call of this device. -/
theorem isOf_dispatch {send : DeviceCall ⊕ Except Error Unit}
    (hsend : ∀ call, send = .inl call → call.IsOf device message)
    (h : dispatch app device send = .inl call) : call.IsOf device message := by
  unfold dispatch at h
  split at h
  · exact hsend call h
  · cases h

/-- A call of `send_update` that has not failed before its first await. -/
theorem sendUpdate_inl {request : UpdateRequest}
    (h : sendUpdate controllers device request = .inl call) :
    call = .broadcast (.updateCommand ⟨request.deviceId, request.update⟩) ∨
      (∃ sending, call = .tplink device sending) ∨
      ∃ sending, call = .govee sending ∧
        Govee.SendUpdate.start controllers device request = .inl sending := by
  unfold sendUpdate at h
  split at h
  · -- the channel of the controller is sent what `update_command` makes of the request
    exact .inl (Sum.inl.inj h).symm
  · exact .inl (Sum.inl.inj h).symm
  · -- the call goes on at its first await, or has failed before it
    cases hstart : Tplink.SendUpdate.start request with
    | inl sending =>
      rw [hstart] at h
      exact .inr (.inl ⟨sending, (Sum.inl.inj h).symm⟩)
    | inr result =>
      rw [hstart] at h
      cases h
  · cases hstart : Govee.SendUpdate.start controllers device request with
    | inl sending =>
      rw [hstart] at h
      exact .inr (.inr ⟨sending, (Sum.inl.inj h).symm, rfl⟩)
    | inr result =>
      rw [hstart] at h
      cases h

/-- `send_update` begins a call of the device with the command. -/
theorem isOf_sendUpdate {request : UpdateRequest} (h : sendUpdate controllers device request =
    .inl call) : call.IsOf device (.updateCommand ⟨request.deviceId, request.update⟩) := by
  rcases sendUpdate_inl h with rfl | ⟨sending, rfl⟩ | ⟨sending, rfl, -⟩
  · rfl
  · rfl
  · trivial

/-- `send_query` begins a call of the device with a query. -/
theorem isOf_sendQuery (h : sendQuery controllers device = .inl call) :
    call.IsOf device (.stateQuery device.id) := by
  unfold sendQuery at h
  split at h
  · -- the device is asked by its id
    cases h
    rfl
  · cases h
    rfl
  · -- the call goes on at its first await, or has failed before it
    cases hstart : Tplink.SendUpdate.sendQuery controllers with
    | inl sending =>
      rw [hstart] at h
      cases h
      rfl
    | inr result =>
      rw [hstart] at h
      cases h
  · cases hstart : Govee.SendUpdate.sendQuery controllers with
    | inl sending =>
      rw [hstart] at h
      cases h
      trivial
    | inr result =>
      rw [hstart] at h
      cases h

/-- The datagram that is being sent to a Govee light was built from the state of the device. -/
theorem sending_of_sendUpdate {request : UpdateRequest} {data : List UInt8}
    (h : sendUpdate controllers device request = .inl (.govee (.sending data))) :
    Govee.SendUpdate.start controllers device request = .inl (.sending data) := by
  rcases sendUpdate_inl h with he | ⟨sending, he⟩ | ⟨sending, he, hstart⟩
  · cases he
  · cases he
  · cases he
    exact hstart

/-- A light is sent one such datagram. -/
theorem step_ne_sending {l : DeviceLabel} {data : List UInt8} :
    call.step controllers l ≠ some (.inl (.govee (.sending data))) := by
  intro hstep
  cases call with
  | broadcast message =>
    cases l with
    | broadcast result => cases hstep
    | _ => cases hstep
  | tplink device' sending =>
    obtain ⟨r, -, he⟩ := Option.map_eq_some_iff.mp hstep
    cases r <;> cases he
  | govee sending =>
    obtain ⟨r, hr, he⟩ := Option.map_eq_some_iff.mp hstep
    cases r with
    | inr result => cases he
    | inl sending' =>
      cases he
      unfold Govee.SendUpdate.step at hr
      -- After the update comes a sleep, and what is sent then is the query
      split at hr
      · split at hr
        · cases hr
        · cases hr
      · simp only [Govee.SendUpdate.sendQuery, Govee.SendUpdate.sendCommand] at hr
        split at hr
        · cases hr
        · cases hr
      · cases hr
      · cases hr

end DeviceCall

/-! ## Update requests -/

namespace UpdateCall

/-- What `process_update_request` has read: the device that it dispatches to. -/
def Reads (env : DevicesEnv) (devices : Devices) : UpdateCall → Prop
  | .dispatching device request call =>
    devices.lookup request.deviceId = some device ∧
      call.IsOf device (.updateCommand ⟨request.deviceId, request.update⟩) ∧
      ∀ data, call = .govee (.sending data) →
        Govee.SendUpdate.start env.controllers device request = .inl (.sending data)
  | _ => True

/-- A request that goes on was dispatched for the device that is stored. -/
theorem reads_after {devices : Devices} {device : Device} {request : UpdateRequest}
    (hdevice : devices.lookup request.deviceId = some device)
    {r : DeviceCall ⊕ Except Error Unit}
    (hcall : ∀ call, r = .inl call →
      call.IsOf device (.updateCommand ⟨request.deviceId, request.update⟩) ∧
      ∀ data, call = .govee (.sending data) →
        Govee.SendUpdate.start env.controllers device request = .inl (.sending data)) :
    (after device request r).Reads env devices := by
  cases r with
  | inl call => exact ⟨hdevice, hcall call rfl⟩
  | inr result => trivial

end UpdateCall

/-- `process_update_request` relies on the table under its guard. -/
theorem processUpdateRequest_relies (env : DevicesEnv) :
    (processUpdateRequest env).Relies AppState.devices (UpdateCall.Reads env) where
  writes := by
    intro app call l app' call' hstep
    exact .inl (UpdateCall.step_devices hstep)
  reads := by
    intro app call l app' call' hstep hread _
    rw [UpdateCall.step_devices hstep]
    cases UpdateCall.step_cases hstep with
    | refuse hbegin => trivial
    | @send request device app' hbegin =>
      -- It has just been found in the table
      apply UpdateCall.reads_after (beginUpdateRequest_ok hbegin).1
      intro call hcall
      unfold DeviceCall.dispatchUpdate at hcall
      refine ⟨DeviceCall.isOf_dispatch (fun _ => DeviceCall.isOf_sendUpdate) hcall, ?_⟩
      rintro data rfl
      unfold DeviceCall.dispatch at hcall
      split at hcall
      · exact DeviceCall.sending_of_sendUpdate hcall
      · cases hcall
    | device hr =>
      -- The guard was there before, so what it relied on then still stands
      obtain ⟨hdevice, hof, -⟩ := hread (List.cons_ne_nil _ _)
      apply UpdateCall.reads_after hdevice
      rintro call' rfl
      refine ⟨hof.step hr, ?_⟩
      rintro data rfl
      exact absurd hr DeviceCall.step_ne_sending

/-! ## Queries -/

/-- What a state query has read: the device that it queries. -/
def StateQuery.Reads (devices : Devices) : StateQuery → Prop
  | .dispatching deviceId device call =>
    devices.lookup deviceId = some device ∧ call.IsOf device (.stateQuery device.id)
  | _ => True

/-- A query that goes on was dispatched for the device that is stored. -/
theorem StateQuery.reads_after {devices : Devices} {deviceId : DeviceId} {device : Device}
    (hdevice : devices.lookup deviceId = some device) {r : DeviceCall ⊕ Except Error Unit}
    (hcall : ∀ call, r = .inl call → call.IsOf device (.stateQuery device.id)) :
    (after deviceId device r).Reads devices := by
  cases r with
  | inl call => exact ⟨hdevice, hcall call rfl⟩
  | inr result => trivial

/-- A state query relies on the table under its guard. -/
theorem queryState_relies (env : DevicesEnv) :
    (queryState env).Relies AppState.devices StateQuery.Reads where
  writes := by
    intro app call l app' call' hstep
    exact .inl (congrArg AppState.devices (StateQuery.step_cases hstep).1)
  reads := by
    intro app call l app' call' hstep hread _
    obtain ⟨rfl, hcases⟩ := StateQuery.step_cases hstep
    cases hcases with
    | unknown hnone => trivial
    | found hdevice =>
      exact StateQuery.reads_after hdevice fun call hcall =>
        DeviceCall.isOf_dispatch (fun _ => DeviceCall.isOf_sendQuery) hcall
    | device hr =>
      -- The device is the one borrowed, and the guard keeps its entry as it is
      obtain ⟨hdevice, hof⟩ := hread (List.cons_ne_nil _ _)
      apply StateQuery.reads_after hdevice
      rintro call' rfl
      exact hof.step hr

/-- What `query_all_device_states` has read: the devices of the table, in their order. -/
def QueryAll.Reads (devices : Devices) : QueryAll → Prop
  | .joining queries =>
    queries.map Prod.fst = devices.entries.map (fun entry => entry.2) ∧
      ∀ device call, (device, some call) ∈ queries → call.IsOf device (.stateQuery device.id)
  | _ => True

/-- `query_all_device_states` relies on the table under its guard. -/
theorem queryAllDeviceStates_relies (env : DevicesEnv) :
    (queryAllDeviceStates env).Relies AppState.devices QueryAll.Reads where
  writes := by
    intro app call l app' call' hstep
    exact .inl (congrArg AppState.devices (QueryAll.step_cases hstep).1)
  reads := by
    intro app call l app' call' hstep hread _
    obtain ⟨rfl, hcases⟩ := QueryAll.step_cases hstep
    cases hcases with
    | begin =>
      -- One query for each entry; those that fail at once have no call
      refine ⟨by rw [List.map_map]; rfl, fun device call hmem => ?_⟩
      obtain ⟨entry, -, he⟩ := List.mem_map.mp hmem
      obtain ⟨rfl, hcall⟩ := Prod.mk.inj he
      exact DeviceCall.isOf_dispatch (fun _ => DeviceCall.isOf_sendQuery)
        (Sum.getLeft?_eq_some_iff.mp hcall)
    | @member queries i device call l r hi hr =>
      obtain ⟨hdevices, hof⟩ := hread (List.cons_ne_nil _ _)
      refine ⟨?_, fun device' call' hmem => ?_⟩
      · -- a query keeps its device as its call goes on
        rw [List.map_set, ← hdevices]
        apply List.ext_getElem?
        intro j
        by_cases hij : i = j
        · subst hij
          have hlt := (List.getElem?_eq_some_iff.mp hi).1
          rw [List.getElem?_set_self (by rwa [List.length_map]), List.getElem?_map, hi]
          rfl
        · rw [List.getElem?_set_ne hij]
      · rcases List.mem_or_eq_of_mem_set hmem with hmem | he
        · exact hof device' call' hmem
        · -- the call has not ended, or it would be gone
          obtain ⟨rfl, hcall⟩ := Prod.mk.inj he
          obtain rfl := Sum.getLeft?_eq_some_iff.mp hcall.symm
          exact (hof device' call (List.mem_of_getElem? hi)).step hr
    | joined hall => trivial

/-! ## Lookups and messages

They await nothing under a guard. -/

/-- A lookup relies on nothing when it has returned. -/
theorem lookupDevices_relies {α β : Type} (f : AppState → α → β) :
    (lookupDevices f).Relies AppState.devices fun _ _ => True where
  writes := by
    intro app call l app' call' hstep
    cases call with
    | begin a =>
      cases hstep
      exact .inl rfl
    | returned b => cases hstep
  reads := fun _ _ _ => trivial

/-- Only a report is stored, under the guard for writing. -/
theorem messageHandling_relies (env : DevicesEnv) :
    (messageHandling env).Relies AppState.devices fun _ _ => True where
  writes := by
    intro app call l app' call' hstep
    cases call with
    | begin source =>
      cases hstep
      exact .inl rfl
    | returned result => cases hstep
    | processing call =>
      cases call with
      | store update => exact .inr rfl
      | sendHook update =>
        -- The guard is gone by now, and the table is left alone
        left
        simp only [messageHandling, MessageCall.step] at hstep
        split at hstep
        · rename_i app₁ call₁ hcall
          cases hstep
          cases processUpdateNotification_cases hcall
        · rename_i app₁ result hcall
          cases hstep
          cases processUpdateNotification_cases hcall with
          | sendHook hs => exact (sendNotificationHook_ok hs).1
          | failHook he => rfl
  reads := fun _ _ _ => trivial

/-! ## Automations

They rely on what their update requests rely on. -/

/-- The update request that the automation awaits. -/
def DependencyCall.updates : DependencyCall → List UpdateCall
  | .requesting _ call _ => [call]
  | _ => []

/-- The automation leaves the table alone. -/
theorem DependencyCall.devices_afterRequest (app : AppState) (receiver : Broadcast.Receiver)
    (context : String) (call : UpdateCall) :
    (afterRequest app receiver context call).1.devices = app.devices := by
  cases call with
  | returned result => rcases result with e | ⟨⟩ <;> rfl
  | _ => rfl

/-- What the automation is dispatching is what its call is. -/
theorem DependencyCall.updates_afterRequest {devices : Devices} {call : UpdateCall}
    (app : AppState) (receiver : Broadcast.Receiver) (context : String)
    (h : call.Reads env devices) :
    ∀ call' ∈ (afterRequest app receiver context call).2.updates, call'.Reads env devices := by
  cases call with
  | returned result => rcases result with e | ⟨⟩ <;> simp [afterRequest, leave, updates]
  | _ => simp [afterRequest, updates, h]

/-- The automation relies on the table under the guard of its call. -/
theorem dependencyAutomation_relies (env : DevicesEnv) :
    (dependencyAutomation env).Relies AppState.devices fun devices call =>
      ∀ call' ∈ call.updates, call'.Reads env devices where
  writes := by
    intro app call l app' call' hstep
    left
    cases DependencyCall.step_cases hstep with
    | request hp =>
      rw [DependencyCall.devices_afterRequest]
      exact UpdateCall.step_devices hp
    | _ => rfl
  reads := by
    intro app call l app' call' hstep hread hholds
    cases DependencyCall.step_cases hstep with
    | @request receiver call context l app' call' hp =>
      -- The automation has the guard of its request, and drops it with the request
      simp only [dependencyAutomation, DependencyCall.need_afterRequest] at hholds
      have hreads := (processUpdateRequest_relies env).reads hp
        (fun hne => hread hne call List.mem_cons_self) hholds
      rw [DependencyCall.devices_afterRequest]
      exact DependencyCall.updates_afterRequest app' receiver context hreads
    -- A request that begins has read nothing yet
    | _ => exact absurd rfl hholds

/-- The update request that a ramp awaits. -/
def Ramp.updates : Ramp → List UpdateCall
  | .requesting call _ => [call]
  | _ => []

/-- What a ramp is dispatching is what its call is. -/
theorem Ramp.updates_afterRequest {devices : Devices} {call : UpdateCall}
    (rest : List UpdateRequest) (h : call.Reads env devices) :
    ∀ call' ∈ (afterRequest rest call).updates, call'.Reads env devices := by
  cases call with
  | returned result => rcases result with e | ⟨⟩ <;> simp [afterRequest, updates]
  | _ => simp [afterRequest, updates, h]

/-- A ramp relies on the table under the guard of its call. -/
theorem sunsetRamp_relies (env : DevicesEnv) :
    (sunsetRamp env).Relies AppState.devices fun devices ramp =>
      ∀ call ∈ ramp.updates, call.Reads env devices where
  writes := by
    intro app ramp l app' ramp' hstep
    left
    cases Ramp.step_cases hstep with
    | request hp => exact UpdateCall.step_devices hp
    | slept => rfl
  reads := by
    intro app ramp l app' ramp' hstep hread hholds
    cases Ramp.step_cases hstep with
    | @request call rest l app' call' hp =>
      simp only [sunsetRamp, Ramp.need_afterRequest] at hholds
      have hreads := (processUpdateRequest_relies env).reads hp
        (fun hne => hread hne call List.mem_cons_self) hholds
      exact Ramp.updates_afterRequest rest hreads
    | slept =>
      -- The next request has no guard yet
      simp only [sunsetRamp, Ramp.need_start] at hholds
      exact absurd rfl hholds

/-! ## All operations -/

namespace LockUser

/-- What a future of an operation relies on while it has a guard. -/
def Reads (env : DevicesEnv) : (user : LockUser) → Devices → user.State → Nat → Prop
  | .processUpdateRequest, devices, call, _ => call.Reads env devices
  | .processSceneActivate, devices, calls, j =>
    TryJoinAll.Members (UpdateCall.Reads env devices) calls j
  | .stateQuery, devices, call, _ => call.Reads devices
  | .queryAllDeviceStates, devices, call, _ => call.Reads devices
  | .dependencies, devices, call, _ => ∀ call' ∈ call.updates, call'.Reads env devices
  | .sunset, devices, ramps, j =>
    TryJoinAll.Members (fun ramp : Ramp => ∀ call ∈ ramp.updates, call.Reads env devices) ramps j
  | _, _, _, _ => True

/-- Every user of the lock relies on the table under its guard. -/
theorem relies (env : DevicesEnv) (user : LockUser) :
    (user.body env).Relies AppState.devices (user.Reads env) := by
  cases user with
  | processUpdateRequest => exact (processUpdateRequest_relies env).body
  | processSceneActivate => exact TryJoinAll.relies (processUpdateRequest_relies env)
  | stateQuery => exact (queryState_relies env).body
  | queryAllDeviceStates => exact (queryAllDeviceStates_relies env).body
  | catalog => exact (lookupDevices_relies _).body
  | publicKey => exact (lookupDevices_relies _).body
  | deviceCerts => exact (lookupDevices_relies _).body
  | handleMessage => exact (messageHandling_relies env).body
  | dependencies => exact (dependencyAutomation_relies env).body
  | sunset => exact TryJoinAll.relies (sunsetRamp_relies env)

end LockUser

/-- The update requests that an operation awaits, each with the future that does. -/
def LockUser.updates : (Σ user, LockUser.State user) → List (Nat × UpdateCall)
  | ⟨.processUpdateRequest, call⟩ => [(0, call)]
  | ⟨.processSceneActivate, .joining calls⟩ => calls.zipIdx.map Prod.swap
  | ⟨.dependencies, call⟩ => call.updates.map fun call => (0, call)
  | ⟨.sunset, .joining ramps⟩ =>
    ramps.zipIdx.flatMap fun ramp => ramp.1.updates.map fun call => (ramp.2, call)
  | _ => []

/-- An operation that starts stores nothing. -/
theorem LockCall.start_devices (env : DevicesEnv) (app : AppState) (call : LockCall) :
    (call.start env app).1.devices = app.devices := by
  cases call with
  | activateScene sceneId =>
    simp only [start]
    split
    · rfl
    · split
      · rfl
      · rfl
  | _ => rfl

/-- All operations on the device table rely on it under their guards. -/
theorem devicesLock_relies (env : DevicesEnv) :
    (devicesLock env).Relies AppState.devices fun devices op j =>
      op.1.Reads env devices op.2 j := by
  apply Body.Relies.operations (Body.sigma_relies (LockUser.relies env))
  · intro app task app' h
    split at h
    · cases h
    · rename_i hwriter
      exact Task.run_devices (Bool.eq_false_iff.mpr hwriter) h
  · intro app call app' op h
    obtain rfl := (Prod.mk.inj (Option.some.inj h)).1
    exact call.start_devices env app

/-- The guard of a dispatch is in scope, so what it has read stands. -/
theorem LockUser.reads_updates {devices : Devices} {op : Σ user, LockUser.State user}
    (h : ∀ j, ((Body.sigma (LockUser.body env)).need op j).holds ≠ [] →
      op.1.Reads env devices op.2 j)
    {j : Nat} {device : Device} {request : UpdateRequest} {call : DeviceCall}
    (hmem : (j, .dispatching device request call) ∈ LockUser.updates op) :
    UpdateCall.Reads env devices (.dispatching device request call) := by
  obtain ⟨user, state⟩ := op
  cases user with
  | processUpdateRequest =>
    cases state with
    | dispatching device' request' call' =>
      obtain ⟨rfl, he⟩ := Prod.mk.inj (List.mem_singleton.mp hmem)
      cases he
      exact h 0 (List.cons_ne_nil _ _)
    | _ => simp [LockUser.updates] at hmem
  | processSceneActivate =>
    cases state with
    | returned result => simp [LockUser.updates] at hmem
    | joining calls =>
      obtain ⟨⟨call', i⟩, hi, he⟩ := List.mem_map.mp hmem
      cases he
      have hcall := List.mem_zipIdx_iff_getElem?.mp hi
      have hneed : (TryJoinAll.body (Devicectrl.processUpdateRequest env) UpdateCall.result?).need
          (.joining calls) i =
            (Devicectrl.processUpdateRequest env).need (.dispatching device request call) :=
        TryJoinAll.need_joining hcall
      have hholds : ((TryJoinAll.body (Devicectrl.processUpdateRequest env)
          UpdateCall.result?).need (.joining calls) i).holds ≠ [] := by
        rw [hneed]
        exact List.cons_ne_nil _ _
      exact h i hholds calls _ rfl hcall
  | dependencies =>
    cases state with
    | requesting receiver call' context =>
      obtain ⟨call', hcall', he⟩ := List.mem_map.mp hmem
      cases he
      obtain rfl := List.mem_singleton.mp hcall'
      exact h 0 (List.cons_ne_nil _ _) _ List.mem_cons_self
    | _ => simp [LockUser.updates, DependencyCall.updates] at hmem
  | sunset =>
    cases state with
    | returned result => simp [LockUser.updates] at hmem
    | joining ramps =>
      obtain ⟨⟨ramp, i⟩, hi, hcall⟩ := List.mem_flatMap.mp hmem
      obtain ⟨call', hcall', he⟩ := List.mem_map.mp hcall
      cases he
      have hramp := List.mem_zipIdx_iff_getElem?.mp hi
      -- The guard of the request is that of its ramp
      have hneed : (TryJoinAll.body (sunsetRamp env) Ramp.result?).need (.joining ramps) i =
          (sunsetRamp env).need ramp := TryJoinAll.need_joining hramp
      have hholds : ((TryJoinAll.body (sunsetRamp env) Ramp.result?).need
          (.joining ramps) i).holds ≠ [] := by
        rw [hneed]
        cases ramp with
        | requesting call'' rest =>
          obtain rfl := List.mem_singleton.mp hcall'
          exact List.cons_ne_nil _ _
        | _ => simp [Ramp.updates] at hcall'
      exact h i hholds ramps ramp rfl hramp _ hcall'
  | _ => simp [LockUser.updates] at hmem

end Devicectrl

namespace Devicectrl

/-- In every state of every run, with any number of operations on the device table: whatever
`process_update_request` is dispatching, for a client, in a scene or for an automation, the device
that its controller was given is the one that is stored now, state included, and what is being sent
to a Govee light was computed from that state. The device that a state query is dispatched for is
the one that is stored now under the id that the client has sent, and those that
`query_all_device_states` queries are the devices of the table, in their order. No report is stored
as long as anybody reads. -/
theorem devicesLock_reads (env : DevicesEnv) (app : AppState)
    (as : List (RwLock.Act Task LockCall (Σ user, LockUser.Label user)))
    (st : RwLock.State AppState (Σ user, LockUser.State user))
    (hrun : (devicesLock env).run (.initial app) as = some st) :
    (∀ op, some op ∈ st.ops → ∀ j device request call,
      (j, UpdateCall.dispatching device request call) ∈ LockUser.updates op →
        st.shared.devices.lookup request.deviceId = some device ∧
        call.IsOf device (.updateCommand ⟨request.deviceId, request.update⟩) ∧
        ∀ data, call = .govee (.sending data) →
          Govee.SendUpdate.start env.controllers device request = .inl (.sending data)) ∧
    (∀ deviceId device call, some ⟨.stateQuery, .dispatching deviceId device call⟩ ∈ st.ops →
      st.shared.devices.lookup deviceId = some device ∧
        call.IsOf device (.stateQuery device.id)) ∧
    (∀ queries, some ⟨.queryAllDeviceStates, .joining queries⟩ ∈ st.ops →
      queries.map Prod.fst = st.shared.devices.entries.map (fun entry => entry.2) ∧
        ∀ device call, (device, some call) ∈ queries →
          call.IsOf device (.stateQuery device.id)) ∧
    ∀ o a st', .read ∈ (devicesLock env).guards st o → (devicesLock env).exec st a = some st' →
      st'.shared.devices = st.shared.devices := by
  -- What each operation relies on holds whenever it has its guards
  have hdisciplined := devicesLock_disciplined env
  have hrelies := devicesLock_relies env
  have hreads := hrelies.run hdisciplined hrun
  refine ⟨fun op hop j device request call hmem => ?_, fun deviceId device call hop => ?_,
    fun queries hop => ?_, fun o a st' hread hexec => ?_⟩
  · obtain ⟨i, hi⟩ := List.mem_iff_getElem?.mp hop
    exact LockUser.reads_updates (fun j hholds => hreads i j op hi hholds) hmem
  · -- the guard of a query is on branch `0`
    obtain ⟨i, hi⟩ := List.mem_iff_getElem?.mp hop
    exact hreads i 0 _ hi (List.cons_ne_nil _ _)
  · obtain ⟨i, hi⟩ := List.mem_iff_getElem?.mp hop
    exact hreads i 0 _ hi (List.cons_ne_nil _ _)
  · -- what is guarded by a reader is written by nobody
    exact hrelies.view_eq hdisciplined (devicesLock_exclusive env app hrun) hexec hread

end Devicectrl

namespace Devicectrl

open TableCall.Demo LockUser.Demo in
/-- The scene's first update sleeps while the report waits. -/
theorem devicesLock_reads_demo :
    ∃ (st : RwLock.State AppState (Σ user, LockUser.State user)) (device : Device)
        (call : DeviceCall),
      (devicesLock lockEnv).run (.initial (.new devices controllers)) sceneAndReport =
        some st ∧
      st.queue = [((1, 0), .write), ((0, 1), .read)] ∧
      st.shared.devices.lookup desk = some device ∧
      call.IsOf device (.updateCommand ⟨desk, .power .on⟩) := by
  -- The first update of the scene is dispatched, and the theorem says for which device
  have hrun : ∃ (st : RwLock.State AppState (Σ user, LockUser.State user)) (device : Device)
        (call : DeviceCall) (calls : List UpdateCall),
      (devicesLock lockEnv).run (.initial (.new devices controllers)) sceneAndReport =
        some st ∧
      st.queue = [((1, 0), .write), ((0, 1), .read)] ∧
      st.ops[0]? = some (some ⟨.processSceneActivate,
        .joining (.dispatching device ⟨desk, .power .on⟩ call :: calls)⟩) :=
    ⟨_, _, _, _, rfl, rfl, rfl⟩
  obtain ⟨st, device, call, calls, hst, hqueue, hop⟩ := hrun
  obtain ⟨hreads, -⟩ :=
    devicesLock_reads lockEnv (.new devices controllers) sceneAndReport st hst
  obtain ⟨hdevice, hof, -⟩ := hreads _ (List.mem_of_getElem? hop) 0 device ⟨desk, .power .on⟩ call
    (by simp [LockUser.updates, List.zipIdx])
  exact ⟨st, device, call, hst, hqueue, hdevice, hof⟩

end Devicectrl
