import Devicectrl.ForStd.BoundedWaiting
import Devicectrl.Spec.GuardedDevices

/-!
# Waiting for the devices lock ends

A call of a controller awaits at most four times, and the queries of all devices share one guard
with so many awaits for each. So the operations that are there can always bring it about that
whoever waits for the lock gets it, and there is a bound on the actions that this takes.

## Key results

- `LockUser.finishes`: the parts that an operation has left get fewer
- `devicesLock_serves`: whoever waits can be served, and waits for its turn only
-/

namespace Devicectrl

open RwLock (Need Future TryJoinAll Body)

variable {env : DevicesEnv} {controllers : ControllerEnv} {app app' : AppState}

/-! ## Calls of controllers -/

/-- How often a call of the Tplink controller still awaits. -/
def Tplink.SendUpdate.parts : Tplink.SendUpdate → Nat
  | .binding _ => 4
  | .sending _ => 3
  | .receiving => 2
  | .querying _ => 1

/-- How often a call of the Govee controller still awaits. -/
def Govee.SendUpdate.parts : Govee.SendUpdate → Nat
  | .sending _ => 3
  | .sleeping => 2
  | .querying _ => 1

namespace DeviceCall

/-- How often a call of a controller still awaits. -/
def parts : DeviceCall → Nat
  | .broadcast _ => 1
  | .tplink _ call => call.parts
  | .govee call => call.parts

/-- A call that has returned awaits no more. -/
def partsLeft (r : DeviceCall ⊕ Except Error Unit) : Nat :=
  r.elim parts fun _ => 0

/-- Whatever a controller was asked for, it has at most four parts to go. -/
theorem partsLeft_le (r : DeviceCall ⊕ Except Error Unit) : partsLeft r ≤ 4 := by
  rcases r with call | result
  · rcases call with message | ⟨device, call⟩ | call
    · exact Nat.le_add_left 1 3
    · cases call <;> simp [partsLeft, parts, Tplink.SendUpdate.parts]
    · cases call <;> simp [partsLeft, parts, Govee.SendUpdate.parts]
  · exact Nat.zero_le 4

/-- A command that is sent leads to one more await, unless it cannot be encoded. -/
theorem partsLeft_tplink_command (env : ControllerEnv) (device : Device) (command : Json.Value)
    {next : List UInt8 → Tplink.SendUpdate} {n : Nat} (hn : ∀ data, (next data).parts < n) :
    partsLeft ((Tplink.SendUpdate.sendCommand env command next).map (.tplink device) id) < n := by
  have hpos := Nat.zero_lt_of_lt (hn [])
  unfold Tplink.SendUpdate.sendCommand
  split
  · exact hpos
  · exact hn _

/-- A command that is sent to a light leaves fewer parts than before. -/
theorem partsLeft_govee_command (env : ControllerEnv) (command : Json.Value)
    {next : List UInt8 → Govee.SendUpdate} {n : Nat} (hn : ∀ data, (next data).parts < n) :
    partsLeft ((Govee.SendUpdate.sendCommand env command next).map .govee id) < n := by
  have hpos := Nat.zero_lt_of_lt (hn [])
  unfold Govee.SendUpdate.sendCommand
  split
  · exact hpos
  · exact hn _

/-- What has been awaited is not awaited again. -/
theorem step_parts {call : DeviceCall} {l : DeviceLabel} {r : DeviceCall ⊕ Except Error Unit}
    (h : call.step controllers l = some r) : partsLeft r < call.parts := by
  cases call with
  | broadcast message =>
    cases l with
    | broadcast result =>
      cases h
      exact Nat.zero_lt_one
    | _ => cases h
  | tplink device call =>
    obtain ⟨s, hs, rfl⟩ := Option.map_eq_some_iff.mp h
    cases Tplink.SendUpdate.step_cases hs with
    | bind => exact partsLeft_tplink_command _ _ _ fun _ => Nat.lt_succ_self 3
    | send => exact Nat.lt_succ_self 2
    | receive =>
      -- The answer is checked, and the state queried if it was a success
      unfold Tplink.SendUpdate.confirm
      split
      · exact Nat.zero_lt_two
      · split
        · exact Nat.zero_lt_two
        · exact Nat.zero_lt_two
        · exact partsLeft_tplink_command _ _ _ fun _ => Nat.lt_succ_self 1
    | bindFails => exact Nat.zero_lt_succ 3
    | sendFails => exact Nat.zero_lt_succ 2
    | receiveFails => exact Nat.zero_lt_succ 1
    | timeOut => exact Nat.zero_lt_succ 1
    | query => exact Nat.zero_lt_one
  | govee call =>
    obtain ⟨s, hs, rfl⟩ := Option.map_eq_some_iff.mp h
    cases Govee.SendUpdate.step_cases hs with
    | send => exact Nat.lt_succ_self 2
    | sleep => exact partsLeft_govee_command _ _ fun _ => Nat.lt_succ_self 1
    | sendFails => exact Nat.zero_lt_succ 2
    | query => exact Nat.zero_lt_one

end DeviceCall

/-! ## Update requests and queries -/

/-- The number of devices, which no step changes. -/
def AppState.deviceCount (app : AppState) : Nat :=
  app.devices.entries.length

/-- Who leaves the devices leaves their number. -/
theorem AppState.deviceCount_of_devices (h : app'.devices = app.devices) :
    app'.deviceCount = app.deviceCount := by
  rw [deviceCount, h, deviceCount]

/-- The parts of `process_update_request` that are left. -/
def UpdateCall.parts : UpdateCall → Nat
  | .begin _ => 5
  | .dispatching _ _ call => call.parts
  | .returned _ => 0

/-- The parts of a request that goes on are those of its controller. -/
theorem UpdateCall.parts_after (device : Device) (request : UpdateRequest)
    (r : DeviceCall ⊕ Except Error Unit) :
    (after device request r).parts = DeviceCall.partsLeft r := by
  cases r with
  | inl call => rfl
  | inr result => rfl

/-- `process_update_request` has fewer parts to go after each step. -/
theorem processUpdateRequest_finishes (env : DevicesEnv) :
    (processUpdateRequest env).Finishes AppState.deviceCount fun _ => UpdateCall.parts where
  same := by
    intro app call l app' call' hstep
    exact AppState.deviceCount_of_devices (UpdateCall.step_devices hstep)
  less := by
    intro app call l app' call' hstep _
    -- Each step leaves less to do of the request
    cases UpdateCall.step_cases hstep with
    | refuse hbegin => exact Nat.zero_lt_succ 4
    | send hbegin =>
      rw [UpdateCall.parts_after]
      exact Nat.lt_succ_of_le (DeviceCall.partsLeft_le _)
    | device hr =>
      rw [UpdateCall.parts_after]
      exact DeviceCall.step_parts hr

/-- The parts of a state query that are left. -/
def StateQuery.parts : StateQuery → Nat
  | .begin _ => 5
  | .dispatching _ _ call => call.parts
  | .returned _ => 0

/-- The parts of a query that goes on are those of its controller. -/
theorem StateQuery.parts_after (deviceId : DeviceId) (device : Device)
    (r : DeviceCall ⊕ Except Error Unit) :
    (after deviceId device r).parts = DeviceCall.partsLeft r := by
  cases r with
  | inl call => rfl
  | inr result => rfl

/-- A state query has fewer parts to go after each step. -/
theorem queryState_finishes (env : DevicesEnv) :
    (queryState env).Finishes AppState.deviceCount fun _ => StateQuery.parts where
  same := by
    intro app call l app' call' hstep
    rw [(StateQuery.step_cases hstep).1]
  less := by
    intro app call l app' call' hstep _
    -- Each step leaves less to do of the query
    cases (StateQuery.step_cases hstep).2 with
    | unknown hnone => exact Nat.zero_lt_succ 4
    | found hdevice =>
      rw [StateQuery.parts_after]
      exact Nat.lt_succ_of_le (DeviceCall.partsLeft_le _)
    | device hr =>
      rw [StateQuery.parts_after]
      exact DeviceCall.step_parts hr

/-- The parts of `query_all_device_states` that are left, with so many devices. -/
def QueryAll.parts (count : Nat) : QueryAll → Nat
  | .begin => 4 * count + 2
  | .joining queries => (queries.map fun query => query.2.elim 0 DeviceCall.parts).sum + 1
  | .returned => 0

/-- A query that has ended has no parts left. -/
theorem QueryAll.elim_getLeft? (r : DeviceCall ⊕ Except Error Unit) :
    r.getLeft?.elim 0 DeviceCall.parts = DeviceCall.partsLeft r := by
  cases r with
  | inl call => rfl
  | inr result => rfl

/-- All queries together await at most four times as often as there are devices. -/
theorem QueryAll.sum_parts_le {α : Type} (device : α → Device)
    (f : α → DeviceCall ⊕ Except Error Unit) (l : List α) :
    ((l.map fun a => (device a, (f a).getLeft?)).map fun query =>
      query.2.elim 0 DeviceCall.parts).sum ≤ 4 * l.length := by
  induction l with
  | nil => exact Nat.le_refl _
  | cons a l ih =>
    have hle := DeviceCall.partsLeft_le (f a)
    rw [List.map_cons, List.map_cons, List.sum_cons, elim_getLeft?, List.length_cons]
    omega

/-- `query_all_device_states` has fewer parts to go after each step. -/
theorem queryAllDeviceStates_finishes (env : DevicesEnv) :
    (queryAllDeviceStates env).Finishes AppState.deviceCount QueryAll.parts where
  same := by
    intro app call l app' call' hstep
    rw [(QueryAll.step_cases hstep).1]
  less := by
    intro app call l app' call' hstep _
    cases (QueryAll.step_cases hstep).2 with
    -- A member for each device of the table, and the join itself
    | begin =>
      have hle := QueryAll.sum_parts_le (fun entry : (_ : DeviceId) × Device => entry.2)
        (fun entry => DeviceCall.dispatchQueryState env.controllers app entry.2)
        app.devices.entries
      simp only [QueryAll.parts, AppState.deviceCount]
      omega
    -- One member has less to do, and the others what they had
    | @member queries i device call l r hi hr =>
      have hless := DeviceCall.step_parts hr
      have hsum := List.sum_map_set (fun query : Device × Option DeviceCall =>
        query.2.elim 0 DeviceCall.parts) hi (device, r.getLeft?)
      simp only [QueryAll.elim_getLeft?, Option.elim_some] at hsum
      simp only [QueryAll.parts]
      omega
    | joined hall => exact Nat.succ_pos _

/-! ## Lookups and messages -/

/-- A lookup awaits the lock, and is over. -/
def Lookup.parts {α β : Type} : Lookup α β → Nat
  | .begin _ => 1
  | .returned _ => 0

/-- A lookup has one part. -/
theorem lookupDevices_finishes {α β : Type} (f : AppState → α → β) :
    (lookupDevices f).Finishes AppState.deviceCount fun _ => Lookup.parts where
  same := by
    intro app call l app' call' hstep
    cases call with
    -- There is one step
    | begin a =>
      cases hstep
      rfl
    | returned b => cases hstep
  less := by
    intro app call l app' call' hstep _
    cases call with
    | begin a =>
      cases hstep
      exact Nat.zero_lt_one
    | returned b => cases hstep

/-- The parts of the handling of a message that are left. -/
def MessageCall.parts : MessageCall → Nat
  | .begin _ => 3
  | .processing (.store _) => 2
  | .processing (.sendHook _) => 1
  | .returned _ => 0

/-- A store replaces the state of a device that is there. -/
theorem storeNotification_deviceCount {update : UpdateNotification}
    (h : storeNotification update app = .ok app') : app'.deviceCount = app.deviceCount := by
  obtain ⟨device, -, rfl⟩ := storeNotification_ok h
  have hkeys := congrArg List.length
    (AList.keys_replace update.deviceId { device with state := update.newState } app.devices)
  simpa only [AppState.deviceCount, AList.keys, List.keys, List.length_map] using hkeys

/-- Handling a message has fewer parts to go after each step. -/
theorem messageHandling_finishes (env : DevicesEnv) :
    (messageHandling env).Finishes AppState.deviceCount fun _ => MessageCall.parts where
  same := by
    intro app call l app' call' hstep
    cases call with
    | begin source =>
      cases hstep
      rfl
    | returned result => cases hstep
    | processing call =>
      simp only [messageHandling, MessageCall.step] at hstep
      split at hstep
      · rename_i app₁ call₁ hcall
        cases hstep
        cases processUpdateNotification_cases hcall with
        | store hs => exact storeNotification_deviceCount hs
      · rename_i app₁ result hcall
        cases hstep
        cases processUpdateNotification_cases hcall with
        | sendHook hs => exact AppState.deviceCount_of_devices (sendNotificationHook_ok hs).1
        | failStore he => rfl
        | failHook he => rfl
  less := by
    intro app call l app' call' hstep _
    cases call with
    | begin source =>
      cases hstep
      -- At most a report is left to process
      unfold MessageCall.after
      split
      · exact Nat.zero_lt_succ 2
      · exact Nat.zero_lt_succ 2
      · exact Nat.lt_succ_self 2
    | returned result => cases hstep
    | processing call =>
      simp only [messageHandling, MessageCall.step] at hstep
      split at hstep
      · rename_i app₁ call₁ hcall
        cases hstep
        cases processUpdateNotification_cases hcall with
        | store hs => exact Nat.lt_succ_self 1
      · rename_i app₁ result hcall
        cases hstep
        cases processUpdateNotification_cases hcall with
        | sendHook hs => exact Nat.zero_lt_one
        | failStore he => exact Nat.zero_lt_succ 1
        | failHook he => exact Nat.zero_lt_one

/-! ## Automations

Between two requests they need no lock, however long that takes. -/

/-- The parts of the request that the automation awaits. -/
def DependencyCall.parts : DependencyCall → Nat
  | .requesting _ call _ => call.parts
  | _ => 0

/-- The parts of the automation are those of its call. -/
theorem DependencyCall.parts_afterRequest (app : AppState) (receiver : Broadcast.Receiver)
    (context : String) (call : UpdateCall) :
    (afterRequest app receiver context call).2.parts = call.parts := by
  cases call with
  | returned result => rcases result with e | ⟨⟩ <;> rfl
  | _ => rfl

/-- The automation has fewer parts to go after each step of a call. -/
theorem dependencyAutomation_finishes (env : DevicesEnv) :
    (dependencyAutomation env).Finishes AppState.deviceCount fun _ => DependencyCall.parts where
  same := by
    intro app call l app' call' hstep
    -- The automation steps while it has a request, and that is what it needs the lock for
    cases DependencyCall.step_cases hstep with
    | @request receiver call context l app' call' hp =>
      rw [← (processUpdateRequest_finishes env).same hp]
      exact AppState.deviceCount_of_devices
        (DependencyCall.devices_afterRequest app' receiver context call')
    | _ => rfl
  less := by
    intro app call l app' call' hstep hneed
    cases DependencyCall.step_cases hstep with
    | request hp =>
      rw [DependencyCall.parts_afterRequest]
      exact (processUpdateRequest_finishes env).less hp hneed
    | _ => exact absurd rfl hneed

/-- The parts of the request that a ramp awaits. -/
def Ramp.parts : Ramp → Nat
  | .requesting call _ => call.parts
  | _ => 0

/-- The parts of a ramp are those of its call. -/
theorem Ramp.parts_afterRequest (rest : List UpdateRequest) (call : UpdateCall) :
    (afterRequest rest call).parts = call.parts := by
  cases call with
  | returned result => rcases result with e | ⟨⟩ <;> rfl
  | _ => rfl

/-- A ramp has fewer parts to go after each step of a call. -/
theorem sunsetRamp_finishes (env : DevicesEnv) :
    (sunsetRamp env).Finishes AppState.deviceCount fun _ => Ramp.parts where
  same := by
    intro app ramp l app' ramp' hstep
    cases Ramp.step_cases hstep with
    | request hp => exact (processUpdateRequest_finishes env).same hp
    | slept => rfl
  less := by
    intro app ramp l app' ramp' hstep hneed
    -- A ramp that sleeps needs nothing
    cases Ramp.step_cases hstep with
    | request hp =>
      rw [Ramp.parts_afterRequest]
      exact (processUpdateRequest_finishes env).less hp hneed
    | slept => exact absurd rfl hneed

/-! ## All operations -/

namespace LockUser

/-- The parts that an operation has left while it needs the lock, with so many devices. -/
def parts (count : Nat) : (Σ user, LockUser.State user) → Nat
  | ⟨.processUpdateRequest, call⟩ => UpdateCall.parts call
  | ⟨.processSceneActivate, calls⟩ => TryJoinAll.parts (fun _ => UpdateCall.parts) count calls
  | ⟨.stateQuery, call⟩ => StateQuery.parts call
  | ⟨.queryAllDeviceStates, call⟩ => QueryAll.parts count call
  | ⟨.catalog, call⟩ => Lookup.parts call
  | ⟨.publicKey, call⟩ => Lookup.parts call
  | ⟨.deviceCerts, call⟩ => Lookup.parts call
  | ⟨.handleMessage, call⟩ => MessageCall.parts call
  | ⟨.dependencies, call⟩ => DependencyCall.parts call
  | ⟨.sunset, ramps⟩ => TryJoinAll.parts (fun _ => Ramp.parts) count ramps

/-- Every user of the lock finishes what it does under a guard. -/
theorem finishes (env : DevicesEnv) (user : LockUser) :
    (user.body env).Finishes AppState.deviceCount fun count op => parts count ⟨user, op⟩ := by
  cases user with
  | processUpdateRequest => exact (processUpdateRequest_finishes env).body
  | processSceneActivate => exact TryJoinAll.finishes (processUpdateRequest_finishes env)
  | stateQuery => exact (queryState_finishes env).body
  | queryAllDeviceStates => exact (queryAllDeviceStates_finishes env).body
  | catalog => exact (lookupDevices_finishes _).body
  | publicKey => exact (lookupDevices_finishes _).body
  | deviceCerts => exact (lookupDevices_finishes _).body
  | handleMessage => exact (messageHandling_finishes env).body
  | dependencies => exact (dependencyAutomation_finishes env).body
  | sunset => exact TryJoinAll.finishes (sunsetRamp_finishes env)

end LockUser

/-- All operations on the device table finish what they do under a guard. -/
theorem devicesLock_finishes (env : DevicesEnv) :
    (devicesLock env).Finishes AppState.deviceCount LockUser.parts := by
  have hparts := Body.sigma_finishes (LockUser.finishes env)
  exact hparts.operations _ _

/-- In every state of every run: whoever waits for the lock can be served by what the operations
that are there do next, in no more actions than they have parts left and the queue is long. It
then has the lock, or needs it no more because its siblings have ended. And whatever is done
instead, nobody stays in the queue for more turns than its place there. -/
theorem devicesLock_serves (env : DevicesEnv) (app : AppState)
    (as : List (RwLock.Act Task LockCall (Σ user, LockUser.Label user)))
    (st : RwLock.State AppState (Σ user, LockUser.State user))
    (hrun : (devicesLock env).run (.initial app) as = some st) (o : RwLock.Owner)
    (hwaits : (devicesLock env).Waits st o) :
    (∃ next served, (devicesLock env).run st next = some served ∧ (∀ a ∈ next, a.GoesOn) ∧
      next.length ≤ RwLock.Operations.total (LockUser.parts st.shared.deviceCount) st +
        st.queue.length + 2 ∧
      ¬(devicesLock env).Waits served o) ∧
    ∀ next st', (devicesLock env).run st next = some st' →
      RwLock.Operations.place st o ≤ (next.map RwLock.Act.acquires).sum →
      ∃ before after m, next = before ++ after ∧ (devicesLock env).run st before = some m ∧
        o ∉ m.queue.map Prod.fst := by
  -- The first half needs the discipline of the operations, the second the queue alone
  have hwellFormed := RwLock.Operations.WellFormed.run _ hrun
  refine ⟨?_, fun next st' hnext hturns => hwellFormed.leaves_queue hnext hturns⟩
  exact (devicesLock_finishes env).served (devicesLock_disciplined env) hwellFormed hwaits

end Devicectrl

namespace Devicectrl

open TableCall.Demo LockUser.Demo in
/-- The report of the lamp waits while an update of the scene has its guard. -/
theorem devicesLock_serves_demo :
    ∃ st, (devicesLock lockEnv).run (.initial (.new devices controllers)) sceneAndReport =
        some st ∧
      (devicesLock lockEnv).Waits st (1, 0) ∧
      ∃ next served, (devicesLock lockEnv).run st next = some served ∧
        ¬(devicesLock lockEnv).Waits served (1, 0) := by
  have hrun : ∃ st,
      (devicesLock lockEnv).run (.initial (.new devices controllers)) sceneAndReport = some st ∧
        st.queue = [((1, 0), .write), ((0, 1), .read)] := ⟨_, rfl, rfl⟩
  obtain ⟨st, hst, hqueue⟩ := hrun
  -- A future in the queue awaits the lock, and has not been granted it
  have hwaits : (devicesLock lockEnv).Waits st (1, 0) := by
    obtain ⟨hwants, hgranted⟩ := (RwLock.Operations.WellFormed.run _ hst).queued
      ((1, 0), .write) (by rw [hqueue]; exact List.mem_cons_self)
    exact ⟨by rw [hwants]; simp, hgranted⟩
  obtain ⟨⟨next, served, hnext, -, -, hserved⟩, -⟩ :=
    devicesLock_serves lockEnv (.new devices controllers) sceneAndReport st hst (1, 0) hwaits
  exact ⟨st, hst, hwaits, next, served, hnext, hserved⟩

end Devicectrl
