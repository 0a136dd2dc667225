import Devicectrl.Native.DevicesLock
import Devicectrl.Spec.DeviceTable

/-!
# The devices lock never deadlocks

No operation awaits the lock while one of its guards is in scope, and what it awaits under a
guard ends: a send, a sleep, a response or its timeout. So whoever waits for the lock waits for
somebody who can go on.

## Key results

- `devicesLock_disciplined`: what every operation keeps to
- `devicesLock_run`: in every state of every run, waiting is neither circular nor in vain
-/

namespace Devicectrl

open RwLock (Need Future TryJoinAll Body)

variable {env : DevicesEnv} {app app' : AppState}

/-! ## What operations do

The inversion lemmas of the operations that the other modules have none for. -/

namespace StateQuery

/-- A step of the `StateQuery` of `handle_line`. -/
inductive Step (env : DevicesEnv) (app : AppState) : StateQuery → UpdateLabel → StateQuery → Prop
  | unknown {deviceId} (h : app.devices.lookup deviceId = none) :
      Step env app (.begin deviceId) .poll (.returned (.error ["failed to find device"]))
  | found {deviceId device} (h : app.devices.lookup deviceId = some device) :
      Step env app (.begin deviceId) .poll
        (after deviceId device (DeviceCall.dispatchQueryState env.controllers app device))
  | device {deviceId device call l r} (h : call.step env.controllers l = some r) :
      Step env app (.dispatching deviceId device call) (.device l) (after deviceId device r)

/-- A query changes nothing. -/
theorem step_cases {call call' : StateQuery} {l : UpdateLabel}
    (h : call.step env app l = some (app', call')) : app' = app ∧ Step env app call l call' := by
  unfold step at h
  split at h
  · -- `get(..)` under the guard, which is held from here on
    split at h
    · rename_i hnone
      cases h
      exact ⟨rfl, .unknown hnone⟩
    · rename_i device hdevice
      cases h
      exact ⟨rfl, .found hdevice⟩
  · -- the guard is kept until the controller has been asked
    obtain ⟨r, hr, he⟩ := Option.map_eq_some_iff.mp h
    cases he
    exact ⟨rfl, .device hr⟩
  · cases h

end StateQuery

namespace QueryAll

/-- A step of `query_all_device_states`. -/
inductive Step (env : DevicesEnv) (app : AppState) : QueryAll → QueryAllLabel → QueryAll → Prop
  | begin :
      Step env app .begin .poll (.joining (app.devices.entries.map fun entry =>
        (entry.2, (DeviceCall.dispatchQueryState env.controllers app entry.2).getLeft?)))
  | member {queries i device call l r} (hi : queries[i]? = some (device, some call))
      (h : call.step env.controllers l = some r) :
      Step env app (.joining queries) (.member i l) (.joining (queries.set i (device, r.getLeft?)))
  | joined {queries : List (Device × Option DeviceCall)}
      (h : (queries.all fun query => query.2.isNone) = true) :
      Step env app (.joining queries) .joined .returned

/-- It changes nothing either. -/
theorem step_cases {call call' : QueryAll} {l : QueryAllLabel}
    (h : call.step env app l = some (app', call')) : app' = app ∧ Step env app call l call' := by
  unfold step at h
  split at h
  · cases h
    exact ⟨rfl, .begin⟩
  · -- a member of the `join_all` is polled
    split at h
    · rename_i device call hi
      obtain ⟨r, hr, he⟩ := Option.map_eq_some_iff.mp h
      cases he
      exact ⟨rfl, .member hi hr⟩
    · cases h
  · -- the guard goes with the last member
    split at h
    · rename_i hall
      cases h
      exact ⟨rfl, .joined hall⟩
    · cases h
  · cases h

end QueryAll

namespace DependencyCall

/-- A step of the dependency automation. -/
inductive Step (env : DevicesEnv) (app : AppState) :
    DependencyCall → DependencyLabel → AppState → DependencyCall → Prop
  | fail {receiver e receiver'} (h : app.hooks.sender.recv receiver = some (.error e, receiver')) :
      Step env app (.receiving receiver) .recv (leave app [e.message]).1 (leave app [e.message]).2
  | ignore {receiver event receiver'}
      (h : app.hooks.sender.recv receiver = some (.ok event, receiver'))
      (ho : Dependencies.onEvent env.dependencies event = none) :
      Step env app (.receiving receiver) .recv app (.receiving receiver')
  | answer {receiver event receiver' request context}
      (h : app.hooks.sender.recv receiver = some (.ok event, receiver'))
      (ho : Dependencies.onEvent env.dependencies event = some (request, context)) :
      Step env app (.receiving receiver) .recv app (.requesting receiver' (.begin request) context)
  | request {receiver call context l app' call'}
      (h : call.step env.controllers app l = some (app', call')) :
      Step env app (.requesting receiver call context) (.request l)
        (afterRequest app' receiver context call').1 (afterRequest app' receiver context call').2

theorem step_cases {call call' : DependencyCall} {l : DependencyLabel}
    (h : call.step env app l = some (app', call')) : Step env app call l app' call' := by
  unfold step at h
  split at h
  · -- the automation reads its channel without the lock
    split at h
    · cases h
    · rename_i hrecv
      cases h
      exact .fail hrecv
    · rename_i hrecv
      split at h
      · rename_i ho
        cases h
        exact .ignore hrecv ho
      · rename_i ho
        cases h
        exact .answer hrecv ho
  · -- `process_update_request` is the same as for a client
    rename_i receiver call context l
    obtain ⟨p, hp, he⟩ := Option.map_eq_some_iff.mp h
    obtain ⟨rfl, rfl⟩ := Prod.mk.inj he
    exact .request hp
  · cases h

end DependencyCall

namespace Ramp

/-- A step of a ramp. -/
inductive Step (env : DevicesEnv) (app : AppState) : Ramp → RampLabel → AppState → Ramp → Prop
  | request {call rest l app' call'}
      (h : call.step env.controllers app l = some (app', call')) :
      Step env app (.requesting call rest) (.request l) app' (afterRequest rest call')
  | slept {rest} : Step env app (.sleeping rest) .slept app (start rest)

theorem step_cases {ramp ramp' : Ramp} {l : RampLabel}
    (h : ramp.step env app l = some (app', ramp')) : Step env app ramp l app' ramp' := by
  unfold step at h
  split at h
  · obtain ⟨p, hp, he⟩ := Option.map_eq_some_iff.mp h
    cases he
    exact .request hp
  · cases h
    exact .slept
  · cases h

end Ramp

/-! ## Update requests and queries

Their guards are read guards, and each has its guard from the lock it awaited. -/

/-- An update request only ever reads the table. -/
theorem UpdateCall.read_of_holds {call : UpdateCall} {m : RwLock.Mode}
    (h : m ∈ call.need.holds) : m = .read := by
  cases call with
  | begin request => exact absurd h List.not_mem_nil
  | dispatching device request call => exact List.mem_singleton.mp h
  | returned result => exact absurd h List.not_mem_nil

/-- `process_update_request` asks for its guard before it has one. -/
theorem processUpdateRequest_disciplined (env : DevicesEnv) :
    (processUpdateRequest env).Disciplined where
  keeps := by
    intro app call l app' call' m h hm
    obtain rfl := UpdateCall.read_of_holds hm
    cases call with
    | begin request => exact .inr rfl
    | dispatching device request call => exact .inl List.mem_cons_self
    | returned result => cases h
  alone := by
    intro call h
    cases call with
    | begin request => exact absurd rfl h
    | dispatching device request call => rfl
    | returned result => rfl
  ends := by
    intro call h app
    cases call with
    | begin request =>
      refine ⟨.poll, ?_⟩
      simp only [processUpdateRequest, UpdateCall.step]
      split
      · rfl
      · rfl
    | dispatching device request call =>
      -- A send, a sleep, or a response or its timeout
      obtain ⟨l, hl⟩ := call.exists_step env.controllers
      refine ⟨.device l, ?_⟩
      simp only [processUpdateRequest, UpdateCall.step, Option.isSome_map]
      exact hl
    | returned result => exact absurd rfl h

/-- A state query only ever reads the table. -/
theorem StateQuery.read_of_holds {call : StateQuery} {m : RwLock.Mode}
    (h : m ∈ call.need.holds) : m = .read := by
  cases call with
  | begin deviceId => exact absurd h List.not_mem_nil
  | dispatching deviceId device call => exact List.mem_singleton.mp h
  | returned result => exact absurd h List.not_mem_nil

/-- A state query asks for its guard before it has one. -/
theorem queryState_disciplined (env : DevicesEnv) : (queryState env).Disciplined where
  keeps := by
    intro app call l app' call' m h hm
    obtain rfl := StateQuery.read_of_holds hm
    -- The guard comes with the first poll, and stays until the call has returned
    cases call with
    | begin deviceId => exact .inr rfl
    | dispatching deviceId device call => exact .inl List.mem_cons_self
    | returned result => cases h
  alone := by
    intro call h
    cases call with
    | begin deviceId => exact absurd rfl h
    | dispatching deviceId device call => rfl
    | returned result => rfl
  ends := by
    intro call h app
    cases call with
    | begin deviceId =>
      -- The first poll finds a device or none
      refine ⟨.poll, ?_⟩
      simp only [queryState, StateQuery.step]
      split
      · rfl
      · rfl
    | dispatching deviceId device call =>
      obtain ⟨l, hl⟩ := call.exists_step env.controllers
      refine ⟨.device l, ?_⟩
      simp only [queryState, StateQuery.step, Option.isSome_map]
      exact hl
    | returned result => exact absurd rfl h

/-- `query_all_device_states` only ever reads the table. -/
theorem QueryAll.read_of_holds {call : QueryAll} {m : RwLock.Mode}
    (h : m ∈ call.need.holds) : m = .read := by
  cases call with
  | begin => exact absurd h List.not_mem_nil
  | joining queries => exact List.mem_singleton.mp h
  | returned => exact absurd h List.not_mem_nil

/-- The queries of `join_all` await no lock, so one of them goes on or all have returned. -/
theorem QueryAll.joining_step (env : DevicesEnv) (queries : List (Device × Option DeviceCall))
    (app : AppState) : ∃ l, (step env app (.joining queries) l).isSome := by
  -- `join_all` of no queries has all of them back at once
  by_cases hall : (queries.all fun query => query.2.isNone) = true
  · refine ⟨.joined, ?_⟩
    simp only [step, if_pos hall, Option.isSome_some]
  · obtain ⟨⟨device, query⟩, hmem, hquery⟩ : ∃ query ∈ queries, ¬query.2.isNone = true := by
      by_contra hno
      apply hall
      rw [List.all_eq_true]
      intro query hmem
      by_contra hsome
      exact hno ⟨query, hmem, hsome⟩
    obtain ⟨call, rfl⟩ : ∃ call, query = some call := by
      cases query with
      | none => exact absurd rfl hquery
      | some call => exact ⟨call, rfl⟩
    obtain ⟨i, hi⟩ := List.mem_iff_getElem?.mp hmem
    obtain ⟨l, hl⟩ := call.exists_step env.controllers
    refine ⟨.member i l, ?_⟩
    simp only [step, hi, Option.isSome_map]
    exact hl

/-- `query_all_device_states` asks for its guard before it has one. -/
theorem queryAllDeviceStates_disciplined (env : DevicesEnv) :
    (queryAllDeviceStates env).Disciplined where
  keeps := by
    intro app call l app' call' m h hm
    obtain rfl := QueryAll.read_of_holds hm
    cases call with
    -- All members share the guard of the call
    | begin => exact .inr rfl
    | joining queries => exact .inl List.mem_cons_self
    | returned => cases h
  alone := by
    intro call h
    cases call with
    | begin => exact absurd rfl h
    | joining queries => rfl
    | returned => rfl
  ends := by
    intro call h app
    cases call with
    | begin => exact ⟨.poll, rfl⟩
    | joining queries => exact QueryAll.joining_step env queries app
    | returned => exact absurd rfl h

/-! ## Lookups and messages

They await nothing under a guard. -/

/-- A lookup drops its guard when it returns. -/
theorem lookupDevices_disciplined {α β : Type} (f : AppState → α → β) :
    (lookupDevices f).Disciplined where
  keeps := by
    intro app call l app' call' m h hm
    -- The guard is dropped by the step that looks up
    cases call' with
    | begin a => exact absurd hm List.not_mem_nil
    | returned b => exact absurd hm List.not_mem_nil
  alone := by
    intro call h
    cases call with
    | begin a => exact absurd rfl h
    | returned b => rfl
  ends := by
    intro call h app
    cases call with
    | begin a => exact ⟨(), rfl⟩
    | returned b => exact absurd rfl h

/-- Handling a message holds no guard while it waits. -/
theorem MessageCall.need_holds (call : MessageCall) : call.need.holds = [] := by
  cases call with
  | begin source => rfl
  | processing call => cases call <;> rfl
  | returned result => rfl

/-- Handling a message takes one guard after the other. -/
theorem messageHandling_disciplined (env : DevicesEnv) : (messageHandling env).Disciplined where
  keeps := by
    intro app call l app' call' m h hm
    -- A message is handled with guards that no step keeps
    simp only [messageHandling, call'.need_holds] at hm
    exact absurd hm List.not_mem_nil
  alone := by
    intro call h
    exact absurd call.need_holds h
  ends := by
    intro call h app
    refine ⟨(), ?_⟩
    cases call with
    | begin source => rfl
    | processing call =>
      simp only [messageHandling, MessageCall.step]
      split
      · rfl
      · rfl
    | returned result => exact absurd rfl h

/-! ## Automations

Their guards are those of the update requests they make. -/

/-- The automation needs what its call needs. -/
theorem DependencyCall.need_afterRequest (app : AppState) (receiver : Broadcast.Receiver)
    (context : String) (call : UpdateCall) :
    (afterRequest app receiver context call).2.need = call.need := by
  cases call with
  | begin request => rfl
  | dispatching device request call => rfl
  | returned result =>
    cases result with
    | error e => rfl
    | ok u => rfl

/-- The automation of dependencies takes one guard for each of its calls. -/
theorem dependencyAutomation_disciplined (env : DevicesEnv) :
    (dependencyAutomation env).Disciplined where
  keeps := by
    intro app call l app' call' m h hm
    cases DependencyCall.step_cases h with
    | request hp =>
      -- A guard after the step is one of the request, which is then still in progress
      simp only [dependencyAutomation, DependencyCall.need_afterRequest] at hm
      exact (processUpdateRequest_disciplined env).keeps hp hm
    -- A request that begins has no guard yet
    | _ => exact absurd hm List.not_mem_nil
  alone := by
    intro call h
    cases call with
    | receiving receiver => rfl
    | requesting receiver call context => exact (processUpdateRequest_disciplined env).alone h
    | returned error => rfl
  ends := by
    intro call h app
    cases call with
    | receiving receiver => exact absurd rfl h
    | requesting receiver call context =>
      obtain ⟨l, hl⟩ := (processUpdateRequest_disciplined env).ends h app
      refine ⟨.request l, ?_⟩
      simp only [dependencyAutomation, DependencyCall.step, Option.isSome_map]
      exact hl
    | returned error => exact absurd rfl h

/-- A ramp that begins holds nothing. -/
theorem Ramp.need_start (requests : List UpdateRequest) : (start requests).need.holds = [] := by
  cases requests with
  | nil => rfl
  | cons request rest => rfl

/-- A ramp needs what its call needs. -/
theorem Ramp.need_afterRequest (rest : List UpdateRequest) (call : UpdateCall) :
    (afterRequest rest call).need = call.need := by
  cases call with
  | begin request => rfl
  | dispatching device request call => rfl
  | returned result =>
    cases result with
    | error e => rfl
    | ok u => rfl

/-- A ramp takes one guard for each of its calls. -/
theorem sunsetRamp_disciplined (env : DevicesEnv) : (sunsetRamp env).Disciplined where
  keeps := by
    intro app ramp l app' ramp' m h hm
    -- A ramp holds what its request holds
    cases Ramp.step_cases h with
    | request hp =>
      simp only [sunsetRamp, Ramp.need_afterRequest] at hm
      exact (processUpdateRequest_disciplined env).keeps hp hm
    | slept =>
      simp only [sunsetRamp, Ramp.need_start] at hm
      exact absurd hm List.not_mem_nil
  alone := by
    intro ramp h
    cases ramp with
    | requesting call rest => exact (processUpdateRequest_disciplined env).alone h
    | sleeping rest => rfl
    | returned result => rfl
  ends := by
    intro ramp h app
    cases ramp with
    | requesting call rest =>
      obtain ⟨l, hl⟩ := (processUpdateRequest_disciplined env).ends h app
      refine ⟨.request l, ?_⟩
      simp only [sunsetRamp, Ramp.step, Option.isSome_map]
      exact hl
    | sleeping rest => exact absurd rfl h
    | returned result => exact absurd rfl h

/-! ## All operations -/

/-- Every user of the lock is disciplined. -/
theorem LockUser.disciplined (env : DevicesEnv) (user : LockUser) :
    (user.body env).Disciplined := by
  cases user with
  | processUpdateRequest => exact (processUpdateRequest_disciplined env).body
  | processSceneActivate => exact TryJoinAll.disciplined (processUpdateRequest_disciplined env)
  | stateQuery => exact (queryState_disciplined env).body
  | queryAllDeviceStates => exact (queryAllDeviceStates_disciplined env).body
  | catalog => exact (lookupDevices_disciplined _).body
  | publicKey => exact (lookupDevices_disciplined _).body
  | deviceCerts => exact (lookupDevices_disciplined _).body
  | handleMessage => exact (messageHandling_disciplined env).body
  | dependencies => exact (dependencyAutomation_disciplined env).body
  | sunset => exact TryJoinAll.disciplined (sunsetRamp_disciplined env)

/-- Update requests begin without a guard, also those that are joined. -/
theorem unguarded_requests (env : DevicesEnv) (scene : List UpdateRequest) :
    (LockUser.body env .processSceneActivate).Unguarded (TryJoinAll.start (scene.map .begin)) :=
  TryJoinAll.unguarded_start fun call hcall => by
    obtain ⟨request, -, rfl⟩ := List.mem_map.mp hcall
    rfl

/-- Ramps that are joined begin without a guard. -/
theorem unguarded_ramps (env : DevicesEnv) (ramps : List (List UpdateRequest)) :
    (LockUser.body env .sunset).Unguarded (TryJoinAll.start (ramps.map .start)) :=
  TryJoinAll.unguarded_start fun ramp hramp => by
    obtain ⟨requests, -, rfl⟩ := List.mem_map.mp hramp
    exact Ramp.need_start requests

/-- An operation starts without a guard. -/
theorem LockCall.unguarded (env : DevicesEnv) (app : AppState) (call : LockCall) :
    (Body.sigma (LockUser.body env)).Unguarded (call.start env app).2 := by
  -- No call begins with a guard
  cases call with
  | updateRequest request => exact Future.unguarded_body rfl
  | activateScene sceneId =>
    simp only [start]
    split
    · exact fun _ => rfl
    · split
      · exact fun _ => rfl
      · exact unguarded_requests env _
  | stateQuery deviceId => exact Future.unguarded_body rfl
  | queryAll => exact Future.unguarded_body rfl
  | queryCatalog => exact Future.unguarded_body rfl
  | publicKey deviceId => exact Future.unguarded_body rfl
  | deviceCerts => exact Future.unguarded_body rfl
  | message source => exact Future.unguarded_body (MessageCall.need_holds _)
  | dependencies => exact Future.unguarded_body rfl
  | sunset ramps => exact unguarded_ramps env ramps

/-- All operations on the device table are disciplined. -/
theorem devicesLock_disciplined (env : DevicesEnv) : (devicesLock env).Disciplined := by
  apply Body.Disciplined.operations (Body.sigma_disciplined (LockUser.disciplined env))
  intro app call app' k h
  obtain ⟨-, rfl⟩ := Prod.mk.inj (Option.some.inj h)
  exact call.unguarded env app

end Devicectrl

namespace Devicectrl

/-- In every state of every run: whoever waits for the lock waits for somebody who can take a
step, nobody waits for itself, and whoever has a guard can take a step. -/
theorem devicesLock_run (env : DevicesEnv) (app : AppState)
    (as : List (RwLock.Act Task LockCall (Σ user, LockUser.Label user)))
    (st : RwLock.State AppState (Σ user, LockUser.State user))
    (hrun : (devicesLock env).run (.initial app) as = some st) :
    (devicesLock env).DeadlockFree st :=
  (devicesLock_disciplined env).deadlockFree hrun

/-- A guard for writing is alone. -/
theorem devicesLock_exclusive (env : DevicesEnv) (app : AppState)
    {as : List (RwLock.Act Task LockCall (Σ user, LockUser.Label user))}
    {st : RwLock.State AppState (Σ user, LockUser.State user)}
    (hrun : (devicesLock env).run (.initial app) as = some st) :
    (devicesLock env).Exclusive st :=
  .run (devicesLock_disciplined env) hrun

end Devicectrl

/-! ## A scene and a report -/

namespace Devicectrl.LockUser.Demo

open TableCall.Demo

def desk : DeviceId := ⟨"desk"⟩

/-- One scene with two updates. -/
def scenes : ScenesConfig :=
  AList.insert ⟨"evening"⟩ [⟨desk, .power .on⟩, ⟨lamp, .power .on⟩] ∅

/-- Every command is one byte, and no response can be read. -/
def lockEnv : DevicesEnv where
  controllers := ⟨fun _ => .error ["EOF while parsing a value"], fun _ => .ok [1], env.govee⟩
  incoming := env
  sort := ⟨.mergeSort _, .mergeSort _⟩
  scenes
  dependencies := []

/-- The scene's first update sleeps under its guard, the lamp's report waits for it, and the
scene's second update waits behind the report. -/
def sceneAndReport : List (RwLock.Act Task LockCall (Σ user, LockUser.Label user)) :=
  [.spawn (.activateScene ⟨"evening"⟩), .enqueue (0, 0), .acquire,
    .step 0 ⟨.processSceneActivate, (0, .poll)⟩,
    .step 0 ⟨.processSceneActivate, (0, .device (.sent (.ok ())))⟩,
    .spawn (.message (.simple lamp (.updateNotification ⟨lamp, true, .switch ⟨.on⟩⟩))),
    .enqueue (1, 0), .enqueue (0, 1)]

end Devicectrl.LockUser.Demo

namespace Devicectrl

open TableCall.Demo LockUser.Demo

/-- The report waits for the scene, and a member of the scene for the report. -/
theorem devicesLock_run_demo :
    ∃ st, (devicesLock lockEnv).run (.initial (.new devices controllers)) sceneAndReport =
        some st ∧
      st.queue = [((1, 0), .write), ((0, 1), .read)] ∧
      (devicesLock lockEnv).guards st (0, 0) = [.read] ∧
      (devicesLock lockEnv).DeadlockFree st := by
  have hrun : ∃ st,
      (devicesLock lockEnv).run (.initial (.new devices controllers)) sceneAndReport = some st ∧
        st.queue = [((1, 0), .write), ((0, 1), .read)] ∧
        (devicesLock lockEnv).guards st (0, 0) = [.read] := ⟨_, rfl, rfl, rfl⟩
  obtain ⟨st, hst, hqueue, hguards⟩ := hrun
  exact ⟨st, hst, hqueue, hguards,
    devicesLock_run lockEnv (.new devices controllers) sceneAndReport st hst⟩

end Devicectrl
