import Devicectrl.ForStd.JoinAll
import Devicectrl.Native.Emissions
import Devicectrl.Spec.ServerCalls

/-!
# The query of all states

`query_all_device_states` among all tasks of the server: whatever the others store meanwhile, it
queries every device once.

## Key results

- `DeviceCall.Queries.of_dispatch`, `DeviceCall.Queries.step`: a call of `dispatch_query_state`
  sends the query of its device and returns
- `QueryAll.Made.step`: the queries made and those pending are the queries of the table
- `server_queries`: the queries of a run, and that they come to an end
-/

namespace Devicectrl

/-! ## State queries -/

/-- The query that `send_query` of a controller sends for a device. -/
def ControllerConfig.stateQuery (env : ControllerEnv) (id : DeviceId) :
    ControllerConfig → Option Emission
  | .simple _ => some (.simple (.stateQuery id))
  | .krypton _ => some (.krypton (.stateQuery id))
  | .tplink config =>
    match env.toVec Tplink.buildQueryPayload with
    | .error _ => none
    | .ok data => some (.datagram config.address Tplink.SEND_PORT (Tplink.encrypt data))
  | .govee config =>
    match env.toVec Govee.buildQueryPayload with
    | .error _ => none
    | .ok data => some (.datagram config.address Govee.GOVEE_SEND_PORT data)

/-- The queries for the devices of a table whose controllers are enabled, with their keys. -/
def Devices.stateQueries (env : ControllerEnv) (controllers : Controllers) (devices : Devices) :
    List (DeviceId × Emission) :=
  devices.entries.filterMap fun entry =>
    if (controllers.field entry.2.controller).1 then
      (entry.2.controller.stateQuery env entry.2.id).map fun query => (entry.1, query)
    else none

/-- How a send has ended. -/
def DeviceLabel.sendResult : DeviceLabel → Option (Except Error Unit)
  | .broadcast result => some result
  | .sent result => some result
  | _ => none

namespace DeviceCall

/-- A call of `send_query` that awaits its send. -/
inductive Queries (env : ControllerEnv) (id : DeviceId) :
    ControllerConfig → DeviceCall → Emission → Prop
  | simple {config} : Queries env id (.simple config) (.broadcast (.stateQuery id))
      (.simple (.stateQuery id))
  | krypton {config} : Queries env id (.krypton config) (.broadcast (.stateQuery id))
      (.krypton (.stateQuery id))
  | tplink {config data} (device : Device)
      (h : env.toVec Tplink.buildQueryPayload = .ok data) : Queries env id (.tplink config)
        (.tplink device (.querying (Tplink.encrypt data)))
        (.datagram config.address Tplink.SEND_PORT (Tplink.encrypt data))
  | govee {config data} (h : env.toVec Govee.buildQueryPayload = .ok data) :
      Queries env id (.govee config) (.govee (.querying data))
        (.datagram config.address Govee.GOVEE_SEND_PORT data)

namespace Queries

variable {env : ControllerEnv} {id : DeviceId} {controller : ControllerConfig} {call : DeviceCall}
  {query : Emission}

/-- The query that is sent is the one that the controller has for the device. -/
theorem stateQuery (h : Queries env id controller call query) :
    controller.stateQuery env id = some query := by
  cases h with
  | simple => rfl
  | krypton => rfl
  | tplink device h => simp [ControllerConfig.stateQuery, h]
  | govee h => simp [ControllerConfig.stateQuery, h]

/-- The query is what the call emits. -/
theorem emission (h : Queries env id controller call query) :
    call.emission controller = some query := by
  cases h <;> rfl

/-- `dispatch_query_state` awaits a query, or has failed before any was sent. -/
theorem of_dispatch (env : ControllerEnv) (app : AppState) (device : Device) :
    (∃ call query, dispatchQueryState env app device = .inl call ∧
      (app.controllers.field device.controller).1 = true ∧
      Queries env device.id device.controller call query) ∨
    ((∃ e, dispatchQueryState env app device = .inr e) ∧
      ((app.controllers.field device.controller).1 = true →
        device.controller.stateQuery env device.id = none)) := by
  unfold dispatchQueryState dispatch
  -- A disabled controller refuses the query, an enabled one may fail to encode it
  split
  · rename_i name hfield
    rw [hfield]
    unfold sendQuery
    cases hc : device.controller with
    | simple config => exact .inl ⟨_, _, rfl, rfl, .simple⟩
    | krypton config => exact .inl ⟨_, _, rfl, rfl, .krypton⟩
    | tplink config =>
      cases hdata : env.toVec Tplink.buildQueryPayload with
      | error e =>
        refine .inr ⟨⟨.error e, ?_⟩, fun _ => ?_⟩
        · simp [Tplink.SendUpdate.sendQuery, Tplink.SendUpdate.sendCommand, hdata]
        · simp [ControllerConfig.stateQuery, hdata]
      | ok data =>
        refine .inl ⟨_, _, ?_, rfl, .tplink device hdata⟩
        simp [Tplink.SendUpdate.sendQuery, Tplink.SendUpdate.sendCommand, hdata]
    | govee config =>
      cases hdata : env.toVec Govee.buildQueryPayload with
      | error e =>
        refine .inr ⟨⟨.error e, ?_⟩, fun _ => ?_⟩
        · simp [Govee.SendUpdate.sendQuery, Govee.SendUpdate.sendCommand, hdata]
        · simp [ControllerConfig.stateQuery, hdata]
      | ok data =>
        refine .inl ⟨_, _, ?_, rfl, .govee hdata⟩
        simp [Govee.SendUpdate.sendQuery, Govee.SendUpdate.sendCommand, hdata]
  · -- without the controller no query is due
    rename_i name hfield
    refine .inr ⟨⟨_, rfl⟩, fun he => ?_⟩
    rw [hfield] at he
    cases he

/-- The call returns as its send ends. -/
theorem step (h : Queries env id controller call query) {l : DeviceLabel}
    {r : DeviceCall ⊕ Except Error Unit} (hstep : call.step env l = some r) :
    ∃ result, l.sendResult = some result ∧ r = .inr result := by
  -- `Simple` and Krypton hand the query to their connections, the other two send a datagram
  cases h with
  | simple | krypton =>
    cases l with
    | broadcast result =>
      cases hstep
      exact ⟨result, rfl, rfl⟩
    | _ => cases hstep
  | tplink | govee =>
    cases l with
    | sent result =>
      cases hstep
      exact ⟨result, rfl, rfl⟩
    | _ => cases hstep

end Queries

end DeviceCall

/-! ## The queries made -/

/-- The query that ends with a part of `query_all_device_states`, with the key of its device, and
how its send has ended. -/
def QueryAll.queries (devices : Devices) :
    QueryAll → QueryAllLabel → List ((DeviceId × Emission) × Except Error Unit)
  | .joining queries, .member j l =>
    match queries[j]?, devices.entries[j]?, l.sendResult with
    | some (_, some call), some entry, some result =>
      ((call.emission entry.2.controller).map fun query => ((entry.1, query), result)).toList
    | _, _, _ => []
  | _, _ => []

/-- The queries that a task sends, with what came of them. -/
def ServerTask.queries (server : ServerState) :
    ServerTask → TaskLabel → List ((DeviceId × Emission) × Except Error Unit)
  | .queryAll call, .queryAll l => call.queries server.app.devices l
  | _, _ => []

section Queries

variable {env : ControllerEnv} {controllers : Controllers} {devices devices' : Devices}

/-- The queries depend on the configuration only. -/
theorem Devices.stateQueries_congr (h : devices'.configs = devices.configs) :
    devices'.stateQueries env controllers = devices.stateQueries env controllers := by
  have hconfigs (devices : Devices) : devices.stateQueries env controllers =
      devices.configs.filterMap fun c =>
        if (controllers.field c.2.2.2).1 then
          (c.2.2.2.stateQuery env c.2.1).map fun query => (c.1, query)
        else none := by
    rw [configs, List.filterMap_map]
    rfl
  rw [hconfigs, hconfigs, h]

/-- The calls that are pending query their devices. -/
def Pending (env : ControllerEnv) (controllers : Controllers)
    (p : (DeviceId × DeviceId × DeviceType × ControllerConfig) × DeviceCall) : Prop :=
  (controllers.field p.1.2.2.2).1 = true ∧
    ∃ query, p.2.Queries env p.1.2.1 p.1.2.2.2 query

/-- The query of a call that is pending. -/
def pendingQuery (p : (DeviceId × DeviceId × DeviceType × ControllerConfig) × DeviceCall) :
    Option (DeviceId × Emission) :=
  (p.2.emission p.1.2.2.2).map fun query => (p.1.1, query)

/-- Each device is queried once: the queries made so far, and those that are still pending. -/
structure QueriesAll (env : ControllerEnv) (controllers : Controllers) (devices : Devices)
    (made : List (DeviceId × Emission)) (calls : List (Option DeviceCall)) : Prop where
  length : calls.length = devices.configs.length
  pending : ∀ p ∈ JoinAll.pending devices.configs calls, Pending env controllers p
  account : (made ++ (JoinAll.pending devices.configs calls).filterMap pendingQuery).Perm
    (devices.stateQueries env controllers)

namespace QueriesAll

variable {made : List (DeviceId × Emission)} {calls : List (Option DeviceCall)}

/-- The queries read of the table only what is configured. -/
theorem congr (h : QueriesAll env controllers devices' made calls)
    (hconfigs : devices'.configs = devices.configs) : QueriesAll env controllers devices made calls := by
  obtain ⟨hlength, hpending, haccount⟩ := h
  rw [hconfigs] at hlength hpending haccount
  rw [Devices.stateQueries_congr hconfigs] at haccount
  exact ⟨hlength, hpending, haccount⟩

/-- `query_all_device_states` has the lock: all queries are pending. -/
theorem begin {app : AppState} (hcontrollers : app.controllers = controllers) :
    QueriesAll env controllers app.devices [] (app.devices.entries.map fun entry =>
      (DeviceCall.dispatchQueryState env app entry.2).getLeft?) := by
  have hmap := JoinAll.pending_map
    (fun entry : (_ : DeviceId) × Device =>
      (DeviceCall.dispatchQueryState env app entry.2).getLeft?)
    (fun entry => (entry.1, entry.2.config)) app.devices.entries
  refine ⟨by simp [Devices.configs], fun p hp => ?_, ?_⟩
  · rw [Devices.configs, hmap] at hp
    obtain ⟨entry, -, hentry⟩ := List.mem_filterMap.mp hp
    obtain ⟨call, hcall, rfl⟩ := Option.map_eq_some_iff.mp hentry
    rcases DeviceCall.Queries.of_dispatch env app entry.2 with
      ⟨call', query, hdispatch, he, hquery⟩ | ⟨⟨e, hdispatch⟩, -⟩
    · rw [hdispatch] at hcall
      cases hcall
      exact ⟨hcontrollers ▸ he, query, hquery⟩
    · rw [hdispatch] at hcall
      cases hcall
  · rw [Devices.configs, hmap, List.nil_append, List.filterMap_filterMap, Devices.stateQueries]
    -- Entry by entry: it has a query if its controller is enabled and the payload can be encoded
    apply List.Perm.of_eq
    apply List.filterMap_congr
    intro entry _
    subst hcontrollers
    rcases DeviceCall.Queries.of_dispatch env app entry.2 with
      ⟨call, query, hdispatch, he, hquery⟩ | ⟨⟨e, hdispatch⟩, hnone⟩
    · rw [hdispatch, if_pos he, hquery.stateQuery]
      show pendingQuery ((entry.1, entry.2.config), call) = some (entry.1, query)
      rw [pendingQuery, Device.config, hquery.emission, Option.map_some]
    · rw [hdispatch]
      by_cases he : (app.controllers.field entry.2.controller).1 = true
      · simp [he, hnone he]
      · simp [he]

/-- A query that is pending ends as its send does. -/
theorem member (h : QueriesAll env controllers devices made calls) {j : Nat} {call : DeviceCall}
    {key : DeviceId} {device : Device} {l : DeviceLabel} {r : DeviceCall ⊕ Except Error Unit}
    (hcall : calls[j]? = some (some call))
    (hdevice : devices.configs[j]? = some (key, device.config))
    (hstep : call.step env l = some r) :
    ∃ query result, call.emission device.controller = some query ∧ l.sendResult = some result ∧
      r = .inr result ∧ QueriesAll env controllers devices (made ++ [(key, query)]) (calls.set j none) := by
  have hmem := JoinAll.mem_pending hdevice hcall
  obtain ⟨-, query, hquery⟩ := h.pending _ hmem
  -- The query has been handed over or sent, with the result that the step shows
  obtain ⟨result, hresult, rfl⟩ := hquery.step hstep
  have hperm := JoinAll.pending_set_none h.length hdevice hcall
  refine ⟨query, result, hquery.emission, hresult, rfl, by simpa using h.length, fun p hp => ?_, ?_⟩
  · -- those pending were pending before
    exact h.pending p (hperm.symm.subset (List.mem_cons_of_mem _ hp))
  · -- the query goes over from those pending to those made
    have hpending := hperm.filterMap pendingQuery
    have hhead : pendingQuery ((key, device.config), call) = some (key, query) := by
      simp [pendingQuery, hquery.emission]
    rw [List.filterMap_cons_some hhead] at hpending
    rw [List.append_assoc, List.singleton_append]
    exact (hpending.symm.append_left made).trans h.account

end QueriesAll

/-- What `query_all_device_states` has done, with the queries made so far. -/
def QueryAll.Made (env : ControllerEnv) (controllers : Controllers) (devices : Devices)
    (made : List (DeviceId × Emission)) : QueryAll → Prop
  | .begin => made = []
  | .joining queries => QueriesAll env controllers devices made (queries.map Prod.snd)
  | .returned => made.Perm (devices.stateQueries env controllers)

namespace QueryAll

variable {call call' : QueryAll} {made : List (DeviceId × Emission)}

/-- The queries so far read of the table only what is configured. -/
theorem Made.congr (h : call.Made env controllers devices' made)
    (hconfigs : devices'.configs = devices.configs) : call.Made env controllers devices made := by
  cases call with
  | begin => exact h
  | joining queries => exact QueriesAll.congr h hconfigs
  | returned =>
    simp only [Made] at h ⊢
    rw [← Devices.stateQueries_congr hconfigs]
    exact h

/-- A step of `query_all` sends the query of one device, once. -/
theorem Made.step {app app' : AppState} {l : QueryAllLabel} (env : DevicesEnv)
    (h : call.Made env.controllers app.controllers app.devices made)
    (hstep : call.step env app l = some (app', call')) :
    call'.Made env.controllers app.controllers app.devices
      (made ++ (call.queries app.devices l).map Prod.fst) := by
  cases (QueryAll.step_cases hstep).2 with
  | begin =>
    obtain rfl : made = [] := h
    simp only [Made, List.map_map]
    exact QueriesAll.begin rfl
  | @member calls j device call l r hquery hr =>
    have hcall : (calls.map Prod.snd)[j]? = some (some call) := by
      rw [List.getElem?_map, hquery, Option.map_some]
    have hlt : j < app.devices.entries.length := by
      have hlength := QueriesAll.length h
      have hj := (List.getElem?_eq_some_iff.mp hcall).1
      rw [hlength, Devices.configs, List.length_map] at hj
      exact hj
    have hentry := List.getElem?_eq_getElem hlt
    have hconfig : app.devices.configs[j]? =
        some (app.devices.entries[j].1, app.devices.entries[j].2.config) := by
      rw [Devices.configs, List.getElem?_map, hentry, Option.map_some]
    obtain ⟨query, result, hemission, hresult, rfl, hrest⟩ :=
      QueriesAll.member h hcall hconfig hr
    simpa [Made, queries, hquery, hentry, hresult, hemission, List.map_set] using hrest
  | joined hall =>
    -- Nothing is pending any more, so the queries made are all there are
    have haccount := QueriesAll.account h
    have hnone : ((List.map Prod.snd _).all Option.isNone) = true :=
      (List.all_map ..).trans hall
    rw [JoinAll.pending_eq_nil hnone, List.filterMap_nil, List.append_nil] at haccount
    simpa [Made, queries] using haccount

/-- A query that is broadcast has reached its controller if the call of that has not failed. -/
theorem Made.sent {app app' : AppState} {l : QueryAllLabel} (env : DevicesEnv)
    (h : call.Made env.controllers app.controllers app.devices made)
    (hstep : call.step env app l = some (app', call'))
    (hok : ∀ c ∈ call.controllerCall? app.devices l, c.toSimple app.controllers = true ∨
      c.toKrypton app.controllers = true → c.outcome = .ok ()) :
    ∀ p ∈ call.queries app.devices l,
      p.2 = .ok () ∨ ∃ address port data, p.1.2 = .datagram address port data := by
  intro p hp
  unfold queries at hp
  split at hp
  · rename_i calls j l
    split at hp
    · rename_i device call entry result hquery hentry hresult
      have hcall : (calls.map Prod.snd)[j]? = some (some call) := by
        rw [List.getElem?_map, hquery, Option.map_some]
      obtain ⟨query, hemission, rfl⟩ := Option.map_eq_some_iff.mp (Option.mem_toList.mp hp)
      have hconfig : app.devices.configs[j]? = some (entry.1, entry.2.config) := by
        rw [Devices.configs, List.getElem?_map, hentry, Option.map_some]
      obtain ⟨he, query', hqueries⟩ := QueriesAll.pending h _ (JoinAll.mem_pending hconfig hcall)
      obtain rfl := Option.some.inj (hemission.symm.trans hqueries.emission)
      rw [Device.config] at he hqueries
      dsimp only at he hqueries
      have hr : ∃ r, call.step env.controllers l = some r := by
        cases (QueryAll.step_cases hstep).2 with
        | member hquery' hr =>
          cases hquery.symm.trans hquery'
          exact ⟨_, hr⟩
      obtain ⟨r, hr⟩ := hr
      -- The Simple and the Krypton controller are called to send it, and that call was `Ok`
      generalize hcontroller : entry.2.controller = controller at hqueries he
      cases hqueries with
      | simple =>
        left
        cases l with
        | broadcast result' =>
          obtain rfl := Option.some.inj hresult
          apply hok (.sendQuery entry.2 result')
          · simp [controllerCall?, hquery, hentry]
          · simp only [Controllers.field] at he
            simp [ControllerCall.toSimple, ControllerCall.device, hcontroller, he]
        | _ => cases hr
      | krypton =>
        left
        cases l with
        | broadcast result' =>
          obtain rfl := Option.some.inj hresult
          apply hok (.sendQuery entry.2 result')
          · simp [controllerCall?, hquery, hentry]
          · simp only [Controllers.field] at he
            simp [ControllerCall.toKrypton, ControllerCall.device, hcontroller, he]
        | _ => cases hr
      | tplink => exact .inr ⟨_, _, _, rfl⟩
      | govee => exact .inr ⟨_, _, _, rfl⟩
    · cases hp
  · cases hp

end QueryAll

end Queries

/-! ## Runs -/

section Runs

variable {env : ServerEnv} {config : Config} {devices : Devices} {i : Nat}
  {st : System.State ServerState ServerTask}
  {as : List (System.Act Unit TaskStart TaskLabel)}
  {made : List ((DeviceId × Emission) × Except Error Unit)}

/-- What a task that is `query_all_device_states` has done. -/
structure Queried (env : ServerEnv) (config : Config) (devices : Devices)
    (made : List ((DeviceId × Emission) × Except Error Unit)) (task : ServerTask) : Prop where
  progress : ∀ call, task = .queryAll call →
    call.Made env.controllers (.new config.controllers) devices (made.map Prod.fst)
  sent : ∀ p ∈ made, p.2 = .ok () ∨ ∃ address port data, p.1.2 = .datagram address port data

namespace Queried

/-- A task that sends no queries has sent none. -/
theorem nothing {task : ServerTask} (h : ∀ call, task = .queryAll call → call = .begin) :
    Queried env config devices [] task := by
  refine ⟨fun call hcall => ?_, fun _ hp => absurd hp List.not_mem_nil⟩
  rw [h call hcall]
  rfl

/-- The queries of a part of the task, and how they have ended. -/
theorem step {task task' : ServerTask} {l : TaskLabel} {server : ServerState}
    (h : Queried env config devices made task)
    (hrun : (serverTasks env config).run (serverInitial config devices) as = some st)
    (hstep : ServerTask.Step env config st.shared task l server task') :
    Queried env config devices (made ++ task.queries st.shared l) task' := by
  have hserves := Serves.run hrun
  cases hstep with
  | @queryAll call l called call' hcall hq =>
    -- States may have been stored since it began, but the queries are those of the configuration
    have hmade := (h.progress call rfl).congr hserves.configs.symm
    rw [← hserves.controllers] at hmade
    obtain ⟨hpos, hpos'⟩ := receivers_pos hrun
    obtain ⟨-, -, hok⟩ := hcall.sent_eq hpos hpos'
    refine ⟨fun call₁ hcall₁ => ?_, fun p hp => ?_⟩
    · cases hcall₁
      have hnext := (hmade.step (ServerTask.devicesEnv env config) hq).congr hserves.configs
      rw [hserves.controllers] at hnext
      rw [List.map_append]
      exact hnext
    · rcases List.mem_append.mp hp with hp | hp
      · exact h.sent p hp
      · exact hmade.sent (ServerTask.devicesEnv env config) hq hok p hp
  | _ =>
    refine ⟨fun call hcall => (by cases hcall), ?_⟩
    simpa [ServerTask.queries] using h.sent

/-- In every run the queries sent are those of the configuration. -/
theorem run (hrun : (serverTasks env config).run (serverInitial config devices) as = some st)
    {task : ServerTask} (hi : st.comps[i]? = some task) :
    Queried env config devices (Lts.observe (serverTasks env config).exec
      (System.shows ServerTask.queries i) (serverInitial config devices) as) task := by
  refine System.run_shows (fun task htask => nothing fun call hcall => ?_)
    (fun _ hspawn => nothing fun call hcall => ?_)
    (fun hm _ hstep h => h.step hm (ServerTask.step_cases hstep)) hrun hi
  · subst hcall
    cases mainTasks_cases (List.mem_of_getElem? htask)
    rfl
  · subst hcall
    cases acceptTask_cases hspawn

end Queried

/-- In every run of the server, with all its tasks in any order and whatever is stored meanwhile:
`query_all_device_states` sends no query but the ones of the devices of the table whose controllers
are enabled, each at most once, and exactly once by the time it returns. What it hands to the Simple
or the Krypton controller is always broadcast. -/
theorem server_queries (env : ServerEnv) (config : Config) (devices : Devices)
    (as : List (System.Act Unit TaskStart TaskLabel)) (st : System.State ServerState ServerTask)
    (h : (serverTasks env config).run (serverInitial config devices) as = some st)
    (i : Nat) (call : QueryAll) (hi : st.comps[i]? = some (.queryAll call)) :
    let made := Lts.observe (serverTasks env config).exec (System.shows ServerTask.queries i)
      (serverInitial config devices) as
    let queries := devices.stateQueries env.controllers (.new config.controllers)
    (made.map Prod.fst).Subperm queries ∧
      (call = .returned → (made.map Prod.fst).Perm queries) ∧
      ∀ p ∈ made, p.2 = .ok () ∨ ∃ address port data, p.1.2 = .datagram address port data := by
  have hqueried := Queried.run h hi
  have hmade := hqueried.progress call rfl
  refine ⟨?_, fun hreturned => ?_, hqueried.sent⟩
  · -- no query yet, those whose calls have returned, or all
    cases call with
    | begin =>
      rw [show _ = [] from hmade]
      exact List.nil_subperm
    | joining calls =>
      exact (List.sublist_append_left _ _).subperm.trans (QueriesAll.account hmade).subperm
    | returned => exact List.Perm.subperm hmade
  · subst hreturned
    exact hmade

end Runs

end Devicectrl

namespace Devicectrl

/-- The query of all states, whose second query ends before the first. -/
def ServerTask.Demo.started : List (System.Act Unit TaskStart TaskLabel) :=
  [.step 0 (.queryAll .poll), .step 0 (.queryAll (.member 1 (.broadcast (.ok ())))),
    .step 0 (.queryAll (.member 0 (.broadcast (.ok ())))), .step 0 (.queryAll .joined)]

open ServerTask.Demo in
/-- Both devices of the configuration are asked, and `query_all` returns. -/
theorem server_queries_demo :
    ∃ st, (serverTasks env config).run (serverInitial config devices) started = some st ∧
      st.comps[0]? = some (.queryAll .returned) ∧
      (Lts.observe (serverTasks env config).exec (System.shows ServerTask.queries 0)
        (serverInitial config devices) started).map Prod.snd = [.ok (), .ok ()] ∧
      ((Lts.observe (serverTasks env config).exec (System.shows ServerTask.queries 0)
        (serverInitial config devices) started).map Prod.fst).Perm
          (devices.stateQueries env.controllers (.new config.controllers)) :=
  ⟨_, rfl, rfl, rfl, (server_queries env config devices started _ rfl 0 .returned rfl).2.1 rfl⟩

end Devicectrl
