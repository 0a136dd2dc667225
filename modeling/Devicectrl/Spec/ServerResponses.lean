import Devicectrl.ForStd.JoinAll
import Devicectrl.ForStd.RunHistory
import Devicectrl.Spec.RequestLedger

/-!
# What is done for a request

The calls of the controllers that `process_update_request` and `process_scene_activate` have made,
once these calls have ended, and what is returned for them, among all tasks of the server. A request
over HTTP is answered accordingly.

## Key results

- `RequestCall.Progress.step`, `SceneCall.Progress.step`: what a part of a call adds
- `server_responses`: the response to a request over HTTP
-/

namespace Devicectrl

/-! ## Calls of enabled controllers -/

/-- Whether the controller of a call is enabled. -/
def ControllerCall.isEnabled (controllers : Controllers) (call : ControllerCall) : Bool :=
  (controllers.field call.device.controller).1

/-- The call of a controller that is made if the controller is enabled. -/
def callsMade (app : AppState) (call? : Option ControllerCall) : List ControllerCall :=
  call?.toList.filter (·.isEnabled app.controllers)

@[simp] theorem callsMade_none (app : AppState) : callsMade app none = [] := rfl

/-- What a part of a task calls of an enabled controller. -/
def ServerTask.made (server : ServerState) (task : ServerTask) (l : TaskLabel) :
    List ControllerCall :=
  callsMade server.app (task.controllerCall? server.app.devices l)

/-- The state of a server that `main` has set up. -/
structure AppState.IsSetUp (config : Config) (devices : Devices) (app : AppState) : Prop where
  configs : app.devices.configs = devices.configs
  controllers : app.controllers = .new config.controllers
  receivers : 0 < app.hooks.sender.receivers

section

variable {config : Config} {devices : Devices}

/-- The server that serves the configuration is set up for it. -/
theorem Serves.isSetUp {st : System.State ServerState ServerTask} (h : Serves config devices st) :
    st.shared.app.IsSetUp config devices := by
  have hreceivers := h.receivers
  exact ⟨h.configs, h.controllers, by omega⟩

/-- The device of the table is the configured one, whatever its state. -/
theorem AppState.IsSetUp.lookup {app : AppState} (h : app.IsSetUp config devices) (id : DeviceId) :
    (app.devices.lookup id).map Device.config = (devices.lookup id).map Device.config :=
  AList.map_lookup_congr (f := fun _ => Device.config) h.configs id

end

/-- What is called of the controller of a device, and what is returned for it: `missing` if there is
no such device. -/
inductive DeviceId.Dispatched (config : Config) (devices : Devices) (id : DeviceId)
    (missing : Error) (send : Device → Except Error Unit → ControllerCall) :
    List ControllerCall → Except Error Unit → Prop
  | missing (h : devices.lookup id = none) :
      Dispatched config devices id missing send [] (.error missing)
  | disabled {device name} (h : devices.lookup id = some device)
      (he : (Controllers.new config.controllers).field device.controller = (false, name)) :
      Dispatched config devices id missing send []
        (.error [name ++ " controller is not enabled!"])
  | sent {device outcome} (h : (devices.lookup id).map Device.config = some device.config)
      (he : ((Controllers.new config.controllers).field device.controller).1 = true) :
      Dispatched config devices id missing send [send device outcome] outcome

/-- The device is found and its controller answers. -/
theorem DeviceId.Dispatched.of_dispatch {config : Config} {devices : Devices} {id : DeviceId}
    {missing : Error} {send : Device → Except Error Unit → ControllerCall} {app : AppState}
    {device : Device} (hcontrollers : app.controllers = .new config.controllers)
    (hdevice : (devices.lookup id).map Device.config = some device.config)
    (outcome : Except Error Unit) (hsend : (send device outcome).device = device) :
    id.Dispatched config devices missing send (callsMade app (some (send device outcome)))
      (Controllers.dispatchUpdate app device outcome) := by
  rw [Controllers.dispatchUpdate]
  cases hfield : app.controllers.field device.controller with
  | mk enabled name =>
    cases enabled with
    -- An enabled controller is called, and the result is what it has answered
    | true =>
      have hmade : callsMade app (some (send device outcome)) = [send device outcome] := by
        simp [callsMade, ControllerCall.isEnabled, hsend, hfield]
      rw [hmade]
      exact .sent hdevice (by rw [← hcontrollers, hfield])
    -- A disabled one is not, and the result says so
    | false =>
      have hmade : callsMade app (some (send device outcome)) = [] := by
        simp [callsMade, ControllerCall.isEnabled, hsend, hfield]
      obtain ⟨device', hdevice', hconfig⟩ := Option.map_eq_some_iff.mp hdevice
      have hcontroller : device'.controller = device.controller :=
        congrArg (fun p => p.2.2) hconfig
      rw [hmade]
      exact .disabled hdevice' (by rw [hcontroller, ← hcontrollers, hfield])

/-! ## Update requests -/

/-- What `process_update_request` calls and returns. -/
def UpdateRequest.Performed (config : Config) (devices : Devices) (request : UpdateRequest) :
    List ControllerCall → Except Error Unit → Prop :=
  request.deviceId.Dispatched config devices ["Could not find device id!"] fun device outcome =>
    .sendUpdate device request outcome

namespace RequestCall

/-- Where `process_update_request` is, and what it has called. -/
inductive Progress (config : Config) (devices : Devices) (request : UpdateRequest) :
    RequestCall → List ControllerCall → Prop
  | begin : Progress config devices request (.begin request) []
  | dispatching {device : Device}
      (h : (devices.lookup request.deviceId).map Device.config = some device.config) :
      Progress config devices request (.dispatching device request) []
  | returned {made result} (h : request.Performed config devices made result) :
      Progress config devices request (.returned result) made

variable {config : Config} {devices : Devices} {app app' : AppState} {request : UpdateRequest}
  {call call' : RequestCall} {l : RequestLabel} {made : List ControllerCall}

/-- With a receiver on the hook channel only an unknown device is refused. -/
theorem beginUpdateRequest_error (hr : 0 < app.hooks.sender.receivers) {e : Error}
    (h : beginUpdateRequest request app = .error e) :
    app.devices.lookup request.deviceId = none ∧ e = ["Could not find device id!"] := by
  cases hd : app.devices.lookup request.deviceId with
  | none =>
    rw [beginUpdateRequest, hd] at h
    cases h
    exact ⟨rfl, rfl⟩
  | some device =>
    obtain ⟨app₁, hok⟩ := beginUpdateRequest_of_lookup hr hd
    rw [h] at hok
    cases hok

/-- Nothing is called but in the last part. -/
theorem Progress.returned_or_nil (h : Progress config devices request call made) :
    (call.result? = none ∧ made = []) ∨
      ∃ result, call = .returned result ∧ request.Performed config devices made result := by
  cases h with
  | begin => exact .inl ⟨rfl, rfl⟩
  | dispatching hdevice => exact .inl ⟨rfl, rfl⟩
  | returned h => exact .inr ⟨_, rfl, h⟩

/-- A step of the call of a request makes what its result accounts for. -/
theorem Progress.step (h : Progress config devices request call made)
    (happ : app.IsSetUp config devices) (hstep : Step app call l app' call') :
    Progress config devices request call' (made ++ callsMade app (call.controllerCall? l)) := by
  cases h with
  | begin =>
    cases hstep with
    | refuse hb =>
      -- With somebody to hear of it a request fails for a missing device only
      obtain ⟨hnone, rfl⟩ := beginUpdateRequest_error happ.receivers hb
      have hlookup := happ.lookup request.deviceId
      rw [hnone, Option.map_none, eq_comm, Option.map_eq_none_iff] at hlookup
      exact .returned (.missing hlookup)
    | send hb =>
      have hlookup := happ.lookup request.deviceId
      rw [(beginUpdateRequest_ok hb).1, Option.map_some] at hlookup
      exact .dispatching hlookup.symm
  | dispatching hdevice =>
    cases hstep with
    | @dispatch _ _ outcome =>
      -- One call, and its result is that of the dispatch
      exact .returned (.of_dispatch happ.controllers hdevice outcome rfl)
  | returned h => cases hstep

end RequestCall

/-! ## Scenes -/

/-- What `process_scene_activate` calls and returns. Each of `works` is a member of the scene with
the calls for it. -/
inductive SceneId.Performed (config : Config) (devices : Devices) (sceneId : SceneId) :
    List ControllerCall → Except Error Unit → Prop
  | unknown (h : config.scenes.lookup sceneId = none) :
      Performed config devices sceneId [] (.error ["Could not find scene!"])
  | done {works : List (UpdateRequest × List ControllerCall)} {made}
      (h : config.scenes.lookup sceneId = some (works.map Prod.fst))
      (hworks : ∀ work ∈ works, work.1.Performed config devices work.2 (.ok ()))
      (hmade : made.Perm (works.flatMap Prod.snd)) :
      Performed config devices sceneId made (.ok ())
  /-- The first member that fails ends the others, of which no call may have ended yet. -/
  | failed {before after : List (UpdateRequest × List ControllerCall)} {request work e made}
      (h : config.scenes.lookup sceneId =
        some ((before ++ (request, work) :: after).map Prod.fst))
      (hfailed : request.Performed config devices work (.error e))
      (hworks : ∀ work ∈ before ++ after,
        work.2 = [] ∨ work.1.Performed config devices work.2 (.ok ()))
      (hmade : made.Perm ((before ++ (request, work) :: after).flatMap Prod.snd)) :
      Performed config devices sceneId made
        (.error ("failed to update activate scene" :: e))

namespace SceneCall

/-- A member of a scene: its update, its call and what that has called. -/
structure Member where
  request : UpdateRequest
  call : RequestCall
  made : List ControllerCall

/-- The update with what has been called for it. -/
def Member.work (member : Member) : UpdateRequest × List ControllerCall :=
  (member.request, member.made)

/-- A member goes on, and has not failed. -/
structure Member.Goes (config : Config) (devices : Devices) (member : Member) : Prop where
  progress : member.call.Progress config devices member.request member.made
  noError : ∀ e, member.call ≠ .returned (.error e)

/-- Where `process_scene_activate` is, and what it has called. -/
inductive Progress (config : Config) (devices : Devices) (sceneId : SceneId) :
    SceneCall → List ControllerCall → Prop
  | begin : Progress config devices sceneId (.begin sceneId) []
  | joining {members : List Member} {made}
      (h : config.scenes.lookup sceneId = some (members.map Member.request))
      (hmembers : ∀ member ∈ members, member.Goes config devices)
      (hmade : made.Perm (members.flatMap Member.made)) :
      Progress config devices sceneId (.joining (members.map Member.call)) made
  | returned {made result} (h : sceneId.Performed config devices made result) :
      Progress config devices sceneId (.returned result) made

variable {config : Config} {devices : Devices} {app app' : AppState} {sceneId : SceneId}
  {members : List Member} {made : List ControllerCall}

/-- The work of a member, by its request. -/
theorem map_work_fst (members : List Member) :
    (members.map Member.work).map Prod.fst = members.map Member.request :=
  List.map_map

/-- The work of a member, by its calls. -/
theorem flatMap_work_snd (members : List Member) :
    (members.map Member.work).flatMap Prod.snd = members.flatMap Member.made :=
  List.flatMap_map _ _ _

/-- A member that has not failed has called nothing yet, or has succeeded. -/
theorem Member.Goes.work {member : Member} (h : member.Goes config devices) :
    member.work.2 = [] ∨ member.work.1.Performed config devices member.work.2 (.ok ()) := by
  rcases h.progress.returned_or_nil with ⟨-, hnil⟩ | ⟨result, hresult, hperformed⟩
  · exact .inl hnil
  · rcases result with e | ⟨⟩
    · exact absurd hresult (h.noError e)
    · exact .inr hperformed

/-- The calls of the members go on, or all of them have succeeded. -/
theorem Progress.join (h : config.scenes.lookup sceneId = some (members.map Member.request))
    (hmembers : ∀ member ∈ members, member.Goes config devices)
    (hmade : made.Perm (members.flatMap Member.made)) {stepped : RequestCall}
    (hstepped : ∀ e, stepped ≠ .returned (.error e)) :
    Progress config devices sceneId (join (members.map Member.call) stepped) made := by
  unfold SceneCall.join
  split
  · rename_i e
    exact absurd rfl (hstepped e)
  · split
    · -- all have returned, and none of them an error
      rename_i hall
      refine .returned (@SceneId.Performed.done _ _ _ (members.map Member.work) _ ?_ ?_ ?_)
      · rw [map_work_fst]
        exact h
      · -- a member that has returned accounts for what it has made
        intro work hwork
        obtain ⟨member, hmember, rfl⟩ := List.mem_map.mp hwork
        have hreturned := List.all_eq_true.mp hall member.call (List.mem_map_of_mem hmember)
        have hgoes := hmembers member hmember
        rcases hgoes.progress.returned_or_nil with ⟨hnone, -⟩ | ⟨result, hresult, hperformed⟩
        · rw [hnone] at hreturned
          cases hreturned
        · -- and it has returned `Ok`, since a failure would have ended the join
          rcases result with e | ⟨⟩
          · exact absurd hresult (hgoes.noError e)
          · exact hperformed
      · rw [flatMap_work_snd]
        exact hmade
    · exact .joining h hmembers hmade

/-- A member has failed, and none before it. -/
theorem Progress.fail {i : Nat} {member : Member} {e : Error} {work : List ControllerCall}
    (h : config.scenes.lookup sceneId = some (members.map Member.request))
    (hmembers : ∀ member ∈ members, member.Goes config devices) (hi : members[i]? = some member)
    (hfailed : member.request.Performed config devices work (.error e))
    (hmade : made.Perm ((members.set i { member with made := work }).flatMap Member.made)) :
    sceneId.Performed config devices made (.error ("failed to update activate scene" :: e)) := by
  obtain ⟨hlt, hmember⟩ := List.getElem?_eq_some_iff.mp hi
  -- The members before it, itself and those after it
  have hset : (members.set i { member with made := work }).map Member.work =
      (members.take i).map Member.work ++
        (member.request, work) :: (members.drop (i + 1)).map Member.work := by
    rw [List.set_eq_take_append_cons_drop, if_pos hlt, List.map_append, List.map_cons]
    rfl
  refine @SceneId.Performed.failed _ _ _ ((members.take i).map Member.work)
    ((members.drop (i + 1)).map Member.work) _ _ _ _ ?_ hfailed (fun work hwork => ?_) ?_
  · rw [← hset, map_work_fst, List.map_set]
    have hrequest : (members.map Member.request)[i]? = some member.request := by
      rw [List.getElem?_map, hi, Option.map_some]
    rw [h, List.set_of_getElem? hrequest]
  · rw [← List.map_append] at hwork
    obtain ⟨member', hmember', rfl⟩ := List.mem_map.mp hwork
    apply Member.Goes.work
    apply hmembers
    rcases List.mem_append.mp hmember' with hmem | hmem
    · exact List.mem_of_mem_take hmem
    · exact List.mem_of_mem_drop hmem
  · rw [← hset, flatMap_work_snd]
    exact hmade

variable {call call' : SceneCall} {l : SceneLabel}

/-- A step of the call of a scene makes what its result accounts for. -/
theorem Progress.step (h : Progress config devices sceneId call made)
    (happ : app.IsSetUp config devices) (hstep : Step config.scenes app call l app' call') :
    Progress config devices sceneId call' (made ++ callsMade app (call.controllerCall? l)) := by
  cases h with
  | begin =>
    cases hstep with
    | unknown hscene => exact .returned (.unknown hscene)
    | closed hscene hs =>
      -- `AppState` keeps a receiver of its own
      rw [Broadcast.Channel.send_of_pos happ.receivers] at hs
      cases hs
    | empty hscene hs => exact .returned (@SceneId.Performed.done _ _ _ [] _ hscene (by simp) (.refl _))
    | @activate _ scene app' hscene hne hs =>
      -- Every member has yet to begin
      have hcalls : scene.map RequestCall.begin =
          (scene.map fun request => (⟨request, .begin request, []⟩ : Member)).map Member.call := by
        rw [List.map_map]
        rfl
      have hmade : (scene.map fun request => (⟨request, .begin request, []⟩ : Member)).flatMap
          Member.made = [] := by
        simp [List.flatMap_map]
      show Progress config devices sceneId (.joining (scene.map .begin)) []
      rw [hcalls]
      refine .joining ?_ ?_ ?_
      · rw [List.map_map]
        exact hscene.trans (congrArg some (List.map_id' _).symm)
      · intro member hmember
        obtain ⟨request, -, rfl⟩ := List.mem_map.mp hmember
        exact ⟨.begin, fun e he => by cases he⟩
      · rw [hmade]
  | @joining members made hscene hmembers hmade =>
    cases hstep with
    | @member _ i call l app' call' hi hstep =>
      have hcall : (SceneCall.joining (members.map Member.call)).controllerCall? (.member i l) =
          call.controllerCall? l := by
        simp only [controllerCall?, hi, Option.bind_some]
      obtain ⟨member, hmember, rfl⟩ : ∃ member, members[i]? = some member ∧ member.call = call := by
        rw [List.getElem?_map] at hi
        exact Option.map_eq_some_iff.mp hi
      have hnext := (hmembers member (List.mem_of_getElem? hmember)).progress.step happ hstep
      rw [hcall]
      generalize callsMade app (member.call.controllerCall? l) = new at hnext
      have hperm (call' : RequestCall) : (made ++ new).Perm
          ((members.set i ⟨member.request, call', member.made ++ new⟩).flatMap Member.made) :=
        (hmade.append_right new).trans (JoinAll.flatMap_set_perm hmember rfl).symm
      by_cases herror : ∃ e, call' = .returned (.error e)
      · -- the other members are dropped where they are
        obtain ⟨e, rfl⟩ := herror
        cases hnext with
        | returned hfailed => exact .returned (Progress.fail hscene hmembers hmember hfailed (hperm _))
      · have hno : ∀ e, call' ≠ .returned (.error e) := fun e he => herror ⟨e, he⟩
        have hset : (members.map Member.call).set i call' =
            (members.set i ⟨member.request, call', member.made ++ new⟩).map Member.call := by
          rw [List.map_set]
        rw [hset]
        refine Progress.join ?_ (fun member' hmember' => ?_) (hperm _) hno
        · have hrequest : (members.map Member.request)[i]? = some member.request := by
            rw [List.getElem?_map, hmember, Option.map_some]
          rw [List.map_set, List.set_of_getElem? hrequest]
          exact hscene
        · rcases List.mem_or_eq_of_mem_set hmember' with hmem | rfl
          · exact hmembers _ hmem
          · exact ⟨hnext, hno⟩
  | returned h => cases hstep

end SceneCall

/-! ## Requests over HTTP -/

/-- What `handle_request` calls and returns for the body of a request. -/
inductive HttpCall.Performed (fromSlice : List UInt8 → Except Error ServerBoundHttpMessage)
    (config : Config) (devices : Devices) (bytes : Except Error (List UInt8)) :
    List ControllerCall → Except Error Response → Prop
  | malformed {e} (h : bytes.bind fromSlice = .error e) :
      Performed fromSlice config devices bytes [] (.error e)
  | updated {request made} (h : bytes.bind fromSlice = .ok (.updateRequest request))
      (hmade : request.Performed config devices made (.ok ())) :
      Performed fromSlice config devices bytes made (.ok (.new .requestReceived))
  | notUpdated {request made e} (h : bytes.bind fromSlice = .ok (.updateRequest request))
      (hmade : request.Performed config devices made (.error e)) :
      Performed fromSlice config devices bytes made (.error e)
  | activated {sceneId made} (h : bytes.bind fromSlice = .ok (.activateScene sceneId))
      (hmade : sceneId.Performed config devices made (.ok ())) :
      Performed fromSlice config devices bytes made (.ok (.new .requestReceived))
  | notActivated {sceneId made e} (h : bytes.bind fromSlice = .ok (.activateScene sceneId))
      (hmade : sceneId.Performed config devices made (.error e)) :
      Performed fromSlice config devices bytes made (.error e)
  | unimplemented {fields} (h : bytes.bind fromSlice = .ok (.other fields)) :
      Performed fromSlice config devices bytes [] (.ok ⟨501, .unimplemented⟩)
  /-- The response cannot be encoded. -/
  | unencoded {made response e}
      (h : Performed fromSlice config devices bytes made (.ok response)) :
      Performed fromSlice config devices bytes made (.error e)

namespace HttpCall

/-- Where `handle_request` is, and what it has called. -/
inductive Progress (fromSlice : List UInt8 → Except Error ServerBoundHttpMessage)
    (config : Config) (devices : Devices) (bytes : Except Error (List UInt8)) :
    HttpCall → List ControllerCall → Prop
  | requesting {request call made} (h : bytes.bind fromSlice = .ok (.updateRequest request))
      (hcall : call.Progress config devices request made) :
      Progress fromSlice config devices bytes (.requesting call) made
  | activating {sceneId call made} (h : bytes.bind fromSlice = .ok (.activateScene sceneId))
      (hcall : call.Progress config devices sceneId made) :
      Progress fromSlice config devices bytes (.activating call) made
  | answering {response made} (h : Performed fromSlice config devices bytes made (.ok response)) :
      Progress fromSlice config devices bytes (.answering response) made
  | returned {made result} (h : Performed fromSlice config devices bytes made result) :
      Progress fromSlice config devices bytes (.returned result) made

namespace Progress

variable {fromSlice : List UInt8 → Except Error ServerBoundHttpMessage} {config : Config}
  {devices : Devices} {bytes : Except Error (List UInt8)} {app app' : AppState}
  {call call' : HttpCall} {l : HttpLabel} {made : List ControllerCall}

/-- A call over HTTP begins with nothing made. -/
theorem start (fromSlice : List UInt8 → Except Error ServerBoundHttpMessage) (config : Config)
    (devices : Devices) (bytes : Except Error (List UInt8)) :
    Progress fromSlice config devices bytes (HttpCall.start fromSlice bytes) [] := by
  unfold HttpCall.start
  split
  · rename_i e he
    exact .returned (.malformed he)
  · rename_i message hmessage
    cases message with
    | updateRequest request => exact .requesting hmessage .begin
    | activateScene sceneId => exact .activating hmessage .begin
    | other fields => exact .answering (.unimplemented hmessage)

/-- The answer to an update is that of its request. -/
theorem afterRequest {request : UpdateRequest} {call : RequestCall}
    (h : bytes.bind fromSlice = .ok (.updateRequest request))
    (hcall : call.Progress config devices request made) :
    Progress fromSlice config devices bytes (HttpCall.afterRequest call) made := by
  cases hcall with
  | begin => exact .requesting h .begin
  | dispatching hdevice => exact .requesting h (.dispatching hdevice)
  | @returned _ result hmade =>
    rcases result with e | ⟨⟩
    · exact .returned (.notUpdated h hmade)
    · exact .answering (.updated h hmade)

/-- The answer to a scene is that of its join. -/
theorem afterScene {sceneId : SceneId} {call : SceneCall}
    (h : bytes.bind fromSlice = .ok (.activateScene sceneId))
    (hcall : call.Progress config devices sceneId made) :
    Progress fromSlice config devices bytes (HttpCall.afterScene call) made := by
  cases hcall with
  | begin => exact .activating h .begin
  | joining hscene hmembers hmade => exact .activating h (.joining hscene hmembers hmade)
  | @returned _ result hmade =>
    rcases result with e | ⟨⟩
    · exact .returned (.notActivated h hmade)
    · exact .answering (.activated h hmade)

/-- A step of a call over HTTP makes what its result accounts for. -/
theorem step (h : Progress fromSlice config devices bytes call made)
    (happ : app.IsSetUp config devices)
    (hstep : call.step config.scenes app l = some (app', call')) :
    Progress fromSlice config devices bytes call'
      (made ++ callsMade app (call.controllerCall? l)) := by
  cases h with
  | requesting hmessage hcall =>
    cases step_cases hstep with
    | request hp => exact afterRequest hmessage (hcall.step happ (RequestCall.step_cases hp))
  | activating hmessage hcall =>
    cases step_cases hstep with
    | scene hp => exact afterScene hmessage (hcall.step happ (SceneCall.step_cases hp))
  | answering hmade =>
    rw [show callsMade app _ = [] from rfl, List.append_nil]
    cases step_cases hstep with
    -- The response is the same whether or not it can be encoded
    | unencoded => exact .returned (.unencoded hmade)
    | encoded => exact .returned hmade
  | returned hmade => cases hstep

end Progress

end HttpCall

/-! ## Runs -/

section Runs

variable {env : ServerEnv} {config : Config} {devices : Devices}
  {bytes : Except Error (List UInt8)} {made : List ControllerCall}

/-- The call of `POST /` begins with the body it was sent. -/
theorem acceptTask_http {server server' : ServerState} {task : ServerTask}
    (h : acceptTask env config server (.http bytes) = some (server', task)) :
    task = .http (.start env.http bytes) := by
  cases acceptTask_cases h with
  | http => rfl

/-- A task that is a request over HTTP, and what it has called. -/
def ServerTask.Responds (env : ServerEnv) (config : Config) (devices : Devices)
    (bytes : Except Error (List UInt8)) (made : List ControllerCall) : ServerTask → Prop
  | .http call => call.Progress env.http config devices bytes made
  | _ => False

/-- A step of the task keeps its body and what it has made. -/
theorem ServerTask.Responds.step {server server' : ServerState} {task task' : ServerTask}
    {l : TaskLabel} (h : task.Responds env config devices bytes made)
    (happ : server.app.IsSetUp config devices)
    (hstep : task.Step env config server l server' task') :
    task'.Responds env config devices bytes (made ++ task.made server l) := by
  cases hstep with
  | http hcalled hhttp => exact HttpCall.Progress.step h happ hhttp
  | _ => cases h

/-- In every run of the server, with all its tasks in any order: a request over HTTP is answered by
what has been done for it, whatever else is done meanwhile. `RequestReceived` is the answer only if
the controller of every device that it asks for was called and has answered `Ok`, each once. An
error is returned for an update that fails, and for what cannot be read. -/
theorem server_responses (env : ServerEnv) (config : Config) (devices : Devices)
    (before after : List (System.Act Unit TaskStart TaskLabel))
    (mid st : System.State ServerState ServerTask) (bytes : Except Error (List UInt8))
    (hbefore : (serverTasks env config).run (serverInitial config devices) before = some mid)
    (h : (serverTasks env config).run mid (.spawn (.http bytes) :: after) = some st) :
    let made := Lts.observe (serverTasks env config).exec
      (System.shows ServerTask.made mid.comps.length) mid (.spawn (.http bytes) :: after)
    ∃ call, st.comps[mid.comps.length]? = some (.http call) ∧
      ∀ result, call = .returned result →
        HttpCall.Performed env.http config devices bytes made result := by
  obtain ⟨m, hspawn, hafter⟩ := Lts.run_cons _ h
  obtain ⟨task, hspawned, hcomps⟩ := System.exec_spawn hspawn
  -- The call is the component that the spawn has added
  have hcall : m.comps[mid.comps.length]? = some (.http (.start env.http bytes)) := by
    rw [hcomps, List.getElem?_concat_length, acceptTask_http hspawned]
  have hm : (serverTasks env config).run (serverInitial config devices)
      (before ++ [.spawn (.http bytes)]) = some m := by
    rw [System.run, Lts.run_append_of _ hbefore, Lts.run_cons_of _ hspawn, Lts.run_nil]
  have hstart := HttpCall.Progress.start env.http config devices bytes
  obtain ⟨task', htask', hresponds⟩ := System.run_shows_of (f := ServerTask.made)
    (P := fun made task => task.Responds env config devices bytes made) hcall hstart
    -- Each step of the call keeps its account, and the server is set up in every state
    (fun hrun _ hstep hresponds => by
      have happ := (Serves.run ((Lts.run_append_of _ hm).trans hrun)).isSetUp
      exact hresponds.step happ (ServerTask.step_cases hstep)) hafter
  cases task' with
  | http call =>
    refine ⟨call, htask', fun result hresult => ?_⟩
    subst hresult
    rw [Lts.observe_cons _ hspawn]
    cases hresponds with
    | returned hmade => exact hmade
  | _ => cases hresponds

end Runs

end Devicectrl

namespace Devicectrl.ServerTask.Demo

open Simple.Demo in
/-- A scene of both devices that every request over HTTP activates. -/
def evening : Config :=
  { config with
    servers := ⟨false, true, false⟩
    scenes := AList.insert ⟨"evening"⟩ [⟨lamp, .power .on⟩, ⟨fan, .power .on⟩] ∅ }

/-- Every request over HTTP activates the scene of the evening. -/
def webEnv : ServerEnv :=
  { env with http := fun _ => .ok (.activateScene ⟨"evening"⟩) }

/-- The fan is announced first, and the lamp is turned on first. -/
def activated : List (System.Act Unit TaskStart TaskLabel) :=
  [.step 2 (.http (.scene .poll)), .step 2 (.http (.scene (.member 1 .poll))),
    .step 2 (.http (.scene (.member 0 .poll))),
    .step 2 (.http (.scene (.member 0 (.dispatched (.ok ()))))),
    .step 2 (.http (.scene (.member 1 (.dispatched (.ok ()))))),
    .step 2 (.http (.encoded (.ok ())))]

end Devicectrl.ServerTask.Demo

namespace Devicectrl

open ServerTask.Demo in
/-- Both members of the scene are dispatched, and the request is answered. -/
theorem server_responses_demo :
    ∃ st made, (serverTasks webEnv evening).run (serverInitial evening devices)
        (.spawn (.http (.ok [])) :: activated) = some st ∧
      st.comps[2]? = some (.http (.returned (.ok (.new .requestReceived)))) ∧
      made = [.sendUpdate (Simple.Demo.device Simple.Demo.lamp)
          ⟨Simple.Demo.lamp, .power .on⟩ (.ok ()),
        .sendUpdate (Simple.Demo.device Simple.Demo.fan)
          ⟨Simple.Demo.fan, .power .on⟩ (.ok ())] ∧
      HttpCall.Performed webEnv.http evening devices (.ok []) made
        (.ok (.new .requestReceived)) := by
  have hrun : ∃ st, (serverTasks webEnv evening).run (serverInitial evening devices)
      (.spawn (.http (.ok [])) :: activated) = some st ∧
      st.comps[2]? = some (.http (.returned (.ok (.new .requestReceived)))) := ⟨_, rfl, rfl⟩
  obtain ⟨st, hst, hi⟩ := hrun
  obtain ⟨call, hcall, hperformed⟩ := server_responses webEnv evening devices [] activated
    (serverInitial evening devices) st (.ok []) rfl hst
  -- The component of the run is the call of the theorem
  have hreturned : call = .returned (.ok (.new .requestReceived)) := by
    have hcall' := hcall.symm.trans hi
    injection hcall' with hcall'
    injection hcall'
  exact ⟨st, _, hst, hi, rfl, hperformed _ hreturned⟩

end Devicectrl
