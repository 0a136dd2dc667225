import Devicectrl.Spec.RequestCalls
import Devicectrl.Spec.ServerRuns

/-!
# The ledger of update requests

What the server with all its tasks announces of update requests, by a `DeviceUpdateDispatch` on the
hooks channel, and what it hands to the controllers. A request is announced before it is handed
over, and handed over at most once: the hooks have every command that a device is ever sent. The
automation receives them; clients are told of new states only.

## Key results

- `RequestCall.step_hands`, `ServerTask.Step.hands`: each part of a task hands over no more than
  it has announced
- `server_commands`: what the controllers broadcast was announced, as often, and is for devices of
  their own
-/

namespace Devicectrl

variable {app app' : AppState}

/-! ## Announced requests -/

/-- The request that a hook announces the dispatch of. -/
def Hook.request? : Hook → Option UpdateRequest
  | .deviceUpdateDispatch request => some request
  | _ => none

/-- The update requests among some hooks, in order. -/
def dispatchRequests (hooks : List Hook) : List UpdateRequest :=
  hooks.filterMap Hook.request?

/-- The requests of two stretches of hooks, one after the other. -/
@[simp] theorem dispatchRequests_append (hooks hooks' : List Hook) :
    dispatchRequests (hooks ++ hooks') = dispatchRequests hooks ++ dispatchRequests hooks' :=
  List.filterMap_append

/-- The command that a call hands to a controller. -/
def ControllerCall.command : ControllerCall → List (Device × UpdateRequest)
  | .sendUpdate device request _ => [(device, request)]
  | .sendQuery _ _ => []

/-- The commands of a part that may call a controller. -/
def commandsOf (call? : Option ControllerCall) : List (Device × UpdateRequest) :=
  (call?.map ControllerCall.command).getD []

@[simp] theorem commandsOf_none : commandsOf none = [] := rfl

/-- How often a request is among those handed over. -/
def occurrences (request : UpdateRequest) (handed : List (Device × UpdateRequest)) : Nat :=
  handed.countP fun p => p.2 = request

@[simp] theorem occurrences_nil (request : UpdateRequest) : occurrences request [] = 0 := rfl

/-- What is handed over in two stretches adds up. -/
@[simp] theorem occurrences_append (request : UpdateRequest)
    (handed handed' : List (Device × UpdateRequest)) :
    occurrences request (handed ++ handed') =
      occurrences request handed + occurrences request handed' :=
  List.countP_append

/-- What a list of calls hands over is what each of them does. -/
theorem occurrences_flatMap {α : Type} (request : UpdateRequest)
    (f : α → List (Device × UpdateRequest)) (l : List α) :
    occurrences request (l.flatMap f) = (l.map fun a => occurrences request (f a)).sum := by
  induction l with
  | nil => rfl
  | cons a l ih => rw [List.flatMap_cons, occurrences_append, ih, List.map_cons, List.sum_cons]

/-- A part of a task: the command of its call was handed over, and what is handed over now was
handed over before, or is announced and for the device that is found for it. -/
structure Hands (app : AppState) (handed : List (Device × UpdateRequest))
    (call? : Option ControllerCall) (app' : AppState) (handed' : List (Device × UpdateRequest)) :
    Prop where
  command : ∀ p ∈ commandsOf call?, p ∈ handed
  found : ∀ p ∈ handed', p ∈ handed ∨ app.devices.lookup p.2.deviceId = some p.1
  account : ∀ request, occurrences request handed' + occurrences request (commandsOf call?) +
      (dispatchRequests app.hooks.sender.sent).count request ≤
    occurrences request handed + (dispatchRequests app'.hooks.sender.sent).count request

namespace Hands

variable {handed handed' : List (Device × UpdateRequest)} {call? : Option ControllerCall}

/-- Nothing is announced, and nothing handed over. -/
theorem stay (hcall : commandsOf call? = [])
    (hsent : dispatchRequests app'.hooks.sender.sent = dispatchRequests app.hooks.sender.sent)
    (h : handed'.Sublist handed) : Hands app handed call? app' handed' := by
  refine ⟨by simp [hcall], fun p hp => .inl (h.subset hp), fun request => ?_⟩
  have hle : occurrences request handed' ≤ occurrences request handed := h.countP_le
  rw [hsent, hcall, occurrences_nil]
  omega

/-- Less may be handed over than was. -/
theorem drop {handed'' : List (Device × UpdateRequest)}
    (h : Hands app handed call? app' handed') (hsub : handed''.Sublist handed') :
    Hands app handed call? app' handed'' := by
  refine ⟨h.command, fun p hp => h.found p (hsub.subset hp), fun request => ?_⟩
  have hle : occurrences request handed'' ≤ occurrences request handed' := hsub.countP_le
  have haccount := h.account request
  omega

end Hands

/-! ## Calls -/

/-- The requests announced by a stretch are those of its hooks. -/
theorem dispatchRequests_sends {hooks : List Hook} (h : app.Sends app' hooks) :
    dispatchRequests app'.hooks.sender.sent =
      dispatchRequests app.hooks.sender.sent ++ dispatchRequests hooks := by
  rw [h.sender, dispatchRequests_append]

/-- A step of the call of a request, by what it hands over. -/
theorem RequestCall.Step.hands {call call' : RequestCall} {l : RequestLabel}
    (h : Step app call l app' call') :
    Hands app call.handed (call.controllerCall? l) app' call'.handed := by
  cases h with
  | refuse hb => exact .stay rfl rfl (List.Sublist.refl _)
  | @send request device app' hb =>
    refine ⟨by simp [controllerCall?], ?_, fun r => ?_⟩
    · simp [handed, (beginUpdateRequest_ok hb).1]
    · -- the request is announced and handed over in one step
      rw [dispatchRequests_sends (beginUpdateRequest_sends hb)]
      by_cases hr : request = r
      · simp [handed, controllerCall?, occurrences, dispatchRequests, Hook.request?, hr]
        omega
      · simp [handed, controllerCall?, occurrences, dispatchRequests, Hook.request?, hr]
  | @dispatch request device outcome =>
    -- The command leaves with the call
    refine ⟨?_, by simp [handed], fun r => ?_⟩
    · simp [handed, controllerCall?, commandsOf, ControllerCall.command]
    · simp [handed, controllerCall?, commandsOf, ControllerCall.command]

/-- One of many calls takes its part. -/
theorem Hands.member {α : Type} {f : α → List (Device × UpdateRequest)} {calls : List α} {i : Nat}
    {call call' : α} {call? : Option ControllerCall} (hi : calls[i]? = some call)
    (h : Hands app (f call) call? app' (f call')) :
    Hands app (calls.flatMap f) call? app' ((calls.set i call').flatMap f) := by
  -- What one call hands over, all of them do
  have hmem {p : Device × UpdateRequest} (hp : p ∈ f call) : p ∈ calls.flatMap f :=
    List.mem_flatMap.mpr ⟨call, List.mem_of_getElem? hi, hp⟩
  refine ⟨fun p hp => hmem (h.command p hp), fun p hp => ?_, fun request => ?_⟩
  · obtain ⟨call₁, hcall₁, hp₁⟩ := List.mem_flatMap.mp hp
    rcases List.mem_or_eq_of_mem_set hcall₁ with hcall₁ | rfl
    · exact .inl (List.mem_flatMap.mpr ⟨call₁, hcall₁, hp₁⟩)
    · exact (h.found p hp₁).imp_left hmem
  · -- only the account of one call changes
    have hset := List.sum_map_set (fun call => occurrences request (f call)) hi call'
    have haccount := h.account request
    rw [occurrences_flatMap, occurrences_flatMap]
    omega

namespace SceneCall

variable {scenes : ScenesConfig} {call call' : SceneCall} {l : SceneLabel}

/-- `try_join_all` drops calls or keeps them all. -/
theorem join_handed (calls : List RequestCall) (stepped : RequestCall) :
    (join calls stepped).handed.Sublist (calls.flatMap RequestCall.handed) := by
  unfold join
  split
  · exact List.nil_sublist _
  · split
    · exact List.nil_sublist _
    · exact List.Sublist.refl _

/-- A step of the call of a scene, by what its members hand over. -/
theorem step_hands (h : call.step scenes app l = some (app', call')) :
    Hands app call.handed (call.controllerCall? l) app' call'.handed := by
  -- The hook of a scene announces no request
  have hsends {app' : AppState} {sceneId : SceneId} (hs : app.Sends app' [.sceneActivate sceneId])
      {handed' : List (Device × UpdateRequest)} (hnil : handed' = []) :
      Hands app [] none app' handed' := by
    refine ⟨by simp, by simp [hnil], fun request => ?_⟩
    rw [dispatchRequests_sends hs, hnil]
    simp [dispatchRequests, Hook.request?]
  cases step_cases h with
  | unknown hscene => exact .stay rfl rfl (List.Sublist.refl _)
  | closed hscene hs => exact .stay rfl rfl (List.Sublist.refl _)
  | empty hscene hs => exact hsends hs rfl
  | activate hscene hne hs =>
    exact hsends hs (by simp [handed, List.flatMap_map, RequestCall.handed])
  | @member calls i call l app' call' hi hstep =>
    simp only [controllerCall?, hi, Option.bind_some]
    exact (hstep.hands.member hi).drop (join_handed _ _)

end SceneCall

namespace Line

variable {env : SocketEnv} {scenes : ScenesConfig} {line line' : Line} {l : LineLabel}

/-- A step of a line, by what its call hands over. -/
theorem step_hands (h : line.step env scenes app l = some (app', line')) :
    Hands app line.handed (line.controllerCall? l) app' line'.handed := by
  cases step_cases h with
  | @request call l app' call' hp =>
    rw [(requests_afterRequest scenes call').2]
    exact (RequestCall.step_cases hp).hands
  | @scene call l app' call' hp =>
    rw [(requests_afterScene scenes call').2]
    exact SceneCall.step_hands hp
  | _ => exact .stay rfl rfl (List.nil_sublist _)

end Line

/-- A step of a call over HTTP, by what its call hands over. -/
theorem HttpCall.step_hands {scenes : ScenesConfig} {call call' : HttpCall} {l : HttpLabel}
    (h : call.step scenes app l = some (app', call')) :
    Hands app call.handed (call.controllerCall? l) app' call'.handed := by
  cases step_cases h with
  | @request call l app' call' hp =>
    rw [(requests_afterRequest scenes call').2]
    exact (RequestCall.step_cases hp).hands
  | @scene call l app' call' hp =>
    rw [(requests_afterScene scenes call').2]
    exact SceneCall.step_hands hp
  | _ => exact .stay rfl rfl (List.nil_sublist _)

namespace ClientSession

variable {env : SocketEnv} {scenes : ScenesConfig} {s s' : ClientSession} {l : SessionLabel}

/-- After a line the session has in hand what the line had. -/
theorem handed_afterLine {transport : Transport} {rx : Broadcast.Receiver} {line : Line}
    (h : s.stage = afterLine transport rx line) : s.handed = line.handed := by
  rw [handed, h]
  cases line with
  | returned result => rcases result with e | ⟨⟩ <;> rfl
  | _ => rfl

/-- Reading a line hands nothing over. -/
theorem handed_start (env : SocketEnv) (text : String) : (Line.start env text).handed = [] := by
  unfold Line.start
  split
  · rfl
  · rename_i message hm
    cases message <;> rfl

/-- A step of a session, by what its line hands over. -/
theorem step_hands (h : s.step env scenes app l = some (app', s')) :
    Hands app s.handed (s.controllerCall? l) app' s'.handed := by
  cases step_cases h with
  -- The call is in the line, and goes on with it
  | @handle line rx l app' line' hs hl =>
    have hhanded : s.handed = line.handed := by rw [handed, hs]
    have hcall : s.controllerCall? (.line l) = line.controllerCall? l := by
      simp only [controllerCall?, hs]
    have hhanded' := @handed_afterLine { s with
      stage := afterLine s.transport rx line'
      written := s.written ++ ((line.writes l).map Outgoing.message).toList } _ rx line' rfl
    rw [hhanded, hcall, hhanded']
    exact Line.step_hands hl
  -- A new line has nothing in hand
  | @line rx transport item text hs hitem =>
    have hhanded := @handed_afterLine { s with
      stage := afterLine s.transport rx (Line.start env text) } _ rx (Line.start env text) rfl
    rw [hhanded, handed_start]
    exact .stay rfl rfl (List.nil_sublist _)
  | _ => exact .stay rfl rfl (List.nil_sublist _)

end ClientSession

/-- A turn of the dependency automation, by what its requests hand over. -/
theorem DependencyTask.step_hands {config : DependencyAutomationConfig}
    {task task' : DependencyTask} {l : Dependencies.Label}
    (h : task.step config app l = some (app', task')) :
    Hands app task.handed (task.controllerCall? l) app' task'.handed := by
  obtain ⟨p, hp, he⟩ := Option.map_eq_some_iff.mp h
  cases he
  obtain ⟨automation, requests⟩ := task
  obtain ⟨app', automation'⟩ := p
  -- The controller has answered
  have hdispatched (rx : Broadcast.Receiver) (device : Device) (context : String)
      (outcome : Except Error Unit) {app' : AppState} {handed' : List (Device × UpdateRequest)}
      (hsent : app'.hooks.sender.sent = app.hooks.sender.sent) (hnil : handed' = []) :
      Hands app (handed ⟨.dispatching rx device context, requests⟩)
        (controllerCall? ⟨.dispatching rx device context, requests⟩ (.dispatched outcome)) app'
        handed' := by
    -- The call is for the request that the automation took up last
    cases hlast : requests.getLast? with
    | none =>
      refine .stay (by simp [controllerCall?, hlast]) (by rw [hsent]) ?_
      rw [hnil]
      exact List.nil_sublist _
    | some request =>
      refine ⟨?_, by simp [hnil], fun r => ?_⟩
      · simp [handed, controllerCall?, commandsOf, ControllerCall.command, hlast]
      · simp [handed, controllerCall?, commandsOf, ControllerCall.command, hlast, hsent, hnil]
  cases Dependencies.startAutomation_cases hp with
  | @request rx request context device app' hb =>
    refine ⟨by simp [controllerCall?], ?_, fun r => ?_⟩
    · simp [handed, Dependencies.Automation.request?, (beginUpdateRequest_ok hb).1]
    · rw [dispatchRequests_sends (beginUpdateRequest_sends hb)]
      by_cases hr : request = r
      · simp [handed, controllerCall?, occurrences, dispatchRequests, Hook.request?,
          Dependencies.Automation.request?, hr]
        omega
      · simp [handed, controllerCall?, occurrences, dispatchRequests, Hook.request?,
          Dependencies.Automation.request?, hr]
  | @fail rx device context outcome e hd => exact hdispatched rx device context outcome rfl rfl
  | @succeed rx device context outcome hd => exact hdispatched rx device context outcome rfl rfl
  | _ => exact .stay rfl rfl (List.nil_sublist _)

namespace SunsetTask

variable {almanac : Almanac} {config : SunsetLightTempAutomationConfig} {task task' : SunsetTask}
  {l : SunsetTaskLabel}

/-- The calls that begin have handed nothing over yet. -/
theorem handed_begun (events : List SunsetEvent) :
    (begun events).flatMap (fun call => call.2.handed) = [] := by
  rw [List.flatMap_eq_nil_iff]
  intro call hmem
  obtain ⟨event, -, hevent⟩ := List.mem_filterMap.mp hmem
  split at hevent
  · cases hevent
    rfl
  · cases hevent

/-- A call that has returned has nothing handed over. -/
theorem handed_eraseIdx {calls : List (Nat × RequestCall)} {j : Nat} (hj : j < calls.length)
    (i : Nat) (result : Except Error Unit) :
    ((calls.eraseIdx j).flatMap fun call => call.2.handed) =
      (calls.set j (i, .returned result)).flatMap fun call => call.2.handed := by
  rw [List.eraseIdx_eq_take_drop_succ, List.set_eq_take_append_cons_drop, if_pos hj,
    List.flatMap_append, List.flatMap_append, List.flatMap_cons]
  rfl

/-- With the ramps their calls are dropped. -/
theorem handed_after (calls : List (Nat × RequestCall))
    (p : SunsetLightTemp × List SunsetEvent) :
    (after calls p).handed.Sublist (calls.flatMap fun call => call.2.handed) := by
  unfold after
  split
  · rw [handed, List.flatMap_append, handed_begun, List.append_nil]
  · exact List.nil_sublist _

/-- A turn of the sunset automation, by what its requests hand over. -/
theorem step_hands (h : task.step almanac config app l = some (app', task')) :
    Hands app task.handed (task.controllerCall? l) app' task'.handed := by
  -- The call is found by its index among those of the ramps
  have hcall {j i : Nat} {call : RequestCall} (hj : task.calls[j]? = some (i, call))
      (l : RequestLabel) : task.controllerCall? (.request j l) = call.controllerCall? l := by
    simp only [controllerCall?, hj, Option.bind_some]
  cases step_cases h with
  | own hl hp => exact .stay rfl rfl (handed_after task.calls _)
  | goOn hj hstep hgo =>
    rw [hcall hj]
    exact Hands.member hj (RequestCall.step_cases hstep).hands
  -- The call that has returned is taken out, and the automation goes on
  | @stop j l i call app' result p hj hstep hp =>
    rw [hcall hj]
    have hset : Hands app task.handed (call.controllerCall? l) app'
        ((task.calls.set j (i, .returned result)).flatMap fun call => call.2.handed) :=
      Hands.member hj (RequestCall.step_cases hstep).hands
    rw [← handed_eraseIdx (List.getElem?_eq_some_iff.mp hj).1] at hset
    exact hset.drop (handed_after _ p)

end SunsetTask

/-! ## Tasks -/

namespace ServerTask

/-- The call in a part of a task. -/
def controllerCall? (devices : Devices) : ServerTask → TaskLabel → Option ControllerCall
  | .client session, .client l => session.controllerCall? l
  | .http call, .http l => call.controllerCall? l
  | .dependencies task, .dependencies l => task.controllerCall? l
  | .sunset task, .sunset l => task.controllerCall? l
  | .queryAll call, .queryAll l => call.controllerCall? devices l
  | _, _ => none

variable {env : ServerEnv} {config : Config} {server server' : ServerState}
  {task task' : ServerTask} {l : TaskLabel}

/-- What a notification changes announces no request. -/
theorem dispatchRequests_notifies {notifications : List UpdateNotification}
    (h : Notifies app notifications app') :
    dispatchRequests app'.hooks.sender.sent = dispatchRequests app.hooks.sender.sent := by
  obtain ⟨act, hchange, -, -, hof⟩ := h
  rw [hchange.sent, dispatchRequests_append]
  -- A task that processes notifications announces reports only
  have hnone : dispatchRequests ((act.map Task.hooks).getD []) = [] := by
    cases act with
    | none => rfl
    | some task =>
      have htask := hof task rfl
      cases task with
      | sendHook hook =>
        cases hook with
        | deviceUpdateDispatch request => exact absurd htask List.not_mem_nil
        | _ => rfl
      | _ => rfl
  rw [hnone, List.append_nil]

/-- A turn of a connection announces no request. -/
theorem turn_dispatchRequests {κ ν ℓ : Type} {H : HandleConn κ ν ℓ} {server server' : Server}
    {k k' : Connection κ} {l : HandleConn.Label ℓ} {notifications : List UpdateNotification}
    (hstep : ∀ {l app' conn}, H.step server.app k.conn l = some (app', conn) →
      Notifies server.app notifications app')
    (h : H.turn server k l = some (server', k')) :
    dispatchRequests server'.app.hooks.sender.sent =
      dispatchRequests server.app.hooks.sender.sent := by
  cases l with
  | own l =>
    obtain ⟨hown, -, -⟩ := HandleConn.turn_own h
    exact dispatchRequests_notifies (hstep hown)
  | recvRequest r =>
    -- `leave` changes the controller alone
    obtain ⟨-, -, -, hserver⟩ := HandleConn.turn_recv h
    rw [hserver, (H.leave_eq server k').2.1]

/-- No part of a task hands over more than was announced. -/
theorem Step.hands (h : Step env config server task l server' task') :
    Hands server.app task.handed (task.controllerCall? server.app.devices l) server'.app
      task'.handed := by
  cases h with
  | client hcall h => exact ClientSession.step_hands h
  | http hcall h => exact HttpCall.step_hands h
  | simple hconfig h =>
    exact .stay rfl (turn_dispatchRequests Simple.Conn.step_notifies h) (List.nil_sublist _)
  | krypton hconfig hcerts h =>
    exact .stay rfl (turn_dispatchRequests Krypton.Conn.step_notifies h) (List.nil_sublist _)
  | listener h =>
    exact .stay rfl (dispatchRequests_notifies (StartListening.step_notifies h))
      (List.nil_sublist _)
  | dependencies hconfig hcall h => exact DependencyTask.step_hands h
  | sunset hconfig hcall h => exact SunsetTask.step_hands h
  | @queryAll call l called call' hcall h =>
    -- The queries of the start call controllers too, but with no update
    refine .stay ?_ (by rw [hcall.app_eq]) (List.nil_sublist _)
    show commandsOf (call.controllerCall? server.app.devices l) = []
    unfold QueryAll.controllerCall?
    split
    · split <;> rfl
    · rfl

/-- The call of a part is made, and all else that a part does to the controllers concerns who
receives. -/
theorem Step.calls (h : Step env config server task l server' task') :
    ∃ called, server.Called (task.controllerCall? server.app.devices l) called ∧
      server'.simple.requestSender.sent = called.simple.requestSender.sent ∧
      server'.krypton.requestSender.sent = called.krypton.requestSender.sent := by
  cases h with
  | client hcall h => exact ⟨_, hcall, rfl, rfl⟩
  | http hcall h => exact ⟨_, hcall, rfl, rfl⟩
  -- A turn of a connection sends nothing on the channel it receives from
  | simple hconfig h =>
    exact ⟨server, .nothing, ((Simple.handleConn_lawful _ _).turn_frame h).2.2, rfl⟩
  | krypton hconfig hcerts h =>
    exact ⟨server, .nothing, rfl, ((Krypton.handleConn_lawful _ _ _).turn_frame h).2.2⟩
  | listener h => exact ⟨server, .nothing, rfl, rfl⟩
  | dependencies hconfig hcall h => exact ⟨_, hcall, rfl, rfl⟩
  | sunset hconfig hcall h => exact ⟨_, hcall, rfl, rfl⟩
  | queryAll hcall h => exact ⟨_, hcall, rfl, rfl⟩

end ServerTask

/-! ## Queries -/

/-- The device that a line queries. -/
def Line.queried : Line → List Device
  | .dispatching device => [device]
  | _ => []

/-- The devices whose state a session is being asked for. -/
def ClientSession.queried (s : ClientSession) : List Device :=
  match s.stage with
  | .handling line _ => line.queried
  | _ => []

/-- The devices whose state a task is being asked for. -/
def ServerTask.queried : ServerTask → List Device
  | .client session => session.queried
  | _ => []

namespace ClientSession

variable {env : SocketEnv} {scenes : ScenesConfig} {s s' : ClientSession} {l : SessionLabel}

/-- After a line the session asks for what the line did. -/
theorem queried_afterLine {transport : Transport} {rx : Broadcast.Receiver} {line : Line}
    (h : s.stage = afterLine transport rx line) : s.queried = line.queried := by
  rw [queried, h]
  cases line with
  | returned result => rcases result with e | ⟨⟩ <;> rfl
  | _ => rfl

/-- A line that begins has not asked for a state yet. -/
theorem queried_start (env : SocketEnv) (text : String) : (Line.start env text).queried = [] := by
  unfold Line.start
  split
  · rfl
  · rename_i message hm
    cases message <;> rfl

/-- A line queries a device that it has found. -/
theorem queried_line {line line' : Line} {l : LineLabel}
    (h : line.step env scenes app l = some (app', line')) :
    ∀ device ∈ line'.queried, ∃ id, app.devices.lookup id = some device := by
  -- A device is only found by a query
  intro device hmem
  cases Line.step_cases h with
  | @request call l app' call' hp => cases call' <;> cases hmem
  | @scene call l app' call' hp =>
    cases call' with
    | returned result => rcases result with e | ⟨⟩ <;> cases hmem
    | _ => cases hmem
  | found hdevice =>
    obtain rfl := List.mem_singleton.mp hmem
    exact ⟨_, hdevice⟩
  | _ => cases hmem

/-- A step of a session asks for the state of a device of the table. -/
theorem step_queried (h : s.step env scenes app l = some (app', s')) :
    ∀ device ∈ s'.queried, device ∈ s.queried ∨ ∃ id, app.devices.lookup id = some device := by
  intro device hmem
  cases step_cases h with
  -- The line of the session looks the device up
  | @handle line rx l app' line' hs hl =>
    have hqueried := @queried_afterLine { s with
      stage := afterLine s.transport rx line'
      written := s.written ++ ((line.writes l).map Outgoing.message).toList } _ rx line' rfl
    rw [hqueried] at hmem
    exact .inr (queried_line hl device hmem)
  -- A new line has looked nothing up
  | @line rx transport item text hs hitem =>
    have hqueried := @queried_afterLine { s with
      stage := afterLine s.transport rx (Line.start env text) } _ rx (Line.start env text) rfl
    rw [hqueried, queried_start] at hmem
    cases hmem
  | _ => cases hmem

end ClientSession

/-- The device that a call queries. -/
def ControllerCall.query? : ControllerCall → Option Device
  | .sendUpdate _ _ _ => none
  | .sendQuery device _ => some device

/-! Update requests, scenes and automations make no queries. -/

/-- The call of a request asks no controller for a state. -/
theorem RequestCall.query_none {call : RequestCall} {l : RequestLabel} {c : ControllerCall}
    (h : call.controllerCall? l = some c) : c.query? = none := by
  unfold controllerCall? at h
  split at h
  · cases h
    rfl
  · cases h

/-- The call of a scene asks no controller for a state. -/
theorem SceneCall.query_none {call : SceneCall} {l : SceneLabel} {c : ControllerCall}
    (h : call.controllerCall? l = some c) : c.query? = none := by
  unfold controllerCall? at h
  split at h
  · obtain ⟨member, -, hmember⟩ := Option.bind_eq_some_iff.mp h
    exact RequestCall.query_none hmember
  · cases h

namespace ServerTask

/-- A query is of the device that a line queries, or of one in the table. -/
theorem controllerCall?_query {task : ServerTask} {devices : Devices} {l : TaskLabel}
    {c : ControllerCall} (h : task.controllerCall? devices l = some c) {device : Device}
    (hdevice : c.query? = some device) :
    device ∈ task.queried ∨ ∃ id, devices.lookup id = some device := by
  -- A call that is no query asks for no state
  have hnone (hquery : c.query? = none) : False := by
    rw [hquery] at hdevice
    cases hdevice
  unfold controllerCall? at h
  split at h
  · -- a line may query its device
    rename_i session l
    unfold ClientSession.controllerCall? at h
    split at h
    · split at h
      · rename_i line rx hstage
        unfold Line.controllerCall? at h
        split at h
        · exact (hnone (RequestCall.query_none h)).elim
        · exact (hnone (SceneCall.query_none h)).elim
        · cases h
          cases hdevice
          simp [queried, ClientSession.queried, hstage, Line.queried]
        · cases h
      · cases h
    · cases h
  · -- a call over HTTP never does
    unfold HttpCall.controllerCall? at h
    split at h
    · exact (hnone (RequestCall.query_none h)).elim
    · exact (hnone (SceneCall.query_none h)).elim
    · cases h
  · unfold DependencyTask.controllerCall? at h
    split at h
    · split at h
      · cases h
        cases hdevice
      · cases h
    · cases h
  · unfold SunsetTask.controllerCall? at h
    split at h
    · obtain ⟨call, -, hcall⟩ := Option.bind_eq_some_iff.mp h
      exact (hnone (RequestCall.query_none hcall)).elim
    · cases h
  · -- `query_all` queries the devices that it reads in the table
    unfold QueryAll.controllerCall? at h
    split at h
    · split at h
      · rename_i entry hcalls hentry
        cases h
        cases hdevice
        exact .inr ⟨entry.1, AList.mem_lookup_iff.mpr (List.mem_of_getElem? hentry)⟩
      · cases h
    · cases h
  · cases h

variable {env : ServerEnv} {config : Config} {server server' : ServerState}
  {task task' : ServerTask} {l : TaskLabel}

/-- A step of a task asks for the state of a device of the table. -/
theorem Step.queried (h : Step env config server task l server' task') :
    ∀ device ∈ task'.queried, device ∈ task.queried ∨
      ∃ id, server.app.devices.lookup id = some device := by
  cases h with
  | client hcall h => exact ClientSession.step_queried h
  | _ => exact fun _ hmem => absurd hmem List.not_mem_nil

end ServerTask

/-! ## What is broadcast -/

/-- A controller broadcasts the message of the call that is made, or nothing. -/
theorem ServerState.Called.sent {server called : ServerState} {call? : Option ControllerCall}
    (h : server.Called call? called) :
    (called.simple.requestSender.sent = server.simple.requestSender.sent ∧
        called.krypton.requestSender.sent = server.krypton.requestSender.sent) ∨
      ∃ call, call? = some call ∧
        (((∃ config, call.device.controller = .simple config) ∧
            called.simple.requestSender.sent =
              server.simple.requestSender.sent ++ [call.message] ∧
            called.krypton.requestSender.sent = server.krypton.requestSender.sent) ∨
          ((∃ config, call.device.controller = .krypton config) ∧
            called.simple.requestSender.sent = server.simple.requestSender.sent ∧
            called.krypton.requestSender.sent =
              server.krypton.requestSender.sent ++ [call.message])) := by
  cases h with
  | nothing => exact .inl ⟨rfl, rfl⟩
  | other => exact .inl ⟨rfl, rfl⟩
  -- The message goes out on the channel of the controller, unless nobody receives there
  | @simple call config simple hc he hs =>
    rcases ControllerCall.send_cases hs with ⟨hsend, -⟩ | ⟨e, -, -, rfl⟩
    · refine .inr ⟨call, rfl, .inl ⟨⟨config, hc⟩, ?_, rfl⟩⟩
      rw [Controller.send_ok hsend]
    · exact .inl ⟨rfl, rfl⟩
  | @krypton call config krypton hc he hs =>
    rcases ControllerCall.send_cases hs with ⟨hsend, -⟩ | ⟨e, -, -, rfl⟩
    · refine .inr ⟨call, rfl, .inr ⟨⟨config, hc⟩, rfl, ?_⟩⟩
      rw [Controller.send_ok hsend]
    · exact .inl ⟨rfl, rfl⟩

/-- The command for a request, as it is broadcast. -/
def UpdateRequest.command (request : UpdateRequest) : DeviceBoundMessage :=
  .updateCommand ⟨request.deviceId, request.update⟩

/-- The message of a call is the command of the request it hands over, and no other. -/
theorem ControllerCall.count_message (call : ControllerCall) (request : UpdateRequest) :
    [call.message].count request.command = occurrences request call.command := by
  cases call with
  | sendUpdate device request' outcome =>
    by_cases h : request' = request
    · subst h
      simp [message, UpdateRequest.command, command, occurrences]
    · have hne : ¬(request'.deviceId = request.deviceId ∧ request'.update = request.update) := by
        rintro ⟨hid, hupdate⟩
        exact h (by cases request; cases request'; simp_all)
      simp [message, UpdateRequest.command, command, occurrences, h, hne]
  | sendQuery device outcome => rfl

/-- A command is broadcast no more often than the call hands one over. -/
theorem ServerState.Called.count_sent {server called : ServerState}
    {call? : Option ControllerCall} (h : server.Called call? called) (request : UpdateRequest) :
    called.simple.requestSender.sent.count request.command +
        called.krypton.requestSender.sent.count request.command ≤
      server.simple.requestSender.sent.count request.command +
        server.krypton.requestSender.sent.count request.command +
        occurrences request (commandsOf call?) := by
  rcases h.sent with ⟨hsimple, hkrypton⟩ | ⟨call, rfl, hsent⟩
  · rw [hsimple, hkrypton]
    omega
  · -- one message at most, and that is the command of the call
    have hmessage := call.count_message request
    show _ ≤ _ + occurrences request call.command
    rcases hsent with ⟨-, hsimple, hkrypton⟩ | ⟨-, hsimple, hkrypton⟩
    · rw [hsimple, hkrypton, List.count_append]
      omega
    · rw [hsimple, hkrypton, List.count_append]
      omega

/-- The message is for a device of the table, whose controller is of the kind. -/
def DeviceBoundMessage.IsFor (devices : Devices) (kind : ControllerConfig → Prop)
    (m : DeviceBoundMessage) : Prop :=
  ∃ id device, m.requestDevice = some id ∧ devices.lookup id = some device ∧
    kind device.controller

/-- The controller of the device is the Simple one. -/
def ControllerConfig.IsSimple (controller : ControllerConfig) : Prop :=
  ∃ config, controller = .simple config

/-- The controller of the device is the Krypton one. -/
def ControllerConfig.IsKrypton (controller : ControllerConfig) : Prop :=
  ∃ config, controller = .krypton config

section Commanded

variable {env : ServerEnv} {config : Config} {devices : Devices}
  {st st' : System.State ServerState ServerTask}

/-- A call over HTTP begins with nothing in hand. -/
theorem HttpCall.handed_start (fromSlice : List UInt8 → Except Error ServerBoundHttpMessage)
    (bytes : Except Error (List UInt8)) : (HttpCall.start fromSlice bytes).handed = [] := by
  unfold HttpCall.start
  split
  · rfl
  · rename_i message hm
    cases message <;> rfl

/-- What begins on its own has nothing in hand, and broadcasts nothing. -/
theorem AcceptTask.commands {server server' : ServerState} {start : TaskStart}
    {task : ServerTask} (h : AcceptTask env config server start server' task) :
    task.handed = [] ∧ task.queried = [] ∧
      server'.simple.requestSender.sent = server.simple.requestSender.sent ∧
      server'.krypton.requestSender.sent = server.krypton.requestSender.sent := by
  cases h with
  | http => exact ⟨HttpCall.handed_start _ _, rfl, rfl, rfl⟩
  | _ => exact ⟨rfl, rfl, rfl, rfl⟩

/-- A device that a task has found is the one that is configured. -/
def IsConfigured (devices : Devices) (id : DeviceId) (device : Device) : Prop :=
  (devices.lookup id).map Device.config = some device.config

/-- What has been broadcast, and is about to be, was announced, and is for devices that are
configured. -/
structure Commanded (devices : Devices) (st : System.State ServerState ServerTask) : Prop where
  account : ∀ request : UpdateRequest,
    st.shared.simple.requestSender.sent.count request.command +
        st.shared.krypton.requestSender.sent.count request.command +
        occurrences request (st.comps.flatMap ServerTask.handed) ≤
      (dispatchRequests st.shared.app.hooks.sender.sent).count request
  handed : ∀ task ∈ st.comps, ∀ p ∈ task.handed, IsConfigured devices p.2.deviceId p.1
  queried : ∀ task ∈ st.comps, ∀ device ∈ task.queried, IsConfigured devices device.id device
  simple : ∀ m ∈ st.shared.simple.requestSender.sent, m.IsFor devices ControllerConfig.IsSimple
  krypton : ∀ m ∈ st.shared.krypton.requestSender.sent,
    m.IsFor devices ControllerConfig.IsKrypton

namespace Commanded

/-- Nothing has been broadcast when `main` starts. -/
theorem initial (config : Config) (devices : Devices) :
    Commanded devices (serverInitial config devices) := by
  -- The tasks of `main` have nothing in hand yet
  have hmain : ∀ task ∈ mainTasks config, task.handed = [] ∧ task.queried = [] := by
    intro task htask
    cases mainTasks_cases htask <;> exact ⟨rfl, rfl⟩
  refine ⟨fun request => ?_, fun task htask p hp => ?_, fun task htask device hd => ?_, ?_, ?_⟩
  · have hnil : (mainTasks config).flatMap ServerTask.handed = [] :=
      List.flatMap_eq_nil_iff.mpr fun task htask => (hmain task htask).1
    show 0 + 0 + occurrences request ((mainTasks config).flatMap ServerTask.handed) ≤ 0
    rw [hnil]
    exact Nat.le_refl 0
  · rw [(hmain task htask).1] at hp
    cases hp
  · rw [(hmain task htask).2] at hd
    cases hd
  · exact fun m hm => absurd hm List.not_mem_nil
  · exact fun m hm => absurd hm List.not_mem_nil

/-- The message of a call is for the device that it is made for. -/
theorem isFor {kind : ControllerConfig → Prop} {call : ControllerCall} {id : DeviceId}
    (hid : call.message.requestDevice = some id) (hconfigured : IsConfigured devices id call.device)
    (hkind : kind call.device.controller) : call.message.IsFor devices kind := by
  obtain ⟨device, hdevice, hconfig⟩ := Option.map_eq_some_iff.mp hconfigured
  have hcontroller : device.controller = call.device.controller :=
    congrArg (fun c => c.2.2) hconfig
  exact ⟨id, device, hid, hdevice, by rwa [hcontroller]⟩

/-- What a task finds in the table is configured. -/
theorem found (hk : devices.Keyed) (hs : Serves config devices st) {id : DeviceId}
    {device : Device} (hd : st.shared.app.devices.lookup id = some device) :
    device.id = id ∧ IsConfigured devices id device := by
  refine ⟨hs.sameConfig.keyed hk id device hd, ?_⟩
  have hconfig : (devices.lookup id).map Device.config =
      (st.shared.app.devices.lookup id).map Device.config := (hs.sameConfig.devices id).symm
  rw [IsConfigured, hconfig, hd]
  rfl

variable {a : System.Act Unit TaskStart TaskLabel} {i : Nat} {task task' : ServerTask}
  {l : TaskLabel}

/-- A call is made for the device that its message names. -/
theorem configured (h : Commanded devices st) (hk : devices.Keyed) (hs : Serves config devices st)
    (hi : st.comps[i]? = some task)
    (hstep : task.Step env config st.shared l st'.shared task') {call : ControllerCall}
    (hcall : task.controllerCall? st.shared.app.devices l = some call) :
    ∃ id, call.message.requestDevice = some id ∧ IsConfigured devices id call.device := by
  have hmem := List.mem_of_getElem? hi
  have hcommand := hstep.hands.command
  rw [hcall] at hcommand
  cases hc : call with
  | sendUpdate device request outcome =>
    -- A command is called for with the device that was found as it was announced
    rw [hc] at hcommand
    exact ⟨_, rfl, h.handed task hmem _ (hcommand _ (List.mem_singleton_self _))⟩
  | sendQuery device outcome =>
    refine ⟨device.id, rfl, ?_⟩
    rw [hc] at hcall
    rcases ServerTask.controllerCall?_query hcall rfl with hqueried | ⟨id, hd⟩
    · exact h.queried task hmem device hqueried
    · obtain ⟨rfl, hconfigured⟩ := found hk hs hd
      exact hconfigured

/-- A step of a task keeps the account of its hooks, calls and messages. -/
theorem step (h : Commanded devices st) (hk : devices.Keyed) (hs : Serves config devices st)
    (hi : st.comps[i]? = some task)
    (hstep : task.Step env config st.shared l st'.shared task')
    (hcomps : st'.comps = st.comps.set i task') : Commanded devices st' := by
  have hmem := List.mem_of_getElem? hi
  have hhands := hstep.hands
  obtain ⟨called, hcalled, hsimple, hkrypton⟩ := hstep.calls
  -- What is sent now is for a device that is configured
  have hsent : (∀ m ∈ st'.shared.simple.requestSender.sent,
        m ∈ st.shared.simple.requestSender.sent ∨ m.IsFor devices ControllerConfig.IsSimple) ∧
      ∀ m ∈ st'.shared.krypton.requestSender.sent,
        m ∈ st.shared.krypton.requestSender.sent ∨ m.IsFor devices ControllerConfig.IsKrypton := by
    rw [hsimple, hkrypton]
    rcases hcalled.sent with ⟨hsimple, hkrypton⟩ | ⟨call, hcall, hsent⟩
    · rw [hsimple, hkrypton]
      exact ⟨fun m hm => .inl hm, fun m hm => .inl hm⟩
    · obtain ⟨id, hid, hconfigured⟩ := h.configured hk hs hi hstep hcall
      rcases hsent with ⟨hkind, hsimple, hkrypton⟩ | ⟨hkind, hsimple, hkrypton⟩
      · rw [hsimple, hkrypton]
        refine ⟨fun m hm => ?_, fun m hm => .inl hm⟩
        rcases List.mem_append.mp hm with hm | hm
        · exact .inl hm
        · obtain rfl := List.mem_singleton.mp hm
          exact .inr (isFor hid hconfigured hkind)
      · rw [hsimple, hkrypton]
        refine ⟨fun m hm => .inl hm, fun m hm => ?_⟩
        rcases List.mem_append.mp hm with hm | hm
        · exact .inl hm
        · obtain rfl := List.mem_singleton.mp hm
          exact .inr (isFor hid hconfigured hkind)
  have hset {t : ServerTask} (ht : t ∈ st'.comps) : t ∈ st.comps ∨ t = task' := by
    rw [hcomps] at ht
    exact List.mem_or_eq_of_mem_set ht
  refine ⟨fun request => ?_, fun t ht p hp => ?_, fun t ht device hd => ?_, fun m hm => ?_,
    fun m hm => ?_⟩
  · -- what is sent was handed over before, and what is handed over was announced
    have hcount := hcalled.count_sent request
    have haccount := hhands.account request
    have hbefore := h.account request
    have hsum := List.sum_map_set (fun task => occurrences request task.handed) hi task'
    rw [occurrences_flatMap] at hbefore
    rw [hsimple, hkrypton, hcomps, occurrences_flatMap]
    omega
  · rcases hset ht with ht | rfl
    · exact h.handed t ht p hp
    · rcases hhands.found p hp with hp | hd
      · exact h.handed task hmem p hp
      · exact (found hk hs hd).2
  · rcases hset ht with ht | rfl
    · exact h.queried t ht device hd
    · rcases hstep.queried device hd with hd | ⟨id, hd⟩
      · exact h.queried task hmem device hd
      · obtain ⟨rfl, hconfigured⟩ := found hk hs hd
        exact hconfigured
  · rcases hsent.1 m hm with hm | hfor
    · exact h.simple m hm
    · exact hfor
  · rcases hsent.2 m hm with hm | hfor
    · exact h.krypton m hm
    · exact hfor

/-- One action of the server keeps the account. -/
theorem exec (h : Commanded devices st) (hk : devices.Keyed) (hs : Serves config devices st)
    (hexec : (serverTasks env config).exec st a = some st') : Commanded devices st' := by
  cases a with
  -- Collecting the certificates changes nothing else
  | env e =>
    obtain ⟨henv, hcomps⟩ := System.exec_env hexec
    have hshared := collectDeviceCerts_cases henv
    refine ⟨?_, by rw [hcomps]; exact h.handed, by rw [hcomps]; exact h.queried, ?_, ?_⟩
    · rw [hshared, hcomps]
      exact h.account
    · rw [hshared]
      exact h.simple
    · rw [hshared]
      exact h.krypton
  -- A new task has nothing in hand
  | spawn start =>
    obtain ⟨task, hspawn, hcomps⟩ := System.exec_spawn hexec
    obtain ⟨hhanded, hqueried, hsimple, hkrypton⟩ := (acceptTask_cases hspawn).commands
    refine ⟨fun request => ?_, fun t ht p hp => ?_, fun t ht device hd => ?_, ?_, ?_⟩
    · rw [hsimple, hkrypton, (acceptTask_cases hspawn).app_eq, hcomps, List.flatMap_append,
        List.flatMap_singleton, hhanded, List.append_nil]
      exact h.account request
    · rw [hcomps, List.mem_append, List.mem_singleton] at ht
      rcases ht with ht | rfl
      · exact h.handed t ht p hp
      · rw [hhanded] at hp
        cases hp
    · rw [hcomps, List.mem_append, List.mem_singleton] at ht
      rcases ht with ht | rfl
      · exact h.queried t ht device hd
      · rw [hqueried] at hd
        cases hd
    · rw [hsimple]
      exact h.simple
    · rw [hkrypton]
      exact h.krypton
  | step i l =>
    obtain ⟨task, task', hi, hstep, hcomps⟩ := System.exec_step hexec
    exact h.step hk hs hi (ServerTask.step_cases hstep) hcomps

/-- Every run of the server keeps the account. -/
theorem run (hk : devices.Keyed) {as : List (System.Act Unit TaskStart TaskLabel)}
    (hrun : (serverTasks env config).run (serverInitial config devices) as = some st) :
    Commanded devices st := by
  have hinit : Serves config devices (serverInitial config devices) ∧
      Commanded devices (serverInitial config devices) :=
    ⟨.initial config devices, .initial config devices⟩
  have hstep : ∀ s (a : System.Act Unit TaskStart TaskLabel) s',
      Serves config devices s ∧ Commanded devices s → (serverTasks env config).exec s a = some s' →
      Serves config devices s' ∧ Commanded devices s' := by
    rintro s a s' ⟨hs, hc⟩ ha
    exact ⟨hs.exec ha, hc.exec hk hs ha⟩
  exact (Lts.run_invariant _ hstep hrun hinit).2

end Commanded

/-- In every run of the server, with all its tasks in any order: the controllers have broadcast the
command of a request no more often than the hooks have announced it, and all that a controller has
broadcast is for devices that are configured with it. -/
theorem server_commands (env : ServerEnv) (config : Config) (capacity : Nat) (devices : Devices)
    (hload : loadDevices capacity config.devices = some devices)
    (as : List (System.Act Unit TaskStart TaskLabel)) (st : System.State ServerState ServerTask)
    (h : (serverTasks env config).run (serverInitial config devices) as = some st) :
    (∀ request : UpdateRequest,
        st.shared.simple.requestSender.sent.count request.command +
          st.shared.krypton.requestSender.sent.count request.command ≤
        (dispatchRequests st.shared.app.hooks.sender.sent).count request) ∧
      (∀ m ∈ st.shared.simple.requestSender.sent, ∃ id c simple,
        m.requestDevice = some id ∧ config.devices.lookup id.name = some c ∧
          c.controller = .simple simple) ∧
      ∀ m ∈ st.shared.krypton.requestSender.sent, ∃ id c krypton,
        m.requestDevice = some id ∧ config.devices.lookup id.name = some c ∧
          c.controller = .krypton krypton := by
  have hcommanded := Commanded.run (loadDevices_keyed hload) h
  have hloaded {kind : ControllerConfig → Prop} {m : DeviceBoundMessage}
      (hm : m.IsFor devices kind) : ∃ id c, m.requestDevice = some id ∧
        config.devices.lookup id.name = some c ∧ kind c.controller := by
    -- The device of the message is in the configuration, with its controller
    obtain ⟨id, device, hid, hdevice, hkind⟩ := hm
    rw [loadDevices_lookup hload] at hdevice
    obtain ⟨c, hc, rfl⟩ := Option.map_eq_some_iff.mp hdevice
    exact ⟨id, c, hid, hc, hkind⟩
  refine ⟨fun request => ?_, fun m hm => ?_, fun m hm => ?_⟩
  · have haccount := hcommanded.account request
    omega
  · obtain ⟨id, c, hid, hc, simple, hsimple⟩ := hloaded (hcommanded.simple m hm)
    exact ⟨id, c, simple, hid, hc, hsimple⟩
  · obtain ⟨id, c, hid, hc, krypton, hkrypton⟩ := hloaded (hcommanded.krypton m hm)
    exact ⟨id, c, krypton, hid, hc, hkrypton⟩

end Commanded

open ServerTask.Demo in
/-- A client turns the lamp on. -/
def ServerTask.Demo.turnedOn : List (System.Act Unit TaskStart TaskLabel) :=
  [.spawn (.client .tcp), .step 2 (.client (.accept (.ok ()))),
    .step 2 (.client (.tryNext .tcp (.ok (some "on")))), .step 2 (.client (.line (.sent (.ok ())))),
    .step 2 (.client (.line (.request .poll))),
    .step 2 (.client (.line (.request (.dispatched (.ok ())))))]

open ServerTask.Demo in
/-- The lamp is turned on once, for one request. -/
theorem server_commands_demo :
    ∃ st, (serverTasks env config).run (serverInitial config devices) turnedOn = some st ∧
      st.shared.simple.requestSender.sent = [.updateCommand ⟨Simple.Demo.lamp, .power .on⟩] ∧
      (∀ request : UpdateRequest,
        st.shared.simple.requestSender.sent.count request.command +
          st.shared.krypton.requestSender.sent.count request.command ≤
        (dispatchRequests st.shared.app.hooks.sender.sent).count request) :=
  ⟨_, rfl, rfl, (server_commands env config 64 devices rfl turnedOn _ rfl).1⟩

end Devicectrl
