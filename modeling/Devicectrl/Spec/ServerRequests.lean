import Devicectrl.Spec.RequestLedger
import Devicectrl.Spec.ServerReports
import Devicectrl.Spec.SunsetRamp

/-!
# Who asks for an update

Every update request that the server with all its tasks announces, and every command that it sends,
was asked for: by a client, by the dependency automation in answer to another request or to what a
device has reported, or by the sunset automation within the range that is configured.

## Key results

- `ServerTask.Step.asks`: what a part of a task takes on, it is asked for
- `Asked.exec`: what has been asked for stays asked for
- `server_requests`: announced requests and commands were asked for
-/

namespace Devicectrl

open RwLock (TryJoinAll)

variable {app app' : AppState}

/-! ## What a message asks for -/

/-- The updates of a message: that of a request, or those of a scene. -/
def ServerBoundSocketMessage.requests (scenes : ScenesConfig) :
    ServerBoundSocketMessage → List UpdateRequest
  | .updateRequest request => [request]
  | .activateScene sceneId => (scenes.lookup sceneId).getD []
  | _ => []

/-- The updates of a message over HTTP. -/
def ServerBoundHttpMessage.requests (scenes : ScenesConfig) :
    ServerBoundHttpMessage → List UpdateRequest
  | .updateRequest request => [request]
  | .activateScene sceneId => (scenes.lookup sceneId).getD []
  | .other _ => []

/-- `handle_line` takes on what the message asks for. -/
theorem Line.requests_start {env : SocketEnv} {scenes : ScenesConfig} {text : String}
    {request : UpdateRequest} (h : request ∈ (Line.start env text).requests scenes) :
    ∃ message, env.fromStr text = .ok message ∧ request ∈ message.requests scenes := by
  unfold start at h
  split at h
  · cases h
  · rename_i message hmessage
    refine ⟨message, hmessage, ?_⟩
    cases message <;> exact h

/-- `POST /` takes on what its message asks for. -/
theorem HttpCall.requests_start {scenes : ScenesConfig}
    {fromSlice : List UInt8 → Except Error ServerBoundHttpMessage}
    {bytes : Except Error (List UInt8)} {request : UpdateRequest}
    (h : request ∈ (HttpCall.start fromSlice bytes).requests scenes) :
    ∃ message, bytes.bind fromSlice = .ok message ∧ request ∈ message.requests scenes := by
  unfold start at h
  split at h
  · cases h
  · rename_i message hmessage
    refine ⟨message, hmessage, ?_⟩
    cases message <;> exact h

/-! ## What a part of a task takes on -/

namespace ClientSession

variable {env : SocketEnv} {scenes : ScenesConfig} {s s' : ClientSession} {l : SessionLabel}
  {request : UpdateRequest}

/-- After a line the session asks for what the line did. -/
theorem requests_afterLine {transport : Transport} {rx : Broadcast.Receiver} {line : Line}
    (h : s.stage = afterLine transport rx line) : s.requests scenes = line.requests scenes := by
  rw [requests, h]
  cases line with
  | returned result => rcases result with e | ⟨⟩ <;> rfl
  | _ => rfl

/-- A session takes on what it reads. -/
theorem step_asks (h : s.step env scenes app l = some (app', s'))
    (hmem : request ∈ s'.requests scenes) :
    request ∈ s.requests scenes ∨
      ∃ (transport : Transport) (item : Except Error (Option transport.Frame)) (text : String)
          (message : ServerBoundSocketMessage),
        l = .tryNext transport item ∧ item.map transport.turn = .ok (.line text) ∧
          env.fromStr text = .ok message ∧ request ∈ message.requests scenes := by
  cases step_cases h with
  -- The line goes on with what it was doing
  | @handle line rx l app' line' hs hl =>
    have hrequests := @requests_afterLine scenes { s with
      stage := afterLine s.transport rx line'
      written := s.written ++ ((line.writes l).map Outgoing.message).toList } _ rx line' rfl
    rw [hrequests] at hmem
    left
    rw [requests, hs]
    exact (Line.step_requests hl).requests hmem
  -- The line begins with what its message asks for
  | @line rx transport item text hs hitem =>
    have hrequests := @requests_afterLine scenes { s with
      stage := afterLine s.transport rx (Line.start env text) } _ rx (Line.start env text) rfl
    rw [hrequests] at hmem
    obtain ⟨message, hmessage, hrequest⟩ := Line.requests_start hmem
    exact .inr ⟨transport, item, text, message, rfl, hitem, hmessage, hrequest⟩
  | _ => cases hmem

end ClientSession

/-- The dependency automation takes on what a hook asks of it. -/
theorem DependencyTask.step_asks {relationships : DependencyAutomationConfig}
    {task task' : DependencyTask} {l : Dependencies.Label} {request : UpdateRequest}
    (h : task.step relationships app l = some (app', task')) (hmem : request ∈ task'.asking) :
    request ∈ task.asking ∨ ∃ hook ∈ app.hooks.sender.sent, ∃ context,
      Dependencies.onEvent relationships hook = some (request, context) := by
  obtain ⟨p, hp, he⟩ := Option.map_eq_some_iff.mp h
  cases he
  obtain ⟨automation, requests⟩ := task
  obtain ⟨app', automation'⟩ := p
  cases Dependencies.startAutomation_cases hp with
  -- The hook that is answered was sent
  | @answer rx rx' hook request' context hr ho =>
    obtain rfl := List.mem_singleton.mp hmem
    obtain ⟨-, hget, -⟩ := Broadcast.Channel.recv_ok hr
    exact .inr ⟨hook, List.mem_of_getElem? hget, context, ho⟩
  -- The request in hand is announced, and stays with the task
  | @request rx request' context device app' hb =>
    left
    simpa [asking, Dependencies.Automation.request?] using hmem
  | _ => cases hmem

/-! ## The sunset automation -/

namespace DeviceRamp

variable {ramp ramp' : DeviceRamp} {l : DeviceRampLabel} {events : List RampEvent}

/-- The colour temperatures that a ramp has yet to request. -/
def pending (ramp : DeviceRamp) : List UInt32 :=
  match ramp.stage with
  | .begin => ramp.update.range.toList
  | .requesting rest => rest.toList
  | .sleeping rest => rest.toList
  | .returned _ => []

/-- The next value of a range is requested, and the others are left. -/
theorem next_pending {update : SunsetDeviceConfig} {range : RangeInclusive}
    (h : next update range = (ramp', events)) :
    ramp'.update = update ∧ ramp'.pending ⊆ range.toList ∧
      ∀ request, .request request ∈ events → ∃ x ∈ range.toList, request = update.request x := by
  unfold next at h
  split at h
  · cases h
    exact ⟨rfl, List.nil_subset _, fun _ hmem => absurd hmem List.not_mem_nil⟩
  · -- the next value of the range
    rename_i colorTemp rest hnext
    cases h
    rw [RangeInclusive.toList_of_next hnext]
    refine ⟨rfl, List.subset_cons_self _ _, fun request hmem => ?_⟩
    cases List.mem_singleton.mp hmem
    exact ⟨colorTemp, List.mem_cons_self, rfl⟩

/-- A ramp requests what it has yet to, and never more than that. -/
theorem step_pending (h : ramp.step l = some (ramp', events)) :
    ramp'.update = ramp.update ∧ ramp'.pending ⊆ ramp.pending ∧
      ∀ request, .request request ∈ events →
        ∃ x ∈ ramp.pending, request = ramp.update.request x := by
  cases step_cases h with
  | begin hnext => exact next_pending hnext
  | failed => exact ⟨rfl, List.nil_subset _, fun _ hmem => absurd hmem List.not_mem_nil⟩
  | panicked hpause => exact ⟨rfl, List.nil_subset _, fun _ hmem => absurd hmem List.not_mem_nil⟩
  | paused hpause => exact ⟨rfl, List.Subset.refl _, by simp⟩
  | slept hnext => exact next_pending hnext

end DeviceRamp

/-- What the configuration has the automation request. -/
def SunsetLightTempAutomationConfig.Asks (config : SunsetLightTempAutomationConfig)
    (request : UpdateRequest) : Prop :=
  ∃ update ∈ config.devices, ∃ x ∈ update.range.toList, request = update.request x

namespace SunsetLightTemp

variable {almanac : Almanac} {config : SunsetLightTempAutomationConfig}
  {st st' : SunsetLightTemp} {l : SunsetLabel} {events : List SunsetEvent}

/-- The ramps are those of devices of the configuration, and each is within its range. -/
def Within (config : SunsetLightTempAutomationConfig) : SunsetLightTemp → Prop
  | .ramping ramps =>
    ∀ ramp ∈ ramps, ramp.update ∈ config.devices ∧ ramp.pending ⊆ ramp.update.range.toList
  | _ => True

/-- The ramps of a join keep to their range. -/
theorem within_ofJoin {join : TryJoinAll DeviceRamp Abort}
    (h : ∀ ramps, join = .joining ramps → (ramping ramps).Within config) :
    (ofJoin join).Within config := by
  rcases ofJoin_cases join with ⟨ramps, hjoin, he⟩ | ⟨-, he⟩ | ⟨abort, -, he⟩
  · rw [he]
    exact h ramps hjoin
  · rw [he]
    trivial
  · rw [he]
    trivial

/-- A turn of the ramps keeps to their range, and asks for values of it. -/
theorem step_within (hw : st.Within config) (h : st.step almanac config l = some (st', events)) :
    st'.Within config ∧ ∀ i request, .ramp i (.request request) ∈ events → config.Asks request := by
  unfold step at h
  split at h
  · dsimp only at h
    split at h
    · cases h
      exact ⟨trivial, by simp⟩
    · cases h
      exact ⟨trivial, by simp⟩
  · -- each ramp starts with all of its range
    cases h
    refine ⟨within_ofJoin fun ramps hjoin => ?_, by simp⟩
    unfold TryJoinAll.start at hjoin
    split at hjoin
    · cases hjoin
    · cases hjoin
      intro ramp hmem
      obtain ⟨update, hupdate, rfl⟩ := List.mem_map.mp hmem
      exact ⟨hupdate, List.Subset.refl _⟩
  · rename_i ramps i l'
    split at h
    · cases h
    · rename_i ramp hi
      obtain ⟨⟨ramp', rampEvents⟩, hstep, he⟩ := Option.map_eq_some_iff.mp h
      cases he
      obtain ⟨hdevice, hpending⟩ := hw ramp (List.mem_of_getElem? hi)
      obtain ⟨hupdate, hleft, hrequests⟩ := DeviceRamp.step_pending hstep
      -- The ramp that steps keeps its device and goes on within its range
      refine ⟨within_ofJoin fun ramps' hjoin => ?_, fun j request hmem => ?_⟩
      · obtain rfl := TryJoinAll.after_joining hjoin
        intro k hk
        rcases List.mem_or_eq_of_mem_set hk with hk | rfl
        · exact hw k hk
        · rw [hupdate]
          exact ⟨hdevice, List.Subset.trans hleft hpending⟩
      · obtain ⟨event, hevent, he⟩ := List.mem_map.mp hmem
        cases he
        obtain ⟨x, hx, rfl⟩ := hrequests request hevent
        exact ⟨ramp.update, hdevice, x, hpending hx, rfl⟩
  · cases h

end SunsetLightTemp

namespace SunsetTask

variable {almanac : Almanac} {config : SunsetLightTempAutomationConfig} {task task' : SunsetTask}
  {l : SunsetTaskLabel} {request : UpdateRequest}

/-- After a step of the automation a call is one of those before, or for what the step requests. -/
theorem mem_requests_after {calls : List (Nat × RequestCall)}
    {p : SunsetLightTemp × List SunsetEvent} (h : request ∈ (after calls p).requests) :
    (∃ call ∈ calls, request ∈ call.2.requests) ∨ ∃ i, .ramp i (.request request) ∈ p.2 := by
  unfold after at h
  split at h
  · obtain ⟨call, hcall, hrequest⟩ := List.mem_flatMap.mp h
    rcases List.mem_append.mp hcall with hcall | hcall
    · -- the calls of before, and those that the events begin
      exact .inl ⟨call, hcall, hrequest⟩
    · obtain ⟨event, hevent, he⟩ := List.mem_filterMap.mp hcall
      split at he
      · rename_i i request'
        cases he
        obtain rfl := List.mem_singleton.mp hrequest
        exact .inr ⟨i, hevent⟩
      · cases he
  · cases h

/-- A turn of the automation keeps to the configuration, and asks for updates of it. -/
theorem step_asks (hw : task.automation.Within config)
    (h : task.step almanac config app l = some (app', task')) :
    task'.automation.Within config ∧
      ∀ request ∈ task'.requests, request ∈ task.requests ∨ config.Asks request := by
  cases step_cases h with
  | @own l p hl hp =>
    obtain ⟨hw', hasks⟩ := SunsetLightTemp.step_within hw hp
    rw [automation_after]
    refine ⟨hw', fun request hmem => ?_⟩
    rcases mem_requests_after hmem with ⟨call, hcall, hrequest⟩ | ⟨i, hevent⟩
    · exact .inl (List.mem_flatMap.mpr ⟨call, hcall, hrequest⟩)
    · exact .inr (hasks i request hevent)
  | @goOn j l i call app' call' hj hstep hgo =>
    -- The call is awaited, so the automation itself stays where it is
    refine ⟨hw, fun request hmem => .inl ?_⟩
    obtain ⟨c, hc, hrequest⟩ := List.mem_flatMap.mp hmem
    rcases List.mem_or_eq_of_mem_set hc with hc | rfl
    · exact List.mem_flatMap.mpr ⟨c, hc, hrequest⟩
    · exact mem_requests hj ((RequestCall.step_requests hstep).requests hrequest)
  | @stop j l i call app' result p hj hstep hp =>
    obtain ⟨hw', hasks⟩ := SunsetLightTemp.step_within hw hp
    rw [automation_after]
    refine ⟨hw', fun request hmem => ?_⟩
    rcases mem_requests_after hmem with ⟨c, hc, hrequest⟩ | ⟨k, hevent⟩
    · exact .inl (List.mem_flatMap.mpr ⟨c, List.mem_of_mem_eraseIdx hc, hrequest⟩)
    · exact .inr (hasks k request hevent)

end SunsetTask

/-! ## Evidence -/

variable {env : ServerEnv} {config : Config} {devices : Devices}

/-- Why an update is requested, in a run `as` that has led to `st`. -/
inductive Asked (env : ServerEnv) (config : Config) (devices : Devices)
    (as : List (System.Act Unit TaskStart TaskLabel)) (st : System.State ServerState ServerTask) :
    UpdateRequest → Prop
  /-- A client of a socket backend has asked for it, or for a scene with it. -/
  | socket {i : Nat} {transport : Transport} {item : Except Error (Option transport.Frame)}
      {text : String} {message : ServerBoundSocketMessage} {request : UpdateRequest}
      (hread : .step i (.client (.tryNext transport item)) ∈ as)
      (hitem : item.map transport.turn = .ok (.line text))
      (hmessage : env.socket.fromStr text = .ok message)
      (hrequest : request ∈ message.requests config.scenes) :
      Asked env config devices as st request
  /-- So has a client of the HTTP backend. -/
  | http {bytes : Except Error (List UInt8)} {message : ServerBoundHttpMessage}
      {request : UpdateRequest} (hread : .spawn (.http bytes) ∈ as)
      (hmessage : bytes.bind env.http = .ok message)
      (hrequest : request ∈ message.requests config.scenes) :
      Asked env config devices as st request
  /-- The device depends on one that was asked to go on. -/
  | follow {relationships : DependencyAutomationConfig} {cause request : UpdateRequest}
      {context : String} (hconfig : config.automations.dependencies = some relationships)
      (hcause : Asked env config devices as st cause)
      (hannounced : .deviceUpdateDispatch cause ∈ st.shared.app.hooks.sender.sent)
      (hevent : Dependencies.onEvent relationships (.deviceUpdateDispatch cause) =
        some (request, context)) :
      Asked env config devices as st request
  /-- The device depends on one that has reported that it is on, or off. -/
  | react {relationships : DependencyAutomationConfig} {update : UpdateNotification}
      {request : UpdateRequest} {context : String}
      (hconfig : config.automations.dependencies = some relationships)
      (hreported : Reported env config devices as st update)
      (hevent : Dependencies.onEvent relationships (.deviceStateUpdate update) =
        some (request, context)) :
      Asked env config devices as st request
  /-- The sunset automation sets a colour temperature of the range of the device. -/
  | sunset {automationConfig : SunsetLightTempAutomationConfig} {update : SunsetDeviceConfig}
      {colorTemp : UInt32} (hconfig : config.automations.sunsetLightTemp = some automationConfig)
      (hdevice : update ∈ automationConfig.devices)
      (hcolorTemp : colorTemp ∈ update.range.toList) :
      Asked env config devices as st (update.request colorTemp)

section Exec

variable {st st' : System.State ServerState ServerTask}
  {as : List (System.Act Unit TaskStart TaskLabel)} {a : System.Act Unit TaskStart TaskLabel}
  {request : UpdateRequest}

/-- Hooks stay sent. -/
theorem serverTasks_sent (hexec : (serverTasks env config).exec st a = some st') :
    st.shared.app.hooks.sender.sent ⊆ st'.shared.app.hooks.sender.sent := by
  cases a with
  | env e =>
    obtain ⟨henv, -⟩ := System.exec_env hexec
    rw [collectDeviceCerts_cases henv]
    exact List.Subset.refl _
  | spawn start =>
    obtain ⟨task, hspawn, -⟩ := System.exec_spawn hexec
    rw [(acceptTask_cases hspawn).app_eq]
    exact List.Subset.refl _
  | step i l =>
    -- A step of a task makes one change, and that only adds hooks
    obtain ⟨task, task', -, hstep, -⟩ := System.exec_step hexec
    obtain ⟨act, hchange, -⟩ := (ServerTask.step_cases hstep).changes
    rw [hchange.sent]
    exact List.subset_append_left _ _

/-- What has been asked for stays asked for. -/
theorem Asked.exec (h : Asked env config devices as st request)
    (hexec : (serverTasks env config).exec st a = some st') :
    Asked env config devices (as ++ [a]) st' request := by
  -- On the evidence: a request that follows from another is asked for because that one still is
  induction h with
  | socket hread hitem hmessage hrequest =>
    exact .socket (List.mem_append_left _ hread) hitem hmessage hrequest
  | http hread hmessage hrequest =>
    exact .http (List.mem_append_left _ hread) hmessage hrequest
  | follow hconfig hcause hannounced hevent ih =>
    exact .follow hconfig ih (serverTasks_sent hexec hannounced) hevent
  | react hconfig hreported hevent => exact .react hconfig (hreported.exec hexec) hevent
  | sunset hconfig hdevice hcolorTemp => exact .sunset hconfig hdevice hcolorTemp

end Exec

/-! ## Runs -/

section Runs

variable {st st' : System.State ServerState ServerTask}
  {as : List (System.Act Unit TaskStart TaskLabel)} {a : System.Act Unit TaskStart TaskLabel}
  {capacity : Nat}

/-- What a task has in hand was asked for, and so was what has been announced. -/
structure Asking (env : ServerEnv) (config : Config) (devices : Devices)
    (as : List (System.Act Unit TaskStart TaskLabel)) (st : System.State ServerState ServerTask) :
    Prop where
  inHand : ∀ task ∈ st.comps, ∀ request ∈ task.requests config.scenes,
    Asked env config devices as st request
  within : ∀ task automationConfig, .sunset task ∈ st.comps →
    config.automations.sunsetLightTemp = some automationConfig →
    task.automation.Within automationConfig
  announced : ∀ request ∈ dispatchRequests st.shared.app.hooks.sender.sent,
    Asked env config devices as st request

namespace Asking

/-- `main` starts its tasks with no request asked for. -/
theorem initial (env : ServerEnv) (config : Config) (devices : Devices) :
    Asking env config devices [] (serverInitial config devices) := by
  refine ⟨fun task htask request hmem => ?_, fun task automationConfig htask _ => ?_,
    fun _ hmem => absurd hmem List.not_mem_nil⟩
  · have hnone : task.requests config.scenes = [] := by
      cases mainTasks_cases htask <;> rfl
    rw [hnone] at hmem
    cases hmem
  · cases mainTasks_cases htask
    trivial

/-- What a hook asks of the dependency automation was asked for, or reported. -/
theorem of_event (h : Asking env config devices as st)
    (hload : loadDevices capacity config.devices = some devices)
    (hrun : (serverTasks env config).run (serverInitial config devices) as = some st)
    {relationships : DependencyAutomationConfig}
    (hconfig : config.automations.dependencies = some relationships) {hook : Hook}
    (hsent : hook ∈ st.shared.app.hooks.sender.sent) {request : UpdateRequest} {context : String}
    (hevent : Dependencies.onEvent relationships hook = some (request, context)) :
    Asked env config devices as st request := by
  -- The hook has a cause: a request or a report
  cases hook with
  | deviceUpdateDispatch cause =>
    have hcause : cause ∈ dispatchRequests st.shared.app.hooks.sender.sent :=
      List.mem_filterMap.mpr ⟨_, hsent, rfl⟩
    exact .follow hconfig (h.announced cause hcause) hsent hevent
  | deviceStateUpdate update =>
    have hupdate : update ∈ stateUpdates st.shared.app.hooks.sender.sent :=
      List.mem_filterMap.mpr ⟨_, hsent, rfl⟩
    exact .react hconfig ((reports_of_run hload hrun).2.1 update hupdate) hevent
  | sceneActivate sceneId => cases hevent

/-- What a part of a task takes on was asked for. -/
theorem step_asks (h : Asking env config devices as st)
    (hload : loadDevices capacity config.devices = some devices)
    (hrun : (serverTasks env config).run (serverInitial config devices) as = some st)
    {i : Nat} {task task' : ServerTask} {l : TaskLabel} (hi : st.comps[i]? = some task)
    (hexec : (serverTasks env config).exec st (.step i l) = some st')
    (hstep : task.Step env config st.shared l st'.shared task') :
    (∀ request ∈ task'.requests config.scenes,
        Asked env config devices (as ++ [.step i l]) st' request) ∧
      ∀ sunset automationConfig, task' = .sunset sunset →
        config.automations.sunsetLightTemp = some automationConfig →
        sunset.automation.Within automationConfig := by
  have hmem := List.mem_of_getElem? hi
  -- What the task asks for already it was asked for
  have hkept {request : UpdateRequest} (hr : request ∈ task.requests config.scenes) :
      Asked env config devices (as ++ [.step i l]) st' request :=
    (h.inHand task hmem request hr).exec hexec
  have hread : .step i l ∈ as ++ [System.Act.step i l] := by simp
  generalize hserver : st'.shared = server' at hstep
  cases hstep with
  | client hcall hsession =>
    refine ⟨fun request hrequest => ?_, fun _ _ he => by cases he⟩
    -- A new line comes from a frame that was read
    rcases ClientSession.step_asks hsession hrequest with hr | ⟨transport, item, text, message, rfl,
      hitem, hmessage, hr⟩
    · exact hkept hr
    · exact .socket hread hitem hmessage hr
  | http hcall hhttp =>
    exact ⟨fun request hrequest => hkept ((HttpCall.step_requests hhttp).requests hrequest),
      fun _ _ he => by cases he⟩
  | dependencies hconfig hcall hdependencies =>
    refine ⟨fun request hrequest => ?_, fun _ _ he => by cases he⟩
    -- A new answer comes from a hook, and that has a cause
    rcases DependencyTask.step_asks hdependencies hrequest with hr | ⟨hook, hsent, context, hevent⟩
    · exact hkept hr
    · exact (h.of_event hload hrun hconfig hsent hevent).exec hexec
  | @sunset task l automationConfig called app' task' hconfig hcall hsunset =>
    obtain ⟨hwithin, hasks⟩ :=
      SunsetTask.step_asks (h.within task automationConfig hmem hconfig) hsunset
    refine ⟨fun request hrequest => ?_, fun sunset automationConfig' he hconfig' => ?_⟩
    · -- a new value comes from the configuration
      rcases hasks request hrequest with hr | ⟨update, hdevice, colorTemp, hcolorTemp, rfl⟩
      · exact hkept hr
      · exact .sunset hconfig hdevice hcolorTemp
    · cases he
      cases hconfig.symm.trans hconfig'
      exact hwithin
  | _ => exact ⟨fun _ hrequest => absurd hrequest List.not_mem_nil, fun _ _ he => by cases he⟩

/-- One action of the server has every request asked for. -/
theorem exec (h : Asking env config devices as st)
    (hload : loadDevices capacity config.devices = some devices)
    (hrun : (serverTasks env config).run (serverInitial config devices) as = some st)
    (hexec : (serverTasks env config).exec st a = some st') :
    Asking env config devices (as ++ [a]) st' := by
  cases a with
  | env e =>
    obtain ⟨henv, hcomps⟩ := System.exec_env hexec
    refine ⟨fun task htask request hmem => ?_, ?_, fun request hmem => ?_⟩
    · rw [hcomps] at htask
      exact (h.inHand task htask request hmem).exec hexec
    · rw [hcomps]
      exact h.within
    · rw [collectDeviceCerts_cases henv] at hmem
      exact (h.announced request hmem).exec hexec
  | spawn start =>
    obtain ⟨task₀, hspawn, hcomps⟩ := System.exec_spawn hexec
    have haccept := acceptTask_cases hspawn
    refine ⟨fun task htask request hmem => ?_, fun task automationConfig htask hconfig => ?_,
      fun request hmem => ?_⟩
    · rw [hcomps, List.mem_append, List.mem_singleton] at htask
      rcases htask with htask | rfl
      · exact (h.inHand task htask request hmem).exec hexec
      · generalize st'.shared = server' at haccept
        cases haccept with
        | http =>
          -- The one task that begins with something in hand, from the body of its request
          obtain ⟨message, hmessage, hrequest⟩ := HttpCall.requests_start hmem
          exact .http (by simp) hmessage hrequest
        | _ => cases hmem
    · rw [hcomps, List.mem_append, List.mem_singleton] at htask
      rcases htask with htask | rfl
      · exact h.within task automationConfig htask hconfig
      · generalize st'.shared = server' at haccept
        cases haccept
    · rw [haccept.app_eq] at hmem
      exact (h.announced request hmem).exec hexec
  | step i l =>
    obtain ⟨task₀, task₁, hi, hstep, hcomps⟩ := System.exec_step hexec
    have hstep := ServerTask.step_cases hstep
    obtain ⟨hasked, hwithin⟩ := h.step_asks hload hrun hi hexec hstep
    refine ⟨fun task htask request hmem => ?_, fun task automationConfig htask hconfig => ?_,
      fun request hmem => ?_⟩
    · rw [hcomps] at htask
      rcases List.mem_or_eq_of_mem_set htask with htask | rfl
      · exact (h.inHand task htask request hmem).exec hexec
      · exact hasked request hmem
    · rw [hcomps] at htask
      rcases List.mem_or_eq_of_mem_set htask with htask | he
      · exact h.within task automationConfig htask hconfig
      · exact hwithin task automationConfig he.symm hconfig
    · obtain ⟨act, hchange, -, hof⟩ := hstep.changes
      obtain ⟨hook, hhook, hrequest⟩ := List.mem_filterMap.mp hmem
      rw [hchange.sent, List.mem_append] at hhook
      rcases hhook with hhook | hhook
      · exact (h.announced request (List.mem_filterMap.mpr ⟨hook, hhook, hrequest⟩)).exec hexec
      · -- the hook is of a request that the task has in hand
        cases act with
        | none => cases hhook
        | some act =>
          have hact := hof act rfl
          cases hook with
          | deviceUpdateDispatch request' =>
            cases hrequest
            cases act with
            | sendHook hook' =>
              obtain rfl := List.mem_singleton.mp hhook
              exact (h.inHand task₀ (List.mem_of_getElem? hi) request hact).exec hexec
            | _ => cases hhook
          | _ => cases hrequest

/-- In every run every request is asked for. -/
theorem run (hload : loadDevices capacity config.devices = some devices)
    (hrun : (serverTasks env config).run (serverInitial config devices) as = some st) :
    Asking env config devices as st :=
  Lts.run_history _ (.initial env config devices)
    (fun hm h ha => Asking.exec h hload hm ha) hrun

/-- A command that was broadcast was announced, and so it was asked for. -/
theorem commands (h : Asking env config devices as st) (hk : devices.Keyed)
    (hrun : (serverTasks env config).run (serverInitial config devices) as = some st)
    (command : UpdateCommand)
    (hmem : .updateCommand command ∈
      st.shared.simple.requestSender.sent ++ st.shared.krypton.requestSender.sent) :
    Asked env config devices as st ⟨command.deviceId, command.update⟩ := by
  apply h.announced
  -- It was announced at least as often as it was broadcast
  have haccount := (Commanded.run hk hrun).account ⟨command.deviceId, command.update⟩
  have hpos := List.count_pos_iff.mpr hmem
  rw [List.count_append] at hpos
  have hcommand : UpdateRequest.command ⟨command.deviceId, command.update⟩ =
      .updateCommand command := rfl
  rw [hcommand] at haccount
  apply List.count_pos_iff.mp
  omega

end Asking

/-- In every run of the server, with all its tasks in any order: every update request that is
announced, and every command that the Simple or the Krypton controller broadcasts, was asked for by
a client, or by an automation that is configured. -/
theorem server_requests (env : ServerEnv) (config : Config) (capacity : Nat) (devices : Devices)
    (hload : loadDevices capacity config.devices = some devices)
    (as : List (System.Act Unit TaskStart TaskLabel)) (st : System.State ServerState ServerTask)
    (h : (serverTasks env config).run (serverInitial config devices) as = some st) :
    (∀ request ∈ dispatchRequests st.shared.app.hooks.sender.sent,
        Asked env config devices as st request) ∧
      ∀ command, .updateCommand command ∈
          st.shared.simple.requestSender.sent ++ st.shared.krypton.requestSender.sent →
        Asked env config devices as st ⟨command.deviceId, command.update⟩ := by
  have hasking := Asking.run hload h
  exact ⟨hasking.announced, hasking.commands (loadDevices_keyed hload) h⟩

end Runs

end Devicectrl

namespace Devicectrl

open ServerTask.Demo in
/-- The automation listens, a client turns the lamp on, and the fan that it depends on follows. -/
def ServerTask.Demo.followedOn : List (System.Act Unit TaskStart TaskLabel) :=
  .step 1 (.dependencies .poll) :: turnedOn ++
    [.step 1 (.dependencies .poll), .step 1 (.dependencies .poll),
      .step 1 (.dependencies (.dispatched (.ok ())))]

open ServerTask.Demo in
/-- The fan follows the lamp, and both are broadcast. -/
theorem server_requests_demo :
    ∃ st, (serverTasks env config).run (serverInitial config devices) followedOn = some st ∧
      st.shared.simple.requestSender.sent = [.updateCommand ⟨Simple.Demo.lamp, .power .on⟩,
        .updateCommand ⟨Simple.Demo.fan, .power .on⟩] ∧
      Asked env config devices followedOn st ⟨Simple.Demo.fan, .power .on⟩ :=
  ⟨_, rfl, rfl, (server_requests env config 64 devices rfl followedOn _ rfl).2
    ⟨Simple.Demo.fan, .power .on⟩
    (by exact List.mem_append_left _ (List.mem_cons_of_mem _ (List.mem_singleton_self _)))⟩

end Devicectrl
