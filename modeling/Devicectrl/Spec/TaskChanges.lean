import Devicectrl.Native.ServerTasks
import Devicectrl.Spec.ClientSessions
import Devicectrl.Spec.DependencyAutomation
import Devicectrl.Spec.KryptonConn
import Devicectrl.Spec.SimpleSession
import Devicectrl.Spec.UdpIngestion

/-!
# Changes of the shared state

A part of a task makes at most one change to the state that all tasks share: it stores a
notification, sends a hook, or comes by or gives up a receiver of hooks. The requests and the
notifications that it does this for are those it has in hand.

## Key results

- `RequestCall.step_requests`, `SceneCall.step_requests`, `Line.step_requests`,
  `HttpCall.step_requests`: what an update request or a scene sends
- `ClientSession.step_changes`, `DependencyTask.step_changes`, `SunsetTask.step_changes`: the
  change that one part makes
-/

namespace Devicectrl

variable {app app' : AppState}

/-! ## Changes of the shared state -/

/-- What a part of a task changes, as the task of `Task.run` that does the same. -/
inductive AppState.Change (app : AppState) : Option Task → AppState → Prop
  | stay : Change app none app
  | store {update app'} (h : storeNotification update app = .ok app') :
      Change app (some (.storeNotification update)) app'
  | send {hook} (h : 0 < app.hooks.sender.receivers) :
      Change app (some (.sendHook hook))
        { app with hooks := { app.hooks with
          sender := { app.hooks.sender with sent := app.hooks.sender.sent ++ [hook] } } }
  | subscribe : Change app (some .subscribe)
      { app with hooks := { app.hooks with sender := app.hooks.sender.resubscribe.1 } }
  | leave : Change app (some .unsubscribe)
      { app with hooks := { app.hooks with sender := app.hooks.sender.dropReceiver } }

namespace AppState.Change

variable {act : Option Task}

/-- As long as the receiver of `AppState.hooks` is left, the change is a step of `Task.run`. -/
theorem run (h : app.Change act app') (hr : 0 < app.hooks.sender.receivers)
    (hleave : act = some .unsubscribe → 1 < app.hooks.sender.receivers) :
    app' = app ∨ ∃ task : Task, task.run app = some app' := by
  cases h with
  | stay => exact .inl rfl
  | @store update app' h =>
    refine .inr ⟨.storeNotification update, ?_⟩
    simp only [Task.run, h]
  | @send hook h =>
    refine .inr ⟨.sendHook hook, ?_⟩
    simp only [Task.run, Broadcast.Channel.send_of_pos h]
  | subscribe => exact .inr ⟨.subscribe, if_pos hr⟩
  | leave => exact .inr ⟨.unsubscribe, if_pos (hleave rfl)⟩

theorem controllers (h : app.Change act app') : app'.controllers = app.controllers := by
  cases h with
  | store h => exact (storeNotification_sameConfig h).controllers
  | _ => rfl

/-- What was sent stays sent. -/
theorem sent (h : app.Change act app') :
    app'.hooks.sender.sent =
      app.hooks.sender.sent ++ ((act.map Task.hooks).getD []) := by
  cases h with
  | stay => exact (List.append_nil _).symm
  | store h =>
    rw [storeNotification_hooks h]
    exact (List.append_nil _).symm
  | send h => rfl
  | subscribe => exact (List.append_nil _).symm
  | leave => exact (List.append_nil _).symm

/-- Only a store touches the table. -/
theorem devices (h : app.Change act app') (hact : ∀ update, act ≠ some (.storeNotification update)) :
    app'.devices = app.devices := by
  cases h with
  | store h => exact absurd rfl (hact _)
  | _ => rfl

end AppState.Change

/-! ## What the calls of a task change -/

/-- A request that begins sends one hook. -/
theorem beginUpdateRequest_change {request : UpdateRequest} {device : Device}
    (h : beginUpdateRequest request app = .ok (device, app')) :
    app.Change (some (.sendHook (.deviceUpdateDispatch request))) app' := by
  rw [beginUpdateRequest] at h
  split at h
  · cases h
  · split at h
    · cases h
    · rename_i sender hs
      obtain ⟨rfl, hr⟩ := Broadcast.Channel.send_eq_some hs
      cases h
      exact .send hr

/-- A notification that was stored sends one hook. -/
theorem sendNotificationHook_change {update : UpdateNotification}
    (h : sendNotificationHook update app = .ok app') :
    app.Change (some (.sendHook (.deviceStateUpdate update))) app' := by
  rw [sendNotificationHook] at h
  split at h
  · cases h
  · rename_i sender hs
    obtain ⟨rfl, hr⟩ := Broadcast.Channel.send_eq_some hs
    cases h
    exact .send hr

/-! ## Requests in hand -/

/-- The requests that a call has yet to be done with. -/
def RequestCall.requests : RequestCall → List UpdateRequest
  | .begin request => [request]
  | .dispatching _ request => [request]
  | .returned _ => []

/-- The request that a call has handed to the controller of a device. -/
def RequestCall.handed : RequestCall → List (Device × UpdateRequest)
  | .dispatching device request => [(device, request)]
  | _ => []

namespace SceneCall

/-- The requests of a scene. -/
def requests (scenes : ScenesConfig) : SceneCall → List UpdateRequest
  | .begin sceneId => (scenes.lookup sceneId).getD []
  | .joining calls => calls.flatMap RequestCall.requests
  | .returned _ => []

/-- What the members of a scene have handed over. -/
def handed : SceneCall → List (Device × UpdateRequest)
  | .joining calls => calls.flatMap RequestCall.handed
  | _ => []

end SceneCall

namespace Line

/-- The requests of a line. -/
def requests (scenes : ScenesConfig) : Line → List UpdateRequest
  | .sending _ next => next.toList
  | .requesting call => call.requests
  | .activating call => call.requests scenes
  | _ => []

/-- What the call of a line has handed over. -/
def handed : Line → List (Device × UpdateRequest)
  | .requesting call => call.handed
  | .activating call => call.handed
  | _ => []

end Line

namespace HttpCall

/-- The requests of a call over HTTP. -/
def requests (scenes : ScenesConfig) : HttpCall → List UpdateRequest
  | .requesting call => call.requests
  | .activating call => call.requests scenes
  | _ => []

/-- What a call over HTTP has handed over. -/
def handed : HttpCall → List (Device × UpdateRequest)
  | .requesting call => call.handed
  | .activating call => call.handed
  | _ => []

end HttpCall

/-- The hook is that of one of the requests, or of a scene. -/
def Hook.Of (requests : List UpdateRequest) : Hook → Prop
  | .deviceUpdateDispatch request => request ∈ requests
  | .deviceStateUpdate _ => False
  | .sceneActivate _ => True

/-- A hook of some requests is one of more of them. -/
theorem Hook.Of.mono {requests requests' : List UpdateRequest} {hook : Hook}
    (h : hook.Of requests) (hsub : requests ⊆ requests') : hook.Of requests' := by
  cases hook with
  | deviceUpdateDispatch request => exact hsub h
  | deviceStateUpdate update => exact h
  | sceneActivate sceneId => trivial

/-- What a call in progress does in one part: it may send the hook of a request that it has, and
takes on no other. What it hands to a controller is such a request, with the device it is for. -/
structure Requests (app : AppState) (requests : List UpdateRequest)
    (handed : List (Device × UpdateRequest)) (app' : AppState)
    (requests' : List UpdateRequest) (handed' : List (Device × UpdateRequest)) : Prop where
  change : ∃ hook : Option Hook, app.Change (hook.map .sendHook) app' ∧ ∀ h ∈ hook, h.Of requests
  requests : requests' ⊆ requests
  handed : ∀ p ∈ handed', p ∈ handed ∨ app.devices.lookup p.2.deviceId = some p.1

namespace Requests

variable {requests requests' : List UpdateRequest} {handed : List (Device × UpdateRequest)}

/-- Nothing is sent, and nothing handed on. -/
theorem stay (h : requests' ⊆ requests) : Requests app requests handed app requests' [] :=
  ⟨⟨none, .stay, by simp⟩, h, fun _ hp => absurd hp List.not_mem_nil⟩

end Requests

/-- A step of the call of a request, by what it asks for and hands over. -/
theorem RequestCall.step_requests {call call' : RequestCall} {l : RequestLabel}
    (h : call.step app l = some (app', call')) :
    Requests app call.requests call.handed app' call'.requests call'.handed := by
  cases step_cases h with
  | refuse hb => exact .stay (List.nil_subset _)
  | @send request device app' hb =>
    refine ⟨⟨some (.deviceUpdateDispatch request), beginUpdateRequest_change hb, ?_⟩,
      List.Subset.refl _, ?_⟩
    · simp [RequestCall.requests, Hook.Of]
    · simp [RequestCall.handed, (beginUpdateRequest_ok hb).1]
  | dispatch => exact .stay (List.nil_subset _)

namespace SceneCall

variable {scenes : ScenesConfig} {call call' : SceneCall} {l : SceneLabel}

/-- `try_join_all` has in hand what its calls have, unless it returns. -/
theorem requests_join (scenes : ScenesConfig) (calls : List RequestCall) (stepped : RequestCall) :
    (join calls stepped).requests scenes ⊆ calls.flatMap RequestCall.requests ∧
      (join calls stepped).handed ⊆ calls.flatMap RequestCall.handed := by
  unfold join
  split
  · exact ⟨List.nil_subset _, List.nil_subset _⟩
  · split
    · exact ⟨List.nil_subset _, List.nil_subset _⟩
    · exact ⟨List.Subset.refl _, List.Subset.refl _⟩

/-- What is in a list with one call replaced was in it before, or is of the new call. -/
theorem mem_flatMap_set {α : Type} {f : RequestCall → List α} {calls : List RequestCall} {i : Nat}
    {stepped : RequestCall} {a : α} (h : a ∈ (calls.set i stepped).flatMap f) :
    a ∈ calls.flatMap f ∨ a ∈ f stepped := by
  obtain ⟨call, hmem, ha⟩ := List.mem_flatMap.mp h
  rcases List.mem_or_eq_of_mem_set hmem with hmem | rfl
  · exact .inl (List.mem_flatMap.mpr ⟨call, hmem, ha⟩)
  · exact .inr ha

/-- A step of the call of a scene, by what it asks for and hands over. -/
theorem step_requests (h : call.step scenes app l = some (app', call')) :
    Requests app (call.requests scenes) call.handed app' (call'.requests scenes)
      call'.handed := by
  unfold step at h
  split at h
  · rename_i sceneId
    split at h
    · cases h
      exact .stay (List.nil_subset _)
    · rename_i scene hscene
      split at h
      · cases h
        exact .stay (List.nil_subset _)
      · rename_i sender hs
        obtain ⟨rfl, hr⟩ := Broadcast.Channel.send_eq_some hs
        -- The hook of the scene is sent first; each request of it sends its own later
        have hsend : ∃ hook : Option Hook, app.Change (hook.map .sendHook)
            { app with hooks := { app.hooks with
              sender := { app.hooks.sender with
                sent := app.hooks.sender.sent ++ [.sceneActivate sceneId] } } } ∧
            ∀ h ∈ hook, h.Of ((begin sceneId).requests scenes) :=
          ⟨some (.sceneActivate sceneId), .send hr, by simp [Hook.Of]⟩
        split at h
        · cases h
          exact ⟨hsend, List.nil_subset _, fun _ hp => absurd hp List.not_mem_nil⟩
        · cases h
          refine ⟨hsend, ?_, ?_⟩
          · simp [requests, hscene, List.flatMap_map, RequestCall.requests]
          · simp [handed, List.flatMap_map, RequestCall.handed]
  · rename_i calls i l'
    split at h
    · cases h
    · rename_i call hi
      split at h
      · cases h
      · rename_i app₁ call₁ hstep
        cases h
        have hcall := RequestCall.step_requests hstep
        have hmem := List.mem_of_getElem? hi
        -- The call has in hand some of what all of them have
        have hsub : call.requests ⊆ (joining calls).requests scenes :=
          fun r hr => List.mem_flatMap.mpr ⟨call, hmem, hr⟩
        obtain ⟨hjoin, hjoin'⟩ := requests_join scenes (calls.set i call₁) call₁
        obtain ⟨hook, hchange, hof⟩ := hcall.change
        refine ⟨⟨hook, hchange, fun h hh => (hof h hh).mono hsub⟩, fun r hr => ?_, fun p hp => ?_⟩
        · rcases mem_flatMap_set (hjoin hr) with hr | hr
          · exact hr
          · exact hsub (hcall.requests hr)
        · rcases mem_flatMap_set (hjoin' hp) with hp | hp
          · exact .inl hp
          · rcases hcall.handed p hp with hp | hp
            · exact .inl (List.mem_flatMap.mpr ⟨call, hmem, hp⟩)
            · exact .inr hp
  · cases h

end SceneCall

namespace Line

variable {env : SocketEnv} {scenes : ScenesConfig} {line line' : Line} {l : LineLabel}

/-- The answer to a request asks for what its call did. -/
theorem requests_afterRequest (scenes : ScenesConfig) (call : RequestCall) :
    (afterRequest call).requests scenes = call.requests ∧
      (afterRequest call).handed = call.handed := by
  cases call <;> exact ⟨rfl, rfl⟩

/-- The answer to a scene asks for what its call did. -/
theorem requests_afterScene (scenes : ScenesConfig) (call : SceneCall) :
    (afterScene call).requests scenes = call.requests scenes ∧
      (afterScene call).handed = call.handed := by
  cases call with
  | begin sceneId => exact ⟨rfl, rfl⟩
  | joining calls => exact ⟨rfl, rfl⟩
  | returned result => rcases result with e | ⟨⟩ <;> exact ⟨rfl, rfl⟩

/-- A step of a line, by what it asks for and hands over. -/
theorem step_requests (h : line.step env scenes app l = some (app', line')) :
    Requests app (line.requests scenes) line.handed app' (line'.requests scenes)
      line'.handed := by
  cases step_cases h with
  | @request call l app' call' hp =>
    rw [(requests_afterRequest scenes call').1, (requests_afterRequest scenes call').2]
    exact RequestCall.step_requests hp
  | @scene call l app' call' hp =>
    rw [(requests_afterScene scenes call').1, (requests_afterScene scenes call').2]
    exact SceneCall.step_requests hp
  -- What was read is requested once it has been acknowledged
  | acknowledged => exact .stay (List.Subset.refl _)
  | _ => exact .stay (List.nil_subset _)

end Line

namespace HttpCall

variable {scenes : ScenesConfig} {call call' : HttpCall} {l : HttpLabel}

/-- The answer to a request asks for what its call did. -/
theorem requests_afterRequest (scenes : ScenesConfig) (call : RequestCall) :
    (afterRequest call).requests scenes = call.requests ∧
      (afterRequest call).handed = call.handed := by
  cases call with
  | begin request => exact ⟨rfl, rfl⟩
  | dispatching device request => exact ⟨rfl, rfl⟩
  | returned result => rcases result with e | ⟨⟩ <;> exact ⟨rfl, rfl⟩

/-- The answer to a scene asks for what its call did. -/
theorem requests_afterScene (scenes : ScenesConfig) (call : SceneCall) :
    (afterScene call).requests scenes = call.requests scenes ∧
      (afterScene call).handed = call.handed := by
  cases call with
  | begin sceneId => exact ⟨rfl, rfl⟩
  | joining calls => exact ⟨rfl, rfl⟩
  | returned result => rcases result with e | ⟨⟩ <;> exact ⟨rfl, rfl⟩

/-- A step of a call over HTTP, by what it asks for and hands over. -/
theorem step_requests (h : call.step scenes app l = some (app', call')) :
    Requests app (call.requests scenes) call.handed app' (call'.requests scenes)
      call'.handed := by
  cases step_cases h with
  | @request call l app' call' hp =>
    rw [(requests_afterRequest scenes call').1, (requests_afterRequest scenes call').2]
    exact RequestCall.step_requests hp
  | @scene call l app' call' hp =>
    rw [(requests_afterScene scenes call').1, (requests_afterScene scenes call').2]
    exact SceneCall.step_requests hp
  | _ => exact .stay (List.nil_subset _)

end HttpCall

/-! ## Notifications in hand -/

/-- The update of a notification, whatever is left to do for it. -/
def NotificationCall.update : NotificationCall → UpdateNotification
  | .store update => update
  | .sendHook update => update

/-- The task stores one of the notifications or sends its hook, sends the hook of one of the
requests or of a scene, or comes by or gives up a receiver. -/
def Task.Of (requests : List UpdateRequest) (notifications : List UpdateNotification) :
    Task → Prop
  | .storeNotification update => update ∈ notifications
  | .sendHook (.deviceStateUpdate update) => update ∈ notifications
  | .sendHook hook => hook.Of requests
  | _ => True

/-- At most one of the notifications is stored, or its hook sent. -/
def Notifies (app : AppState) (notifications : List UpdateNotification) (app' : AppState) : Prop :=
  ∃ act, app.Change act app' ∧ act ≠ some .subscribe ∧ act ≠ some .unsubscribe ∧
    ∀ task ∈ act, task.Of [] notifications

theorem Notifies.stay {notifications : List UpdateNotification} :
    Notifies app notifications app :=
  ⟨none, .stay, by simp, by simp, by simp⟩

/-- A call does it with the notification that it was made for. -/
theorem NotificationCall.Step.notifies {call : NotificationCall}
    {r : NotificationCall ⊕ Except Error Unit} (h : call.Step app app' r) :
    Notifies app [call.update] app' := by
  cases h with
  | @store update app' h =>
    refine ⟨_, .store h, by simp, by simp, ?_⟩
    simp [Task.Of, NotificationCall.update]
  | failStore h => exact .stay
  | @sendHook update app' h =>
    refine ⟨_, sendNotificationHook_change h, by simp, by simp, ?_⟩
    simp [Task.Of, NotificationCall.update]
  | failHook h => exact .stay

/-- It goes on with the same notification. -/
theorem NotificationCall.Step.update_eq {call call' : NotificationCall}
    (h : call.Step app app' (.inl call')) : call'.update = call.update := by
  cases h
  rfl

namespace Simple

variable {env : Env} {key : SigningKey}

/-- The notification of a call of `process_update_notification` in progress. -/
def Conn.notifications (c : Conn) : List UpdateNotification :=
  match c.stage with
  | .running s =>
    match s.handler with
    | .processing call => [call.update]
    | _ => []
  | _ => []

/-- What a session changes, a call of `process_update_notification` does. -/
theorem Session.Step.change {socket socket' : Socket} {s s' : Session} {l : Session.Label}
    (h : Session.Step env key app socket s l app' socket' s') :
    app' = app ∨ ∃ call r, s.handler = .processing call ∧ call.Step app app' r := by
  cases h with
  | store hh hn => exact .inr ⟨_, _, hh, .store hn⟩
  | sendHook hh hn => exact .inr ⟨_, _, hh, .sendHook hn⟩
  | _ => exact .inl rfl

/-- A step of a Simple connection stores or sends the notification it is processing. -/
theorem Conn.step_notifies {c c' : Conn} {l : Conn.Label}
    (h : c.step env key app l = some (app', c')) : Notifies app c.notifications app' := by
  cases Conn.step_cases h with
  | session hsession =>
    rcases (Session.step_cases hsession).change with rfl | ⟨call, r, hh, hcall⟩
    · exact .stay
    · simp only [notifications, hh]
      exact hcall.notifies
  | _ => exact .stay

end Simple

namespace Krypton

variable {env : Env} {globalConfig : KryptonControllerGlobalConfig}
  {deviceCerts : AList fun _ : DeviceId => List UInt8}

/-- The notification of a call of `process_update_notification` in progress. -/
def Conn.notifications (c : Conn) : List UpdateNotification :=
  match c.stage with
  | .running _ (.processing call) _ => [call.update]
  | _ => []

/-- A step of a Krypton connection stores or sends the notification it is processing. -/
theorem Conn.step_notifies {c c' : Conn} {l : Conn.Label}
    (h : c.step env globalConfig deviceCerts app l = some (app', c')) :
    Notifies app c.notifications app' := by
  cases Conn.step_cases h with
  | @process socket d call sent =>
    cases hp : processUpdateNotification app call with
    | mk app₁ r =>
      have happ : (Conn.process env app d sent call).1 = app₁ := by
        simp only [Conn.process, hp]
        rcases r with call' | (e | ⟨⟩) <;> rfl
      rw [happ]
      exact (processUpdateNotification_cases hp).notifies
  | _ => exact .stay

end Krypton

namespace StartListening

variable {env : IncomingEnv} {controller : UdpController} {listener listener' : StartListening}
  {l : ListenLabel}

/-- The notification of a call of `process_update_notification` in progress. -/
def notifications : StartListening → List UpdateNotification
  | .processing call => [call.update]
  | _ => []

/-- A turn of a listener stores or sends the notification it is processing. -/
theorem step_notifies (h : listener.step env controller app l = some (app', listener')) :
    Notifies app listener.notifications app' := by
  cases step_cases h with
  | goOn hcall => exact hcall.notifies
  | done hcall => exact hcall.notifies
  | _ => exact .stay

end StartListening

/-! ## What a part of a task changes -/

/-- The receivers of hooks that a change adds, and takes away. -/
def Task.joins : Option Task → Nat
  | some .subscribe => 1
  | _ => 0

/-- The receivers of hooks that a change takes away. -/
def Task.leaves : Option Task → Nat
  | some .unsubscribe => 1
  | _ => 0

/-- No change does both. -/
theorem Task.leaves_or_joins (act : Option Task) : Task.leaves act = 0 ∨ Task.joins act = 0 := by
  rcases act with _ | t
  · exact .inl rfl
  · cases t with
    | unsubscribe => exact .inr rfl
    | _ => exact .inl rfl

/-- A change that is not about receivers leaves their number. -/
theorem Task.joins_of {act : Option Task} (hjoin : act ≠ some .subscribe)
    (hleave : act ≠ some .unsubscribe) : Task.joins act = 0 ∧ Task.leaves act = 0 := by
  constructor
  · unfold joins
    split
    · exact absurd rfl hjoin
    · rfl
  · unfold leaves
    split
    · exact absurd rfl hleave
    · rfl

/-- A task's own part makes one change: its receivers of hooks account for those it joins and
leaves, and what it stores or sends it had in hand. -/
def Changes (app : AppState) (subscriptions : Nat) (requests : List UpdateRequest)
    (notifications : List UpdateNotification) (app' : AppState) (subscriptions' : Nat) : Prop :=
  ∃ act, app.Change act app' ∧
    subscriptions' + Task.leaves act = subscriptions + Task.joins act ∧
    ∀ task ∈ act, task.Of requests notifications

namespace Changes

variable {n : Nat} {requests : List UpdateRequest} {notifications : List UpdateNotification}

theorem stay : Changes app n requests notifications app n :=
  ⟨none, .stay, rfl, by simp⟩

/-- A hook of a request leaves the receivers alone. -/
theorem hook {hook : Option Hook} (h : app.Change (hook.map .sendHook) app')
    (hof : ∀ h ∈ hook, h.Of requests) : Changes app n requests notifications app' n := by
  refine ⟨_, h, ?_, ?_⟩
  · cases hook <;> rfl
  · intro task htask
    obtain ⟨hook₁, hhook, rfl⟩ := Option.map_eq_some_iff.mp htask
    have hof₁ := hof hook₁ hhook
    cases hook₁ with
    | deviceStateUpdate update => exact hof₁.elim
    | _ => exact hof₁

/-- A call of `process_update_notification` leaves the receivers alone. -/
theorem notification (h : Notifies app notifications app') :
    Changes app n [] notifications app' n := by
  obtain ⟨act, h, hjoin, hleave, hof⟩ := h
  obtain ⟨hj, hl⟩ := Task.joins_of hjoin hleave
  exact ⟨act, h, by rw [hj, hl], hof⟩

/-- The receiver of a hook loop goes with its task. -/
theorem leave : Changes app 1 requests notifications
    { app with hooks := { app.hooks with sender := app.hooks.sender.dropReceiver } } 0 :=
  ⟨_, .leave, rfl, by simp [Task.Of]⟩

/-- A task that subscribes has one receiver more. -/
theorem subscribe : Changes app 0 requests notifications
    { app with hooks := { app.hooks with sender := app.hooks.sender.resubscribe.1 } } 1 :=
  ⟨_, .subscribe, rfl, by simp [Task.Of]⟩

end Changes

/-- A call in hand leaves the receivers alone. -/
theorem Requests.changes {requests requests' : List UpdateRequest}
    {handed handed' : List (Device × UpdateRequest)} (n : Nat)
    (h : Requests app requests handed app' requests' handed') :
    Changes app n requests [] app' n := by
  obtain ⟨hook, hchange, hof⟩ := h.change
  exact .hook hchange hof

namespace ClientSession

/-- The requests of a session. -/
def requests (scenes : ScenesConfig) (s : ClientSession) : List UpdateRequest :=
  match s.stage with
  | .handling line _ => line.requests scenes
  | _ => []

/-- What a session has handed over. -/
def handed (s : ClientSession) : List (Device × UpdateRequest) :=
  match s.stage with
  | .handling line _ => line.handed
  | _ => []

/-- The receivers of hooks that the session has. -/
def subscriptions (s : ClientSession) : Nat :=
  s.stage.receiver?.toList.length

variable {env : SocketEnv} {scenes : ScenesConfig} {s s' : ClientSession} {l : SessionLabel}

/-- A step of a session, by its receiver and its requests. -/
theorem step_changes (h : s.step env scenes app l = some (app', s')) :
    Changes app s.subscriptions (s.requests scenes) [] app' s'.subscriptions := by
  -- A session beyond its acceptance has its one receiver
  have hlistening (rx : Broadcast.Receiver) (hs : s.stage.receiver? = some rx) :
      s.subscriptions = 1 := by rw [subscriptions, hs]; rfl
  -- It subscribes when it is accepted and leaves when it returns
  cases step_cases h with
  | refuse hs =>
    rw [subscriptions, hs]
    exact .stay
  | subscribe hs =>
    rw [subscriptions, hs]
    exact .subscribe
  | finish hs =>
    rw [hlistening _ (by rw [hs]; rfl)]
    exact .leave
  | pong hs =>
    rw [hlistening _ (by rw [hs]; rfl)]
    exact .stay
  | @line rx transport item text hs hitem =>
    rw [hlistening _ (by rw [hs]; rfl)]
    simp only [subscriptions, afterLine_receiver?]
    exact .stay
  | ignore hs =>
    rw [hlistening _ (by rw [hs]; rfl)]
    exact .stay
  | lag hs hr =>
    rw [hlistening _ (by rw [hs]; rfl)]
    exact .leave
  | notify hs hr =>
    rw [hlistening _ (by rw [hs]; rfl)]
    exact .stay
  | skip hs hr hk =>
    rw [hlistening _ (by rw [hs]; rfl)]
    exact .stay
  -- Only a line that is handled can request or dispatch
  | @handle line rx l app' line' hs hl =>
    rw [hlistening _ (by rw [hs]; rfl)]
    simp only [subscriptions, afterLine_receiver?, requests, hs]
    exact (Line.step_requests hl).changes 1
  | fail hs =>
    rw [hlistening _ (by rw [hs]; rfl)]
    exact .leave
  | sent hs =>
    rw [hlistening _ (by rw [hs]; rfl)]
    exact .stay

end ClientSession

namespace DependencyTask

/-- The requests that the automation is asking for. -/
def asking (task : DependencyTask) : List UpdateRequest :=
  match task.automation with
  | .requesting _ request _ => [request]
  | .dispatching .. => task.requests.getLast?.toList
  | _ => []

/-- What the automation has handed over. -/
def handed (task : DependencyTask) : List (Device × UpdateRequest) :=
  match task.automation with
  | .dispatching _ device _ => task.requests.getLast?.toList.map fun request => (device, request)
  | _ => []

/-- The receivers of hooks that the automation has. -/
def subscriptions (task : DependencyTask) : Nat :=
  task.automation.receiver?.toList.length

variable {config : DependencyAutomationConfig} {task task' : DependencyTask}
  {l : Dependencies.Label}

/-- A step of the automation, by its receiver and its requests. -/
theorem step_changes (h : task.step config app l = some (app', task')) :
    Changes app task.subscriptions task.asking [] app' task'.subscriptions := by
  obtain ⟨p, hp, he⟩ := Option.map_eq_some_iff.mp h
  cases he
  obtain ⟨automation, requests⟩ := task
  obtain ⟨app', automation'⟩ := p
  -- It subscribes at its start and leaves when it fails
  cases Dependencies.startAutomation_cases hp with
  | subscribe => exact .subscribe
  | lag hr => exact .leave
  | ignore hr ho => exact .stay
  | answer hr ho => exact .stay
  | refuse hb => exact .leave
  -- A request of its own is the one hook that it sends
  | @request rx request context device app' hb =>
    refine ⟨_, beginUpdateRequest_change hb, rfl, ?_⟩
    simp [Task.Of, Hook.Of, asking]
  | fail hd => exact .leave
  | succeed hd => exact .stay

end DependencyTask

namespace SunsetTask

/-- The requests that the ramps are asking for. -/
def requests (task : SunsetTask) : List UpdateRequest :=
  task.calls.flatMap fun call => call.2.requests

/-- What the calls of the ramps have handed over. -/
def handed (task : SunsetTask) : List (Device × UpdateRequest) :=
  task.calls.flatMap fun call => call.2.handed

variable {almanac : Almanac} {config : SunsetLightTempAutomationConfig} {task task' : SunsetTask}
  {l : SunsetTaskLabel}

/-- A step of the automation is that of a ramp or of the clock, or of the call that a ramp
awaits. -/
inductive Step (almanac : Almanac) (config : SunsetLightTempAutomationConfig) (app : AppState)
    (task : SunsetTask) : SunsetTaskLabel → AppState → SunsetTask → Prop
  | own {l p} (hl : ∀ i result, l ≠ .ramp i (.dispatched result))
      (h : task.automation.step almanac config l = some p) :
      Step almanac config app task (.own l) app (after task.calls p)
  | goOn {j l i call app' call'} (hj : task.calls[j]? = some (i, call))
      (h : call.step app l = some (app', call')) (hgo : call'.result? = none) :
      Step almanac config app task (.request j l) app'
        { task with calls := task.calls.set j (i, call') }
  | stop {j l i call app' result p} (hj : task.calls[j]? = some (i, call))
      (h : call.step app l = some (app', .returned result))
      (hp : task.automation.step almanac config (.ramp i (.dispatched result)) = some p) :
      Step almanac config app task (.request j l) app' (after (task.calls.eraseIdx j) p)

theorem step_cases (h : task.step almanac config app l = some (app', task')) :
    Step almanac config app task l app' task' := by
  -- A label of its own, or one of the dispatch that a ramp waits for
  unfold step at h
  split at h
  · cases h
  · rename_i l hl
    obtain ⟨p, hp, he⟩ := Option.map_eq_some_iff.mp h
    cases he
    refine .own (fun i result he => ?_) hp
    exact hl i result (by rw [he])
  · -- the dispatch goes on, or has returned and the ramp hears of it
    split at h
    · cases h
    · rename_i j l' call i request hj
      split at h
      · cases h
      · rename_i app₁ result hstep
        obtain ⟨p, hp, he⟩ := Option.map_eq_some_iff.mp h
        cases he
        exact .stop hj hstep hp
      · rename_i app₁ request' hne hstep
        cases h
        refine .goOn hj hstep ?_
        cases request' with
        | returned result => exact (hne result rfl).elim
        | _ => rfl

/-- The calls change nothing of the automation. -/
theorem automation_after (calls : List (Nat × RequestCall))
    (p : SunsetLightTemp × List SunsetEvent) : (after calls p).automation = p.1 := by
  unfold after
  split
  · rfl
  · rfl

/-- The request of a call is one of the task. -/
theorem mem_requests {j i : Nat} {call : RequestCall} (hj : task.calls[j]? = some (i, call))
    {request : UpdateRequest} (h : request ∈ call.requests) : request ∈ task.requests :=
  List.mem_flatMap.mpr ⟨(i, call), List.mem_of_getElem? hj, h⟩

/-- A step of the automation, by its requests. -/
theorem step_changes (h : task.step almanac config app l = some (app', task')) :
    Changes app 0 task.requests [] app' 0 := by
  have hcall {j i : Nat} {call call' : RequestCall} {l : RequestLabel}
      (hj : task.calls[j]? = some (i, call)) (h : call.step app l = some (app', call')) :
      Changes app 0 task.requests [] app' 0 := by
    obtain ⟨hook, hchange, hof⟩ := (RequestCall.step_requests h).change
    exact .hook hchange fun h hh => (hof h hh).mono fun request hr => mem_requests hj hr
  cases step_cases h with
  | own hl hp => exact .stay
  | goOn hj hstep hgo => exact hcall hj hstep
  | stop hj hstep hp => exact hcall hj hstep

end SunsetTask

end Devicectrl
