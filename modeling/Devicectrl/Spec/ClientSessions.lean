import Devicectrl.Native.Http
import Devicectrl.Spec.RequestCalls

/-!
# What a client session does

The inversion lemmas of `handle_line`, of the two session loops and of `handle_request`, and what
the steps of a session do to the server: hooks are sent, and receivers come and go.

## Key results

- `Line.step_cases`, `ClientSession.step_cases`, `HttpCall.step_cases`: what a step can do
- `Line.step_sends`: the hooks sent by a part of `handle_line`, none of them a state update
- `ClientSession.Step.frame`: a session changes nothing but the hook channel
-/

namespace Devicectrl

variable {env : SocketEnv} {scenes : ScenesConfig} {app app' : AppState}

/-! ## Lines -/

/-- The notification of a state update, the one kind of hook that clients are told of. -/
def Hook.stateUpdate? : Hook → Option UpdateNotification
  | .deviceStateUpdate notification => some notification
  | _ => none

namespace Line

/-- A step of `handle_line`. -/
inductive Step (env : SocketEnv) (scenes : ScenesConfig) (app : AppState) :
    Line → LineLabel → AppState → Line → Prop
  | unsent {message next e} :
      Step env scenes app (.sending message next) (.sent (.error e)) app (.returned (.error e))
  | acknowledged {message request} :
      Step env scenes app (.sending message (some request)) (.sent (.ok ())) app
        (.requesting (.begin request))
  | answered {message} :
      Step env scenes app (.sending message none) (.sent (.ok ())) app (.returned (.ok ()))
  | request {call l app' call'} (h : call.step app l = some (app', call')) :
      Step env scenes app (.requesting call) (.request l) app' (afterRequest call')
  | scene {call l app' call'} (h : call.step scenes app l = some (app', call')) :
      Step env scenes app (.activating call) (.scene l) app' (afterScene call')
  | unknown {deviceId} (h : app.devices.lookup deviceId = none) :
      Step env scenes app (.querying deviceId) .poll app
        (.returned (.error ["failed to find device"]))
  | found {deviceId device} (h : app.devices.lookup deviceId = some device) :
      Step env scenes app (.querying deviceId) .poll app (.dispatching device)
  | dispatch {device outcome} :
      Step env scenes app (.dispatching device) (.dispatched outcome) app
        (.returned (Controllers.dispatchQueryState app device outcome))
  | catalog :
      Step env scenes app .cataloguing .poll app (.sending (catalog env.sort scenes app) none)

variable {line line' : Line} {l : LineLabel}

theorem step_cases (h : line.step env scenes app l = some (app', line')) :
    Step env scenes app line l app' line' := by
  unfold step at h
  -- By where the line is, in the order of the arms
  split at h
  · split at h
    · cases h
      exact .unsent
    · cases h
      exact .acknowledged
    · cases h
      exact .answered
  · obtain ⟨p, hp, he⟩ := Option.map_eq_some_iff.mp h
    cases he
    exact .request hp
  · obtain ⟨p, hp, he⟩ := Option.map_eq_some_iff.mp h
    cases he
    exact .scene hp
  · split at h
    · rename_i hnone
      cases h
      exact .unknown hnone
    · rename_i device hdevice
      cases h
      exact .found hdevice
  · -- the outcome is what the controllers make of it
    cases h
    exact .dispatch
  · cases h
    exact .catalog
  · cases h

/-- The hooks that a line has yet to send, unless it fails first. -/
def hooksLeft (scenes : ScenesConfig) : Line → Nat
  | .sending _ (some _) => 1
  | .requesting call => call.hooksLeft
  | .activating call => call.hooksLeft scenes
  | _ => 0

/-- A request that goes on has the hooks of its call left. -/
theorem hooksLeft_afterRequest (call : RequestCall) :
    (afterRequest call).hooksLeft scenes = call.hooksLeft := by
  cases call <;> rfl

/-- A scene that goes on has the hooks of its calls left. -/
theorem hooksLeft_afterScene (call : SceneCall) :
    (afterScene call).hooksLeft scenes = call.hooksLeft scenes := by
  cases call with
  | begin sceneId => rfl
  | joining calls => rfl
  | returned result => rcases result with e | ⟨⟩ <;> rfl

/-- A step sends what its line has no longer to send. Only a line that fails keeps hooks back. -/
theorem step_sends (h : line.step env scenes app l = some (app', line')) :
    ∃ hooks, app.Sends app' hooks ∧ (∀ hook ∈ hooks, hook.stateUpdate? = none) ∧
      hooks.length + line'.hooksLeft scenes ≤ line.hooksLeft scenes ∧
      (hooks.length + line'.hooksLeft scenes = line.hooksLeft scenes ∨
        ∃ e, line' = .returned (.error e)) := by
  have hnone : ∀ hook ∈ ([] : List Hook), hook.stateUpdate? = none :=
    fun _ hmem => absurd hmem List.not_mem_nil
  cases step_cases h with
  | @request call l app' call' hp =>
    obtain ⟨hooks, hsends, hkind, hle, heq⟩ := (RequestCall.step_cases hp).sends
    refine ⟨hooks, hsends, fun hook hmem => ?_, ?_, ?_⟩
    · obtain ⟨r, rfl⟩ := hkind hook hmem
      rfl
    · rw [hooksLeft_afterRequest]
      exact hle
    · rw [hooksLeft_afterRequest]
      rcases heq with heq | ⟨e, he⟩
      · exact .inl heq
      · exact .inr ⟨e, by rw [he]; rfl⟩
  | @scene call l app' call' hp =>
    obtain ⟨hooks, hsends, hkind, hle, heq⟩ := (SceneCall.step_cases hp).sends
    refine ⟨hooks, hsends, fun hook hmem => ?_, ?_, ?_⟩
    · cases hook with
      | deviceStateUpdate n => exact absurd rfl (hkind _ hmem n)
      | deviceUpdateDispatch r => rfl
      | sceneActivate sceneId => rfl
    · rw [hooksLeft_afterScene]
      exact hle
    · rw [hooksLeft_afterScene]
      rcases heq with heq | ⟨e, he⟩
      · exact .inl heq
      · exact .inr ⟨e, by rw [he]; rfl⟩
  -- An update that is not acknowledged is not requested either
  | unsent => exact ⟨[], .refl app, hnone, Nat.zero_le _, .inr ⟨_, rfl⟩⟩
  | unknown hlookup => exact ⟨[], .refl app, hnone, Nat.zero_le _, .inr ⟨_, rfl⟩⟩
  | _ => exact ⟨[], .refl app, hnone, Nat.le_refl _, .inl rfl⟩

end Line

/-! ## Sessions -/

/-- The receiver of a session, while it has one. -/
def SessionStage.receiver? : SessionStage → Option Broadcast.Receiver
  | .selecting notifications => some notifications
  | .handling _ notifications => some notifications
  | .sending _ notifications => some notifications
  | _ => none

namespace ClientSession

variable {s s' : ClientSession} {l : SessionLabel}

/-- A step of a session. -/
inductive Step (env : SocketEnv) (scenes : ScenesConfig) (app : AppState) (s : ClientSession) :
    SessionLabel → AppState → ClientSession → Prop
  | refuse {e} (h : s.stage = .accepting) :
      Step env scenes app s (.accept (.error e)) app { s with stage := .returned (.error e) }
  | subscribe (h : s.stage = .accepting) :
      Step env scenes app s (.accept (.ok ()))
        { app with hooks := { app.hooks with sender := app.hooks.sender.resubscribe.1 } }
        { s with
          stage := .selecting ⟨app.hooks.sender.sent.length⟩
          since := app.hooks.sender.sent.length }
  | finish {rx transport item result} (h : s.stage = .selecting rx) :
      Step env scenes app s (.tryNext transport item) (s.leave app result).1
        (s.leave app result).2
  | pong {rx transport item} (h : s.stage = .selecting rx) :
      Step env scenes app s (.tryNext transport item) app { s with stage := .sending .pong rx }
  | line {rx transport item text} (h : s.stage = .selecting rx)
      (hitem : item.map transport.turn = .ok (.line text)) :
      Step env scenes app s (.tryNext transport item) app
        { s with stage := afterLine s.transport rx (.start env text) }
  | ignore {rx transport item} (h : s.stage = .selecting rx) :
      Step env scenes app s (.tryNext transport item) app { s with stage := .selecting rx }
  | lag {rx rx' e} (h : s.stage = .selecting rx)
      (hr : app.hooks.sender.recv rx = some (.error e, rx')) :
      Step env scenes app s .recv (s.leave app (.error [e.message])).1
        (s.leave app (.error [e.message])).2
  | notify {rx rx' n} (h : s.stage = .selecting rx)
      (hr : app.hooks.sender.recv rx = some (.ok (.deviceStateUpdate n), rx')) :
      Step env scenes app s .recv app
        { s with stage := .sending (.message (.updateNotification n)) rx' }
  | skip {rx rx' hook} (h : s.stage = .selecting rx)
      (hr : app.hooks.sender.recv rx = some (.ok hook, rx')) (hk : hook.stateUpdate? = none) :
      Step env scenes app s .recv app { s with stage := .selecting rx' }
  | handle {line rx l app' line'} (h : s.stage = .handling line rx)
      (hl : line.step env scenes app l = some (app', line')) :
      Step env scenes app s (.line l) app'
        { s with
          stage := afterLine s.transport rx line'
          written := s.written ++ ((line.writes l).map Outgoing.message).toList }
  | fail {m rx e} (h : s.stage = .sending m rx) :
      Step env scenes app s (.sent (.error e)) (s.leave app (.error e)).1
        (s.leave app (.error e)).2
  | sent {m rx} (h : s.stage = .sending m rx) :
      Step env scenes app s (.sent (.ok ())) app
        { s with stage := .selecting rx, written := s.written ++ [m] }

theorem step_cases (h : s.step env scenes app l = some (app', s')) :
    Step env scenes app s l app' s' := by
  cases l with
  | accept result =>
    simp only [step] at h
    -- `accept().await?`, and then the receiver is made
    split at h
    · rename_i hs
      cases h
      exact .refuse hs
    · rename_i hs
      cases h
      exact .subscribe hs
    · exact nomatch h
  | tryNext transport item =>
    simp only [step] at h
    split at h
    · rename_i rx hs
      split at h
      · -- a frame is of the transport of the session, or it is not one
        cases hitem : item.map transport.turn with
        | error e =>
          rw [hitem] at h
          cases h
          exact .finish hs
        | ok turn =>
          rw [hitem] at h
          cases turn with
          | finish => cases h; exact .finish hs
          | line text => cases h; exact .line hs hitem
          | pong => cases h; exact .pong hs
          | ignore => cases h; exact .ignore hs
      · exact nomatch h
    · exact nomatch h
  | recv =>
    simp only [step] at h
    split at h
    · rename_i rx hs
      obtain ⟨⟨result, rx'⟩, hr, h⟩ := Option.map_eq_some_iff.mp h
      -- A lagged or closed channel ends the session
      cases result with
      | error e => cases h; exact .lag hs hr
      | ok hook =>
        cases hook with
        -- Of the hooks only `DeviceStateUpdate` is told to clients
        | deviceStateUpdate n => cases h; exact .notify hs hr
        | deviceUpdateDispatch r => cases h; exact .skip hs hr rfl
        | sceneActivate sceneId => cases h; exact .skip hs hr rfl
    · exact nomatch h
  | line l =>
    simp only [step] at h
    split at h
    · rename_i line rx hs
      obtain ⟨⟨app₁, line'⟩, hl, h⟩ := Option.map_eq_some_iff.mp h
      cases h
      exact .handle hs hl
    · exact nomatch h
  | sent result =>
    simp only [step] at h
    split at h
    · -- a failed send ends the session, and a sent message brings it back to the select
      rename_i m rx e hs
      cases h
      exact .fail hs
    · rename_i m rx hs
      cases h
      exact .sent hs
    · exact nomatch h

/-- What a session at its select does with a text. -/
theorem step_text {rx : Broadcast.Receiver} {item : Option s.transport.Frame} {text : String}
    (hs : s.stage = .selecting rx) (hturn : s.transport.turn item = .line text) :
    s.step env scenes app (.tryNext s.transport (.ok item)) =
      some (app, { s with stage := afterLine s.transport rx (.start env text) }) := by
  simp only [step, hs, if_true, Except.map, hturn, receive]

/-- A session at its select that cannot read returns. -/
theorem step_readError {rx : Broadcast.Receiver} (hs : s.stage = .selecting rx) (e : Error) :
    s.step env scenes app (.tryNext s.transport (.error e)) = some (s.leave app (.error e)) := by
  simp only [step, hs, if_true, Except.map, receive]

/-- A session reads at its select, and frames of its own backend. -/
theorem step_tryNext {transport : Transport} {item : Except Error (Option transport.Frame)}
    {r : AppState × ClientSession} (h : s.step env scenes app (.tryNext transport item) = some r) :
    s.transport = transport ∧ ∃ rx, s.stage = .selecting rx := by
  simp only [step] at h
  split at h
  · rename_i rx hs
    split at h
    · rename_i htransport
      exact ⟨htransport, rx, hs⟩
    · cases h
  · cases h

/-- Only a session at its select receives a hook. -/
theorem step_recv {r : AppState × ClientSession} (h : s.step env scenes app .recv = some r) :
    ∃ rx, s.stage = .selecting rx := by
  simp only [step] at h
  split at h
  · rename_i rx hs
    exact ⟨rx, hs⟩
  · cases h

/-- A session changes nothing but the hook channel, and only ever adds to what was sent. -/
theorem Step.frame (h : Step env scenes app s l app' s') :
    app'.devices = app.devices ∧ app'.controllers = app.controllers ∧
      app.hooks.sender.Grows app'.hooks.sender := by
  cases h with
  -- A receiver is taken or dropped, and no hook is sent
  | subscribe h => exact ⟨rfl, rfl, rfl, rfl, List.prefix_refl _⟩
  | finish h => exact ⟨rfl, rfl, rfl, rfl, List.prefix_refl _⟩
  | lag h hr => exact ⟨rfl, rfl, rfl, rfl, List.prefix_refl _⟩
  | fail h => exact ⟨rfl, rfl, rfl, rfl, List.prefix_refl _⟩
  | handle h hl =>
    -- A line sends the hooks of its call
    obtain ⟨hooks, hsends, -⟩ := Line.step_sends hl
    exact ⟨hsends.devices, hsends.controllers, hsends.grows⟩
  -- The rest touches nothing of the server
  | refuse h => exact ⟨rfl, rfl, .refl _⟩
  | pong h => exact ⟨rfl, rfl, .refl _⟩
  | line h hitem => exact ⟨rfl, rfl, .refl _⟩
  | ignore h => exact ⟨rfl, rfl, .refl _⟩
  | notify h hr => exact ⟨rfl, rfl, .refl _⟩
  | skip h hr hk => exact ⟨rfl, rfl, .refl _⟩
  | sent h => exact ⟨rfl, rfl, .refl _⟩

/-- The session keeps its receiver when a line goes on or ends. -/
theorem afterLine_receiver? (transport : Transport) (rx : Broadcast.Receiver) (line : Line) :
    (afterLine transport rx line).receiver? = some rx := by
  cases line with
  | returned result => rcases result with e | ⟨⟩ <;> rfl
  | _ => rfl

/-- A session that has handled a line was accepted. -/
theorem afterLine_ne_accepting (transport : Transport) (rx : Broadcast.Receiver) (line : Line) :
    afterLine transport rx line ≠ .accepting := by
  intro h
  have hrx := afterLine_receiver? transport rx line
  rw [h] at hrx
  exact nomatch hrx

/-- A session that has returned takes no further step. -/
theorem step_returned {result : Except Error Unit} (h : s.stage = .returned result) :
    s.step env scenes app l = none := by
  cases l with
  | accept r => simp only [step, h]
  | tryNext transport item => simp only [step, h]
  | recv => simp only [step, h]
  | line l => simp only [step, h]
  | sent r => simp only [step, h]

end ClientSession

/-- A step of session `i` in the system. -/
theorem clientSessions_step {st st' : System.State AppState ClientSession} {i : Nat}
    {l : SessionLabel} (h : (clientSessions env scenes).exec st (.step i l) = some st') :
    ∃ s s', st.comps[i]? = some s ∧ s.Step env scenes st.shared l st'.shared s' ∧
      st'.comps[i]? = some s' := by
  obtain ⟨s, s', hs, hstep, hc⟩ := System.exec_step h
  refine ⟨s, s', hs, ClientSession.step_cases hstep, ?_⟩
  rw [hc, List.getElem?_set_self (List.getElem?_eq_some_iff.mp hs).1]

/-! ## Requests over HTTP -/

namespace HttpCall

/-- A step of `handle_request`. -/
inductive Step (scenes : ScenesConfig) (app : AppState) :
    HttpCall → HttpLabel → AppState → HttpCall → Prop
  | request {call l app' call'} (h : call.step app l = some (app', call')) :
      Step scenes app (.requesting call) (.request l) app' (afterRequest call')
  | scene {call l app' call'} (h : call.step scenes app l = some (app', call')) :
      Step scenes app (.activating call) (.scene l) app' (afterScene call')
  | unencoded {response e} :
      Step scenes app (.answering response) (.encoded (.error e)) app (.returned (.error e))
  | encoded {response} :
      Step scenes app (.answering response) (.encoded (.ok ())) app (.returned (.ok response))

theorem step_cases {call call' : HttpCall} {l : HttpLabel}
    (h : call.step scenes app l = some (app', call')) : Step scenes app call l app' call' := by
  -- By where the call is
  unfold step at h
  split at h
  · obtain ⟨p, hp, he⟩ := Option.map_eq_some_iff.mp h
    cases he
    exact .request hp
  · obtain ⟨p, hp, he⟩ := Option.map_eq_some_iff.mp h
    cases he
    exact .scene hp
  · split at h
    · cases h
      -- Whether or not the answer can be encoded, the call is over
      exact .unencoded
    · cases h
      exact .encoded
  · cases h

end HttpCall

end Devicectrl

/-! ## A server with two lamps and a fan nobody configured -/

namespace Devicectrl.ClientSession.Demo

def lamp : DeviceId := ⟨"lamp"⟩

def desk : DeviceId := ⟨"desk"⟩

def fan : DeviceId := ⟨"fan"⟩

def evening : SceneId := ⟨"evening"⟩

def devices : Devices :=
  AList.insert lamp ⟨lamp, .switch, .unknown, .simple ⟨⟨[7]⟩⟩⟩
    (AList.insert desk ⟨desk, .switch, .unknown, .simple ⟨⟨[8]⟩⟩⟩ ∅)

def controllers : Controllers := ⟨true, false, false, false⟩

/-- A device is turned on. -/
def turnOn (deviceId : DeviceId) : UpdateRequest := ⟨deviceId, .power .on⟩

/-- A client that turns a device on names it, and any other text is a scene. -/
def env : SocketEnv where
  fromStr text :=
    if text = "lamp" then .ok (.updateRequest (turnOn lamp))
    else if text = "fan" then .ok (.updateRequest (turnOn fan))
    else .ok (.activateScene ⟨text⟩)
  sort := ⟨.mergeSort _, .mergeSort _⟩

/-- The lamp reports that it is on. -/
def lampOn : UpdateNotification := ⟨lamp, true, .switch ⟨.on⟩⟩

end Devicectrl.ClientSession.Demo
