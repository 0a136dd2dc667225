import Devicectrl.ForStd.System
import Devicectrl.Native.Requests

/-!
# What update requests and scenes do

The inversion lemmas of `process_update_request` and `process_scene_activate`, and the hooks
that they send: one for each request, and one more for a scene.

## Key results

- `RequestCall.Step.sends`, `SceneCall.Step.sends`: the hooks a step sends are those its call
  has yet to send no longer
-/

namespace Devicectrl

variable {app app' app'' : AppState}

/-! ## Sending hooks -/

/-- All that changed is that hooks were sent. -/
structure AppState.Sends (app app' : AppState) (hooks : List Hook) : Prop where
  devices : app'.devices = app.devices
  controllers : app'.controllers = app.controllers
  sender : app'.hooks.sender =
    { app.hooks.sender with sent := app.hooks.sender.sent ++ hooks }

namespace AppState.Sends

theorem refl (app : AppState) : Sends app app [] :=
  ⟨rfl, rfl, by rw [List.append_nil]⟩

/-- What two stretches send is sent one after the other. -/
theorem trans {hooks hooks' : List Hook} (h : Sends app app' hooks)
    (h' : Sends app' app'' hooks') : Sends app app'' (hooks ++ hooks') := by
  refine ⟨h'.devices.trans h.devices, h'.controllers.trans h.controllers, ?_⟩
  rw [h'.sender, h.sender, List.append_assoc]

/-- The hook channel only grows. -/
theorem grows {hooks : List Hook} (h : Sends app app' hooks) :
    app.hooks.sender.Grows app'.hooks.sender := by
  rw [h.sender]
  exact .append _ _

/-- The configuration stays. -/
theorem sameConfig {hooks : List Hook} (h : Sends app app' hooks) : app.SameConfig app' :=
  ⟨fun id => by rw [h.devices], by rw [h.sender], h.controllers⟩

/-- The hooks are what a receiver has to read besides what it had. -/
theorem unread {hooks : List Hook} (h : Sends app app' hooks) {rx : Broadcast.Receiver}
    (hrx : rx.next ≤ app.hooks.sender.sent.length) :
    app'.hooks.sender.unread rx = app.hooks.sender.unread rx ++ hooks := by
  rw [h.sender]
  exact List.drop_append_of_le_length hrx

end AppState.Sends

/-- A request that begins announces its dispatch. -/
theorem beginUpdateRequest_sends {request : UpdateRequest} {device : Device}
    (h : beginUpdateRequest request app = .ok (device, app')) :
    app.Sends app' [.deviceUpdateDispatch request] := by
  obtain ⟨-, hdevices, hcontrollers, hsender⟩ := beginUpdateRequest_ok h
  exact ⟨hdevices, hcontrollers, hsender⟩

/-! ## Update requests -/

namespace RequestCall

/-- A step of `process_update_request`. -/
inductive Step (app : AppState) : RequestCall → RequestLabel → AppState → RequestCall → Prop
  | refuse {request e} (h : beginUpdateRequest request app = .error e) :
      Step app (.begin request) .poll app (.returned (.error e))
  | send {request device app'} (h : beginUpdateRequest request app = .ok (device, app')) :
      Step app (.begin request) .poll app' (.dispatching device request)
  | dispatch {request device outcome} :
      Step app (.dispatching device request) (.dispatched outcome) app
        (.returned (Controllers.dispatchUpdate app device outcome))

variable {call call' : RequestCall} {l : RequestLabel}

theorem step_cases (h : call.step app l = some (app', call')) : Step app call l app' call' := by
  cases call with
  | begin request =>
    cases l with
    | poll =>
      simp only [step] at h
      split at h
      · -- `context("failed to find device")?`, or the hook that nobody hears
        rename_i e hb
        cases h
        exact .refuse hb
      · rename_i device app₁ hb
        cases h
        exact .send hb
    | dispatched outcome => exact nomatch h
  | dispatching device request =>
    cases l with
    | poll => exact nomatch h
    -- The outcome is the controller's
    | dispatched outcome =>
      cases h
      exact .dispatch
  | returned result => exact nomatch h

/-- The hooks that a call has yet to send, unless it fails first. -/
def hooksLeft : RequestCall → Nat
  | .begin _ => 1
  | _ => 0

/-- A step sends what its call has no longer to send. Only a call that fails keeps its hook
back. -/
theorem Step.sends (h : Step app call l app' call') :
    ∃ hooks, app.Sends app' hooks ∧ (∀ hook ∈ hooks, ∃ r, hook = .deviceUpdateDispatch r) ∧
      hooks.length + call'.hooksLeft ≤ call.hooksLeft ∧
      (hooks.length + call'.hooksLeft = call.hooksLeft ∨ ∃ e, call' = .returned (.error e)) := by
  cases h with
  | refuse h =>
    exact ⟨[], .refl app, fun _ hmem => absurd hmem List.not_mem_nil, Nat.zero_le _,
      .inr ⟨_, rfl⟩⟩
  | send h =>
    refine ⟨_, beginUpdateRequest_sends h, fun hook hmem => ?_, Nat.le_refl _, .inl rfl⟩
    exact ⟨_, List.mem_singleton.mp hmem⟩
  | dispatch =>
    exact ⟨[], .refl app, fun _ hmem => absurd hmem List.not_mem_nil, Nat.le_refl _, .inl rfl⟩

/-- The device of the request is configured, its controller is enabled and answers `Ok`. -/
def Succeeds (app : AppState) : RequestCall → RequestLabel → Prop
  | .begin request, .poll => (app.devices.lookup request.deviceId).isSome = true
  | .dispatching device _, .dispatched outcome =>
    (app.controllers.field device.controller).1 = true ∧ outcome = .ok ()
  | _, _ => True

/-- A step makes its call fail exactly when it does not succeed. -/
theorem Step.succeeds_iff (h : Step app call l app' call')
    (hr : 0 < app.hooks.sender.receivers) :
    call.Succeeds app l ↔ ∀ e, call' ≠ .returned (.error e) := by
  cases h with
  | refuse h =>
    refine ⟨fun hs => ?_, fun hne => absurd rfl (hne _)⟩
    -- A known device with somebody to hear of it is never refused
    obtain ⟨device, hd⟩ := Option.isSome_iff_exists.mp hs
    obtain ⟨app₁, hok⟩ := beginUpdateRequest_of_lookup hr hd
    rw [hok] at h
    exact nomatch h
  | send h =>
    refine ⟨fun _ => nofun, fun _ => ?_⟩
    exact Option.isSome_iff_exists.mpr ⟨_, (beginUpdateRequest_ok h).1⟩
  | @dispatch request device outcome =>
    -- The dispatch returns `Ok` exactly if the controller is enabled and does
    constructor
    · intro hs e he
      rw [Controllers.dispatchUpdate_ok_iff.mpr hs] at he
      exact nomatch he
    · intro hne
      apply Controllers.dispatchUpdate_ok_iff.mp
      cases hd : Controllers.dispatchUpdate app device outcome with
      | ok u => rfl
      | error e => exact absurd (by rw [hd]) (hne e)

end RequestCall

/-! ## Scenes -/

namespace SceneCall

/-- A step of `process_scene_activate`. -/
inductive Step (scenes : ScenesConfig) (app : AppState) :
    SceneCall → SceneLabel → AppState → SceneCall → Prop
  | unknown {sceneId} (h : scenes.lookup sceneId = none) :
      Step scenes app (.begin sceneId) .poll app (.returned (.error ["Could not find scene!"]))
  | closed {sceneId scene} (h : scenes.lookup sceneId = some scene)
      (hs : app.hooks.sender.send (.sceneActivate sceneId) = none) :
      Step scenes app (.begin sceneId) .poll app
        (.returned (.error ["failed to send scene activation hook", "channel closed"]))
  | empty {sceneId app'} (h : scenes.lookup sceneId = some [])
      (hs : app.Sends app' [.sceneActivate sceneId]) :
      Step scenes app (.begin sceneId) .poll app' (.returned (.ok ()))
  | activate {sceneId scene app'} (h : scenes.lookup sceneId = some scene) (hne : scene ≠ [])
      (hs : app.Sends app' [.sceneActivate sceneId]) :
      Step scenes app (.begin sceneId) .poll app' (.joining (scene.map .begin))
  | member {calls i call l app' call'} (hi : calls[i]? = some call)
      (h : RequestCall.Step app call l app' call') :
      Step scenes app (.joining calls) (.member i l) app' (join (calls.set i call') call')

variable {scenes : ScenesConfig} {call call' : SceneCall} {l : SceneLabel}

theorem step_cases (h : call.step scenes app l = some (app', call')) :
    Step scenes app call l app' call' := by
  cases call with
  | begin sceneId =>
    cases l with
    | poll =>
      simp only [step] at h
      split at h
      · -- `context("Could not find scene!")?`
        rename_i hl
        cases h
        exact .unknown hl
      · rename_i scene hl
        split at h
        · rename_i hs
          cases h
          exact .closed hl hs
        · rename_i sender hs
          obtain ⟨rfl, -⟩ := Broadcast.Channel.send_eq_some hs
          -- The join of no updates is over at once
          split at h
          · rename_i hnil
            cases h
            exact .empty (hnil ▸ hl) ⟨rfl, rfl, rfl⟩
          · rename_i hne
            cases h
            exact .activate hl hne ⟨rfl, rfl, rfl⟩
    | member i l => exact nomatch h
  | joining calls =>
    cases l with
    | poll => exact nomatch h
    | member i l =>
      simp only [step] at h
      split at h
      · exact nomatch h
      · rename_i call hi
        -- The join returns with the first failure, or when all members have returned
        split at h
        · exact nomatch h
        · rename_i app₁ call₁ hc
          cases h
          exact .member hi (RequestCall.step_cases hc)
  | returned result => exact nomatch h

/-- The hooks that a call has yet to send, unless it fails first. -/
def hooksLeft (scenes : ScenesConfig) : SceneCall → Nat
  | .begin sceneId =>
    match scenes.lookup sceneId with
    | none => 0
    | some scene => 1 + scene.length
  | .joining calls => (calls.map RequestCall.hooksLeft).sum
  | .returned _ => 0

/-- A scene that begins has one dispatch left for each update. -/
theorem hooksLeft_begin (updates : List UpdateRequest) :
    ((updates.map RequestCall.begin).map RequestCall.hooksLeft).sum = updates.length := by
  induction updates with
  | nil => rfl
  | cons update updates ih =>
    rw [List.map_cons, List.map_cons, List.sum_cons, ih, List.length_cons]
    exact Nat.add_comm _ _

/-- Calls that have returned have no hook left to send. -/
theorem hooksLeft_returned {calls : List RequestCall}
    (h : (calls.all fun call => call.result?.isSome) = true) :
    (calls.map RequestCall.hooksLeft).sum = 0 := by
  induction calls with
  | nil => rfl
  | cons call calls ih =>
    rw [List.all_cons, Bool.and_eq_true] at h
    rw [List.map_cons, List.sum_cons, ih h.2]
    cases call with
    | begin request => exact absurd h.1 Bool.false_ne_true
    | dispatching device request => rfl
    | returned result => rfl

/-- What `try_join_all` has left to send is what its calls have, unless one of them failed. -/
theorem hooksLeft_join (scenes : ScenesConfig) (calls : List RequestCall) (stepped : RequestCall) :
    (join calls stepped).hooksLeft scenes ≤ (calls.map RequestCall.hooksLeft).sum ∧
      ((join calls stepped).hooksLeft scenes = (calls.map RequestCall.hooksLeft).sum ∨
        ∃ e, join calls stepped = .returned (.error e)) := by
  unfold join
  split
  · exact ⟨Nat.zero_le _, .inr ⟨_, rfl⟩⟩
  · split
    · rename_i hall
      rw [hooksLeft_returned hall]
      exact ⟨Nat.le_refl _, .inl rfl⟩
    · exact ⟨Nat.le_refl _, .inl rfl⟩

/-- A join of a failed call fails. -/
theorem join_error (calls : List RequestCall) (e : Error) :
    ∃ e', join calls (.returned (.error e)) = .returned (.error e') :=
  ⟨_, rfl⟩

/-- A step sends what its call has no longer to send. Only a call that fails keeps hooks back. -/
theorem Step.sends (h : Step scenes app call l app' call') :
    ∃ hooks, app.Sends app' hooks ∧ (∀ hook ∈ hooks, ∀ n, hook ≠ .deviceStateUpdate n) ∧
      hooks.length + call'.hooksLeft scenes ≤ call.hooksLeft scenes ∧
      (hooks.length + call'.hooksLeft scenes = call.hooksLeft scenes ∨
        ∃ e, call' = .returned (.error e)) := by
  have hscene (sceneId : SceneId) :
      ∀ hook ∈ [Hook.sceneActivate sceneId], ∀ n, hook ≠ .deviceStateUpdate n := by
    intro hook hmem n he
    rw [List.mem_singleton.mp hmem] at he
    exact nomatch he
  cases h with
  | unknown h =>
    exact ⟨[], .refl app, fun _ hmem => absurd hmem List.not_mem_nil, Nat.zero_le _,
      .inr ⟨_, rfl⟩⟩
  | closed h hs =>
    exact ⟨[], .refl app, fun _ hmem => absurd hmem List.not_mem_nil, Nat.zero_le _,
      .inr ⟨_, rfl⟩⟩
  | @empty sceneId app' h hs =>
    -- Only the hook of the scene
    have hleft : (begin sceneId).hooksLeft scenes = 1 := by
      simp only [hooksLeft, h, List.length_nil]
    rw [hleft]
    exact ⟨_, hs, hscene sceneId, Nat.le_refl _, .inl rfl⟩
  | @activate sceneId scene app' h hne hs =>
    -- The hook of the scene, and then one for each update
    have hleft : (begin sceneId).hooksLeft scenes = 1 + scene.length := by simp only [hooksLeft, h]
    have hjoin : (joining (scene.map .begin)).hooksLeft scenes = scene.length :=
      hooksLeft_begin scene
    rw [hleft, hjoin]
    exact ⟨_, hs, hscene sceneId, Nat.le_refl _, .inl rfl⟩
  | @member calls i call l app' call' hi h =>
    -- What the member sends it has no longer to send
    obtain ⟨hooks, hsends, hkind, hle, heq⟩ := h.sends
    have hset := List.sum_map_set RequestCall.hooksLeft hi call'
    have hcalls : (joining calls).hooksLeft scenes = (calls.map RequestCall.hooksLeft).sum := rfl
    obtain ⟨hjoin, hjoin'⟩ := hooksLeft_join scenes (calls.set i call') call'
    refine ⟨hooks, hsends, fun hook hmem n he => ?_, by rw [hcalls]; omega, ?_⟩
    · obtain ⟨r, rfl⟩ := hkind hook hmem
      exact nomatch he
    · rcases heq with heq | ⟨e, rfl⟩
      · rcases hjoin' with hjoin' | herror
        · exact .inl (by rw [hcalls]; omega)
        · exact .inr herror
      · exact .inr (join_error _ e)

end SceneCall

end Devicectrl
