import Devicectrl.Native.DevicesLock

/-!
# Calls down to the sockets

The calls that are cut where their controller awaits take the steps of the calls that leave the
controller as a matter of its answer: what holds of every run of those holds of these.

## Key results

- `UpdateCall.step_refines`: update requests
- `scene_start_refines`, `scene_refines`: the update requests of a scene
-/

namespace Devicectrl

/-! ## Update requests -/

namespace UpdateCall

/-- The same call, with the controller as a matter of its answer. -/
def toRequestCall : UpdateCall → RequestCall
  | .begin request => .begin request
  | .dispatching device request _ => .dispatching device request
  | .returned result => .returned result

/-- Only a controller that is enabled is awaited. -/
def Enabled (app : AppState) : UpdateCall → Prop
  | .dispatching device _ _ => (app.controllers.field device.controller).1 = true
  | _ => True

variable {env : ControllerEnv} {app app' : AppState} {call call' : UpdateCall} {l : UpdateLabel}

/-- A controller that is enabled has its answer returned. -/
theorem dispatchUpdate_of_enabled {device : Device}
    (h : (app.controllers.field device.controller).1 = true) (result : Except Error Unit) :
    Controllers.dispatchUpdate app device result = result := by
  rw [Controllers.dispatchUpdate]
  split
  · rfl
  · rename_i name hf
    rw [hf] at h
    cases h

/-- What a dispatch returns at once is what it answers when the controller answers that. -/
theorem dispatch_returned {device : Device} {send : DeviceCall ⊕ Except Error Unit}
    {result : Except Error Unit} (h : DeviceCall.dispatch app device send = .inr result) :
    Controllers.dispatchUpdate app device result = result := by
  rw [DeviceCall.dispatch] at h
  cases hf : app.controllers.field device.controller with
  | mk enabled name =>
    rw [hf] at h
    cases enabled with
    | true => exact dispatchUpdate_of_enabled (by rw [hf]) result
    | false =>
      rw [Controllers.dispatchUpdate, hf]
      exact Sum.inr.inj h

/-- What a controller is asked to do is awaited only if the controller is enabled. -/
theorem dispatch_awaited {device : Device} {send : DeviceCall ⊕ Except Error Unit}
    {call : DeviceCall} (h : DeviceCall.dispatch app device send = .inl call) :
    (app.controllers.field device.controller).1 = true := by
  rw [DeviceCall.dispatch] at h
  cases hf : app.controllers.field device.controller with
  | mk enabled name =>
    rw [hf] at h
    cases enabled with
    | true => rfl
    | false => cases h

/-- Every step takes the steps of the call that leaves the sockets out. -/
theorem step_refines (h : call.step env app l = some (app', call')) (hc : call.Enabled app) :
    call'.Enabled app' ∧
      ∃ ls, Lts.run (fun p : AppState × RequestCall => RequestCall.step p.1 p.2)
        (app, call.toRequestCall) ls = some (app', call'.toRequestCall) := by
  cases call with
  | begin request =>
    cases l with
    | device l => cases h
    | poll =>
      simp only [step] at h
      split at h
      · rename_i e he
        cases h
        exact ⟨trivial, [.poll], by simp [Lts.run, toRequestCall, RequestCall.step, he]⟩
      · rename_i device app₁ hbegin
        cases h
        cases hd : DeviceCall.dispatchUpdate env app' device request with
        | inl call =>
          refine ⟨dispatch_awaited hd, [.poll], ?_⟩
          simp [Lts.run, toRequestCall, RequestCall.step, hbegin, after]
        | inr result =>
          -- The controller is not enabled, or answers without awaiting
          refine ⟨trivial, [.poll, .dispatched result], ?_⟩
          simp [Lts.run, toRequestCall, RequestCall.step, hbegin, after, dispatch_returned hd]
  | dispatching device request call =>
    cases l with
    | poll => cases h
    | device l =>
      obtain ⟨r, hr, h⟩ := Option.map_eq_some_iff.mp h
      cases h
      cases r with
      | inl call' => exact ⟨hc, [], rfl⟩
      | inr result =>
        have hanswer : Controllers.dispatchUpdate app device result = result :=
          dispatchUpdate_of_enabled hc result
        refine ⟨trivial, [.dispatched result], ?_⟩
        simp [Lts.run, toRequestCall, RequestCall.step, after, hanswer]
  | returned result => cases h

/-- A step leaves the controllers as they are. -/
theorem step_controllers (h : call.step env app l = some (app', call')) :
    app'.controllers = app.controllers := by
  cases call with
  | begin request =>
    cases l with
    | device l => cases h
    | poll =>
      -- The request is announced, or refused
      simp only [step] at h
      split at h
      · cases h
        rfl
      · rename_i device app₁ hbegin
        cases h
        exact (beginUpdateRequest_ok hbegin).2.2.1
  | dispatching device request call =>
    cases l with
    | poll => cases h
    | device l =>
      obtain ⟨r, -, h⟩ := Option.map_eq_some_iff.mp h
      cases h
      rfl
  | returned result => cases h

/-- Whether a call can make a step depends on the controllers alone. -/
theorem Enabled.congr (h : app'.controllers = app.controllers) (hc : call.Enabled app) :
    call.Enabled app' := by
  cases call with
  | begin request => trivial
  | dispatching device request call =>
    show (app'.controllers.field device.controller).1 = true
    rw [h]
    exact hc
  | returned result => trivial

/-- A call with datagrams returns what the call without them does. -/
@[simp] theorem result?_toRequestCall (call : UpdateCall) :
    call.toRequestCall.result? = call.result? := by
  cases call with
  | begin request => rfl
  | dispatching device request call => rfl
  | returned result => rfl

/-- A call that makes a step has not returned. -/
theorem result?_of_step (h : call.step env app l = some (app', call')) : call.result? = none := by
  cases call with
  | begin request => rfl
  | dispatching device request call => rfl
  | returned result => cases h

end UpdateCall

/-! ## Scenes -/

open RwLock (TryJoinAll)

/-- A call that makes a step has not returned. -/
theorem RequestCall.result?_of_step {app app' : AppState} {call call' : RequestCall}
    {l : RequestLabel} (h : call.step app l = some (app', call')) : call.result? = none := by
  cases call with
  | begin request => rfl
  | dispatching device request => rfl
  | returned result => cases h

/-- A scene whose call has not returned is still joining. -/
theorem SceneCall.join_pending {calls : List RequestCall} {call : RequestCall} {i : Nat}
    (hi : i < calls.length) (h : call.result? = none) :
    join (calls.set i call) call = .joining (calls.set i call) := by
  have hall : ¬((calls.set i call).all fun call => call.result?.isSome) = true := by
    intro hall
    have hmem : call ∈ calls.set i call := List.mem_set hi call
    have hsome := List.all_eq_true.mp hall call hmem
    rw [h] at hsome
    cases hsome
  cases call with
  | begin request => exact if_neg hall
  | dispatching device request => exact if_neg hall
  | returned result => cases h

/-- The steps of a call are steps of the scene. -/
theorem SceneCall.run_member (scenes : ScenesConfig) {app app' : AppState}
    {calls : List RequestCall} {i : Nat} {call call' : RequestCall} {ls : List RequestLabel}
    (hi : calls[i]? = some call) (hne : ls ≠ [])
    (h : Lts.run (fun p : AppState × RequestCall => RequestCall.step p.1 p.2) (app, call) ls =
      some (app', call')) :
    Lts.run (fun p : AppState × SceneCall => SceneCall.step scenes p.1 p.2) (app, .joining calls)
      (ls.map (.member i)) = some (app', join (calls.set i call') call') := by
  induction ls generalizing app calls call with
  | nil => exact absurd rfl hne
  | cons l ls ih =>
    obtain ⟨⟨app₁, call₁⟩, hl, h⟩ := Lts.run_cons _ h
    have hlt : i < calls.length := (List.getElem?_eq_some_iff.mp hi).1
    have hstep : SceneCall.step scenes app (.joining calls) (.member i l) =
        some (app₁, join (calls.set i call₁) call₁) := by
      have hl : RequestCall.step app call l = some (app₁, call₁) := hl
      simp only [SceneCall.step, hi, hl]
    rw [List.map_cons, Lts.run_cons_of _ hstep]
    cases ls with
    | nil =>
      cases h
      rfl
    | cons l' ls =>
      -- The call goes on, and the scene with it
      obtain ⟨⟨app₂, call₂⟩, hl', -⟩ := Lts.run_cons _ h
      rw [join_pending hlt (RequestCall.result?_of_step hl')]
      have hself : (calls.set i call₁)[i]? = some call₁ := List.getElem?_set_self hlt
      have hrun := ih hself (List.cons_ne_nil l' ls) h
      rw [List.set_set] at hrun
      exact hrun

/-- The joined update requests of a scene, with the controllers as a matter of their answers. -/
def toSceneCall : TryJoinAll UpdateCall Error → SceneCall
  | .joining calls => .joining (calls.map UpdateCall.toRequestCall)
  | .returned result => .returned (withContext "failed to update activate scene" result)

/-- Each controller that is awaited is enabled. -/
def SceneEnabled (app : AppState) : TryJoinAll UpdateCall Error → Prop
  | .joining calls => ∀ call ∈ calls, call.Enabled app
  | .returned _ => True

/-- The updates of a scene begin where those of `process_scene_activate` do. -/
theorem toSceneCall_start (scene : List UpdateRequest) :
    toSceneCall (TryJoinAll.start (scene.map .begin)) =
      if scene = [] then .returned (.ok ()) else .joining (scene.map .begin) := by
  cases scene with
  | nil => rfl
  | cons request scene =>
    rw [if_neg (List.cons_ne_nil request scene)]
    simp [TryJoinAll.start, toSceneCall, UpdateCall.toRequestCall]

/-- A scene that is there, with somebody to hear of it, starts alike. -/
theorem scene_start_refines {env : DevicesEnv} {app : AppState} {sceneId : SceneId}
    {scene : List UpdateRequest} {sender : Broadcast.Channel Hook}
    (hscene : env.scenes.lookup sceneId = some scene)
    (hsend : app.hooks.sender.send (.sceneActivate sceneId) = some sender) :
    SceneCall.step env.scenes app (.begin sceneId) .poll =
      some (((LockCall.activateScene sceneId).start env app).1,
        toSceneCall (TryJoinAll.start (scene.map .begin))) := by
  rw [toSceneCall_start]
  simp only [SceneCall.step, LockCall.start, hscene, hsend]
  split
  · rfl
  · rfl

/-- Both joins go on in the same way. -/
theorem toSceneCall_after (calls : List UpdateCall) (stepped : UpdateCall) :
    toSceneCall (TryJoinAll.after UpdateCall.result? calls stepped) =
      SceneCall.join (calls.map UpdateCall.toRequestCall) stepped.toRequestCall := by
  -- Both joins look at the results, and these are the same
  have hif : toSceneCall (if calls.all fun call => call.result?.isSome then .returned (.ok ())
        else .joining calls) =
      if (calls.map UpdateCall.toRequestCall).all fun call => call.result?.isSome
        then .returned (.ok ()) else .joining (calls.map UpdateCall.toRequestCall) := by
    rw [List.all_map]
    simp only [Function.comp_def, UpdateCall.result?_toRequestCall]
    split
    · rfl
    · rfl
  cases stepped with
  | begin request => exact hif
  | dispatching device request call => exact hif
  | returned result =>
    cases result with
    | error e => rfl
    | ok u => exact hif

/-- Every step of a scene takes the steps of the scene that leaves the sockets out. -/
theorem scene_refines (scenes : ScenesConfig) {env : DevicesEnv} {app app' : AppState}
    {t t' : TryJoinAll UpdateCall Error} {i : Nat} {l : UpdateLabel}
    (h : TryJoinAll.step (processUpdateRequest env) UpdateCall.result? app t (i, l) =
      some (app', t')) (hc : SceneEnabled app t) :
    SceneEnabled app' t' ∧
      ∃ ls, Lts.run (fun p : AppState × SceneCall => SceneCall.step scenes p.1 p.2)
        (app, toSceneCall t) ls = some (app', toSceneCall t') := by
  obtain ⟨calls, call, call', rfl, hi, hstep, rfl⟩ := TryJoinAll.step_cases h
  have hstep : call.step env.controllers app l = some (app', call') := hstep
  obtain ⟨henabled, ls, hrun⟩ :=
    UpdateCall.step_refines hstep (hc call (List.mem_of_getElem? hi))
  constructor
  · -- the members that have gone on find the same controllers
    rcases TryJoinAll.after_cases (calls.set i call') call' with ⟨r, hr⟩ | hr
    · rw [hr]
      trivial
    · rw [hr]
      intro k hk
      rcases List.mem_or_eq_of_mem_set hk with hk | rfl
      · exact (hc k hk).congr (UpdateCall.step_controllers hstep)
      · exact henabled
  · have hi' : (calls.map UpdateCall.toRequestCall)[i]? = some call.toRequestCall := by
      rw [List.getElem?_map, hi]
      rfl
    obtain ⟨hlt, hget⟩ := List.getElem?_eq_some_iff.mp hi'
    rw [toSceneCall_after, List.map_set]
    by_cases hls : ls = []
    · -- a step between two sockets is none of the scene
      subst hls
      obtain ⟨rfl, hcall⟩ := Prod.mk.inj (Option.some.inj hrun)
      have hnone : call.toRequestCall.result? = none := by
        rw [UpdateCall.result?_toRequestCall]
        exact UpdateCall.result?_of_step hstep
      have hsame : (calls.map UpdateCall.toRequestCall).set i call.toRequestCall =
          calls.map UpdateCall.toRequestCall := by
        rw [← hget]
        exact List.set_getElem_self hlt
      rw [← hcall, SceneCall.join_pending hlt hnone, hsame]
      exact ⟨[], rfl⟩
    · exact ⟨ls.map (.member i), SceneCall.run_member scenes hi' hls hrun⟩

end Devicectrl
