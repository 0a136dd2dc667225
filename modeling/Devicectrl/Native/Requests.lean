import Devicectrl.Native.Dispatch

/-!
# Update requests and scenes

`process_update_request` of `devices/dispatch.rs` and `process_scene_activate` of `scenes.rs`
as calls that run in parts: other tasks run whenever one awaits.
-/

namespace Devicectrl

/-! ## Update requests -/

/-- A call of `process_update_request`, by where it awaits. -/
inductive RequestCall where
  | begin (request : UpdateRequest)
  | dispatching (device : Device) (request : UpdateRequest)
  | returned (result : Except Error Unit)
  deriving DecidableEq

/-- `dispatched` is what the device's own controller answers. -/
inductive RequestLabel where
  | poll
  | dispatched (outcome : Except Error Unit)
  deriving DecidableEq

namespace RequestCall

/-- The result of a call that has returned. -/
def result? : RequestCall → Option (Except Error Unit)
  | .returned result => some result
  | _ => none

/-- One part of `process_update_request`. -/
def step (app : AppState) : RequestCall → RequestLabel → Option (AppState × RequestCall)
  | .begin request, .poll =>
    match beginUpdateRequest request app with
    | .error e => some (app, .returned (.error e))
    | .ok (device, app) => some (app, .dispatching device request)
  | .dispatching device _, .dispatched outcome =>
    some (app, .returned (Controllers.dispatchUpdate app device outcome))
  | _, _ => none

end RequestCall

/-! ## Scenes -/

/-- `HashMap<SceneId, Vec<UpdateRequest>>`. -/
abbrev ScenesConfig := AList fun _ : SceneId => List UpdateRequest

/-- A call of `process_scene_activate`: the calls of `try_join_all` run side by side. -/
inductive SceneCall where
  | begin (sceneId : SceneId)
  | joining (calls : List RequestCall)
  | returned (result : Except Error Unit)
  deriving DecidableEq

/-- The scene is looked up, or one of its calls goes on. -/
inductive SceneLabel where
  | poll
  | member (i : Nat) (l : RequestLabel)
  deriving DecidableEq

namespace SceneCall

/-- The result of a call that has returned. -/
def result? : SceneCall → Option (Except Error Unit)
  | .returned result => some result
  | _ => none

/-- `try_join_all` after one of its calls took a step: the first error ends it and drops the
other calls, and it returns when all of them have. For more than 30 calls it collects the results
from a queue: an error ends it when the calls before it have returned, and the others go on until
then. That is not modelled. -/
def join (calls : List RequestCall) (stepped : RequestCall) : SceneCall :=
  match stepped with
  | .returned (.error e) => .returned (withContext "failed to update activate scene" (.error e))
  | _ =>
    if calls.all fun call => call.result?.isSome then .returned (.ok ()) else .joining calls

/-- One part of `process_scene_activate`. -/
def step (scenes : ScenesConfig) (app : AppState) :
    SceneCall → SceneLabel → Option (AppState × SceneCall)
  | .begin sceneId, .poll =>
    match scenes.lookup sceneId with
    | none => some (app, .returned (.error ["Could not find scene!"]))
    | some scene =>
      match app.hooks.sender.send (.sceneActivate sceneId) with
      | none =>
        some (app, .returned (.error ["failed to send scene activation hook", "channel closed"]))
      | some sender =>
        let app := { app with hooks := { app.hooks with sender } }
        -- Nothing to join: `try_join_all` returns at once
        if scene = [] then some (app, .returned (.ok ()))
        else some (app, .joining (scene.map .begin))
  | .joining calls, .member i l =>
    match calls[i]? with
    | none => none
    | some call =>
      match call.step app l with
      | none => none
      | some (app, call') => some (app, join (calls.set i call') call')
  | _, _ => none

end SceneCall

end Devicectrl
