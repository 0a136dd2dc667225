import Devicectrl.ForStd.TaggedLog
import Devicectrl.Native.DevicesLock
import Devicectrl.Spec.UpdateEffects

/-!
# What a scene does to the outside

The members of a scene are polled side by side. When all of them succeed, each has emitted what
it emits on its own. The first error ends the scene: the other members are dropped where they
are, with the first of their commands emitted, or none. (So `try_join_all` does for scenes of up to
30 updates. In a longer one the members after a failed one go on while one before it has not
returned.)

## Key results

- `UpdateCall.Emitted.step`: what a request emits, however it is interleaved
- `SceneRun.start_activateScene`, `SceneRun.exec_member`: the scene is that of
  `process_scene_activate`
- `scene_effects`: the commands of a scene, when it succeeds and when it fails
-/

namespace Devicectrl

open RwLock (TryJoinAll)

/-! ## One member -/

/-- The commands of a request on its own, when nothing fails. -/
def commands (env : ControllerEnv) (app : AppState) (request : UpdateRequest) : List Emission :=
  UpdateCall.left env app (.begin request)

namespace UpdateCall

/-- What a call has emitted, by where it is. It began on a server in a state with `Begun`. -/
def Emitted (env : ControllerEnv) (request : UpdateRequest) (Begun : AppState → Prop)
    (emitted : List Emission) : UpdateCall → Prop
  | .begin request' => request' = request ∧ emitted = []
  | .dispatching device _ call => ∃ app, Begun app ∧
      emitted ++ call.left env device.controller = commands env app request
  | .returned (.ok ()) => ∃ app, Begun app ∧ emitted = commands env app request
  | .returned (.error _) => ∃ app, Begun app ∧ emitted <+: commands env app request

variable {env : ControllerEnv} {app app' : AppState} {call call' : UpdateCall} {l : UpdateLabel}
variable {request : UpdateRequest} {Begun Begun' : AppState → Prop} {emitted : List Emission}

/-- What began in one set of states began in a larger one. -/
theorem Emitted.mono (h : ∀ app, Begun app → Begun' app)
    (hcall : Emitted env request Begun emitted call) :
    Emitted env request Begun' emitted call := by
  cases call with
  | begin request' => exact hcall
  | dispatching device request' call =>
    obtain ⟨app, hb, he⟩ := hcall
    exact ⟨app, h app hb, he⟩
  | returned result =>
    cases result with
    | ok _ =>
      obtain ⟨app, hb, he⟩ := hcall
      exact ⟨app, h app hb, he⟩
    | error e =>
      obtain ⟨app, hb, he⟩ := hcall
      exact ⟨app, h app hb, he⟩

/-- A call goes on with its commands as long as nothing fails. -/
theorem Emitted.after {device : Device} {request' : UpdateRequest} {call : DeviceCall}
    {emits : List Emission} {r : DeviceCall ⊕ Except Error Unit}
    (hstep : DeviceCall.Accounts env device.controller call emits r)
    (hcall : Emitted env request Begun emitted (.dispatching device request' call)) :
    Emitted env request Begun (emitted ++ emits) (.after device request' r) := by
  obtain ⟨app, hb, he⟩ := hcall
  cases r with
  | inl call' =>
    refine ⟨app, hb, ?_⟩
    -- What it emits now comes first of what it had yet to emit
    rw [List.append_assoc, show emits ++ call'.left env device.controller = _ from hstep, he]
  | inr result =>
    cases result with
    | ok _ =>
      -- It has emitted the last of its commands
      obtain rfl : emits = call.left env device.controller := hstep
      exact ⟨app, hb, he⟩
    | error e =>
      -- A failed step emits nothing, and what was yet to come never will be
      obtain rfl : emits = [] := hstep
      refine ⟨app, hb, ?_⟩
      rw [List.append_nil, ← he]
      exact List.prefix_append _ _

/-- What a step adds to what a call has emitted. -/
theorem Emitted.step (h : Step env app call l app' call') (hb : l = .poll → Begun app)
    (hcall : Emitted env request Begun emitted call) :
    Emitted env request Begun (emitted ++ call.emits l) call' := by
  cases h with
  | refuse hbegin =>
    obtain ⟨rfl, rfl⟩ := hcall
    exact ⟨app, hb rfl, List.nil_prefix⟩
  | @send request' device _ hbegin =>
    obtain ⟨rfl, rfl⟩ := hcall
    -- The state that the request begins in decides on all of its commands
    cases hdispatch : DeviceCall.dispatchUpdate env app' device request' with
    | inl call =>
      refine ⟨app, hb rfl, ?_⟩
      simp only [commands, left, hbegin, hdispatch]
      rfl
    | inr result =>
      have hcommands : commands env app request' = [] := by
        simp only [commands, left, hbegin, hdispatch]
      cases result with
      | ok _ => exact ⟨app, hb rfl, hcommands.symm⟩
      | error e => exact ⟨app, hb rfl, List.nil_prefix⟩
  | device hdev => exact hcall.after (DeviceCall.step_emits hdev)

/-- A call with a result has returned it. -/
theorem eq_returned {call : UpdateCall} {result : Except Error Unit}
    (h : call.result? = some result) : call = .returned result := by
  cases call with
  | begin request => cases h
  | dispatching device request call => cases h
  | returned result' =>
    cases h
    rfl

end UpdateCall

/-! ## A scene among other tasks -/

/-- What process_scene_activate does: it joins the members. A member keeps its place when it has
been dropped. -/
structure SceneRun where
  app : AppState
  members : List UpdateCall
  join : TryJoinAll UpdateCall Error
  /-- The server when a member was first polled. -/
  begun : List (Nat × AppState)
  emitted : List (Nat × Emission)

/-- A task of the server, or a step of a member of the scene. -/
inductive SceneAct where
  | task (task : Task)
  | member (i : Nat) (l : UpdateLabel)

namespace SceneRun

/-- The members of `scene`, once its hook has been sent. -/
def start (app : AppState) (scene : List UpdateRequest) : SceneRun :=
  ⟨app, scene.map .begin, TryJoinAll.start (scene.map .begin), [], []⟩

/-- A step of member `i`. -/
def stepMember (env : ControllerEnv) (st : SceneRun) (i : Nat) (l : UpdateLabel)
    (call : UpdateCall) : Option SceneRun :=
  (call.step env st.app l).map fun p =>
    { app := p.1
      members := st.members.set i p.2
      join := TryJoinAll.after UpdateCall.result? (st.members.set i p.2) p.2
      begun := st.begun ++ TaggedLog.tag i (if l = .poll then [st.app] else [])
      emitted := st.emitted ++ TaggedLog.tag i (call.emits l) }

/-- One action of the run of a scene. Its members stop once it has returned. -/
def exec (env : ControllerEnv) (st : SceneRun) : SceneAct → Option SceneRun
  | .task task => (task.run st.app).map fun app => { st with app }
  | .member i l =>
    match st.join with
    | .returned _ => none
    | .joining _ => st.members[i]?.bind (stepMember env st i l)

variable {env : DevicesEnv} {st st' : SceneRun}

/-- `process_scene_activate` joins the members once it has sent its hook. -/
theorem start_activateScene {app : AppState} {sceneId : SceneId} {scene : List UpdateRequest}
    {sender : Broadcast.Channel Hook} (hscene : env.scenes.lookup sceneId = some scene)
    (hsend : app.hooks.sender.send (.sceneActivate sceneId) = some sender) :
    ∃ app', LockCall.start env app (.activateScene sceneId) =
      (app', ⟨.processSceneActivate, (start app' scene).join⟩) := by
  refine ⟨{ app with hooks := { app.hooks with sender } }, ?_⟩
  simp only [LockCall.start, hscene, hsend, start]

/-- It is `try_join_all` that steps. -/
theorem exec_member {i : Nat} {l : UpdateLabel} {members : List UpdateCall}
    (hjoin : st.join = .joining members) (hmembers : st.members = members)
    (h : exec env.controllers st (.member i l) = some st') :
    TryJoinAll.step (processUpdateRequest env) UpdateCall.result? st.app st.join (i, l) =
      some (st'.app, st'.join) := by
  simp only [exec, hjoin] at h
  obtain ⟨call, hi, h⟩ := Option.bind_eq_some_iff.mp h
  obtain ⟨p, hp, rfl⟩ := Option.map_eq_some_iff.mp h
  rw [hmembers] at hi
  have hp : (processUpdateRequest env).step st.app call l = some p := hp
  simp only [hjoin, TryJoinAll.step, hi, hp, Option.map_some, hmembers]

open TaggedLog (entries tag)

/-- What the members of a scene have done. -/
structure Traced (env : ControllerEnv) (app : AppState) (scene : List UpdateRequest)
    (st : SceneRun) : Prop where
  same : app.SameConfig st.app
  begun : ∀ e ∈ st.begun, app.SameConfig e.2
  length : st.members.length = scene.length
  tags : ∀ e ∈ st.emitted, e.1 < scene.length
  members : ∀ {i : Nat} {request : UpdateRequest} {call : UpdateCall},
    scene[i]? = some request → st.members[i]? = some call →
      call.Emitted env request (fun app => (i, app) ∈ st.begun) (entries i st.emitted)
  joins : TryJoinAll.Joins UpdateCall.result? st.members st.join

/-- A scene that starts has emitted nothing. -/
theorem traced_start (env : ControllerEnv) (app : AppState) (scene : List UpdateRequest) :
    Traced env app scene (start app scene) where
  same := .refl app
  begun e he := absurd he List.not_mem_nil
  length := List.length_map _
  tags e he := absurd he List.not_mem_nil
  members := by
    intro i request call hi hcall
    simp only [start, List.getElem?_map, hi, Option.map_some] at hcall
    cases hcall
    exact ⟨rfl, rfl⟩
  -- No member has a result yet, so the join goes on unless there is none
  joins := by
    apply TryJoinAll.joins_start
    intro call hcall
    obtain ⟨request, -, rfl⟩ := List.mem_map.mp hcall
    rfl

variable {env : ControllerEnv} {app : AppState} {scene : List UpdateRequest} {st st' : SceneRun}

/-- A step of a call leaves the configuration. -/
theorem step_sameConfig {env : ControllerEnv} {app app' : AppState} {call call' : UpdateCall}
    {l : UpdateLabel} (h : UpdateCall.Step env app call l app' call') : app.SameConfig app' := by
  cases h with
  | refuse h => exact .refl app
  | send h => exact (beginUpdateRequest_sends h).sameConfig
  | device h => exact .refl app

/-- What a scene can do: another task goes on, or a member does while they are joined. -/
theorem exec_cases {act : SceneAct} (h : SceneRun.exec env st act = some st') :
    (∃ task app', act = .task task ∧ task.run st.app = some app' ∧
      st' = { st with app := app' }) ∨
    ∃ i l joined call, act = .member i l ∧ st.join = .joining joined ∧
      st.members[i]? = some call ∧ stepMember env st i l call = some st' := by
  cases act with
  | task task =>
    obtain ⟨app', htask, rfl⟩ := Option.map_eq_some_iff.mp h
    exact .inl ⟨task, app', rfl, htask, rfl⟩
  | member i l =>
    cases hjoin : st.join with
    -- Once the join has returned no member goes on
    | returned result =>
      simp only [SceneRun.exec, hjoin] at h
      cases h
    | joining joined =>
      simp only [SceneRun.exec, hjoin] at h
      obtain ⟨call, hi, hstep⟩ := Option.bind_eq_some_iff.mp h
      exact .inr ⟨i, l, joined, call, rfl, rfl, hi, hstep⟩

/-- A member begins in the state that it is polled in. -/
theorem mem_begun {i : Nat} {l : UpdateLabel} {call : UpdateCall} {e : Nat × AppState}
    (h : stepMember env st i l call = some st') (he : e ∈ st'.begun) :
    e ∈ st.begun ∨ e.2 = st.app := by
  obtain ⟨p, -, rfl⟩ := Option.map_eq_some_iff.mp h
  rcases List.mem_append.mp he with he | he
  · exact .inl he
  · have happ := (TaggedLog.mem_tag.mp he).2
    split at happ
    · exact .inr (List.mem_singleton.mp happ)
    · cases happ

/-- One member goes on, and the others stay as they are. -/
theorem Traced.step {i : Nat} {l : UpdateLabel} {call : UpdateCall} {joined : List UpdateCall}
    (hst : Traced env app scene st) (hjoin : st.join = .joining joined)
    (hi : st.members[i]? = some call) (h : stepMember env st i l call = some st') :
    Traced env app scene st' := by
  have hbegun : ∀ e ∈ st'.begun, app.SameConfig e.2 := by
    intro e he
    rcases mem_begun h he with he | he
    · exact hst.begun e he
    · rw [he]
      exact hst.same
  obtain ⟨⟨app', call'⟩, hp, rfl⟩ := Option.map_eq_some_iff.mp h
  have hstep := UpdateCall.step_cases hp
  have hlt : i < st.members.length := (List.getElem?_eq_some_iff.mp hi).1
  refine ⟨hst.same.trans (step_sameConfig hstep), hbegun, ?_, ?_, ?_, ?_⟩
  · show (st.members.set i call').length = scene.length
    rw [List.length_set, hst.length]
  · intro e he
    rcases List.mem_append.mp he with he | he
    · exact hst.tags e he
    · rw [(TaggedLog.mem_tag.mp he).1, ← hst.length]
      exact hlt
  · intro j request callj hj hcallj
    show UpdateCall.Emitted env request _ (entries j (st.emitted ++ tag i (call.emits l))) callj
    rw [TaggedLog.entries_append]
    have hold : ∀ app, (j, app) ∈ st.begun →
        (j, app) ∈ st.begun ++ tag i (if l = .poll then [st.app] else []) := fun app happ =>
      List.mem_append_left _ happ
    -- Member `i` has what it had, and what it emits now; the others have what they had
    by_cases hij : i = j
    · subst hij
      have hcallj : (st.members.set i call')[i]? = some callj := hcallj
      rw [List.getElem?_set_self hlt] at hcallj
      cases hcallj
      rw [TaggedLog.entries_tag_self]
      apply UpdateCall.Emitted.step hstep _ ((hst.members hj hi).mono hold)
      rintro rfl
      exact List.mem_append_right _ (TaggedLog.mem_tag.mpr ⟨rfl, List.mem_singleton.mpr rfl⟩)
    · have hcallj : (st.members.set i call')[j]? = some callj := hcallj
      rw [List.getElem?_set_ne hij] at hcallj
      rw [TaggedLog.entries_tag_ne hij, List.append_nil]
      exact (hst.members hj hcallj).mono hold
  · have hjoins := hst.joins
    rw [hjoin] at hjoins
    exact hjoins.after hlt

/-- One action of a scene keeps its trace. -/
theorem Traced.exec {act : SceneAct} (h : SceneRun.exec env st act = some st')
    (hst : Traced env app scene st) : Traced env app scene st' := by
  obtain ⟨task, app', rfl, htask, rfl⟩ | ⟨i, l, joined, call, rfl, hjoin, hi, hstep⟩ :=
    exec_cases h
  · exact ⟨hst.same.trans (Task.run_sameConfig htask), hst.begun, hst.length, hst.tags,
      hst.members, hst.joins⟩
  · exact hst.step hjoin hi hstep

/-- Every run of a scene keeps its trace. -/
theorem Traced.run {acts : List SceneAct}
    (h : Lts.run (SceneRun.exec env) (start app scene) acts = some st) :
    Traced env app scene st :=
  Lts.run_invariant _ (fun _ _ _ hst he => hst.exec he) h (traced_start env app scene)

/-- An update of the scene has its member. -/
theorem Traced.exists_member {i : Nat} {request : UpdateRequest} (hst : Traced env app scene st)
    (hi : scene[i]? = some request) :
    ∃ call ∈ st.members,
      call.Emitted env request (fun app => (i, app) ∈ st.begun) (entries i st.emitted) := by
  have hlt : i < st.members.length := by
    rw [hst.length]
    exact (List.getElem?_eq_some_iff.mp hi).1
  exact ⟨st.members[i], List.getElem_mem hlt, hst.members hi (List.getElem?_eq_getElem hlt)⟩

/-- Each member of a scene that succeeded has run to its end, and has emitted what it emits on its
own. -/
structure RunsToEnd (env : ControllerEnv) (app : AppState) (scene : List UpdateRequest)
    (st : SceneRun) : Prop where
  returned : ∀ call ∈ st.members, call = .returned (.ok ())
  emitted : ∀ (i : Nat) (request : UpdateRequest), scene[i]? = some request →
    ∃ app', (i, app') ∈ st.begun ∧ app.SameConfig app' ∧
      entries i st.emitted = commands env app' request

/-- A scene that failed with `e` did so by one of its members. Each member has begun with its
commands, if it has begun at all, and goes no further. -/
structure Stopped (env : ControllerEnv) (app : AppState) (scene : List UpdateRequest) (e : Error)
    (st : SceneRun) : Prop where
  failed : .returned (.error e) ∈ st.members
  stops : ∀ i l, SceneRun.exec env st (.member i l) = none
  emitted : ∀ (i : Nat) (request : UpdateRequest), scene[i]? = some request →
    entries i st.emitted = [] ∨
      ∃ app', (i, app') ∈ st.begun ∧ app.SameConfig app' ∧
        entries i st.emitted <+: commands env app' request

/-- A scene that returns `Ok` has run each of its members to the end. -/
theorem Traced.runsToEnd (hst : Traced env app scene st) (hjoin : st.join = .returned (.ok ())) :
    RunsToEnd env app scene st := by
  have hall : ∀ call ∈ st.members, call = .returned (.ok ()) := by
    have hjoins := hst.joins
    rw [hjoin] at hjoins
    intro call hcall
    exact UpdateCall.eq_returned (hjoins call hcall)
  refine ⟨hall, fun i request hi => ?_⟩
  obtain ⟨call, hcall, hmember⟩ := hst.exists_member hi
  rw [hall call hcall] at hmember
  obtain ⟨app', hbegun, hemitted⟩ := hmember
  exact ⟨app', hbegun, hst.begun _ hbegun, hemitted⟩

/-- A scene that returns an error has a member that failed, and no member goes on. -/
theorem Traced.stopped {e : Error} (hst : Traced env app scene st)
    (hjoin : st.join = .returned (.error e)) : Stopped env app scene e st where
  failed := by
    have hjoins := hst.joins
    rw [hjoin] at hjoins
    obtain ⟨call, hcall, hresult⟩ := hjoins
    rw [← UpdateCall.eq_returned hresult]
    exact hcall
  stops i l := by
    simp only [SceneRun.exec, hjoin]
  emitted i request hi := by
    obtain ⟨call, -, hmember⟩ := hst.exists_member hi
    cases call with
    -- The member was dropped before it was polled
    | begin request' => exact .inl hmember.2
    | dispatching device request' call =>
      -- It was dropped at an await, with commands left
      obtain ⟨app', hbegun, hemitted⟩ := hmember
      refine .inr ⟨app', hbegun, hst.begun _ hbegun, ?_⟩
      rw [← hemitted]
      exact List.prefix_append _ _
    | returned result =>
      cases result with
      | ok _ =>
        obtain ⟨app', hbegun, hemitted⟩ := hmember
        exact .inr ⟨app', hbegun, hst.begun _ hbegun, hemitted ▸ List.prefix_rfl⟩
      | error e' =>
        obtain ⟨app', hbegun, hemitted⟩ := hmember
        exact .inr ⟨app', hbegun, hst.begun _ hbegun, hemitted⟩

/-! ### While no state is stored -/

/-- No other task stores the state of a device. -/
def StoresNothing : SceneAct → Prop
  | .task task => task.isWriter = false
  | .member _ _ => True

/-- The table is that of `app`, and was when a member began. -/
def SameTable (app : AppState) (st : SceneRun) : Prop :=
  st.app.devices = app.devices ∧ ∀ e ∈ st.begun, e.2.devices = app.devices

/-- Tasks that store nothing keep the states of the table. -/
theorem SameTable.exec {act : SceneAct} (hact : StoresNothing act)
    (h : SceneRun.exec env st act = some st') (hst : SameTable app st) : SameTable app st' := by
  obtain ⟨task, app', rfl, htask, rfl⟩ | ⟨i, l, joined, call, rfl, -, -, hstep⟩ := exec_cases h
  · exact ⟨(Task.run_devices hact htask).trans hst.1, hst.2⟩
  · refine ⟨?_, fun e he => ?_⟩
    · obtain ⟨p, hp, rfl⟩ := Option.map_eq_some_iff.mp hstep
      exact (UpdateCall.step_devices hp).trans hst.1
    · rcases mem_begun hstep he with he | he
      · exact hst.2 e he
      · rw [he]
        exact hst.1

end SceneRun

/-- The commands of a request, by the device and by who listens. -/
theorem commands_eq (env : ControllerEnv) (app : AppState) (request : UpdateRequest) :
    commands env app request =
      match app.devices.lookup request.deviceId with
      | none => []
      | some device =>
        if app.hooks.sender.receivers = 0 then []
        else
          match DeviceCall.dispatchUpdate env app device request with
          | .inl call => call.left env device.controller
          | .inr _ => [] := by
  rw [commands, UpdateCall.left, beginUpdateRequest]
  cases app.devices.lookup request.deviceId with
  | none => rfl
  | some device =>
    -- Without a receiver the dispatch is not announced, and the device is told nothing
    by_cases hr : app.hooks.sender.receivers = 0
    · simp only [Broadcast.Channel.send, if_pos hr]
    · simp only [Broadcast.Channel.send, if_neg hr]
      rfl

/-- What a request emits on its own depends on the configuration and the state of its device. -/
theorem commands_congr (env : ControllerEnv) {app app' : AppState} (h : app.SameConfig app')
    (hdevices : app'.devices = app.devices) (request : UpdateRequest) :
    commands env app' request = commands env app request := by
  have hreceivers : app'.hooks.sender.receivers = 0 ↔ app.hooks.sender.receivers = 0 := by
    have := h.receivers
    omega
  have hdispatch : ∀ device, DeviceCall.dispatchUpdate env app' device request =
      DeviceCall.dispatchUpdate env app device request := by
    intro device
    rw [DeviceCall.dispatchUpdate, DeviceCall.dispatchUpdate, DeviceCall.dispatch,
      DeviceCall.dispatch, h.controllers]
  rw [commands_eq, commands_eq, hdevices]
  simp only [hreceivers, hdispatch]

open SceneRun in
/-- A scene whose members succeed runs each of them to its end, with the commands that it emits on
its own; while no state is stored, these are the same for every order of the scene. A scene of
which a member fails stops there. -/
theorem scene_effects (env : ControllerEnv) (app : AppState) (scene : List UpdateRequest)
    (acts : List SceneAct) (st : SceneRun)
    (hrun : Lts.run (SceneRun.exec env) (.start app scene) acts = some st) :
    (st.join = .returned (.ok ()) → RunsToEnd env app scene st ∧
      ((∀ act ∈ acts, StoresNothing act) → ∀ scene' : List UpdateRequest, scene'.Perm scene →
        (st.emitted.map Prod.snd).Perm (scene'.flatMap (commands env app)))) ∧
      ∀ e, st.join = .returned (.error e) → Stopped env app scene e st := by
  have htraced := Traced.run hrun
  refine ⟨fun hjoin => ⟨htraced.runsToEnd hjoin, ?_⟩, fun e he => htraced.stopped he⟩
  intro hacts scene' hperm
  -- The table is the one the scene began with, so each member has the commands of that
  have htable := Lts.run_invariant_of_forall (Q := StoresNothing) _
    (fun _ _ _ hs hact h => SameTable.exec hact h hs) hacts hrun
    ⟨rfl, fun e he => absurd he List.not_mem_nil⟩
  -- Each member has emitted its commands, and the order between members is free
  have hentries : (List.range scene.length).flatMap (fun i => TaggedLog.entries i st.emitted) =
      scene.flatMap (commands env app) := by
    apply TaggedLog.flatMap_range
    intro i request hi
    obtain ⟨app', hbegun, hsame, hemitted⟩ := (htraced.runsToEnd hjoin).emitted i request hi
    rw [hemitted, commands_congr env hsame (htable.2 _ hbegun)]
  have hemitted := TaggedLog.perm_flatMap_entries htraced.tags
  rw [hentries] at hemitted
  exact hemitted.trans (hperm.flatMap_right (commands env app)).symm

/-! ## A lamp, and a device that is gone -/

namespace SceneRun.Demo

def lamp : Device :=
  ⟨⟨"lamp"⟩, .dimmableLight, .unknown, .govee ⟨0x0A000002⟩⟩

def app : AppState :=
  .new (AList.insert lamp.id lamp ∅) ⟨false, false, false, true⟩

/-- The scene turns the lamp on. -/
def lampOn : UpdateRequest := ⟨lamp.id, .power .on⟩

/-- The scene names a device that the configuration no longer has. -/
def gone : UpdateRequest := ⟨⟨"gone"⟩, .power .on⟩

/-- The datagram that turns the lamp on. -/
def turnOn : List UInt8 :=
  "\x7b\"msg\":\x7b\"cmd\":\"turn\",\"data\":\x7b\"value\":1\x7d\x7d\x7d".toUTF8.data.toList

/-- The datagram that asks for the state. -/
def query : List UInt8 :=
  "\x7b\"msg\":\x7b\"cmd\":\"devStatus\",\"data\":\x7b\x7d\x7d\x7d".toUTF8.data.toList

/-- A payload is its text. The lamp answers nothing. -/
def env : ControllerEnv where
  fromSlice _ := .error ["expected value at line 1 column 1"]
  toVec v :=
    match (v.index "msg").index "cmd" with
    | .string "turn" => .ok turnOn
    | _ => .ok query
  govee := ⟨fun _ => .error ["expected value at line 1 column 1"],
    fun props value => ⟨props, value⟩, fun _ state => state.value⟩

/-- The lamp is switched on, and is being waited for. -/
def switching : List SceneAct :=
  [.member 0 .poll, .member 0 (.device (.sent (.ok ())))]

end SceneRun.Demo

open SceneRun in
/-- The lamp on its own is switched on and queried. -/
theorem scene_effects_lamp :
    ∃ st, Lts.run (SceneRun.exec Demo.env) (.start Demo.app [Demo.lampOn])
        (Demo.switching ++ [.member 0 (.device .slept), .member 0 (.device (.sent (.ok ())))]) =
          some st ∧ RunsToEnd Demo.env Demo.app [Demo.lampOn] st := by
  have hrun : ∃ st, Lts.run (SceneRun.exec Demo.env) (.start Demo.app [Demo.lampOn])
      (Demo.switching ++ [.member 0 (.device .slept), .member 0 (.device (.sent (.ok ())))]) =
        some st ∧ st.join = .returned (.ok ()) := ⟨_, rfl, rfl⟩
  obtain ⟨st, hst, hjoin⟩ := hrun
  exact ⟨st, hst, ((scene_effects Demo.env Demo.app [Demo.lampOn] _ st hst).1 hjoin).1⟩

open SceneRun in
/-- A device that is gone spoils the scene: after it the lamp is not attempted, and before it the
lamp is switched on but never queried. -/
theorem scene_spoiled :
    commands Demo.env Demo.app Demo.lampOn =
        [.datagram 0x0A000002 4003 Demo.turnOn, .datagram 0x0A000002 4003 Demo.query] ∧
      (∃ st, Lts.run (SceneRun.exec Demo.env) (.start Demo.app [Demo.gone, Demo.lampOn])
          [.member 0 .poll] = some st ∧
        st.join = .returned (.error ["Could not find device id!"]) ∧ st.emitted = []) ∧
      ∃ st, Lts.run (SceneRun.exec Demo.env) (.start Demo.app [Demo.lampOn, Demo.gone])
          (Demo.switching ++ [.member 1 .poll]) = some st ∧
        st.join = .returned (.error ["Could not find device id!"]) ∧
          st.emitted = [(0, .datagram 0x0A000002 4003 Demo.turnOn)] :=
  ⟨rfl, ⟨_, rfl, rfl, rfl⟩, ⟨_, rfl, rfl, rfl⟩⟩

end Devicectrl
