import Devicectrl.ForStd.RunHistory
import Devicectrl.Spec.RequestLedger

/-!
# The calls of the controllers

What the tasks of the server call of the Simple and of the Krypton controller, and what these
broadcast: every call of an enabled controller succeeds and its message is broadcast once, in the
order of the calls.

## Key results

- `ServerState.Called.sent_eq`: what one call broadcasts
- `server_broadcasts`: the broadcasts of a run are the messages of its calls
-/

namespace Devicectrl

/-! ## One call -/

namespace ServerState.Called

variable {server called : ServerState} {call? : Option ControllerCall}

/-- A call of an enabled controller succeeds as long as that has its receiver, and broadcasts its
message. -/
theorem sent_eq (h : server.Called call? called)
    (hsimple : server.app.controllers.simple = true → 0 < server.simple.requestSender.receivers)
    (hkrypton :
      server.app.controllers.krypton = true → 0 < server.krypton.requestSender.receivers) :
    called.simple.requestSender.sent = server.simple.requestSender.sent ++
        (call?.toList.filter (·.toSimple server.app.controllers)).map ControllerCall.message ∧
      called.krypton.requestSender.sent = server.krypton.requestSender.sent ++
        (call?.toList.filter (·.toKrypton server.app.controllers)).map ControllerCall.message ∧
      ∀ call ∈ call?, (call.toSimple server.app.controllers = true ∨
        call.toKrypton server.app.controllers = true) → call.outcome = .ok () := by
  cases h with
  | nothing => simp
  -- A device of another controller, or one that is not enabled
  | other hs hk => simp [hs, hk]
  | @simple call config simple hc he hs =>
    have hto : call.toSimple server.app.controllers = true := by
      simp [ControllerCall.toSimple, hc, he]
    have hnot : call.toKrypton server.app.controllers = false := by
      simp [ControllerCall.toKrypton, hc]
    rcases ControllerCall.send_cases hs with ⟨hsend, hok⟩ | ⟨e, hsend, -⟩
    · -- the message is sent, and the call returns `Ok`
      rw [Controller.send_ok hsend]
      simp [hto, hnot, hok]
    · -- the controller has a receiver of its own, so the send cannot fail
      rw [Controller.send_of_pos (hsimple he)] at hsend
      cases hsend
  | @krypton call config krypton hc he hs =>
    have hto : call.toKrypton server.app.controllers = true := by
      simp [ControllerCall.toKrypton, hc, he]
    have hnot : call.toSimple server.app.controllers = false := by
      simp [ControllerCall.toSimple, hc]
    rcases ControllerCall.send_cases hs with ⟨hsend, hok⟩ | ⟨e, hsend, -⟩
    · rw [Controller.send_ok hsend]
      simp [hto, hnot, hok]
    · rw [Controller.send_of_pos (hkrypton he)] at hsend
      cases hsend

end ServerState.Called

/-! ## Runs -/

/-- The call of a controller that an action makes, with the number of the task. -/
def serverCalls (st : System.State ServerState ServerTask) :
    System.Act Unit TaskStart TaskLabel → List (Nat × ControllerCall)
  | .env _ => []
  | .spawn _ => []
  | .step i l =>
    ((st.comps[i]?.bind fun task => task.controllerCall? st.shared.app.devices l).map
      fun call => (i, call)).toList

section Runs

variable {env : ServerEnv} {config : Config} {devices : Devices}
  {st st' : System.State ServerState ServerTask}
  {as : List (System.Act Unit TaskStart TaskLabel)} {a : System.Act Unit TaskStart TaskLabel}
  {calls : List (Nat × ControllerCall)}

/-- An enabled controller has its receiver. -/
theorem receivers_pos
    (hrun : (serverTasks env config).run (serverInitial config devices) as = some st) :
    (st.shared.app.controllers.simple = true → 0 < st.shared.simple.requestSender.receivers) ∧
      (st.shared.app.controllers.krypton = true →
        0 < st.shared.krypton.requestSender.receivers) := by
  -- The controllers of the server are those of the configuration
  have hcontrollers := (Serves.run hrun).controllers
  refine ⟨fun he => ?_, fun he => ?_⟩
  · rw [hcontrollers] at he
    obtain ⟨globalConfig, hconfig⟩ := Option.isSome_iff_exists.mp he
    obtain ⟨as₁, has₁⟩ := simpleConnections_of_run hconfig hrun
    have hreceivers := (HandleConn.Subscribed.run (Simple.handleConn_lawful _ _) has₁).receivers
    show 0 < st.shared.simpleServer.controller.requestSender.receivers
    rw [hreceivers]
    omega
  · rw [hcontrollers] at he
    obtain ⟨globalConfig, hconfig⟩ := Option.isSome_iff_exists.mp he
    obtain ⟨as₁, has₁⟩ := kryptonConnections_of_run hconfig hrun
    have hreceivers :=
      (HandleConn.Subscribed.run (Krypton.handleConn_lawful _ _ _) has₁).receivers
    show 0 < st.shared.kryptonServer.controller.requestSender.receivers
    rw [hreceivers]
    omega

/-- The controllers have broadcast the messages of the calls, none of which has failed. -/
structure Broadcasts (config : Config) (calls : List (Nat × ControllerCall))
    (st : System.State ServerState ServerTask) : Prop where
  simple : st.shared.simple.requestSender.sent =
    (calls.filter (·.2.toSimple (.new config.controllers))).map (·.2.message)
  krypton : st.shared.krypton.requestSender.sent =
    (calls.filter (·.2.toKrypton (.new config.controllers))).map (·.2.message)
  succeeded : ∀ p ∈ calls, p.2.toSimple (.new config.controllers) = true ∨
    p.2.toKrypton (.new config.controllers) = true → p.2.outcome = .ok ()

/-- Nothing has been called or broadcast when `main` starts. -/
theorem Broadcasts.initial (config : Config) (devices : Devices) :
    Broadcasts config [] (serverInitial config devices) :=
  ⟨rfl, rfl, fun _ hp => absurd hp List.not_mem_nil⟩

/-- One action of the server broadcasts what it calls. -/
theorem Broadcasts.exec (h : Broadcasts config calls st)
    (hrun : (serverTasks env config).run (serverInitial config devices) as = some st)
    (hexec : (serverTasks env config).exec st a = some st') :
    Broadcasts config (calls ++ serverCalls st a) st' := by
  cases a with
  -- Nothing is called when the certificates are collected
  | env e =>
    obtain ⟨henv, -⟩ := System.exec_env hexec
    have hshared := collectDeviceCerts_cases henv
    rw [serverCalls, List.append_nil]
    exact ⟨by rw [hshared]; exact h.simple, by rw [hshared]; exact h.krypton, h.succeeded⟩
  | spawn start =>
    obtain ⟨task, hspawn, -⟩ := System.exec_spawn hexec
    obtain ⟨-, -, hsimple, hkrypton⟩ := (acceptTask_cases hspawn).commands
    rw [serverCalls, List.append_nil]
    exact ⟨by rw [hsimple]; exact h.simple, by rw [hkrypton]; exact h.krypton, h.succeeded⟩
  | step i l =>
    obtain ⟨task, task', hi, hstep, -⟩ := System.exec_step hexec
    obtain ⟨called, hcalled, hsimple, hkrypton⟩ := (ServerTask.step_cases hstep).calls
    -- The call of this step, with the task that makes it
    have hcalls : serverCalls st (.step i l) =
        ((task.controllerCall? st.shared.app.devices l).map fun call => (i, call)).toList := by
      rw [serverCalls, hi, Option.bind_some]
    generalize task.controllerCall? st.shared.app.devices l = call? at hcalled hcalls
    obtain ⟨hpos, hpos'⟩ := receivers_pos hrun
    obtain ⟨hsent, hsent', hok⟩ := hcalled.sent_eq hpos hpos'
    rw [(Serves.run hrun).controllers] at hsent hsent' hok
    rw [hcalls]
    refine ⟨?_, ?_, fun p hp hto => ?_⟩
    · -- the message of the call comes last, if the call is for the Simple controller
      rw [hsimple, hsent, h.simple, List.filter_append, List.map_append]
      cases call? with
      | none => rfl
      | some call =>
        by_cases hto : call.toSimple (.new config.controllers) = true
        · simp [hto]
        · simp [hto]
    · rw [hkrypton, hsent', h.krypton, List.filter_append, List.map_append]
      cases call? with
      | none => rfl
      | some call =>
        by_cases hto : call.toKrypton (.new config.controllers) = true
        · simp [hto]
        · simp [hto]
    · rcases List.mem_append.mp hp with hp | hp
      · exact h.succeeded p hp hto
      · -- the one call of this step has succeeded
        rw [Option.mem_toList, Option.map_eq_some_iff] at hp
        obtain ⟨call, hcall, rfl⟩ := hp
        exact hok call hcall hto

/-- Every run of the server broadcasts what it calls. -/
theorem Broadcasts.run
    (hrun : (serverTasks env config).run (serverInitial config devices) as = some st) :
    Broadcasts config (Lts.observe (serverTasks env config).exec serverCalls
      (serverInitial config devices) as) st := by
  apply Lts.run_history _ (.initial config devices) _ hrun
  intro as m a m' hm h ha
  rw [Lts.observe_concat _ hm]
  exact h.exec hm ha

/-- In every run of the server, with all its tasks in any order: what the Simple and the Krypton
controller have broadcast are the messages of the calls that were made of them, each once and in the
order of the calls, and no such call has failed. -/
theorem server_broadcasts (env : ServerEnv) (config : Config) (devices : Devices)
    (as : List (System.Act Unit TaskStart TaskLabel)) (st : System.State ServerState ServerTask)
    (h : (serverTasks env config).run (serverInitial config devices) as = some st) :
    let calls := Lts.observe (serverTasks env config).exec serverCalls
      (serverInitial config devices) as
    st.shared.simple.requestSender.sent =
        (calls.filter (·.2.toSimple (.new config.controllers))).map (·.2.message) ∧
      st.shared.krypton.requestSender.sent =
        (calls.filter (·.2.toKrypton (.new config.controllers))).map (·.2.message) ∧
      ∀ p ∈ calls, p.2.toSimple (.new config.controllers) = true ∨
        p.2.toKrypton (.new config.controllers) = true → p.2.outcome = .ok () := by
  have hbroadcasts := Broadcasts.run h
  exact ⟨hbroadcasts.simple, hbroadcasts.krypton, hbroadcasts.succeeded⟩

end Runs

end Devicectrl

namespace Devicectrl

open ServerTask.Demo in
/-- One client, one call, one message on the channel of its controller. -/
theorem server_broadcasts_demo :
    ∃ st, (serverTasks env config).run (serverInitial config devices) turnedOn = some st ∧
      Lts.observe (serverTasks env config).exec serverCalls (serverInitial config devices)
        turnedOn = [(2, .sendUpdate (Simple.Demo.device Simple.Demo.lamp)
          ⟨Simple.Demo.lamp, .power .on⟩ (.ok ()))] ∧
      st.shared.simple.requestSender.sent =
        ((Lts.observe (serverTasks env config).exec serverCalls (serverInitial config devices)
          turnedOn).filter (·.2.toSimple (.new config.controllers))).map (·.2.message) :=
  ⟨_, rfl, rfl, (server_broadcasts env config devices turnedOn _ rfl).1⟩

end Devicectrl
