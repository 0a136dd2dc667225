import Devicectrl.ForStd.RunHistory
import Devicectrl.Spec.ClientNotifications
import Devicectrl.Spec.DeviceTable
import Devicectrl.Spec.ServerRuns

/-!
# The ledger of notifications

What the server with all its tasks has stored, against its table and the hooks it has sent. Each
task processes one notification at a time, and all that it does with it are the two parts of
`process_update_notification`.

## Key results

- `ServerTask.Step.turn`: a part of a task is a part of its call, begins one, or has nothing to do
  with the states of devices
- `server_ledger`: the table has the states that were stored last, and each notification that was
  stored has been announced once, unless its call is about to
-/

namespace Devicectrl

variable {app app' : AppState}

/-! ## Calls in progress -/

/-- The notification a Simple handler is processing. -/
def Simple.Handler.activeCall : Simple.Handler → Option NotificationCall
  | .processing call => some call
  | _ => none

/-- The call of `process_update_notification` in progress. -/
def Simple.Conn.activeCall (c : Simple.Conn) : Option NotificationCall :=
  match c.stage with
  | .running s => s.handler.activeCall
  | _ => none

/-- The notification a Krypton connection is processing. -/
def Krypton.Stage.activeCall : Krypton.Stage → Option NotificationCall
  | .running _ (.processing call) _ => some call
  | _ => none

/-- The notification a listener is processing. -/
def StartListening.activeCall : StartListening → Option NotificationCall
  | .processing call => some call
  | _ => none

/-- The notification a task of the server is processing. -/
def ServerTask.activeCall : ServerTask → Option NotificationCall
  | .simple connection => connection.conn.activeCall
  | .krypton connection => connection.conn.stage.activeCall
  | .listener _ listening => listening.activeCall
  | _ => none

/-- What the call is to send the hook of. -/
def ServerTask.announcing (task : ServerTask) : List UpdateNotification :=
  (task.activeCall.map NotificationCall.hooks).getD []

/-- A part of a task goes on with its call, begins one, or leaves states and their hooks alone. -/
inductive CallTurn (app : AppState) :
    Option NotificationCall → AppState → Option NotificationCall → Prop
  | other {active app'} (hdevices : app'.devices = app.devices)
      (hsent : stateUpdates app'.hooks.sender.sent = stateUpdates app.hooks.sender.sent) :
      CallTurn app active app' active
  | begin {update} : CallTurn app none app (some (.store update))
  | part {call app' r} (h : call.Step app app' r) : CallTurn app (some call) app' r.getLeft?

theorem CallTurn.stay {active : Option NotificationCall} : CallTurn app active app active :=
  .other rfl rfl

/-! ## Simple connections -/

namespace Simple

variable {env : Env} {key : SigningKey}

/-- A write to the device processes no notification. -/
theorem Session.activeCall_startWrite (env : Env) (key : SigningKey) (m : DeviceBoundSimpleMessage)
    (s : Session) : (s.startWrite env key m).handler.activeCall = none := by
  obtain ⟨nonce, handler, he, -, hp, -⟩ := startWrite_frame env key m s
  rw [he]
  cases handler with
  | processing call => exact absurd rfl (hp call)
  | _ => rfl

/-- A step of a Simple session begins, goes on with or ends one notification at most. -/
theorem Session.Step.turn {socket socket' : Socket} {s s' : Session} {l : Session.Label}
    (h : Session.Step env key app socket s l app' socket' s') :
    CallTurn app s.handler.activeCall app' s'.handler.activeCall := by
  cases h with
  | hangUp hh hq hs =>
    -- The handler has returned
    rw [hh]
    exact .stay
  | refuse hh hq hm =>
    rw [hh, Session.fail, activeCall_startWrite]
    exact .stay
  | notified hh hq hm =>
    -- The notification leaves the queue and is taken up
    rw [hh]
    exact .begin
  | store hh hn =>
    -- The store is the first of its two parts
    rw [hh]
    exact .part (.store hn)
  | sendHook hh hn =>
    rw [hh]
    exact .part (.sendHook hn)
  | failStore hh hn =>
    rw [hh, Session.fail, activeCall_startWrite]
    exact .part (.failStore hn)
  | failHook hh hn =>
    rw [hh, Session.fail, activeCall_startWrite]
    exact .part (.failHook hn)
  | writeSome hh hn hlt =>
    rw [hh]
    exact .stay
  | writeAll hh hn heq =>
    rw [hh]
    exact .stay
  | writeError hh =>
    rw [hh]
    exact .stay
  -- The reader touches no notification
  | _ => exact .stay

/-- The same for a connection with its two halves. -/
theorem Conn.step_turn {c c' : Conn} {l : Conn.Label}
    (h : c.step env key app l = some (app', c')) : CallTurn app c.activeCall app' c'.activeCall := by
  cases Conn.step_cases h with
  | session hsession => exact (Session.step_cases hsession).turn
  | finish hreader hhandler =>
    simp only [Conn.activeCall, hhandler]
    exact .stay
  | _ => exact .stay

/-- A request that is received touches no notification. -/
theorem Conn.recvRequest_activeCall {c c' : Conn}
    {r : Except Broadcast.RecvError DeviceBoundSimpleMessage}
    (h : c.recvRequest env key r = some c') : c'.activeCall = c.activeCall := by
  obtain ⟨s, s', hs, hr, rfl⟩ := Conn.recvRequest_session h
  simp only [Conn.activeCall, hs]
  obtain ⟨hh, ⟨e, -, rfl⟩ | ⟨m, -, -, rfl⟩ | ⟨m, -, -, rfl⟩⟩ := Session.recvRequest_cases hr
  · rw [hh]
    rfl
  · rfl
  · rw [hh, Session.activeCall_startWrite]
    rfl

end Simple

/-! ## Krypton connections -/

namespace Krypton

variable {env : Env} {globalConfig : KryptonControllerGlobalConfig}
  {deviceCerts : AList fun _ : DeviceId => List UInt8}

namespace Conn

/-- A frame that is sent processes no notification. -/
theorem activeCall_startSend (env : Env) (m : DeviceBoundKryptonMessage) (d : DeviceId)
    (sent : List (DeviceBoundKryptonMessage × List UInt8)) :
    (startSend env m d sent).activeCall = none := by
  rw [startSend]
  split <;> rfl

/-- The hello processes no notification. -/
theorem activeCall_feed (env : Env) (globalConfig : KryptonControllerGlobalConfig)
    (deviceCerts : AList fun _ : DeviceId => List UInt8) (fed : List UInt8) :
    (feed env globalConfig deviceCerts fed).activeCall = none := by
  rw [feed]
  split
  · rfl
  · split
    · rfl
    · rfl
    · split
      · rfl
      · split <;> rfl

/-- The call that a frame begins. -/
theorem activeCall_recvFrame (env : Env) (devices : Devices) (d : DeviceId)
    (sent : List (DeviceBoundKryptonMessage × List UInt8))
    (result : Except Error (Option (List UInt8))) :
    (recvFrame env devices d sent result).activeCall = none ∨
      ∃ buf update, result = .ok (some buf) ∧
        handleMessage env buf d devices = .ok (some update) ∧
        (recvFrame env devices d sent result).activeCall = some (.store update) := by
  match result with
  | .error e => exact .inl rfl
  | .ok none => exact .inl rfl
  -- A frame is refused, passed over or a notification that is to be stored
  | .ok (some buf) =>
    simp only [recvFrame]
    split
    · exact .inl (activeCall_startSend env _ d sent)
    · exact .inl rfl
    · rename_i update hupdate
      exact .inr ⟨buf, update, rfl, hupdate, rfl⟩

/-- A step of a Krypton connection begins, goes on with or ends one notification at most. -/
theorem step_turn {c c' : Conn} {l : Label}
    (h : c.step env globalConfig deviceCerts app l = some (app', c')) :
    CallTurn app c.stage.activeCall app' c'.stage.activeCall := by
  cases step_cases h with
  | read hread =>
    rw [activeCall_feed]
    exact .stay
  | @tryNext socket d sent result =>
    rcases activeCall_recvFrame env app.devices d sent result with hnone | ⟨buf, update, -, -, hsome⟩
    · rw [hnone]
      exact .stay
    · rw [hsome]
      exact .begin
  | @process socket d call sent =>
    cases hp : processUpdateNotification app call with
    | mk app₁ r =>
      have hcall := processUpdateNotification_cases hp
      -- Whatever the connection sends next, the call is over once it has returned
      have hstage : (Conn.process env app d sent call).1 = app₁ ∧
          (Conn.process env app d sent call).2.activeCall = r.getLeft? := by
        simp only [Conn.process, hp]
        rcases r with call' | (e | ⟨⟩)
        · exact ⟨rfl, rfl⟩
        · exact ⟨rfl, activeCall_startSend env _ d sent⟩
        · exact ⟨rfl, rfl⟩
      rw [hstage.1, hstage.2]
      exact .part hcall
  | _ => exact .stay

/-- A request that is received touches no notification. -/
theorem recvRequest_activeCall {c c' : Conn}
    {r : Except Broadcast.RecvError DeviceBoundKryptonMessage}
    (h : c.recvRequest env r = some c') : c'.stage.activeCall = c.stage.activeCall := by
  unfold recvRequest at h
  split at h
  · rename_i d sent hstage
    rw [hstage]
    -- Only a connection that selects receives, and then it processes nothing
    split at h
    · cases h
      rfl
    · split at h
      · cases h
        rw [hstage]
      · cases h
        exact activeCall_startSend env _ d sent
  · cases h

end Conn

end Krypton

/-! ## Tasks -/

/-- A turn of a listener begins, goes on with or ends one notification at most. -/
theorem StartListening.step_turn {env : IncomingEnv} {controller : UdpController}
    {listener listener' : StartListening} {l : ListenLabel}
    (h : listener.step env controller app l = some (app', listener')) :
    CallTurn app listener.activeCall app' listener'.activeCall := by
  cases step_cases h with
  | accept hdecode => exact .begin
  | goOn hcall => exact .part hcall
  | done hcall => exact .part hcall
  | _ => exact .stay

/-- A task with no notification in hand leaves states and their hooks alone. -/
theorem CallTurn.of_changes {n n' : Nat} {requests : List UpdateRequest}
    (h : Changes app n requests [] app' n') : CallTurn app none app' none := by
  obtain ⟨act, hchange, -, hof⟩ := h
  refine .other (hchange.devices fun update he => ?_) ?_
  · exact absurd (hof _ he) List.not_mem_nil
  · rw [hchange.sent, stateUpdates_append]
    -- The hook of a state would be that of a notification in hand
    have hnone : stateUpdates ((act.map Task.hooks).getD []) = [] := by
      cases act with
      | none => rfl
      | some task =>
        have htask := hof task rfl
        cases task with
        | sendHook hook =>
          cases hook with
          | deviceStateUpdate update => exact absurd htask List.not_mem_nil
          | _ => rfl
        | _ => rfl
    rw [hnone, List.append_nil]

/-- A connection goes on with its call in what its `handle_conn` does. -/
theorem HandleConn.turn_activeCall {κ ν ℓ : Type} {H : HandleConn κ ν ℓ} {server server' : Server}
    {k k' : Connection κ} {l : HandleConn.Label ℓ} (activeCall : κ → Option NotificationCall)
    (hstep : ∀ {l app' conn}, H.step server.app k.conn l = some (app', conn) →
      CallTurn server.app (activeCall k.conn) app' (activeCall conn))
    (hrecv : ∀ {r conn}, H.recvRequest k.conn r = some conn → activeCall conn = activeCall k.conn)
    (h : H.turn server k l = some (server', k')) :
    CallTurn server.app (activeCall k.conn) server'.app (activeCall k'.conn) := by
  cases l with
  | own l =>
    obtain ⟨hown, -, -⟩ := HandleConn.turn_own h
    -- What a connection does on its own is told by `hstep`
    exact hstep hown
  | recvRequest r =>
    obtain ⟨-, hr, -, hserver⟩ := HandleConn.turn_recv h
    -- `leave` drops a receiver of requests, and that is of the controller
    rw [hserver, (H.leave_eq server k').2.1, hrecv hr]
    exact .stay

namespace ServerTask

variable {env : ServerEnv} {config : Config} {server server' : ServerState}
  {task task' : ServerTask} {l : TaskLabel}

/-- A step of any task of the server begins, goes on with or ends one notification at most. -/
theorem Step.turn (h : Step env config server task l server' task') :
    CallTurn server.app task.activeCall server'.app task'.activeCall := by
  have hchanges := h.changes
  cases h with
  | simple hconfig h =>
    exact HandleConn.turn_activeCall Simple.Conn.activeCall Simple.Conn.step_turn
      Simple.Conn.recvRequest_activeCall h
  | krypton hconfig hcerts h =>
    exact HandleConn.turn_activeCall (fun c : Krypton.Conn => c.stage.activeCall)
      Krypton.Conn.step_turn Krypton.Conn.recvRequest_activeCall h
  | listener h => exact StartListening.step_turn h
  | _ => exact .of_changes hchanges

end ServerTask

/-! ## What is stored -/

/-- What a turn has stored: the call goes on to the hook. -/
def storedBetween : Option NotificationCall → Option NotificationCall → List UpdateNotification
  | some (.store update), some (.sendHook _) => [update]
  | _, _ => []

namespace CallTurn

variable {active active' : Option NotificationCall} {devices : Devices}
  {stored : List UpdateNotification}

/-- The table follows what is stored. -/
theorem stores (h : CallTurn app active app' active') (hk : devices.Keyed)
    (hst : app.Stores devices stored) :
    app'.Stores devices (stored ++ storedBetween active active') := by
  apply hst.table hk
  cases h with
  -- Nothing is stored between two notifications
  | other hdevices hsent =>
    refine .inl ⟨hdevices, ?_⟩
    cases active with
    | none => exact List.append_nil _
    | some call => cases call <;> exact List.append_nil _
  | begin => exact .inl ⟨rfl, List.append_nil _⟩
  | part hcall =>
    cases hcall with
    | store hs => exact .inr ⟨_, hs, rfl⟩
    -- A store that fails names a device that is not there
    | failStore he => exact .inl ⟨rfl, List.append_nil _⟩
    | sendHook hs => exact .inl ⟨(sendNotificationHook_ok hs).1, List.append_nil _⟩
    | failHook he => exact .inl ⟨rfl, List.append_nil _⟩

/-- What is announced, or about to be, is what was before and what is stored. -/
theorem announces (h : CallTurn app active app' active') (hr : 0 < app.hooks.sender.receivers) :
    stateUpdates app'.hooks.sender.sent ++ (active'.map NotificationCall.hooks).getD [] =
      stateUpdates app.hooks.sender.sent ++ (active.map NotificationCall.hooks).getD [] ++
        storedBetween active active' := by
  cases h with
  | other hdevices hsent =>
    rw [hsent]
    cases active with
    | none => exact (List.append_nil _).symm
    | some call => cases call <;> exact (List.append_nil _).symm
  | begin => exact (List.append_nil _).symm
  | part hcall =>
    cases hcall with
    | @store update app' hs =>
      -- Its hook is about to be sent
      rw [storeNotification_hooks hs, List.append_assoc]
      rfl
    | failStore he => exact (List.append_nil _).symm
    | @sendHook update app' hs =>
      have hsent := (sendNotificationHook_change hs).sent
      rw [hsent, stateUpdates_append, List.append_assoc, List.append_assoc]
      rfl
    | failHook he =>
      -- The channel has a receiver
      obtain ⟨app', hs⟩ := sendNotificationHook_of_pos hr
      rw [he] at hs
      cases hs

end CallTurn

section Ledger

variable {env : ServerEnv} {config : Config} {devices : Devices}
  {st st' : System.State ServerState ServerTask}

/-- What an action of the server stores. -/
def serverStored (env : ServerEnv) (config : Config) (st : System.State ServerState ServerTask)
    (a : System.Act Unit TaskStart TaskLabel) : List UpdateNotification :=
  match a with
  | .step i _ =>
    match st.comps[i]?, ((serverTasks env config).exec st a).bind fun st' => st'.comps[i]? with
    | some task, some task' => storedBetween task.activeCall task'.activeCall
    | _, _ => []
  | .env _ => []
  | .spawn _ => []

/-- The table has what was stored last, and what was stored has been announced or is about to
be. -/
structure Ledger (devices : Devices) (stored : List UpdateNotification)
    (st : System.State ServerState ServerTask) : Prop where
  table : st.shared.app.Stores devices stored
  announced : (stateUpdates st.shared.app.hooks.sender.sent ++
    st.comps.flatMap ServerTask.announcing).Perm stored

variable {stored : List UpdateNotification}

/-- The tasks of `main` start with nothing to announce. -/
theorem announcing_mainTasks (config : Config) :
    (mainTasks config).flatMap ServerTask.announcing = [] := by
  rw [List.flatMap_eq_nil_iff]
  intro task htask
  cases mainTasks_cases htask <;> rfl

/-- An accepted task starts with nothing to announce. -/
theorem AcceptTask.announcing {server server' : ServerState} {start : TaskStart}
    {task : ServerTask} (h : AcceptTask env config server start server' task) :
    task.announcing = [] := by
  cases h <;> rfl

/-- The ledger of the server as `main` starts it. -/
theorem Ledger.initial (config : Config) (devices : Devices) :
    Ledger devices [] (serverInitial config devices) := by
  refine ⟨.initial devices _, ?_⟩
  show (([] : List UpdateNotification) ++ (mainTasks config).flatMap _).Perm []
  rw [announcing_mainTasks]
  exact .nil

/-- One action of the server keeps the ledger. -/
theorem Ledger.exec (h : Ledger devices stored st) (hk : devices.Keyed)
    (hs : Serves config devices st) {a : System.Act Unit TaskStart TaskLabel}
    (hexec : (serverTasks env config).exec st a = some st') :
    Ledger devices (stored ++ serverStored env config st a) st' := by
  cases a with
  | env e =>
    obtain ⟨henv, hcomps⟩ := System.exec_env hexec
    have happ : st'.shared.app = st.shared.app := by rw [collectDeviceCerts_cases henv]
    rw [serverStored, List.append_nil]
    exact ⟨by rw [happ]; exact h.table, by rw [happ, hcomps]; exact h.announced⟩
  | spawn start =>
    obtain ⟨task, hspawn, hcomps⟩ := System.exec_spawn hexec
    have haccept := acceptTask_cases hspawn
    rw [serverStored, List.append_nil]
    refine ⟨by rw [haccept.app_eq]; exact h.table, ?_⟩
    rw [haccept.app_eq, hcomps, List.flatMap_append, List.flatMap_singleton, haccept.announcing,
      List.append_nil]
    exact h.announced
  | step i l =>
    obtain ⟨task, task', hi, hstep, hcomps⟩ := System.exec_step hexec
    have hturn := (ServerTask.step_cases hstep).turn
    have hi' : st'.comps[i]? = some task' := by
      rw [hcomps, List.getElem?_set_self (List.getElem?_eq_some_iff.mp hi).1]
    have hstored : serverStored env config st (.step i l) =
        storedBetween task.activeCall task'.activeCall := by
      simp only [serverStored, hi, hexec, Option.bind_some, hi']
    rw [hstored]
    refine ⟨hturn.stores hk h.table, List.perm_iff_count.mpr fun update => ?_⟩
    have hannounced := h.announced.count_eq update
    have hr : 0 < st.shared.app.hooks.sender.receivers := by
      have hreceivers := hs.receivers
      omega
    -- The count of each notification changes for the task that goes on, and for no other
    have hturn' := congrArg (List.count update) (hturn.announces hr)
    have hsum := List.sum_map_set (fun task => task.announcing.count update) hi task'
    rw [hcomps]
    simp only [List.count_append, List.count_flatMap, ServerTask.announcing,
      Function.comp_def] at hannounced hturn' hsum ⊢
    omega

/-- Every run of the server keeps the ledger. -/
theorem Ledger.run (hk : devices.Keyed) {as : List (System.Act Unit TaskStart TaskLabel)}
    (h : (serverTasks env config).run (serverInitial config devices) as = some st) :
    Ledger devices (Lts.observe (serverTasks env config).exec (serverStored env config)
      (serverInitial config devices) as) st := by
  apply Lts.run_history _ (.initial config devices) _ h
  intro as m a m' hm hledger ha
  rw [Lts.observe_concat _ hm]
  exact hledger.exec hk (.run hm) ha

/-- In every run of the server, with all its tasks in any order: each device has the state that
was stored for it last, or is unknown when none was; and the notifications that were stored are
those whose hooks were sent, with those whose calls are about to, each as often. -/
theorem server_ledger (env : ServerEnv) (config : Config) (capacity : Nat) (devices : Devices)
    (hload : loadDevices capacity config.devices = some devices)
    (as : List (System.Act Unit TaskStart TaskLabel)) (st : System.State ServerState ServerTask)
    (h : (serverTasks env config).run (serverInitial config devices) as = some st) :
    let stored := Lts.observe (serverTasks env config).exec (serverStored env config)
      (serverInitial config devices) as
    (∀ id, st.shared.app.devices.lookup id =
        (config.devices.lookup id.name).map fun c =>
          { c.load id with state := ((lastUpdate id stored).map (·.newState)).getD .unknown }) ∧
      (stateUpdates st.shared.app.hooks.sender.sent ++
        st.comps.flatMap ServerTask.announcing).Perm stored := by
  have hledger := Ledger.run (loadDevices_keyed hload) h
  -- The table is loaded with unknown states, and set by what was stored
  refine ⟨fun id => ?_, hledger.announced⟩
  rw [hledger.table id, loadDevices_lookup hload, Option.map_map]
  rfl

end Ledger

open ServerTask.Demo in
/-- The lamp's report has been announced, and it is what has been stored. -/
theorem server_ledger_demo :
    ∃ st, (serverTasks env config).run (serverInitial config devices) reported = some st ∧
      stateUpdates st.shared.app.hooks.sender.sent = [Simple.Demo.report] ∧
      (stateUpdates st.shared.app.hooks.sender.sent ++
        st.comps.flatMap ServerTask.announcing).Perm
      (Lts.observe (serverTasks env config).exec (serverStored env config)
        (serverInitial config devices) reported) :=
  ⟨_, rfl, rfl, (server_ledger env config 64 devices rfl reported _ rfl).2⟩

end Devicectrl
