import Devicectrl.Spec.ServerResponses

/-!
# What a client is answered

The conversation with a client of the TCP or the WebSocket backend, among all tasks of the server:
its lines are handled one after the other, each with what `handle_line` writes and calls for it, and
then with a failure if it has failed. A line may get no reply, as a state query that succeeds does,
or two, as an update does that fails after it was received. Notifications come in between.

## Key results

- `Line.Progress.step`: what `handle_line` has written and called on its way
- `Converses.step`: what a session has answered
- `server_answers`: the answers of a session in a run of the server
-/

namespace Devicectrl

/-! ## The catalog -/

/-- The devices of the catalog. -/
def Devices.descriptors (devices : Devices) : List DeviceDescriptor :=
  devices.entries.map fun entry => entry.2.descriptor

/-- The descriptors are part of the configuration. -/
theorem Devices.descriptors_congr {devices devices' : Devices}
    (h : devices'.configs = devices.configs) : devices'.descriptors = devices.descriptors := by
  have hconfigs (devices : Devices) :
      devices.descriptors = devices.configs.map fun c => ⟨c.2.1, c.2.2.1⟩ := by
    rw [configs, List.map_map]
    rfl
  rw [hconfigs, hconfigs, h]

/-- The catalog of the configured devices and scenes. -/
def servedCatalog (sort : CatalogSort) (config : Config) (devices : Devices) :
    ClientBoundSocketMessage :=
  .catalog (sort.devices.sort devices.descriptors) (sort.scenes.sort config.scenes.keys)

/-- Whatever is stored meanwhile, the catalog is that of the configuration. -/
theorem catalog_eq_served {sort : CatalogSort} {config : Config} {devices : Devices}
    {app : AppState} (h : app.IsSetUp config devices) :
    catalog sort config.scenes app = servedCatalog sort config devices := by
  rw [servedCatalog, ← Devices.descriptors_congr h.configs]
  rfl

/-! ## One line -/

namespace Line

/-- What `handle_line` writes for a message, what it calls of the controllers and what it
returns. -/
inductive Answers (sort : CatalogSort) (config : Config) (devices : Devices) :
    ServerBoundSocketMessage → List ClientBoundSocketMessage → List ControllerCall →
      Except Error Unit → Prop
  | request {request made result} (h : request.Performed config devices made result) :
      Answers sort config devices (.updateRequest request) [.requestReceived] made result
  | query {deviceId made result}
      (h : deviceId.Dispatched config devices ["failed to find device"] .sendQuery made result) :
      Answers sort config devices (.stateQuery deviceId) [] made result
  | scene {sceneId made} (h : sceneId.Performed config devices made (.ok ())) :
      Answers sort config devices (.activateScene sceneId) [.requestReceived] made (.ok ())
  | sceneFailed {sceneId made e} (h : sceneId.Performed config devices made (.error e)) :
      Answers sort config devices (.activateScene sceneId) [] made (.error e)
  | catalog :
      Answers sort config devices .queryCatalog [servedCatalog sort config devices] [] (.ok ())
  | other {fields} : Answers sort config devices (.other fields) [.unimplemented] [] (.ok ())
  -- The `send` has failed
  | requestUnsent {request e} : Answers sort config devices (.updateRequest request) [] [] (.error e)
  | sceneUnsent {sceneId made e} (h : sceneId.Performed config devices made (.ok ())) :
      Answers sort config devices (.activateScene sceneId) [] made (.error e)
  | catalogUnsent {e} : Answers sort config devices .queryCatalog [] [] (.error e)
  | otherUnsent {fields e} : Answers sort config devices (.other fields) [] [] (.error e)

/-- Where `handle_line` is with a message, and what it has written and called for it. -/
inductive Progress (sort : CatalogSort) (config : Config) (devices : Devices) :
    ServerBoundSocketMessage → Line → List ClientBoundSocketMessage → List ControllerCall → Prop
  | received {request} : Progress sort config devices (.updateRequest request)
      (.sending .requestReceived (some request)) [] []
  | requesting {request call made} (h : call.Progress config devices request made) :
      Progress sort config devices (.updateRequest request) (.requesting call) [.requestReceived]
        made
  | querying {deviceId} :
      Progress sort config devices (.stateQuery deviceId) (.querying deviceId) [] []
  | dispatching {deviceId} {device : Device}
      (h : (devices.lookup deviceId).map Device.config = some device.config) :
      Progress sort config devices (.stateQuery deviceId) (.dispatching device) [] []
  | activating {sceneId call made} (h : call.Progress config devices sceneId made) :
      Progress sort config devices (.activateScene sceneId) (.activating call) [] made
  | activated {sceneId made} (h : sceneId.Performed config devices made (.ok ())) :
      Progress sort config devices (.activateScene sceneId) (.sending .requestReceived none) []
        made
  | cataloguing : Progress sort config devices .queryCatalog .cataloguing [] []
  | catalogued : Progress sort config devices .queryCatalog
      (.sending (servedCatalog sort config devices) none) [] []
  | other {fields} :
      Progress sort config devices (.other fields) (.sending .unimplemented none) [] []
  | returned {message written made result}
      (h : Answers sort config devices message written made result) :
      Progress sort config devices message (.returned result) written made

namespace Progress

variable {env : SocketEnv} {config : Config} {devices : Devices} {app app' : AppState}
  {message : ServerBoundSocketMessage} {line line' : Line} {l : LineLabel}
  {written : List ClientBoundSocketMessage} {made : List ControllerCall}

/-- Nothing has been done for a message that was just decoded. -/
theorem handle (sort : CatalogSort) (config : Config) (devices : Devices)
    (message : ServerBoundSocketMessage) :
    Progress sort config devices message (Line.handle message) [] [] := by
  cases message with
  | updateRequest request => exact .received
  | stateQuery deviceId => exact .querying
  | activateScene sceneId => exact .activating .begin
  | queryCatalog => exact .cataloguing
  | other fields => exact .other

/-- An update request goes on until it returns. -/
theorem afterRequest {sort : CatalogSort} {request : UpdateRequest} {call : RequestCall}
    (h : call.Progress config devices request made) :
    Progress sort config devices (.updateRequest request) (Line.afterRequest call)
      [.requestReceived] made := by
  cases h with
  | begin => exact .requesting .begin
  | dispatching hdevice => exact .requesting (.dispatching hdevice)
  | returned hmade => exact .returned (.request hmade)

/-- A scene goes on until it returns, and is then acknowledged. -/
theorem afterScene {sort : CatalogSort} {sceneId : SceneId} {call : SceneCall}
    (h : call.Progress config devices sceneId made) :
    Progress sort config devices (.activateScene sceneId) (Line.afterScene call) [] made := by
  cases h with
  | begin => exact .activating .begin
  | joining hscene hmembers hmade => exact .activating (.joining hscene hmembers hmade)
  | @returned _ result hmade =>
    rcases result with e | ⟨⟩
    · exact .returned (.sceneFailed hmade)
    · exact .activated hmade

/-- A part of `handle_line`, with what it writes and calls. -/
theorem step (h : Progress env.sort config devices message line written made)
    (happ : app.IsSetUp config devices)
    (hstep : line.step env config.scenes app l = some (app', line')) :
    Progress env.sort config devices message line' (written ++ (line.writes l).toList)
      (made ++ callsMade app (line.controllerCall? l)) := by
  cases h with
  | received =>
    cases step_cases hstep with
    | unsent => exact .returned .requestUnsent
    | acknowledged => exact .requesting .begin
  | requesting hcall =>
    cases step_cases hstep with
    | request hp => exact afterRequest (hcall.step happ (RequestCall.step_cases hp))
  | activating hcall =>
    cases step_cases hstep with
    | scene hp => exact afterScene (hcall.step happ (SceneCall.step_cases hp))
  | activated hmade =>
    -- The scene is over, and sending its acknowledgement calls no controller
    rw [show callsMade app _ = [] from rfl, List.append_nil]
    cases step_cases hstep with
    | unsent => exact .returned (.sceneUnsent hmade)
    | answered => exact .returned (.scene hmade)
  | @querying deviceId =>
    have hlookup := happ.lookup deviceId
    cases step_cases hstep with
    | unknown hnone =>
      rw [hnone, Option.map_none, eq_comm, Option.map_eq_none_iff] at hlookup
      exact .returned (.query (.missing hlookup))
    | found hdevice =>
      rw [hdevice, Option.map_some] at hlookup
      exact .dispatching hlookup.symm
  | dispatching hdevice =>
    cases step_cases hstep with
    | @dispatch _ outcome =>
      exact .returned (.query (.of_dispatch happ.controllers hdevice outcome rfl))
  | cataloguing =>
    cases step_cases hstep with
    | catalog =>
      rw [catalog_eq_served happ]
      exact .catalogued
  | catalogued =>
    cases step_cases hstep with
    | unsent => exact .returned .catalogUnsent
    | answered => exact .returned .catalog
  | other =>
    cases step_cases hstep with
    | unsent => exact .returned .otherUnsent
    | answered => exact .returned .other
  | returned hmade => cases hstep

end Progress

end Line

/-! ## Sessions -/

/-- What is written in answer to a line. -/
def Outgoing.reply? : Outgoing → Option ClientBoundSocketMessage
  | .message (.updateNotification _) => none
  | .message m => some m
  | .pong => none

/-- What a session has written, without notifications and pongs. -/
def ClientSession.replies (s : ClientSession) : List ClientBoundSocketMessage :=
  s.written.filterMap Outgoing.reply?

/-- What a session writes in answer to a line, and what it calls for it. -/
inductive Transport.Answers (env : SocketEnv) (config : Config) (devices : Devices)
    (transport : Transport) :
    String → List ClientBoundSocketMessage → List ControllerCall → Prop
  | malformed {text e} (h : env.fromStr text = .error e) :
      Answers env config devices transport text [.failure (transport.context :: e)] []
  | handled {text message written made} (h : env.fromStr text = .ok message)
      (ha : Line.Answers env.sort config devices message written made (.ok ())) :
      Answers env config devices transport text written made
  | failed {text message written made e} (h : env.fromStr text = .ok message)
      (ha : Line.Answers env.sort config devices message written made (.error e)) :
      Answers env config devices transport text
        (written ++ [.failure (transport.context :: e)]) made

/-- Lines, with what is written and called for them, one after the other. -/
inductive Transport.Answered (env : SocketEnv) (config : Config) (devices : Devices)
    (transport : Transport) :
    List String → List ClientBoundSocketMessage → List ControllerCall → Prop
  | nil : Answered env config devices transport [] [] []
  | concat {texts replies made text answer called}
      (h : Answered env config devices transport texts replies made)
      (ha : transport.Answers env config devices text answer called) :
      Answered env config devices transport (texts ++ [text]) (replies ++ answer) (made ++ called)

/-- The last line is still being handled. -/
inductive Transport.Handling (env : SocketEnv) (config : Config) (devices : Devices)
    (transport : Transport) :
    Line → List String → List ClientBoundSocketMessage → List ControllerCall → Prop
  | intro {line texts replies made text message written called}
      (h : transport.Answered env config devices texts replies made)
      (hmessage : env.fromStr text = .ok message)
      (hline : line.Progress env.sort config devices message written called) :
      Handling env config devices transport line (texts ++ [text]) (replies ++ written)
        (made ++ called)

/-- The conversation of a session that has read these lines and made these calls, by where it
is. -/
def Converses (env : SocketEnv) (config : Config) (devices : Devices) (transport : Transport)
    (texts : List String) (replies : List ClientBoundSocketMessage) (made : List ControllerCall) :
    SessionStage → Prop
  | .accepting => texts = [] ∧ replies = [] ∧ made = []
  | .selecting _ => transport.Answered env config devices texts replies made
  | .handling line _ => transport.Handling env config devices line texts replies made
  | .sending m _ => transport.Answered env config devices texts (replies ++ m.reply?.toList) made
  | .returned _ => ∃ rest, transport.Answered env config devices texts (replies ++ rest) made

/-- What a session reads: the text of a line. -/
def SessionLabel.texts : SessionLabel → List String
  | .tryNext transport (.ok item) =>
    match transport.turn item with
    | .line text => [text]
    | _ => []
  | _ => []

namespace Converses

variable {env : SocketEnv} {config : Config} {devices : Devices} {app app' : AppState}
  {transport : Transport} {texts : List String} {replies : List ClientBoundSocketMessage}
  {made : List ControllerCall} {rx : Broadcast.Receiver}

/-- A part of `handle_line` is over, with what has been written and called for its line. -/
theorem afterLine {text : String} {message : ServerBoundSocketMessage} {line : Line}
    {written : List ClientBoundSocketMessage} {called : List ControllerCall}
    (h : transport.Answered env config devices texts replies made)
    (hmessage : env.fromStr text = .ok message)
    (hline : line.Progress env.sort config devices message written called) :
    Converses env config devices transport (texts ++ [text]) (replies ++ written) (made ++ called)
      (ClientSession.afterLine transport rx line) := by
  -- Once the line has returned, an error is answered as the last reply to it
  cases line with
  | returned result =>
    cases hline with
    | returned ha =>
      rcases result with e | ⟨⟩
      · show transport.Answered env config devices _ (replies ++ written ++ [_]) _
        rw [List.append_assoc]
        exact h.concat (.failed hmessage ha)
      · exact h.concat (.handled hmessage ha)
  | _ => exact .intro h hmessage hline

/-- A line is read. -/
theorem start (h : transport.Answered env config devices texts replies made) (text : String) :
    Converses env config devices transport (texts ++ [text]) replies made
      (ClientSession.afterLine transport rx (.start env text)) := by
  unfold Line.start
  split
  · rename_i e hmessage
    have hnext := h.concat (.malformed hmessage)
    rwa [List.append_nil] at hnext
  · rename_i message hmessage
    have hline : Converses env config devices transport (texts ++ [text]) (replies ++ [])
        (made ++ []) (ClientSession.afterLine transport rx (Line.handle message)) :=
      afterLine h hmessage (.handle env.sort config devices message)
    rwa [List.append_nil, List.append_nil] at hline

/-- Between two lines all is answered, but for what is being sent. -/
theorem exists_rest {stage : SessionStage}
    (h : Converses env config devices transport texts replies made stage)
    (hstage : ∀ line rx, stage ≠ .handling line rx) :
    ∃ rest, transport.Answered env config devices texts (replies ++ rest) made := by
  cases stage with
  | accepting =>
    obtain ⟨rfl, rfl, rfl⟩ := h
    exact ⟨[], .nil⟩
  | selecting rx => exact ⟨[], by rwa [List.append_nil]⟩
  | handling line rx => exact absurd rfl (hstage line rx)
  | sending m rx => exact ⟨_, h⟩
  | returned result => exact h

/-- What is no reply is sent in between. -/
theorem sending {m : Outgoing} (hm : m.reply? = none)
    (h : transport.Answered env config devices texts replies made) :
    Converses env config devices transport texts replies made (.sending m rx) := by
  show transport.Answered env config devices texts (replies ++ m.reply?.toList) made
  rwa [hm, Option.toList_none, List.append_nil]

end Converses

/-- What `handle_line` writes is a reply. -/
theorem Line.Progress.replies {sort : CatalogSort} {config : Config} {devices : Devices}
    {message : ServerBoundSocketMessage} {line : Line} {l : LineLabel}
    {written : List ClientBoundSocketMessage} {made : List ControllerCall}
    (h : line.Progress sort config devices message written made) :
    ((line.writes l).map Outgoing.message).toList.filterMap Outgoing.reply? =
      (line.writes l).toList := by
  cases h with
  | received | activated | catalogued | other =>
    cases l with
    | sent result => rcases result with e | ⟨⟩ <;> rfl
    | _ => rfl
  | _ => rfl

namespace ClientSession

variable {env : SocketEnv} {config : Config} {devices : Devices} {app app' : AppState}
  {s s' : ClientSession} {texts : List String} {made : List ControllerCall} {l : SessionLabel}

/-- An item of the stream: a line, or nothing that is answered. -/
theorem tryNext_texts {transport : Transport} {item : Except Error (Option transport.Frame)}
    (h : s.step env config.scenes app (.tryNext transport item) = some (app', s')) :
    ∃ rx, s.stage = .selecting rx ∧ s'.transport = s.transport ∧ s'.written = s.written ∧
      ((∃ text, (SessionLabel.tryNext transport item).texts = [text] ∧
          s'.stage = afterLine s.transport rx (.start env text)) ∨
        ((SessionLabel.tryNext transport item).texts = [] ∧
          (s'.stage = .selecting rx ∨ s'.stage = .sending .pong rx ∨
            ∃ result, s'.stage = .returned result))) := by
  obtain ⟨rfl, rx, hs⟩ := step_tryNext h
  refine ⟨rx, hs, ?_⟩
  simp only [step, hs, if_true] at h
  -- A failed read ends the session, and asks for nothing
  rcases item with e | item
  · cases h
    exact ⟨rfl, rfl, .inr ⟨rfl, .inr (.inr ⟨_, rfl⟩)⟩⟩
  · simp only [Except.map, SessionLabel.texts] at h ⊢
    -- What the transport makes of the frame
    cases hturn : s.transport.turn item with
    | finish =>
      rw [hturn] at h
      cases h
      exact ⟨rfl, rfl, .inr ⟨rfl, .inr (.inr ⟨_, rfl⟩)⟩⟩
    | line text =>
      rw [hturn] at h
      cases h
      exact ⟨rfl, rfl, .inl ⟨text, rfl, rfl⟩⟩
    | pong =>
      rw [hturn] at h
      cases h
      exact ⟨rfl, rfl, .inr ⟨rfl, .inr (.inl rfl)⟩⟩
    | ignore =>
      rw [hturn] at h
      cases h
      exact ⟨rfl, rfl, .inr ⟨rfl, .inl rfl⟩⟩

/-- What is written last is replied last. -/
theorem replies_append (s : ClientSession) (stage : SessionStage) (ms : List Outgoing) :
    replies { s with stage, written := s.written ++ ms } =
      s.replies ++ ms.filterMap Outgoing.reply? :=
  List.filterMap_append

/-- A part of a session goes on with the conversation. -/
theorem step_converses
    (h : Converses env config devices s.transport texts s.replies made s.stage)
    (happ : app.IsSetUp config devices)
    (hstep : s.step env config.scenes app l = some (app', s')) :
    Converses env config devices s'.transport (texts ++ l.texts) s'.replies
      (made ++ callsMade app (s.controllerCall? l)) s'.stage := by
  -- By what the session awaits: a frame, its connection, a hook, its line or a send
  cases l with
  | tryNext transport item =>
    obtain ⟨rx, hs, htransport, hwritten, hnext⟩ := tryNext_texts hstep
    have hreplies : s'.replies = s.replies := congrArg (List.filterMap Outgoing.reply?) hwritten
    rw [hs] at h
    rw [htransport, hreplies, show s.controllerCall? _ = none from rfl, callsMade_none,
      List.append_nil made]
    -- A text begins a line, and any other frame leaves what was asked for
    rcases hnext with ⟨text, htexts, hstage⟩ | ⟨htexts, hstage⟩
    · rw [htexts, hstage]
      exact Converses.start h text
    · rw [htexts, List.append_nil]
      rcases hstage with hstage | hstage | ⟨result, hstage⟩
      · rw [hstage]
        exact h
      · rw [hstage]
        exact Converses.sending rfl h
      · rw [hstage]
        -- The session has ended, with some of the answer unwritten perhaps
        exact Converses.exists_rest h (by simp)
  | accept result =>
    rw [show (SessionLabel.accept result).texts = [] from rfl, List.append_nil,
      show s.controllerCall? _ = none from rfl, callsMade_none, List.append_nil]
    cases step_cases hstep with
    | refuse hs => exact h.exists_rest (by simp [hs])
    | subscribe hs =>
      -- The first thing a session does is to ask for nothing
      rw [hs] at h
      obtain ⟨rfl, hreplies, rfl⟩ := h
      have hnil : s.transport.Answered env config devices [] [] [] := .nil
      rw [← hreplies] at hnil
      exact hnil
  | recv =>
    rw [show SessionLabel.recv.texts = [] from rfl, List.append_nil,
      show s.controllerCall? _ = none from rfl, callsMade_none, List.append_nil]
    cases step_cases hstep with
    | lag hs hr => exact h.exists_rest (by simp [hs])
    -- A notification is no reply
    | notify hs hr =>
      rw [hs] at h
      exact Converses.sending rfl h
    | skip hs hr hk =>
      rw [hs] at h
      exact h
  | line l =>
    rw [show (SessionLabel.line l).texts = [] from rfl, List.append_nil]
    cases step_cases hstep with
    | @handle line rx _ _ line' hs hl =>
      -- The call of the line is that of the session
      have hcall : s.controllerCall? (.line l) = line.controllerCall? l := by
        simp only [controllerCall?, hs]
      rw [hs] at h
      generalize hreplies : s.replies = replies at h
      obtain ⟨h₀, hmessage, hline⟩ := h
      rw [replies_append, hreplies, hline.replies, List.append_assoc, hcall, List.append_assoc]
      exact Converses.afterLine h₀ hmessage (hline.step happ hl)
  | sent result =>
    rw [show (SessionLabel.sent result).texts = [] from rfl, List.append_nil,
      show s.controllerCall? _ = none from rfl, callsMade_none, List.append_nil]
    cases step_cases hstep with
    | fail hs => exact h.exists_rest (by simp [hs])
    | @sent m rx hs =>
      rw [hs] at h
      -- What has been sent is a reply, or a notification or a pong
      have hm : [m].filterMap Outgoing.reply? = m.reply?.toList := by
        cases hr : m.reply? <;> simp [hr]
      rw [replies_append, hm]
      exact h

end ClientSession

/-! ## Runs -/

/-- The lines that a part of a task reads, and the calls it makes. -/
def ServerTask.talks (server : ServerState) (task : ServerTask) :
    TaskLabel → List (String ⊕ ControllerCall)
  | .client l => l.texts.map .inl ++ (task.made server (.client l)).map .inr
  | _ => []

section Runs

variable {env : ServerEnv} {config : Config} {devices : Devices} {i : Nat}
  {st : System.State ServerState ServerTask}
  {as : List (System.Act Unit TaskStart TaskLabel)} {log : List (String ⊕ ControllerCall)}

/-- The conversation of a task with its client, if it has one. -/
def ServerTask.Converses (env : ServerEnv) (config : Config) (devices : Devices)
    (log : List (String ⊕ ControllerCall)) : ServerTask → Prop
  | .client session =>
    Devicectrl.Converses env.socket config devices session.transport
      (log.filterMap Sum.getLeft?) session.replies (log.filterMap Sum.getRight?) session.stage
  | _ => True

/-- One part of a task keeps the account of its conversation. -/
theorem ServerTask.Converses.step {task task' : ServerTask} {l : TaskLabel} {server : ServerState}
    (h : task.Converses env config devices log)
    (hrun : (serverTasks env config).run (serverInitial config devices) as = some st)
    (hstep : ServerTask.Step env config st.shared task l server task') :
    task'.Converses env config devices (log ++ task.talks st.shared l) := by
  have happ := (Serves.run hrun).isSetUp
  cases hstep with
  | @client session l called app' session' hcall hsession =>
    have hnext := ClientSession.step_converses h happ hsession
    simpa [ServerTask.Converses, ServerTask.talks, ServerTask.made, ServerTask.controllerCall?,
      List.filterMap_append, List.filterMap_map, Function.comp_def] using hnext
  | _ => exact trivial

/-- In every run each session has conversed as it should. -/
theorem ServerTask.Converses.run
    (hrun : (serverTasks env config).run (serverInitial config devices) as = some st)
    {task : ServerTask} (hi : st.comps[i]? = some task) :
    task.Converses env config devices (Lts.observe (serverTasks env config).exec
      (System.shows ServerTask.talks i) (serverInitial config devices) as) := by
  refine System.run_shows (fun task htask => ?_) (fun _ hspawn => ?_)
    (fun hm _ hstep h => h.step hm (ServerTask.step_cases hstep)) hrun hi
  · cases mainTasks_cases (List.mem_of_getElem? htask) <;> exact trivial
  · cases acceptTask_cases hspawn with
    | client => exact ⟨rfl, rfl, rfl⟩
    | _ => exact trivial

/-- In every run of the server, with all its tasks in any order: what a client of the TCP or the
WebSocket backend is sent, notifications and pongs apart, and the calls that the session makes of
the controllers, are those of the lines it has sent, one line after the other: to each belong the
replies and the calls that `Transport.Answers` has for it, and to the last one what `handle_line`
has written and called so far. The catalog is always that of the configured devices and scenes. -/
theorem server_answers (env : ServerEnv) (config : Config) (devices : Devices)
    (as : List (System.Act Unit TaskStart TaskLabel)) (st : System.State ServerState ServerTask)
    (h : (serverTasks env config).run (serverInitial config devices) as = some st)
    (i : Nat) (session : ClientSession) (hi : st.comps[i]? = some (.client session)) :
    let log := Lts.observe (serverTasks env config).exec (System.shows ServerTask.talks i)
      (serverInitial config devices) as
    let texts := log.filterMap Sum.getLeft?
    let made := log.filterMap Sum.getRight?
    (∃ line rx, session.stage = .handling line rx ∧
      session.transport.Handling env.socket config devices line texts session.replies made) ∨
    ∃ rest, session.transport.Answered env.socket config devices texts (session.replies ++ rest)
        made ∧
      ∀ rx, session.stage = .selecting rx → rest = [] := by
  have hconverses := ServerTask.Converses.run h hi
  simp only [ServerTask.Converses] at hconverses
  -- A line is in progress, or everything before it is answered
  cases hstage : session.stage with
  | handling line rx =>
    rw [hstage] at hconverses
    exact .inl ⟨line, rx, rfl, hconverses⟩
  | selecting rx =>
    rw [hstage] at hconverses
    refine .inr ⟨[], ?_, fun _ _ => rfl⟩
    rw [List.append_nil]
    exact hconverses
  -- The session is sending or has ended, with a rest that it owes
  | _ =>
    rw [hstage] at hconverses
    obtain ⟨rest, hrest⟩ := hconverses.exists_rest (by simp)
    exact .inr ⟨rest, hrest, by simp⟩

end Runs

end Devicectrl

namespace Devicectrl

/-- The client that was notified turns the lamp on. -/
def ServerTask.Demo.talked : List (System.Act Unit TaskStart TaskLabel) :=
  reported ++ [.step 2 (.client (.tryNext .tcp (.ok (some "on")))),
    .step 2 (.client (.line (.sent (.ok ())))), .step 2 (.client (.line (.request .poll))),
    .step 2 (.client (.line (.request (.dispatched (.ok ())))))]

open ServerTask.Demo in
/-- The client of the run is answered once for its one line. -/
theorem server_answers_demo :
    ∃ (st : System.State ServerState ServerTask) (session : ClientSession)
        (log : List (String ⊕ ControllerCall)),
      (serverTasks env config).run (serverInitial config devices) talked = some st ∧
      st.comps[2]? = some (.client session) ∧ session.written.length = 2 ∧
      log.filterMap Sum.getLeft? = ["on"] ∧
      (log.filterMap Sum.getRight?).map ControllerCall.outcome = [.ok ()] ∧
      session.transport.Answered env.socket config devices ["on"] [.requestReceived]
        (log.filterMap Sum.getRight?) := by
  -- The run is evaluated, and the theorem says what it means
  have hrun : ∃ (st : System.State ServerState ServerTask) (session : ClientSession)
        (rx : Broadcast.Receiver),
      (serverTasks env config).run (serverInitial config devices) talked = some st ∧
      st.comps[2]? = some (.client session) ∧ session.written.length = 2 ∧
      session.replies = [.requestReceived] ∧ session.stage = .selecting rx :=
    ⟨_, _, _, rfl, rfl, rfl, rfl, rfl⟩
  obtain ⟨st, session, rx, hst, hi, hwritten, hreplies, hstage⟩ := hrun
  refine ⟨st, session, Lts.observe (serverTasks env config).exec
    (System.shows ServerTask.talks 2) (serverInitial config devices) talked, hst, hi, hwritten,
    rfl, rfl, ?_⟩
  rcases server_answers env config devices talked st hst 2 session hi with
    ⟨line, rx', hline, -⟩ | ⟨rest, hanswered, hrest⟩
  · rw [hstage] at hline
    cases hline
  · rw [hrest rx hstage, List.append_nil, hreplies] at hanswered
    exact hanswered

end Devicectrl
