import Devicectrl.ForStd.System
import Devicectrl.Native.ServerBackends

/-!
# TCP and WebSocket backends

`handle_conn` of `server_backends/tcp.rs` and `handle_tcp_conn` of `server_backends/websocket.rs`
with the `handle_line` that both call, cut where they await. The two loops differ in the frames
they receive and in the context of their errors; `Transport` says how.

Either of two ready futures may win a `select`, and the one that loses is dropped: a receive that
has not ended leaves its receiver where it was. `send` encodes a message and writes it.
-/

namespace Devicectrl

/-- What the two backends call of `serde_json`, and the sorts of the catalog. -/
structure SocketEnv where
  fromStr : String → Except Error ServerBoundSocketMessage
  sort : CatalogSort

/-- `Controllers::dispatch_query_state`: `sendQuery` is what the device's own controller
answers. -/
def Controllers.dispatchQueryState (app : AppState) (device : Device)
    (sendQuery : Except Error Unit) : Except Error Unit :=
  Controllers.dispatchUpdate app device sendQuery

/-! ## One line -/

/-- `handle_line`, by where it awaits. After `sending` comes the update request, if there is
one. -/
inductive Line where
  | sending (message : ClientBoundSocketMessage) (next : Option UpdateRequest)
  | requesting (call : RequestCall)
  | activating (call : SceneCall)
  | querying (deviceId : DeviceId)
  | dispatching (device : Device)
  | cataloguing
  | returned (result : Except Error Unit)
  deriving DecidableEq

/-- What `handle_line` awaits ends. -/
inductive LineLabel where
  | poll
  | request (l : RequestLabel)
  | scene (l : SceneLabel)
  /-- The device's own controller answers a query. -/
  | dispatched (outcome : Except Error Unit)
  /-- `send` ends. -/
  | sent (result : Except Error Unit)
  deriving DecidableEq

namespace Line

/-- The `match` of `handle_line`, up to its first await. -/
def handle : ServerBoundSocketMessage → Line
  -- The request is acknowledged before it is processed
  | .updateRequest request => .sending .requestReceived (some request)
  | .stateQuery deviceId => .querying deviceId
  | .activateScene sceneId => .activating (.begin sceneId)
  | .queryCatalog => .cataloguing
  | .other _ => .sending .unimplemented none

/-- `handle_line` up to its first await. -/
def start (env : SocketEnv) (text : String) : Line :=
  match env.fromStr text with
  | .error e => .returned (.error e)
  | .ok message => handle message

/-- `process_update_request(..).await?` -/
def afterRequest : RequestCall → Line
  | .returned result => .returned result
  | call => .requesting call

/-- `process_scene_activate(..).await?`, and then the acknowledgement. -/
def afterScene : SceneCall → Line
  | .returned (.error e) => .returned (.error e)
  | .returned (.ok ()) => .sending .requestReceived none
  | call => .activating call

/-- One part of `handle_line`. -/
def step (env : SocketEnv) (scenes : ScenesConfig) (app : AppState) :
    Line → LineLabel → Option (AppState × Line)
  | .sending _ next, .sent result =>
    match result, next with
    | .error e, _ => some (app, .returned (.error e))
    -- The request follows its `RequestReceived`
    | .ok (), some request => some (app, .requesting (.begin request))
    | .ok (), none => some (app, .returned (.ok ()))
  | .requesting call, .request l => (call.step app l).map fun p => (p.1, afterRequest p.2)
  | .activating call, .scene l => (call.step scenes app l).map fun p => (p.1, afterScene p.2)
  | .querying deviceId, .poll =>
    -- `dispatch_query_state` looks the device up when it is polled, not when the line came in
    match app.devices.lookup deviceId with
    | none => some (app, .returned (.error ["failed to find device"]))
    | some device => some (app, .dispatching device)
  | .dispatching device, .dispatched outcome =>
    -- A state is answered to nobody: the device reports it later
    some (app, .returned (Controllers.dispatchQueryState app device outcome))
  | .cataloguing, .poll => some (app, .sending (catalog env.sort scenes app) none)
  | _, _ => none

/-- The message that a step of `handle_line` has written. -/
def writes : Line → LineLabel → Option ClientBoundSocketMessage
  | .sending message _, .sent (.ok ()) => some message
  | _, _ => none

end Line

/-! ## Frames -/

/-- The two backends that hold a session with a client. -/
inductive Transport where
  | tcp
  | websocket
  deriving DecidableEq

/-- `tungstenite::Message`. -/
inductive Message where
  | text (text : String)
  | binary (bytes : List UInt8)
  | ping (bytes : List UInt8)
  | pong (bytes : List UInt8)
  | close (bytes : List UInt8)
  | frame (bytes : List UInt8)
  deriving DecidableEq, Repr

/-- What the loop does with an item of its stream. -/
inductive Turn where
  | finish
  | line (text : String)
  | pong
  | ignore
  deriving DecidableEq

/-- The `Either::Left` of `handle_conn`. -/
def Tcp.turn : Option String → Turn
  | none => .finish
  | some line => .line line

/-- The `Either::Left` of `handle_tcp_conn`. -/
def Websocket.turn : Option Message → Turn
  | none => .finish
  | some (.close _) => .finish
  | some (.ping _) => .pong
  | some (.text text) => .line text
  | some _ => .ignore

namespace Transport

/-- What the stream of a backend is made of. -/
abbrev Frame : Transport → Type
  | .tcp => String
  | .websocket => Message

/-- What the loop of a backend does with an item. -/
def turn : (transport : Transport) → Option transport.Frame → Turn
  | .tcp => Tcp.turn
  | .websocket => Websocket.turn

/-- The context of a failed `handle_line`. -/
def context : Transport → String
  | .tcp => "failed to handle tcp line"
  | .websocket => "failed to handle websocket message"

end Transport

/-! ## Sessions -/

/-- What a session writes: a message, or the empty `Pong` of the WebSocket loop. -/
inductive Outgoing where
  | message (message : ClientBoundSocketMessage)
  | pong
  deriving DecidableEq

/-- Where a session is. Once the handshakes are done it has a receiver of its own. -/
inductive SessionStage where
  | accepting
  | selecting (notifications : Broadcast.Receiver)
  | handling (line : Line) (notifications : Broadcast.Receiver)
  | sending (message : Outgoing) (notifications : Broadcast.Receiver)
  | returned (result : Except Error Unit)
  deriving DecidableEq

/-- A call of `handle_conn` or `handle_tcp_conn`. `since` is the number of hooks that had been
sent when it subscribed and `written` what it has written; no step reads them. -/
structure ClientSession where
  transport : Transport
  stage : SessionStage
  since : Nat
  written : List Outgoing
  deriving DecidableEq

/-- What a session awaits ends. -/
inductive SessionLabel where
  /-- The handshakes end. -/
  | accept (result : Except Error Unit)
  /-- `try_next` wins the select. -/
  | tryNext (transport : Transport) (item : Except Error (Option transport.Frame))
  /-- `recv` wins the select. -/
  | recv
  | line (l : LineLabel)
  /-- A `send` of the loop itself ends. -/
  | sent (result : Except Error Unit)

namespace ClientSession

/-- A connection was accepted, and its handshakes have begun. -/
def start (transport : Transport) : ClientSession :=
  ⟨transport, .accepting, 0, []⟩

/-- The session returns and drops its receiver. -/
def leave (app : AppState) (s : ClientSession) (result : Except Error Unit) :
    AppState × ClientSession :=
  ({ app with hooks := { app.hooks with sender := app.hooks.sender.dropReceiver } },
    { s with stage := .returned result })

/-- The loop after a part of `handle_line`. -/
def afterLine (transport : Transport) (notifications : Broadcast.Receiver) : Line → SessionStage
  | .returned (.ok ()) => .selecting notifications
  | .returned (.error e) =>
    .sending (.message (.failure (transport.context :: e))) notifications
  | line => .handling line notifications

/-- The `Either::Left` of the select. -/
def receive (env : SocketEnv) (app : AppState) (s : ClientSession)
    (notifications : Broadcast.Receiver) : Except Error Turn → AppState × ClientSession
  | .error e => s.leave app (.error e)
  | .ok .finish => s.leave app (.ok ())
  | .ok .pong => (app, { s with stage := .sending .pong notifications })
  | .ok (.line text) =>
    (app, { s with stage := afterLine s.transport notifications (.start env text) })
  | .ok .ignore => (app, { s with stage := .selecting notifications })

/-- The `Either::Right` of the select. -/
def hear (app : AppState) (s : ClientSession) :
    Except Broadcast.RecvError Hook × Broadcast.Receiver → AppState × ClientSession
  -- `event?`: to lag is an error like any other
  | (.error e, _) => s.leave app (.error [e.message])
  | (.ok (.deviceStateUpdate notification), notifications) =>
    (app, { s with
      stage := .sending (.message (.updateNotification notification)) notifications })
  | (.ok _, notifications) => (app, { s with stage := .selecting notifications })

/-- One part of `handle_conn` or `handle_tcp_conn`. -/
def step (env : SocketEnv) (scenes : ScenesConfig) (app : AppState) (s : ClientSession) :
    SessionLabel → Option (AppState × ClientSession)
  | .accept result =>
    match s.stage, result with
    | .accepting, .error e => some (app, { s with stage := .returned (.error e) })
    | .accepting, .ok () =>
      -- The client is told of what is sent after this
      let (sender, notifications) := app.hooks.sender.resubscribe
      some ({ app with hooks := { app.hooks with sender } },
        { s with stage := .selecting notifications, since := notifications.next })
    | _, _ => none
  | .tryNext transport item =>
    match s.stage with
    | .selecting notifications =>
      -- Frames are those of the transport of the session
      if s.transport = transport then
        some (s.receive env app notifications (item.map transport.turn))
      else none
    | _ => none
  | .recv =>
    match s.stage with
    | .selecting notifications => (app.hooks.sender.recv notifications).map (s.hear app)
    | _ => none
  | .line l =>
    match s.stage with
    | .handling line notifications =>
      (line.step env scenes app l).map fun p =>
        (p.1, { s with
          stage := afterLine s.transport notifications p.2
          written := s.written ++ ((line.writes l).map Outgoing.message).toList })
    | _ => none
  | .sent result =>
    match s.stage, result with
    | .sending _ _, .error e => some (s.leave app (.error e))
    | .sending message notifications, .ok () =>
      -- Back in the select, with one message more written
      some (app, { s with stage := .selecting notifications, written := s.written ++ [message] })
    | _, _ => none

end ClientSession

/-- The sessions of both backends on one server. -/
def clientSessions (env : SocketEnv) (scenes : ScenesConfig) :
    System AppState ClientSession Task Transport SessionLabel where
  env app task := task.run app
  spawn app transport := some (app, .start transport)
  step := ClientSession.step env scenes

/-- The server before its first client. -/
def sessionsInitial (devices : Devices) (controllers : Controllers) :
    System.State AppState ClientSession :=
  ⟨.new devices controllers, []⟩

end Devicectrl
