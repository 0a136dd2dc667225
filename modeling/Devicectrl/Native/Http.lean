import Devicectrl.Native.Sockets

/-!
# HTTP backend

`handle_request` of `server_backends/http.rs`, cut where it awaits, and update requests and
scenes over all three backends.
-/

namespace Devicectrl

/-- `Response<String>`, before its body is encoded. -/
structure Response where
  status : Nat
  body : ClientBoundHttpMessage
  deriving DecidableEq, Repr

/-- `Response::new`, which leaves the status at 200. -/
def Response.new (body : ClientBoundHttpMessage) : Response :=
  ⟨200, body⟩

/-- `handle_request`, by where it awaits. `answering` encodes the body of the response. -/
inductive HttpCall where
  | requesting (call : RequestCall)
  | activating (call : SceneCall)
  | answering (response : Response)
  | returned (result : Except Error Response)
  deriving DecidableEq

/-- What `handle_request` awaits ends. -/
inductive HttpLabel where
  | request (l : RequestLabel)
  | scene (l : SceneLabel)
  /-- `serde_json::to_string` ends. -/
  | encoded (result : Except Error Unit)
  deriving DecidableEq

namespace HttpCall

/-- The `match` of `handle_request`, up to its first await. -/
def handle : ServerBoundHttpMessage → HttpCall
  | .updateRequest request => .requesting (.begin request)
  | .activateScene sceneId => .activating (.begin sceneId)
  -- `StatusCode::NOT_IMPLEMENTED`
  | .other _ => .answering ⟨501, .unimplemented⟩

/-- `handle_request` up to its first await, on the body of the request. -/
def start (fromSlice : List UInt8 → Except Error ServerBoundHttpMessage)
    (bytes : Except Error (List UInt8)) : HttpCall :=
  match bytes.bind fromSlice with
  | .error e => .returned (.error e)
  | .ok message => handle message

/-- `process_update_request(..).await?`, and then the response. -/
def afterRequest : RequestCall → HttpCall
  | .returned (.error e) => .returned (.error e)
  | .returned (.ok ()) => .answering (.new .requestReceived)
  | call => .requesting call

/-- `process_scene_activate(..).await?`, and then the response. -/
def afterScene : SceneCall → HttpCall
  | .returned (.error e) => .returned (.error e)
  | .returned (.ok ()) => .answering (.new .requestReceived)
  | call => .activating call

/-- One part of `handle_request`. -/
def step (scenes : ScenesConfig) (app : AppState) :
    HttpCall → HttpLabel → Option (AppState × HttpCall)
  | .requesting call, .request l => (call.step app l).map fun p => (p.1, afterRequest p.2)
  | .activating call, .scene l => (call.step scenes app l).map fun p => (p.1, afterScene p.2)
  | .answering response, .encoded result =>
    match result with
    | .error e => some (app, .returned (.error e))
    | .ok () => some (app, .returned (.ok response))
  | _, _ => none

end HttpCall

/-! ## Requests over the three backends -/

/-- The servers that clients connect to. -/
inductive Backend where
  | tcp
  | websocket
  | http
  deriving DecidableEq

/-- The two messages that all backends accept. -/
inductive Operation where
  | updateRequest (request : UpdateRequest)
  | activateScene (sceneId : SceneId)
  deriving DecidableEq

/-- What handles a message. -/
inductive Handler where
  | line (line : Line)
  | http (call : HttpCall)
  deriving DecidableEq

/-- A part of either handler. -/
inductive HandlerLabel where
  | line (l : LineLabel)
  | http (l : HttpLabel)
  deriving DecidableEq

namespace Handler

/-- TCP and WebSocket handle a message alike. -/
def start : Backend → Operation → Handler
  | .http, .updateRequest request => .http (.handle (.updateRequest request))
  | .http, .activateScene sceneId => .http (.handle (.activateScene sceneId))
  | _, .updateRequest request => .line (.handle (.updateRequest request))
  | _, .activateScene sceneId => .line (.handle (.activateScene sceneId))

/-- One part of handling a message, on whichever backend. -/
def step (env : SocketEnv) (scenes : ScenesConfig) (app : AppState) :
    Handler → HandlerLabel → Option (AppState × Handler)
  | .line current, .line l => (current.step env scenes app l).map fun p => (p.1, .line p.2)
  | .http call, .http l => (call.step scenes app l).map fun p => (p.1, .http p.2)
  | _, _ => none

/-- The handler has returned. -/
def isDone : Handler → Bool
  | .line (.returned _) => true
  | .http (.returned _) => true
  | _ => false

/-- The result of sending `RequestReceived`, in the step in which this ends. -/
def acknowledges : Handler → HandlerLabel → Option (Except Error Unit)
  | .line (.sending .requestReceived _), .line (.sent result) => some result
  | .http (.answering response), .http (.encoded result) =>
    if response.body = .requestReceived then some result else none
  | _, _ => none

/-- The result of `process_update_request` or `process_scene_activate`, in the step in which it
returns. -/
def operates (scenes : ScenesConfig) (app : AppState) :
    Handler → HandlerLabel → Option (Except Error Unit)
  | .line (.requesting call), .line (.request l) => (call.step app l).bind fun p => p.2.result?
  | .line (.activating call), .line (.scene l) =>
    (call.step scenes app l).bind fun p => p.2.result?
  | .http (.requesting call), .http (.request l) => (call.step app l).bind fun p => p.2.result?
  | .http (.activating call), .http (.scene l) =>
    (call.step scenes app l).bind fun p => p.2.result?
  | _, _ => none

end Handler

/-- A message being handled. `acknowledged` and `operation` are how sending `RequestReceived` and
the operation itself have ended; no step reads them. -/
structure BackendCall where
  handler : Handler
  acknowledged : Option (Except Error Unit)
  operation : Option (Except Error Unit)
  deriving DecidableEq

namespace BackendCall

/-- A message has been received, and nothing is acknowledged. -/
def start (backend : Backend) (operation : Operation) : BackendCall :=
  ⟨.start backend operation, none, none⟩

/-- One part of it, and what has ended with it. -/
def step (env : SocketEnv) (scenes : ScenesConfig) (app : AppState) (k : BackendCall)
    (l : HandlerLabel) : Option (AppState × BackendCall) :=
  (k.handler.step env scenes app l).map fun p =>
    (p.1, {
      handler := p.2
      acknowledged := k.acknowledged <|> k.handler.acknowledges l
      operation := k.operation <|> k.handler.operates scenes app l })

end BackendCall

/-- Any number of messages that the backends of one server handle. -/
def backendCalls (env : SocketEnv) (scenes : ScenesConfig) :
    System AppState BackendCall Task (Backend × Operation) HandlerLabel where
  env app task := task.run app
  spawn app message := some (app, .start message.1 message.2)
  step := BackendCall.step env scenes

end Devicectrl
