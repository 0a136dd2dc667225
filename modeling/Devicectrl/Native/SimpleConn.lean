import Devicectrl.Native.Controller
import Devicectrl.Native.Simple

/-!
# Simple controller: connections

`handle_conn` of `controllers/simple.rs` as a step function. Once the peer is identified
two loops run concurrently: a spawned reader hands the messages it accepts through a
channel to the select loop, which also receives the requests of the controller.

Either of two ready futures may win a `select`.
-/

namespace Devicectrl.Simple

/-- The spawned read loop, by where it awaits. -/
inductive Reader where
  | reading
  | sending (message : ServerBoundSimpleMessage)
  | ended
  deriving DecidableEq

/-- The select loop, by where it awaits. -/
inductive Handler where
  | selecting
  | processing (call : NotificationCall)
  | writing (message : DeviceBoundSimpleMessage) (frame : List UInt8) (done : Nat)
  | ended (result : Except Error Unit)
  deriving DecidableEq

/-- What a session has done so far: the frames it accepted, the notifications it stored and
those it sent the hook of, the frames it wrote and all bytes it wrote. No step reads it. -/
structure Log where
  accepted : List (List UInt8 × ServerBoundSimpleMessage)
  applied : List UpdateNotification
  hooked : List UpdateNotification
  written : List (DeviceBoundSimpleMessage × List UInt8)
  output : List UInt8
  deriving DecidableEq

/-- Nothing has been done. -/
def Log.empty : Log := ⟨[], [], [], [], []⟩

/-- The locals of `handle_conn` in its scope, and the nonces the two sides began with. -/
structure Session where
  deviceId : DeviceId
  publicKey : VerifyingKey
  startNonce : UInt32
  peerNonce : UInt32
  expectedRecvNonce : UInt32
  sendNonce : UInt32
  reader : Reader
  messages : Mpsc.Channel ServerBoundSimpleMessage
  handler : Handler
  log : Log
  deriving DecidableEq

namespace Session

/-- The peer is identified, and both loops begin. -/
def start (deviceId : DeviceId) (publicKey : VerifyingKey) (startNonce peerNonce : UInt32) :
    Session where
  deviceId
  publicKey
  startNonce
  peerNonce
  expectedRecvNonce := startNonce
  sendNonce := peerNonce
  reader := .reading
  messages := Mpsc.channel 16
  handler := .selecting
  log := .empty

/-! ## The read loop -/

/-- `read_signed_message` ends. The block of the loop is not `move`, so `sender` outlives it. -/
def read (env : Env) (socket : Socket) (s : Session) : Option (Socket × Session) :=
  match s.reader with
  | .reading =>
    match readSignedMessage env s.expectedRecvNonce s.publicKey socket with
    | none => none
    -- `break`: the error is only logged
    | some (.error _, socket') => some (socket', { s with reader := .ended })
    | some (.ok (message, expectedRecvNonce), socket') =>
      -- For the log: the bytes that the read took off the socket
      let frame := socket.input.take (socket.input.length - socket'.input.length)
      some (socket', { s with
        reader := .sending message
        expectedRecvNonce
        log := { s.log with accepted := s.log.accepted ++ [(frame, message)] } })
  | _ => none

/-- `sender.send(message)` ends. -/
def send (s : Session) : Option Session :=
  match s.reader with
  | .sending message =>
    match s.messages.send message with
    | none => none
    -- The receiver is gone: `break`
    | some (.error _) => some { s with reader := .ended }
    | some (.ok messages) => some { s with reader := .reading, messages }
  | _ => none

/-! ## The select loop -/

/-- The message is signed and `write_all` begins, or `?` ends the loop. -/
def startWrite (env : Env) (serverPrivateKey : SigningKey) (message : DeviceBoundSimpleMessage)
    (s : Session) : Session :=
  match createSignedMessage env message s.sendNonce serverPrivateKey with
  | (.error e, sendNonce) => { s with sendNonce, handler := .ended (.error e) }
  | (.ok frame, sendNonce) => { s with sendNonce, handler := .writing message frame 0 }

/-- A message was not handled: the error goes to the device. -/
def fail (env : Env) (serverPrivateKey : SigningKey) (e : Error) (s : Session) : Session :=
  s.startWrite env serverPrivateKey (.failure ("failed to handle simple message" :: e))

/-- `Either::Left` of the select: `receiver.recv()` ends and `handle_message` is called. -/
def recvMessage (env : Env) (serverPrivateKey : SigningKey) (s : Session) : Option Session :=
  match s.handler with
  | .selecting =>
    match s.messages.recv with
    | none => none
    -- `let Some(message) = message else { return Ok(()) }`
    | some (none, messages) => some { s with messages, handler := .ended (.ok ()) }
    | some (some message, messages) =>
      match handleMessage message s.deviceId with
      | .error e => some ({ s with messages }.fail env serverPrivateKey e)
      -- Nothing to process: the loop selects again
      | .ok none => some { s with messages }
      | .ok (some notification) =>
        some { s with messages, handler := .processing (.store notification) }
  | _ => none

/-- `process_update_notification` goes on. -/
def process (env : Env) (serverPrivateKey : SigningKey) (app : AppState) (s : Session) :
    Option (AppState × Session) :=
  match s.handler with
  | .processing call =>
    match processUpdateNotification app call with
    -- The state is stored and the lock released
    | (app', .inl call') =>
      some (app', { s with
        handler := .processing call'
        log := { s.log with applied := s.log.applied ++ call.stores } })
    | (app', .inr (.error e)) =>
      some (app', s.fail env serverPrivateKey ("failed to process simple update notification" :: e))
    | (app', .inr (.ok ())) =>
      some (app', { s with
        handler := .selecting
        log := { s.log with hooked := s.log.hooked ++ call.hooks } })
  | _ => none

/-- `Either::Right` of the select: `request_receiver.recv()` ends. -/
def recvRequest (env : Env) (serverPrivateKey : SigningKey) (s : Session)
    (request : Except Broadcast.RecvError DeviceBoundSimpleMessage) : Option Session :=
  match s.handler with
  | .selecting =>
    match request with
    | .error e =>
      some { s with handler := .ended (.error ["failed to recv simple message", e.message]) }
    | .ok request =>
      -- `continue` on a request for another device
      if some s.deviceId ≠ request.requestDevice then some s
      else some (s.startWrite env serverPrivateKey request)
  | _ => none

/-- `write_all` gets some bytes of the frame written, or fails. -/
def write (s : Session) (result : Except Error Nat) : Option Session :=
  match s.handler with
  | .writing message frame done =>
    match result with
    | .error e => some { s with handler := .ended (.error e) }
    | .ok n =>
      -- Each `write` takes some of the bytes that are left
      if 0 < n ∧ done + n ≤ frame.length then
        let output := s.log.output ++ (frame.drop done).take n
        if done + n = frame.length then
          some { s with
            handler := .selecting
            log := { s.log with written := s.log.written ++ [(message, frame)], output } }
        else
          some { s with
            handler := .writing message frame (done + n)
            log := { s.log with output } }
      else none
  | _ => none

/-- The steps of the two loops, but for receiving a request. -/
inductive Label where
  | read
  | send
  | recvMessage
  | process
  | write (result : Except Error Nat)
  deriving DecidableEq

/-- One step of the loops. -/
def step (env : Env) (serverPrivateKey : SigningKey) (app : AppState) (socket : Socket)
    (s : Session) : Label → Option (AppState × Socket × Session)
  | .read => (s.read env socket).map fun p => (app, p)
  | .send => s.send.map fun s' => (app, socket, s')
  | .recvMessage => (s.recvMessage env serverPrivateKey).map fun s' => (app, socket, s')
  | .process => (s.process env serverPrivateKey app).map fun p => (p.1, socket, p.2)
  | .write result => (s.write result).map fun s' => (app, socket, s')

end Session

/-! ## The connection -/

/-- `handle_conn`, from the greeting to its result. -/
inductive Stage where
  | greeting
  | identifying
  | running (session : Session)
  | returned (session : Option Session) (result : Except Error Unit)
  deriving DecidableEq

/-- The session of a connection, also when it is over. -/
def Stage.session? : Stage → Option Session
  | .running session => some session
  | .returned session _ => session
  | _ => none

/-- A call of `handle_conn` with its socket and the nonce it drew. -/
structure Conn where
  socket : Socket
  expectedRecvNonce : UInt32
  stage : Stage
  deriving DecidableEq

namespace Conn

/-- A connection that was accepted, with the nonce drawn for it. -/
def start (expectedRecvNonce : UInt32) : Conn :=
  ⟨⟨[], false⟩, expectedRecvNonce, .greeting⟩

/-- `handle_conn` has not returned. -/
def isOpen (c : Conn) : Bool :=
  match c.stage with
  | .returned _ _ => false
  | _ => true

/-- The device that the peer has identified itself as. -/
def device (c : Conn) : Option DeviceId :=
  c.stage.session?.map Session.deviceId

/-- What the session of the connection has done so far. -/
def log (c : Conn) : Log :=
  (c.stage.session?.map Session.log).getD .empty

/-- What the peer does, and the parts of `handle_conn`. -/
inductive Label where
  /-- The peer sends, and closes its side. -/
  | deliver (bytes : List UInt8)
  | hangUp
  | greet (result : Except Error Unit)
  | identify
  | session (l : Session.Label)
  | finish
  deriving DecidableEq

/-- The peer is identified and its public key is looked up. -/
def identify (env : Env) (app : AppState) (c : Conn) : Option Conn :=
  match readIdentify env c.socket with
  | none => none
  | some (.error e, socket) => some { c with socket, stage := .returned none (.error e) }
  | some (.ok (sendNonce, deviceId), socket) =>
    match lookupPublicKey app.devices deviceId with
    | .error e => some { c with socket, stage := .returned none (.error e) }
    | .ok publicKey =>
      some { c with
        socket
        stage := .running (.start deviceId publicKey c.expectedRecvNonce sendNonce) }

/-- One part of `handle_conn`, or an act of the peer. -/
def step (env : Env) (serverPrivateKey : SigningKey) (app : AppState) (c : Conn) :
    Label → Option (AppState × Conn)
  | .deliver bytes =>
    -- Bytes arrive as long as the peer has not closed its side
    if c.isOpen ∧ c.socket.eof = false then
      some (app, { c with socket := { c.socket with input := c.socket.input ++ bytes } })
    else none
  | .hangUp =>
    if c.isOpen then some (app, { c with socket := { c.socket with eof := true } }) else none
  -- `socket.write_u32(expected_recv_nonce)`
  | .greet result =>
    match c.stage, result with
    | .greeting, .ok () => some (app, { c with stage := .identifying })
    | .greeting, .error e => some (app, { c with stage := .returned none (.error e) })
    | _, _ => none
  | .identify =>
    match c.stage with
    | .identifying => (c.identify env app).map fun c' => (app, c')
    | _ => none
  | .session l =>
    match c.stage with
    | .running s =>
      match s.step env serverPrivateKey app c.socket l with
      | none => none
      | some (app', socket, s') => some (app', { c with socket, stage := .running s' })
    | _ => none
  -- The scope completes when both of its futures have
  | .finish =>
    match c.stage with
    | .running s =>
      match s.reader, s.handler with
      | .ended, .ended result => some (app, { c with stage := .returned (some s) result })
      | _, _ => none
    | _ => none

/-- The select loop of the session receives a request, or an error. -/
def recvRequest (env : Env) (serverPrivateKey : SigningKey) (c : Conn)
    (request : Except Broadcast.RecvError DeviceBoundSimpleMessage) : Option Conn :=
  match c.stage with
  | .running s =>
    (s.recvRequest env serverPrivateKey request).map fun s' => { c with stage := .running s' }
  | _ => none

end Conn

/-- `handle_conn`. -/
def handleConn (env : Env) (serverPrivateKey : SigningKey) : HandleConn Conn UInt32 Conn.Label where
  start := Conn.start
  step := Conn.step env serverPrivateKey
  recvRequest := Conn.recvRequest env serverPrivateKey
  isOpen := Conn.isOpen
  device := Conn.device
  written c := c.log.written

end Devicectrl.Simple
