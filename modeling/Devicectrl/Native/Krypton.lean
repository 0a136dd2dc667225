import Devicectrl.ForStd.AsyncRead
import Devicectrl.Native.Controller

/-!
# Krypton controller

`handle_conn` of `controllers/krypton.rs` as a step function: the client hello names the
device, the TLS handshake follows, then one loop selects between the device's frames and
the requests of the controller.

Either of two ready futures may win a `select`.
-/

namespace Devicectrl.Krypton

/-! ## TLS -/

/-- Of the client hello the server looks at the name only. -/
structure ClientHello where
  serverName : Option String
  deriving DecidableEq, Repr

/-- The certificate of the server, and its key. -/
structure KryptonControllerGlobalConfig where
  certBytes : List UInt8
  keyBytes : List UInt8
  deriving DecidableEq, Repr

/-- A `rustls::ServerConfig`: the certificate a client has to present, and the server's own. -/
structure ServerConfig where
  clientRoot : List UInt8
  serverCert : List UInt8
  serverKey : List UInt8
  deriving DecidableEq, Repr

/-- What the controller calls of `rustls`, `serde_json` and `devicectrl-common`. `readTls` and
`accept` are given all bytes the acceptor has been fed. -/
structure Env where
  readTls : List UInt8 → Except Error Unit
  accept : List UInt8 → Except Error (Option ClientHello)
  deviceIdFrom : String → Option DeviceId
  certFromPem : List UInt8 → Except String (List UInt8)
  addRoot : List UInt8 → Except String Unit
  buildVerifier : List UInt8 → Except String Unit
  keyFromPem : List UInt8 → Except String (List UInt8)
  withSingleCert : List UInt8 → List UInt8 → Except String Unit
  fromSlice : List UInt8 → Except Error ServerBoundKryptonMessage
  toVec : DeviceBoundKryptonMessage → Except Error (List UInt8)

/-- `.map_err(|e| anyhow!("{what}: {}", e))`. -/
def describe {α : Type} (what : String) : Except String α → Except Error α
  | .ok a => .ok a
  | .error e => .error [what ++ ": " ++ e]

/-- `get_tls_config`. -/
def getTlsConfig (env : Env) (deviceCerts : AList fun _ : DeviceId => List UInt8)
    (globalConfig : KryptonControllerGlobalConfig) (deviceId : DeviceId) :
    Except Error ServerConfig := do
  -- The certificate that was collected at the start, and not that of the table
  match deviceCerts.lookup deviceId with
  | none => .error ["Device certificate not found"]
  | some deviceCertBytes =>
    let deviceCert ←
      describe "Failed to parse device certificate" (env.certFromPem deviceCertBytes)
    describe "Failed to add device cert to root store" (env.addRoot deviceCert)
    describe "Failed to build client verifier" (env.buildVerifier deviceCert)
    let serverCert ←
      describe "Failed to parse server certificate" (env.certFromPem globalConfig.certBytes)
    let serverKey ←
      describe "Failed to parse server private key" (env.keyFromPem globalConfig.keyBytes)
    describe "Failed to build TLS config" (env.withSingleCert serverCert serverKey)
    return ⟨deviceCert, serverCert, serverKey⟩

/-- The certificates `start_listening` collects. -/
def collectCerts (devices : Devices) : AList fun _ : DeviceId => List UInt8 :=
  devices.entries.foldl
    (fun certs entry =>
      match entry.2.controller with
      -- `HashMap::insert`: a later certificate under the same id replaces the earlier
      | .krypton config => certs.insert entry.2.id config.certBytes
      | _ => certs)
    ∅

/-- `str::strip_prefix`. -/
def stripPrefix (pre s : String) : Option String :=
  if pre.toList.isPrefixOf s.toList then some (String.ofList (s.toList.drop pre.toList.length))
  else none

/-- The device a client hello names. -/
def helloDevice (env : Env) (hello : ClientHello) : Except Error DeviceId :=
  match hello.serverName.bind (stripPrefix "krypton-deviceid=") with
  | none => .error ["missing device id in SNI"]
  | some name =>
    match env.deviceIdFrom name with
    | none => .error ["invalid device id"]
    | some deviceId => .ok deviceId

/-! ## Messages -/

/-- `handle_message` up to the call of `process_update_notification`. -/
def handleMessage (env : Env) (buf : List UInt8) (deviceId : DeviceId) (devices : Devices) :
    Except Error (Option UpdateNotification) :=
  match devices.lookup deviceId with
  | none => .error ["Message received from unknown device"]
  | some device =>
    match device.controller with
    | .krypton _ =>
      -- The read lock is released before the frame is parsed
      match env.fromSlice buf with
      | .error e => .error e
      | .ok message => message.handle deviceId
    | _ => .error ["Device is not a krypton device"]

/-- The select loop, by where it awaits. -/
inductive Handler where
  | selecting
  | processing (call : NotificationCall)
  | sending (message : DeviceBoundKryptonMessage) (data : List UInt8)
  deriving DecidableEq

/-- `handle_conn`, from the client hello to its result. `acceptor` is what the TLS acceptor
has been fed; `sent` are the messages that were sent, and no step reads it. -/
inductive Stage where
  | hello (acceptor : List UInt8)
  | handshake (deviceId : DeviceId) (tlsConfig : ServerConfig)
  | running (deviceId : DeviceId) (handler : Handler)
      (sent : List (DeviceBoundKryptonMessage × List UInt8))
  | returned (deviceId : Option DeviceId) (sent : List (DeviceBoundKryptonMessage × List UInt8))
      (result : Except Error Unit)
  deriving DecidableEq

/-- A call of `handle_conn` with its socket. -/
structure Conn where
  socket : Socket
  stage : Stage
  deriving DecidableEq

namespace Conn

/-- A connection that was accepted. Nothing is read. -/
def start (_ : Unit) : Conn :=
  ⟨⟨[], false⟩, .hello []⟩

/-- `handle_conn` has not returned. -/
def isOpen (c : Conn) : Bool :=
  match c.stage with
  | .returned _ _ _ => false
  | _ => true

/-- The device the client is identified as, once TLS is set up for it. -/
def device (c : Conn) : Option DeviceId :=
  match c.stage with
  | .hello _ => none
  | .handshake deviceId _ => some deviceId
  | .running deviceId _ _ => some deviceId
  | .returned deviceId _ _ => deviceId

/-- The messages sent to the device so far. -/
def sent (c : Conn) : List (DeviceBoundKryptonMessage × List UInt8) :=
  match c.stage with
  | .running _ _ sent => sent
  | .returned _ sent _ => sent
  | _ => []

/-- What the peer does, and what `handle_conn` awaits. -/
inductive Label where
  /-- The peer sends, and closes its side. -/
  | deliver (bytes : List UInt8)
  | hangUp
  /-- `try_read` gets this many bytes, or none are ready. -/
  | tryRead (result : Except Error Nat)
  /-- `TlsAcceptor::accept` ends. -/
  | accept (result : Except Error Unit)
  /-- `stream.try_next()` ends. -/
  | tryNext (result : Except Error (Option (List UInt8)))
  | process
  /-- `stream.send` ends. -/
  | send (result : Except Error Unit)
  deriving DecidableEq

/-- One turn of the hello loop, after `bytesRead` bytes were read. -/
def feed (env : Env) (globalConfig : KryptonControllerGlobalConfig)
    (deviceCerts : AList fun _ : DeviceId => List UInt8) (acceptor : List UInt8) : Stage :=
  match env.readTls acceptor with
  | .error e => .returned none [] (.error e)
  | .ok () =>
    match env.accept acceptor with
    | .error e => .returned none [] (.error ("failed to accept krypton tls connection" :: e))
    -- The hello is not complete: the loop reads on
    | .ok none => .hello acceptor
    | .ok (some hello) =>
      match helloDevice env hello with
      | .error e => .returned none [] (.error e)
      | .ok deviceId =>
        match getTlsConfig env deviceCerts globalConfig deviceId with
        | .error e => .returned none [] (.error ("failed to get tls config for device" :: e))
        | .ok tlsConfig => .handshake deviceId tlsConfig

/-- The message is encoded and `send` begins, or `?` ends the loop. -/
def startSend (env : Env) (message : DeviceBoundKryptonMessage) (deviceId : DeviceId)
    (sent : List (DeviceBoundKryptonMessage × List UInt8)) : Stage :=
  match env.toVec message with
  | .error e => .returned (some deviceId) sent (.error e)
  | .ok data => .running deviceId (.sending message data) sent

/-- A message was not handled: the error goes to the device. -/
def fail (env : Env) (e : Error) (deviceId : DeviceId)
    (sent : List (DeviceBoundKryptonMessage × List UInt8)) : Stage :=
  startSend env (.failure ("failed to handle krypton message" :: e)) deviceId sent

/-- `Either::Left` of the select. -/
def recvFrame (env : Env) (devices : Devices) (deviceId : DeviceId)
    (sent : List (DeviceBoundKryptonMessage × List UInt8)) :
    Except Error (Option (List UInt8)) → Stage
  | .error e => .returned (some deviceId) sent (.error e)
  -- `let Some(buf) = buf? else { return Ok(()) }`
  | .ok none => .returned (some deviceId) sent (.ok ())
  | .ok (some buf) =>
    match handleMessage env buf deviceId devices with
    | .error e => fail env e deviceId sent
    | .ok none => .running deviceId .selecting sent
    | .ok (some notification) => .running deviceId (.processing (.store notification)) sent

/-- `process_update_notification` goes on. -/
def process (env : Env) (app : AppState) (deviceId : DeviceId)
    (sent : List (DeviceBoundKryptonMessage × List UInt8)) (call : NotificationCall) :
    AppState × Stage :=
  match processUpdateNotification app call with
  | (app', .inl call') => (app', .running deviceId (.processing call') sent)
  | (app', .inr (.error e)) =>
    (app', fail env ("failed to process krypton update notification" :: e) deviceId sent)
  | (app', .inr (.ok ())) => (app', .running deviceId .selecting sent)

/-- One part of `handle_conn`, or an act of the peer. -/
def step (env : Env) (globalConfig : KryptonControllerGlobalConfig)
    (deviceCerts : AList fun _ : DeviceId => List UInt8) (app : AppState) (c : Conn) :
    Label → Option (AppState × Conn)
  | .deliver bytes =>
    if c.isOpen ∧ c.socket.eof = false then
      some (app, { c with socket := { c.socket with input := c.socket.input ++ bytes } })
    else none
  | .hangUp =>
    if c.isOpen then some (app, { c with socket := { c.socket with eof := true } }) else none
  | .tryRead result =>
    match c.stage with
    | .hello acceptor =>
      match result with
      -- Also when no byte is ready: `try_read` does not wait, and `?` passes its error on
      | .error e => some (app, { c with stage := .returned none [] (.error e) })
      | .ok bytesRead =>
        -- The buffer holds 4096 bytes; none are read only at the end of the stream
        if bytesRead ≤ 4096 ∧ bytesRead ≤ c.socket.input.length ∧
            (bytesRead = 0 → c.socket.input = [] ∧ c.socket.eof = true) then
          some (app, {
            socket := { c.socket with input := c.socket.input.drop bytesRead }
            stage :=
              feed env globalConfig deviceCerts (acceptor ++ c.socket.input.take bytesRead) })
        else none
    | _ => none
  | .accept result =>
    match c.stage with
    | .handshake deviceId _ =>
      match result with
      | .error e => some (app, { c with stage := .returned (some deviceId) [] (.error e) })
      | .ok () => some (app, { c with stage := .running deviceId .selecting [] })
    | _ => none
  | .tryNext result =>
    match c.stage with
    | .running deviceId .selecting sent =>
      some (app, { c with stage := recvFrame env app.devices deviceId sent result })
    | _ => none
  | .process =>
    match c.stage with
    | .running deviceId (.processing call) sent =>
      let p := process env app deviceId sent call
      some (p.1, { c with stage := p.2 })
    | _ => none
  | .send result =>
    match c.stage with
    | .running deviceId (.sending message data) sent =>
      match result with
      | .error e => some (app, { c with stage := .returned (some deviceId) sent (.error e) })
      | .ok () =>
        some (app, { c with stage := .running deviceId .selecting (sent ++ [(message, data)]) })
    | _ => none

/-- `Either::Right` of the select: `request_receiver.recv()` ends. -/
def recvRequest (env : Env) (c : Conn)
    (request : Except Broadcast.RecvError DeviceBoundKryptonMessage) : Option Conn :=
  match c.stage with
  | .running deviceId .selecting sent =>
    match request with
    | .error e =>
      some { c with
        stage :=
          .returned (some deviceId) sent (.error ["failed to recv krypton message", e.message]) }
    | .ok request =>
      -- `continue` on a request for another device
      if some deviceId ≠ request.requestDevice then some c
      else some { c with stage := startSend env request deviceId sent }
  | _ => none

end Conn

/-- `handle_conn`. -/
def handleConn (env : Env) (globalConfig : KryptonControllerGlobalConfig)
    (deviceCerts : AList fun _ : DeviceId => List UInt8) : HandleConn Conn Unit Conn.Label where
  start := Conn.start
  step := Conn.step env globalConfig deviceCerts
  recvRequest := Conn.recvRequest env
  isOpen := Conn.isOpen
  device := Conn.device
  written := Conn.sent

end Devicectrl.Krypton
