import Devicectrl.Native.Krypton

/-!
# The steps of a Krypton connection

## Key results

- `handleConn_lawful`: `handle_conn` keeps to what every controller's connections do
-/

namespace Devicectrl.Krypton

variable {env : Env} {globalConfig : KryptonControllerGlobalConfig}
  {deviceCerts : AList fun _ : DeviceId => List UInt8} {app app' : AppState} {c c' : Conn}

/-- `handle_message` depends on the configuration only. -/
theorem handleMessage_congr (h : app.SameConfig app') (buf : List UInt8) (d : DeviceId) :
    handleMessage env buf d app'.devices = handleMessage env buf d app.devices := by
  simp only [handleMessage]
  cases hd : app.devices.lookup d with
  | none => rw [h.lookup_none hd]
  | some device =>
    obtain ⟨device', hd', hcfg⟩ := h.lookup hd
    have hctl : device'.controller = device.controller := congrArg (fun p => p.2.2) hcfg
    simp only [hd', hctl]

/-- Processing reads the configuration alone to choose the next stage. -/
theorem Conn.process_congr (h : app.SameConfig app') (d : DeviceId)
    (sent : List (DeviceBoundKryptonMessage × List UInt8)) (call : NotificationCall) :
    (Conn.process env app' d sent call).2 = (Conn.process env app d sent call).2 := by
  have hcall := processUpdateNotification_congr h call
  simp only [Conn.process]
  rcases hr : processUpdateNotification app call with ⟨app₁, r⟩
  rcases hr' : processUpdateNotification app' call with ⟨app₁', r'⟩
  simp only [hr, hr'] at hcall ⊢
  subst hcall
  match r' with
  | .inl call' => rfl
  | .inr (.error e) => rfl
  | .inr (.ok ()) => rfl

/-- Processing a notification keeps the configuration. -/
theorem Conn.process_sameConfig (app : AppState) (d : DeviceId)
    (sent : List (DeviceBoundKryptonMessage × List UInt8)) (call : NotificationCall) :
    app.SameConfig (Conn.process env app d sent call).1 := by
  rcases hr : processUpdateNotification app call with ⟨app₁, r⟩
  have hcfg := processUpdateNotification_sameConfig hr
  simp only [Conn.process, hr]
  match r with
  | .inl call' => exact hcfg
  | .inr (.error e) => exact hcfg
  | .inr (.ok ()) => exact hcfg

namespace Conn

/-! ## Stages that a loop of `handle_conn` leads to -/

/-- Encoding a message for the device keeps the connection with its device. -/
theorem startSend_device (env : Env) (m : DeviceBoundKryptonMessage) (d : DeviceId)
    (sent : List (DeviceBoundKryptonMessage × List UInt8)) (socket : Socket) :
    device ⟨socket, startSend env m d sent⟩ = some d := by
  rw [startSend]
  split
  · rfl
  · rfl

/-- The device of a connection stays the one of its handshake when a frame comes in. -/
theorem recvFrame_device (env : Env) (devices : Devices) (d : DeviceId)
    (sent : List (DeviceBoundKryptonMessage × List UInt8)) (socket : Socket)
    (result : Except Error (Option (List UInt8))) :
    device ⟨socket, recvFrame env devices d sent result⟩ = some d := by
  match result with
  | .error e => rfl
  | .ok none => rfl
  | .ok (some buf) =>
    simp only [recvFrame]
    split
    · exact startSend_device env _ d sent socket
    · rfl
    · rfl

/-- The device of a connection stays the one of its handshake while a notification is processed. -/
theorem process_device (env : Env) (app : AppState) (d : DeviceId)
    (sent : List (DeviceBoundKryptonMessage × List UInt8)) (call : NotificationCall)
    (socket : Socket) : device ⟨socket, (process env app d sent call).2⟩ = some d := by
  rcases hr : processUpdateNotification app call with ⟨app₁, r⟩
  simp only [process, hr]
  match r with
  | .inl call' => rfl
  | .inr (.error e) => exact startSend_device env _ d sent socket
  | .inr (.ok ()) => rfl

/-! ## Steps -/

/-- What a connection can do where the server is `app`. -/
inductive Step (env : Env) (globalConfig : KryptonControllerGlobalConfig)
    (deviceCerts : AList fun _ : DeviceId => List UInt8) (app : AppState) :
    Conn → Label → AppState → Conn → Prop
  | deliver {socket : Socket} {stage : Stage} {bytes : List UInt8}
      (hopen : isOpen ⟨socket, stage⟩ = true) (heof : socket.eof = false) :
      Step env globalConfig deviceCerts app ⟨socket, stage⟩ (.deliver bytes) app
        ⟨{ socket with input := socket.input ++ bytes }, stage⟩
  | hangUp {socket : Socket} {stage : Stage} (hopen : isOpen ⟨socket, stage⟩ = true) :
      Step env globalConfig deviceCerts app ⟨socket, stage⟩ .hangUp app
        ⟨{ socket with eof := true }, stage⟩
  | readError {socket : Socket} {acceptor : List UInt8} {e : Error} :
      Step env globalConfig deviceCerts app ⟨socket, .hello acceptor⟩ (.tryRead (.error e)) app
        ⟨socket, .returned none [] (.error e)⟩
  | read {socket : Socket} {acceptor : List UInt8} {bytesRead : Nat}
      (hread : bytesRead ≤ 4096 ∧ bytesRead ≤ socket.input.length ∧
        (bytesRead = 0 → socket.input = [] ∧ socket.eof = true)) :
      Step env globalConfig deviceCerts app ⟨socket, .hello acceptor⟩ (.tryRead (.ok bytesRead))
        app ⟨{ socket with input := socket.input.drop bytesRead },
          feed env globalConfig deviceCerts (acceptor ++ socket.input.take bytesRead)⟩
  | acceptError {socket : Socket} {d : DeviceId} {tlsConfig : ServerConfig} {e : Error} :
      Step env globalConfig deviceCerts app ⟨socket, .handshake d tlsConfig⟩
        (.accept (.error e)) app ⟨socket, .returned (some d) [] (.error e)⟩
  | accept {socket : Socket} {d : DeviceId} {tlsConfig : ServerConfig} :
      Step env globalConfig deviceCerts app ⟨socket, .handshake d tlsConfig⟩ (.accept (.ok ()))
        app ⟨socket, .running d .selecting []⟩
  | tryNext {socket : Socket} {d : DeviceId}
      {sent : List (DeviceBoundKryptonMessage × List UInt8)}
      {result : Except Error (Option (List UInt8))} :
      Step env globalConfig deviceCerts app ⟨socket, .running d .selecting sent⟩
        (.tryNext result) app ⟨socket, recvFrame env app.devices d sent result⟩
  | process {socket : Socket} {d : DeviceId} {call : NotificationCall}
      {sent : List (DeviceBoundKryptonMessage × List UInt8)} :
      Step env globalConfig deviceCerts app ⟨socket, .running d (.processing call) sent⟩
        .process (Conn.process env app d sent call).1
        ⟨socket, (Conn.process env app d sent call).2⟩
  | sendError {socket : Socket} {d : DeviceId} {message : DeviceBoundKryptonMessage}
      {data : List UInt8} {sent : List (DeviceBoundKryptonMessage × List UInt8)} {e : Error} :
      Step env globalConfig deviceCerts app ⟨socket, .running d (.sending message data) sent⟩
        (.send (.error e)) app ⟨socket, .returned (some d) sent (.error e)⟩
  | send {socket : Socket} {d : DeviceId} {message : DeviceBoundKryptonMessage}
      {data : List UInt8} {sent : List (DeviceBoundKryptonMessage × List UInt8)} :
      Step env globalConfig deviceCerts app ⟨socket, .running d (.sending message data) sent⟩
        (.send (.ok ())) app ⟨socket, .running d .selecting (sent ++ [(message, data)])⟩

variable {l : Label}

theorem step_cases (h : c.step env globalConfig deviceCerts app l = some (app', c')) :
    Step env globalConfig deviceCerts app c l app' c' := by
  obtain ⟨socket, stage⟩ := c
  cases l with
  | deliver bytes =>
    simp only [step] at h
    split at h
    · rename_i hopen
      cases h
      exact .deliver hopen.1 hopen.2
    · cases h
  | hangUp =>
    simp only [step] at h
    split at h
    · rename_i hopen
      cases h
      exact .hangUp hopen
    · cases h
  | tryRead result =>
    cases stage with
    | hello acceptor =>
      cases result with
      | error e =>
        cases h
        exact .readError
      | ok bytesRead =>
        simp only [step] at h
        -- A read takes what is there, and only from the input
        split at h
        · rename_i hread
          cases h
          exact .read hread
        · cases h
    | _ => cases h
  | accept result =>
    -- The two stages that wait for the peer of the handshake
    cases stage with
    | handshake d tlsConfig =>
      cases result with
      | error e =>
        cases h
        exact .acceptError
      | ok _ =>
        cases h
        exact .accept
    | _ => cases h
  | tryNext result =>
    simp only [step] at h
    split at h
    · cases h
      exact .tryNext
    · cases h
  | process =>
    simp only [step] at h
    split at h
    · cases h
      exact .process
    · cases h
  | send result =>
    simp only [step] at h
    -- Only a frame that has been started is sent
    split at h
    · cases result with
      | error e =>
        cases h
        exact .sendError
      | ok _ =>
        cases h
        exact .send
    · cases h

/-- The step function does what the relation says. -/
theorem Step.step_eq (h : Step env globalConfig deviceCerts app c l app' c') :
    c.step env globalConfig deviceCerts app l = some (app', c') := by
  cases h with
  | deliver hopen heof => exact if_pos ⟨hopen, heof⟩
  | hangUp hopen => exact if_pos hopen
  | read hread => exact if_pos hread
  | _ => rfl

/-- Only a connection that has not returned takes a step. -/
theorem step_open (h : c.step env globalConfig deviceCerts app l = some (app', c')) :
    c.isOpen = true := by
  cases step_cases h with
  | deliver hopen _ => exact hopen
  | hangUp hopen => exact hopen
  | _ => rfl

/-- The device of a connection does not change. -/
theorem step_device {d : DeviceId}
    (h : c.step env globalConfig deviceCerts app l = some (app', c')) (hd : c.device = some d) :
    c'.device = some d := by
  -- Once there is a device, no step replaces it
  cases step_cases h with
  | deliver _ _ => exact hd
  | hangUp _ => exact hd
  | readError => cases hd
  | read _ => cases hd
  | acceptError => exact hd
  | accept => exact hd
  | @tryNext socket d' sent result =>
    cases hd
    exact recvFrame_device env app.devices d sent socket result
  | @process socket d' call sent =>
    cases hd
    exact process_device env app d sent call socket
  | sendError => exact hd
  | send => exact hd

/-- No step of a connection changes the configuration. -/
theorem step_sameConfig (h : c.step env globalConfig deviceCerts app l = some (app', c')) :
    app.SameConfig app' := by
  cases step_cases h with
  | @process socket d call sent => exact process_sameConfig app d sent call
  | _ => exact .refl app

/-- What a connection reads from a frame depends on the configuration only. -/
theorem recvFrame_congr (hcfg : app.SameConfig app') (d : DeviceId)
    (sent : List (DeviceBoundKryptonMessage × List UInt8))
    (result : Except Error (Option (List UInt8))) :
    recvFrame env app'.devices d sent result = recvFrame env app.devices d sent result := by
  match result with
  | .error e => rfl
  | .ok none => rfl
  | .ok (some buf) => simp only [recvFrame, handleMessage_congr hcfg]

/-- What a step does depends on the configuration only. -/
theorem step_congr (hcfg : app.SameConfig app') {app₁ : AppState}
    (h : c.step env globalConfig deviceCerts app l = some (app₁, c')) :
    ∃ app₁', c.step env globalConfig deviceCerts app' l = some (app₁', c') := by
  cases step_cases h with
  | deliver hopen heof => exact ⟨app', (Step.deliver hopen heof).step_eq⟩
  | hangUp hopen => exact ⟨app', (Step.hangUp hopen).step_eq⟩
  | read hread => exact ⟨app', (Step.read hread).step_eq⟩
  | @tryNext socket d sent result =>
    rw [← recvFrame_congr hcfg]
    -- Lookups are the same in both states, so the same stages come of them
    exact ⟨app', Step.tryNext.step_eq⟩
  | @process socket d call sent =>
    rw [← process_congr hcfg]
    exact ⟨_, Step.process.step_eq⟩
  | _ => exact ⟨app', rfl⟩

/-- A receive happens at the select of an identified connection; it ends the call, skips the
request or begins to send it. -/
theorem recvRequest_cases {r : Except Broadcast.RecvError DeviceBoundKryptonMessage}
    (h : c.recvRequest env r = some c') :
    ∃ d sent, c.stage = .running d .selecting sent ∧
      ((∃ e, r = .error e ∧ c' = { c with
          stage :=
            .returned (some d) sent (.error ["failed to recv krypton message", e.message]) }) ∨
        (∃ m, r = .ok m ∧ m.requestDevice ≠ some d ∧ c' = c) ∨
        ∃ m, r = .ok m ∧ m.requestDevice = some d ∧
          c' = { c with stage := startSend env m d sent }) := by
  -- Only a connection that selects receives
  simp only [recvRequest] at h
  split at h
  · rename_i d sent hs
    refine ⟨d, sent, hs, ?_⟩
    split at h
    · rename_i e
      cases h
      exact .inl ⟨e, rfl, rfl⟩
    · rename_i m
      split at h
      · rename_i hm
        cases h
        exact .inr (.inl ⟨m, rfl, hm.symm, rfl⟩)
      · rename_i hm
        cases h
        exact .inr (.inr ⟨m, rfl, (not_not.mp hm).symm, rfl⟩)
  · exact nomatch h

end Conn

/-- A Krypton connection keeps to what every controller's connections do. -/
theorem handleConn_lawful (env : Env) (globalConfig : KryptonControllerGlobalConfig)
    (deviceCerts : AList fun _ : DeviceId => List UInt8) :
    (handleConn env globalConfig deviceCerts).Lawful where
  start_open _ := rfl
  start_device _ := rfl
  step_open h := Conn.step_open h
  step_device h hd := Conn.step_device h hd
  step_sameConfig h := Conn.step_sameConfig h
  step_congr hcfg h := Conn.step_congr hcfg h
  recv_open := by
    intro c r c' h
    -- A connection that receives is running
    obtain ⟨d, sent, hs, -⟩ := Conn.recvRequest_cases h
    simp [handleConn, Conn.isOpen, hs]
  recv_device := by
    intro c r c' h
    obtain ⟨d, sent, hs, h⟩ := Conn.recvRequest_cases h
    have hd : c.device = some d := by simp [Conn.device, hs]
    refine ⟨d, hd, ?_⟩
    rcases h with ⟨e, -, rfl⟩ | ⟨m, -, -, rfl⟩ | ⟨m, -, -, rfl⟩
    · rfl
    · exact hd
    · exact Conn.startSend_device env m d sent c.socket
  recv_foreign := by
    intro c m c' h hne
    have hrecv : c.recvRequest env (.ok m) = some c' := h
    obtain ⟨d, sent, hs, h⟩ := Conn.recvRequest_cases hrecv
    -- Its device is that of the loop
    have hd : c.device = some d := by simp [Conn.device, hs]
    rcases h with ⟨e, he, -⟩ | ⟨m', -, -, rfl⟩ | ⟨m', he, hm, -⟩
    · exact nomatch he
    · rfl
    · cases he
      exact absurd (hd.trans hm.symm) hne

end Devicectrl.Krypton

/-! ## A small configuration

One device, for runs that show what the results are about. -/

namespace Devicectrl.Krypton.Demo

def lamp : DeviceId := ⟨"lamp"⟩

def fan : DeviceId := ⟨"fan"⟩

def app : AppState :=
  .new (AList.insert lamp ⟨lamp, .switch, .unknown, .krypton ⟨[7]⟩⟩ ∅) ⟨false, true, false, false⟩

/-- The certificate and the key the server has for itself. -/
def globalConfig : KryptonControllerGlobalConfig := ⟨[8], [9]⟩

/-- The certificates of the configuration: that of the lamp. -/
def deviceCerts : AList fun _ : DeviceId => List UInt8 :=
  collectCerts app.devices

/-- Any first byte makes a complete client hello, of the lamp. -/
def env : Env where
  readTls _ := .ok ()
  accept
    | [] => .ok none
    | _ :: _ => .ok (some ⟨some "krypton-deviceid=lamp"⟩)
  deviceIdFrom name := some ⟨name⟩
  certFromPem pem := .ok pem
  addRoot _ := .ok ()
  buildVerifier _ := .ok ()
  keyFromPem pem := .ok pem
  withSingleCert _ _ := .ok ()
  fromSlice _ := .error ["expected value"]
  toVec _ := .ok [1]

/-- Connection `0` is at its select, as the lamp. -/
def connect : List (System.Act Server.Call Unit (HandleConn.Label Conn.Label)) :=
  [.spawn (), .step 0 (.own (.deliver [22])), .step 0 (.own (.tryRead (.ok 1))),
    .step 0 (.own (.accept (.ok ())))]

end Devicectrl.Krypton.Demo
