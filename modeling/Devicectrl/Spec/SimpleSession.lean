import Devicectrl.Native.SimpleConn

/-!
# The steps of a Simple connection

`Session.Step` says what each step of the two loops can do, and `Conn.Step` what each step of a
connection can; later modules derive their invariants from them.

## Key results

- `Session.step_cases`: every step is one of `Session.Step`
- `Conn.step_cases`: every step of a connection is one of `Conn.Step`
- `handleConn_lawful`: `handle_conn` keeps to what every controller's connections do
-/

namespace Devicectrl.Simple

variable {env : Env} {key : SigningKey} {app app' : AppState} {socket socket' : Socket}
  {s s' : Session}

namespace Session

/-! ## Beginning to write -/

/-- A frame is signed under the next nonce and its writing begins, or the loop ends. -/
theorem startWrite_cases (env : Env) (key : SigningKey) (m : DeviceBoundSimpleMessage)
    (s : Session) :
    (∃ F, IsSentFrame env key (s.sendNonce + 1) m F ∧
      s.startWrite env key m = { s with
        sendNonce := s.sendNonce + 1
        handler := .writing m F 0 }) ∨
      ∃ e nonce, s.startWrite env key m = { s with
        sendNonce := nonce
        handler := .ended (.error e) } := by
  -- The nonce has moved on in both, whether or not the frame could be signed
  rw [startWrite]
  split
  · rename_i e nonce h
    exact .inr ⟨e, nonce, rfl⟩
  · rename_i F nonce h
    obtain ⟨rfl, hF⟩ := createSignedMessage_ok h
    exact .inl ⟨F, hF, rfl⟩

/-- The message cannot be signed as the next one of the session. -/
def Unsignable (env : Env) (key : SigningKey) (s : Session) (m : DeviceBoundSimpleMessage) : Prop :=
  ∃ e, (createSignedMessage env m s.sendNonce key).1 = .error e

/-- Beginning to write changes the nonce and the select loop only. -/
theorem startWrite_frame (env : Env) (key : SigningKey) (m : DeviceBoundSimpleMessage)
    (s : Session) :
    ∃ sendNonce handler, s.startWrite env key m = { s with sendNonce, handler } ∧
      handler ≠ .selecting ∧ (∀ call, handler ≠ .processing call) ∧ handler ≠ .ended (.ok ()) := by
  rcases startWrite_cases env key m s with ⟨F, -, h⟩ | ⟨e, nonce, h⟩
  · exact ⟨_, _, h, nofun, nofun, nofun⟩
  · exact ⟨_, _, h, nofun, nofun, nofun⟩

/-! ## The steps, one by one -/

/-- What a step of the two loops does. -/
inductive Step (env : Env) (key : SigningKey) (app : AppState) (socket : Socket) (s : Session) :
    Label → AppState → Socket → Session → Prop
  | accept {F m socket₁} (hr : s.reader = .reading) (hin : socket.input = F ++ socket₁.input)
      (heof : socket₁.eof = socket.eof)
      (hF : IsFrame env s.publicKey (s.expectedRecvNonce + 1) F m) :
      Step env key app socket s .read app socket₁ { s with
        reader := .sending m
        expectedRecvNonce := s.expectedRecvNonce + 1
        log := { s.log with accepted := s.log.accepted ++ [(F, m)] } }
  | reject {socket₁} (hr : s.reader = .reading) :
      Step env key app socket s .read app socket₁ { s with reader := .ended }
  | queue {m} (hr : s.reader = .sending m) (hcap : s.messages.queue.length < s.messages.capacity) :
      Step env key app socket s .send app socket { s with
        reader := .reading
        messages := { s.messages with queue := s.messages.queue ++ [m] } }
  | unqueued {m} (hr : s.reader = .sending m) (hrx : s.messages.receiver = false) :
      Step env key app socket s .send app socket { s with reader := .ended }
  | hangUp (hh : s.handler = .selecting) (hq : s.messages.queue = [])
      (hs : s.messages.senders = 0) :
      Step env key app socket s .recvMessage app socket { s with handler := .ended (.ok ()) }
  | refuse {m rest e} (hh : s.handler = .selecting) (hq : s.messages.queue = m :: rest)
      (hm : handleMessage m s.deviceId = .error e) :
      Step env key app socket s .recvMessage app socket
        ({ s with messages := { s.messages with queue := rest } }.fail env key e)
  | skip {m rest} (hh : s.handler = .selecting) (hq : s.messages.queue = m :: rest)
      (hm : handleMessage m s.deviceId = .ok none) :
      Step env key app socket s .recvMessage app socket
        { s with messages := { s.messages with queue := rest } }
  | notified {m rest n} (hh : s.handler = .selecting) (hq : s.messages.queue = m :: rest)
      (hm : handleMessage m s.deviceId = .ok (some n)) :
      Step env key app socket s .recvMessage app socket { s with
        messages := { s.messages with queue := rest }
        handler := .processing (.store n) }
  | store {n app₁} (hh : s.handler = .processing (.store n))
      (hn : storeNotification n app = .ok app₁) :
      Step env key app socket s .process app₁ socket { s with
        handler := .processing (.sendHook n)
        log := { s.log with applied := s.log.applied ++ [n] } }
  | sendHook {n app₁} (hh : s.handler = .processing (.sendHook n))
      (hn : sendNotificationHook n app = .ok app₁) :
      Step env key app socket s .process app₁ socket { s with
        handler := .selecting
        log := { s.log with hooked := s.log.hooked ++ [n] } }
  | failStore {n e} (hh : s.handler = .processing (.store n))
      (hn : storeNotification n app = .error e) :
      Step env key app socket s .process app socket
        (s.fail env key ("failed to process simple update notification" :: e))
  | failHook {n e} (hh : s.handler = .processing (.sendHook n))
      (hn : sendNotificationHook n app = .error e) :
      Step env key app socket s .process app socket
        (s.fail env key ("failed to process simple update notification" :: e))
  | writeSome {m F done n} (hh : s.handler = .writing m F done) (hn : 0 < n)
      (hlt : done + n < F.length) :
      Step env key app socket s (.write (.ok n)) app socket { s with
        handler := .writing m F (done + n)
        log := { s.log with output := s.log.output ++ (F.drop done).take n } }
  | writeAll {m F done n} (hh : s.handler = .writing m F done) (hn : 0 < n)
      (heq : done + n = F.length) :
      Step env key app socket s (.write (.ok n)) app socket { s with
        handler := .selecting
        log := { s.log with
          written := s.log.written ++ [(m, F)]
          output := s.log.output ++ F.drop done } }
  | writeError {m F done e} (hh : s.handler = .writing m F done) :
      Step env key app socket s (.write (.error e)) app socket
        { s with handler := .ended (.error e) }

theorem read_cases (h : s.read env socket = some (socket', s')) :
    Step env key app socket s .read app socket' s' := by
  simp only [read] at h
  split at h
  · rename_i hr
    split at h
    · exact nomatch h
    · cases h
      exact .reject hr
    · rename_i m nonce socket₂ hread
      cases h
      -- The message read was a frame at the head of the input
      obtain ⟨rfl, heof, F, hin, hF⟩ := readSignedMessage_ok_iff.mp hread
      have hframe : socket.input.take (socket.input.length - socket'.input.length) = F := by
        rw [hin, List.length_append, Nat.add_sub_cancel, List.take_left]
      rw [hframe]
      exact .accept hr hin heof hF
  · exact nomatch h

theorem send_cases (h : s.send = some s') : Step env key app socket s .send app socket s' := by
  simp only [send] at h
  split at h
  · rename_i m hr
    split at h
    · exact nomatch h
    · rename_i m' hm
      -- The queue is full, its receiver dropped, or the message is queued
      cases h
      apply Step.unqueued hr
      by_cases hrx : s.messages.receiver = true
      · exact absurd hm (Mpsc.Channel.send_ne_error hrx)
      · simpa using hrx
    · rename_i messages hm
      cases h
      obtain ⟨rfl, hcap⟩ := Mpsc.Channel.send_ok hm
      exact .queue hr hcap
  · exact nomatch h

theorem recvMessage_cases (h : s.recvMessage env key = some s') :
    Step env key app socket s .recvMessage app socket s' := by
  simp only [recvMessage] at h
  split at h
  · rename_i hh
    -- Nothing is queued and there is a sender, there is none, or a message is taken
    split at h
    · exact nomatch h
    · rename_i messages hrecv
      cases h
      obtain ⟨hq, hs, rfl⟩ := Mpsc.Channel.recv_none_iff.mp hrecv
      exact .hangUp hh hq hs
    · rename_i m messages hrecv
      obtain ⟨hq, hmessages⟩ := Mpsc.Channel.recv_some hrecv
      rw [hmessages] at h
      split at h
      · rename_i e hm
        cases h
        exact .refuse hh hq hm
      · rename_i hm
        cases h
        exact .skip hh hq hm
      · rename_i n hm
        cases h
        exact .notified hh hq hm
  · exact nomatch h

theorem process_cases (h : s.process env key app = some (app', s')) :
    Step env key app socket s .process app' socket s' := by
  simp only [process] at h
  split at h
  · rename_i call hh
    -- The call says what it did to the table or the channel
    cases hp : processUpdateNotification app call with
    | mk app₁ r =>
      rw [hp] at h
      cases processUpdateNotification_cases hp with
      | store hn =>
        cases h
        exact .store hh hn
      | failStore hn =>
        cases h
        exact .failStore hh hn
      | sendHook hn =>
        cases h
        exact .sendHook hh hn
      | failHook hn =>
        cases h
        exact .failHook hh hn
  · cases h

theorem write_cases {result : Except Error Nat} (h : s.write result = some s') :
    Step env key app socket s (.write result) app socket s' := by
  simp only [write] at h
  split at h
  · rename_i m F done hh
    split at h
    · cases h
      exact .writeError hh
    · rename_i n
      split at h
      · rename_i hn
        split at h
        · rename_i heq
          cases h
          -- The write completes the frame
          have htake : (F.drop done).take n = F.drop done :=
            List.take_of_length_le (by rw [List.length_drop]; omega)
          rw [htake]
          exact .writeAll hh hn.1 heq
        · cases h
          exact .writeSome hh hn.1 (by omega)
      · exact nomatch h
  · exact nomatch h

/-- Every step of the two loops is one of `Step`. -/
theorem step_cases {l : Label} (h : s.step env key app socket l = some (app', socket', s')) :
    Step env key app socket s l app' socket' s' := by
  cases l with
  | read =>
    obtain ⟨p, hp, h⟩ := Option.map_eq_some_iff.mp h
    cases h
    exact read_cases hp
  | send =>
    obtain ⟨s₁, hs, h⟩ := Option.map_eq_some_iff.mp h
    cases h
    exact send_cases hs
  | recvMessage =>
    obtain ⟨s₁, hs, h⟩ := Option.map_eq_some_iff.mp h
    cases h
    exact recvMessage_cases hs
  | process =>
    obtain ⟨p, hp, h⟩ := Option.map_eq_some_iff.mp h
    cases h
    exact process_cases hp
  | write result =>
    obtain ⟨s₁, hs, h⟩ := Option.map_eq_some_iff.mp h
    cases h
    exact write_cases hs

/-- A receive ends the loop, skips the request or begins to write it. -/
theorem recvRequest_cases {r : Except Broadcast.RecvError DeviceBoundSimpleMessage}
    (h : s.recvRequest env key r = some s') :
    s.handler = .selecting ∧
      ((∃ e, r = .error e ∧
          s' = { s with handler := .ended (.error ["failed to recv simple message", e.message]) }) ∨
        (∃ m, r = .ok m ∧ m.requestDevice ≠ some s.deviceId ∧ s' = s) ∨
        ∃ m, r = .ok m ∧ m.requestDevice = some s.deviceId ∧ s' = s.startWrite env key m) := by
  simp only [recvRequest] at h
  split at h
  · rename_i hh
    refine ⟨hh, ?_⟩
    -- Lagging behind ends the handler; else the message is its device's own or not
    split at h
    · rename_i e
      cases h
      exact .inl ⟨e, rfl, rfl⟩
    · rename_i m
      split at h
      · rename_i hm
        cases h
        exact .inr (.inl ⟨m, rfl, hm.symm, rfl⟩)
      · rename_i hm
        cases h
        exact .inr (.inr ⟨m, rfl, (not_not.mp hm).symm, rfl⟩)
  · exact nomatch h

/-! ## What no step changes -/

/-- A session keeps its device, its key and the nonces it began with. -/
structure SamePeer (s s' : Session) : Prop where
  deviceId : s'.deviceId = s.deviceId
  publicKey : s'.publicKey = s.publicKey
  startNonce : s'.startNonce = s.startNonce
  peerNonce : s'.peerNonce = s.peerNonce

/-- A write is to the same peer. -/
theorem samePeer_startWrite (env : Env) (key : SigningKey) (m : DeviceBoundSimpleMessage)
    (s : Session) : s.SamePeer (s.startWrite env key m) := by
  obtain ⟨nonce, handler, he, -⟩ := startWrite_frame env key m s
  rw [he]
  exact ⟨rfl, rfl, rfl, rfl⟩

/-- A session keeps its peer. -/
theorem Step.samePeer {l : Label} (h : Step env key app socket s l app' socket' s') :
    s.SamePeer s' := by
  cases h with
  | @refuse m rest e =>
    obtain ⟨h₁, h₂, h₃, h₄⟩ := samePeer_startWrite env key
      (.failure ("failed to handle simple message" :: e))
      { s with messages := { s.messages with queue := rest } }
    exact ⟨h₁, h₂, h₃, h₄⟩
  | failStore => exact samePeer_startWrite env key _ s
  | failHook => exact samePeer_startWrite env key _ s
  | _ => exact ⟨rfl, rfl, rfl, rfl⟩

/-- A request that is received leaves the session its peer. -/
theorem recvRequest_samePeer {r : Except Broadcast.RecvError DeviceBoundSimpleMessage}
    (h : s.recvRequest env key r = some s') : s.SamePeer s' := by
  obtain ⟨-, ⟨e, -, rfl⟩ | ⟨m, -, -, rfl⟩ | ⟨m, -, -, rfl⟩⟩ := recvRequest_cases h
  · exact ⟨rfl, rfl, rfl, rfl⟩
  · exact ⟨rfl, rfl, rfl, rfl⟩
  · exact samePeer_startWrite env key m s

/-- No step of a session changes the configuration. -/
theorem Step.sameConfig {l : Label} (h : Step env key app socket s l app' socket' s') :
    app.SameConfig app' := by
  cases h with
  | store _ hn => exact storeNotification_sameConfig hn
  | sendHook _ hn => exact sendNotificationHook_sameConfig hn
  | _ => exact .refl app

end Session

/-! ## Steps of a connection -/

namespace Conn

variable {c c' : Conn}

/-- What a connection can do where the server is `app`. Inside the scope it is the session that
goes on; the other steps leave `app` alone. -/
inductive Step (env : Env) (key : SigningKey) (app : AppState) :
    Conn → Label → AppState → Conn → Prop
  | deliver {socket : Socket} {n : UInt32} {stage : Stage} {bytes : List UInt8}
      (hopen : isOpen ⟨socket, n, stage⟩ = true) (heof : socket.eof = false) :
      Step env key app ⟨socket, n, stage⟩ (.deliver bytes) app
        ⟨{ socket with input := socket.input ++ bytes }, n, stage⟩
  | hangUp {socket : Socket} {n : UInt32} {stage : Stage}
      (hopen : isOpen ⟨socket, n, stage⟩ = true) :
      Step env key app ⟨socket, n, stage⟩ .hangUp app ⟨{ socket with eof := true }, n, stage⟩
  | greet {socket : Socket} {n : UInt32} :
      Step env key app ⟨socket, n, .greeting⟩ (.greet (.ok ())) app ⟨socket, n, .identifying⟩
  | greetError {socket : Socket} {n : UInt32} {e : Error} :
      Step env key app ⟨socket, n, .greeting⟩ (.greet (.error e)) app
        ⟨socket, n, .returned none (.error e)⟩
  | unidentified {socket socket' : Socket} {n : UInt32} {e : Error}
      (h : identify env app ⟨socket, n, .identifying⟩ =
        some ⟨socket', n, .returned none (.error e)⟩) :
      Step env key app ⟨socket, n, .identifying⟩ .identify app
        ⟨socket', n, .returned none (.error e)⟩
  | identified {socket socket' : Socket} {n sendNonce : UInt32} {d : DeviceId}
      {publicKey : VerifyingKey} (hkey : lookupPublicKey app.devices d = .ok publicKey)
      (h : identify env app ⟨socket, n, .identifying⟩ =
        some ⟨socket', n, .running (.start d publicKey n sendNonce)⟩) :
      Step env key app ⟨socket, n, .identifying⟩ .identify app
        ⟨socket', n, .running (.start d publicKey n sendNonce)⟩
  | session {socket socket' : Socket} {n : UInt32} {s s' : Session} {l : Session.Label}
      {app' : AppState} (h : s.step env key app socket l = some (app', socket', s')) :
      Step env key app ⟨socket, n, .running s⟩ (.session l) app' ⟨socket', n, .running s'⟩
  | finish {socket : Socket} {n : UInt32} {s : Session} {r : Except Error Unit}
      (hreader : s.reader = .ended) (hhandler : s.handler = .ended r) :
      Step env key app ⟨socket, n, .running s⟩ .finish app ⟨socket, n, .returned (some s) r⟩

variable {l : Label}

theorem step_cases (h : c.step env key app l = some (app', c')) :
    Step env key app c l app' c' := by
  -- The steps are split as `Conn.step` is, first by the label and then by the stage
  obtain ⟨socket, n, stage⟩ := c
  cases l with
  | deliver bytes =>
    simp only [step] at h
    split at h
    · rename_i hopen
      cases h
      exact .deliver hopen.1 hopen.2
    · cases h
  | hangUp =>
    simp only [step] at h
    split at h
    · rename_i hopen
      cases h
      exact .hangUp hopen
    · cases h
  | greet result =>
    cases stage with
    | greeting =>
      cases result with
      | error e =>
        cases h
        exact .greetError
      | ok _ =>
        cases h
        exact .greet
    | _ => cases h
  | identify =>
    cases stage with
    | identifying =>
      obtain ⟨c₁, hc, h⟩ := Option.map_eq_some_iff.mp h
      cases h
      have hidentify := hc
      simp only [identify] at hc
      split at hc
      · cases hc
      · cases hc
        exact .unidentified hidentify
      · split at hc
        · cases hc
          exact .unidentified hidentify
        · rename_i publicKey hkey
          cases hc
          exact .identified hkey hidentify
    | _ => cases h
  | session l =>
    cases stage with
    | running s =>
      simp only [step] at h
      split at h
      · cases h
      · rename_i app₁ socket₁ s₁ hstep
        cases h
        exact .session hstep
    | _ => cases h
  | finish =>
    cases stage with
    | running s =>
      simp only [step] at h
      split at h
      · rename_i r hreader hhandler
        cases h
        exact .finish hreader hhandler
      · cases h
    | _ => cases h

/-- Only a session receives requests. -/
theorem recvRequest_session {r : Except Broadcast.RecvError DeviceBoundSimpleMessage}
    (h : c.recvRequest env key r = some c') :
    ∃ s s', c.stage = .running s ∧ s.recvRequest env key r = some s' ∧
      c' = { c with stage := .running s' } := by
  simp only [recvRequest] at h
  split at h
  · rename_i s hs
    obtain ⟨s', hr, rfl⟩ := Option.map_eq_some_iff.mp h
    exact ⟨s, s', hs, hr, rfl⟩
  · exact nomatch h

end Conn

/-! ## Steps of the shared state -/

/-- The public key depends on the configuration only. -/
theorem lookupPublicKey_congr (h : app.SameConfig app') (d : DeviceId) :
    lookupPublicKey app'.devices d = lookupPublicKey app.devices d := by
  simp only [lookupPublicKey]
  cases hd : app.devices.lookup d with
  | none => rw [h.lookup_none hd]
  | some device =>
    obtain ⟨device', hd', hcfg⟩ := h.lookup hd
    have hctl : device'.controller = device.controller := congrArg (fun p => p.2.2) hcfg
    simp only [hd', hctl]

/-- Processing reads the configuration alone to choose the next stage. -/
theorem Session.process_congr (h : app.SameConfig app') {app₁ : AppState}
    (hs : s.process env key app = some (app₁, s')) :
    ∃ app₁', s.process env key app' = some (app₁', s') := by
  simp only [process] at hs ⊢
  split at hs
  · rename_i call hh
    have hcall := processUpdateNotification_congr h call
    rcases hr : processUpdateNotification app call with ⟨app₃, r⟩
    rcases hr' : processUpdateNotification app' call with ⟨app₃', r'⟩
    simp only [hr, hr'] at hcall hs ⊢
    -- The call answers the same, whatever the stored states are
    subst hcall
    match r', hs with
    | .inl call', hs => cases hs; exact ⟨app₃', rfl⟩
    | .inr (.error e), hs => cases hs; exact ⟨app₃', rfl⟩
    | .inr (.ok ()), hs => cases hs; exact ⟨app₃', rfl⟩
  · exact nomatch hs

/-- What a step of the two loops does depends on the configuration only. -/
theorem Session.step_congr (h : app.SameConfig app') {l : Session.Label} {app₁ : AppState}
    (hs : s.step env key app socket l = some (app₁, socket', s')) :
    ∃ app₁', s.step env key app' socket l = some (app₁', socket', s') := by
  -- Of the server only `process` reads the table, and that just for the device's name
  cases l with
  | process =>
    obtain ⟨p, hp, hs⟩ := Option.map_eq_some_iff.mp hs
    cases hs
    obtain ⟨app₁', hp'⟩ := process_congr h hp
    exact ⟨app₁', by simp [step, hp']⟩
  | read =>
    obtain ⟨p, hp, hs⟩ := Option.map_eq_some_iff.mp hs
    cases hs
    exact ⟨app', by simp [step, hp]⟩
  | send =>
    obtain ⟨p, hp, hs⟩ := Option.map_eq_some_iff.mp hs
    cases hs
    exact ⟨app', by simp [step, hp]⟩
  | recvMessage =>
    obtain ⟨p, hp, hs⟩ := Option.map_eq_some_iff.mp hs
    cases hs
    exact ⟨app', by simp [step, hp]⟩
  | write result =>
    obtain ⟨p, hp, hs⟩ := Option.map_eq_some_iff.mp hs
    cases hs
    exact ⟨app', by simp [step, hp]⟩

/-- The device that identifies is looked up in the configuration alone. -/
theorem Conn.identify_congr (h : app.SameConfig app') (c : Conn) :
    c.identify env app' = c.identify env app := by
  simp only [identify, lookupPublicKey_congr h]

/-- A step is possible whatever the states in the table. -/
theorem Conn.step_congr (h : app.SameConfig app') {l : Conn.Label} {app₁ : AppState} {c c' : Conn}
    (hs : c.step env key app l = some (app₁, c')) :
    ∃ app₁', c.step env key app' l = some (app₁', c') := by
  -- Identifying looks the key up in the configuration, which is the same
  cases step_cases hs with
  | deliver hopen heof => exact ⟨app', if_pos ⟨hopen, heof⟩⟩
  | hangUp hopen => exact ⟨app', if_pos hopen⟩
  | greet => exact ⟨app', rfl⟩
  | greetError => exact ⟨app', rfl⟩
  | unidentified hidentify =>
    refine ⟨app', ?_⟩
    simp only [step, identify_congr h, hidentify, Option.map_some]
  | identified _ hidentify =>
    refine ⟨app', ?_⟩
    simp only [step, identify_congr h, hidentify, Option.map_some]
  | session hstep =>
    obtain ⟨app₁', hstep'⟩ := Session.step_congr h hstep
    refine ⟨app₁', ?_⟩
    simp only [step, hstep']
  | finish hreader hhandler =>
    refine ⟨app', ?_⟩
    simp only [step, hreader, hhandler]

/-- A Simple connection keeps to what every controller's connections do. -/
theorem handleConn_lawful (env : Env) (key : SigningKey) : (handleConn env key).Lawful where
  start_open _ := rfl
  start_device _ := rfl
  step_open := by
    intro app c l app' c' h
    cases Conn.step_cases h with
    | deliver hopen _ => exact hopen
    | hangUp hopen => exact hopen
    | _ => rfl
  step_device := by
    -- The device is known from the hello on, and a session keeps it
    intro app c l app' c' d h hd
    cases Conn.step_cases h with
    | deliver _ _ => exact hd
    | hangUp _ => exact hd
    | greet => cases hd
    | greetError => cases hd
    | unidentified _ => cases hd
    | identified _ _ => cases hd
    | session hstep =>
      cases hd
      exact congrArg some (Session.step_cases hstep).samePeer.deviceId
    | finish _ _ => exact hd
  step_sameConfig := by
    intro app c l app' c' h
    cases Conn.step_cases h with
    | session hstep => exact (Session.step_cases hstep).sameConfig
    | _ => exact .refl app
  step_congr := fun h hs => Conn.step_congr h hs
  recv_open := by
    intro c r c' h
    obtain ⟨s, s', hs, -⟩ := Conn.recvRequest_session h
    simp [handleConn, Conn.isOpen, hs]
  recv_device := by
    intro c r c' h
    obtain ⟨s, s', hs, hr, rfl⟩ := Conn.recvRequest_session h
    refine ⟨s.deviceId, by simp [handleConn, Conn.device, hs, Stage.session?], ?_⟩
    simp [handleConn, Conn.device, Stage.session?, (Session.recvRequest_samePeer hr).deviceId]
  recv_foreign := by
    intro c m c' h hd
    obtain ⟨s, s', hs, hr, rfl⟩ := Conn.recvRequest_session h
    -- A message for another device finds the session selecting and leaves it so
    simp only [handleConn, Conn.device, hs, Stage.session?, Option.map_some] at hd
    obtain ⟨-, ⟨e, he, -⟩ | ⟨m', -, -, rfl⟩ | ⟨m', he, hm, -⟩⟩ := Session.recvRequest_cases hr
    · exact nomatch he
    · rw [← hs]
    · cases he
      exact absurd hm.symm hd

end Devicectrl.Simple
