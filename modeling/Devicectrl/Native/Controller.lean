import Devicectrl.ForStd.System
import Devicectrl.Native.Dispatch

/-!
# Controllers with a request broadcast

What `controllers/simple.rs` and `controllers/krypton.rs` share: the broadcast channel of
requests, the listener that subscribes every connection it accepts, `send_query` and
`send_update`. The two differ in `handle_conn`, which is the parameter `HandleConn`.
-/

namespace Devicectrl

/-- `SimpleController` and `KryptonController`. -/
structure Controller where
  requestSender : Broadcast.Channel DeviceBoundMessage
  requestReceiver : Broadcast.Receiver
  deriving DecidableEq

namespace Controller

/-- A controller with nothing connected. Its channel holds 64 requests. -/
def new : Controller :=
  let (sender, receiver) := Broadcast.channel 64
  ⟨sender, receiver⟩

/-- The common end of `send_query` and `send_update`. -/
def send (controller : Controller) (request : DeviceBoundMessage) : Except Error Controller :=
  match controller.requestSender.send request with
  | none => .error ["channel closed"]
  | some sender => .ok { controller with requestSender := sender }

/-- `send_query`: the query is broadcast. -/
def sendQuery (controller : Controller) (device : Device) : Except Error Controller :=
  controller.send (.stateQuery device.id)

/-- `send_update`: the command is broadcast. -/
def sendUpdate (controller : Controller) (request : UpdateRequest) : Except Error Controller :=
  controller.send (.updateCommand ⟨request.deviceId, request.update⟩)

end Controller

/-- The state that the connections of a controller share. -/
structure Server where
  app : AppState
  controller : Controller

namespace Server

/-- What happens outside the connections: calls of the controller, and the other tasks. -/
inductive Call where
  | sendUpdate (request : UpdateRequest)
  | sendQuery (device : Device)
  | task (task : Task)
  deriving DecidableEq

/-- The request a call broadcasts. -/
def Call.request? : Call → Option DeviceBoundMessage
  | .sendUpdate request => some (.updateCommand ⟨request.deviceId, request.update⟩)
  | .sendQuery device => some (.stateQuery device.id)
  | .task _ => none

/-- A call that reports an error changes nothing. -/
def call (server : Server) : Call → Option Server
  | .sendUpdate request =>
    match server.controller.sendUpdate request with
    | .error _ => some server
    | .ok controller => some { server with controller }
  | .sendQuery device =>
    match server.controller.sendQuery device with
    | .error _ => some server
    | .ok controller => some { server with controller }
  | .task task => (task.run server.app).map fun app => { server with app }

/-- One turn of the loop in `start_listening`: the connection is subscribed. -/
def subscribe (server : Server) : Server × Broadcast.Receiver :=
  let (sender, receiver) := server.controller.requestSender.resubscribe
  ({ server with controller := { server.controller with requestSender := sender } }, receiver)

/-- The end of `handle_conn`, which owns its receiver. -/
def unsubscribe (server : Server) : Server :=
  { server with
    controller := { server.controller with
      requestSender := server.controller.requestSender.dropReceiver } }

end Server

/-- The `handle_conn` of a controller. Its states are the `κ`; it starts with a `ν` and
takes the steps `ℓ`, besides those in which its select loop receives a request. `isOpen`
tells whether it has returned, `device` as whom the peer is identified, `written` what it
has written to it, each message with its bytes. -/
structure HandleConn (κ ν ℓ : Type) where
  start : ν → κ
  step : AppState → κ → ℓ → Option (AppState × κ)
  recvRequest : κ → Except Broadcast.RecvError DeviceBoundMessage → Option κ
  isOpen : κ → Bool
  device : κ → Option DeviceId
  written : κ → List (DeviceBoundMessage × List UInt8)

/-- A task that runs `handle_conn`: the state of the call, its receiver, and the number of
requests that had been broadcast when it was subscribed. -/
structure Connection (κ : Type) where
  conn : κ
  requestReceiver : Broadcast.Receiver
  since : Nat
  deriving DecidableEq

namespace HandleConn

variable {κ ν ℓ : Type}

/-- The step of a connection: one of its own, or a result of `request_receiver.recv()`. -/
inductive Label (ℓ : Type) where
  | own (l : ℓ)
  | recvRequest (request : Except Broadcast.RecvError DeviceBoundMessage)
  deriving DecidableEq

/-- A connection that has returned gives up its receiver. -/
def leave (H : HandleConn κ ν ℓ) (server : Server) (k : Connection κ) : Server × Connection κ :=
  if H.isOpen k.conn then (server, k) else (server.unsubscribe, k)

/-- One turn of a connection, which leaves its receiver when it ends. -/
def turn (H : HandleConn κ ν ℓ) (server : Server) (k : Connection κ) :
    Label ℓ → Option (Server × Connection κ)
  | .own l =>
    match H.step server.app k.conn l with
    | none => none
    | some (app, conn) => some (H.leave { server with app } { k with conn })
  | .recvRequest request =>
    match server.controller.requestSender.recv k.requestReceiver with
    | none => none
    | some (result, requestReceiver) =>
      -- The label names what the receive yields
      if result = request then
        (H.recvRequest k.conn request).map fun conn =>
          H.leave server { k with conn, requestReceiver }
      else none

/-- A controller with all its connections. -/
def system (H : HandleConn κ ν ℓ) :
    System Server (Connection κ) Server.Call ν (Label ℓ) where
  env := Server.call
  spawn server v :=
    let (server, receiver) := server.subscribe
    some (server, ⟨H.start v, receiver, receiver.next⟩)
  step := H.turn

/-- The controller before its first connection. -/
def initial (app : AppState) : System.State Server (Connection κ) :=
  ⟨⟨app, Controller.new⟩, []⟩

/-- The requests that the calls of a run broadcast, in order. -/
def requests (as : List (System.Act Server.Call ν (Label ℓ))) : List DeviceBoundMessage :=
  as.filterMap fun
    | .env c => c.request?
    | _ => none

/-- What every `handle_conn` does: it identifies its peer once and for all, receives
requests only after that, skips those for other devices, takes no step after it has
returned, and depends on the shared state through the configuration only. -/
structure Lawful (H : HandleConn κ ν ℓ) : Prop where
  start_open : ∀ v, H.isOpen (H.start v) = true
  start_device : ∀ v, H.device (H.start v) = none
  step_open : ∀ {app k l app' k'}, H.step app k l = some (app', k') → H.isOpen k = true
  step_device : ∀ {app k l app' k' d}, H.step app k l = some (app', k') →
    H.device k = some d → H.device k' = some d
  step_sameConfig : ∀ {app k l app' k'}, H.step app k l = some (app', k') → app.SameConfig app'
  step_congr : ∀ {app app₁ k l app' k'}, app.SameConfig app₁ →
    H.step app k l = some (app', k') → ∃ app₁', H.step app₁ k l = some (app₁', k')
  recv_open : ∀ {k r k'}, H.recvRequest k r = some k' → H.isOpen k = true
  recv_device : ∀ {k r k'}, H.recvRequest k r = some k' →
    ∃ d, H.device k = some d ∧ H.device k' = some d
  recv_foreign : ∀ {k m k'}, H.recvRequest k (.ok m) = some k' →
    H.device k ≠ m.requestDevice → k' = k

end HandleConn

/-! ## What the steps do -/

namespace Controller

variable {controller controller' : Controller} {request : DeviceBoundMessage}

/-- A request is sent only while somebody receives, and then to all. -/
theorem send_ok (h : controller.send request = .ok controller') :
    controller' = { controller with
      requestSender := { controller.requestSender with
        sent := controller.requestSender.sent ++ [request] } } := by
  rw [send] at h
  split at h
  · exact nomatch h
  · rename_i sender hs
    obtain ⟨rfl, -⟩ := Broadcast.Channel.send_eq_some hs
    cases h
    rfl

/-- With a receiver left, a request is always sent. -/
theorem send_of_pos (h : 0 < controller.requestSender.receivers) (request : DeviceBoundMessage) :
    controller.send request = .ok { controller with
      requestSender := { controller.requestSender with
        sent := controller.requestSender.sent ++ [request] } } := by
  rw [send, Broadcast.Channel.send_of_pos h]

end Controller

namespace Server

variable {server server' : Server} {c : Call}

/-- A call leaves the server as it is, broadcasts its request or is the step of a task. -/
theorem call_cases (h : server.call c = some server') :
    (∃ m, c.request? = some m ∧
      ((server.controller.send m = .ok server'.controller ∧ server'.app = server.app) ∨
        ((∃ e, server.controller.send m = .error e) ∧ server' = server))) ∨
      ∃ t : Task, c = .task t ∧ t.run server.app = some server'.app ∧
        server'.controller = server.controller := by
  cases c with
  | sendUpdate request =>
    refine .inl ⟨_, rfl, ?_⟩
    simp only [call] at h
    split at h
    · rename_i e he
      cases h
      -- The channel had no receiver: the call has failed and nothing is changed
      exact .inr ⟨⟨e, he⟩, rfl⟩
    · rename_i controller hc
      cases h
      exact .inl ⟨hc, rfl⟩
  | sendQuery device =>
    refine .inl ⟨_, rfl, ?_⟩
    simp only [call] at h
    split at h
    · rename_i e he
      cases h
      exact .inr ⟨⟨e, he⟩, rfl⟩
    · rename_i controller hc
      cases h
      exact .inl ⟨hc, rfl⟩
  -- What a call of another task does is none of this controller's
  | task t =>
    obtain ⟨app, ha, rfl⟩ := Option.map_eq_some_iff.mp h
    exact .inr ⟨t, rfl, ha, rfl⟩

/-- No call changes the configuration, the channel but for what it sends, or its receivers. -/
theorem call_frame (h : server.call c = some server') :
    server.app.SameConfig server'.app ∧
      server.controller.requestSender.Grows server'.controller.requestSender ∧
      server'.controller.requestSender.receivers = server.controller.requestSender.receivers := by
  rcases call_cases h with ⟨m, -, ⟨hs, ha⟩ | ⟨-, rfl⟩⟩ | ⟨t, -, ht, hc⟩
  · rw [ha, Controller.send_ok hs]
    exact ⟨.refl _, .append _ _, rfl⟩
  · exact ⟨.refl _, .refl _, rfl⟩
  · rw [hc]
    exact ⟨t.run_sameConfig ht, .refl _, rfl⟩

end Server

namespace HandleConn

variable {κ ν ℓ : Type} {H : HandleConn κ ν ℓ} {server server' : Server} {k k' : Connection κ}

@[simp] theorem requests_nil : requests ([] : List (System.Act Server.Call ν (Label ℓ))) = [] :=
  rfl

/-- The requests of a run keep their order. -/
@[simp] theorem requests_append (as bs : List (System.Act Server.Call ν (Label ℓ))) :
    requests (as ++ bs) = requests as ++ requests bs :=
  List.filterMap_append

/-- A connection that is over takes its receiver with it, and nothing else. -/
theorem leave_eq (H : HandleConn κ ν ℓ) (server : Server) (k : Connection κ) :
    (H.leave server k).2 = k ∧ (H.leave server k).1.app = server.app ∧
      server.controller.requestSender.Grows (H.leave server k).1.controller.requestSender ∧
      (H.leave server k).1.controller.requestSender.sent =
        server.controller.requestSender.sent := by
  rw [leave]
  split
  · exact ⟨rfl, rfl, .refl _, rfl⟩
  · exact ⟨rfl, rfl, ⟨rfl, rfl, List.prefix_refl _⟩, rfl⟩

/-- The receivers a connection leaves behind. -/
theorem leave_receivers (H : HandleConn κ ν ℓ) (server : Server) (k : Connection κ) :
    (H.leave server k).1.controller.requestSender.receivers =
      server.controller.requestSender.receivers - if H.isOpen k.conn then 0 else 1 := by
  rw [leave]
  split
  · rfl
  · rfl

/-- A step of `handle_conn` itself. -/
theorem turn_own {l : ℓ} (h : H.turn server k (.own l) = some (server', k')) :
    H.step server.app k.conn l = some (server'.app, k'.conn) ∧
      k' = { k with conn := k'.conn } ∧
      server' = (H.leave { server with app := server'.app } k').1 := by
  -- `leave` drops the receiver of a connection that has returned, and nothing else
  simp only [turn] at h
  split at h
  · exact nomatch h
  · rename_i app conn hs
    have he := Option.some.inj h
    obtain ⟨hk, happ, -⟩ := H.leave_eq { server with app } { k with conn }
    rw [he] at hk happ
    dsimp only at hk happ
    subst hk
    rw [happ]
    exact ⟨hs, rfl, by rw [he]⟩

/-- A receive of the select loop. -/
theorem turn_recv {r : Except Broadcast.RecvError DeviceBoundMessage}
    (h : H.turn server k (.recvRequest r) = some (server', k')) :
    server.controller.requestSender.recv k.requestReceiver = some (r, k'.requestReceiver) ∧
      H.recvRequest k.conn r = some k'.conn ∧ k'.since = k.since ∧
      server' = (H.leave server k').1 := by
  simp only [turn] at h
  split at h
  · exact nomatch h
  · rename_i r' rx hr
    split at h
    · -- the receive has to yield what the label says
      rename_i he
      subst he
      obtain ⟨conn, hc, h⟩ := Option.map_eq_some_iff.mp h
      obtain ⟨hk, -⟩ := H.leave_eq server { k with conn, requestReceiver := rx }
      rw [h] at hk
      dsimp only at hk
      subst hk
      exact ⟨hr, hc, rfl, by rw [h]⟩
    · exact nomatch h

/-- No step of a connection changes the configuration or what has been broadcast. -/
theorem Lawful.turn_frame (hH : H.Lawful) {l : Label ℓ}
    (h : H.turn server k l = some (server', k')) :
    server.app.SameConfig server'.app ∧
      server.controller.requestSender.Grows server'.controller.requestSender ∧
      server'.controller.requestSender.sent = server.controller.requestSender.sent := by
  cases l with
  | own l =>
    obtain ⟨hs, -, hserver⟩ := turn_own h
    refine ⟨hH.step_sameConfig hs, ?_⟩
    -- What was sent stays, and `leave` only takes a receiver away
    rw [hserver]
    exact (H.leave_eq { server with app := server'.app } k').2.2
  | recvRequest r =>
    obtain ⟨-, -, -, hserver⟩ := turn_recv h
    rw [hserver]
    obtain ⟨-, happ, hg⟩ := H.leave_eq server k'
    exact ⟨by rw [happ]; exact .refl _, hg⟩

/-- An accepted connection starts at the tail of the broadcast. -/
theorem spawn_eq {v : ν} (h : H.system.spawn server v = some (server', k')) :
    server' = server.subscribe.1 ∧ k' = ⟨H.start v, ⟨server.controller.requestSender.sent.length⟩,
      server.controller.requestSender.sent.length⟩ := by
  cases h
  exact ⟨rfl, rfl⟩

end HandleConn

end Devicectrl
