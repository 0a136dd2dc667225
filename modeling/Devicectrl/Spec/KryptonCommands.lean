import Devicectrl.ForStd.Forwarding
import Devicectrl.Spec.KryptonConn
import Devicectrl.Spec.RequestBroadcast

/-!
# Commands to Krypton devices

What a connection sends, against the requests that were broadcast since it was accepted: its select
loop forwards those for its device, between the replies to what it could not handle.

## Key results

- `Conn.Step.forwarding`, `Conn.forwarding_recv`: the two ways a connection goes on
- `forwarding_run`: in every run the requests sent to a device are a prefix of those broadcast for
  it since its connection was accepted
-/

namespace Devicectrl.Krypton

variable {env : Env} {globalConfig : KryptonControllerGlobalConfig}
  {deviceCerts : AList fun _ : DeviceId => List UInt8} {app app' : AppState}
  {ch ch' : Broadcast.Channel DeviceBoundMessage} {since : Nat} {rx rx' : Broadcast.Receiver}

/-! ## Requests among the messages -/

/-- The requests among some messages that were sent. -/
def requestsOf (sent : List (DeviceBoundKryptonMessage × List UInt8)) : List DeviceBoundMessage :=
  (sent.map Prod.fst).filter fun m => m.requestDevice.isSome

/-- One frame more adds its request, where it is one. -/
theorem requestsOf_concat (sent : List (DeviceBoundKryptonMessage × List UInt8))
    (p : DeviceBoundKryptonMessage × List UInt8) :
    requestsOf (sent ++ [p]) = requestsOf sent ++ [p.1].filter fun m => m.requestDevice.isSome := by
  simp [requestsOf]

/-- The request that is being sent. -/
def Handler.request : Handler → List DeviceBoundMessage
  | .sending m _ => [m].filter fun m => m.requestDevice.isSome
  | _ => []

/-- What the select loop has in hand, until the call returns. -/
def Stage.inHand : Stage → Option (List DeviceBoundMessage)
  | .running _ handler _ => some handler.request
  | .returned _ _ _ => none
  | _ => some []

/-- What is being sent is sent as it is encoded. -/
def Stage.Encoding (env : Env) : Stage → Prop
  | .running _ (.sending m data) _ => env.toVec m = .ok data
  | _ => True

namespace Conn

/-- A connection whose receiver is `rx`, against the broadcast: it forwards what is for its device,
whichever that will be, and sends every message as it is encoded. -/
structure Forwarding (env : Env) (ch : Broadcast.Channel DeviceBoundMessage) (since : Nat)
    (rx : Broadcast.Receiver) (c : Conn) : Prop where
  forwards : ∀ d, (∀ d' ∈ c.device, d' = d) →
    ch.Forwards (Option.guard fun m => m.requestDevice = some d) since rx (requestsOf c.sent) c.stage.inHand
  encoded : ∀ p ∈ c.sent, env.toVec p.1 = .ok p.2
  encoding : c.stage.Encoding env

namespace Forwarding

variable {c c' : Conn} {d : DeviceId} {sent : List (DeviceBoundKryptonMessage × List UInt8)}
  {socket : Socket} {m : DeviceBoundKryptonMessage}

/-- A connection that has just been accepted is subscribed and has forwarded nothing. -/
theorem start (env : Env) (ch : Broadcast.Channel DeviceBoundMessage) :
    Forwarding env ch ch.sent.length ⟨ch.sent.length⟩ (Conn.start ()) :=
  ⟨fun _ _ => .subscribe _ _, fun _ hp => absurd hp List.not_mem_nil, trivial⟩

/-- Sends on the channel do not change what the connection has forwarded. -/
theorem grows (h : Forwarding env ch since rx c) (hgrows : ch.Grows ch') :
    Forwarding env ch' since rx c :=
  ⟨fun d hd => (h.forwards d hd).grows hgrows, h.encoded, h.encoding⟩

/-- The call returns. -/
theorem stop (h : Forwarding env ch since rx c) (hsent : c'.sent = c.sent)
    (hdevice : ∀ d ∈ c.device, d ∈ c'.device) (hhand : c'.stage.inHand = none) :
    Forwarding env ch since rx' c' := by
  refine ⟨fun d hd => ?_, by rw [hsent]; exact h.encoded, ?_⟩
  · rw [hsent, hhand]
    exact (h.forwards d fun d' hd' => hd d' (hdevice d' hd')).stop
  · unfold Stage.Encoding
    split
    · rename_i hstage
      rw [hstage] at hhand
      cases hhand
    · trivial

/-- The select loop has nothing in hand, before and after. -/
theorem idle (h : Forwarding env ch since rx c) (hhand : c.stage.inHand = some [])
    (hsent : c'.sent = c.sent) (hdevice : ∀ d ∈ c.device, d ∈ c'.device)
    (hhand' : c'.stage.inHand = some []) (hencoding : c'.stage.Encoding env) :
    Forwarding env ch since rx c' := by
  refine ⟨fun d hd => ?_, by rw [hsent]; exact h.encoded, hencoding⟩
  have hforwards := h.forwards d fun d' hd' => hd d' (hdevice d' hd')
  rw [hhand] at hforwards
  rw [hsent, hhand']
  exact hforwards

/-- A message that the select loop has in hand, if it is a request, is about to be sent. -/
theorem startSend (hsent : ∀ p ∈ sent, env.toVec p.1 = .ok p.2)
    (h : ch.Forwards (Option.guard fun m => m.requestDevice = some d) since rx (requestsOf sent)
      (some ([m].filter fun m => m.requestDevice.isSome))) :
    Forwarding env ch since rx ⟨socket, Conn.startSend env m d sent⟩ := by
  unfold Conn.startSend
  split
  · refine ⟨fun d' hd => ?_, hsent, trivial⟩
    obtain rfl := hd d rfl
    exact h.stop
  · rename_i data hdata
    refine ⟨fun d' hd => ?_, hsent, hdata⟩
    obtain rfl := hd d rfl
    exact h

/-- The error goes to the device, which is no request. -/
theorem fail (e : Error) (hsent : ∀ p ∈ sent, env.toVec p.1 = .ok p.2)
    (h : ch.Forwards (Option.guard fun m => m.requestDevice = some d) since rx (requestsOf sent) (some [])) :
    Forwarding env ch since rx ⟨socket, Conn.fail env e d sent⟩ :=
  startSend hsent h

end Forwarding

variable {c c' : Conn} {l : Label}

/-- What a turn of the hello loop leads to has sent nothing. -/
theorem feed_sent (acceptor : List UInt8) (socket : Socket) :
    sent ⟨socket, feed env globalConfig deviceCerts acceptor⟩ = [] ∧
      ((feed env globalConfig deviceCerts acceptor).inHand = some [] ∧
          (feed env globalConfig deviceCerts acceptor).Encoding env ∨
        (feed env globalConfig deviceCerts acceptor).inHand = none) := by
  unfold feed
  repeat' split
  all_goals first
    | exact ⟨rfl, .inr rfl⟩
    | exact ⟨rfl, .inl ⟨rfl, trivial⟩⟩

/-- A step between two receives keeps the prefix that has been forwarded. -/
theorem Step.forwarding (h : Step env globalConfig deviceCerts app c l app' c')
    (hc : c.Forwarding env ch since rx) : c'.Forwarding env ch since rx := by
  cases h with
  | deliver hopen heof => exact ⟨hc.forwards, hc.encoded, hc.encoding⟩
  | hangUp hopen => exact ⟨hc.forwards, hc.encoded, hc.encoding⟩
  | readError => exact hc.stop rfl (by simp [device]) rfl
  | @read socket acceptor bytesRead hread =>
    -- The hello sends nothing: it is read on, ends in the handshake or has failed
    obtain ⟨hsent, ⟨hhand, hencoding⟩ | hhand⟩ := @feed_sent env globalConfig deviceCerts
      (acceptor ++ socket.input.take bytesRead)
      { socket with input := socket.input.drop bytesRead }
    · exact hc.idle rfl hsent (by simp [device]) hhand hencoding
    · exact hc.stop hsent (by simp [device]) hhand
  | acceptError => exact hc.stop rfl (by simp [device]) rfl
  | accept => exact hc.idle rfl rfl (by simp [device]) rfl trivial
  | @tryNext socket d sent result =>
    -- What a frame brings is no request
    unfold recvFrame
    split
    · exact hc.stop rfl (by simp [device]) rfl
    · exact hc.stop rfl (by simp [device]) rfl
    · split
      · exact .fail _ hc.encoded (hc.forwards d (by simp [device]))
      · exact hc.idle rfl rfl (by simp [device]) rfl trivial
      · exact hc.idle rfl rfl (by simp [device]) rfl trivial
  | @process socket d call sent =>
    -- A notification that is processed is none either
    unfold Conn.process
    split
    · exact hc.idle rfl rfl (by simp [device]) rfl trivial
    · exact .fail _ hc.encoded (hc.forwards d (by simp [device]))
    · exact hc.idle rfl rfl (by simp [device]) rfl trivial
  | sendError => exact hc.stop rfl (by simp [device]) rfl
  | @send socket d m data sent =>
    refine ⟨fun d' hd => ?_, fun p hp => ?_, trivial⟩
    · -- the request in hand has been passed on
      have hpass := (hc.forwards d' hd).pass
      show ch.Forwards _ since rx (requestsOf (sent ++ [(m, data)])) (some [])
      rw [requestsOf_concat]
      exact hpass
    · rcases List.mem_append.mp hp with hp | hp
      · exact hc.encoded p hp
      · obtain rfl := List.mem_singleton.mp hp
        exact hc.encoding

/-- A receive of the select loop skips a request, takes it or ends the call. -/
theorem forwarding_recv {r : Except Broadcast.RecvError DeviceBoundMessage}
    (h : c.recvRequest env r = some c') (hr : ch.recv rx = some (r, rx'))
    (hc : c.Forwarding env ch since rx) : c'.Forwarding env ch since rx' := by
  -- Only a connection that selects receives
  obtain ⟨d, sent, hstage, hcases⟩ := recvRequest_cases h
  obtain ⟨socket, stage⟩ := c
  obtain rfl : stage = .running d .selecting sent := hstage
  have hforwards := hc.forwards d (by simp [device])
  rcases hcases with ⟨e, rfl, rfl⟩ | ⟨m, rfl, hne, rfl⟩ | ⟨m, rfl, hd, rfl⟩
  · exact hc.stop rfl (by simp [device]) rfl
  · -- a request for another device is skipped
    refine ⟨fun d' hd' => ?_, hc.encoded, hc.encoding⟩
    obtain rfl := hd' d rfl
    exact hforwards.skip hr (by simp [hne])
  · apply Forwarding.startSend hc.encoded
    -- A request for the device is in hand until it has been sent
    have htake := hforwards.take hr (b := m) (by simp [hd])
    simpa [hd] using htake

end Conn

/-! ## Runs -/

/-- The connections of a controller with its broadcast. -/
def forwardingConnections (env : Env) (globalConfig : KryptonControllerGlobalConfig)
    (deviceCerts : AList fun _ : DeviceId => List UInt8) :
    System.RelyGuarantee (handleConn env globalConfig deviceCerts).system where
  shared _ := True
  comp server k :=
    k.conn.Forwarding env server.controller.requestSender k.since k.requestReceiver
  rely server server' :=
    server.controller.requestSender.Grows server'.controller.requestSender
  env_ok := by
    intro server e server' hs h
    have hcall : server.call e = some server' := h
    exact ⟨trivial, (Server.call_frame hcall).2.1⟩
  spawn_ok := by
    intro server v server' k hs h
    obtain ⟨rfl, rfl⟩ := HandleConn.spawn_eq h
    exact ⟨trivial, ⟨rfl, rfl, List.prefix_refl _⟩, .start env _⟩
  step_ok := by
    intro server k l server' k' hs hk h
    have hgrows := ((handleConn_lawful env globalConfig deviceCerts).turn_frame h).2.1
    refine ⟨trivial, hgrows, Conn.Forwarding.grows ?_ hgrows⟩
    cases l with
    | own l =>
      obtain ⟨hown, hk', -⟩ := HandleConn.turn_own h
      rw [hk']
      exact (Conn.step_cases hown).forwarding hk
    | recvRequest r =>
      obtain ⟨hrecv, hr, hsince, -⟩ := HandleConn.turn_recv h
      rw [hsince]
      exact Conn.forwarding_recv hr hrecv hk
  stable h hk := hk.grows h

/-- In every state of every run, a connection has sent its device the first of the requests that
were broadcast for it since the connection was accepted, in their order. -/
theorem forwarding_run {app : AppState}
    {as : List (System.Act Server.Call Unit (HandleConn.Label Conn.Label))}
    {st : System.State Server (Connection Conn)}
    (h : (handleConn env globalConfig deviceCerts).system.run (HandleConn.initial app) as = some st)
    {k : Connection Conn} (hk : k ∈ st.comps) {d : DeviceId} (hd : k.conn.device = some d) :
    requestsOf k.conn.sent <+:
        requestsFor d (st.shared.controller.requestSender.sent.drop k.since) ∧
      ∀ p ∈ k.conn.sent, env.toVec p.1 = .ok p.2 := by
  -- The relation is kept by every connection, whatever the others and the controller do
  have hholds := (forwardingConnections env globalConfig deviceCerts).run h
    ⟨trivial, fun k hk => absurd hk List.not_mem_nil⟩
  have hforwarding := hholds.2 k hk
  have horder := (hforwarding.forwards d fun d' hd' => by
    rw [hd] at hd'
    exact (Option.some.inj hd').symm).order
  rw [List.filterMap_eq_filter] at horder
  exact ⟨horder, hforwarding.encoded⟩

end Devicectrl.Krypton
