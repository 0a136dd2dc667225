import Devicectrl.Spec.RequestBroadcast
import Devicectrl.Spec.SimpleFraming
import Devicectrl.Spec.SimpleRuns

/-!
# Commands to Simple devices

What a connection writes, against the requests that were broadcast since it was accepted.
Forwarded requests and error replies share one nonce; `Session.Outbound` ties the frames on
the wire to it, `Session.Forwarded` ties the requests among them to the receiver's position.

## Key results

- `commands_run`: in every run, the requests written to a device are a prefix of those
  broadcast for it since its connection was accepted, and the frames carry the nonces that
  follow the peer's
-/

namespace Devicectrl.Simple

variable {env : Env} {key : SigningKey} {app app' : AppState} {socket socket' : Socket}
  {s s' : Session}

/-! ## Frames -/

/-- A frame as `create_signed_message` makes it, with its length unabridged. -/
def IsCommandFrame (env : Env) (serverPrivateKey : SigningKey) (nonce : UInt32)
    (m : DeviceBoundSimpleMessage) (F : List UInt8) : Prop :=
  ∃ payload sig len, UInt32.toNat len = payload.length ∧ env.toVec m = .ok payload ∧
    env.trySign serverPrivateKey (be32 nonce ++ be32 len ++ payload) = .ok sig ∧
    F = be32 nonce ++ be32 len ++ payload ++ sig.bytes

/-- A frame that was sent has the layout of a command. -/
theorem IsSentFrame.isCommandFrame {nonce : UInt32} {m : DeviceBoundSimpleMessage}
    {F : List UInt8} (h : IsSentFrame env key nonce m F)
    (hpayload : ∀ m payload, env.toVec m = .ok payload → payload.length < 2 ^ 32) :
    IsCommandFrame env key nonce m F := by
  obtain ⟨payload, sig, hp, hs, rfl⟩ := h
  exact ⟨payload, sig, _, UInt32.toNat_ofNat_of_lt' (hpayload m payload hp), hp, hs, rfl⟩

/-- A frame is never empty. -/
theorem IsSentFrame.length_pos {nonce : UInt32} {m : DeviceBoundSimpleMessage} {F : List UInt8}
    (h : IsSentFrame env key nonce m F) : 0 < F.length := by
  obtain ⟨payload, sig, -, -, rfl⟩ := h
  simp only [List.length_append, length_be32]
  omega

/-- What is on the wire after the complete frames, and the nonce, as the select loop has it. -/
def Wire (env : Env) (key : SigningKey) (peerNonce sendNonce : UInt32) (log : Log) : Handler → Prop
  | .writing m F done =>
    sendNonce = frameNonce peerNonce log.written.length ∧ IsSentFrame env key sendNonce m F ∧
      done < F.length ∧ log.output = (log.written.map Prod.snd).flatten ++ F.take done
  | .ended _ =>
    ∃ part, log.output = (log.written.map Prod.snd).flatten ++ part ∧
      (part = [] ∨ ∃ m F, IsSentFrame env key (frameNonce peerNonce log.written.length) m F ∧
        part <+: F)
  | _ =>
    sendNonce = peerNonce + UInt32.ofNat log.written.length ∧
      log.output = (log.written.map Prod.snd).flatten

/-- The requests among the frames written. -/
def Log.requests (log : Log) : List DeviceBoundSimpleMessage :=
  (log.written.map Prod.fst).filter fun m => m.requestDevice.isSome

/-- The request that is being written. -/
def Handler.request : Handler → List DeviceBoundSimpleMessage
  | .writing m _ _ => [m].filter fun m => m.requestDevice.isSome
  | _ => []

namespace Session

/-- The frames written so far, and the one in progress, carry consecutive nonces. -/
structure Outbound (env : Env) (key : SigningKey) (s : Session) : Prop where
  frames : ∀ j (hj : j < s.log.written.length),
    IsSentFrame env key (frameNonce s.peerNonce j) s.log.written[j].1 s.log.written[j].2
  wire : Wire env key s.peerNonce s.sendNonce s.log s.handler

/-- Of the requests `taken` off the broadcast, those for the device are written or in
progress; after the loop has ended what is written is still a prefix of `all`. -/
def Forwarded (all taken : List DeviceBoundSimpleMessage) (s : Session) : Prop :=
  match s.handler with
  | .ended _ => s.log.requests <+: requestsFor s.deviceId all
  | handler => s.log.requests ++ handler.request = requestsFor s.deviceId taken

/-- The select loop has nothing to write in hand. -/
def Idle (s : Session) : Prop :=
  s.handler = .selecting ∨ ∃ call, s.handler = .processing call

/-- A session that starts has written nothing. -/
theorem Outbound.start (env : Env) (key : SigningKey) (d : DeviceId) (publicKey : VerifyingKey)
    (startNonce peerNonce : UInt32) :
    (Session.start d publicKey startNonce peerNonce).Outbound env key :=
  ⟨fun j hj => absurd hj (Nat.not_lt_zero j), by simp [Session.start, Log.empty], rfl⟩

/-- A session that starts has forwarded nothing. -/
theorem Forwarded.start (all : List DeviceBoundSimpleMessage) (d : DeviceId)
    (publicKey : VerifyingKey) (startNonce peerNonce : UInt32) :
    (Session.start d publicKey startNonce peerNonce).Forwarded all [] :=
  rfl

/-! ## The wire -/

/-- Between two writes the nonces have counted the frames, and all of each is out. -/
theorem Outbound.idle (h : s.Outbound env key) (hi : s.Idle) :
    s.sendNonce = s.peerNonce + UInt32.ofNat s.log.written.length ∧
      s.log.output = (s.log.written.map Prod.snd).flatten := by
  have hwire := h.wire
  rcases hi with hh | ⟨call, hh⟩
  · rw [hh] at hwire; exact hwire
  · rw [hh] at hwire; exact hwire

/-- A write begins with the next nonce. -/
theorem Outbound.startWrite (h : s.Outbound env key) (hi : s.Idle) (m : DeviceBoundSimpleMessage) :
    (s.startWrite env key m).Outbound env key := by
  obtain ⟨hnonce, houtput⟩ := h.idle hi
  rcases startWrite_cases env key m s with ⟨F, hF, he⟩ | ⟨e, nonce, he⟩
  · rw [he]
    refine ⟨h.frames, ?_, hF, hF.length_pos, ?_⟩
    · show s.sendNonce + 1 = _
      rw [hnonce, add_ofNat_add_one]
    · show s.log.output = _
      rw [houtput, List.take_zero, List.append_nil]
  · rw [he]
    exact ⟨h.frames, [], by rw [List.append_nil]; exact houtput, .inl rfl⟩

/-- A step that leaves the select loop idle, and its log of frames as it is. -/
theorem Outbound.stay (h : s.Outbound env key) (hi : s.Idle) (hi' : s'.Idle)
    (hpeer : s'.peerNonce = s.peerNonce) (hnonce : s'.sendNonce = s.sendNonce)
    (hwritten : s'.log.written = s.log.written) (houtput : s'.log.output = s.log.output) :
    s'.Outbound env key := by
  obtain ⟨h₁, h₂⟩ := h.idle hi
  refine ⟨fun j hj => ?_, ?_⟩
  · simp only [hwritten, hpeer]
    exact h.frames j (by rwa [hwritten] at hj)
  · have hidle : s'.sendNonce = s'.peerNonce + UInt32.ofNat s'.log.written.length ∧
        s'.log.output = (s'.log.written.map Prod.snd).flatten := by
      rw [hpeer, hnonce, hwritten, houtput]
      exact ⟨h₁, h₂⟩
    -- Neither way of being idle has a frame in progress
    rcases hi' with hh | ⟨call, hh⟩
    · rw [hh]; exact hidle
    · rw [hh]; exact hidle

/-- A step of the session keeps the output within its frames. -/
theorem Step.outbound {l : Label} (h : Step env key app socket s l app' socket' s')
    (hs : s.Outbound env key) : s'.Outbound env key := by
  cases h with
  | accept => exact ⟨hs.frames, hs.wire⟩
  | reject => exact ⟨hs.frames, hs.wire⟩
  | queue => exact ⟨hs.frames, hs.wire⟩
  | unqueued => exact ⟨hs.frames, hs.wire⟩
  | hangUp hh =>
    obtain ⟨-, houtput⟩ := hs.idle (.inl hh)
    exact ⟨hs.frames, [], by rw [List.append_nil]; exact houtput, .inl rfl⟩
  | @refuse m rest e hh hq hm =>
    have hs' : { s with messages := { s.messages with queue := rest } }.Outbound env key :=
      ⟨hs.frames, hs.wire⟩
    exact hs'.startWrite (.inl hh) _
  | skip hh => exact hs.stay (.inl hh) (.inl hh) rfl rfl rfl rfl
  | notified hh => exact hs.stay (.inl hh) (.inr ⟨_, rfl⟩) rfl rfl rfl rfl
  | store hh => exact hs.stay (.inr ⟨_, hh⟩) (.inr ⟨_, rfl⟩) rfl rfl rfl rfl
  | sendHook hh => exact hs.stay (.inr ⟨_, hh⟩) (.inl rfl) rfl rfl rfl rfl
  | failStore hh => exact hs.startWrite (.inr ⟨_, hh⟩) _
  | failHook hh => exact hs.startWrite (.inr ⟨_, hh⟩) _
  | @writeSome m F done n hh hn hlt =>
    -- More of the frame is on the wire
    have hwire := hs.wire
    rw [hh] at hwire
    obtain ⟨hnonce, hF, -, houtput⟩ := hwire
    refine ⟨hs.frames, hnonce, hF, hlt, ?_⟩
    show s.log.output ++ (F.drop done).take n = _
    rw [houtput, List.append_assoc, ← List.take_add]
  | @writeAll m F done n hh hn heq =>
    -- The frame in progress becomes the last one written
    have hwire := hs.wire
    rw [hh] at hwire
    obtain ⟨hnonce, hF, -, houtput⟩ := hwire
    refine ⟨fun j hj => ?_, ?_, ?_⟩
    · -- frame `j` was written before, or was completed just now
      by_cases hlt : j < s.log.written.length
      · simp only [List.getElem_append_left hlt]
        exact hs.frames j hlt
      · have hlast : j = s.log.written.length := by
          simp only [List.length_append, List.length_singleton] at hj
          omega
        subst hlast
        simp only [List.getElem_concat_length]
        rw [← hnonce]
        exact hF
    · show s.sendNonce = s.peerNonce + UInt32.ofNat (s.log.written ++ [(m, F)]).length
      rw [hnonce, List.length_append, List.length_singleton]
      rfl
    · show s.log.output ++ F.drop done = ((s.log.written ++ [(m, F)]).map Prod.snd).flatten
      rw [houtput, List.append_assoc, List.take_append_drop]
      simp
  | @writeError m F done e hh =>
    -- The part that got through stays on the wire
    have hwire := hs.wire
    rw [hh] at hwire
    obtain ⟨hnonce, hF, -, houtput⟩ := hwire
    exact ⟨hs.frames, F.take done, houtput, .inr ⟨m, F, hnonce ▸ hF, List.take_prefix _ _⟩⟩

/-- A request that is received begins the next frame. -/
theorem recvRequest_outbound {r : Except Broadcast.RecvError DeviceBoundSimpleMessage}
    (h : s.recvRequest env key r = some s') (hs : s.Outbound env key) : s'.Outbound env key := by
  obtain ⟨hh, ⟨e, -, rfl⟩ | ⟨m, -, -, rfl⟩ | ⟨m, -, -, rfl⟩⟩ := recvRequest_cases h
  · obtain ⟨-, houtput⟩ := hs.idle (.inl hh)
    exact ⟨hs.frames, [], by rw [List.append_nil]; exact houtput, .inl rfl⟩
  · exact hs
  · exact hs.startWrite (.inl hh) m

/-! ## The requests -/

variable {all taken : List DeviceBoundSimpleMessage}

/-- Between two requests every one of them has been forwarded. -/
theorem Forwarded.idle (h : s.Forwarded all taken) (hi : s.Idle) :
    s.log.requests = requestsFor s.deviceId taken := by
  rw [Forwarded] at h
  rcases hi with hh | ⟨call, hh⟩
  · simpa [hh, Handler.request] using h
  · simpa [hh, Handler.request] using h

/-- Where every request has been forwarded, the session is between two. -/
theorem Forwarded.of_idle (h : s.log.requests = requestsFor s.deviceId taken) (hi : s.Idle) :
    s.Forwarded all taken := by
  rw [Forwarded]
  rcases hi with hh | ⟨call, hh⟩
  · simpa [hh, Handler.request] using h
  · simpa [hh, Handler.request] using h

/-- What is written is a prefix of the requests that were broadcast. -/
theorem Forwarded.written (h : s.Forwarded all taken) (hall : taken <+: all) :
    s.log.requests <+: requestsFor s.deviceId all := by
  rw [Forwarded] at h
  split at h
  · exact h
  · refine List.IsPrefix.trans ?_ (requestsFor_mono s.deviceId hall)
    rw [← h]
    exact List.prefix_append _ _

/-- Beginning to write a request that was just taken. -/
theorem Forwarded.begin (h : s.log.requests = requestsFor s.deviceId taken)
    (hall : taken <+: all) {m : DeviceBoundSimpleMessage} (hm : m.requestDevice = some s.deviceId) :
    (s.startWrite env key m).Forwarded all (taken ++ [m]) := by
  -- Either the request is in progress now, or it is lost with the loop
  rcases startWrite_cases env key m s with ⟨F, -, he⟩ | ⟨e, nonce, he⟩
  · rw [he]
    show s.log.requests ++ ([m].filter fun m => m.requestDevice.isSome) = _
    rw [h, requestsFor_append, requestsFor_own hm]
    simp [hm]
  · rw [he]
    show s.log.requests <+: _
    rw [h]
    exact requestsFor_mono s.deviceId hall

/-- Beginning to write a reply, which is no request. -/
theorem Forwarded.reply (h : s.log.requests = requestsFor s.deviceId taken) (hall : taken <+: all)
    (e : Error) : (s.fail env key e).Forwarded all taken := by
  rcases startWrite_cases env key (.failure ("failed to handle simple message" :: e)) s with
    ⟨F, -, he⟩ | ⟨e', nonce, he⟩
  · rw [fail, he]
    show s.log.requests ++ [] = _
    rw [List.append_nil, h]
  · rw [fail, he]
    show s.log.requests <+: _
    rw [h]
    exact requestsFor_mono s.deviceId hall

/-- The loop ends. -/
theorem Forwarded.end (h : s.Forwarded all taken) (hall : taken <+: all) (r : Except Error Unit) :
    { s with handler := .ended r }.Forwarded all taken :=
  h.written hall

/-- A step of the session forwards none but the requests it was given. -/
theorem Step.forwarded {l : Label} (h : Step env key app socket s l app' socket' s')
    (hs : s.Forwarded all taken) (hall : taken <+: all) : s'.Forwarded all taken := by
  cases h with
  | accept => exact hs
  | reject => exact hs
  | queue => exact hs
  | unqueued => exact hs
  | hangUp => exact hs.end hall _
  | @refuse m rest e hh =>
    have hs' : { s with messages := { s.messages with queue := rest } }.Forwarded all taken := hs
    exact Forwarded.reply (hs'.idle (.inl hh)) hall e
  | skip hh => exact .of_idle (hs.idle (.inl hh)) (.inl hh)
  | notified hh => exact .of_idle (hs.idle (.inl hh)) (.inr ⟨_, rfl⟩)
  | store hh => exact .of_idle (hs.idle (.inr ⟨_, hh⟩)) (.inr ⟨_, rfl⟩)
  | sendHook hh => exact .of_idle (hs.idle (.inr ⟨_, hh⟩)) (.inl rfl)
  | failStore hh => exact Forwarded.reply (hs.idle (.inr ⟨_, hh⟩)) hall _
  | failHook hh => exact Forwarded.reply (hs.idle (.inr ⟨_, hh⟩)) hall _
  | writeSome hh =>
    rw [Forwarded, hh] at hs
    exact hs
  | @writeAll m F done n hh =>
    -- The request in progress is written, and none is in progress
    rw [Forwarded, hh] at hs
    apply Forwarded.of_idle _ (.inl rfl)
    rw [← hs]
    simp [Log.requests, Handler.request]
  | writeError => exact hs.end hall _

/-- A request that is received is forwarded if it is for the device. -/
theorem recvRequest_forwarded {r : Except Broadcast.RecvError DeviceBoundSimpleMessage}
    (h : s.recvRequest env key r = some s') (hs : s.Forwarded all taken) (hall : taken <+: all) :
    (∀ m, r = .ok m → s'.Forwarded all (taken ++ [m])) ∧
      ∀ e, r = .error e → ∀ taken', s'.Forwarded all taken' := by
  obtain ⟨hh, ⟨e, rfl, rfl⟩ | ⟨m, rfl, hm, rfl⟩ | ⟨m, rfl, hm, rfl⟩⟩ := recvRequest_cases h
  · exact ⟨nofun, fun _ _ _ => hs.written hall⟩
  · refine ⟨fun m' he => ?_, nofun⟩
    cases he
    refine .of_idle ?_ (.inl hh)
    rw [hs.idle (.inl hh), requestsFor_append, requestsFor_foreign hm, List.append_nil]
  · refine ⟨fun m' he => ?_, nofun⟩
    cases he
    exact .begin (hs.idle (.inl hh)) hall hm

/-- More requests may be broadcast. -/
theorem Forwarded.mono {all' : List DeviceBoundSimpleMessage} (h : s.Forwarded all taken)
    (hall : all <+: all') : s.Forwarded all' taken := by
  rw [Forwarded] at h ⊢
  split
  · rename_i r hh
    simp only [hh] at h
    exact h.trans (requestsFor_mono s.deviceId hall)
  · rename_i hh
    split at h
    · rename_i r hr
      exact absurd hr (hh r)
    · exact h

end Session

/-! ## Runs -/

/-- The requests broadcast since a connection was accepted, and those its receiver has returned. -/
def broadcastSince (ch : Broadcast.Channel DeviceBoundMessage) (k : Connection Conn) :
    List DeviceBoundMessage :=
  ch.sent.drop k.since

/-- What the receiver of a connection has returned of the broadcast. -/
def takenSince (ch : Broadcast.Channel DeviceBoundMessage) (k : Connection Conn) :
    List DeviceBoundMessage :=
  (ch.sent.drop k.since).take (k.requestReceiver.next - k.since)

/-- What a connection has written, against the broadcast. -/
structure Commanded (env : Env) (key : SigningKey) (ch : Broadcast.Channel DeviceBoundMessage)
    (k : Connection Conn) : Prop where
  since : k.since ≤ k.requestReceiver.next
  next : k.requestReceiver.next ≤ ch.sent.length
  unread : k.conn.stage.session? = none → k.requestReceiver.next = k.since
  session : ∀ s, k.conn.stage.session? = some s →
    s.Outbound env key ∧ s.Forwarded (broadcastSince ch k) (takenSince ch k)

section Positions

variable {ch ch' : Broadcast.Channel DeviceBoundMessage} {k k' : Connection Conn}

/-- The receiver returns the broadcast from its beginning. -/
theorem takenSince_le (ch : Broadcast.Channel DeviceBoundMessage) (k : Connection Conn) :
    takenSince ch k <+: broadcastSince ch k :=
  List.take_prefix _ _

/-- What was taken stays the same while more is broadcast. -/
theorem takenSince_grows (h : ch.Grows ch') (hsince : k.since ≤ k.requestReceiver.next)
    (hnext : k.requestReceiver.next ≤ ch.sent.length) : takenSince ch' k = takenSince ch k :=
  Broadcast.Channel.between_grows h hsince hnext

/-- More may be broadcast, after what is there. -/
theorem broadcastSince_grows (h : ch.Grows ch') (k : Connection Conn) :
    broadcastSince ch k <+: broadcastSince ch' k :=
  h.drop_prefix k.since

/-- A receive that returns a request takes it. -/
theorem takenSince_recv {m : DeviceBoundMessage} (hsince : k.since ≤ k.requestReceiver.next)
    (hsame : k'.since = k.since)
    (h : ch.recv k.requestReceiver = some (.ok m, k'.requestReceiver)) :
    takenSince ch k' = takenSince ch k ++ [m] := by
  rw [takenSince, takenSince, hsame]
  exact Broadcast.Channel.between_recv hsince h

end Positions

/-- What was written stays that as more is broadcast. -/
theorem Commanded.grows {ch ch' : Broadcast.Channel DeviceBoundMessage} {k : Connection Conn}
    (h : ch.Grows ch') (hk : Commanded env key ch k) : Commanded env key ch' k := by
  refine ⟨hk.since, Nat.le_trans hk.next h.sent.length_le, hk.unread, fun s hs => ?_⟩
  obtain ⟨hout, hfor⟩ := hk.session s hs
  refine ⟨hout, ?_⟩
  rw [takenSince_grows h hk.since hk.next]
  exact hfor.mono (broadcastSince_grows h k)

/-- A step of `handle_conn` itself leaves the receiver alone. -/
theorem Commanded.own {ch : Broadcast.Channel DeviceBoundMessage} {k : Connection Conn}
    {l : Conn.Label} {conn : Conn} (hk : Commanded env key ch k)
    (h : k.conn.step env key app l = some (app', conn)) :
    Commanded env key ch { k with conn := conn } := by
  refine ⟨hk.since, hk.next, fun hnone => hk.unread ?_, fun s' hs' => ?_⟩
  · -- no step takes a session away
    cases hs : k.conn.stage.session? with
    | none => rfl
    | some s =>
      have hdevice : k.conn.device = some s.deviceId := by rw [Conn.device, hs]; rfl
      have hdevice' := (handleConn_lawful env key).step_device h hdevice
      have hnone' : conn.device = none := by rw [Conn.device, hnone]; rfl
      cases hnone'.symm.trans hdevice'
  · rcases Conn.session_step h hs' with ⟨-, hs⟩ | ⟨l', s, -, hs, hst⟩ | ⟨d, pk, N, hnone, -, rfl⟩
    · exact hk.session s' hs
    · obtain ⟨hout, hfor⟩ := hk.session s hs
      exact ⟨hst.outbound hout, hst.forwarded hfor (takenSince_le ch k)⟩
    · -- the session begins now, and has taken nothing
      refine ⟨.start env key d pk _ N, ?_⟩
      have htaken : takenSince ch { k with conn := conn } = [] := by
        rw [takenSince]
        simp only
        rw [hk.unread hnone, Nat.sub_self, List.take_zero]
      rw [htaken]
      exact .start _ d pk _ N

/-- A receive takes what it returns. -/
theorem Commanded.recv {ch : Broadcast.Channel DeviceBoundMessage} {k k' : Connection Conn}
    {r : Except Broadcast.RecvError DeviceBoundMessage} (hk : Commanded env key ch k)
    (hrecv : ch.recv k.requestReceiver = some (r, k'.requestReceiver))
    (h : k.conn.recvRequest env key r = some k'.conn) (hsince : k'.since = k.since) :
    Commanded env key ch k' := by
  obtain ⟨s, s', hs, hr, hconn⟩ := Conn.recvRequest_session h
  have hsession : k.conn.stage.session? = some s := by rw [hs]; rfl
  have hsession' : k'.conn.stage.session? = some s' := by rw [hconn]; rfl
  obtain ⟨hout, hfor⟩ := hk.session s hsession
  obtain ⟨hok, herror⟩ := Session.recvRequest_forwarded hr hfor (takenSince_le ch k)
  -- The connection was accepted where it was
  have hall : broadcastSince ch k' = broadcastSince ch k := by rw [broadcastSince, hsince]; rfl
  refine ⟨?_, HandleConn.recv_next_le hrecv hk.next, fun hnone => ?_, fun s₁ hs₁ => ?_⟩
  · rw [hsince]
    exact Nat.le_trans hk.since (Broadcast.Channel.recv_le_next hrecv)
  · rw [hsession'] at hnone; exact nomatch hnone
  · rw [hsession'] at hs₁
    cases hs₁
    refine ⟨Session.recvRequest_outbound hr hout, ?_⟩
    rw [hall]
    cases r with
    | ok m =>
      -- One message more has been taken
      rw [takenSince_recv hk.since hsince hrecv]
      exact hok m rfl
    | error e => exact herror e rfl _

/-- The connections of a controller with its broadcast. -/
def commandedConnections (env : Env) (key : SigningKey) :
    System.RelyGuarantee (handleConn env key).system where
  shared _ := True
  comp server k := Commanded env key server.controller.requestSender k
  rely server server' :=
    server.controller.requestSender.Grows server'.controller.requestSender
  env_ok := by
    intro server e server' hs h
    -- A call of the controller only sends more requests
    have hcall : server.call e = some server' := h
    exact ⟨trivial, (Server.call_frame hcall).2.1⟩
  spawn_ok := by
    intro server v server' k hs h
    obtain ⟨rfl, rfl⟩ := HandleConn.spawn_eq h
    refine ⟨trivial, ⟨rfl, rfl, List.prefix_refl _⟩, Nat.le_refl _, Nat.le_refl _, fun _ => rfl,
      fun s hsession => ?_⟩
    -- A connection that is accepted has no session yet
    have hnone : none = some s := hsession
    exact nomatch hnone
  step_ok := by
    intro server k l server' k' hs hk h
    have hgrows := ((handleConn_lawful env key).turn_frame h).2.1
    refine ⟨trivial, hgrows, Commanded.grows hgrows ?_⟩
    cases l with
    | own l =>
      obtain ⟨hown, hk', -⟩ := HandleConn.turn_own h
      rw [hk']
      exact hk.own hown
    | recvRequest r =>
      obtain ⟨hrecv, hr, hsince, -⟩ := HandleConn.turn_recv h
      exact hk.recv hrecv hr hsince
  stable h hk := hk.grows h

/-- The output of a session is its frames, and a part of one that is being written. -/
theorem Session.Outbound.output (h : s.Outbound env key)
    (hpayload : ∀ m payload, env.toVec m = .ok payload → payload.length < 2 ^ 32) :
    ∃ part, s.log.output = (s.log.written.map Prod.snd).flatten ++ part ∧
      (part = [] ∨ ∃ m F,
        IsCommandFrame env key (frameNonce s.peerNonce s.log.written.length) m F ∧ part <+: F) := by
  have hwire := h.wire
  cases hh : s.handler with
  -- A frame is being written, and the part is what has gone out of it
  | writing m F done =>
    rw [hh] at hwire
    obtain ⟨hnonce, hF, -, houtput⟩ := hwire
    rw [hnonce] at hF
    exact ⟨F.take done, houtput, .inr ⟨m, F, hF.isCommandFrame hpayload, List.take_prefix _ _⟩⟩
  -- The session has ended in the middle of a frame, or between two
  | ended r =>
    rw [hh] at hwire
    obtain ⟨part, houtput, hpart⟩ := hwire
    refine ⟨part, houtput, ?_⟩
    rcases hpart with hpart | ⟨m, F, hF, hpre⟩
    · exact .inl hpart
    · exact .inr ⟨m, F, hF.isCommandFrame hpayload, hpre⟩
  -- Between two writes all frames are out
  | selecting => exact ⟨[], by rw [List.append_nil]; exact (h.idle (.inl hh)).2, .inl rfl⟩
  | processing call =>
    exact ⟨[], by rw [List.append_nil]; exact (h.idle (.inr ⟨call, hh⟩)).2, .inl rfl⟩

/-- In every state of every run, the requests that a connection has written are a prefix of
those for its device that were broadcast since it was accepted, in the order in which they
were. The frames it wrote, replies included, carry the nonces after the one its peer chose,
and on the wire only a part of one more frame can follow them. -/
theorem commands_run (env : Env) (key : SigningKey) (app : AppState)
    (hpayload : ∀ m payload, env.toVec m = .ok payload → payload.length < 2 ^ 32)
    (bs cs : List Act) (n : UInt32) (m st : System.State Server (Connection Conn))
    (hm : (handleConn env key).system.run (HandleConn.initial app) bs = some m)
    (hrun : (handleConn env key).system.run (HandleConn.initial app) (bs ++ .spawn n :: cs)
      = some st)
    (k : Connection Conn) (hk : st.comps[m.comps.length]? = some k)
    (s : Session) (hs : k.conn.stage.session? = some s) :
    s.log.requests <+: requestsFor s.deviceId (HandleConn.requests cs) ∧
      (∀ j (hj : j < s.log.written.length),
        IsCommandFrame env key (frameNonce s.peerNonce j) s.log.written[j].1 s.log.written[j].2) ∧
      ∃ part, s.log.output = (s.log.written.map Prod.snd).flatten ++ part ∧
        (part = [] ∨ ∃ m F,
          IsCommandFrame env key (frameNonce s.peerNonce s.log.written.length) m F ∧
            part <+: F) := by
  have hlawful := handleConn_lawful env key
  have hholds := (commandedConnections env key).run hrun
    ⟨trivial, fun k hk => absurd hk List.not_mem_nil⟩
  have hcommanded := hholds.2 k (List.mem_of_getElem? hk)
  obtain ⟨hout, hfor⟩ := hcommanded.session s hs
  -- The run up to the accept, the accept, and what follows it
  obtain ⟨m', hm', hrest⟩ := Lts.run_split _ hrun
  obtain rfl := Option.some.inj (hm.symm.trans hm')
  obtain ⟨m₁, hspawn, hcs⟩ := Lts.run_cons _ hrest
  obtain ⟨k₀, he, hc⟩ := System.exec_spawn hspawn
  obtain ⟨hsh, rfl⟩ := HandleConn.spawn_eq he
  have hk₀ : m₁.comps[m.comps.length]? = some
      ⟨(handleConn env key).start n, ⟨m.shared.controller.requestSender.sent.length⟩,
        m.shared.controller.requestSender.sent.length⟩ := by
    rw [hc, List.getElem?_concat_length]
  have hsince : k.since = m.shared.controller.requestSender.sent.length := by
    obtain ⟨k', hk', hsince⟩ := HandleConn.since_run hcs hk₀
    rw [hk] at hk'
    cases hk'
    exact hsince
  have hsubscribed := (HandleConn.Subscribed.run hlawful hm).exec hlawful hspawn
  have hsent : st.shared.controller.requestSender.sent =
      m.shared.controller.requestSender.sent ++ HandleConn.requests cs := by
    rw [hsubscribed.sent hlawful hcs, hsh]
    rfl
  have hall : broadcastSince st.shared.controller.requestSender k = HandleConn.requests cs := by
    rw [broadcastSince, hsent, hsince, List.drop_left]
  refine ⟨?_, fun j hj => (hout.frames j hj).isCommandFrame hpayload, hout.output hpayload⟩
  rw [← hall]
  exact hfor.written (takenSince_le _ k)

/-- The lamp is switched on and asked for its state; the first request is on the wire, the
second is about to be. -/
def Demo.commandRun : List Act :=
  (Demo.connect 0).tail ++
    [.env (.sendUpdate ⟨Demo.lamp, .power .on⟩), .env (.sendUpdate ⟨Demo.fan, .power .on⟩),
      .env (.sendQuery (Demo.device Demo.lamp)),
      .step 0 (.recvRequest (.ok (.updateCommand ⟨Demo.lamp, .power .on⟩))),
      .step 0 (.own (.session (.write (.ok 70)))), .step 0 (.own (.session (.write (.ok 3)))),
      .step 0 (.recvRequest (.ok (.updateCommand ⟨Demo.fan, .power .on⟩))),
      .step 0 (.recvRequest (.ok (.stateQuery Demo.lamp)))]

/-- The lamp was sent one command, the one broadcast to it. -/
theorem commands_run_demo :
    ∃ (st : System.State Server (Connection Conn)) (k : Connection Conn) (s : Session),
      (handleConn Demo.env Demo.privateKey).system.run (HandleConn.initial Demo.app)
          ([] ++ .spawn 0 :: Demo.commandRun) = some st ∧
        st.comps[0]? = some k ∧ k.conn.stage.session? = some s ∧
        s.log.requests = [.updateCommand ⟨Demo.lamp, .power .on⟩] ∧
        s.log.requests <+: requestsFor s.deviceId (HandleConn.requests Demo.commandRun) :=
  ⟨_, _, _, rfl, rfl, rfl, rfl, (commands_run Demo.env Demo.privateKey Demo.app
    (fun m payload h => by cases m <;> cases h <;> decide)
    [] Demo.commandRun 0 _ _ rfl rfl _ rfl _ rfl).1⟩

end Devicectrl.Simple
