import Devicectrl.Spec.SimpleFraming
import Devicectrl.Spec.SimpleRuns

/-!
# Notifications of Simple devices

What a connection stores and what it sends the hooks of, against the frames it accepted.
A notification is on its way from the read loop over the channel to the select loop; the
invariant `Session.Inbound` says that none is lost, doubled or overtaken there.

## Key results

- `delivery_run`: in every run, each connection stores a prefix of the notifications of its
  own device among the frames it accepted, in order, and sends the hooks of a prefix of these
-/

namespace Devicectrl.Simple

variable {env : Env} {key : SigningKey} {app app' app₀ : AppState} {socket socket' : Socket}
  {s s' : Session}

/-! ## The invariant -/

/-- The message that waits for room in the channel. -/
def Reader.pending : Reader → List ServerBoundSimpleMessage
  | .sending m => [m]
  | _ => []

/-- The notification the select loop is about to store. -/
def Handler.storing : Handler → List UpdateNotification
  | .processing call => call.stores
  | _ => []

/-- The notification whose hook the select loop is about to send. -/
def Handler.hooking : Handler → List UpdateNotification
  | .processing call => call.hooks
  | _ => []

/-- Only a call of `process_update_notification` has a notification in hand. -/
theorem Handler.no_call {handler : Handler} (h : ∀ call, handler ≠ .processing call) :
    handler.storing = [] ∧ handler.hooking = [] := by
  cases handler with
  | processing call => exact absurd rfl (h call)
  | _ => exact ⟨rfl, rfl⟩

namespace Session

/-- Every notification of an accepted frame is stored, about to be, in the channel or waiting
for room in it, and in this order. -/
structure Inbound (env : Env) (s : Session) : Prop where
  frames : Frames env s.publicKey s.startNonce (s.log.accepted.map Prod.fst)
    (s.log.accepted.map Prod.snd)
  nonce : s.expectedRecvNonce = s.startNonce + UInt32.ofNat s.log.accepted.length
  receiver : s.messages.receiver = true
  applied : s.log.applied ++ s.handler.storing ++
      notificationsOf s.deviceId (s.messages.queue ++ s.reader.pending) =
    notificationsOf s.deviceId (s.log.accepted.map Prod.snd)
  hooked : s.log.hooked ++ s.handler.hooking = s.log.applied
  own : ∀ call, s.handler = .processing call → ∀ n ∈ call.stores ++ call.hooks,
    n.deviceId = s.deviceId

/-- The configuration has the key the session verifies with. -/
def Known (app : AppState) (s : Session) : Prop :=
  lookupPublicKey app.devices s.deviceId = .ok s.publicKey

/-- A session that starts has delivered nothing. -/
theorem Inbound.start (env : Env) (d : DeviceId) (publicKey : VerifyingKey)
    (startNonce peerNonce : UInt32) :
    (Session.start d publicKey startNonce peerNonce).Inbound env where
  frames := Frames.nil
  nonce := by simp [Session.start, Log.empty]
  receiver := rfl
  applied := rfl
  hooked := rfl
  own := nofun

/-- A device that is known has an entry. -/
theorem Known.lookup (h : s.Known app) : ∃ device, app.devices.lookup s.deviceId = some device := by
  simp only [Known, lookupPublicKey] at h
  cases hd : app.devices.lookup s.deviceId with
  | none => rw [hd] at h; cases h
  | some device => exact ⟨device, rfl⟩

/-- The select loop awaits something else, with no notification in hand before or after. -/
theorem Inbound.await (h : s.Inbound env) {sendNonce : UInt32} {handler : Handler}
    (hs : s.handler.storing = []) (hh : s.handler.hooking = [])
    (hidle : ∀ call, handler ≠ .processing call)
    {written : List (DeviceBoundSimpleMessage × List UInt8)} {output : List UInt8} :
    { s with sendNonce, handler, log := { s.log with written, output } }.Inbound env := by
  obtain ⟨hstoring, hhooking⟩ := Handler.no_call hidle
  have happlied := h.applied
  have hhooked := h.hooked
  rw [hs] at happlied
  rw [hh] at hhooked
  exact ⟨h.frames, h.nonce, h.receiver, by rw [hstoring]; exact happlied,
    by rw [hhooking]; exact hhooked, fun call hcall => absurd hcall (hidle call)⟩

/-- Where the select loop is idle, writing to the device leaves the invariant alone. -/
theorem Inbound.startWrite (h : s.Inbound env) (hs : s.handler.storing = [])
    (hh : s.handler.hooking = []) (m : DeviceBoundSimpleMessage) :
    (s.startWrite env key m).Inbound env := by
  obtain ⟨nonce, handler, he, -, hp, -⟩ := startWrite_frame env key m s
  rw [he]
  exact h.await hs hh hp

/-- Taking a message out of the channel moves its notification to the select loop. -/
theorem Inbound.take (h : s.Inbound env) (hh : s.handler = .selecting)
    {m : ServerBoundSimpleMessage} {rest : List ServerBoundSimpleMessage}
    (hq : s.messages.queue = m :: rest) :
    s.log.applied ++ notificationsOf s.deviceId [m] ++
        notificationsOf s.deviceId (rest ++ s.reader.pending) =
      notificationsOf s.deviceId (s.log.accepted.map Prod.snd) ∧ s.log.hooked = s.log.applied := by
  have happlied := h.applied
  have hhooked := h.hooked
  rw [hh] at happlied hhooked
  refine ⟨?_, by simpa [Handler.hooking] using hhooked⟩
  rw [← happlied, hq, ← List.singleton_append (l := rest), List.append_assoc [m],
    notificationsOf_append s.deviceId [m]]
  simp [Handler.storing]

/-- A message without a notification to process is taken out of the channel. -/
theorem Inbound.drop (h : s.Inbound env) (hh : s.handler = .selecting)
    {m : ServerBoundSimpleMessage} {rest : List ServerBoundSimpleMessage}
    (hq : s.messages.queue = m :: rest)
    (hm : ∀ n, handleMessage m s.deviceId ≠ .ok (some n)) :
    { s with messages := { s.messages with queue := rest } }.Inbound env := by
  obtain ⟨happlied, hhooked⟩ := h.take hh hq
  rw [ServerBoundMessage.notificationsOf_of_handle_none hm] at happlied
  refine ⟨h.frames, h.nonce, h.receiver, ?_, ?_, fun call hcall => ?_⟩
  · rw [hh]; exact happlied
  · rw [hh]; simpa [Handler.hooking] using hhooked
  · rw [hh] at hcall; exact nomatch hcall

/-- A step of the two loops keeps the invariant: the device is configured, so that its
notifications are stored, and the server itself receives the hooks, so that they are sent. -/
theorem Step.inbound {l : Label} (h : Step env key app socket s l app' socket' s')
    (hs : s.Inbound env) (hk : s.Known app₀) (hcfg : app₀.SameConfig app)
    (hhooks : 0 < app₀.hooks.sender.receivers) : s'.Inbound env := by
  cases h with
  | accept hr hin heof hF =>
    -- The message goes to the end of the list, where it waits for room in the channel
    have happlied := hs.applied
    rw [hr] at happlied
    refine ⟨?_, ?_, hs.receiver, ?_, hs.hooked, hs.own⟩
    · simp only [List.map_append, List.map_cons, List.map_nil]
      apply hs.frames.concat
      rw [List.length_map, ← add_ofNat_add_one, ← hs.nonce]
      exact hF
    · rw [hs.nonce, List.length_append, List.length_singleton, add_ofNat_add_one]
      rfl
    · simp only [Reader.pending, List.append_nil] at happlied
      simp only [Reader.pending, List.map_append, notificationsOf_append, ← happlied]
      simp
  | reject hr =>
    have happlied := hs.applied
    rw [hr] at happlied
    exact ⟨hs.frames, hs.nonce, hs.receiver, happlied, hs.hooked, hs.own⟩
  | queue hr hcap =>
    -- From waiting for room into the channel: the list is the same
    have happlied := hs.applied
    rw [hr] at happlied
    refine ⟨hs.frames, hs.nonce, hs.receiver, ?_, hs.hooked, hs.own⟩
    simpa [Reader.pending] using happlied
  | unqueued hr hrx => exact absurd (hs.receiver.symm.trans hrx) (by decide)
  | hangUp hh hq hsend => exact hs.await (by rw [hh]; rfl) (by rw [hh]; rfl) (by nofun)
  | refuse hh hq hm =>
    -- A message that is refused carries no notification of the device
    have hne : ∀ n, handleMessage _ s.deviceId ≠ .ok (some n) := fun n hn => by
      rw [hm] at hn; exact nomatch hn
    exact (hs.drop hh hq hne).startWrite (by rw [hh]; rfl) (by rw [hh]; rfl) _
  | skip hh hq hm =>
    exact hs.drop hh hq fun n hn => by rw [hm] at hn; exact nomatch hn
  | notified hh hq hm =>
    -- From the channel into the hand of the select loop
    obtain ⟨happlied, hhooked⟩ := hs.take hh hq
    rw [ServerBoundMessage.notificationsOf_of_handle hm] at happlied
    refine ⟨hs.frames, hs.nonce, hs.receiver, happlied, ?_, fun call hcall n hn => ?_⟩
    · simpa [Handler.hooking, NotificationCall.hooks] using hhooked
    · cases hcall
      obtain rfl : n = _ := by simpa [NotificationCall.stores, NotificationCall.hooks] using hn
      exact (ServerBoundMessage.handle_ok_some hm).2
  | store hh hn =>
    -- From the hand into the log; the hook is now in hand
    have happlied := hs.applied
    have hhooked := hs.hooked
    have hown := hs.own _ hh
    rw [hh] at happlied hhooked
    refine ⟨hs.frames, hs.nonce, hs.receiver, ?_, ?_, fun call hcall n' hn' => ?_⟩
    · simpa [Handler.storing, NotificationCall.stores] using happlied
    · simpa [Handler.hooking, NotificationCall.hooks] using hhooked
    · cases hcall
      exact hown n' (by simpa [NotificationCall.stores, NotificationCall.hooks] using hn')
  | sendHook hh hn =>
    have happlied := hs.applied
    have hhooked := hs.hooked
    rw [hh] at happlied hhooked
    exact ⟨hs.frames, hs.nonce, hs.receiver, happlied,
      by simpa [Handler.hooking, NotificationCall.hooks] using hhooked, by nofun⟩
  | failStore hh hn =>
    -- The device that identified itself is still in the table
    obtain ⟨device, hd⟩ := hk.lookup
    obtain ⟨device', hd', -⟩ := hcfg.lookup hd
    rw [← hs.own _ hh _ (List.mem_singleton_self _)] at hd'
    obtain ⟨app₁, happ⟩ := storeNotification_of_lookup hd'
    rw [happ] at hn
    exact nomatch hn
  | failHook hh hn =>
    -- The receiver in `AppState.hooks` is still there
    obtain ⟨app₁, happ⟩ := sendNotificationHook_of_pos (hcfg.receivers.mpr hhooks)
    rw [happ] at hn
    exact nomatch hn
  | writeSome hh => exact hs.await (by rw [hh]; rfl) (by rw [hh]; rfl) (by nofun)
  | writeAll hh => exact hs.await (by rw [hh]; rfl) (by rw [hh]; rfl) (by nofun)
  | writeError hh => exact hs.await (by rw [hh]; rfl) (by rw [hh]; rfl) (by nofun)

/-- Receiving a request leaves the notifications alone. -/
theorem recvRequest_inbound {r : Except Broadcast.RecvError DeviceBoundSimpleMessage}
    (h : s.recvRequest env key r = some s') (hs : s.Inbound env) : s'.Inbound env := by
  obtain ⟨hh, ⟨e, -, rfl⟩ | ⟨m, -, -, rfl⟩ | ⟨m, -, -, rfl⟩⟩ := recvRequest_cases h
  · exact hs.await (by rw [hh]; rfl) (by rw [hh]; rfl) (by nofun)
  · exact hs
  · exact hs.startWrite (by rw [hh]; rfl) (by rw [hh]; rfl) m

end Session

/-! ## What a step does to the shared state -/

/-- A step of a connection stores a notification, sends a hook or leaves the shared state
alone; its log records which, and only the entry of its own device can change. -/
structure Conn.Effect (app : AppState) (c : Conn) (app' : AppState) (c' : Conn) : Prop where
  others : ∀ id, c.device ≠ some id → app'.devices.lookup id = app.devices.lookup id
  applied : (c'.log.applied = c.log.applied ∧ app'.devices = app.devices) ∨
    ∃ n, c'.log.applied = c.log.applied ++ [n] ∧ storeNotification n app = .ok app'
  hooked : (c'.log.hooked = c.log.hooked ∧ app'.hooks.sender.sent = app.hooks.sender.sent) ∨
    ∃ n, c'.log.hooked = c.log.hooked ++ [n] ∧
      app'.hooks.sender.sent = app.hooks.sender.sent ++ [.deviceStateUpdate n]

/-- A step that does not touch the shared state and records nothing. -/
theorem Conn.Effect.none {c c' : Conn} (ha : c'.log.applied = c.log.applied)
    (hh : c'.log.hooked = c.log.hooked) : Conn.Effect app c app c' :=
  ⟨fun _ _ => rfl, .inl ⟨ha, rfl⟩, .inl ⟨hh, rfl⟩⟩

/-- A write logs nothing of what came in. -/
theorem Session.startWrite_log (env : Env) (key : SigningKey) (m : DeviceBoundSimpleMessage)
    (s : Session) : (s.startWrite env key m).log = s.log := by
  obtain ⟨nonce, handler, he, -⟩ := startWrite_frame env key m s
  rw [he]

/-- A step of the session delivers at most one update, to the table and then to the hooks. -/
theorem Session.Step.effect {c c' : Conn} {l : Session.Label}
    (h : Session.Step env key app socket s l app' socket' s')
    (hc : c.stage.session? = some s) (hc' : c'.stage.session? = some s') (hs : s.Inbound env) :
    Conn.Effect app c app' c' := by
  have hlog : c.log = s.log := by simp [Conn.log, hc]
  have hlog' : c'.log = s'.log := by simp [Conn.log, hc']
  cases h with
  -- The notification is stored under its own device id, the session's own by `Inbound`
  | store hh hn =>
    have hown := hs.own _ hh _ (List.mem_singleton_self _)
    refine ⟨fun id hid => storeNotification_lookup_ne hn fun he => hid ?_, .inr ⟨_, ?_, hn⟩,
      .inl ⟨by rw [hlog, hlog'], by rw [storeNotification_hooks hn]⟩⟩
    · rw [Conn.device, hc, Option.map_some, he, hown]
    · rw [hlog, hlog']
  -- The stored notification is sent to the hook channel, and the table stays
  | sendHook hh hn =>
    obtain ⟨hd, -, hsender⟩ := sendNotificationHook_ok hn
    exact ⟨fun id _ => by rw [hd], .inl ⟨by rw [hlog, hlog'], hd⟩,
      .inr ⟨_, by rw [hlog, hlog'], by rw [hsender]⟩⟩
  -- A refused message is answered by a failure frame, and leaves table and channel alone
  | @refuse m rest e =>
    have hwrite := startWrite_log env key (.failure ("failed to handle simple message" :: e))
      { s with messages := { s.messages with queue := rest } }
    exact .none (by rw [hlog, hlog', fail, hwrite]) (by rw [hlog, hlog', fail, hwrite])
  | failStore =>
    exact .none (by rw [hlog, hlog', fail, startWrite_log])
      (by rw [hlog, hlog', fail, startWrite_log])
  | failHook =>
    exact .none (by rw [hlog, hlog', fail, startWrite_log])
      (by rw [hlog, hlog', fail, startWrite_log])
  | _ => exact .none (by rw [hlog, hlog']) (by rw [hlog, hlog'])

/-- A step of a connection has an effect on the shared state only through its session. -/
theorem Conn.step_effect {c c' : Conn} {l : Conn.Label} (h : c.step env key app l = some (app', c'))
    (hs : ∀ s, c.stage.session? = some s → s.Inbound env) : Conn.Effect app c app' c' := by
  cases Conn.step_cases h with
  | session hstep => exact (Session.step_cases hstep).effect rfl rfl (hs _ rfl)
  | _ => exact .none rfl rfl

/-- A request that is received delivers nothing. -/
theorem Conn.recvRequest_effect {c c' : Conn}
    {r : Except Broadcast.RecvError DeviceBoundSimpleMessage}
    (h : c.recvRequest env key r = some c') : Conn.Effect app c app c' := by
  obtain ⟨s, s', hs, hr, rfl⟩ := Conn.recvRequest_session h
  have hlog : s'.log = s.log := by
    obtain ⟨-, ⟨e, -, rfl⟩ | ⟨m, -, -, rfl⟩ | ⟨m, -, -, rfl⟩⟩ := Session.recvRequest_cases hr
    · rfl
    · rfl
    · exact Session.startWrite_log env key m s
  exact .none (by simp [Conn.log, hs, Stage.session?, hlog])
    (by simp [Conn.log, hs, Stage.session?, hlog])

/-! ## Runs -/

/-- What a session has accepted, stored and sent the hooks of. -/
structure Session.Delivered (env : Env) (devices : Devices) (s : Session) : Prop where
  publicKey : lookupPublicKey devices s.deviceId = .ok s.publicKey
  frames : Frames env s.publicKey s.startNonce (s.log.accepted.map Prod.fst)
    (s.log.accepted.map Prod.snd)
  applied : s.log.applied <+: notificationsOf s.deviceId (s.log.accepted.map Prod.snd)
  hooked : s.log.hooked <+: notificationsOf s.deviceId (s.log.accepted.map Prod.snd)

/-- In every state of a session its hooks are those of its frames. -/
theorem Session.Inbound.delivered {devices : Devices} (h : s.Inbound env)
    (hk : lookupPublicKey devices s.deviceId = .ok s.publicKey) : s.Delivered env devices := by
  have happlied : s.log.applied <+: notificationsOf s.deviceId (s.log.accepted.map Prod.snd) := by
    rw [← h.applied, List.append_assoc]
    exact List.prefix_append _ _
  refine ⟨hk, h.frames, happlied, List.IsPrefix.trans ?_ happlied⟩
  rw [← h.hooked]
  exact List.prefix_append _ _

/-- The sessions of a controller whose server has its own receiver of the hooks. -/
def inboundSessions (env : Env) (key : SigningKey) (devices : Devices) (controllers : Controllers) :
    System.RelyGuarantee (handleConn env key).system :=
  -- What holds of a fresh session, of its own turns and of the requests it receives
  sessionInvariant env key (.new devices controllers)
    (fun s => s.Inbound env ∧ s.Known (.new devices controllers))
    (fun d publicKey n N hkey => ⟨.start env d publicKey n N, hkey⟩)
    (fun hcfg hs h => by
      refine ⟨h.inbound hs.1 hs.2 hcfg Nat.zero_lt_one, ?_⟩
      rw [Session.Known, h.samePeer.deviceId, h.samePeer.publicKey]
      exact hs.2)
    (fun hs h => by
      refine ⟨Session.recvRequest_inbound h hs.1, ?_⟩
      have hpeer := Session.recvRequest_samePeer h
      rw [Session.Known, hpeer.deviceId, hpeer.publicKey]
      exact hs.2)

/-- In every state of every run, each connection has stored a prefix of the notifications of
its device among the frames it accepted, and sent the hooks of a prefix of these; every such
frame verifies under the configured key of the device. And every step a connection takes
there stores or sends what its log records, for no device but its own. -/
theorem delivery_run (env : Env) (key : SigningKey) (devices : Devices) (controllers : Controllers)
    (as : List Act)
    (st : System.State Server (Connection Conn))
    (hrun : (handleConn env key).system.run (HandleConn.initial (.new devices controllers)) as
      = some st) :
    (∀ (i : Nat) (k : Connection Conn) (s : Session), st.comps[i]? = some k →
        k.conn.stage.session? = some s → s.Delivered env devices) ∧
      ∀ i l st', (handleConn env key).system.exec st (.step i l) = some st' →
        ∃ k k', st.comps[i]? = some k ∧ st'.comps[i]? = some k' ∧
          k.conn.Effect st.shared.app st'.shared.app k'.conn := by
  have hholds := (inboundSessions env key devices controllers).run hrun
    ⟨.refl _, fun k hk => absurd hk List.not_mem_nil⟩
  -- The sessions from the invariant, the effect from the turn that was made
  constructor
  · intro i k s hk hs
    obtain ⟨hin, hkey⟩ := hholds.2 k (List.mem_of_getElem? hk) s hs
    exact hin.delivered hkey
  · intro i l st' h
    obtain ⟨k, k', hk, hstep, hc⟩ := System.exec_step h
    refine ⟨k, k', hk, ?_, ?_⟩
    · rw [hc, List.getElem?_set_self (List.getElem?_eq_some_iff.mp hk).1]
    · -- the turn is the connection's own, or it receives a request from the channel
      cases l with
      | own l =>
        obtain ⟨hown, -⟩ := HandleConn.turn_own hstep
        exact Conn.step_effect hown fun s hs => (hholds.2 k (List.mem_of_getElem? hk) s hs).1
      | recvRequest r =>
        obtain ⟨-, hr, -, hserver⟩ := HandleConn.turn_recv hstep
        have happ : st'.shared.app = st.shared.app := by
          rw [hserver]
          exact ((handleConn env key).leave_eq _ _).2.1
        rw [happ]
        exact Conn.recvRequest_effect hr

/-- A lamp connects, reports that it is on, and the server stores it and sends the hook. -/
def Demo.reportRun : List Act :=
  Demo.connect 0 ++
    [.step 0 (.own (.deliver (Demo.reportFrame 1))), .step 0 (.own (.session .read)),
      .step 0 (.own (.session .send)), .step 0 (.own (.session .recvMessage)),
      .step 0 (.own (.session .process)), .step 0 (.own (.session .process))]

/-- One frame of the lamp, one hook. -/
theorem delivery_run_demo :
    ∃ st : System.State Server (Connection Conn),
      (handleConn Demo.env Demo.privateKey).system.run
          (HandleConn.initial (.new Demo.devices Demo.controllers)) Demo.reportRun = some st ∧
        (st.comps.map fun k => k.conn.log.hooked) = [[Demo.report]] ∧
        ∀ (i : Nat) (k : Connection Conn) (s : Session), st.comps[i]? = some k →
          k.conn.stage.session? = some s → s.Delivered Demo.env Demo.devices :=
  ⟨_, rfl, rfl, (delivery_run Demo.env Demo.privateKey Demo.devices Demo.controllers
    Demo.reportRun _ rfl).1⟩

end Devicectrl.Simple
