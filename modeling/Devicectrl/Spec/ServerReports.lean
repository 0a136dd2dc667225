import Devicectrl.Spec.KryptonHello
import Devicectrl.Spec.NotificationLedger
import Devicectrl.Spec.SimpleDelivery
import Devicectrl.Spec.SimpleReplay

/-!
# Where the states of devices come from

Every notification that the server with all its tasks processes was reported by the device it is
of: in a signed frame, over TLS, or in a datagram from the device's address. `Reported` is the
evidence, of what the run has done and of what its connections have accepted.

## Key results

- `Reported.exec`: evidence stays evidence
- `server_reports`: the states in the table, the hooks and what clients were told were all reported
- `server_silent`: nothing is heard of a device whose controller is not configured, or at whose
  address another is found
-/

namespace Devicectrl

variable {env : ServerEnv} {config : Config} {devices : Devices}

/-! ## What depends on the configuration only -/

section Configuration

namespace UdpController

variable {controller : UdpController} {devices' : Devices} {addr : Ipv4Addr}
  {datagram : List UInt8} {update : UpdateNotification} {device : Device}

/-- The device that is found for an address depends on the configuration alone. -/
theorem findDevice_configs (controller : UdpController) (devices : Devices) (addr : Ipv4Addr) :
    (controller.findDevice devices addr).map Device.config =
      (devices.configs.find? fun c => c.2.2.2 = controller.config addr).map Prod.snd := by
  rw [findDevice_eq, Devices.configs, List.find?_map, List.find?_map, Option.map_map,
    Option.map_map]
  rfl

/-- The same datagram is accepted as the same update where the configuration is the same. -/
theorem Accepts.congr (h : controller.Accepts env.incoming devices' addr datagram update device)
    (hconfigs : devices'.configs = devices.configs) (hk' : devices'.Keyed) (hk : devices.Keyed) :
    ∃ device, controller.Accepts env.incoming devices addr datagram update device := by
  -- Which device is found depends on the configuration alone, and so does its type
  have hfound := findDevice_configs controller devices' addr
  rw [hconfigs, ← findDevice_configs, h.found, Option.map_some] at hfound
  obtain ⟨device₀, hfound, hconfig⟩ := Option.map_eq_some_iff.mp hfound.symm
  obtain ⟨hlookup, hcontroller⟩ := findDevice_some hk hfound
  have hid : device₀.id = device.id := congrArg (fun c => c.1) hconfig
  have htype : device₀.deviceType = device.deviceType := congrArg (fun c => c.2.1) hconfig
  refine ⟨device₀, hfound, ?_, hcontroller, h.reachable, ?_, ?_⟩
  · rw [← hk' _ _ h.lookup, ← hid]
    exact hlookup
  · rw [htype]
    exact h.state
  · rw [htype]
    exact h.fits

end UdpController

/-- The controller of the kind is configured. -/
def Config.enables (config : Config) (controller : ControllerConfig) : Prop :=
  ((Controllers.new config.controllers).field controller).1 = true

end Configuration

/-! ## Evidence -/

namespace Krypton

/-- The TLS of a device: what a client has to present is the certificate it is configured with. -/
structure Trusted (env : Env) (globalConfig : KryptonControllerGlobalConfig)
    (devices : Devices) (deviceId : DeviceId) (tlsConfig : ServerConfig) : Prop where
  tls : getTlsConfig env (collectCerts devices) globalConfig deviceId = .ok tlsConfig
  root : ∃ device config, devices.lookup deviceId = some device ∧
    device.controller = .krypton config ∧
    env.certFromPem config.certBytes = .ok tlsConfig.clientRoot

/-- A certificate in the fold is one of a device of the table. -/
private theorem foldl_certs {entries : List (Sigma fun _ : DeviceId => Device)}
    {certs : AList fun _ : DeviceId => List UInt8} {id : DeviceId} {bytes : List UInt8}
    (h : (entries.foldl (fun certs entry =>
      match entry.2.controller with
      | .krypton config => certs.insert entry.2.id config.certBytes
      | _ => certs) certs).lookup id = some bytes) :
    certs.lookup id = some bytes ∨
      ∃ entry ∈ entries, entry.2.id = id ∧ entry.2.controller = .krypton ⟨bytes⟩ := by
  induction entries generalizing certs with
  | nil => exact .inl h
  | cons entry entries ih =>
    rw [List.foldl_cons] at h
    -- The certificate is one of the rest, or in the map that the rest began with
    rcases ih h with hcerts | ⟨entry', hmem, hentry'⟩
    · cases hcontroller : entry.2.controller with
      | krypton config =>
        rw [hcontroller] at hcerts
        by_cases hid : id = entry.2.id
        · subst hid
          have hbytes : some config.certBytes = some bytes := by
            rw [← hcerts]
            exact (AList.lookup_insert certs).symm
          cases hbytes
          exact .inr ⟨entry, List.mem_cons_self, rfl, hcontroller⟩
        · -- this entry is of another device
          rw [AList.lookup_insert_ne hid] at hcerts
          exact .inl hcerts
      | _ =>
        rw [hcontroller] at hcerts
        exact .inl hcerts
    · exact .inr ⟨entry', List.mem_cons_of_mem _ hmem, hentry'⟩

/-- Every certificate that is collected is that of a device. -/
theorem collectCerts_lookup (hk : devices.Keyed) {id : DeviceId} {bytes : List UInt8}
    (h : (collectCerts devices).lookup id = some bytes) :
    ∃ device, devices.lookup id = some device ∧ device.controller = .krypton ⟨bytes⟩ := by
  rcases foldl_certs h with hnone | ⟨⟨id', device⟩, hmem, hid, hcontroller⟩
  · rw [AList.lookup_empty] at hnone
    cases hnone
  · have hlookup : devices.lookup id' = some device := AList.mem_lookup_iff.mpr hmem
    have hid' : device.id = id := hid
    rw [← hid', hk id' device hlookup]
    exact ⟨device, hlookup, hcontroller⟩

/-- The bind of `Except` has the value of both parts. -/
private theorem bind_ok {α β : Type} {x : Except Error α} {f : α → Except Error β} {b : β}
    (h : x >>= f = .ok b) : ∃ a, x = .ok a ∧ f a = .ok b := by
  cases x with
  | error e => cases h
  | ok a => exact ⟨a, rfl, h⟩

/-- `describe` keeps the value of a call that succeeds. -/
private theorem describe_ok {α : Type} {what : String} {result : Except String α} {a : α}
    (h : describe what result = .ok a) : result = .ok a := by
  cases result with
  | error e => cases h
  | ok b =>
    cases h
    rfl

/-- The TLS configuration of a device trusts the certificate that the table has for it. -/
theorem Trusted.of_tls {env : Env} {globalConfig : KryptonControllerGlobalConfig}
    (hk : devices.Keyed) {deviceId : DeviceId} {tlsConfig : ServerConfig}
    (h : getTlsConfig env (collectCerts devices) globalConfig deviceId = .ok tlsConfig) :
    Trusted env globalConfig devices deviceId tlsConfig := by
  refine ⟨h, ?_⟩
  unfold getTlsConfig at h
  split at h
  · cases h
  · rename_i bytes hbytes
    obtain ⟨device, hdevice, hcontroller⟩ := collectCerts_lookup hk hbytes
    refine ⟨device, ⟨bytes⟩, hdevice, hcontroller, ?_⟩
    obtain ⟨deviceCert, hcert, h⟩ := bind_ok h
    -- What is checked after it does not change the root
    obtain ⟨-, -, h⟩ := bind_ok h
    obtain ⟨-, -, h⟩ := bind_ok h
    obtain ⟨serverCert, -, h⟩ := bind_ok h
    obtain ⟨serverKey, -, h⟩ := bind_ok h
    obtain ⟨-, -, h⟩ := bind_ok h
    cases h
    exact describe_ok hcert

end Krypton

/-- The device of a notification has reported it, in a run `as` that has led to `st`. -/
inductive Reported (env : ServerEnv) (config : Config) (devices : Devices)
    (as : List (System.Act Unit TaskStart TaskLabel)) (st : System.State ServerState ServerTask)
    (update : UpdateNotification) : Prop
  /-- In a frame that verifies with the key of the device. -/
  | simple {i : Nat} {connection : Connection Simple.Conn} {session : Simple.Session}
      {frame : List UInt8} {nonce : UInt32} {device : Device}
      {simpleConfig : SimpleControllerConfig} (henabled : config.controllers.simple.isSome)
      (hdevice : devices.lookup update.deviceId = some device)
      (hkey : device.controller = .simple simpleConfig)
      (hi : st.comps[i]? = some (.simple connection))
      (hsession : connection.conn.stage.session? = some session)
      (haccepted : (frame, .updateNotification update) ∈ session.log.accepted)
      (hframe : Simple.IsFrame env.simple simpleConfig.publicKey nonce frame
        (.updateNotification update))
  /-- Over TLS with the certificate of the device. -/
  | krypton {i : Nat} {connection : Connection Krypton.Conn}
      {globalConfig : Krypton.KryptonControllerGlobalConfig} {tlsConfig : Krypton.ServerConfig}
      {buf : List UInt8} (henabled : config.controllers.krypton = some globalConfig)
      (htrusted : Krypton.Trusted env.incoming.krypton globalConfig devices update.deviceId
        tlsConfig)
      (hi : st.comps[i]? = some (.krypton connection))
      (hdevice : connection.conn.device = some update.deviceId)
      (haccept : .step i (.krypton (.own (.accept (.ok ())))) ∈ as)
      (hbuf : .step i (.krypton (.own (.tryNext (.ok (some buf))))) ∈ as)
      (hmessage : env.incoming.krypton.fromSlice buf = .ok (.updateNotification update))
  /-- In a datagram from the address of the device. -/
  | udp {i : Nat} {controller : UdpController} {listening : StartListening} {addr : Ipv4Addr}
      {datagram : List UInt8} {device : Device} (henabled : config.enables (controller.config addr))
      (hi : st.comps[i]? = some (.listener controller listening))
      (hreceived : .step i (.listener (.received (.ok (addr, datagram)))) ∈ as)
      (haccepts : controller.Accepts env.incoming devices addr datagram update device)

/-! ## Evidence stays -/

section Exec

variable {st st' : System.State ServerState ServerTask}
  {as : List (System.Act Unit TaskStart TaskLabel)} {a : System.Act Unit TaskStart TaskLabel}
  {update : UpdateNotification}

namespace Simple

variable {env : Env} {key : SigningKey} {app app' : AppState} {s : Session}

/-- What a session has accepted, it has accepted for good. -/
theorem Conn.step_accepted {c c' : Conn} {l : Conn.Label}
    (h : c.step env key app l = some (app', c')) (hs : c.stage.session? = some s) :
    ∃ s', c'.stage.session? = some s' ∧ s.log.accepted ⊆ s'.log.accepted := by
  cases Conn.step_cases h with
  | deliver hopen heof => exact ⟨s, hs, List.Subset.refl _⟩
  | hangUp hopen => exact ⟨s, hs, List.Subset.refl _⟩
  -- A step of the session accepts one frame at most
  | session hsession =>
    cases hs
    refine ⟨_, rfl, ?_⟩
    rcases (Session.step_cases hsession).recv_cases with ⟨-, ha⟩ | ⟨F, m, -, -, ha⟩
    · rw [ha]
      exact List.Subset.refl _
    · rw [ha]
      exact List.subset_append_left _ _
  -- The session that has ended keeps its log
  | finish hreader hhandler => exact ⟨s, hs, List.Subset.refl _⟩
  | _ => cases hs

/-- An accepted message stays accepted while the connection is served. -/
theorem turn_accepted {server server' : Server} {k k' : Connection Conn}
    {l : HandleConn.Label Conn.Label}
    (h : (handleConn env key).turn server k l = some (server', k'))
    (hs : k.conn.stage.session? = some s) :
    ∃ s', k'.conn.stage.session? = some s' ∧ s.log.accepted ⊆ s'.log.accepted := by
  cases l with
  | own l =>
    obtain ⟨hown, -, -⟩ := HandleConn.turn_own h
    exact Conn.step_accepted hown hs
  | recvRequest r =>
    obtain ⟨-, hr, -⟩ := HandleConn.turn_recv h
    obtain ⟨s₀, s₁, hstage, hrecv, he⟩ := Conn.recvRequest_session hr
    -- The session is the one that receives
    rw [hstage] at hs
    cases hs
    refine ⟨s₁, by rw [he]; rfl, ?_⟩
    obtain ⟨-, ⟨e, -, rfl⟩ | ⟨m, -, -, rfl⟩ | ⟨m, -, -, rfl⟩⟩ := Session.recvRequest_cases hrecv
    · exact List.Subset.refl _
    · exact List.Subset.refl _
    · rw [(Session.startWrite_recv env key m s).2]
      exact List.Subset.refl _

end Simple

/-- A connection of a controller keeps its device. -/
theorem HandleConn.turn_device {κ ν ℓ : Type} {H : HandleConn κ ν ℓ} (hH : H.Lawful)
    {server server' : Server} {k k' : Connection κ} {l : HandleConn.Label ℓ} {d : DeviceId}
    (h : H.turn server k l = some (server', k')) (hd : H.device k.conn = some d) :
    H.device k'.conn = some d := by
  cases l with
  | own l =>
    obtain ⟨hown, -, -⟩ := HandleConn.turn_own h
    exact hH.step_device hown hd
  | recvRequest r =>
    obtain ⟨-, hr, -⟩ := HandleConn.turn_recv h
    obtain ⟨d', hd', hd''⟩ := hH.recv_device hr
    rwa [hd'', ← hd']

/-- A Krypton connection of the server stays one of its device. -/
theorem krypton_device_exec {i : Nat} {k : Connection Krypton.Conn} {d : DeviceId}
    (hexec : (serverTasks env config).exec st a = some st')
    (hi : st.comps[i]? = some (.krypton k)) (hd : k.conn.device = some d) :
    ∃ k', st'.comps[i]? = some (.krypton k') ∧ k'.conn.device = some d := by
  rcases System.exec_comp hexec hi with ⟨-, hi'⟩ | ⟨l, task', -, hstep, hi'⟩
  · exact ⟨k, hi', hd⟩
  · generalize st'.shared = server' at hstep
    cases ServerTask.step_cases hstep with
    | krypton hconfig hcerts hturn =>
      exact ⟨_, hi', HandleConn.turn_device (Krypton.handleConn_lawful _ _ _) hturn hd⟩

/-- A report that has been made stays one as the run goes on. -/
theorem Reported.exec (h : Reported env config devices as st update)
    (hexec : (serverTasks env config).exec st a = some st') :
    Reported env config devices (as ++ [a]) st' update := by
  -- The task that shows it is still there, and if it took the step, it keeps what it accepted
  cases h with
  | simple henabled hdevice hkey hi hsession haccepted hframe =>
    rcases System.exec_comp hexec hi with ⟨-, hi'⟩ | ⟨l, task', -, hstep, hi'⟩
    · exact .simple henabled hdevice hkey hi' hsession haccepted hframe
    · generalize st'.shared = server' at hstep
      cases ServerTask.step_cases hstep with
      | simple hconfig hturn =>
        obtain ⟨s', hs', hsub⟩ := Simple.turn_accepted hturn hsession
        exact .simple henabled hdevice hkey hi' hs' (hsub haccepted) hframe
  | krypton henabled htrusted hi hdevice haccept hbuf hmessage =>
    have haccept' := List.mem_append_left [a] haccept
    have hbuf' := List.mem_append_left [a] hbuf
    obtain ⟨k', hi', hdevice'⟩ := krypton_device_exec hexec hi hdevice
    exact .krypton henabled htrusted hi' hdevice' haccept' hbuf' hmessage
  | udp henabled hi hreceived haccepts =>
    have hreceived' := List.mem_append_left [a] hreceived
    rcases System.exec_comp hexec hi with ⟨-, hi'⟩ | ⟨l, task', -, hstep, hi'⟩
    · exact .udp henabled hi' hreceived' haccepts
    · generalize st'.shared = server' at hstep
      cases ServerTask.step_cases hstep with
      | listener hstep => exact .udp henabled hi' hreceived' haccepts

end Exec

/-! ## Where a notification comes from -/

section Sources

variable {st st' : System.State ServerState ServerTask}
  {as : List (System.Act Unit TaskStart TaskLabel)} {update : UpdateNotification}

/-- The notification that a session is about to store was in a frame that it has accepted, of its
own device. -/
theorem Simple.Session.Inbound.accepted {env : Env} {s : Session} (h : s.Inbound env)
    (hs : s.handler = .processing (.store update)) :
    update.deviceId = s.deviceId ∧ ∃ frame nonce,
      (frame, .updateNotification update) ∈ s.log.accepted ∧
        IsFrame env s.publicKey nonce frame (.updateNotification update) := by
  -- What is in hand is the last of the accepted updates for the device
  have happlied := h.applied
  rw [hs] at happlied
  have hmem : update ∈ notificationsOf s.deviceId (s.log.accepted.map Prod.snd) := by
    rw [← happlied]
    simp [Handler.storing, NotificationCall.stores]
  obtain ⟨hfilter, hid⟩ := List.mem_filter.mp hmem
  obtain ⟨message, hmessage, hupdate⟩ := List.mem_filterMap.mp hfilter
  obtain ⟨⟨frame, message⟩, haccepted, rfl⟩ := List.mem_map.mp hmessage
  -- Of the messages only a report carries an update
  have hm : message = .updateNotification update := by
    cases message with
    | updateNotification n =>
      cases hupdate
      rfl
    | _ => cases hupdate
  obtain rfl := hm
  refine ⟨of_decide_eq_true hid, frame, ?_⟩
  -- The frame is the one under the nonce of its place
  obtain ⟨j, hj, he⟩ := List.mem_iff_getElem.mp haccepted
  have hframe := h.frames.frame j (by rwa [List.length_map]) (by rwa [List.length_map])
  rw [List.getElem_map, List.getElem_map, he] at hframe
  exact ⟨_, haccepted, hframe⟩

/-- A Simple connection processes what its device has signed. -/
theorem reported_simple
    (hrun : (serverTasks env config).run (serverInitial config devices) as = some st)
    {globalConfig : SimpleControllerGlobalConfig}
    (hconfig : config.controllers.simple = some globalConfig) {i : Nat}
    {connection : Connection Simple.Conn} (hi : st.comps[i]? = some (.simple connection))
    (hcall : connection.conn.activeCall = some (.store update)) :
    Reported env config devices as st update := by
  obtain ⟨as₁, has₁⟩ := simpleConnections_of_run hconfig hrun
  have hholds := (Simple.inboundSessions env.simple globalConfig.serverPrivateKey devices
    (.new config.controllers)).run has₁ ⟨.refl _, fun k hk => absurd hk List.not_mem_nil⟩
  have hmem : connection ∈ st.comps.filterMap ServerTask.simple? :=
    List.mem_filterMap.mpr ⟨_, List.mem_of_getElem? hi, rfl⟩
  unfold Simple.Conn.activeCall at hcall
  split at hcall
  · rename_i s hstage
    have hsession : connection.conn.stage.session? = some s := by rw [hstage]; rfl
    obtain ⟨hin, hknown⟩ := hholds.2 connection hmem s hsession
    have hhandler : s.handler = .processing (.store update) := by
      unfold Simple.Handler.activeCall at hcall
      split at hcall
      · rename_i call hh
        cases hcall
        exact hh
      · cases hcall
    obtain ⟨hid, frame, nonce, haccepted, hframe⟩ := hin.accepted hhandler
    -- The key is that of the configuration
    have hkey : Simple.lookupPublicKey devices s.deviceId = .ok s.publicKey := hknown
    unfold Simple.lookupPublicKey at hkey
    split at hkey
    · cases hkey
    · rename_i device hdevice
      split at hkey
      · rename_i simpleConfig hcontroller
        have hpublic : simpleConfig.publicKey = s.publicKey := Except.ok.inj hkey
        rw [← hpublic] at hframe
        rw [← hid] at hdevice
        exact .simple (by rw [hconfig]; rfl) hdevice hcontroller hi hsession haccepted hframe
      · cases hkey
  · cases hcall

/-- What a message makes a Krypton connection process. -/
theorem Krypton.handleMessage_ok {env : Env} {buf : List UInt8} {d : DeviceId}
    (h : handleMessage env buf d devices = .ok (some update)) :
    update.deviceId = d ∧ env.fromSlice buf = .ok (.updateNotification update) ∧
      ∃ device config, devices.lookup d = some device ∧ device.controller = .krypton config := by
  unfold handleMessage at h
  split at h
  · cases h
  · rename_i device hdevice
    -- The device is one of the Krypton controller, else the message is refused
    split at h
    · rename_i config hcontroller
      split at h
      · cases h
      · rename_i message hmessage
        -- The message is a report of the device itself
        obtain ⟨rfl, hid⟩ := ServerBoundMessage.handle_ok_some h
        exact ⟨hid, hmessage, device, config, hdevice, hcontroller⟩
    · cases h

/-! ### Krypton connections -/

namespace Krypton

variable {env : Env} {globalConfig : KryptonControllerGlobalConfig} {accepted accepted' : Prop}

/-- The handshake is done with the certificate of the device, and once it is over, it was
accepted. -/
def Conn.Shaken (env : Env) (globalConfig : KryptonControllerGlobalConfig) (devices : Devices)
    (accepted : Prop) (c : Conn) : Prop :=
  match c.stage with
  | .handshake d tlsConfig => Trusted env globalConfig devices d tlsConfig
  | .running d _ _ => accepted ∧ ∃ tlsConfig, Trusted env globalConfig devices d tlsConfig
  | .returned d? sent _ => ∀ d ∈ d?, sent ≠ [] →
    accepted ∧ ∃ tlsConfig, Trusted env globalConfig devices d tlsConfig
  | _ => True

namespace Conn.Shaken

variable {app app' : AppState} {c c' : Conn}

/-- A connection that has been accepted stays so. -/
theorem mono (h : c.Shaken env globalConfig devices accepted) (ha : accepted → accepted') :
    c.Shaken env globalConfig devices accepted' := by
  unfold Shaken at h ⊢
  split at h
  · exact h
  · exact ⟨ha h.1, h.2⟩
  · exact fun d hd hsent => ⟨ha (h d hd hsent).1, (h d hd hsent).2⟩
  · trivial

/-- The loop of a device goes on with this device. -/
theorem of_isLater {socket : Socket} {stage : Stage} {d : DeviceId}
    (hrunning : accepted ∧ ∃ tlsConfig, Trusted env globalConfig devices d tlsConfig)
    (hlater : Conn.Stage.IsLater stage) (hd : Conn.device ⟨socket, stage⟩ = some d) :
    Conn.Shaken env globalConfig devices accepted ⟨socket, stage⟩ := by
  cases stage with
  | running d' handler sent =>
    cases hd
    exact hrunning
  | returned d' sent result =>
    cases hd
    intro d' hd' _
    cases hd'
    exact hrunning
  | _ => cases hlater

/-- A call that returns before it has sent anything. -/
theorem unsent (socket : Socket) (d? : Option DeviceId) (result : Except Error Unit) :
    Conn.Shaken env globalConfig devices accepted ⟨socket, .returned d? [] result⟩ :=
  fun _ _ hsent => absurd rfl hsent

/-- The hello ends in the handshake of a trusted device, or in the end of the connection. -/
theorem feed (hk : devices.Keyed) (socket : Socket) (fed : List UInt8) :
    Conn.Shaken env globalConfig devices accepted
      ⟨socket, Conn.feed env globalConfig (collectCerts devices) fed⟩ := by
  rw [Conn.feed]
  split
  · -- the hello has failed, or is read on, or names a device
    exact .unsent _ _ _
  · split
    · exact .unsent _ _ _
    · trivial
    · split
      · exact .unsent _ _ _
      · split
        · exact .unsent _ _ _
        · -- the certificate that was collected is that of the device
          rename_i tlsConfig htls
          exact .of_tls hk htls

/-- A step of a connection keeps it to the device it has shaken hands for. -/
theorem step (h : c.Shaken env globalConfig devices accepted) (hk : devices.Keyed)
    {l : Conn.Label}
    (hstep : c.step env globalConfig (collectCerts devices) app l = some (app', c')) :
    c'.Shaken env globalConfig devices (accepted ∨ l = .accept (.ok ())) := by
  cases Conn.step_cases hstep with
  | deliver hopen heof => exact h.mono .inl
  | hangUp hopen => exact h.mono .inl
  | readError => exact .unsent _ _ _
  | read hread => exact .feed hk _ _
  | acceptError => exact .unsent _ _ _
  -- The peer of the handshake has shown the certificate of its device
  | accept => exact ⟨.inr rfl, _, h⟩
  | @tryNext socket d sent result =>
    -- After the handshake the device stays
    exact .of_isLater ⟨.inl h.1, h.2⟩ (Conn.recvFrame_isLater env app.devices d sent result)
      (Conn.recvFrame_device env app.devices d sent socket result)
  | @process socket d call sent =>
    exact .of_isLater ⟨.inl h.1, h.2⟩ (Conn.process_isLater env app d sent call)
      (Conn.process_device env app d sent call socket)
  | sendError => exact .of_isLater ⟨.inl h.1, h.2⟩ trivial rfl
  | send => exact ⟨.inl h.1, h.2⟩

/-- A request that is received leaves the connection to its device. -/
theorem recvRequest (h : c.Shaken env globalConfig devices accepted)
    {r : Except Broadcast.RecvError DeviceBoundKryptonMessage}
    (hrecv : c.recvRequest env r = some c') : c'.Shaken env globalConfig devices accepted := by
  -- The channel has failed, the request is for another device, or it is for this one
  obtain ⟨d, sent, hstage, ⟨e, -, rfl⟩ | ⟨m, -, -, rfl⟩ | ⟨m, -, -, rfl⟩⟩ :=
    Conn.recvRequest_cases hrecv
  · unfold Shaken at h
    rw [hstage] at h
    exact .of_isLater h trivial rfl
  · exact h
  · unfold Shaken at h
    rw [hstage] at h
    exact .of_isLater h (Conn.startSend_isLater env m d sent)
      (Conn.startSend_device env m d sent c.socket)

/-- Nothing is sent before the handshake is over. -/
theorem of_sent (h : c.Shaken env globalConfig devices accepted) {d : DeviceId}
    (hd : c.device = some d) (hsent : c.sent ≠ []) :
    accepted ∧ ∃ tlsConfig, Trusted env globalConfig devices d tlsConfig := by
  obtain ⟨socket, stage⟩ := c
  cases stage with
  | running d' handler sent =>
    cases hd
    exact h
  | returned d? sent result => exact h d hd hsent
  | _ => exact absurd rfl hsent

/-- What a turn of a connection does. -/
theorem turn {server server' : Server} {k k' : Connection Conn} {l : HandleConn.Label Conn.Label}
    (h : k.conn.Shaken env globalConfig devices accepted) (hk : devices.Keyed)
    (hturn : (handleConn env globalConfig (collectCerts devices)).turn server k l =
      some (server', k')) :
    k'.conn.Shaken env globalConfig devices (accepted ∨ l = .own (.accept (.ok ()))) := by
  cases l with
  | own l =>
    obtain ⟨hown, -, -⟩ := HandleConn.turn_own hturn
    exact (h.step hk hown).mono (Or.imp_right (congrArg _))
  | recvRequest r =>
    obtain ⟨-, hr, -⟩ := HandleConn.turn_recv hturn
    exact (h.recvRequest hr).mono .inl

end Conn.Shaken

/-- The frame that makes a connection begin a call. -/
theorem Conn.step_begin {app app' : AppState} {c c' : Conn} {l : Conn.Label}
    {deviceCerts : AList fun _ : DeviceId => List UInt8}
    (h : c.step env globalConfig deviceCerts app l = some (app', c'))
    (hnone : c.stage.activeCall = none) (hcall : c'.stage.activeCall = some (.store update)) :
    ∃ d sent buf, c.stage = .running d .selecting sent ∧ l = .tryNext (.ok (some buf)) ∧
      handleMessage env buf d app.devices = .ok (some update) ∧ c'.device = some d := by
  -- Of all that a connection does, only a frame makes it begin a call
  cases step_cases h with
  | deliver hopen heof => cases hnone.symm.trans hcall
  | hangUp hopen => cases hnone.symm.trans hcall
  | read hread => cases (activeCall_feed env globalConfig deviceCerts _).symm.trans hcall
  | @tryNext socket d sent result =>
    rcases activeCall_recvFrame env app.devices d sent result with
      he | ⟨buf, update', rfl, hmessage, he⟩
    · cases he.symm.trans hcall
    · cases he.symm.trans hcall
      exact ⟨d, sent, buf, rfl, rfl, hmessage, recvFrame_device env app.devices d sent socket _⟩
  | process => cases hnone
  | _ => cases hcall

end Krypton

/-- The datagram that makes a listener begin a call. -/
theorem StartListening.step_begin {env : IncomingEnv} {controller : UdpController}
    {app app' : AppState} {listener listener' : StartListening} {l : ListenLabel}
    (h : listener.step env controller app l = some (app', listener'))
    (hnone : listener.activeCall = none) (hcall : listener'.activeCall = some (.store update)) :
    ∃ addr datagram, listener = .reading addr datagram ∧
      (controller.incoming addr datagram).decode env app.devices = .ok (some update) := by
  cases step_cases h with
  | accept hdecode =>
    cases hcall
    exact ⟨_, _, rfl, hdecode⟩
  | goOn => cases hnone
  | _ => cases hcall

end Sources

/-! ## Runs -/

namespace CallTurn

variable {app app' : AppState} {active' : Option NotificationCall}

/-- A call that was not there is one that has everything yet to do. -/
theorem begun {active : Option NotificationCall} {call : NotificationCall}
    (h : CallTurn app active app' active') (hnone : active = none) (hcall : active' = some call) :
    ∃ update, call = .store update := by
  cases h with
  | other => cases hnone.symm.trans hcall
  | begin =>
    cases hcall
    exact ⟨_, rfl⟩
  | part => cases hnone

/-- A call goes on with its notification. -/
theorem update_eq {active : Option NotificationCall} {call call' : NotificationCall}
    (h : CallTurn app active app' active') (hsome : active = some call)
    (hcall : active' = some call') : call'.update = call.update := by
  cases h with
  | other =>
    cases hsome.symm.trans hcall
    rfl
  | begin => cases hsome
  -- A notification that goes on keeps its update
  | @part call₀ app₁ r hstep =>
    cases hsome
    cases r with
    | inl call₁ =>
      cases hcall
      exact hstep.update_eq
    | inr result => cases hcall

end CallTurn

/-- What an action stores, a task has in hand. -/
theorem exists_of_stored {st : System.State ServerState ServerTask}
    {a : System.Act Unit TaskStart TaskLabel} {update : UpdateNotification}
    (h : update ∈ serverStored env config st a) :
    ∃ (i : Nat) (task : ServerTask), st.comps[i]? = some task ∧
      task.activeCall = some (.store update) := by
  unfold serverStored at h
  split at h
  · -- only a step of a task stores
    rename_i i l
    split at h
    · rename_i task task' hi hi'
      unfold storedBetween at h
      split at h
      · -- it stores what it was processing
        rename_i update' hcall hcall'
        rw [List.mem_singleton] at h
        subst h
        exact ⟨i, task, hi, hcall⟩
      · cases h
    · cases h
  · cases h
  · cases h

/-- A task that begins has processed nothing. -/
theorem AcceptTask.activeCall {server server' : ServerState} {start : TaskStart}
    {task : ServerTask} (h : AcceptTask env config server start server' task) :
    task.activeCall = none := by
  cases h <;> rfl

section Runs

variable {st st' : System.State ServerState ServerTask}
  {as : List (System.Act Unit TaskStart TaskLabel)} {a : System.Act Unit TaskStart TaskLabel}
  {update : UpdateNotification}

/-- What a run keeps of its tasks: every notification that one processes, and every one that was
stored, was reported. -/
structure Sourced (env : ServerEnv) (config : Config) (devices : Devices)
    (as : List (System.Act Unit TaskStart TaskLabel)) (st : System.State ServerState ServerTask) :
    Prop where
  inHand : ∀ {i : Nat} {task : ServerTask} {call : NotificationCall}, st.comps[i]? = some task →
    task.activeCall = some call → Reported env config devices as st call.update
  enabled : ∀ {i : Nat} {controller : UdpController} {listening : StartListening},
    st.comps[i]? = some (.listener controller listening) →
    ∀ addr, config.enables (controller.config addr)
  received : ∀ {i : Nat} {controller : UdpController} {addr : Ipv4Addr} {datagram : List UInt8},
    st.comps[i]? = some (.listener controller (.reading addr datagram)) →
    .step i (.listener (.received (.ok (addr, datagram)))) ∈ as
  shaken : ∀ {i : Nat} {connection : Connection Krypton.Conn}
    {globalConfig : Krypton.KryptonControllerGlobalConfig},
    config.controllers.krypton = some globalConfig → st.comps[i]? = some (.krypton connection) →
    connection.conn.Shaken env.incoming.krypton globalConfig devices
      (.step i (.krypton (.own (.accept (.ok ())))) ∈ as)
  stored : ∀ {update : UpdateNotification},
    update ∈ Lts.observe (serverTasks env config).exec (serverStored env config)
      (serverInitial config devices) as → Reported env config devices as st update

namespace Sourced

/-- A server that `main` has just started has no report to account for. -/
theorem initial (env : ServerEnv) (config : Config) (devices : Devices) :
    Sourced env config devices [] (serverInitial config devices) := by
  -- The tasks of `main` process nothing, and the listeners are those of the configuration
  have hmain {i : Nat} {task : ServerTask}
      (hi : (serverInitial config devices).comps[i]? = some task) :
      task.activeCall = none ∧ task.krypton? = none ∧ ∀ controller listening,
        task = .listener controller listening →
          listening = .receiving ∧ ∀ addr, config.enables (controller.config addr) := by
    cases mainTasks_cases (List.mem_of_getElem? hi) with
    | tplink he =>
      refine ⟨rfl, rfl, fun controller listening h => ?_⟩
      cases h
      exact ⟨rfl, fun addr => he⟩
    | govee he =>
      refine ⟨rfl, rfl, fun controller listening h => ?_⟩
      cases h
      exact ⟨rfl, fun addr => he⟩
    | _ => exact ⟨rfl, rfl, by simp⟩
  refine ⟨fun hi hcall => ?_, fun hi => ((hmain hi).2.2 _ _ rfl).2, fun hi => ?_,
    fun _ hi => ?_, fun hmem => ?_⟩
  · cases (hmain hi).1.symm.trans hcall
  · cases ((hmain hi).2.2 _ _ rfl).1
  · cases (hmain hi).2.1
  · cases hmem

/-- A call that begins was made for what the device of its notification has reported. -/
theorem begin (h : Sourced env config devices as st) (hk : devices.Keyed)
    (hrun : (serverTasks env config).run (serverInitial config devices) as = some st)
    {i : Nat} {task task' : ServerTask} {l : TaskLabel} (hi : st.comps[i]? = some task)
    (hexec : (serverTasks env config).exec st (.step i l) = some st')
    (hstep : task.Step env config st.shared l st'.shared task')
    (hi' : st'.comps[i]? = some task') (hnone : task.activeCall = none)
    (hcall : task'.activeCall = some (.store update)) :
    Reported env config devices (as ++ [.step i l]) st' update := by
  have hserves := Serves.run hrun
  have hmem : .step i l ∈ as ++ [System.Act.step i l] := by simp
  generalize hserver : st'.shared = server' at hstep
  cases hstep with
  -- The frame was accepted, and its session is still the one of the connection
  | simple hconfig hturn =>
    apply reported_simple _ hconfig hi' hcall
    rw [System.run, Lts.run_append_of _ hrun, Lts.run_cons_of _ hexec]
    rfl
  | @krypton connection l globalConfig deviceCerts krypton connection' hconfig hcerts hturn =>
    obtain rfl := hserves.deviceCerts deviceCerts hcerts
    have hshaken := h.shaken hconfig hi
    have hcall' : connection'.conn.stage.activeCall = some (.store update) := hcall
    have hnone' : connection.conn.stage.activeCall = none := hnone
    cases l with
    -- A request is no report
    | recvRequest r =>
      obtain ⟨-, hr, -⟩ := HandleConn.turn_recv hturn
      have hkept := Krypton.Conn.recvRequest_activeCall hr
      rw [hkept, hnone'] at hcall'
      cases hcall'
    | own l =>
      obtain ⟨hown, -, -⟩ := HandleConn.turn_own hturn
      -- The report has come in as a frame of the device of the connection
      obtain ⟨d, sent, buf, hstage, rfl, hmessage, hdevice⟩ :=
        Krypton.Conn.step_begin hown hnone' hcall'
      have hmessage' : Krypton.handleMessage env.incoming.krypton buf d devices =
          .ok (some update) :=
        (Krypton.handleMessage_congr hserves.sameConfig buf d).symm.trans hmessage
      obtain ⟨rfl, hslice, -⟩ := Krypton.handleMessage_ok hmessage'
      unfold Krypton.Conn.Shaken at hshaken
      rw [hstage] at hshaken
      obtain ⟨haccept, tlsConfig, htrusted⟩ := hshaken
      exact .krypton hconfig htrusted hi' hdevice (List.mem_append_left _ haccept) hmem hslice
  | @listener controller listening l app' listening' hlisten =>
    -- The report has come in as a datagram, and was decoded from that
    obtain ⟨addr, datagram, rfl, hdecode⟩ := StartListening.step_begin hlisten hnone hcall
    have hk' := hserves.sameConfig.keyed hk
    rcases UdpController.decode_cases hk' with ⟨-, hreject⟩ | ⟨-, update', device, hok, haccepts⟩
    · exact absurd hdecode (hreject update)
    · rw [hok] at hdecode
      cases hdecode
      -- The device was found in the table of the run, which has the same configuration
      obtain ⟨device', haccepts'⟩ := haccepts.congr hserves.configs hk' hk
      exact .udp (h.enabled hi addr) hi' (List.mem_append_left _ (h.received hi)) haccepts'
  | _ => cases hcall

/-- One action of the server keeps every report accounted for. -/
theorem exec (h : Sourced env config devices as st) (hk : devices.Keyed)
    (hrun : (serverTasks env config).run (serverInitial config devices) as = some st)
    (hexec : (serverTasks env config).exec st a = some st') :
    Sourced env config devices (as ++ [a]) st' := by
  have hserves := Serves.run hrun
  refine ⟨fun {i task' call} hi' hcall => ?_, fun {i controller listening} hi' addr => ?_,
    fun {i controller addr datagram} hi' => ?_,
    fun {i connection globalConfig} hconfig hi' => ?_, fun {update} hmem => ?_⟩
  · rcases System.exec_comp_from hexec hi' with
      ⟨start, rfl, hspawn⟩ | hi | ⟨l, task, rfl, hi, hstep⟩
    · cases (acceptTask_cases hspawn).activeCall.symm.trans hcall
    · exact (h.inHand hi hcall).exec hexec
    · have hstep' := ServerTask.step_cases hstep
      cases hturn : task.activeCall with
      | none =>
        -- The call has just begun
        obtain ⟨update, rfl⟩ := hstep'.turn.begun hturn hcall
        exact h.begin hk hrun hi hexec hstep' hi' hturn hcall
      | some call₀ =>
        rw [hstep'.turn.update_eq hturn hcall]
        exact (h.inHand hi hturn).exec hexec
  · rcases System.exec_comp_from hexec hi' with
      ⟨start, rfl, hspawn⟩ | hi | ⟨l, task, rfl, hi, hstep⟩
    · generalize st'.shared = server' at hspawn
      cases acceptTask_cases hspawn
    · exact h.enabled hi addr
    · generalize st'.shared = server' at hstep
      cases ServerTask.step_cases hstep with
      | listener hlisten => exact h.enabled hi addr
  · rcases System.exec_comp_from hexec hi' with
      ⟨start, rfl, hspawn⟩ | hi | ⟨l, task, rfl, hi, hstep⟩
    · generalize st'.shared = server' at hspawn
      cases acceptTask_cases hspawn
    · exact List.mem_append_left _ (h.received hi)
    · generalize st'.shared = server' at hstep
      cases ServerTask.step_cases hstep with
      | listener hlisten =>
        cases StartListening.step_cases hlisten with
        | receive => simp
  · rcases System.exec_comp_from hexec hi' with
      ⟨start, rfl, hspawn⟩ | hi | ⟨l, task, rfl, hi, hstep⟩
    · generalize st'.shared = server' at hspawn
      cases acceptTask_cases hspawn with
      | krypton hconfig' hcerts => trivial
    · exact (h.shaken hconfig hi).mono (List.mem_append_left _)
    · generalize st'.shared = server' at hstep
      cases ServerTask.step_cases hstep with
      | krypton hconfig' hcerts hturn =>
        cases hconfig.symm.trans hconfig'
        obtain rfl := hserves.deviceCerts _ hcerts
        refine ((h.shaken hconfig hi).turn hk hturn).mono ?_
        rintro (hmem | rfl)
        · exact List.mem_append_left _ hmem
        · simp
  · rw [Lts.observe_concat _ hrun, List.mem_append] at hmem
    rcases hmem with hmem | hmem
    · exact (h.stored hmem).exec hexec
    · obtain ⟨i, task, hi, hcall⟩ := exists_of_stored hmem
      exact (h.inHand hi hcall).exec hexec

/-- Every run of the server keeps every report accounted for. -/
theorem run (hk : devices.Keyed)
    (hrun : (serverTasks env config).run (serverInitial config devices) as = some st) :
    Sourced env config devices as st :=
  Lts.run_history _ (.initial env config devices) (fun hm h ha => h.exec hk hm ha) hrun

end Sourced

/-- The state of every device comes from a report, or is still unknown. -/
theorem reports_of_run {capacity : Nat} (hload : loadDevices capacity config.devices = some devices)
    (h : (serverTasks env config).run (serverInitial config devices) as = some st) :
    (∀ id device, st.shared.app.devices.lookup id = some device → device.state = .unknown ∨
        ∃ update, Reported env config devices as st update ∧ update.deviceId = id ∧
          update.newState = device.state) ∧
      (∀ update ∈ stateUpdates st.shared.app.hooks.sender.sent,
        Reported env config devices as st update) ∧
      ∀ (i : Nat) (session : ClientSession), st.comps[i]? = some (.client session) →
        ∀ update ∈ session.notified, Reported env config devices as st update := by
  have hk := loadDevices_keyed hload
  have htraced := Sourced.run hk h
  have hledger := Ledger.run hk h
  -- A hook announces what was stored
  have hhooks : ∀ update ∈ stateUpdates st.shared.app.hooks.sender.sent,
      Reported env config devices as st update := fun update hmem =>
    htraced.stored (hledger.announced.subset (List.mem_append_left _ hmem))
  refine ⟨fun id device hd => ?_, hhooks, fun i session hi update hmem => ?_⟩
  · rw [hledger.table id] at hd
    obtain ⟨device₀, hd₀, rfl⟩ := Option.map_eq_some_iff.mp hd
    have hid := hk id device₀ hd₀
    -- The state of a device is that of the last update, or still `Unknown`
    cases hlast : lastUpdate device₀.id (Lts.observe (serverTasks env config).exec
        (serverStored env config) (serverInitial config devices) as) with
    | none =>
      left
      rw [loadDevices_lookup hload] at hd₀
      obtain ⟨c, -, rfl⟩ := Option.map_eq_some_iff.mp hd₀
      simp only [Device.withLast, hlast]
      rfl
    | some update =>
      obtain ⟨hmem, hupdate⟩ := lastUpdate_some hlast
      refine .inr ⟨update, htraced.stored hmem, hupdate.trans hid, ?_⟩
      simp only [Device.withLast, hlast]
      rfl
  · obtain ⟨as₁, has₁⟩ := clientSessions_of_run h
    have hsession : session ∈ st.comps.filterMap ServerTask.session? :=
      List.mem_filterMap.mpr ⟨_, List.mem_of_getElem? hi, rfl⟩
    have hwritten := ((notifiedSessions_run has₁).2 session hsession).written.subset hmem
    apply hhooks
    obtain ⟨hook, hhook, hupdate⟩ := List.mem_filterMap.mp hwritten
    exact List.mem_filterMap.mpr ⟨hook, List.mem_of_mem_drop hhook, hupdate⟩

/-- In every run of the server, with all its tasks in any order, devices report for themselves:
a device is in the state that it was in when it was loaded or in one that it has reported, and
every hook of a state, and every state that a client was told of, is one that its device has
reported. -/
theorem server_reports (env : ServerEnv) (config : Config) (capacity : Nat) (devices : Devices)
    (hload : loadDevices capacity config.devices = some devices)
    (as : List (System.Act Unit TaskStart TaskLabel)) (st : System.State ServerState ServerTask)
    (h : (serverTasks env config).run (serverInitial config devices) as = some st) :
    (∀ id device, st.shared.app.devices.lookup id = some device → device.state = .unknown ∨
        ∃ update, Reported env config devices as st update ∧ update.deviceId = id ∧
          update.newState = device.state) ∧
      (∀ update ∈ stateUpdates st.shared.app.hooks.sender.sent,
        Reported env config devices as st update) ∧
      ∀ (i : Nat) (session : ClientSession), st.comps[i]? = some (.client session) →
        ∀ update ∈ session.notified, Reported env config devices as st update :=
  reports_of_run hload h

/-- Two listeners have two addresses. -/
theorem UdpController.config_inj {controller controller' : UdpController} {addr addr' : Ipv4Addr}
    (h : controller.config addr = controller'.config addr') :
    controller = controller' ∧ addr = addr' := by
  cases controller <;> cases controller' <;> simp_all [UdpController.config]

/-- A device that reports has an enabled controller, and it is the one that its controller finds
by its address. -/
theorem Reported.device (h : Reported env config devices as st update) :
    ∃ device, devices.lookup update.deviceId = some device ∧ config.enables device.controller ∧
      ∀ controller addr, device.controller = UdpController.config controller addr →
        controller.findDevice devices addr = some device := by
  cases h with
  | simple henabled hdevice hkey =>
    -- A device that signs is one of the Simple controller, and no listener has it
    refine ⟨_, hdevice, ?_, fun controller addr hconfig => ?_⟩
    · rw [hkey]
      exact henabled
    · rw [hkey] at hconfig
      cases controller <;> cases hconfig
  | krypton henabled htrusted =>
    obtain ⟨device, kryptonConfig, hdevice, hcontroller, -⟩ := htrusted.root
    -- So is the device whose certificate was trusted, of the Krypton controller
    refine ⟨device, hdevice, ?_, fun controller addr hconfig => ?_⟩
    · rw [hcontroller]
      show config.controllers.krypton.isSome = true
      rw [henabled]
      rfl
    · rw [hcontroller] at hconfig
      cases controller <;> cases hconfig
  | @udp i controller listening addr datagram device henabled hi hreceived haccepts =>
    -- The listener has found the device by its address
    refine ⟨device, haccepts.lookup, ?_, fun controller' addr' hconfig => ?_⟩
    · rw [haccepts.configured]
      exact henabled
    · obtain ⟨rfl, rfl⟩ := UdpController.config_inj (haccepts.configured.symm.trans hconfig)
      exact haccepts.found

/-- A device of a controller that is not configured, and one at whose address its UDP controller
finds another, is in no state in any run of the server, no hook tells of one, and no client hears
of it. -/
theorem server_silent (env : ServerEnv) (config : Config) (capacity : Nat) (devices : Devices)
    (hload : loadDevices capacity config.devices = some devices) (id : DeviceId) (device : Device)
    (hdevice : devices.lookup id = some device)
    (hsilent : ¬config.enables device.controller ∨
      ∃ controller addr, device.controller = UdpController.config controller addr ∧
        controller.findDevice devices addr ≠ some device)
    (as : List (System.Act Unit TaskStart TaskLabel)) (st : System.State ServerState ServerTask)
    (h : (serverTasks env config).run (serverInitial config devices) as = some st) :
    (∀ device', st.shared.app.devices.lookup id = some device' → device'.state = .unknown) ∧
      (∀ update ∈ stateUpdates st.shared.app.hooks.sender.sent, update.deviceId ≠ id) ∧
      ∀ (i : Nat) (session : ClientSession), st.comps[i]? = some (.client session) →
        ∀ update ∈ session.notified, update.deviceId ≠ id := by
  have hk := loadDevices_keyed hload
  have hnone {update : UpdateNotification} (hreported : Reported env config devices as st update) :
      update.deviceId ≠ id := by
    intro hid
    obtain ⟨device', hdevice', henabled, hfound⟩ := hreported.device
    rw [hid] at hdevice'
    obtain rfl := Option.some.inj (hdevice.symm.trans hdevice')
    -- Its controller is disabled, or the address leads to another device
    rcases hsilent with hdisabled | ⟨controller, addr, hconfig, hother⟩
    · exact hdisabled henabled
    · exact hother (hfound controller addr hconfig)
  obtain ⟨htable, hhooks, hclients⟩ := reports_of_run hload h
  refine ⟨fun device' hd' => ?_, fun update hmem => hnone (hhooks update hmem),
    fun i session hi update hmem => hnone (hclients i session hi update hmem)⟩
  rcases htable id device' hd' with hunknown | ⟨update, hreported, hid, -⟩
  · exact hunknown
  · exact absurd hid (hnone hreported)

end Runs

end Devicectrl

/-! ## Two lamps at one address -/

namespace Devicectrl.ListenRun.Demo

def serverEnv : ServerEnv :=
  { ServerTask.Demo.env with incoming := env }

/-- Two lamps at one address, in the configuration. -/
def config : Config :=
  { ServerTask.Demo.config with
    devices := AList.insert "lamp" ⟨.dimmableLight, .govee ⟨lampAddr⟩⟩
      (AList.insert "spare" ⟨.dimmableLight, .govee ⟨lampAddr⟩⟩ ∅)
    controllers := ⟨none, none, false, true⟩ }

def devices : Devices := (loadDevices 64 config.devices).getD ∅

/-- A status from the address of both, which the listener takes for that of the spare lamp. -/
def statusReceived : List (System.Act Unit TaskStart TaskLabel) :=
  [.step 0 (.listener (.received (.ok (lampAddr, status)))), .step 0 (.listener .poll),
    .step 0 (.listener .poll), .step 0 (.listener .poll)]

end Devicectrl.ListenRun.Demo

namespace Devicectrl

open ServerTask.Demo in
/-- The first report of the lamp is the one that the table has. -/
theorem server_reports_demo :
    ∃ st, (serverTasks env config).run (serverInitial config devices) reported = some st ∧
      stateUpdates st.shared.app.hooks.sender.sent = [Simple.Demo.report] ∧
      Reported env config devices reported st Simple.Demo.report :=
  ⟨_, rfl, rfl, (server_reports env config 64 devices rfl reported _ rfl).2.1 Simple.Demo.report
    (by exact List.mem_singleton_self _)⟩

open ListenRun.Demo in
/-- The address is that of both lamps, and the report is taken for the spare one. -/
theorem server_silent_demo :
    ∃ st, (serverTasks serverEnv config).run (serverInitial config devices) statusReceived =
        some st ∧
      stateUpdates st.shared.app.hooks.sender.sent = [{ reported with deviceId := ⟨"spare"⟩ }] ∧
      ∀ device', st.shared.app.devices.lookup ⟨"lamp"⟩ = some device' → device'.state = .unknown :=
  ⟨_, rfl, rfl, (server_silent serverEnv config 64 devices rfl ⟨"lamp"⟩
    { lamp with state := .unknown } rfl (.inr ⟨.govee, lampAddr, rfl, by decide⟩)
    statusReceived _ rfl).1⟩

end Devicectrl
