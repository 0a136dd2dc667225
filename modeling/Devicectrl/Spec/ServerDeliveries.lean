import Devicectrl.Spec.KryptonCommands
import Devicectrl.Spec.ServerRequests
import Devicectrl.Spec.SimpleCommands

/-!
# What reaches a device

From the client that asks for an update to the connection of the device: what the server with all
its tasks sends to a device are the first of the requests that its controller has broadcast for it,
in that order, and each command among them was asked for.

## Key results

- `configured_of_run`: there are connections of configured controllers only
- `Handshaken.of_accept`: the handshake in which the peer of a Krypton connection was accepted
- `server_deliveries`: what is sent to a device, over signed frames or TLS, in every run
-/

namespace Devicectrl

variable {env : ServerEnv} {config : Config} {devices : Devices}
  {st st' : System.State ServerState ServerTask}
  {as : List (System.Act Unit TaskStart TaskLabel)} {a : System.Act Unit TaskStart TaskLabel}

/-- The controllers of the connections are configured. -/
def ConnectionsConfigured (config : Config) (st : System.State ServerState ServerTask) : Prop :=
  (∀ (i : Nat) (k : Connection Simple.Conn), st.comps[i]? = some (.simple k) →
      config.controllers.simple.isSome) ∧
    ∀ (i : Nat) (k : Connection Krypton.Conn), st.comps[i]? = some (.krypton k) →
      config.controllers.krypton.isSome

/-- A connection is accepted by a configured controller, so it stays configured. -/
theorem ConnectionsConfigured.exec (h : ConnectionsConfigured config st)
    (hexec : (serverTasks env config).exec st a = some st') : ConnectionsConfigured config st' := by
  refine ⟨fun i k hi' => ?_, fun i k hi' => ?_⟩
  · rcases System.exec_comp_from hexec hi' with
      ⟨start, -, hspawn⟩ | hi | ⟨l, task, -, -, hstep⟩
    · -- the connection is accepted now, and for that its controller is configured
      generalize st'.shared = server' at hspawn
      cases acceptTask_cases hspawn with
      | simple hconfig => simp [hconfig]
    · -- it was there before
      exact h.1 i k hi
    · -- it has made a step, and for that its controller is configured
      generalize st'.shared = server' at hstep
      cases ServerTask.step_cases hstep with
      | simple hconfig => simp [hconfig]
  · rcases System.exec_comp_from hexec hi' with
      ⟨start, -, hspawn⟩ | hi | ⟨l, task, -, -, hstep⟩
    · generalize st'.shared = server' at hspawn
      cases acceptTask_cases hspawn with
      | krypton hconfig => simp [hconfig]
    · exact h.2 i k hi
    · generalize st'.shared = server' at hstep
      cases ServerTask.step_cases hstep with
      | krypton hconfig => simp [hconfig]

/-- The controllers of the connections are configured in every state of a run. -/
theorem configured_of_run
    (h : (serverTasks env config).run (serverInitial config devices) as = some st) :
    ConnectionsConfigured config st := by
  apply Lts.run_invariant _ (fun _ _ _ hs he => ConnectionsConfigured.exec hs he) h
  have hmain {i : Nat} {task : ServerTask}
      (hi : (serverInitial config devices).comps[i]? = some task) :
      task.simple? = none ∧ task.krypton? = none :=
    (mem_mainTasks (List.mem_of_getElem? hi)).2
  exact ⟨fun i k hi => (by cases (hmain hi).1), fun i k hi => (by cases (hmain hi).2)⟩

/-- A request for a device that was broadcast is the command of a request, or a query of it. -/
theorem mem_requestsFor {d : DeviceId} {command : UpdateCommand}
    {requests written : List DeviceBoundMessage} (h : written <+: requestsFor d requests)
    (hmem : .updateCommand command ∈ written) :
    .updateCommand command ∈ requests ∧ command.deviceId = d := by
  obtain ⟨hrequest, hd⟩ := List.mem_filter.mp (h.subset hmem)
  exact ⟨hrequest, Option.some.inj (of_decide_eq_true hd)⟩

/-! ## The handshake of a Krypton connection -/

/-- The `TlsAcceptor` of connection `i` has accepted the peer, with the configuration that
`handle_conn` had made for a device: it trusts the certificate of that device only. -/
def Handshaken (env : ServerEnv) (config : Config) (devices : Devices)
    (as : List (System.Act Unit TaskStart TaskLabel)) (i : Nat) (d : DeviceId) : Prop :=
  ∃ before after st k globalConfig tlsConfig,
    as = before ++ .step i (.krypton (.own (.accept (.ok ())))) :: after ∧
    (serverTasks env config).run (serverInitial config devices) before = some st ∧
    st.comps[i]? = some (.krypton k) ∧ k.conn.stage = .handshake d tlsConfig ∧
    config.controllers.krypton = some globalConfig ∧
    Krypton.Trusted env.incoming.krypton globalConfig devices d tlsConfig

/-- Connection `i` is one of the device, and stays so. -/
theorem krypton_device_run {i : Nat} {d : DeviceId}
    (h : (serverTasks env config).run st as = some st')
    (hi : ∃ k, st.comps[i]? = some (.krypton k) ∧ k.conn.device = some d) :
    ∃ k, st'.comps[i]? = some (.krypton k) ∧ k.conn.device = some d := by
  refine Lts.run_invariant _ (I := fun st : System.State ServerState ServerTask =>
    ∃ k, st.comps[i]? = some (.krypton k) ∧ k.conn.device = some d) ?_ h hi
  rintro s a s' ⟨k, hk, hd⟩ hexec
  exact krypton_device_exec hexec hk hd

/-- The peer was accepted in the handshake of the device that the connection is one of. -/
theorem Handshaken.of_accept (hk : devices.Keyed) {i : Nat} {k : Connection Krypton.Conn}
    {d : DeviceId} (h : (serverTasks env config).run (serverInitial config devices) as = some st)
    (haccept : .step i (.krypton (.own (.accept (.ok ())))) ∈ as)
    (hi : st.comps[i]? = some (.krypton k)) (hd : k.conn.device = some d) :
    Handshaken env config devices as i d := by
  obtain ⟨before, after, rfl⟩ := List.append_of_mem haccept
  obtain ⟨st₀, hbefore, hrest⟩ := Lts.run_split _ h
  obtain ⟨st₁, hexec, hafter⟩ := Lts.run_cons _ hrest
  obtain ⟨task, task', hi₀, hstep, hcomps⟩ := System.exec_step hexec
  have hi₁ : st₁.comps[i]? = some task' := by
    rw [hcomps, List.getElem?_set_self (List.getElem?_eq_some_iff.mp hi₀).1]
  generalize st₁.shared = server' at hstep
  cases ServerTask.step_cases hstep with
  | @krypton k₀ l globalConfig deviceCerts krypton k₁ hconfig hcerts hturn =>
    obtain ⟨hown, -, -⟩ := HandleConn.turn_own hturn
    have hshaken := (Sourced.run hk hbefore).shaken hconfig hi₀
    obtain ⟨conn₀, rx₀, since₀⟩ := k₀
    obtain ⟨conn₁, rx₁, since₁⟩ := k₁
    have hturned : ∃ app app', conn₀.step env.incoming.krypton globalConfig deviceCerts app
        (.accept (.ok ())) = some (app', conn₁) :=
      ⟨_, _, hown⟩
    obtain ⟨app, app', hturned⟩ := hturned
    cases Krypton.Conn.step_cases hturned with
    | @accept socket d₀ tlsConfig =>
      -- From then on the connection is one of this device
      obtain ⟨k', hk', hd'⟩ := krypton_device_run hafter ⟨_, hi₁, rfl⟩
      rw [hi] at hk'
      cases hk'
      obtain rfl : d₀ = d := Option.some.inj (hd'.symm.trans hd)
      exact ⟨before, after, st₀, _, globalConfig, tlsConfig, rfl, hbefore, hi₀, rfl, hconfig,
        hshaken⟩

/-- In every run of the server, with all its tasks in any order: what has been written to a Simple
connection, and sent over a Krypton connection, are the first of the requests that were broadcast
for its device since it was accepted, in their order; each command is for that device and was asked
for; and nothing is sent over a Krypton connection unless the peer was accepted in a handshake that
trusts the certificate of the device only. -/
theorem server_deliveries (env : ServerEnv) (config : Config) (capacity : Nat) (devices : Devices)
    (hload : loadDevices capacity config.devices = some devices)
    (as : List (System.Act Unit TaskStart TaskLabel)) (st : System.State ServerState ServerTask)
    (h : (serverTasks env config).run (serverInitial config devices) as = some st) :
    (∀ (i : Nat) (k : Connection Simple.Conn) (s : Simple.Session),
        st.comps[i]? = some (.simple k) → k.conn.stage.session? = some s →
        s.log.requests <+:
            requestsFor s.deviceId (st.shared.simple.requestSender.sent.drop k.since) ∧
          ∀ command, .updateCommand command ∈ s.log.requests → command.deviceId = s.deviceId ∧
            Asked env config devices as st ⟨command.deviceId, command.update⟩) ∧
      ∀ (i : Nat) (k : Connection Krypton.Conn) (d : DeviceId),
        st.comps[i]? = some (.krypton k) → k.conn.device = some d →
        Krypton.requestsOf k.conn.sent <+:
            requestsFor d (st.shared.krypton.requestSender.sent.drop k.since) ∧
          (∀ p ∈ k.conn.sent, env.incoming.krypton.toVec p.1 = .ok p.2) ∧
          (∀ command, .updateCommand command ∈ Krypton.requestsOf k.conn.sent →
            command.deviceId = d ∧
              Asked env config devices as st ⟨command.deviceId, command.update⟩) ∧
          (k.conn.sent ≠ [] → Handshaken env config devices as i d) := by
  have hk := loadDevices_keyed hload
  obtain ⟨hsimple, hkrypton⟩ := configured_of_run h
  have hasked := (Asking.run hload h).commands hk h
  refine ⟨fun i k s hi hs => ?_, fun i k d hi hd => ?_⟩
  · -- the Simple connections make a run of their own, in which this one has forwarded a prefix
    obtain ⟨globalConfig, hconfig⟩ := Option.isSome_iff_exists.mp (hsimple i k hi)
    obtain ⟨as₁, has₁⟩ := simpleConnections_of_run hconfig h
    have hholds := (Simple.commandedConnections env.simple globalConfig.serverPrivateKey).run has₁
      ⟨trivial, fun k hk => absurd hk List.not_mem_nil⟩
    have hmem : k ∈ st.comps.filterMap ServerTask.simple? :=
      List.mem_filterMap.mpr ⟨_, List.mem_of_getElem? hi, rfl⟩
    obtain ⟨-, hforwarded⟩ := (hholds.2 k hmem).session s hs
    have hwritten : s.log.requests <+:
        requestsFor s.deviceId (st.shared.simple.requestSender.sent.drop k.since) :=
      hforwarded.written (Simple.takenSince_le _ k)
    refine ⟨hwritten, fun command hcommand => ?_⟩
    -- What it has forwarded was broadcast, and what was broadcast was asked for
    obtain ⟨hsent, hd⟩ := mem_requestsFor hwritten hcommand
    exact ⟨hd, hasked command (List.mem_append_left _ (List.mem_of_mem_drop hsent))⟩
  · obtain ⟨globalConfig, hconfig⟩ := Option.isSome_iff_exists.mp (hkrypton i k hi)
    obtain ⟨as₁, has₁⟩ := kryptonConnections_of_run hconfig h
    have hmem : k ∈ st.comps.filterMap ServerTask.krypton? :=
      List.mem_filterMap.mpr ⟨_, List.mem_of_getElem? hi, rfl⟩
    obtain ⟨hsent, hencoded⟩ := Krypton.forwarding_run has₁ hmem hd
    refine ⟨hsent, hencoded, fun command hcommand => ?_, fun hne => ?_⟩
    · obtain ⟨hrequest, hcd⟩ := mem_requestsFor hsent hcommand
      exact ⟨hcd, hasked command (List.mem_append_right _ (List.mem_of_mem_drop hrequest))⟩
    · -- a connection that has sent a frame has shaken hands
      have haccept := (((Sourced.run hk h).shaken hconfig hi).of_sent hd hne).1
      exact .of_accept hk h haccept hi hd

end Devicectrl

namespace Devicectrl

open ServerTask.Demo in
/-- The client, with the lamp connected, turns it on, and the frame of the command is written. -/
def ServerTask.Demo.delivered : List (System.Act Unit TaskStart TaskLabel) :=
  reported ++ [.step 2 (.client (.tryNext .tcp (.ok (some "on")))),
    .step 2 (.client (.line (.sent (.ok ())))), .step 2 (.client (.line (.request .poll))),
    .step 2 (.client (.line (.request (.dispatched (.ok ()))))),
    .step 3 (.simple (.recvRequest (.ok (.updateCommand ⟨Simple.Demo.lamp, .power .on⟩)))),
    .step 3 (.simple (.own (.session (.write (.ok 73)))))]

open ServerTask.Demo in
/-- The request for the lamp is the one that its connection has forwarded. -/
theorem server_deliveries_demo :
    ∃ (st : System.State ServerState ServerTask) (k : Connection Simple.Conn)
        (s : Simple.Session),
      (serverTasks env config).run (serverInitial config devices) delivered = some st ∧
        st.comps[3]? = some (.simple k) ∧ k.conn.stage.session? = some s ∧
        s.log.requests = [.updateCommand ⟨Simple.Demo.lamp, .power .on⟩] ∧
        s.log.requests <+:
          requestsFor s.deviceId (st.shared.simple.requestSender.sent.drop k.since) :=
  ⟨_, _, _, rfl, rfl, rfl, rfl,
    ((server_deliveries env config 64 devices rfl delivered _ rfl).1 3 _ _ rfl rfl).1⟩

end Devicectrl
