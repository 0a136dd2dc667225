import Devicectrl.Native.DependencyPlant
import Devicectrl.Spec.DependencyCascade
import Devicectrl.Spec.DeviceTable

/-!
# Dependencies that are switched off

The automation switches a device off when it hears that a dependent of it has gone off. By then
other dependents may be on, and this one may have been turned on again.

## Key results

- `switchedOff_run`: a request to switch a device off answers the hook that the automation has just
  received, a report that its dependent is off, and a dependent that is stored as on is another one,
  or has reported again since
-/

namespace Devicectrl

/-! ## The last of some updates -/

/-- An update that is last for a device is not before another one of the device. -/
theorem lastUpdate_append_cons {id : DeviceId} {before after : List UpdateNotification}
    {update last : UpdateNotification} (hid : update.deviceId = id)
    (h : lastUpdate id (before ++ update :: after) = some last) : last = update ∨ last ∈ after := by
  rw [lastUpdate, List.filter_append, List.filter_cons_of_pos (by simpa using hid)] at h
  rw [List.getLast?_append_of_ne_nil _ (List.cons_ne_nil _ _)] at h
  rcases List.mem_cons.mp (List.mem_of_getLast? h) with he | hmem
  · exact .inl he
  · exact .inr (List.mem_of_mem_filter hmem)

/-- A list up to the last occurrence of an element. -/
theorem eq_append_cons_of_mem_last {α : Type} {a : α} {l : List α} (h : a ∈ l) :
    ∃ before after, l = before ++ a :: after ∧ a ∉ after := by
  obtain ⟨after, before, he, hnot⟩ := List.eq_append_cons_of_mem (List.mem_reverse.mpr h)
  refine ⟨before.reverse, after.reverse, ?_, by simpa using hnot⟩
  rw [← List.reverse_reverse l, he]
  simp

namespace Dependencies

variable {env : IncomingEnv} {config : DependencyAutomationConfig} {app app' : AppState}
  {k k' : Automation} {l : Label} {plant₀ plant₁ : Plant} {call call' : TableCall}
  {update : UpdateNotification}

/-! ## What the automation does to the table -/

theorem Step.devices (h : Step config app k l app' k') : app'.devices = app.devices := by
  cases h with
  | request h => exact (beginUpdateRequest_ok h).2.1
  | subscribe => rfl
  | lag h => rfl
  | ignore h ho => rfl
  | answer h ho => rfl
  | refuse h => rfl
  | fail h => rfl
  | succeed h => rfl

/-- The automation announces no state. -/
theorem Step.announced (h : Step config app k l app' k')
    (hmem : .deviceStateUpdate update ∈ app'.hooks.sender.sent) :
    .deviceStateUpdate update ∈ app.hooks.sender.sent := by
  cases h with
  | request h =>
    -- The only hook the automation sends is a dispatch
    obtain ⟨-, -, -, hsender⟩ := beginUpdateRequest_ok h
    rw [hsender, List.mem_append, List.mem_singleton] at hmem
    rcases hmem with hmem | he
    · exact hmem
    · exact nomatch he
  | subscribe => exact hmem
  | lag h => exact hmem
  | ignore h ho => exact hmem
  | answer h ho => exact hmem
  | refuse h => exact hmem
  | fail h => exact hmem
  | succeed h => exact hmem

/-- A device is switched off when a device that depends on it reports that it is off. -/
theorem onEvent_off {hook : Hook} {context : String} {q : DeviceId}
    (h : onEvent config hook = some (⟨q, .power .off⟩, context)) :
    ∃ update, hook = .deviceStateUpdate update ∧ update.newState = .switch ⟨.off⟩ ∧
      dependency config update.deviceId = some q := by
  cases hook with
  -- A dispatch is answered by `On` only
  | deviceUpdateDispatch request =>
    simp only [onEvent] at h
    split at h
    · cases h
    · cases h
  -- A report is answered by its own state
  | deviceStateUpdate update =>
    obtain ⟨d, reachable, state⟩ := update
    simp only [onEvent] at h
    split at h
    · cases h
    · rename_i r hf
      cases h
      exact ⟨_, rfl, rfl, by simp [dependency, hf]⟩
    · cases h
  | sceneActivate scene => cases h

/-- A request is in hand only where the automation is about to make it. -/
theorem requesting_of_request {request : UpdateRequest} (h : k.request? = some request) :
    ∃ rx context, k = .requesting rx request context := by
  cases k with
  | requesting rx request' context =>
    cases h
    exact ⟨rx, context, rfl⟩
  | _ => cases h

/-! ## What the plant does -/

/-- What the automation hears was stored, and the request that it has in hand answers the last hook
that it has received. -/
structure Plant.Backed (config : DependencyAutomationConfig) (p : Plant) : Prop where
  hooks : ∀ update, .deviceStateUpdate update ∈ p.table.app.hooks.sender.sent →
    update ∈ p.table.stored
  inHand : ∀ rx request context, p.automation = .requesting rx request context →
    ∃ n hook, rx = ⟨n + 1⟩ ∧ p.table.app.hooks.sender.sent[n]? = some hook ∧
      onEvent config hook = some (request, context)

/-- The hook that is answered stays where it is while others are sent. -/
theorem Plant.Backed.inHand_grows {sent : List Hook} (hp : plant₀.Backed config)
    (hsent : plant₀.table.app.hooks.sender.sent <+: sent) (rx : Broadcast.Receiver)
    (request : UpdateRequest) (context : String)
    (h : plant₀.automation = .requesting rx request context) :
    ∃ n hook, rx = ⟨n + 1⟩ ∧ sent[n]? = some hook ∧
      onEvent config hook = some (request, context) := by
  obtain ⟨n, hook, hrx, hget, hanswer⟩ := hp.inHand rx request context h
  obtain ⟨rest, rfl⟩ := hsent
  have hlt := (List.getElem?_eq_some_iff.mp hget).1
  exact ⟨n, hook, hrx, (List.getElem?_append_left hlt).trans hget, hanswer⟩

/-- A call announces a state that it has stored. -/
def Plant.Announces (p : Plant) : TableCall → Prop
  | .notification _ (.sendHook update) => update ∈ p.table.stored
  | _ => True

/-- Every step of the automation keeps its request backed by a report. -/
theorem Plant.Backed.automationStep (hp : plant₀.Backed config)
    (h : Step config plant₀.table.app plant₀.automation l app' k') {requests : List UpdateRequest}
    {commands : List UpdateRequest} {reports : List UpdateNotification} :
    Plant.Backed config ⟨⟨app', plant₀.table.stored⟩, k', requests, commands, reports⟩ := by
  refine ⟨fun update hmem => hp.hooks update (h.announced hmem), fun rx request context hk => ?_⟩
  obtain ⟨⟨app, stored⟩, k, requests₀, commands₀, reports₀⟩ := plant₀
  -- Only an answer leads to a request, and it answers the hook just received
  cases h with
  | answer h ho =>
    cases hk
    obtain ⟨hnext, hget, -, -⟩ := Broadcast.Channel.recv_ok h
    exact ⟨_, _, hnext, hget, ho⟩
  | subscribe => exact nomatch hk
  | lag h => exact nomatch hk
  | ignore h ho => exact nomatch hk
  | refuse h => exact nomatch hk
  | request h => exact nomatch hk
  | fail h => exact nomatch hk
  | succeed h => exact nomatch hk

/-- A call that steps keeps the backing, and what it announces next it has stored. -/
theorem Plant.Backed.callStep (hp : plant₀.Backed config) {t : Table} {l : TableLabel}
    (h : TableCall.Step plant₀.table call l t call') (hc : plant₀.Announces call)
    {commands : List UpdateRequest} {reports : List UpdateNotification} :
    Plant.Backed config ⟨t, plant₀.automation, plant₀.requests, commands, reports⟩ ∧
      Plant.Announces ⟨t, plant₀.automation, plant₀.requests, commands, reports⟩ call' := by
  refine ⟨⟨fun update hmem => ?_, hp.inHand_grows h.sent_prefix⟩, ?_⟩
  · apply h.stored_prefix.subset
    -- What was announced before is stored, and the new report is the one it has just stored
    rcases h.announced hmem with hmem | ⟨source, rfl⟩
    · exact hp.hooks update hmem
    · exact hc
  · cases h with
    | store h => exact List.mem_append_right _ (List.mem_singleton_self _)
    | request h => trivial
    | unknown h => trivial
    | closed h => trivial
    | sendHook h => trivial

/-- A call has announced nothing when it begins. -/
theorem announces_start {message : TableMessage} (p : Plant) :
    p.Announces (.start env app message) := by
  cases message with
  | request r => trivial
  | incoming source =>
    simp only [TableCall.start]
    split <;> trivial

/-- The plant with its backing. -/
def backedPlant (env : IncomingEnv) (config : DependencyAutomationConfig) :
    System.RelyGuarantee (plant env config) where
  shared p := p.Backed config
  comp p call := p.Announces call
  rely p p' := p.table.stored <+: p'.table.stored
  env_ok := by
    intro p task p' hp h
    -- By who acts: the automation, or a task that stores nothing
    cases task with
    | automation label =>
      obtain ⟨⟨app', k'⟩, hstart, rfl⟩ := Option.map_eq_some_iff.mp h
      exact ⟨hp.automationStep (startAutomation_cases hstart), List.prefix_refl _⟩
    | task task =>
      simp only [plant] at h
      split at h
      · rename_i hf
        obtain ⟨app', hrun, rfl⟩ := Option.map_eq_some_iff.mp h
        exact ⟨⟨fun update hmem => hp.hooks update (Task.run_announced hf hrun hmem),
          hp.inHand_grows (Task.run_sent hrun)⟩, List.prefix_refl _⟩
      · exact nomatch h
  spawn_ok := by
    intro p message p' call hp h
    cases h
    exact ⟨⟨hp.hooks, hp.inHand⟩, List.prefix_refl _, announces_start p⟩
  step_ok := by
    intro p call l p' call' hp hc h
    obtain ⟨⟨t, call'⟩, hstep, he⟩ := Option.map_eq_some_iff.mp h
    cases he
    have hstep := TableCall.step_cases hstep
    obtain ⟨hp', hc'⟩ := hp.callStep hstep hc
    exact ⟨hp', hstep.stored_prefix, hc'⟩
  stable := by
    intro p p' call h hc
    cases call with
    | request call => trivial
    | returned => trivial
    | notification source call =>
      -- The report was stored when it was processed, and stays
      cases call with
      | store update => trivial
      | sendHook update => exact h.subset hc

section Runs

variable {capacity : Nat} {devicesConfig : DevicesConfig} {devices : Devices}
  {controllers : Controllers} {st st' : System.State Plant TableCall}
  {as : List (System.Act PlantTask TableMessage TableLabel)}
  {a : System.Act PlantTask TableMessage TableLabel}

/-- An action of the plant stores one notification or leaves the table alone. -/
theorem plant_table (h : (plant env config).exec st a = some st') :
    (st'.shared.table.app.devices = st.shared.table.app.devices ∧
        st'.shared.table.stored = st.shared.table.stored) ∨
      ∃ update, storeNotification update st.shared.table.app = .ok st'.shared.table.app ∧
        st'.shared.table.stored = st.shared.table.stored ++ [update] := by
  cases a with
  | env task =>
    obtain ⟨htask, -⟩ := System.exec_env h
    cases task with
    -- The automation stores nothing
    | automation label =>
      obtain ⟨⟨app', k'⟩, hstart, he⟩ := Option.map_eq_some_iff.mp htask
      rw [← he]
      exact .inl ⟨(startAutomation_cases hstart).devices, rfl⟩
    | task task =>
      simp only [plant] at htask
      split at htask
      · rename_i hf
        obtain ⟨app', hrun, he⟩ := Option.map_eq_some_iff.mp htask
        rw [← he]
        exact .inl ⟨Task.run_devices (Task.isWriter_of_isForeign hf) hrun, rfl⟩
      · exact nomatch htask
  | spawn message =>
    obtain ⟨call, hspawn, -⟩ := System.exec_spawn h
    obtain ⟨hshared, -⟩ := Prod.mk.inj (Option.some.inj hspawn)
    rw [← hshared]
    exact .inl ⟨rfl, rfl⟩
  | step i l =>
    obtain ⟨call, call', -, hstep, -⟩ := System.exec_step h
    obtain ⟨⟨t, call''⟩, hcall, he⟩ := Option.map_eq_some_iff.mp hstep
    obtain ⟨hshared, -⟩ := Prod.mk.inj he
    rw [← hshared]
    -- A call stores the report it has received, or nothing
    exact (TableCall.step_cases hcall).table

/-- In every run the table holds the last states that were stored. -/
theorem plant_stores (hk : devices.Keyed)
    (h : (plant env config).run (plantInitial devices controllers) as = some st) :
    st.shared.table.app.Stores devices st.shared.table.stored := by
  have hstep : ∀ s a s', s.shared.table.app.Stores devices s.shared.table.stored →
      (plant env config).exec s a = some s' →
      s'.shared.table.app.Stores devices s'.shared.table.stored := by
    intro s a s' hs hexec
    exact hs.table hk (plant_table hexec)
  have hinitial : (plantInitial devices controllers).shared.table.app.Stores devices [] :=
    .initial devices controllers
  exact Lts.run_invariant _ hstep h hinitial

/-- Whenever the automation asks for device `q` to be switched off, the hook that it has received
last is the report of a device that depends on `q`, and says that this device is off. A dependent
of `q` that is stored as on is another device, or a report that it is on was stored after that
one. -/
theorem switchedOff_run (env : IncomingEnv) (config : DependencyAutomationConfig) (capacity : Nat)
    (devicesConfig : DevicesConfig) (devices : Devices) (controllers : Controllers)
    (as : List (System.Act PlantTask TableMessage TableLabel)) (st : System.State Plant TableCall)
    (q : DeviceId) (hload : loadDevices capacity devicesConfig = some devices)
    (hrun : (plant env config).run (plantInitial devices controllers) as = some st)
    (hoff : st.shared.automation.request? = some ⟨q, .power .off⟩) :
    ∃ n context update, st.shared.automation = .requesting ⟨n + 1⟩ ⟨q, .power .off⟩ context ∧
      st.shared.table.app.hooks.sender.sent[n]? = some (.deviceStateUpdate update) ∧
      update.newState = .switch ⟨.off⟩ ∧ dependency config update.deviceId = some q ∧
      ∃ before after, st.shared.table.stored = before ++ update :: after ∧ update ∉ after ∧
        ∀ r ∈ config, r.dependencyId = q →
          ∀ device, st.shared.table.app.devices.lookup r.dependentId = some device →
            device.state = .switch ⟨.on⟩ → r.dependentId ≠ update.deviceId ∨
              ∃ update' ∈ after, update'.deviceId = r.dependentId ∧
                update'.newState = .switch ⟨.on⟩ := by
  -- Every announced report is stored, and the request in hand answers the hook received last
  have hbacked : st.shared.Backed config :=
    ((backedPlant env config).run hrun ⟨⟨fun _ hmem => absurd hmem List.not_mem_nil, nofun⟩,
      fun _ hmem => absurd hmem List.not_mem_nil⟩).1
  obtain ⟨rx, context, hrequesting⟩ := requesting_of_request hoff
  obtain ⟨n, hook, rfl, hget, hanswer⟩ := hbacked.inHand _ _ _ hrequesting
  obtain ⟨update, rfl, hstate, hdependency⟩ := onEvent_off hanswer
  have hmem : update ∈ st.shared.table.stored := hbacked.hooks update (List.mem_of_getElem? hget)
  obtain ⟨before, after, hstored, hnot⟩ := eq_append_cons_of_mem_last hmem
  refine ⟨n, context, update, hrequesting, hget, hstate, hdependency, before, after, hstored, hnot,
    fun r _ _ device hd hon => ?_⟩
  by_cases hid : r.dependentId = update.deviceId
  · -- its last report is a later one, since this one was that it is off
    have hstores := plant_stores (loadDevices_keyed hload) hrun r.dependentId
    rw [hd, loadDevices_lookup hload, Option.map_map] at hstores
    obtain ⟨c, -, rfl⟩ := Option.map_eq_some_iff.mp hstores.symm
    obtain ⟨last, hlast, hlaston⟩ : ∃ last, lastUpdate r.dependentId st.shared.table.stored =
        some last ∧ last.newState = .switch ⟨.on⟩ := by
      have hon' : ((lastUpdate r.dependentId st.shared.table.stored).map
          UpdateNotification.newState).getD .unknown = .switch ⟨.on⟩ := hon
      cases hlast : lastUpdate r.dependentId st.shared.table.stored with
      | none =>
        rw [hlast] at hon'
        exact nomatch hon'
      | some last =>
        rw [hlast] at hon'
        exact ⟨last, rfl, hon'⟩
    rw [hstored] at hlast
    rcases lastUpdate_append_cons hid.symm hlast with rfl | hafter
    · rw [hstate] at hlaston
      exact nomatch hlaston
    · exact .inr ⟨last, hafter, (lastUpdate_some hlast).2, hlaston⟩
  · exact .inl hid

end Runs

end Dependencies

end Devicectrl

/-! ## A lamp and a fan on one socket -/

namespace Devicectrl.Dependencies.Plant.Demo

def lamp : DeviceId := ⟨"lamp"⟩

def fan : DeviceId := ⟨"fan"⟩

def socket : DeviceId := ⟨"socket"⟩

/-- Two devices depend on the socket. -/
def shared : DependencyAutomationConfig := [⟨lamp, socket⟩, ⟨fan, socket⟩]

def device (id : DeviceId) : Device :=
  ⟨id, .switch, .unknown, .simple ⟨⟨[]⟩⟩⟩

/-- Three switches are configured. -/
def devicesConfig : DevicesConfig :=
  AList.insert "socket" ⟨.switch, .simple ⟨⟨[]⟩⟩⟩
    (AList.insert "fan" ⟨.switch, .simple ⟨⟨[]⟩⟩⟩
      (AList.insert "lamp" ⟨.switch, .simple ⟨⟨[]⟩⟩⟩ ∅))

def devices : Devices :=
  AList.insert lamp (device lamp)
    (AList.insert fan (device fan) (AList.insert socket (device socket) ∅))

def controllers : Controllers := ⟨true, false, false, false⟩

/-- The device reports its power, as call `i`. -/
def report (i : Nat) (id : DeviceId) (power : SwitchPower) :
    List (System.Act PlantTask TableMessage TableLabel) :=
  [.spawn (.incoming (.simple id (.updateNotification ⟨id, true, .switch ⟨power⟩⟩))),
    .step i .process, .step i .process]

/-- The automation hears of a device that is on, and turns on what it depends on. -/
def turnsOn : List (System.Act PlantTask TableMessage TableLabel) :=
  [.env (.automation .poll), .env (.automation .poll), .env (.automation (.dispatched (.ok ()))),
    .env (.automation .poll)]

/-- The fan is on when the lamp is switched off. -/
def lampOff : List (System.Act PlantTask TableMessage TableLabel) :=
  .env (.automation .poll) :: (report 0 fan .on ++ turnsOn ++ report 1 lamp .off ++
    [.env (.automation .poll)])

end Devicectrl.Dependencies.Plant.Demo

namespace Devicectrl.Dependencies

open Plant.Demo
open TableCall.Demo (env)

/-- The request to turn the socket off goes back to the lamp's report. -/
theorem switchedOff_run_demo :
    ∃ st, (plant env shared).run (plantInitial devices controllers) lampOff =
        some st ∧
      ∃ (n : Nat) (update : UpdateNotification),
        st.shared.table.app.hooks.sender.sent[n]? = some (.deviceStateUpdate update) ∧
        update.newState = .switch ⟨.off⟩ ∧
        dependency shared update.deviceId = some socket := by
  -- The run is evaluated up to the request
  have hrun : ∃ st,
      (plant env shared).run (plantInitial devices controllers) lampOff =
        some st ∧ st.shared.automation.request? = some ⟨socket, .power .off⟩ :=
    ⟨_, rfl, rfl⟩
  obtain ⟨st, hst, hoff⟩ := hrun
  obtain ⟨n, context, update, -, hget, hstate, hdependency, -⟩ :=
    switchedOff_run env shared 64 devicesConfig devices
      controllers lampOff st socket rfl hst hoff
  exact ⟨st, hst, n, update, hget, hstate, hdependency⟩

/-- The socket is switched off under the fan. -/
theorem not_switchedOff :
    ¬∀ env config capacity devicesConfig devices controllers as st q,
      loadDevices capacity devicesConfig = some devices →
      (plant env config).run (plantInitial devices controllers) as = some st →
      st.shared.automation.request? = some ⟨q, .power .off⟩ →
        ∀ r ∈ config, r.dependencyId = q →
          ∀ device, st.shared.table.app.devices.lookup r.dependentId = some device →
            device.state ≠ .switch ⟨.on⟩ := by
  intro h
  exact h env shared 64 devicesConfig devices controllers lampOff
    _ socket rfl rfl rfl ⟨fan, socket⟩
    (List.mem_cons_of_mem _ List.mem_cons_self) rfl _ rfl rfl

end Devicectrl.Dependencies
