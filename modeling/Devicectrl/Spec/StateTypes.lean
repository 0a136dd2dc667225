import Devicectrl.Spec.DeviceTable

/-!
# Stored states and device types

A device has a type in its configuration and a state in the table. The TP-Link and Govee
controllers read the state out of a datagram by the device's type, and fail for a type they do
not know; the Simple and Krypton controllers store the state that the device sends.

## Key results

- `Tplink.parseQueryPayload_fits`, `Govee.parseQueryPayload_fits`: what these two report fits
- `stateTypes_iff`: the stored and the announced states fit their devices' types throughout a run
  exactly when every state that a Simple or Krypton device has stored does
-/

namespace Devicectrl

/-! ## States of a type -/

/-- The state is unknown or that of a device of this type. -/
def DeviceState.fits (deviceType : DeviceType) : DeviceState → Bool
  | .unknown => true
  | .switch _ => deviceType = .switch
  | .dimmableLight _ => deviceType = .dimmableLight
  | .colorLight _ => deviceType = .colorLight
  | .other name _ => deviceType = .other name

/-- A TP-Link answer is parsed into a state of the type it was asked for. -/
theorem Tplink.parseQueryPayload_fits {payload : Json.Value} {deviceType : DeviceType}
    {state : DeviceState} (h : parseQueryPayload payload deviceType = .ok state) :
    state.fits deviceType = true := by
  cases deviceType with
  | switch =>
    simp only [parseQueryPayload] at h
    split at h
    · exact nomatch h
    · cases h
      rfl
  | dimmableLight => exact nomatch h
  | colorLight => exact nomatch h
  | other name => exact nomatch h

/-- A Govee answer is parsed into a state of the type it was asked for. -/
theorem Govee.parseQueryPayload_fits {env : Govee.Env} {payload : Json.Value}
    {deviceType : DeviceType} {state : DeviceState}
    (h : parseQueryPayload env payload deviceType = .ok state) :
    state.fits deviceType = true := by
  -- A status is parsed for a dimmable light only
  cases deviceType with
  | dimmableLight =>
    simp only [parseQueryPayload] at h
    split at h
    · exact nomatch h
    · split at h
      · exact nomatch h
      · cases h
        rfl
  | switch => exact nomatch h
  | colorLight => exact nomatch h
  | other name => exact nomatch h

/-- The reported state fits the type of the device that it is for, if there is one. -/
def AppState.Admits (app : AppState) (update : UpdateNotification) : Prop :=
  ∀ device, app.devices.lookup update.deviceId = some device →
    update.newState.fits device.deviceType = true

/-- Every stored state fits its device's type, and so does every state that was announced. -/
structure AppState.Typed (app : AppState) : Prop where
  table : ∀ id device, app.devices.lookup id = some device →
    device.state.fits device.deviceType = true
  hooks : ∀ update, .deviceStateUpdate update ∈ app.hooks.sender.sent →
    ∃ device, app.devices.lookup update.deviceId = some device ∧
      update.newState.fits device.deviceType = true

/-- The message carries the state that it reports, as Simple and Krypton messages do. -/
def Incoming.carriesState : Incoming → Bool
  | .simple .. => true
  | .krypton .. => true
  | .tplink .. => false
  | .govee .. => false

/-- Where the action stores a state that came with a message, the state fits. -/
def StoresFitting (st : System.State Table TableCall) :
    System.Act Task TableMessage TableLabel → Prop
  | .step i .process => ∀ source update,
      st.comps[i]? = some (.notification source (.store update)) →
        source.carriesState = true → st.shared.app.Admits update
  | _ => True

/-! ## What the listeners report -/

section Decode

variable {env : IncomingEnv} {devices : Devices} {update : UpdateNotification} {addr : Ipv4Addr}
  {datagram : List UInt8}

/-- A device found by a pass over a keyed table is the one that its own id leads to. -/
theorem Devices.Keyed.find (hk : devices.Keyed) {p : Device → Bool} {device : Device}
    (h : (devices.entries.map fun entry => entry.2).find? p = some device) :
    devices.lookup device.id = some device := by
  obtain ⟨⟨id, device'⟩, hmem, rfl⟩ := List.mem_map.mp (List.mem_of_find?_eq_some h)
  have hlookup : devices.lookup id = some device' := AList.mem_lookup_iff.mpr hmem
  have hid : device'.id = id := hk id device' hlookup
  show devices.lookup device'.id = some device'
  rw [hid]
  exact hlookup

/-- A TP-Link datagram is stored only for the device of its address, in a state of its type. -/
theorem Tplink.receive_fits {fromSlice : List UInt8 → Except Error Json.Value}
    (hk : devices.Keyed)
    (h : Tplink.receive fromSlice devices addr datagram = .ok (some update)) :
    ∃ device, devices.lookup update.deviceId = some device ∧
      update.newState.fits device.deviceType = true := by
  unfold Tplink.receive at h
  split at h
  · exact nomatch h
  · -- the device that was found by its address has the type the payload was parsed for
    rename_i device hfind
    split at h
    · exact nomatch h
    · split at h
      · exact nomatch h
      · rename_i newState hparse
        cases h
        exact ⟨device, hk.find hfind, Tplink.parseQueryPayload_fits hparse⟩

/-- A Govee datagram is stored only for the device of its address, in a state of its type. -/
theorem Govee.receive_fits {env : Govee.Env} (hk : devices.Keyed)
    (h : Govee.receive env devices addr datagram = .ok (some update)) :
    ∃ device, devices.lookup update.deviceId = some device ∧
      update.newState.fits device.deviceType = true := by
  unfold Govee.receive at h
  split at h
  · exact nomatch h
  · rename_i device hfind
    split at h
    · exact nomatch h
    · split at h
      · exact nomatch h
      · rename_i newState hparse
        cases h
        exact ⟨device, hk.find hfind, Govee.parseQueryPayload_fits hparse⟩

/-- A state that a controller reads out of a message by the device's type fits that type. -/
theorem Incoming.decode_admits {source : Incoming} {app : AppState} (hk : app.devices.Keyed)
    (hs : source.carriesState = false) (h : source.decode env app.devices = .ok (some update)) :
    app.Admits update := by
  -- Only the two controllers of a datagram parse by the type of the device
  have hfits : ∃ device, app.devices.lookup update.deviceId = some device ∧
      update.newState.fits device.deviceType = true := by
    cases source with
    | simple deviceId message => exact absurd hs.symm Bool.false_ne_true
    | krypton deviceId buf => exact absurd hs.symm Bool.false_ne_true
    | tplink addr datagram => exact Tplink.receive_fits hk h
    | govee addr datagram => exact Govee.receive_fits hk h
  obtain ⟨device, hd, hfit⟩ := hfits
  intro device' hd'
  obtain rfl : device = device' := Option.some.inj (hd.symm.trans hd')
  exact hfit

/-- A message that is accepted is for a configured device. -/
theorem Incoming.decode_known {source : Incoming} (hk : devices.Keyed)
    (h : source.decode env devices = .ok (some update)) :
    ∃ device, devices.lookup update.deviceId = some device := by
  -- The device was looked up for its key, or found by its address
  cases source with
  | simple deviceId message =>
    simp only [decode] at h
    split at h
    · cases h
    · rename_i key hkey
      obtain ⟨-, rfl⟩ := ServerBoundMessage.handle_ok_some h
      unfold Simple.lookupPublicKey at hkey
      split at hkey
      · cases hkey
      · rename_i device hd
        exact ⟨device, hd⟩
  | krypton deviceId buf =>
    simp only [decode, Krypton.handleMessage] at h
    split at h
    · cases h
    · rename_i device hd
      split at h
      · split at h
        · cases h
        · obtain ⟨-, rfl⟩ := ServerBoundMessage.handle_ok_some h
          exact ⟨device, hd⟩
      · cases h
  | tplink addr datagram =>
    obtain ⟨device, hd, -⟩ := Tplink.receive_fits hk h
    exact ⟨device, hd⟩
  | govee addr datagram =>
    obtain ⟨device, hd, -⟩ := Govee.receive_fits hk h
    exact ⟨device, hd⟩

end Decode

/-! ## What was stored and what was announced -/

section SameConfig

variable {app app' : AppState} {update : UpdateNotification}

/-- A table that is keyed by the ids stays so. -/
theorem AppState.SameConfig.keyed (h : app.SameConfig app') (hk : app.devices.Keyed) :
    app'.devices.Keyed := by
  intro id device' hd'
  obtain ⟨device, hd, hconfig⟩ := h.symm.lookup hd'
  have hid : device.id = device'.id := congrArg Prod.fst hconfig
  rw [← hid]
  exact hk id device hd

/-- Which states a table admits depends on the configuration only. -/
theorem AppState.SameConfig.admits (h : app.SameConfig app') :
    app'.Admits update ↔ app.Admits update := by
  have hone {app app' : AppState} (h : app.SameConfig app') (ha : app.Admits update) :
      app'.Admits update := by
    intro device' hd'
    obtain ⟨device, hd, hconfig⟩ := h.symm.lookup hd'
    have htype : device.deviceType = device'.deviceType :=
      congrArg (fun c => c.2.1) hconfig
    rw [← htype]
    exact ha device hd
  exact ⟨hone h.symm, hone h⟩

end SameConfig

/-- Only what was stored was announced, and only for configured devices. -/
structure Table.Backed (t : Table) : Prop where
  keyed : t.app.devices.Keyed
  hooks : ∀ update, .deviceStateUpdate update ∈ t.app.hooks.sender.sent → update ∈ t.stored
  known : ∀ update ∈ t.stored, ∃ device, t.app.devices.lookup update.deviceId = some device

/-- A call has a state to store that fits, unless it came with a message, or announces one that
is stored. -/
def TableCall.Backed (t : Table) : TableCall → Prop
  | .notification source (.store update) => source.carriesState = false → t.app.Admits update
  | .notification _ (.sendHook update) => update ∈ t.stored
  | _ => True

/-- How calls change the table for each other. -/
structure Table.Grows (t t' : Table) : Prop where
  sameConfig : t.app.SameConfig t'.app
  stored : t.stored <+: t'.stored

section Backed

variable {env : IncomingEnv} {t t' : Table} {call call' : TableCall} {l : TableLabel}

/-- What backs a call is still there as others store. -/
theorem Table.Grows.backed (h : t.Grows t') (hc : call.Backed t) : call.Backed t' := by
  cases call with
  | request call => trivial
  | returned => trivial
  | notification source call =>
    cases call with
    | store update => exact fun hs => h.sameConfig.admits.mpr (hc hs)
    | sendHook update => exact h.stored.subset hc

/-- A table keeps its backing as long as what is announced is stored and what is stored is for a
configured device. -/
theorem Table.Backed.grows (ht : t.Backed) (h : t.Grows t')
    (hhooks : ∀ update, .deviceStateUpdate update ∈ t'.app.hooks.sender.sent →
      .deviceStateUpdate update ∈ t.app.hooks.sender.sent ∨ update ∈ t.stored)
    (hstored : ∀ update ∈ t'.stored, update ∈ t.stored ∨
      ∃ device, t.app.devices.lookup update.deviceId = some device) : t'.Backed := by
  refine ⟨h.sameConfig.keyed ht.keyed, fun update hmem => ?_, fun update hmem => ?_⟩
  · -- what is announced has been stored
    rcases hhooks update hmem with hsent | hmem
    · exact h.stored.subset (ht.hooks update hsent)
    · exact h.stored.subset hmem
  · -- what is stored was for a known device
    have hknown : ∃ device, t.app.devices.lookup update.deviceId = some device := by
      rcases hstored update hmem with hmem | hknown
      · exact ht.known update hmem
      · exact hknown
    obtain ⟨device, hd⟩ := hknown
    obtain ⟨device', hd', -⟩ := h.sameConfig.lookup hd
    exact ⟨device', hd'⟩

/-- A step of a call is backed, and backs what it stores. -/
theorem TableCall.Step.backed (h : TableCall.Step t call l t' call') (ht : t.Backed)
    (hc : call.Backed t) : t'.Backed ∧ t.Grows t' ∧ call'.Backed t' := by
  have hgrows : t.Grows t' := ⟨h.sameConfig, h.stored_prefix⟩
  refine ⟨ht.grows hgrows (fun update hmem => ?_) (fun update hmem => ?_), hgrows, ?_⟩
  · -- an announced notification was either announced before, or is the one the call had stored
    rcases h.announced hmem with hmem | ⟨source, rfl⟩
    · exact .inl hmem
    · exact .inr hc
  · rcases h.table with ⟨-, hstored⟩ | ⟨update', hstore, hstored⟩
    · exact .inl (by rw [← hstored]; exact hmem)
    · rw [hstored] at hmem
      rcases List.mem_append.mp hmem with hmem | hmem
      · exact .inl hmem
      · obtain ⟨device, hd, -⟩ := storeNotification_ok hstore
        rw [List.mem_singleton.mp hmem]
        exact .inr ⟨device, hd⟩
  · -- a call that has stored its notification goes on with it
    cases h with
    | store h => exact List.mem_append_right _ (List.mem_singleton_self _)
    | request h => trivial
    | unknown h => trivial
    | closed h => trivial
    | sendHook h => trivial

/-- What a message starts has a fitting state to store, unless the message carries it. -/
theorem TableCall.start_backed (ht : t.Backed) (message : TableMessage) :
    (TableCall.start env t.app message).Backed t := by
  cases message with
  | request r => trivial
  | incoming source =>
    simp only [start]
    split
    · rename_i update hdecode
      exact fun hs => Incoming.decode_admits ht.keyed hs hdecode
    · trivial

/-- A task that stores nothing leaves all of it backed. -/
theorem Task.run_backed {task : Task} {app' : AppState} (hf : task.isForeign = true)
    (h : task.run t.app = some app') (ht : t.Backed) :
    Table.Backed { t with app := app' } ∧ t.Grows { t with app := app' } := by
  have hgrows : t.Grows { t with app := app' } := ⟨Task.run_sameConfig h, List.prefix_refl _⟩
  exact ⟨ht.grows hgrows (fun update hmem => .inl (Task.run_announced hf h hmem))
    (fun update hmem => .inl hmem), hgrows⟩

/-- The calls on a table with their backing. -/
def backedCalls (env : IncomingEnv) : System.RelyGuarantee (tableCalls env) where
  shared t := t.Backed
  comp t call := call.Backed t
  rely := Table.Grows
  env_ok := by
    -- A task of the server stores nothing
    intro t task t' ht h
    simp only [tableCalls] at h
    split at h
    · rename_i hf
      obtain ⟨app', hrun, rfl⟩ := Option.map_eq_some_iff.mp h
      exact Task.run_backed hf hrun ht
    · exact nomatch h
  spawn_ok := by
    -- A call begins with nothing stored
    intro t message t' call ht h
    cases h
    exact ⟨ht, ⟨.refl _, List.prefix_refl _⟩, TableCall.start_backed ht message⟩
  step_ok := by
    intro t call l t' call' ht hc h
    exact (TableCall.step_cases h).backed ht hc
  stable h hc := h.backed hc

/-- Every stored state fits. -/
def Table.Fits (t : Table) : Prop :=
  ∀ update ∈ t.stored, t.app.Admits update

/-- One more stored state has to fit. -/
theorem Table.fits_concat {app' : AppState} {update : UpdateNotification}
    (h : t.app.SameConfig app') :
    Table.Fits ⟨app', t.stored ++ [update]⟩ ↔ t.Fits ∧ t.app.Admits update := by
  constructor
  · -- the old notifications, and the new one
    intro hfits
    refine ⟨fun update' hmem => ?_, ?_⟩
    · exact h.admits.mp (hfits update' (List.mem_append_left _ hmem))
    · exact h.admits.mp (hfits update (List.mem_append_right _ (List.mem_singleton_self _)))
  · rintro ⟨hfits, hupdate⟩ update' hmem
    apply h.admits.mpr
    rcases List.mem_append.mp hmem with hmem | hmem
    · exact hfits update' hmem
    · rw [List.mem_singleton.mp hmem]
      exact hupdate

/-- Whether what was stored fits is a matter of configuration. -/
theorem Table.fits_congr {app' : AppState} (h : t.app.SameConfig app') :
    Table.Fits { t with app := app' } ↔ t.Fits :=
  forall_congr' fun _ => imp_congr_right fun _ => h.admits

variable {st st' : System.State Table TableCall} {a : System.Act Task TableMessage TableLabel}

/-- After an action every stored state fits exactly when every one did before and the action
stores one that fits, if it stores one that came with a message. -/
theorem tableCalls_fits (hs : (backedCalls env).Holds st)
    (h : (tableCalls env).exec st a = some st') :
    st'.shared.Fits ↔ st.shared.Fits ∧ StoresFitting st a := by
  -- Only storing a notification can break the types
  cases a with
  | env task =>
    obtain ⟨htask, -⟩ := System.exec_env h
    simp only [tableCalls] at htask
    split at htask
    · rename_i hf
      obtain ⟨app', hrun, he⟩ := Option.map_eq_some_iff.mp htask
      rw [← he, Table.fits_congr (Task.run_sameConfig hrun)]
      exact (and_iff_left trivial).symm
    · exact nomatch htask
  | spawn message =>
    obtain ⟨call, hspawn, -⟩ := System.exec_spawn h
    obtain ⟨hshared, -⟩ := Prod.mk.inj (Option.some.inj hspawn)
    rw [← hshared]
    exact (and_iff_left trivial).symm
  | step i l =>
    obtain ⟨call, call', hi, hstep, -⟩ := System.exec_step h
    have hcall : call.Backed st.shared := hs.2 call (List.mem_of_getElem? hi)
    replace hstep := TableCall.step_cases hstep
    generalize st'.shared = t' at hstep
    clear h
    -- A known device is updated, whatever else is done keeps the table
    cases hstep with
    | request h =>
      obtain ⟨hooks, hsends, -, -, -⟩ := h.sends
      rw [Table.fits_congr hsends.sameConfig]
      exact (and_iff_left trivial).symm
    | @unknown source update h =>
      refine (and_iff_left fun source' update' hi' hsource => ?_).symm
      cases hi.symm.trans hi'
      intro device hd
      rw [h] at hd
      exact nomatch hd
    | @store source update app' h =>
      rw [Table.fits_concat (storeNotification_sameConfig h)]
      refine and_congr_right fun _ => ⟨fun hupdate source' update' hi' hsource => ?_, fun hst => ?_⟩
      · cases hi.symm.trans hi'
        exact hupdate
      · -- the other two controllers have made sure
        cases hsource : source.carriesState with
        | false => exact hcall hsource
        | true => exact hst source update hi hsource
    | closed h =>
      refine (and_iff_left fun source' update' hi' hsource => ?_).symm
      cases hi.symm.trans hi'
    | sendHook h =>
      rw [Table.fits_congr h.sameConfig]
      refine (and_iff_left fun source' update' hi' hsource => ?_).symm
      cases hi.symm.trans hi'

end Backed

/-! ## Runs -/

section Runs

variable {env : IncomingEnv} {capacity : Nat} {config : DevicesConfig} {devices : Devices}
  {controllers : Controllers} {st : System.State Table TableCall}
  {as : List (System.Act Task TableMessage TableLabel)}

/-- At the start nothing has been stored. -/
theorem backedCalls_initial (env : IncomingEnv) (controllers : Controllers)
    (hk : devices.Keyed) : (backedCalls env).Holds (tableInitial devices controllers) :=
  ⟨⟨hk, fun _ hmem => absurd hmem List.not_mem_nil,
      fun _ hmem => absurd hmem List.not_mem_nil⟩,
    fun _ hmem => absurd hmem List.not_mem_nil⟩

/-- In every run what was stored comes from a datagram or a device. -/
theorem backedCalls_run (hk : devices.Keyed)
    (h : (tableCalls env).run (tableInitial devices controllers) as = some st) :
    (backedCalls env).Holds st :=
  (backedCalls env).run h (backedCalls_initial env controllers hk)

/-- A loaded table in which every stored state fits is typed, with everything announced. -/
theorem Table.Fits.typed (hload : loadDevices capacity config = some devices)
    (h : (tableCalls env).run (tableInitial devices controllers) as = some st)
    (hfits : st.shared.Fits) : st.shared.app.Typed := by
  have hk := loadDevices_keyed hload
  have hstores := tableCalls_stores hk h
  have hbacked := (backedCalls_run hk h).1
  refine ⟨fun id device hd => ?_, fun update hmem => ?_⟩
  · -- a device has its last stored state, or none was stored and it is unknown
    have hd' := hd
    rw [hstores id, loadDevices_lookup hload, Option.map_map] at hd'
    obtain ⟨c, -, hdevice⟩ := Option.map_eq_some_iff.mp hd'
    cases hlast : lastUpdate id st.shared.stored with
    | none =>
      have hstate : device.state = .unknown := by
        rw [← hdevice]
        simp [Device.withLast, DeviceConfig.load, hlast]
      rw [hstate]
      rfl
    | some update =>
      obtain ⟨hmem, hid⟩ := lastUpdate_some hlast
      have hstate : device.state = update.newState := by
        rw [← hdevice]
        simp [Device.withLast, DeviceConfig.load, hlast]
      rw [hstate]
      exact hfits update hmem device (by rw [hid, hd])
  · -- what is announced has been stored, and so it fits too
    have hstored := hbacked.hooks update hmem
    obtain ⟨device, hd⟩ := hbacked.known update hstored
    exact ⟨device, hd, hfits update hstored device hd⟩

/-- Throughout a run every stored state fits exactly when every state that came with a message
and was stored does. -/
theorem fits_run (hk : devices.Keyed)
    (h : (tableCalls env).run (tableInitial devices controllers) as = some st) :
    st.shared.Fits ↔
      Lts.Along (tableCalls env).exec StoresFitting (tableInitial devices controllers) as := by
  have hinitial : (tableInitial devices controllers).shared.Fits :=
    fun _ hmem => absurd hmem List.not_mem_nil
  have hkeep : ∀ s a s', (backedCalls env).Holds s → (tableCalls env).exec s a = some s' →
      (backedCalls env).Holds s' := fun s a s' hs hexec => ((backedCalls env).exec hs hexec).1
  rw [Lts.run_iff_along (tableCalls env).exec hkeep
    (fun s a s' hs hexec => tableCalls_fits hs hexec) h (backedCalls_initial env controllers hk)]
  exact and_iff_right hinitial

/-- After a store the new state is in the table, so it has to fit there. -/
theorem storesFitting_of_typed {st' : System.State Table TableCall}
    {a : System.Act Task TableMessage TableLabel} (h : (tableCalls env).exec st a = some st')
    (ht : st'.shared.app.Typed) : StoresFitting st a := by
  -- The device that was stored into has the type that its new state is of
  cases a with
  | env task => trivial
  | spawn message => trivial
  | step i l =>
    cases l with
    | request l => trivial
    | process =>
      intro source update hi _ device hd
      obtain ⟨call, call', hi', hstep, -⟩ := System.exec_step h
      obtain rfl := Option.some.inj (hi.symm.trans hi')
      have hstep : TableCall.Step st.shared (.notification source (.store update)) .process
          st'.shared call' := TableCall.step_cases hstep
      generalize st'.shared = t' at hstep ht
      clear h
      cases hstep with
      -- An unknown device is not stored into
      | unknown h =>
        rw [h] at hd
        exact nomatch hd
      | store h =>
        have hlookup := storeNotification_lookup h update.deviceId
        rw [if_pos rfl, hd, Option.map_some] at hlookup
        exact ht.table _ _ hlookup

/-- In every state that a run reaches, the stored and the announced states fit their devices'
types, exactly when every state that the run stores from a Simple or Krypton message fits the
type of its device. -/
theorem stateTypes_iff (env : IncomingEnv) (capacity : Nat) (config : DevicesConfig)
    (devices : Devices) (controllers : Controllers)
    (as : List (System.Act Task TableMessage TableLabel)) (st : System.State Table TableCall)
    (hload : loadDevices capacity config = some devices)
    (hrun : (tableCalls env).run (tableInitial devices controllers) as = some st) :
    (∀ bs m, bs <+: as → (tableCalls env).run (tableInitial devices controllers) bs = some m →
        m.shared.app.Typed) ↔
      Lts.Along (tableCalls env).exec StoresFitting (tableInitial devices controllers) as := by
  constructor
  · -- a prefix whose last step stores what does not fit is not typed
    intro htyped
    rw [Lts.along_iff_reached _ hrun]
    rintro bs a cs m rfl hbs
    obtain ⟨m₀, hm₀, hrest⟩ := Lts.run_split _ hrun
    obtain rfl : m₀ = m := Option.some.inj (hm₀.symm.trans hbs)
    obtain ⟨m', ha, -⟩ := Lts.run_cons _ hrest
    apply storesFitting_of_typed ha
    apply htyped (bs ++ [a]) m' ⟨cs, by simp⟩
    rw [System.run, Lts.run_append_of _ hbs, Lts.run_cons_of _ ha]
    rfl
  · -- a prefix of such a run is such a run
    intro halong bs m hbs hm
    apply Table.Fits.typed hload hm
    rw [fits_run (loadDevices_keyed hload) hm]
    exact Lts.along_prefix _ hrun halong hbs

end Runs

end Devicectrl

/-! ## A switch that reports a brightness -/

namespace Devicectrl

open TableCall.Demo

/-- Only switches report themselves, and the table stays typed. -/
theorem stateTypes_iff_demo :
    ∃ st, (tableCalls env).run (tableInitial devices controllers) (reports (.switch ⟨.on⟩)) =
        some st ∧ st.shared.app.Typed := by
  -- The switch of the configuration reports that it is on
  have hrun : ∃ st,
      (tableCalls env).run (tableInitial devices controllers) (reports (.switch ⟨.on⟩)) = some st ∧
        st.shared.stored = [⟨lamp, true, .switch ⟨.on⟩⟩] := ⟨_, rfl, rfl⟩
  obtain ⟨st, hst, -⟩ := hrun
  refine ⟨st, hst, ?_⟩
  apply (stateTypes_iff env 64 config devices controllers _ st rfl hst).mpr _ _ _
    (List.prefix_refl _) hst
  -- Its type is that of the state
  refine ⟨trivial, fun source update hi _ device hd => ?_, fun source update hi _ => ?_, trivial⟩
  · cases hi
    cases hd
    rfl
  · cases hi

/-- A Simple device that is configured as a switch has a dimmable light's state stored, and
announced. -/
theorem not_stateTypes :
    ¬∀ env capacity config devices controllers as st, loadDevices capacity config = some devices →
      (tableCalls env).run (tableInitial devices controllers) as = some st →
        st.shared.app.Typed := by
  intro h
  have htyped := h env 64 config devices controllers
    (reports (.dimmableLight ⟨.on, ⟨⟨0, 100, 1⟩, 50⟩⟩)) _ rfl rfl
  have hfits := htyped.table lamp _ rfl
  exact absurd hfits Bool.false_ne_true

end Devicectrl
