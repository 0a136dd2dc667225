import Devicectrl.Native.Ingestion
import Devicectrl.Native.ServerBackends
import Devicectrl.Spec.RequestCalls

/-!
# The device table over whole runs

`load_devices` fixes the keys of the table and everything in it but the states, and a state
changes only when a notification is stored. So the table in any reachable state is the one that
was loaded with the states stored last, and the catalog, which shows no states, never changes.

## Key results

- `TableCall.step_cases`: what one part of a call does
- `deviceTable_run`: the table and the catalog in every state of every run
-/

namespace Devicectrl

/-! ## Loading -/

section Load

variable {capacity : Nat} {config : DevicesConfig} {devices : Devices}

/-- What loading some entries adds to a table, key by key. -/
private theorem loadEntries_lookup {entries : List (Sigma fun _ : String => DeviceConfig)}
    (hkeys : entries.NodupKeys) {before after : Devices}
    (h : entries.foldlM (fun (devices : Devices) entry =>
      (DeviceId.ofString capacity entry.1).map fun id => devices.insert id (entry.2.load id))
      before = some after) (id : DeviceId) :
    after.lookup id =
      (((entries.dlookup id.name).map fun c => c.load id).or (before.lookup id)) := by
  induction entries generalizing before with
  | nil =>
    cases h
    rfl
  | cons entry entries ih =>
    obtain ⟨name, c⟩ := entry
    obtain ⟨hnot, hkeys⟩ := List.nodupKeys_cons.mp hkeys
    rw [List.foldlM_cons] at h
    obtain ⟨middle, hmiddle, h⟩ := Option.bind_eq_some_iff.mp h
    obtain ⟨id', hid', rfl⟩ := Option.map_eq_some_iff.mp hmiddle
    -- The id is that of the key, since it fits
    have hname : id' = ⟨name⟩ := by
      unfold DeviceId.ofString at hid'
      split at hid'
      · exact (Option.some.inj hid').symm
      · exact nomatch hid'
    subst hname
    rw [ih hkeys h]
    by_cases hid : name = id.name
    · -- no later entry has the same key
      subst hid
      rw [List.dlookup_eq_none.mpr hnot, List.dlookup_cons_eq]
      exact AList.lookup_insert _
    · rw [List.dlookup_cons_ne _ _ (Ne.symm hid), AList.lookup_insert_ne fun he => hid (by rw [he])]

/-- A loaded table has an entry for each configured device, and no other. -/
theorem loadDevices_lookup (h : loadDevices capacity config = some devices) (id : DeviceId) :
    devices.lookup id = (config.lookup id.name).map fun c => c.load id := by
  rw [loadEntries_lookup config.nodupKeys h id, AList.lookup_empty, Option.or_none]
  rfl

/-- Loading succeeds when every id fits. -/
theorem loadDevices_of_fits (h : ∀ name ∈ config.keys, name.utf8ByteSize ≤ capacity) :
    ∃ devices, loadDevices capacity config = some devices := by
  have hload (entries : List (Sigma fun _ : String => DeviceConfig)) (before : Devices)
      (hfits : ∀ entry ∈ entries, entry.1.utf8ByteSize ≤ capacity) :
      ∃ after, entries.foldlM (fun (devices : Devices) entry =>
        (DeviceId.ofString capacity entry.1).map fun id =>
          devices.insert id (entry.2.load id)) before = some after := by
    induction entries generalizing before with
    | nil => exact ⟨before, rfl⟩
    | cons entry entries ih =>
      -- Every key fits, so the fold goes on from the table with one entry more
      have hentry := hfits entry List.mem_cons_self
      obtain ⟨after, hafter⟩ := ih (before.insert ⟨entry.1⟩ (entry.2.load ⟨entry.1⟩))
        fun e he => hfits e (List.mem_cons_of_mem _ he)
      refine ⟨after, ?_⟩
      rw [List.foldlM_cons, DeviceId.ofString, if_pos hentry]
      exact hafter
  exact hload _ _ fun entry hmem => h entry.1 (List.mem_map_of_mem hmem)

end Load

/-! ## The states stored last -/

/-- The last of some updates for device `id`. -/
def lastUpdate (id : DeviceId) (updates : List UpdateNotification) : Option UpdateNotification :=
  (updates.filter fun update => update.deviceId = id).getLast?

@[simp] theorem lastUpdate_nil (id : DeviceId) : lastUpdate id [] = none := rfl

/-- The last update of a device is the one appended, if it is of this device. -/
theorem lastUpdate_concat (id : DeviceId) (updates : List UpdateNotification)
    (update : UpdateNotification) :
    lastUpdate id (updates ++ [update]) =
      if update.deviceId = id then some update else lastUpdate id updates := by
  by_cases h : update.deviceId = id <;> simp [lastUpdate, h]

/-- The last update of a device is among the updates, and of this device. -/
theorem lastUpdate_some {id : DeviceId} {updates : List UpdateNotification}
    {update : UpdateNotification} (h : lastUpdate id updates = some update) :
    update ∈ updates ∧ update.deviceId = id := by
  have hmem := List.mem_of_getLast? h
  rw [List.mem_filter] at hmem
  exact ⟨hmem.1, of_decide_eq_true hmem.2⟩

/-- A device with the state that was stored last; it keeps its own when none was. -/
def Device.withLast (updates : List UpdateNotification) (device : Device) : Device :=
  { device with
    state := ((lastUpdate device.id updates).map UpdateNotification.newState).getD device.state }

/-- The entries of a table are devices by their own ids. -/
def Devices.Keyed (devices : Devices) : Prop :=
  ∀ id device, devices.lookup id = some device → device.id = id

/-- A table that was loaded has its devices under their ids. -/
theorem loadDevices_keyed {capacity : Nat} {config : DevicesConfig} {devices : Devices}
    (h : loadDevices capacity config = some devices) : devices.Keyed := by
  intro id device hd
  rw [loadDevices_lookup h] at hd
  obtain ⟨c, -, rfl⟩ := Option.map_eq_some_iff.mp hd
  rfl

/-- `app` has the devices of a table, with the states stored last. -/
def AppState.Stores (app : AppState) (devices : Devices) (stored : List UpdateNotification) :
    Prop :=
  ∀ id, app.devices.lookup id = (devices.lookup id).map (Device.withLast stored)

section Stores

variable {app app' : AppState} {devices : Devices} {stored : List UpdateNotification}
  {update : UpdateNotification}

/-- Nothing was stored in the table that was loaded. -/
theorem AppState.Stores.initial (devices : Devices) (controllers : Controllers) :
    (AppState.new devices controllers).Stores devices [] := by
  intro id
  show devices.lookup id = (devices.lookup id).map fun device => device
  exact Option.map_id'.symm

/-- Storing states keeps the devices under their ids. -/
theorem AppState.Stores.keyed (h : app.Stores devices stored) (hk : devices.Keyed) :
    app.devices.Keyed := by
  intro id device hd
  rw [h id] at hd
  obtain ⟨device₀, hd₀, rfl⟩ := Option.map_eq_some_iff.mp hd
  exact hk id device₀ hd₀

/-- Only the states of a table change. -/
theorem AppState.Stores.config (h : app.Stores devices stored) (id : DeviceId) :
    (app.devices.lookup id).map Device.config = (devices.lookup id).map Device.config := by
  rw [h id, Option.map_map]
  rfl

/-- A store keeps the last state of its device. -/
theorem AppState.Stores.store (h : app.Stores devices stored) (hk : devices.Keyed)
    (hs : storeNotification update app = .ok app') : app'.Stores devices (stored ++ [update]) := by
  intro id
  rw [storeNotification_lookup hs, h id]
  cases hd : devices.lookup id with
  | none => split <;> rfl
  | some device =>
    have hid : device.id = id := hk id device hd
    simp only [Option.map_some, Device.withLast, hid, lastUpdate_concat]
    by_cases he : id = update.deviceId
    · rw [if_pos he, if_pos he.symm]
      rfl
    · rw [if_neg he, if_neg (Ne.symm he)]

/-- A table follows what is stored in it. -/
theorem AppState.Stores.table (h : app.Stores devices stored) (hk : devices.Keyed)
    {stored' : List UpdateNotification}
    (ht : (app'.devices = app.devices ∧ stored' = stored) ∨
      ∃ update, storeNotification update app = .ok app' ∧ stored' = stored ++ [update]) :
    app'.Stores devices stored' := by
  rcases ht with ⟨hdevices, rfl⟩ | ⟨update, hs, rfl⟩
  · intro id
    rw [hdevices]
    exact h id
  · exact h.store hk hs

end Stores

/-! ## Calls -/

/-- Tasks that report no states store none. -/
theorem Task.isWriter_of_isForeign {task : Task} (hf : task.isForeign = true) :
    task.isWriter = false := by
  cases task with
  | storeNotification update => exact absurd hf Bool.false_ne_true
  | sendHook hook => rfl
  | subscribe => rfl
  | unsubscribe => rfl

/-- What other tasks do leaves the hooks sent before in place. -/
theorem Task.run_sent {task : Task} {app app' : AppState} (h : task.run app = some app') :
    app.hooks.sender.sent <+: app'.hooks.sender.sent := by
  cases Task.run_cases h with
  | store hs => simp only [storeNotification_hooks hs, List.prefix_rfl]
  | unknown he => exact List.prefix_refl _
  | send hr => exact List.prefix_append _ _
  | closed hr => exact List.prefix_refl _
  | subscribe hr => exact List.prefix_refl _
  | unsubscribe hr => exact List.prefix_refl _

/-- Nor do they announce any. -/
theorem Task.run_announced {task : Task} {app app' : AppState} {update : UpdateNotification}
    (hf : task.isForeign = true) (h : task.run app = some app')
    (hmem : .deviceStateUpdate update ∈ app'.hooks.sender.sent) :
    .deviceStateUpdate update ∈ app.hooks.sender.sent := by
  cases Task.run_cases h with
  | store hs => exact absurd hf Bool.false_ne_true
  | unknown he => exact absurd hf Bool.false_ne_true
  -- Only other hooks are sent by a task that is none of the calls
  | @send hook hr =>
    cases List.mem_append.mp hmem with
    | inl hmem => exact hmem
    | inr hmem =>
      obtain rfl : _ = hook := List.mem_singleton.mp hmem
      cases hf
  | closed hr => exact hmem
  | subscribe hr => exact hmem
  | unsubscribe hr => exact hmem

/-- A stored state is announced by one hook. -/
theorem sends_of_sendNotificationHook {app app' : AppState} {update : UpdateNotification}
    (h : sendNotificationHook update app = .ok app') :
    app.Sends app' [.deviceStateUpdate update] := by
  obtain ⟨hdevices, hcontrollers, hsender⟩ := sendNotificationHook_ok h
  exact ⟨hdevices, hcontrollers, hsender⟩

namespace TableCall

/-- A part of a call. -/
inductive Step (t : Table) : TableCall → TableLabel → Table → TableCall → Prop
  | request {call l app' call'} (h : RequestCall.Step t.app call l app' call') :
      Step t (.request call) (.request l) { t with app := app' } (.request call')
  | unknown {source update} (h : t.app.devices.lookup update.deviceId = none) :
      Step t (.notification source (.store update)) .process t .returned
  | store {source update app'} (h : storeNotification update t.app = .ok app') :
      Step t (.notification source (.store update)) .process ⟨app', t.stored ++ [update]⟩
        (.notification source (.sendHook update))
  | closed {source update} (h : t.app.hooks.sender.receivers = 0) :
      Step t (.notification source (.sendHook update)) .process t .returned
  | sendHook {source update app'} (h : t.app.Sends app' [.deviceStateUpdate update]) :
      Step t (.notification source (.sendHook update)) .process { t with app := app' } .returned

variable {t t' : Table} {call call' : TableCall} {l : TableLabel}

theorem step_cases (h : call.step t l = some (t', call')) : Step t call l t' call' := by
  cases call with
  | request call =>
    cases l with
    | request l =>
      obtain ⟨p, hp, he⟩ := Option.map_eq_some_iff.mp h
      cases he
      exact .request (RequestCall.step_cases hp)
    | process => cases h
  | notification source call =>
    cases l with
    | request l => cases h
    | process =>
      simp only [step] at h
      -- `process_update_notification` in the two parts of the model: the store, and then the hook
      cases hp : processUpdateNotification t.app call with
      | mk app' r =>
        rw [hp] at h
        cases processUpdateNotification_cases hp with
        | store hs =>
          cases h
          exact .store hs
        | failStore he =>
          cases h
          exact .unknown (lookup_of_storeNotification_error he)
        | sendHook hs =>
          cases h
          exact .sendHook (sends_of_sendNotificationHook hs)
        | failHook he =>
          cases h
          exact .closed (receivers_of_sendNotificationHook_error he)
  | returned => cases h

/-- A part of a call stores one notification or leaves the table alone. -/
theorem Step.table (h : Step t call l t' call') :
    (t'.app.devices = t.app.devices ∧ t'.stored = t.stored) ∨
      ∃ update, storeNotification update t.app = .ok t'.app ∧ t'.stored = t.stored ++ [update] := by
  cases h with
  | request h =>
    obtain ⟨hooks, hsends, -, -, -⟩ := h.sends
    exact .inl ⟨hsends.devices, rfl⟩
  | unknown h => exact .inl ⟨rfl, rfl⟩
  | @store source update app' h => exact .inr ⟨update, h, rfl⟩
  | closed h => exact .inl ⟨rfl, rfl⟩
  | sendHook h => exact .inl ⟨h.devices, rfl⟩

/-- What was stored stays the first of what is. -/
theorem Step.stored_prefix (h : Step t call l t' call') : t.stored <+: t'.stored := by
  rcases h.table with ⟨-, hstored⟩ | ⟨update, -, hstored⟩
  · exact ⟨[], by rw [List.append_nil, hstored]⟩
  · exact ⟨[update], hstored.symm⟩

/-- Calls change no configuration. -/
theorem Step.sameConfig (h : Step t call l t' call') : t.app.SameConfig t'.app := by
  cases h with
  | request h =>
    obtain ⟨hooks, hsends, -, -, -⟩ := h.sends
    exact hsends.sameConfig
  | unknown h => exact .refl _
  | store h => exact storeNotification_sameConfig h
  | closed h => exact .refl _
  | sendHook h => exact h.sameConfig

/-- A part of a call sends hooks after those that are there. -/
theorem Step.sent_prefix (h : Step t call l t' call') :
    t.app.hooks.sender.sent <+: t'.app.hooks.sender.sent := by
  cases h with
  | request h =>
    obtain ⟨hooks, hsends, -, -, -⟩ := h.sends
    rw [hsends.sender]
    exact List.prefix_append _ _
  | unknown h => exact List.prefix_refl _
  | store h => simp only [storeNotification_hooks h, List.prefix_rfl]
  | closed h => exact List.prefix_refl _
  | sendHook h =>
    rw [h.sender]
    exact List.prefix_append _ _

/-- A state is announced by the call that has stored it. -/
theorem Step.announced (h : Step t call l t' call') {update : UpdateNotification}
    (hmem : .deviceStateUpdate update ∈ t'.app.hooks.sender.sent) :
    .deviceStateUpdate update ∈ t.app.hooks.sender.sent ∨
      ∃ source, call = .notification source (.sendHook update) := by
  cases h with
  | request h =>
    obtain ⟨hooks, hsends, hkind, -, -⟩ := h.sends
    rw [hsends.sender, List.mem_append] at hmem
    -- A request announces itself only
    rcases hmem with hmem | hmem
    · exact .inl hmem
    · obtain ⟨r, hr⟩ := hkind _ hmem
      exact nomatch hr
  | unknown h => exact .inl hmem
  | store h =>
    rw [storeNotification_hooks h] at hmem
    exact .inl hmem
  | closed h => exact .inl hmem
  | @sendHook source update' app' h =>
    rw [h.sender, List.mem_append, List.mem_singleton] at hmem
    rcases hmem with hmem | he
    · exact .inl hmem
    · cases he
      exact .inr ⟨source, rfl⟩

end TableCall

section Runs

variable {env : IncomingEnv} {capacity : Nat} {config : DevicesConfig} {devices : Devices}
  {controllers : Controllers} {st st' : System.State Table TableCall}
  {as : List (System.Act Task TableMessage TableLabel)}
  {a : System.Act Task TableMessage TableLabel}

/-- An action stores one notification or leaves the table alone. -/
theorem tableCalls_table (h : (tableCalls env).exec st a = some st') :
    (st'.shared.app.devices = st.shared.app.devices ∧ st'.shared.stored = st.shared.stored) ∨
      ∃ update, storeNotification update st.shared.app = .ok st'.shared.app ∧
        st'.shared.stored = st.shared.stored ++ [update] := by
  cases a with
  | env task =>
    obtain ⟨htask, -⟩ := System.exec_env h
    simp only [tableCalls] at htask
    -- A foreign task stores nothing
    split at htask
    · rename_i hf
      obtain ⟨app', hrun, he⟩ := Option.map_eq_some_iff.mp htask
      rw [← he]
      exact .inl ⟨Task.run_devices (Task.isWriter_of_isForeign hf) hrun, rfl⟩
    · exact nomatch htask
  | spawn message =>
    obtain ⟨call, hspawn, -⟩ := System.exec_spawn h
    obtain ⟨hshared, -⟩ := Prod.mk.inj (Option.some.inj hspawn)
    exact .inl ⟨by rw [← hshared], by rw [← hshared]⟩
  | step i l =>
    obtain ⟨call, call', -, hstep, -⟩ := System.exec_step h
    exact (TableCall.step_cases hstep).table

/-- In every reachable state the table is the one that was loaded with the states stored last. -/
theorem tableCalls_stores (hk : devices.Keyed)
    (h : (tableCalls env).run (tableInitial devices controllers) as = some st) :
    st.shared.app.Stores devices st.shared.stored := by
  have hstep : ∀ s a s', s.shared.app.Stores devices s.shared.stored →
      (tableCalls env).exec s a = some s' → s'.shared.app.Stores devices s'.shared.stored := by
    intro s a s' hs hexec
    exact hs.table hk (tableCalls_table hexec)
  have hinitial : (tableInitial devices controllers).shared.app.Stores devices [] :=
    .initial devices controllers
  exact Lts.run_invariant _ hstep h hinitial

end Runs

/-! ## The catalog -/

section Catalog

variable {config : DevicesConfig} {devices devices' : Devices} {scenes scenes' : ScenesConfig}

/-- The descriptors of the configured devices. -/
def DevicesConfig.descriptors (config : DevicesConfig) : List DeviceDescriptor :=
  config.entries.map fun entry => ⟨⟨entry.1⟩, entry.2.deviceType⟩

/-- The configuration has a device once. -/
theorem DevicesConfig.descriptors_nodup (config : DevicesConfig) :
    (config.descriptors.map DeviceDescriptor.sortKey).Nodup := by
  rw [descriptors, List.map_map]
  exact config.nodupKeys

/-- The table of `app` shows the configured devices, each under its own id. -/
def Devices.Shows (devices : Devices) (config : DevicesConfig) : Prop :=
  ∀ id, (devices.lookup id).map Device.descriptor =
      (config.lookup id.name).map fun c => ⟨id, c.deviceType⟩

/-- What the table shows of a device is configured. -/
theorem Devices.Shows.mem_entries (h : devices.Shows config) {id : DeviceId} {device : Device}
    (hmem : ⟨id, device⟩ ∈ devices.entries) :
    ∃ c, config.lookup id.name = some c ∧ device.descriptor = ⟨id, c.deviceType⟩ := by
  have hid := h id
  rw [AList.mem_lookup_iff.mpr hmem, Option.map_some] at hid
  obtain ⟨c, hc, he⟩ := Option.map_eq_some_iff.mp hid.symm
  exact ⟨c, hc, he.symm⟩

/-- In whatever order such a table is iterated, its descriptors are those of the configuration. -/
theorem Devices.Shows.descriptors (h : devices.Shows config)
    (hperm : devices'.entries.Perm devices.entries) :
    (devices'.entries.map fun entry => entry.2.descriptor).Perm config.descriptors := by
  refine (hperm.map _).trans ?_
  -- The ids are the keys of the table, so no descriptor is there twice
  have hids : (devices.entries.map fun entry => entry.2.descriptor).map DeviceDescriptor.deviceId =
      devices.keys := by
    rw [List.map_map]
    apply List.map_congr_left
    rintro ⟨id, device⟩ hmem
    obtain ⟨c, -, hdescriptor⟩ := h.mem_entries hmem
    show device.descriptor.deviceId = id
    rw [hdescriptor]
  have hnodup : (devices.entries.map fun entry => entry.2.descriptor).Nodup := by
    apply List.Nodup.of_map DeviceDescriptor.deviceId
    rw [hids]
    exact devices.keys_nodup
  have hnodup' : config.descriptors.Nodup := List.Nodup.of_map _ config.descriptors_nodup
  rw [List.perm_ext_iff_of_nodup hnodup hnodup']
  intro descriptor
  constructor
  · -- a device of the table shows its configuration
    intro hmem
    obtain ⟨⟨id, device⟩, hentry, rfl⟩ := List.mem_map.mp hmem
    obtain ⟨c, hc, hdescriptor⟩ := h.mem_entries hentry
    rw [hdescriptor]
    exact List.mem_map.mpr ⟨⟨id.name, c⟩, AList.mem_lookup_iff.mp hc, rfl⟩
  · -- a configured device is in the table
    intro hmem
    obtain ⟨⟨name, c⟩, hentry, rfl⟩ := List.mem_map.mp hmem
    have hid := h ⟨name⟩
    rw [AList.mem_lookup_iff.mpr hentry, Option.map_some] at hid
    obtain ⟨device, hdevice, hdescriptor⟩ := Option.map_eq_some_iff.mp hid
    exact List.mem_map.mpr ⟨⟨⟨name⟩, device⟩, AList.mem_lookup_iff.mp hdevice, hdescriptor⟩

/-- The configuration has a scene once. -/
theorem ScenesConfig.sortKeys_nodup (scenes : ScenesConfig) :
    (scenes.keys.map SceneId.sortKey).Nodup := by
  apply (AList.keys_nodup scenes).map
  intro scene scene' he
  exact congrArg SceneId.mk he

/-- The catalog of the configured devices and scenes. -/
def configuredCatalog (sort : CatalogSort) (config : DevicesConfig) (scenes : ScenesConfig) :
    ClientBoundSocketMessage :=
  catalogMessage sort config.descriptors scenes.keys

/-- The catalog depends neither on the states nor on the order in which the maps are iterated, nor
on how the sort treats elements that are equal. -/
theorem catalog_eq {app : AppState} (h : app.devices.Shows config) (sort sort' : CatalogSort)
    (hd : devices'.entries.Perm app.devices.entries) (hs : scenes'.entries.Perm scenes.entries) :
    catalog sort scenes' { app with devices := devices' } =
      configuredCatalog sort' config scenes := by
  have hperm := h.descriptors hd
  have hdevices := sort.devices.sort_eq_of_perm sort'.devices hperm
    ((hperm.map DeviceDescriptor.sortKey).nodup_iff.mpr config.descriptors_nodup)
  have hscenes := sort.scenes.sort_eq_of_perm sort'.scenes (hs.map Sigma.fst)
    (ScenesConfig.sortKeys_nodup scenes')
  show ClientBoundSocketMessage.catalog _ _ = ClientBoundSocketMessage.catalog _ _
  rw [hdevices]
  exact congrArg _ hscenes

/-- In every state of every run, the table has the configured devices, each under its own id with
its configured type and controller and the state that was stored for it last, and the catalog is
the same: every configured device and every configured scene once, in ascending order. -/
theorem deviceTable_run (env : IncomingEnv) (capacity : Nat) (config : DevicesConfig)
    (scenes : ScenesConfig) (controllers : Controllers)
    (hfits : ∀ name ∈ config.keys, name.utf8ByteSize ≤ capacity) :
    ∃ devices, loadDevices capacity config = some devices ∧
      ∃ descriptors sceneIds,
        (descriptors.Perm config.descriptors ∧
          descriptors.Pairwise fun a b => a.sortKey < b.sortKey) ∧
        (sceneIds.Perm scenes.keys ∧ sceneIds.Pairwise fun a b => a.sortKey < b.sortKey) ∧
        ∀ as st, (tableCalls env).run (tableInitial devices controllers) as = some st →
          (∀ id, st.shared.app.devices.lookup id = (config.lookup id.name).map fun c =>
            ⟨id, c.deviceType,
              ((lastUpdate id st.shared.stored).map UpdateNotification.newState).getD .unknown,
              c.controller⟩) ∧
          ∀ (sort : CatalogSort) (devices' : Devices) (scenes' : ScenesConfig),
            devices'.entries.Perm st.shared.app.devices.entries →
            scenes'.entries.Perm scenes.entries →
              catalog sort scenes' { st.shared.app with devices := devices' } =
                .catalog descriptors sceneIds := by
  obtain ⟨devices, hload⟩ := loadDevices_of_fits hfits
  -- Both catalogs are sorted once, by any sort of the names
  let sorted := SortUnstable.mergeSort DeviceDescriptor.sortKey
  let sortedScenes := SortUnstable.mergeSort SceneId.sortKey
  refine ⟨devices, hload, sorted.sort config.descriptors, sortedScenes.sort scenes.keys,
    ⟨sorted.perm _, sorted.sort_strict config.descriptors_nodup⟩,
    ⟨sortedScenes.perm _, sortedScenes.sort_strict (ScenesConfig.sortKeys_nodup scenes)⟩,
    fun as st hrun => ?_⟩
  -- The table of a run is that of the configuration, with the last state that was stored
  have hstores := tableCalls_stores (loadDevices_keyed hload) hrun
  have htable : ∀ id, st.shared.app.devices.lookup id = (config.lookup id.name).map fun c =>
      ⟨id, c.deviceType,
        ((lastUpdate id st.shared.stored).map UpdateNotification.newState).getD .unknown,
        c.controller⟩ := by
    intro id
    rw [hstores id, loadDevices_lookup hload, Option.map_map]
    rfl
  -- Whatever order the entries are read in, the sorted lists are the same
  refine ⟨htable, fun sort devices' scenes' hd hs => ?_⟩
  apply catalog_eq _ sort ⟨sorted, sortedScenes⟩ hd hs
  intro id
  rw [htable id, Option.map_map]
  rfl

end Catalog

end Devicectrl

/-! ## A switch that reports -/

namespace Devicectrl.TableCall.Demo

def lamp : DeviceId := ⟨"lamp"⟩

/-- A switch and a light are configured. -/
def config : DevicesConfig :=
  AList.insert "lamp" ⟨.switch, .simple ⟨⟨[7]⟩⟩⟩
    (AList.insert "desk" ⟨.dimmableLight, .govee ⟨1⟩⟩ ∅)

def devices : Devices :=
  AList.insert ⟨"desk"⟩ ⟨⟨"desk"⟩, .dimmableLight, .unknown, .govee ⟨1⟩⟩
    (AList.insert lamp ⟨lamp, .switch, .unknown, .simple ⟨⟨[7]⟩⟩⟩ ∅)

def scenes : ScenesConfig :=
  AList.insert ⟨"evening"⟩ [⟨lamp, .power .on⟩] ∅

def controllers : Controllers := ⟨true, false, false, true⟩

/-- Nothing is received over TLS or UDP. -/
def env : IncomingEnv where
  krypton :=
    { readTls _ := .error ["tls"]
      accept _ := .error ["tls"]
      deviceIdFrom _ := none
      certFromPem _ := .error "pem"
      addRoot _ := .error "pem"
      buildVerifier _ := .error "pem"
      keyFromPem _ := .error "pem"
      withSingleCert _ _ := .error "pem"
      fromSlice _ := .error ["EOF while parsing a value"]
      toVec _ := .error ["unsupported"] }
  tplink _ := .error ["EOF while parsing a value"]
  govee := ⟨fun _ => .error ["EOF while parsing a value"], fun props value => ⟨props, value⟩,
    fun _ state => state.value⟩

/-- The lamp reports a state. -/
def reports (newState : DeviceState) : List (System.Act Task TableMessage TableLabel) :=
  [.spawn (.incoming (.simple lamp (.updateNotification ⟨lamp, true, newState⟩))),
    .step 0 .process, .step 0 .process]

end Devicectrl.TableCall.Demo

namespace Devicectrl

open TableCall.Demo

/-- The table has the state that the lamp has reported. -/
theorem deviceTable_run_demo :
    ∃ st, (tableCalls env).run (tableInitial devices controllers) (reports (.switch ⟨.on⟩)) =
        some st ∧
      st.shared.app.devices.lookup lamp =
        some ⟨lamp, .switch, .switch ⟨.on⟩, .simple ⟨⟨[7]⟩⟩⟩ := by
  have hrun : ∃ st,
      (tableCalls env).run (tableInitial devices controllers) (reports (.switch ⟨.on⟩)) = some st ∧
        st.shared.stored = [⟨lamp, true, .switch ⟨.on⟩⟩] := ⟨_, rfl, rfl⟩
  obtain ⟨st, hst, hstored⟩ := hrun
  obtain ⟨devices', hload, _, _, -, -, hruns⟩ := deviceTable_run env 64 config scenes controllers
    (by decide)
  -- The table is the one that was loaded
  obtain rfl : devices' = devices := Option.some.inj (hload.symm.trans rfl)
  refine ⟨st, hst, ?_⟩
  rw [(hruns _ st hst).1 lamp, hstored]
  rfl

end Devicectrl
