import Devicectrl.Native.AppState

/-!
# Dispatch

`process_update_request` and `process_update_notification` of `devices/dispatch.rs`, each
cut where it releases a lock or awaits: other tasks run between the parts.
-/

namespace Devicectrl

/-- The first half of `process_update_request`: the device is looked up and the hook is
sent. Its second half is `Controllers.dispatchUpdate` on the device. -/
def beginUpdateRequest (request : UpdateRequest) (app : AppState) :
    Except Error (Device × AppState) :=
  match app.devices.lookup request.deviceId with
  | none => .error ["Could not find device id!"]
  | some device =>
    match app.hooks.sender.send (.deviceUpdateDispatch request) with
    | none => .error ["failed to send update request hook", "channel closed"]
    | some sender => .ok (device, { app with hooks := { app.hooks with sender } })

/-- The first half of `process_update_notification`: the state is stored, under the write
lock. -/
def storeNotification (update : UpdateNotification) (app : AppState) : Except Error AppState :=
  match app.devices.lookup update.deviceId with
  | none => .error ["Could not find device id!"]
  | some device =>
    .ok { app with
      devices := app.devices.replace update.deviceId { device with state := update.newState } }

/-- The second half of `process_update_notification`: the hook is sent, after the lock has
been released. -/
def sendNotificationHook (update : UpdateNotification) (app : AppState) : Except Error AppState :=
  match app.hooks.sender.send (.deviceStateUpdate update) with
  | none => .error ["failed to send update notification hook", "channel closed"]
  | some sender => .ok { app with hooks := { app.hooks with sender } }

/-- A call of `process_update_notification`, by the part that runs next. -/
inductive NotificationCall where
  | store (update : UpdateNotification)
  | sendHook (update : UpdateNotification)
  deriving DecidableEq

/-- What the next part of a call stores. -/
def NotificationCall.stores : NotificationCall → List UpdateNotification
  | .store update => [update]
  | .sendHook _ => []

/-- What the next part of a call sends the hook of. -/
def NotificationCall.hooks : NotificationCall → List UpdateNotification
  | .store _ => []
  | .sendHook update => [update]

/-- One part of `process_update_notification`: the call goes on or returns. -/
def processUpdateNotification (app : AppState) :
    NotificationCall → AppState × (NotificationCall ⊕ Except Error Unit)
  | .store update =>
    match storeNotification update app with
    | .error e => (app, .inr (.error e))
    -- The block that holds the write guard ends here
    | .ok app' => (app', .inl (.sendHook update))
  | .sendHook update =>
    match sendNotificationHook update app with
    | .error e => (app, .inr (.error e))
    | .ok app' => (app', .inr (.ok ()))

/-! ## Other tasks -/

/-- What the tasks outside a model do to the state they share with it. -/
inductive Task where
  | storeNotification (update : UpdateNotification)
  | sendHook (hook : Hook)
  | subscribe
  | unsubscribe
  deriving DecidableEq

/-- The task needs the devices lock for writing. -/
def Task.isWriter : Task → Bool
  | .storeNotification _ => true
  | _ => false

/-- The hooks a task sends. -/
def Task.hooks : Task → List Hook
  | .sendHook hook => [hook]
  | _ => []

/-- A task's step. It subscribes by `resubscribe` on the receiver in `AppState.hooks`, which
is never dropped, so `unsubscribe` is the end of a receiver other than that one. -/
def Task.run (app : AppState) : Task → Option AppState
  | .storeNotification update =>
    match Devicectrl.storeNotification update app with
    -- The device is unknown: nothing is stored
    | .error _ => some app
    | .ok app' => some app'
  | .sendHook hook =>
    match app.hooks.sender.send hook with
    | none => some app
    | some sender => some { app with hooks := { app.hooks with sender } }
  | .subscribe =>
    if 0 < app.hooks.sender.receivers then
      some { app with hooks := { app.hooks with sender := app.hooks.sender.resubscribe.1 } }
    else none
  | .unsubscribe =>
    if 1 < app.hooks.sender.receivers then
      some { app with hooks := { app.hooks with sender := app.hooks.sender.dropReceiver } }
    else none

/-! ## What the dispatch functions leave alone -/

/-- Two states of the server that differ at most in the stored device states, in the hooks
that were sent and in who else receives them. -/
structure AppState.SameConfig (app app' : AppState) : Prop where
  devices : ∀ id, (app'.devices.lookup id).map Device.config
    = (app.devices.lookup id).map Device.config
  receivers : 0 < app'.hooks.sender.receivers ↔ 0 < app.hooks.sender.receivers
  controllers : app'.controllers = app.controllers

namespace AppState.SameConfig

variable {app app' app'' : AppState}

/-- The configuration is the same as itself. -/
theorem refl (app : AppState) : SameConfig app app :=
  ⟨fun _ => rfl, Iff.rfl, rfl⟩

/-- Steps that keep the configuration keep it together. -/
theorem trans (h : SameConfig app app') (h' : SameConfig app' app'') : SameConfig app app'' :=
  ⟨fun id => (h'.devices id).trans (h.devices id), h'.receivers.trans h.receivers,
    h'.controllers.trans h.controllers⟩

/-- Both states have it. -/
theorem symm (h : SameConfig app app') : SameConfig app' app :=
  ⟨fun id => (h.devices id).symm, h.receivers.symm, h.controllers.symm⟩

/-- A device of one state is a device of the other, with the same configuration. -/
theorem lookup (h : SameConfig app app') {id : DeviceId} {device : Device}
    (hd : app.devices.lookup id = some device) :
    ∃ device', app'.devices.lookup id = some device' ∧ device'.config = device.config := by
  have hid := h.devices id
  rw [hd, Option.map_some] at hid
  exact Option.map_eq_some_iff.mp hid

/-- A device missing from one state is missing from the other. -/
theorem lookup_none (h : SameConfig app app') {id : DeviceId}
    (hd : app.devices.lookup id = none) : app'.devices.lookup id = none := by
  have hid := h.devices id
  rwa [hd, Option.map_none, Option.map_eq_none_iff] at hid

end AppState.SameConfig

/-! ## Storing a notification -/

section Store

variable {update : UpdateNotification} {app app' : AppState}

/-- A state is stored for a device that is found, and nothing else changes. -/
theorem storeNotification_ok (h : storeNotification update app = .ok app') :
    ∃ device, app.devices.lookup update.deviceId = some device ∧
      app' = { app with
        devices :=
          app.devices.replace update.deviceId { device with state := update.newState } } := by
  rw [storeNotification] at h
  split at h
  · exact nomatch h
  · rename_i device hd
    exact ⟨device, hd, (Except.ok.inj h).symm⟩

/-- The table after a store, key by key. -/
theorem storeNotification_lookup (h : storeNotification update app = .ok app') (id : DeviceId) :
    app'.devices.lookup id =
      if id = update.deviceId then
        (app.devices.lookup id).map fun device => { device with state := update.newState }
      else app.devices.lookup id := by
  obtain ⟨device, hd, rfl⟩ := storeNotification_ok h
  split
  · rename_i hid
    subst hid
    rw [AList.lookup_replace_self (AList.lookup_isSome.mp (by rw [hd]; rfl)), hd, Option.map_some]
  · rename_i hid
    exact AList.lookup_replace_ne hid

/-- A store touches no device but the one that reported. -/
theorem storeNotification_lookup_ne (h : storeNotification update app = .ok app') {id : DeviceId}
    (hid : id ≠ update.deviceId) : app'.devices.lookup id = app.devices.lookup id := by
  rw [storeNotification_lookup h, if_neg hid]

/-- A store leaves every device's entry to be found, with its configuration. -/
theorem storeNotification_sameConfig (h : storeNotification update app = .ok app') :
    app.SameConfig app' := by
  refine ⟨fun id => ?_, ?_, ?_⟩
  · rw [storeNotification_lookup h]
    split
    · cases app.devices.lookup id <;> rfl
    · rfl
  · obtain ⟨device, -, rfl⟩ := storeNotification_ok h
    exact Iff.rfl
  · obtain ⟨device, -, rfl⟩ := storeNotification_ok h
    rfl

/-- Storing a state tells nobody. -/
theorem storeNotification_hooks (h : storeNotification update app = .ok app') :
    app'.hooks = app.hooks := by
  obtain ⟨device, -, rfl⟩ := storeNotification_ok h
  rfl

/-- A notification for a configured device is always stored. -/
theorem storeNotification_of_lookup {device : Device}
    (hd : app.devices.lookup update.deviceId = some device) :
    ∃ app', storeNotification update app = .ok app' := by
  rw [storeNotification, hd]
  exact ⟨_, rfl⟩

/-- Only a notification for an unknown device is not stored. -/
theorem lookup_of_storeNotification_error {e : Error}
    (h : storeNotification update app = .error e) : app.devices.lookup update.deviceId = none := by
  cases hd : app.devices.lookup update.deviceId with
  | none => rfl
  | some device =>
    obtain ⟨app', hok⟩ := storeNotification_of_lookup hd
    rw [h] at hok
    cases hok

end Store

/-! ## Sending hooks -/

section SendHook

variable {update : UpdateNotification} {request : UpdateRequest} {device : Device}
  {app app' : AppState}

/-- A hook is sent to the hooks channel, and nothing else changes. -/
theorem sendNotificationHook_ok (h : sendNotificationHook update app = .ok app') :
    app'.devices = app.devices ∧ app'.controllers = app.controllers ∧
      app'.hooks.sender =
        { app.hooks.sender with sent := app.hooks.sender.sent ++ [.deviceStateUpdate update] } := by
  rw [sendNotificationHook] at h
  split at h
  · exact nomatch h
  · rename_i sender hs
    obtain ⟨rfl, -⟩ := Broadcast.Channel.send_eq_some hs
    cases h
    exact ⟨rfl, rfl, rfl⟩

/-- A hook changes no configuration. -/
theorem sendNotificationHook_sameConfig (h : sendNotificationHook update app = .ok app') :
    app.SameConfig app' := by
  obtain ⟨hd, hc, hs⟩ := sendNotificationHook_ok h
  exact ⟨fun id => by rw [hd], by rw [hs], hc⟩

/-- With a receiver on the hook channel the hook is always sent. -/
theorem sendNotificationHook_of_pos (h : 0 < app.hooks.sender.receivers) :
    ∃ app', sendNotificationHook update app = .ok app' := by
  rw [sendNotificationHook, Broadcast.Channel.send_of_pos h]
  exact ⟨_, rfl⟩

/-- Only without a receiver the hook is not sent. -/
theorem receivers_of_sendNotificationHook_error {e : Error}
    (h : sendNotificationHook update app = .error e) : app.hooks.sender.receivers = 0 := by
  by_contra hne
  obtain ⟨app', hok⟩ := @sendNotificationHook_of_pos update app (Nat.pos_of_ne_zero hne)
  rw [h] at hok
  cases hok

/-- An update request is announced for a device that is found. -/
theorem beginUpdateRequest_ok (h : beginUpdateRequest request app = .ok (device, app')) :
    app.devices.lookup request.deviceId = some device ∧ app'.devices = app.devices ∧
      app'.controllers = app.controllers ∧
      app'.hooks.sender =
        { app.hooks.sender with
          sent := app.hooks.sender.sent ++ [.deviceUpdateDispatch request] } := by
  rw [beginUpdateRequest] at h
  split at h
  · -- the device is looked up before anything is announced
    exact nomatch h
  · rename_i device' hd
    split at h
    · exact nomatch h
    · rename_i sender hs
      obtain ⟨rfl, -⟩ := Broadcast.Channel.send_eq_some hs
      cases h
      exact ⟨hd, rfl, rfl, rfl⟩

/-- With a receiver on the hook channel only an unknown device makes the first half of
`process_update_request` fail. -/
theorem beginUpdateRequest_of_lookup (hr : 0 < app.hooks.sender.receivers)
    (hd : app.devices.lookup request.deviceId = some device) :
    ∃ app', beginUpdateRequest request app = .ok (device, app') := by
  rw [beginUpdateRequest, hd]
  simp only [Broadcast.Channel.send_of_pos hr]
  exact ⟨_, rfl⟩

end SendHook

/-- A dispatch succeeds when the device's controller is enabled and its answer is `Ok`. -/
theorem Controllers.dispatchUpdate_ok_iff {app : AppState} {device : Device}
    {outcome : Except Error Unit} :
    Controllers.dispatchUpdate app device outcome = .ok () ↔
      (app.controllers.field device.controller).1 = true ∧ outcome = .ok () := by
  rw [Controllers.dispatchUpdate]
  split
  · rename_i name hf
    simp [hf]
  · rename_i name hf
    simp [hf]

/-! ## Steps of a call and of other tasks -/

section Steps

variable {app app' : AppState}

/-- A part of `process_update_notification`: it stores the state, sends the hook or fails. -/
inductive NotificationCall.Step (app : AppState) :
    NotificationCall → AppState → NotificationCall ⊕ Except Error Unit → Prop
  | store {update app'} (h : storeNotification update app = .ok app') :
      Step app (.store update) app' (.inl (.sendHook update))
  | failStore {update e} (h : storeNotification update app = .error e) :
      Step app (.store update) app (.inr (.error e))
  | sendHook {update app'} (h : sendNotificationHook update app = .ok app') :
      Step app (.sendHook update) app' (.inr (.ok ()))
  | failHook {update e} (h : sendNotificationHook update app = .error e) :
      Step app (.sendHook update) app (.inr (.error e))

/-- A notification is stored and then announced, or fails. -/
theorem processUpdateNotification_cases {call : NotificationCall}
    {r : NotificationCall ⊕ Except Error Unit}
    (h : processUpdateNotification app call = (app', r)) : call.Step app app' r := by
  cases call with
  | store update =>
    simp only [processUpdateNotification] at h
    split at h
    · rename_i e he
      cases h
      exact .failStore he
    · rename_i app₁ hs
      cases h
      exact .store hs
  | sendHook update =>
    simp only [processUpdateNotification] at h
    split at h
    · rename_i e he
      cases h
      exact .failHook he
    · rename_i app₁ hs
      cases h
      exact .sendHook hs

/-- No part of it changes the configuration. -/
theorem processUpdateNotification_sameConfig {call : NotificationCall}
    {r : NotificationCall ⊕ Except Error Unit}
    (h : processUpdateNotification app call = (app', r)) : app.SameConfig app' := by
  cases processUpdateNotification_cases h with
  | store hs => exact storeNotification_sameConfig hs
  | failStore he => exact .refl app
  | sendHook hs => exact sendNotificationHook_sameConfig hs
  | failHook he => exact .refl app

/-- How a call goes on depends on the configuration only. -/
theorem processUpdateNotification_congr (h : app.SameConfig app') (call : NotificationCall) :
    (processUpdateNotification app' call).2 = (processUpdateNotification app call).2 := by
  cases call with
  | store update =>
    simp only [processUpdateNotification, storeNotification]
    cases hd : app.devices.lookup update.deviceId with
    -- Whether a device is found is a matter of configuration
    | none => rw [h.lookup_none hd]
    | some device =>
      obtain ⟨device', hd', -⟩ := h.lookup hd
      rw [hd']
  | sendHook update =>
    simp only [processUpdateNotification, sendNotificationHook, Broadcast.Channel.send]
    have hr := h.receivers
    -- So is whether a hook has a receiver
    by_cases h0 : app.hooks.sender.receivers = 0
    · rw [if_pos h0, if_pos (by omega)]
    · rw [if_neg h0, if_neg (by omega)]

/-- What a task does to the state. -/
inductive Task.Step (app : AppState) : Task → AppState → Prop
  | store {update app'} (h : Devicectrl.storeNotification update app = .ok app') :
      Step app (.storeNotification update) app'
  | unknown {update e} (h : Devicectrl.storeNotification update app = .error e) :
      Step app (.storeNotification update) app
  | send {hook} (h : 0 < app.hooks.sender.receivers) :
      Step app (.sendHook hook)
        { app with hooks := { app.hooks with
          sender := { app.hooks.sender with sent := app.hooks.sender.sent ++ [hook] } } }
  | closed {hook} (h : app.hooks.sender.receivers = 0) : Step app (.sendHook hook) app
  | subscribe (h : 0 < app.hooks.sender.receivers) :
      Step app .subscribe
        { app with hooks := { app.hooks with sender := app.hooks.sender.resubscribe.1 } }
  | unsubscribe (h : 1 < app.hooks.sender.receivers) :
      Step app .unsubscribe
        { app with hooks := { app.hooks with sender := app.hooks.sender.dropReceiver } }

/-- What a task of the environment does. -/
theorem Task.run_cases {task : Task} (h : task.run app = some app') : task.Step app app' := by
  cases task with
  | storeNotification update =>
    simp only [Task.run] at h
    split at h
    · rename_i e he
      cases h
      exact .unknown he
    · rename_i app₁ hs
      cases h
      exact .store hs
  | sendHook hook =>
    simp only [Task.run] at h
    split at h
    · rename_i hs
      cases h
      exact .closed (Broadcast.Channel.send_eq_none hs)
    · rename_i sender hs
      obtain ⟨rfl, hr⟩ := Broadcast.Channel.send_eq_some hs
      cases h
      exact .send hr
  | subscribe =>
    simp only [Task.run] at h
    split at h
    · rename_i hr
      cases h
      exact .subscribe hr
    · cases h
  | unsubscribe =>
    simp only [Task.run] at h
    split at h
    · rename_i hr
      cases h
      exact .unsubscribe hr
    · cases h

/-- Other tasks leave the configuration alone. -/
theorem Task.run_sameConfig {task : Task} (h : task.run app = some app') :
    app.SameConfig app' := by
  cases Task.run_cases h with
  | store hs => exact storeNotification_sameConfig hs
  | unknown he => exact .refl app
  -- Only receivers may be added or taken away, and never the last one
  | send hr => exact ⟨fun _ => rfl, Iff.rfl, rfl⟩
  | closed hr => exact .refl app
  | subscribe hr =>
    refine ⟨fun _ => rfl, ?_, rfl⟩
    simp only [Broadcast.Channel.resubscribe]
    omega
  | unsubscribe hr =>
    refine ⟨fun _ => rfl, ?_, rfl⟩
    simp only [Broadcast.Channel.dropReceiver]
    omega

/-- Only what is stored changes the device table. -/
theorem Task.run_devices {task : Task} (hw : task.isWriter = false)
    (h : task.run app = some app') : app'.devices = app.devices := by
  cases Task.run_cases h with
  | store hs => cases hw
  | unknown he => cases hw
  | send hr => rfl
  | closed hr => rfl
  | subscribe hr => rfl
  | unsubscribe hr => rfl

/-- What a task adds to the hook channel are the hooks it sends, if there is a receiver. -/
theorem Task.run_hooks {task : Task} (h : task.run app = some app') :
    ∃ sent, app'.hooks.sender.sent = app.hooks.sender.sent ++ sent ∧
      app'.hooks.sender.capacity = app.hooks.sender.capacity ∧
      app'.hooks.sender.senders = app.hooks.sender.senders ∧
      (0 < app.hooks.sender.receivers → sent = task.hooks) := by
  cases Task.run_cases h with
  | store hs =>
    rw [storeNotification_hooks hs]
    exact ⟨[], (List.append_nil _).symm, rfl, rfl, fun _ => rfl⟩
  | unknown he => exact ⟨[], (List.append_nil _).symm, rfl, rfl, fun _ => rfl⟩
  | @send hook hr => exact ⟨[hook], rfl, rfl, rfl, fun _ => rfl⟩
  | closed hr =>
    -- The send on a closed channel fails, and the hook is lost
    refine ⟨[], (List.append_nil _).symm, rfl, rfl, fun hpos => ?_⟩
    omega
  | subscribe hr => exact ⟨[], (List.append_nil _).symm, rfl, rfl, fun _ => rfl⟩
  | unsubscribe hr => exact ⟨[], (List.append_nil _).symm, rfl, rfl, fun _ => rfl⟩

end Steps

end Devicectrl
