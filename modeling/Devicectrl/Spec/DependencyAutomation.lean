import Devicectrl.Native.Dependencies

/-!
# What the dependency automation does

The inversion lemma of `start_automation`, the state it shares, and when a step of it does
not end it.

## Key results

- `startAutomation_cases`: what a step of the automation can do
- `Step.succeeds_iff`: a step ends the automation exactly when it lags, asks for an unknown
  device or its dispatch fails
-/

namespace Devicectrl.Dependencies

variable {config : DependencyAutomationConfig} {app app' : AppState} {k k' : Automation}
  {l : Label}

/-! ## Steps -/

/-- A step of the automation. -/
inductive Step (config : DependencyAutomationConfig) (app : AppState) :
    Automation → Label → AppState → Automation → Prop
  | subscribe : Step config app .spawned .poll
      { app with hooks := { app.hooks with sender := app.hooks.sender.resubscribe.1 } }
      (.receiving app.hooks.sender.resubscribe.2)
  | lag {rx rx' e} (h : app.hooks.sender.recv rx = some (.error e, rx')) :
      Step config app (.receiving rx) .poll (leave app [e.message]).1 (leave app [e.message]).2
  | ignore {rx rx' hook} (h : app.hooks.sender.recv rx = some (.ok hook, rx'))
      (ho : onEvent config hook = none) :
      Step config app (.receiving rx) .poll app (.receiving rx')
  | answer {rx rx' hook request context} (h : app.hooks.sender.recv rx = some (.ok hook, rx'))
      (ho : onEvent config hook = some (request, context)) :
      Step config app (.receiving rx) .poll app (.requesting rx' request context)
  | refuse {rx request context e} (h : beginUpdateRequest request app = .error e) :
      Step config app (.requesting rx request context) .poll
        (leave app (context :: e)).1 (leave app (context :: e)).2
  | request {rx request context device app'}
      (h : beginUpdateRequest request app = .ok (device, app')) :
      Step config app (.requesting rx request context) .poll app'
        (.dispatching rx device context)
  | fail {rx device context outcome e}
      (h : Controllers.dispatchUpdate app device outcome = .error e) :
      Step config app (.dispatching rx device context) (.dispatched outcome)
        (leave app (context :: e)).1 (leave app (context :: e)).2
  | succeed {rx device context outcome}
      (h : Controllers.dispatchUpdate app device outcome = .ok ()) :
      Step config app (.dispatching rx device context) (.dispatched outcome) app
        (.receiving rx)

/-- What a step of the automation does, by where it was. -/
theorem startAutomation_cases (h : startAutomation config app k l = some (app', k')) :
    Step config app k l app' k' := by
  cases k with
  | spawned =>
    cases l with
    | poll => cases h; exact .subscribe
    | dispatched outcome => exact nomatch h
  | receiving rx =>
    cases l with
    | poll =>
      -- `recv().await?`: a lagged receiver ends the automation, an empty channel makes it wait
      simp only [startAutomation] at h
      split at h
      · exact nomatch h
      · rename_i e rx' hr
        cases h
        exact .lag hr
      · rename_i hook rx' hr
        -- Of the hooks that come only some call for a request
        split at h
        · rename_i ho
          cases h
          exact .ignore hr ho
        · rename_i request context ho
          cases h
          exact .answer hr ho
    | dispatched outcome => exact nomatch h
  | requesting rx request context =>
    cases l with
    | poll =>
      -- The request is announced before it is dispatched
      simp only [startAutomation] at h
      cases hb : beginUpdateRequest request app with
      | error e =>
        simp only [hb, withContext] at h
        cases h
        exact .refuse hb
      | ok p =>
        simp only [hb, withContext] at h
        cases h
        exact .request hb
    | dispatched outcome => exact nomatch h
  | dispatching rx device context =>
    cases l with
    | poll => exact nomatch h
    | dispatched outcome =>
      -- `process_update_request(..).await?`: a failure of the dispatch ends the automation
      simp only [startAutomation] at h
      cases hd : Controllers.dispatchUpdate app device outcome with
      | error e =>
        simp only [hd, withContext] at h
        cases h
        exact .fail hd
      | ok u =>
        simp only [hd, withContext] at h
        cases h
        exact .succeed hd
  | returned e => exact nomatch h

/-! ## The state the automation shares -/

/-- The hook channel as the automation finds it. -/
structure WellFormed (app : AppState) (k : Automation) : Prop where
  capacity : app.hooks.sender.capacity = 16
  senders : app.hooks.sender.senders = 1
  receivers : (∀ e, k ≠ .returned e) → 0 < app.hooks.sender.receivers
  receiver : ∀ rx, k.receiver? = some rx → rx.next ≤ app.hooks.sender.sent.length

/-- The automation starts well formed. -/
theorem WellFormed.initial (devices : Devices) (controllers : Controllers) :
    WellFormed (.new devices controllers) .spawned :=
  ⟨rfl, rfl, fun _ => Nat.zero_lt_one, nofun⟩

/-- It is well formed when it leaves. -/
theorem WellFormed.leave {e : Error} (h : WellFormed app k) :
    WellFormed (leave app e).1 (leave app e).2 :=
  ⟨h.capacity, h.senders, fun hne => absurd rfl (hne e), nofun⟩

/-- Every step of its own keeps it well formed. -/
theorem Step.wellFormed (h : Step config app k l app' k') (hw : WellFormed app k) :
    WellFormed app' k' := by
  cases h with
  | subscribe =>
    exact ⟨hw.capacity, hw.senders, fun _ => Nat.succ_pos _, fun rx hrx => by
      cases hrx; exact Nat.le_refl _⟩
  | lag h => exact hw.leave
  | ignore h ho =>
    exact ⟨hw.capacity, hw.senders, fun _ => hw.receivers nofun, fun rx hrx => by
      cases hrx; exact Broadcast.Channel.recv_ok_next_le h⟩
  | answer h ho =>
    exact ⟨hw.capacity, hw.senders, fun _ => hw.receivers nofun, fun rx hrx => by
      cases hrx; exact Broadcast.Channel.recv_ok_next_le h⟩
  | refuse h => exact hw.leave
  | request h =>
    -- The hook of the request goes to the automation itself as well
    obtain ⟨-, -, -, hsender⟩ := beginUpdateRequest_ok h
    refine ⟨?_, ?_, fun _ => ?_, fun rx hrx => ?_⟩
    · rw [hsender]; exact hw.capacity
    · rw [hsender]; exact hw.senders
    · rw [hsender]; exact hw.receivers nofun
    · cases hrx
      have hle := hw.receiver _ rfl
      rw [hsender, List.length_append]
      omega
  | fail h => exact hw.leave
  | succeed h => exact ⟨hw.capacity, hw.senders, fun _ => hw.receivers nofun, hw.receiver⟩

/-- What other tasks do does not depend on the automation. -/
theorem runOther_eq {task : Task} (h : runOther app k task = some app') :
    task.run app = some app' := by
  simp only [runOther] at h
  split at h
  · exact nomatch h
  · exact h

/-- Other tasks keep the channel as the automation needs it. -/
theorem WellFormed.task {task : Task} (hw : WellFormed app k) (h : task.run app = some app') :
    WellFormed app' k := by
  obtain ⟨sent, hsent, hcapacity, hsenders, -⟩ := Task.run_hooks h
  refine ⟨hcapacity.trans hw.capacity, hsenders.trans hw.senders, fun hne => ?_, fun rx hrx => ?_⟩
  · exact (Task.run_sameConfig h).receivers.mpr (hw.receivers hne)
  · have hle := hw.receiver rx hrx
    rw [hsent, List.length_append]
    omega

/-! ## Success -/

/-- The automation is not more hooks behind than the channel holds, the device it asks for is
configured, and its dispatch succeeds. -/
def Succeeds (app : AppState) : Automation → Label → Prop
  | .receiving rx, .poll => (app.hooks.sender.unread rx).length ≤ 16
  | .requesting _ request _, .poll => (app.devices.lookup request.deviceId).isSome = true
  | .dispatching _ device _, .dispatched outcome =>
    (app.controllers.field device.controller).1 = true ∧ outcome = .ok ()
  | _, _ => True

instance (app : AppState) (k : Automation) (l : Label) : Decidable (Succeeds app k l) := by
  unfold Succeeds
  split <;> infer_instance

/-- A step of the automation ends it exactly when it does not succeed. -/
theorem Step.succeeds_iff (h : Step config app k l app' k') (hw : WellFormed app k) :
    Succeeds app k l ↔ ∀ e, k' ≠ .returned e := by
  cases h with
  | subscribe => exact ⟨fun _ => nofun, fun _ => trivial⟩
  | lag h =>
    refine ⟨fun hs => ?_, fun hne => absurd rfl (hne _)⟩
    exfalso
    rename_i e
    -- The process keeps a sender, so the receive can only lag
    cases e with
    | closed => exact Broadcast.Channel.recv_ne_closed (by rw [hw.senders]; decide) h
    | lagged n =>
      have hlag := Broadcast.Channel.recv_lagged h
      rw [hw.capacity] at hlag
      have hle : (app.hooks.sender.unread _).length ≤ 16 := hs
      omega
  | ignore h ho =>
    have hle := (Broadcast.Channel.recv_ok h).2.2.2
    rw [hw.capacity] at hle
    exact ⟨fun _ => nofun, fun _ => hle⟩
  | answer h ho =>
    have hle := (Broadcast.Channel.recv_ok h).2.2.2
    rw [hw.capacity] at hle
    exact ⟨fun _ => nofun, fun _ => hle⟩
  | refuse h =>
    refine ⟨fun hs => ?_, fun hne => absurd rfl (hne _)⟩
    obtain ⟨device, hd⟩ := Option.isSome_iff_exists.mp hs
    obtain ⟨app₁, hok⟩ := beginUpdateRequest_of_lookup (hw.receivers nofun) hd
    rw [hok] at h
    exact nomatch h
  | request h =>
    refine ⟨fun _ => nofun, fun _ => ?_⟩
    exact Option.isSome_iff_exists.mpr ⟨_, (beginUpdateRequest_ok h).1⟩
  | fail h =>
    refine ⟨fun hs => ?_, fun hne => absurd rfl (hne _)⟩
    rw [Controllers.dispatchUpdate_ok_iff.mpr hs] at h
    exact nomatch h
  | succeed h => exact ⟨fun _ => nofun, fun _ => Controllers.dispatchUpdate_ok_iff.mp h⟩

end Devicectrl.Dependencies
