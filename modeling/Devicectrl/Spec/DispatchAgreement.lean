import Devicectrl.Native.NotificationCalls

/-!
# Stored states and the hooks that announce them

`process_update_notification` stores a state under the write lock and sends the hook after
the lock is released, so another call's store and hook fit in between.

## Key results

- `agree_run`: while each hook is sent before that of any later store for its device, the
  last hook of a device carries its stored state whenever no call is in progress
-/

namespace Devicectrl

variable {st st' : System.State Reports Reporter} {k k' : Reporter}

/-! ## Agreement -/

/-- The notification a hook carries. -/
def Hook.notification? : Hook → Option UpdateNotification
  | .deviceStateUpdate update => some update
  | _ => none

/-- The last `DeviceStateUpdate` hook of a device. -/
def lastHook (id : DeviceId) (sent : List Hook) : Option UpdateNotification :=
  ((sent.filterMap Hook.notification?).filter fun u => u.deviceId = id).getLast?

/-- The last hook of each device carries the device's stored state. -/
def Agree (app : AppState) : Prop :=
  ∀ id u, lastHook id app.hooks.sender.sent = some u →
    (app.devices.lookup id).map Device.state = some u.newState

/-- No call is in progress. -/
def Quiet (st : System.State Reports Reporter) : Prop :=
  ∀ k ∈ st.comps, k.isDone = true

instance (st : System.State Reports Reporter) : Decidable (Quiet st) :=
  inferInstanceAs (Decidable (∀ k ∈ st.comps, k.isDone = true))

/-- The action is not one by which a call sends its hook although a call that stored a state
of the same device later has already sent its own. -/
def InOrder (st : System.State Reports Reporter) : System.Act Task UpdateNotification Unit → Prop
  | .step i () => ∀ k ∈ st.comps[i]?, k.isSending = true → ∀ n ∈ k.stamp, ∀ k' ∈ st.comps,
      k'.isSent = true → k'.update.deviceId = k.update.deviceId → ∀ n' ∈ k'.stamp, n' < n
  | _ => True

instance (st : System.State Reports Reporter) (a : System.Act Task UpdateNotification Unit) :
    Decidable (InOrder st a) :=
  match a with
  | .step i () => inferInstanceAs <| Decidable <| ∀ k ∈ st.comps[i]?, k.isSending = true →
      ∀ n ∈ k.stamp, ∀ k' ∈ st.comps, k'.isSent = true →
        k'.update.deviceId = k.update.deviceId → ∀ n' ∈ k'.stamp, n' < n
  | .env _ => inferInstanceAs (Decidable True)
  | .spawn _ => inferInstanceAs (Decidable True)

/-- Every action of a run from `st` is in order. -/
abbrev RunInOrder (st : System.State Reports Reporter)
    (as : List (System.Act Task UpdateNotification Unit)) : Prop :=
  Lts.Along reporters.exec InOrder st as

/-! ## The last hook of a device -/

/-- Hooks of other devices do not change the last hook of a device. -/
theorem lastHook_append (id : DeviceId) (sent hooks : List Hook)
    (h : ∀ hook ∈ hooks, ∀ u, hook.notification? = some u → u.deviceId ≠ id) :
    lastHook id (sent ++ hooks) = lastHook id sent := by
  have hnone : (hooks.filterMap Hook.notification?).filter (fun u => u.deviceId = id) = [] := by
    rw [List.filter_eq_nil_iff]
    intro u hu
    obtain ⟨hook, hmem, hn⟩ := List.mem_filterMap.mp hu
    simpa using h hook hmem u hn
  rw [lastHook, List.filterMap_append, List.filter_append, hnone, List.append_nil, lastHook]

/-- A report that is announced is the last hook of its device. -/
theorem lastHook_concat (sent : List Hook) (u : UpdateNotification) :
    lastHook u.deviceId (sent ++ [.deviceStateUpdate u]) = some u := by
  simp [lastHook, Hook.notification?]

/-! ## What a call's step does -/

/-- A step of a call stores its state, sends its hook or fails. -/
inductive Reporter.Step (server : Reports) (k : Reporter) : Reports → Reporter → Prop
  | store {n app} (hc : k.call = .inl (.store n)) (h : storeNotification n server.app = .ok app) :
      Step server k ⟨app, server.clock + 1⟩
        { k with call := .inl (.sendHook n), stamp := some server.clock }
  | failStore {n e} (hc : k.call = .inl (.store n))
      (h : storeNotification n server.app = .error e) :
      Step server k ⟨server.app, server.clock + 1⟩ { k with call := .inr (.error e) }
  | sendHook {n app} (hc : k.call = .inl (.sendHook n))
      (h : sendNotificationHook n server.app = .ok app) :
      Step server k ⟨app, server.clock + 1⟩ { k with call := .inr (.ok ()) }
  | failHook {n e} (hc : k.call = .inl (.sendHook n))
      (h : sendNotificationHook n server.app = .error e) :
      Step server k ⟨server.app, server.clock + 1⟩ { k with call := .inr (.error e) }

theorem Reporter.step_cases {server server' : Reports} (h : k.step server = some (server', k')) :
    Step server k server' k' := by
  simp only [step] at h
  split at h
  · exact nomatch h
  · rename_i call hc
    -- By the part of the notification that is due
    cases hp : processUpdateNotification server.app call with
    | mk app r =>
      rw [hp] at h
      cases processUpdateNotification_cases hp with
      | store hn =>
        cases h
        exact .store hc hn
      | failStore hn =>
        cases h
        exact .failStore hc hn
      | sendHook hn =>
        cases h
        exact .sendHook hc hn
      | failHook hn =>
        cases h
        exact .failHook hc hn

/-! ## The invariant -/

/-- What a call is about to do, it does for its own notification; it has a stamp once it has
stored, it is in the past, and then only the hook can remain. -/
structure Reporter.WellFormed (server : Reports) (k : Reporter) : Prop where
  store : ∀ n, k.call = .inl (.store n) → n = k.update ∧ k.stamp = none
  sendHook : ∀ n, k.call = .inl (.sendHook n) → n = k.update ∧ k.stamp.isSome = true
  failed : ∀ e, k.call = .inr (.error e) → k.stamp = none
  past : ∀ n, k.stamp = some n → n < server.clock

/-- `k` stored its state at `n`, and no call stored one of the same device later. -/
def LastStore (comps : List Reporter) (k : Reporter) (n : Nat) : Prop :=
  k.stamp = some n ∧ ∀ k' ∈ comps, ∀ n', k'.stamp = some n' →
    k'.update.deviceId = k.update.deviceId → n' ≤ n

/-- `k` sent its hook after storing at `n`, and no call that stored a state of the same device
later has sent its own. -/
def LastSent (comps : List Reporter) (k : Reporter) (n : Nat) : Prop :=
  k.isSent = true ∧ k.stamp = some n ∧ ∀ k' ∈ comps, ∀ n', k'.isSent = true → k'.stamp = some n' →
    k'.update.deviceId = k.update.deviceId → n' ≤ n

/-- The last call to store a state of a device is the one whose state is stored, and the last
hook is that of the last such call among those that have sent theirs. -/
structure Ordered (st : System.State Reports Reporter) : Prop where
  receivers : 0 < st.shared.app.hooks.sender.receivers
  calls : ∀ k ∈ st.comps, k.WellFormed st.shared
  stored : ∀ k ∈ st.comps, ∀ n, LastStore st.comps k n →
    (st.shared.app.devices.lookup k.update.deviceId).map Device.state = some k.update.newState
  hooked : ∀ id u, lastHook id st.shared.app.hooks.sender.sent = some u →
    ∃ k ∈ st.comps, ∃ n, k.update = u ∧ u.deviceId = id ∧ LastSent st.comps k n

/-- No call has begun, so none is out of order. -/
theorem Ordered.initial (devices : Devices) (controllers : Controllers) :
    Ordered (reportersInitial devices controllers) :=
  ⟨Nat.zero_lt_one, fun _ hk => absurd hk List.not_mem_nil, fun _ hk => absurd hk List.not_mem_nil,
    fun _ _ h => nomatch h⟩

/-- A call that has its hook to send, or its state to store, has not sent its hook. -/
theorem Reporter.not_sent {call : NotificationCall} (hc : k.call = .inl call) :
    ¬k.isSent = true := by
  simp [isSent, hc]

/-- A call that does not step is stamped before the time that passes. -/
theorem Reporter.WellFormed.tick {server server' : Reports} (h : k.WellFormed server)
    (hclock : server'.clock = server.clock + 1) : k.WellFormed server' :=
  ⟨h.store, h.sendHook, h.failed, fun n hn => by
    have := h.past n hn
    omega⟩

/-- Other tasks store no state and send no `DeviceStateUpdate` hook. -/
theorem Task.run_foreign {task : Task} {app app' : AppState} (hf : task.isForeign = true)
    (h : task.run app = some app') :
    app'.devices = app.devices ∧ ∀ id, lastHook id app'.hooks.sender.sent =
      lastHook id app.hooks.sender.sent := by
  cases Task.run_cases h with
  | store hs => cases hf
  | unknown he => cases hf
  -- Only another hook is sent
  | @send hook hr =>
    refine ⟨rfl, fun id => lastHook_append id _ [hook] fun hook' hmem u hu => ?_⟩
    rw [List.mem_singleton] at hmem
    subst hmem
    cases hook' with
    | deviceStateUpdate update => cases hf
    | deviceUpdateDispatch request => cases hu
    | sceneActivate scene => cases hu
  | closed hr => exact ⟨rfl, fun _ => rfl⟩
  | subscribe hr => exact ⟨rfl, fun _ => rfl⟩
  | unsubscribe hr => exact ⟨rfl, fun _ => rfl⟩

/-! ## Steps of calls -/

section Steps

variable {server' : Reports} {i : Nat}

/-- The state of the calls after call `i` became `k'`. -/
def stepped (st : System.State Reports Reporter) (server' : Reports) (i : Nat) (k' : Reporter) :
    System.State Reports Reporter :=
  ⟨server', st.comps.set i k'⟩

/-- The last hook of a device stays that of the same call, if `k` was and is not the sender. -/
theorem LastSent.keep {k₁ : Reporter} {n : Nat} (k' : Reporter) (hk : st.comps[i]? = some k)
    (hnot : ¬k.isSent = true)
    (hnot' : k'.isSent = true → k'.update.deviceId ≠ k₁.update.deviceId)
    (hmem : k₁ ∈ st.comps) (h : LastSent st.comps k₁ n) :
    k₁ ∈ st.comps.set i k' ∧ LastSent (st.comps.set i k') k₁ n := by
  obtain ⟨hsent, hstamp, hlast⟩ := h
  refine ⟨?_, hsent, hstamp, fun k₂ hk₂ n₂ hs hn₂ hd => ?_⟩
  · rcases List.mem_set_or_eq (b := k') hk hmem with h | h
    · exact h
    · rw [h] at hsent; exact absurd hsent hnot
  · rcases List.mem_or_eq_of_mem_set hk₂ with hk₂ | rfl
    · exact hlast k₂ hk₂ n₂ hs hn₂ hd
    · exact absurd hd (hnot' hs)

/-- A call stores its state: it is the last to have stored one of its device. -/
theorem Ordered.store {n : UpdateNotification} {app : AppState} (ho : Ordered st)
    (hk : st.comps[i]? = some k) (hc : k.call = .inl (.store n))
    (h : storeNotification n st.shared.app = .ok app) :
    Ordered (stepped st ⟨app, st.shared.clock + 1⟩ i
      { k with call := .inl (.sendHook n), stamp := some st.shared.clock }) := by
  have hmem := List.mem_of_getElem? hk
  have hi := (List.getElem?_eq_some_iff.mp hk).1
  -- The call stores its own notification, for the first time
  obtain ⟨rfl, hstamp⟩ := (ho.calls k hmem).store n hc
  refine ⟨?_, fun k₁ hk₁ => ?_, fun k₁ hk₁ n₁ hlast => ?_, fun id u hu => ?_⟩
  · exact (storeNotification_sameConfig h).receivers.mpr ho.receivers
  · rcases List.mem_or_eq_of_mem_set hk₁ with hk₁ | rfl
    · exact (ho.calls k₁ hk₁).tick rfl
    · exact ⟨nofun, fun m hm => by cases hm; exact ⟨rfl, rfl⟩, nofun, fun m hm => by
        cases hm; exact Nat.lt_succ_self _⟩
  · rcases List.mem_or_eq_of_mem_set hk₁ with hk₁ | rfl
    · by_cases hd : k₁.update.deviceId = k.update.deviceId
      · -- the store just made is later
        have hle := hlast.2 _ (List.mem_set hi _) _ rfl hd.symm
        have hlt := (ho.calls k₁ hk₁).past n₁ hlast.1
        omega
      · show (app.devices.lookup k₁.update.deviceId).map Device.state = _
        rw [storeNotification_lookup_ne h hd]
        refine ho.stored k₁ hk₁ n₁ ⟨hlast.1, fun k₂ hk₂ n₂ hn₂ hd₂ => ?_⟩
        rcases List.mem_set_or_eq hk hk₂ with hk₂ | rfl
        · exact hlast.2 k₂ hk₂ n₂ hn₂ hd₂
        · exact absurd hd₂.symm hd
    · show (app.devices.lookup k.update.deviceId).map Device.state = _
      obtain ⟨device, hd, -⟩ := storeNotification_ok h
      rw [storeNotification_lookup h, if_pos rfl, hd]
      rfl
  · have hu' : lastHook id st.shared.app.hooks.sender.sent = some u := by
      rw [← storeNotification_hooks h]
      exact hu
    obtain ⟨k₁, hk₁, n₁, he, hd, hlast⟩ := ho.hooked id u hu'
    obtain ⟨hmem₁, hlast₁⟩ := hlast.keep
      { k with call := .inl (.sendHook k.update), stamp := some st.shared.clock } hk
      (Reporter.not_sent hc) nofun hk₁
    exact ⟨k₁, hmem₁, n₁, he, hd, hlast₁⟩

/-- The stores are the same after a call sent its hook or failed. -/
theorem LastStore.of_set {k₁ : Reporter} {n : Nat} (hk : st.comps[i]? = some k)
    (hupdate : k'.update = k.update) (hstamp : k'.stamp = k.stamp)
    (h : LastStore (st.comps.set i k') k₁ n) : LastStore st.comps k₁ n := by
  refine ⟨h.1, fun k₂ hk₂ n₂ hn₂ hd => ?_⟩
  rcases List.mem_set_or_eq (b := k') hk hk₂ with hk₂ | rfl
  · exact h.2 k₂ hk₂ n₂ hn₂ hd
  · have hi := (List.getElem?_eq_some_iff.mp hk).1
    exact h.2 k' (List.mem_set hi k') n₂ (by rw [hstamp, hn₂]) (by rw [hupdate, hd])

/-- The device states still come from the last stores. -/
theorem Ordered.stored_of_set {app : AppState} (ho : Ordered st) (hk : st.comps[i]? = some k)
    (hupdate : k'.update = k.update) (hstamp : k'.stamp = k.stamp)
    (hdevices : app.devices = st.shared.app.devices) :
    ∀ k₁ ∈ st.comps.set i k', ∀ n, LastStore (st.comps.set i k') k₁ n →
      (app.devices.lookup k₁.update.deviceId).map Device.state = some k₁.update.newState := by
  intro k₁ hk₁ n hlast
  have hlast' := hlast.of_set hk hupdate hstamp
  rw [hdevices]
  -- The calls are the same, and so are their stamps
  rcases List.mem_or_eq_of_mem_set hk₁ with hk₁ | rfl
  · exact ho.stored k₁ hk₁ n hlast'
  · have hmem := List.mem_of_getElem? hk
    rw [hupdate]
    refine ho.stored k hmem n ⟨by rw [← hstamp]; exact hlast'.1, fun k₂ hk₂ n₂ hn₂ hd => ?_⟩
    exact hlast'.2 k₂ hk₂ n₂ hn₂ (by rw [hupdate, hd])

/-- A call fails to store: it has no state and no hook to send. -/
theorem Ordered.failStore {n : UpdateNotification} {e : Error} (ho : Ordered st)
    (hk : st.comps[i]? = some k) (hc : k.call = .inl (.store n)) :
    Ordered
      (stepped st ⟨st.shared.app, st.shared.clock + 1⟩ i { k with call := .inr (.error e) }) := by
  -- A store that fails has no stamp, so no hook counts on it
  have hmem := List.mem_of_getElem? hk
  obtain ⟨-, hstamp⟩ := (ho.calls k hmem).store n hc
  refine ⟨ho.receivers, fun k₁ hk₁ => ?_, ho.stored_of_set hk rfl rfl rfl, fun id u hu => ?_⟩
  · rcases List.mem_or_eq_of_mem_set hk₁ with hk₁ | rfl
    · exact (ho.calls k₁ hk₁).tick rfl
    · exact ⟨nofun, nofun, fun _ _ => hstamp, fun m hm => by
        rw [hstamp] at hm; exact nomatch hm⟩
  · -- the last hook of a device is still that of a call that has sent
    obtain ⟨k₁, hk₁, n₁, he, hd, hlast⟩ := ho.hooked id u hu
    obtain ⟨hmem₁, hlast₁⟩ := hlast.keep { k with call := .inr (.error e) } hk
      (Reporter.not_sent hc) nofun hk₁
    exact ⟨k₁, hmem₁, n₁, he, hd, hlast₁⟩

/-- A call sends its hook, in order: no later store has had its hook sent. -/
theorem Ordered.sendHook {n : UpdateNotification} {app : AppState} (ho : Ordered st)
    (hk : st.comps[i]? = some k) (hc : k.call = .inl (.sendHook n))
    (h : sendNotificationHook n st.shared.app = .ok app) (hin : InOrder st (.step i ())) :
    Ordered (stepped st ⟨app, st.shared.clock + 1⟩ i { k with call := .inr (.ok ()) }) := by
  have hmem := List.mem_of_getElem? hk
  have hi := (List.getElem?_eq_some_iff.mp hk).1
  obtain ⟨rfl, hsome⟩ := (ho.calls k hmem).sendHook n hc
  -- The call has stored before it sends, and its stamp says when
  obtain ⟨n, hstamp⟩ := Option.isSome_iff_exists.mp hsome
  obtain ⟨hdevices, -, hsender⟩ := sendNotificationHook_ok h
  refine ⟨?_, fun k₁ hk₁ => ?_, ho.stored_of_set hk rfl rfl hdevices, fun id u hu => ?_⟩
  · exact (sendNotificationHook_sameConfig h).receivers.mpr ho.receivers
  · rcases List.mem_or_eq_of_mem_set hk₁ with hk₁ | rfl
    · exact (ho.calls k₁ hk₁).tick rfl
    · exact ⟨nofun, nofun, nofun, fun m hm => Nat.lt_succ_of_lt ((ho.calls k hmem).past m hm)⟩
  · have hu' : lastHook id (st.shared.app.hooks.sender.sent ++ [.deviceStateUpdate k.update]) =
        some u := by
      rw [← hu]
      show _ = lastHook id app.hooks.sender.sent
      rw [hsender]
    by_cases hd : k.update.deviceId = id
    · -- the hook that is sent is the last one of its device
      subst hd
      rw [lastHook_concat] at hu'
      cases hu'
      refine ⟨_, List.mem_set hi _, n, rfl, rfl, rfl, hstamp, fun k₂ hk₂ n₂ hs hn₂ hd₂ => ?_⟩
      rcases List.mem_or_eq_of_mem_set hk₂ with hk₂ | rfl
      · -- the hook is in order: a call that sent its own has not stored later
        have hlt := hin k hk (by simp [Reporter.isSending, hc]) n hstamp k₂ hk₂ hs hd₂ n₂ hn₂
        omega
      · have hn : k.stamp = some n₂ := hn₂
        rw [hstamp] at hn
        cases hn
        exact Nat.le_refl _
    · rw [lastHook_append id _ [.deviceStateUpdate k.update] fun hook hmem₁ u₁ hu₁ => by
        rw [List.mem_singleton] at hmem₁
        subst hmem₁
        cases hu₁
        exact hd] at hu'
      -- The last hook of another device is the one it was
      obtain ⟨k₁, hk₁, n₁, he, hd₁, hlast⟩ := ho.hooked id u hu'
      obtain ⟨hmem₁, hlast₁⟩ := hlast.keep { k with call := .inr (.ok ()) } hk
        (Reporter.not_sent hc) (fun _ hd₂ => hd (by rw [he, hd₁] at hd₂; exact hd₂)) hk₁
      exact ⟨k₁, hmem₁, n₁, he, hd₁, hlast₁⟩

/-- A task that reports no state leaves the states and the hooks alone. -/
theorem Ordered.env {task : Task} (ho : Ordered st)
    (h : reporters.exec st (.env task) = some st') : Ordered st' := by
  obtain ⟨he, hcomps⟩ := System.exec_env h
  simp only [reporters] at he
  split at he
  · -- the task is a foreign one, and leaves table and hooks of reports alone
    rename_i hf
    obtain ⟨app, happ, hsh⟩ := Option.map_eq_some_iff.mp he
    obtain ⟨hdevices, hhook⟩ := Task.run_foreign hf happ
    refine ⟨?_, ?_, ?_, fun id u hu => ?_⟩
    · rw [← hsh]
      exact (Task.run_sameConfig happ).receivers.mpr ho.receivers
    · rw [hcomps, ← hsh]
      exact fun k hk => ⟨(ho.calls k hk).store, (ho.calls k hk).sendHook, (ho.calls k hk).failed,
        (ho.calls k hk).past⟩
    · rw [hcomps, ← hsh]
      simp only [hdevices]
      exact ho.stored
    · rw [← hsh] at hu
      simp only [hhook] at hu
      rw [hcomps]
      exact ho.hooked id u hu
  · exact nomatch he

/-- A call starts. It has neither stored nor sent anything. -/
theorem Ordered.start {update : UpdateNotification} (ho : Ordered st)
    (h : reporters.exec st (.spawn update) = some st') : Ordered st' := by
  obtain ⟨k, he, hcomps⟩ := System.exec_spawn h
  have hstart : some (st.shared, Reporter.start update) = some (st'.shared, k) := he
  obtain ⟨hsh, rfl⟩ := Prod.mk.inj (Option.some.inj hstart)
  obtain rfl : st' = ⟨st.shared, st.comps ++ [Reporter.start update]⟩ :=
    System.State.ext hsh.symm hcomps
  -- A call is one of those before, or has just begun
  have hnew : ∀ k ∈ st.comps ++ [Reporter.start update], k ∈ st.comps ∨ k = .start update := by
    intro k hk
    rwa [List.mem_append, List.mem_singleton] at hk
  refine ⟨ho.receivers, fun k hk => ?_, fun k hk n hlast => ?_, fun id u hu => ?_⟩
  · rcases hnew k hk with hk | rfl
    · exact ho.calls k hk
    · -- it has neither stored nor sent anything
      exact ⟨fun n hn => by cases hn; exact ⟨rfl, rfl⟩, nofun, nofun, nofun⟩
  · rcases hnew k hk with hk | rfl
    · exact ho.stored k hk n
        ⟨hlast.1, fun k₂ hk₂ => hlast.2 k₂ (List.mem_append_left _ hk₂)⟩
    · exact nomatch hlast.1
  · obtain ⟨k, hk, n, he, hd, hsent, hstamp, hlast⟩ := ho.hooked id u hu
    refine ⟨k, List.mem_append_left _ hk, n, he, hd, hsent, hstamp, fun k₂ hk₂ n₂ hs => ?_⟩
    rcases hnew k₂ hk₂ with hk₂ | rfl
    · exact hlast k₂ hk₂ n₂ hs
    · exact nomatch hs

end Steps

/-! ## Runs -/

/-- An action that is in order keeps the invariant. -/
theorem Ordered.exec {a : System.Act Task UpdateNotification Unit} (ho : Ordered st)
    (h : reporters.exec st a = some st') (hin : InOrder st a) : Ordered st' := by
  cases a with
  | env task => exact ho.env h
  | spawn update => exact ho.start h
  | step i l =>
    obtain ⟨k, k', hk, hstep, hcomps⟩ := System.exec_step h
    have hst : st' = stepped st st'.shared i k' := System.State.ext rfl hcomps
    have hcases : k.Step st.shared st'.shared k' := Reporter.step_cases hstep
    rw [hst]
    generalize st'.shared = server' at hcases
    cases hcases with
    | store hc hn => exact ho.store hk hc hn
    | failStore hc hn => exact ho.failStore hk hc
    | sendHook hc hn => exact ho.sendHook hk hc hn hin
    | failHook hc hn =>
      -- The receiver in `AppState.hooks` is still there
      obtain ⟨app₁, happ⟩ := sendNotificationHook_of_pos ho.receivers
      rw [happ] at hn
      exact nomatch hn

/-- With every hook in order the invariant gives agreement, once all calls have returned. -/
theorem Ordered.agree (ho : Ordered st) (hq : Quiet st) : Agree st.shared.app := by
  intro id u hu
  obtain ⟨k, hk, n, rfl, rfl, hsent, hstamp, hlast⟩ := ho.hooked id u hu
  refine ho.stored k hk n ⟨hstamp, fun k₂ hk₂ n₂ hn₂ hd => ?_⟩
  -- A call that has stored its state and returned has sent its hook
  have hsent₂ : k₂.isSent = true := by
    have hdone := hq k₂ hk₂
    cases hc : k₂.call with
    | inl call => simp [Reporter.isDone, hc] at hdone
    | inr r =>
      cases r with
      | ok _ => simp [Reporter.isSent, hc]
      | error e =>
        rw [(ho.calls k₂ hk₂).failed e hc] at hn₂
        exact nomatch hn₂
  exact hlast k₂ hk₂ n₂ hsent₂ hn₂ hd

/-- In every run whose hooks are sent in order, the last hook of each device carries its
stored state whenever no call is in progress. -/
theorem agree_run (devices : Devices) (controllers : Controllers)
    (as : List (System.Act Task UpdateNotification Unit)) (st : System.State Reports Reporter)
    (hin : RunInOrder (reportersInitial devices controllers) as)
    (h : reporters.run (reportersInitial devices controllers) as = some st) (hq : Quiet st) :
    Agree st.shared.app := by
  have hstep : ∀ s a s', Ordered s → InOrder s a → reporters.exec s a = some s' → Ordered s' :=
    fun _ _ _ ho hin h => ho.exec h hin
  have ho := Lts.run_invariant_along _ hstep hin h (.initial devices controllers)
  exact ho.agree hq

end Devicectrl

/-! ## A device that is reported twice at the same time -/

namespace Devicectrl.Reporter.Demo

def lamp : DeviceId := ⟨"lamp"⟩

def controllers : Controllers := ⟨true, false, false, false⟩

def devices : Devices :=
  AList.insert lamp ⟨lamp, .switch, .unknown, .simple ⟨⟨[7]⟩⟩⟩ ∅

/-- The lamp reports its power. -/
def report (power : SwitchPower) : UpdateNotification :=
  ⟨lamp, true, .switch ⟨power⟩⟩

/-- Two reports of the lamp are processed, and the first is stored. -/
def calls : List (System.Act Task UpdateNotification Unit) :=
  [.spawn (report .on), .spawn (report .off), .step 0 ()]

/-- The first call stores and sends its hook before the second does either. -/
def inOrder : List (System.Act Task UpdateNotification Unit) :=
  calls ++ [.step 1 (), .step 0 (), .step 1 ()]

/-- The second call stores and sends its hook between the two parts of the first. -/
def overtaken : List (System.Act Task UpdateNotification Unit) :=
  calls ++ [.step 1 (), .step 1 (), .step 0 ()]

end Devicectrl.Reporter.Demo

namespace Devicectrl

open Reporter.Demo

/-- Calls in order leave table and hooks in agreement. -/
theorem agree_run_demo :
    ∃ st, reporters.run (reportersInitial devices controllers) inOrder = some st ∧
      Agree st.shared.app :=
  ⟨_, rfl, agree_run devices controllers inOrder _ (by decide) rfl (by decide)⟩

/-- The hook of the second call goes first: the last hook says on, the stored state is off. -/
theorem not_agree : ¬∀ as st, reporters.run (reportersInitial devices controllers) as = some st →
    Quiet st → Agree st.shared.app := by
  intro h
  have hq := h overtaken _ rfl (by decide) lamp (report .on) rfl
  exact nomatch hq

end Devicectrl
