import Mathlib.Algebra.Order.BigOperators.Group.List
import Devicectrl.Spec.DependencyOff
import Devicectrl.Spec.DependencyOn
import Devicectrl.Spec.StateTypes

/-!
# How a cascade multiplies

Each request that turns a device on reaches the automation twice: by the hook of its dispatch, and
by the hook of the report with which the device answers the command. Either makes it turn on the
device's dependency, so the requests double from one device of a chain to the next.

`Balance` is the account of one link of a chain: every request for the dependent is paid for twice,
by requests for the dependency and by what is still on its way to become one.

## Key results

- `Balance.exec`: an action of the plant keeps the account
- `amplification_run`: one request for the first device of a chain makes the automation ask at most
  `2 ^ i` times for device `i`, and exactly that often once everything is settled
-/

namespace Devicectrl

/-! ## Counting -/

namespace Dependencies

/-- How many of some hooks turn device `d` on. -/
def onCount (d : DeviceId) (hooks : List Hook) : Nat :=
  hooks.countP fun hook => turnsOn hook = some d

@[simp] theorem onCount_nil (d : DeviceId) : onCount d [] = 0 := rfl

/-- Hooks are counted one list after the other. -/
@[simp] theorem onCount_append (d : DeviceId) (hooks hooks' : List Hook) :
    onCount d (hooks ++ hooks') = onCount d hooks + onCount d hooks' :=
  List.countP_append

/-- The first hook counts apart from the rest. -/
theorem onCount_cons (d : DeviceId) (hook : Hook) (hooks : List Hook) :
    onCount d (hook :: hooks) = onCount d [hook] + onCount d hooks := by
  rw [← List.singleton_append, onCount_append]

/-- Hooks that do not turn the device on do not count. -/
theorem onCount_eq_zero {d : DeviceId} {hooks : List Hook}
    (h : ∀ hook ∈ hooks, turnsOn hook ≠ some d) : onCount d hooks = 0 := by
  apply List.countP_eq_zero.mpr
  intro hook hmem
  simpa using h hook hmem

/-- A hook that turns the device on counts once. -/
theorem onCount_singleton_of {d : DeviceId} {hook : Hook} (h : turnsOn hook = some d) :
    onCount d [hook] = 1 := by
  simp [onCount, h]

/-- Any other hook does not count. -/
theorem onCount_singleton_ne {d : DeviceId} {hook : Hook} (h : turnsOn hook ≠ some d) :
    onCount d [hook] = 0 := by
  simp [onCount, h]

/-- The hooks of some requests. -/
def dispatchHooks (requests : List UpdateRequest) : List Hook :=
  requests.map .deviceUpdateDispatch

@[simp] theorem dispatchHooks_nil : dispatchHooks [] = [] := rfl

/-- Requests are announced one after the other. -/
@[simp] theorem dispatchHooks_append (requests requests' : List UpdateRequest) :
    dispatchHooks (requests ++ requests') = dispatchHooks requests ++ dispatchHooks requests' :=
  List.map_append

/-- A request is announced by one hook. -/
@[simp] theorem dispatchHooks_singleton (request : UpdateRequest) :
    dispatchHooks [request] = [.deviceUpdateDispatch request] := rfl

/-- A request to turn a device on is counted by its hook. -/
theorem onCount_dispatchHooks (d : DeviceId) (requests : List UpdateRequest) :
    onCount d (dispatchHooks requests) = requests.count ⟨d, .power .on⟩ := by
  rw [onCount, dispatchHooks, List.countP_map, List.count]
  apply List.countP_congr
  intro request _
  simp [turnsOn_dispatch_iff]

/-- The hooks of reports. -/
def reportHooks (reports : List UpdateNotification) : List Hook :=
  reports.map .deviceStateUpdate

/-- Reports are announced one after the other. -/
@[simp] theorem reportHooks_append (reports reports' : List UpdateNotification) :
    reportHooks (reports ++ reports') = reportHooks reports ++ reportHooks reports' :=
  List.map_append

/-- The dispatches among some hooks. -/
def dispatches (hooks : List Hook) : List Hook :=
  hooks.filter fun hook => match hook with
    | .deviceUpdateDispatch _ => true
    | _ => false

/-- The announcements among hooks are those of each part. -/
@[simp] theorem dispatches_append (hooks hooks' : List Hook) :
    dispatches (hooks ++ hooks') = dispatches hooks ++ dispatches hooks' :=
  List.filter_append ..

end Dependencies

open Dependencies

/-! ## What is on its way -/

/-- The hooks that will follow from a call: the report that answers its command, or the
announcement of a state. -/
def TableCall.toCome : TableCall → List Hook
  | .request (.dispatching _ r) => [.deviceUpdateDispatch r]
  | .notification _ (.store update) => [.deviceStateUpdate update]
  | .notification _ (.sendHook update) => [.deviceStateUpdate update]
  | _ => []

/-- A call reports at most once. -/
theorem TableCall.report?_cases (call : TableCall) :
    call.report? = [] ∨ ∃ update, call.report? = [update] := by
  cases call with
  | notification source call =>
    cases call with
    | store update => exact .inr ⟨update, rfl⟩
    | sendHook update => exact .inl rfl
  | request call => exact .inl rfl
  | returned => exact .inl rfl

/-- The hooks that will follow from a command that the automation dispatches, after it has made
`requests`. -/
def Dependencies.Automation.toCome (requests : List UpdateRequest) : Automation → List Hook
  | .dispatching .. => dispatchHooks requests.getLast?.toList
  | _ => []

namespace Dependencies

variable {env : IncomingEnv} {config : DependencyAutomationConfig} {app app' : AppState}
  {k k' : Automation} {l : Label} {t t' : Table} {call call' : TableCall} {tl : TableLabel}
  {d d' : DeviceId}

/-- `d'` is the dependency of device `d` and of no other. -/
def Link (config : DependencyAutomationConfig) (d d' : DeviceId) : Prop :=
  ∀ a, dependency config a = some d' ↔ a = d

/-- The answer to a hook turns the dependency on exactly when the hook turns the dependent on. -/
theorem Link.answer (h : Link config d d') {hook : Hook} {request : UpdateRequest}
    {context : String} (ho : onEvent config hook = some (request, context)) :
    onCount d' [.deviceUpdateDispatch request] = onCount d [hook] := by
  -- A hook that turns `d` on is answered by one that turns `d'` on, and no other hook is
  by_cases hon : turnsOn hook = some d
  · have he := @onEvent_of_turnsOn config d hook hon
    rw [(h d).mpr rfl, ho] at he
    cases he
    rw [onCount_singleton_of hon, onCount_singleton_of rfl]
  · rw [onCount_singleton_ne hon, onCount_singleton_ne]
    intro hd'
    rw [turnsOn_dispatch_iff] at hd'
    subst hd'
    obtain ⟨a, ha, hdependency⟩ := turnsOn_of_onEvent ho
    exact hon (by rw [ha, (h a).mp hdependency])

/-- A hook without an answer does not turn the dependent on. -/
theorem Link.ignore (h : Link config d d') {hook : Hook} (ho : onEvent config hook = none) :
    onCount d [hook] = 0 := by
  apply onCount_singleton_ne
  intro hon
  rw [@onEvent_of_turnsOn config d hook hon, (h d).mpr rfl] at ho
  exact nomatch ho

/-- The account of a step of the automation: what it hears of is asked for, and a request is
heard of and then reported on. -/
theorem Step.balance (hlink : Link config d d') (h : Step config app k l app' k')
    (hw : WellFormed app k) (hne : ∀ e, k' ≠ .returned e) (requests : List UpdateRequest) :
    onCount d' (dispatchHooks k.request?.toList) + onCount d' (dispatchHooks k'.request?.toList) +
        onCount d (unread app' k') + onCount d (k'.toCome (requests ++ k.request?.toList)) +
        onCount d (dispatchHooks (k.commands requests app l)) +
        2 * onCount d (dispatches app.hooks.sender.sent) =
      onCount d' (dispatchHooks k.request?.toList) + onCount d (unread app k) +
        onCount d (k.toCome requests) + 2 * onCount d (dispatches app'.hooks.sender.sent) := by
  cases h with
  -- Nothing was unread by a receiver that is just made
  | subscribe =>
    rw [unread_receiving, Broadcast.Channel.unread_resubscribe]
    rfl
  | lag h => exact absurd rfl (hne _)
  -- The hook leaves the channel, and turns no dependent of `d'` on
  | ignore h ho =>
    rw [unread_receiving, unread_received h, onCount_cons, hlink.ignore ho]
    simp [Automation.toCome, Automation.commands, Automation.request?]
  -- The hook leaves the channel, and comes back as a request
  | answer h ho =>
    rw [unread_requesting, unread_received h, onCount_cons, ← hlink.answer ho]
    simp [Automation.toCome, Automation.commands, Automation.request?]
  | refuse h => exact absurd rfl (hne _)
  -- The request leaves the automation, and comes into the channel as its own hook
  | @request rx request context device app' h =>
    obtain ⟨-, -, -, hsender⟩ := beginUpdateRequest_ok h
    have hsent : app'.hooks.sender.sent =
        app.hooks.sender.sent ++ [.deviceUpdateDispatch request] := by rw [hsender]
    have hdispatch : dispatches [.deviceUpdateDispatch request] =
        [.deviceUpdateDispatch request] := rfl
    rw [unread_dispatching, unread_requested hw h, unread_requesting, hsent]
    simp only [Automation.toCome, Automation.commands, Automation.request?, Option.toList_some,
      List.getLast?_concat, dispatchHooks_singleton, onCount_append, dispatches_append, hdispatch,
      Option.toList_none, dispatchHooks_nil, onCount_nil]
    omega
  | fail h => exact absurd rfl (hne _)
  -- The command goes to the controller, and the device will report it
  | succeed h =>
    rw [unread_receiving, unread_dispatching]
    simp only [Automation.toCome, Automation.commands, Automation.request?, h, Option.toList_none,
      dispatchHooks_nil, onCount_nil]
    omega

/-- While the automation listens the hooks have a receiver. -/
theorem WellFormed.receivers_pos (hw : WellFormed app k) (hlistens : k.receiver?.isSome = true) :
    0 < app.hooks.sender.receivers := by
  apply hw.receivers
  rintro e rfl
  cases hlistens

/-- Whoever listens gets every hook that is sent. -/
theorem unread_append {hooks : List Hook} (hw : WellFormed app k)
    (hlistens : k.receiver?.isSome = true)
    (h : app'.hooks.sender.sent = app.hooks.sender.sent ++ hooks) :
    unread app' k = unread app k ++ hooks := by
  obtain ⟨rx, hrx⟩ := Option.isSome_iff_exists.mp hlistens
  have hle := hw.receiver rx hrx
  simp only [unread, hrx, Broadcast.Channel.unread, h]
  exact List.drop_append_of_le_length hle

/-- A part of a call that does not fail. -/
def CallSucceeds (t : Table) : TableCall → TableLabel → Prop
  | .request call, .request l => call.Succeeds t.app l
  | _, _ => True

instance (t : Table) (call : TableCall) (tl : TableLabel) : Decidable (CallSucceeds t call tl) := by
  unfold CallSucceeds RequestCall.Succeeds
  split
  · split <;> infer_instance
  · infer_instance

/-- The account of a part of a call: the hook of a request has a report to come, and a report
comes to its own hook. -/
theorem callStep_balance (h : TableCall.Step t call tl t' call') (hw : WellFormed t.app k)
    (hlistens : k.receiver?.isSome = true) (hs : CallSucceeds t call tl)
    (hknown : ∀ source update, call = .notification source (.store update) →
      ∃ device, t.app.devices.lookup update.deviceId = some device) :
    onCount d (unread t'.app k) + onCount d call'.toCome +
        onCount d (dispatchHooks (call.commands t.app tl)) +
        2 * onCount d (dispatches t.app.hooks.sender.sent) =
      onCount d (unread t.app k) + onCount d call.toCome +
        2 * onCount d (dispatches t'.app.hooks.sender.sent) := by
  cases h with
  | @request call l app' call' h =>
    have hsucceeds : call.Succeeds t.app l := hs
    -- The new hook is unread by the automation, and its command is still to come
    cases h with
    | refuse h => simp [TableCall.toCome, TableCall.commands]
    | @send request device app' h =>
      have hsent : app'.hooks.sender.sent =
          t.app.hooks.sender.sent ++ [.deviceUpdateDispatch request] := by
        rw [(beginUpdateRequest_sends h).sender]
      have hdispatch : dispatches [.deviceUpdateDispatch request] =
          [.deviceUpdateDispatch request] := rfl
      rw [unread_append hw hlistens hsent, hsent]
      simp only [TableCall.toCome, TableCall.commands, onCount_append, dispatches_append,
        hdispatch, dispatchHooks_nil, onCount_nil]
      omega
    -- What was to come has become a command
    | dispatch =>
      have hok := Controllers.dispatchUpdate_ok_iff.mpr hsucceeds
      simp only [TableCall.toCome, TableCall.commands, hok, dispatchHooks_singleton, onCount_nil]
      omega
  | @unknown source update h =>
    -- A report that has been backed names a device of the table
    obtain ⟨device, hd⟩ := hknown source update rfl
    rw [hd] at h
    exact nomatch h
  | @store source update app' h =>
    have hsent : app'.hooks.sender.sent = t.app.hooks.sender.sent ++ [] := by
      rw [storeNotification_hooks h, List.append_nil]
    rw [unread_append hw hlistens hsent, hsent]
    simp [TableCall.toCome, TableCall.commands]
  -- The automation listens, so the channel is open
  | closed h =>
    have hpos := hw.receivers_pos hlistens
    omega
  -- The report is unread by the automation, and was to come until now
  | @sendHook source update app' h =>
    have hsent : app'.hooks.sender.sent =
        t.app.hooks.sender.sent ++ [.deviceStateUpdate update] := by rw [h.sender]
    have hreport : dispatches [.deviceStateUpdate update] = [] := rfl
    rw [unread_append hw hlistens hsent, hsent]
    simp only [TableCall.toCome, TableCall.commands, onCount_append, dispatches_append, hreport,
      dispatchHooks_nil, onCount_nil, List.append_nil]
    omega

/-! ## The account -/

/-- What the automation has asked of `d'`, is about to ask, or will ask once it hears of `d`, is
twice the requests for `d`, as each of them is heard of twice. -/
def Balance (d d' : DeviceId) (st : System.State Plant TableCall) : Prop :=
  onCount d' (dispatchHooks st.shared.requests) +
      onCount d' (dispatchHooks st.shared.automation.request?.toList) +
      onCount d (unread st.shared.table.app st.shared.automation) +
      onCount d (st.shared.automation.toCome st.shared.requests) +
      (st.comps.map fun call => onCount d call.toCome).sum +
      onCount d (dispatchHooks st.shared.commands) =
    2 * onCount d (dispatches st.shared.table.app.hooks.sender.sent) +
      onCount d (reportHooks st.shared.reports)

/-- The call is an update request. -/
def asked : TableCall → Nat
  | .request _ => 1
  | _ => 0

/-- The call is an update request that has sent its hook. -/
def begun : TableCall → Nat
  | .request (.dispatching ..) => 1
  | .request (.returned _) => 1
  | _ => 0

/-- The action keeps to one request, for device `d₀`; a device reports nothing but that it is on,
once for each command; and whatever is done succeeds. -/
def Obeys (env : IncomingEnv) (d₀ : DeviceId) (st : System.State Plant TableCall) :
    System.Act PlantTask TableMessage TableLabel → Prop
  | .env (.automation l) => Succeeds st.shared.table.app st.shared.automation l
  | .env (.task task) => ∀ hook ∈ task.hooks, turnsOn hook = none
  | .spawn (.request r) => r = ⟨d₀, .power .on⟩ ∧ ∀ call ∈ st.comps, asked call = 0
  | .spawn (.incoming source) =>
    ∀ update ∈ (TableCall.start env st.shared.table.app (.incoming source)).report?,
      update.newState = .switch ⟨.on⟩ ∧
        onCount update.deviceId (reportHooks st.shared.reports) <
          onCount update.deviceId (dispatchHooks st.shared.commands)
  | .step i l => ∀ call ∈ st.comps[i]?, CallSucceeds st.shared.table call l

instance (env : IncomingEnv) (d₀ : DeviceId) (st : System.State Plant TableCall)
    (a : System.Act PlantTask TableMessage TableLabel) : Decidable (Obeys env d₀ st a) := by
  unfold Obeys
  split <;> infer_instance

/-- What holds throughout such a run. -/
structure Amplified (config : DependencyAutomationConfig) (d₀ : DeviceId)
    (st : System.State Plant TableCall) : Prop where
  wellFormed : WellFormed st.shared.table.app st.shared.automation
  listens : st.shared.automation.receiver?.isSome = true
  keyed : st.shared.table.app.devices.Keyed
  known : ∀ source update, .notification source (.store update) ∈ st.comps →
    ∃ device, st.shared.table.app.devices.lookup update.deviceId = some device
  requested : ∀ e, (⟨e, .power .on⟩ ∈ st.shared.requests ∨
    st.shared.automation.request? = some ⟨e, .power .on⟩) → ∃ a, dependency config a = some e
  answered : ∀ d, onCount d (reportHooks st.shared.reports) ≤
    onCount d (dispatchHooks st.shared.commands)
  hooks : ∀ e, onCount e (dispatches st.shared.table.app.hooks.sender.sent) =
    onCount e (dispatchHooks st.shared.requests) +
      (st.comps.map begun).sum * onCount e [.deviceUpdateDispatch ⟨d₀, .power .on⟩]
  one : (st.comps.map asked).sum ≤ 1
  first : ∀ r, .request (.begin r) ∈ st.comps → r = ⟨d₀, .power .on⟩
  balance : ∀ d d', Link config d d' → Balance d d' st

section Exec

variable {st st' : System.State Plant TableCall} {d₀ : DeviceId}

/-- A request of the automation is its next hook. -/
theorem Step.sent_dispatches (h : Step config app k l app' k') (e : DeviceId)
    (hne : ∀ e, k' ≠ .returned e) :
    onCount e (dispatches app'.hooks.sender.sent) =
      onCount e (dispatches app.hooks.sender.sent) +
        onCount e (dispatchHooks k.request?.toList) := by
  cases h with
  -- Only a request that is made is announced
  | request h =>
    obtain ⟨-, -, -, hsender⟩ := beginUpdateRequest_ok h
    rw [hsender, dispatches_append, onCount_append]
    rfl
  | refuse h => exact absurd rfl (hne _)
  | subscribe => rfl
  | lag h => rfl
  | ignore h ho => rfl
  | answer h ho => rfl
  | fail h => rfl
  | succeed h => rfl

/-- Unless a step ends it, the automation listens after the step. -/
theorem Step.listens (h : Step config app k l app' k') (hne : ∀ e, k' ≠ .returned e) :
    k'.receiver?.isSome = true := by
  cases h with
  | subscribe => rfl
  | lag h => exact absurd rfl (hne _)
  | ignore h ho => rfl
  | answer h ho => rfl
  | refuse h => exact absurd rfl (hne _)
  | request h => rfl
  | fail h => exact absurd rfl (hne _)
  | succeed h => rfl

/-- What it is about to ask, it was before, or it is the answer to a hook. -/
theorem Step.request_on (h : Step config app k l app' k') {e : DeviceId}
    (hr : k'.request? = some ⟨e, .power .on⟩) : ∃ a, dependency config a = some e := by
  cases h with
  -- Only an answer begins a request, and it is that of a relationship
  | answer h ho =>
    cases hr
    obtain ⟨a, -, ha⟩ := turnsOn_of_onEvent ho
    exact ⟨a, ha⟩
  | subscribe => exact nomatch hr
  | lag h => exact nomatch hr
  | ignore h ho => exact nomatch hr
  | refuse h => exact nomatch hr
  | request h => exact nomatch hr
  | fail h => exact nomatch hr
  | succeed h => exact nomatch hr

/-- The automation keeps the account, since it answers each hook at most once. -/
theorem Amplified.automation (ha : Amplified config d₀ st)
    (h : (plant env config).exec st (.env (.automation l)) = some st')
    (hs : Succeeds st.shared.table.app st.shared.automation l) : Amplified config d₀ st' := by
  obtain ⟨henv, hcomps⟩ := System.exec_env h
  obtain ⟨⟨app', k'⟩, hstart, hshared⟩ := Option.map_eq_some_iff.mp henv
  have hstep := startAutomation_cases hstart
  have hne := (hstep.succeeds_iff ha.wellFormed).mp hs
  obtain ⟨shared, comps⟩ := st'
  obtain rfl : comps = st.comps := hcomps
  subst hshared
  refine ⟨hstep.wellFormed ha.wellFormed, hstep.listens hne, ?_, ?_, ?_, ?_, ?_, ha.one, ha.first,
    ?_⟩
  · -- the table is as it was, and so are the devices of the reports
    show app'.devices.Keyed
    rw [hstep.devices]
    exact ha.keyed
  · intro source update hmem
    show ∃ device, app'.devices.lookup update.deviceId = some device
    rw [hstep.devices]
    exact ha.known source update hmem
  · -- a request that is begun is one of the relationship, and stays
    rintro e (hmem | hr)
    · rcases List.mem_append.mp hmem with hmem | hmem
      · exact ha.requested e (.inl hmem)
      · exact ha.requested e (.inr (Option.mem_toList.mp hmem))
    · exact hstep.request_on hr
  · intro d
    have hle := ha.answered d
    simp only [dispatchHooks_append, onCount_append]
    omega
  · intro e
    have heq := ha.hooks e
    have hsent := hstep.sent_dispatches e hne
    simp only [dispatchHooks_append, onCount_append]
    omega
  · -- the balance of the step is that of the automation
    intro d d' hlink
    have hbalance := ha.balance d d' hlink
    have hlocal := hstep.balance hlink ha.wellFormed hne st.shared.requests
    simp only [Balance, dispatchHooks_append, onCount_append] at hbalance ⊢
    omega

/-- Other tasks turn nothing on. -/
theorem Amplified.task {task : Task} (ha : Amplified config d₀ st)
    (h : (plant env config).exec st (.env (.task task)) = some st')
    (hs : ∀ hook ∈ task.hooks, turnsOn hook = none) : Amplified config d₀ st' := by
  obtain ⟨henv, hcomps⟩ := System.exec_env h
  obtain ⟨shared, comps⟩ := st'
  obtain rfl : comps = st.comps := hcomps
  simp only [plant] at henv
  split at henv
  · rename_i hf
    obtain ⟨app', hrun, hshared⟩ := Option.map_eq_some_iff.mp henv
    subst hshared
    have hdevices := Task.run_devices (Task.isWriter_of_isForeign hf) hrun
    have hunread := unread_other ha.wellFormed hrun
    rw [if_pos ha.listens] at hunread
    obtain ⟨sent, hsent, -, -, hsome⟩ := Task.run_hooks hrun
    rw [hsome (ha.wellFormed.receivers_pos ha.listens)] at hsent
    -- The hooks of the task turn nothing on
    have hnone (d : DeviceId) : onCount d task.hooks = 0 :=
      onCount_eq_zero fun hook hmem => by simp [hs hook hmem]
    have hnone' (d : DeviceId) : onCount d (dispatches task.hooks) = 0 :=
      onCount_eq_zero fun hook hmem => by simp [hs hook (List.mem_of_mem_filter hmem)]
    refine ⟨ha.wellFormed.task hrun, ha.listens, ?_, ?_, ha.requested, ha.answered, ?_, ha.one,
      ha.first, ?_⟩
    · show app'.devices.Keyed
      rw [hdevices]
      exact ha.keyed
    · intro source update hmem
      show ∃ device, app'.devices.lookup update.deviceId = some device
      rw [hdevices]
      exact ha.known source update hmem
    · intro e
      have heq := ha.hooks e
      have hzero := hnone' e
      simp only [hsent, dispatches_append, onCount_append]
      omega
    · intro d d' hlink
      have hbalance := ha.balance d d' hlink
      have hzero := hnone d
      have hzero' := hnone' d
      simp only [Balance, hsent, hunread, dispatches_append, onCount_append] at hbalance ⊢
      omega
  · cases henv

/-- A message that is accepted is for a configured device. -/
theorem start_known {t : Table} {message : TableMessage} {source : Incoming}
    {update : UpdateNotification} (hk : t.app.devices.Keyed)
    (h : TableCall.start env t.app message = .notification source (.store update)) :
    ∃ device, t.app.devices.lookup update.deviceId = some device := by
  cases message with
  | request r => cases h
  | incoming source =>
    simp only [TableCall.start] at h
    split at h
    · rename_i update' hdecode
      cases h
      exact Incoming.decode_known hk hdecode
    · cases h

/-- A report turns on at most its own device. -/
theorem turnsOn_report {update : UpdateNotification}
    (h : turnsOn (.deviceStateUpdate update) = some d) : update.deviceId = d := by
  unfold turnsOn at h
  split at h
  · rename_i he
    exact nomatch he
  · rename_i he
    cases h
    rw [Hook.deviceStateUpdate.inj he]
  · exact nomatch h

/-- What a message starts is at its beginning. -/
theorem start_toCome (env : IncomingEnv) (app : AppState) (message : TableMessage) :
    (TableCall.start env app message).toCome =
        reportHooks (TableCall.start env app message).report? ∧
      begun (TableCall.start env app message) = 0 := by
  cases message with
  | request r => exact ⟨rfl, rfl⟩
  | incoming source =>
    simp only [TableCall.start]
    split
    · exact ⟨rfl, rfl⟩
    · exact ⟨rfl, rfl⟩

/-- Its report, if it is one, answers a command that had no answer. -/
theorem start_answered {message : TableMessage} (hs : Obeys env d₀ st (.spawn message))
    (hle : ∀ d, onCount d (reportHooks st.shared.reports) ≤
      onCount d (dispatchHooks st.shared.commands)) (d : DeviceId) :
    onCount d (reportHooks
        (st.shared.reports ++ (TableCall.start env st.shared.table.app message).report?)) ≤
      onCount d (dispatchHooks st.shared.commands) := by
  rw [reportHooks_append, onCount_append]
  cases message with
  -- A request reports nothing
  | request r => exact hle d
  | incoming source =>
    have hreport : ∀ update ∈ (TableCall.start env st.shared.table.app (.incoming source)).report?,
        update.newState = .switch ⟨.on⟩ ∧
          onCount update.deviceId (reportHooks st.shared.reports) <
            onCount update.deviceId (dispatchHooks st.shared.commands) := hs
    -- A datagram reports one update at most, and that is obeyed
    obtain hnil | ⟨update, hupdate⟩ :=
      (TableCall.start env st.shared.table.app (.incoming source)).report?_cases
    · rw [hnil]
      exact hle d
    · rw [hupdate] at hreport ⊢
      obtain ⟨-, hlt⟩ := hreport update (List.mem_singleton_self _)
      show _ + onCount d [.deviceStateUpdate update] ≤ _
      by_cases hid : turnsOn (.deviceStateUpdate update) = some d
      · rw [onCount_singleton_of hid, ← turnsOn_report hid]
        exact hlt
      · rw [onCount_singleton_ne hid]
        exact hle d

/-- The one request is the only one. -/
theorem start_asked {message : TableMessage} (hs : Obeys env d₀ st (.spawn message))
    (hone : (st.comps.map asked).sum ≤ 1) :
    (st.comps.map asked).sum + asked (TableCall.start env st.shared.table.app message) ≤ 1 := by
  cases message with
  -- Nobody has asked before
  | request r =>
    have hzero : (st.comps.map asked).sum = 0 := by
      apply List.sum_eq_zero
      intro n hmem
      obtain ⟨call, hcall, rfl⟩ := List.mem_map.mp hmem
      exact hs.2 call hcall
    rw [hzero]
    exact Nat.le_refl 1
  -- A datagram asks for nothing
  | incoming source =>
    have hzero : asked (TableCall.start env st.shared.table.app (.incoming source)) = 0 := by
      simp only [TableCall.start]
      split <;> rfl
    rw [hzero]
    exact hone

/-- The one request is for `d₀`. -/
theorem start_first {message : TableMessage} (hs : Obeys env d₀ st (.spawn message))
    {r : UpdateRequest}
    (h : TableCall.start env st.shared.table.app message = .request (.begin r)) :
    r = ⟨d₀, .power .on⟩ := by
  cases message with
  | request r' =>
    cases h
    exact hs.1
  | incoming source =>
    simp only [TableCall.start] at h
    split at h <;> cases h

/-- A call begins: the one request, or a report that answers a command. -/
theorem Amplified.spawn {message : TableMessage} (ha : Amplified config d₀ st)
    (h : (plant env config).exec st (.spawn message) = some st')
    (hs : Obeys env d₀ st (.spawn message)) : Amplified config d₀ st' := by
  obtain ⟨call, hspawn, hcomps⟩ := System.exec_spawn h
  obtain ⟨hshared, hcall⟩ := Prod.mk.inj (Option.some.inj hspawn)
  obtain ⟨shared, comps⟩ := st'
  obtain rfl : comps = st.comps ++ [call] := hcomps
  subst hshared
  obtain ⟨htoCome, hbegun⟩ := start_toCome env st.shared.table.app message
  rw [hcall] at htoCome hbegun
  refine ⟨ha.wellFormed, ha.listens, ha.keyed, ?_, ha.requested, start_answered hs ha.answered,
    ?_, ?_, ?_, ?_⟩
  · -- the reports that were known are, and a new one is of a device in the table
    intro source update hmem
    rcases List.mem_append.mp hmem with hmem | hmem
    · exact ha.known source update hmem
    · rw [List.mem_singleton] at hmem
      exact start_known ha.keyed (hcall.trans hmem.symm)
  · intro e
    have heq := ha.hooks e
    simp only [List.map_append, List.sum_append, List.map_cons, List.map_nil, List.sum_cons,
      List.sum_nil, hbegun]
    exact heq
  · have hone := start_asked hs ha.one
    rw [hcall] at hone
    simp only [List.map_append, List.sum_append, List.map_cons, List.map_nil, List.sum_cons,
      List.sum_nil]
    exact hone
  · -- only the first request of the run is the one of the client
    intro r hmem
    rcases List.mem_append.mp hmem with hmem | hmem
    · exact ha.first r hmem
    · rw [List.mem_singleton] at hmem
      exact start_first hs (hcall.trans hmem.symm)
  · -- what a call has to come is in the balance already, as a report or as nothing
    intro d d' hlink
    have hbalance := ha.balance d d' hlink
    simp only [Balance, hcall, reportHooks_append, onCount_append, List.map_append,
      List.sum_append, List.map_cons, List.map_nil, List.sum_cons, List.sum_nil, htoCome]
      at hbalance ⊢
    omega

/-- The automation stays well formed while hooks are sent. -/
theorem WellFormed.sends {hooks : List Hook} (hw : WellFormed app k) (h : app.Sends app' hooks) :
    WellFormed app' k := by
  refine ⟨?_, ?_, fun hne => ?_, fun rx hrx => ?_⟩
  · rw [h.sender]
    exact hw.capacity
  · rw [h.sender]
    exact hw.senders
  · rw [h.sender]
    exact hw.receivers hne
  · have hle := hw.receiver rx hrx
    rw [h.sender, List.length_append]
    omega

/-- It does so while a call goes on. -/
theorem WellFormed.callStep (hw : WellFormed t.app k) (h : TableCall.Step t call tl t' call') :
    WellFormed t'.app k := by
  cases h with
  | request h =>
    obtain ⟨hooks, hsends, -, -, -⟩ := h.sends
    exact hw.sends hsends
  | unknown h => exact hw
  | store h =>
    have hhooks := storeNotification_hooks h
    exact ⟨by rw [hhooks]; exact hw.capacity, by rw [hhooks]; exact hw.senders,
      by rw [hhooks]; exact hw.receivers, by rw [hhooks]; exact hw.receiver⟩
  | closed h => exact hw
  | sendHook h => exact hw.sends h

/-- A call that has stepped is not at its beginning any more. -/
theorem callStep_begun (h : TableCall.Step t call tl t' call') :
    (∀ r, call' ≠ .request (.begin r)) ∧
      (∀ source update, call' ≠ .notification source (.store update)) ∧
        asked call' = asked call := by
  refine ⟨fun r he => ?_, fun source update he => ?_, ?_⟩
  · subst he
    cases h with
    | request h => cases h
  · subst he
    cases h
  · cases h <;> rfl

/-- A call sends the hook of its request as it begins. -/
theorem callStep_dispatches (h : TableCall.Step t call tl t' call')
    (hr : 0 < t.app.hooks.sender.receivers) (hs : CallSucceeds t call tl)
    (hfirst : ∀ r, call = .request (.begin r) → r = ⟨d₀, .power .on⟩) (e : DeviceId) :
    onCount e (dispatches t'.app.hooks.sender.sent) +
        begun call * onCount e [.deviceUpdateDispatch ⟨d₀, .power .on⟩] =
      onCount e (dispatches t.app.hooks.sender.sent) +
        begun call' * onCount e [.deviceUpdateDispatch ⟨d₀, .power .on⟩] := by
  cases h with
  | @request call l app' call' h =>
    have hsucceeds : call.Succeeds t.app l := hs
    cases h with
    -- A step that succeeds is not refused
    | @refuse request e h =>
      have hne := ((RequestCall.Step.refuse h).succeeds_iff hr).mp hsucceeds
      exact absurd rfl (hne e)
    | @send request device app' h =>
      -- The request of the client is the only one
      obtain rfl := hfirst request rfl
      rw [(beginUpdateRequest_sends h).sender, dispatches_append, onCount_append]
      have hdispatch : dispatches [.deviceUpdateDispatch ⟨d₀, .power .on⟩] =
          [.deviceUpdateDispatch ⟨d₀, .power .on⟩] := rfl
      rw [hdispatch]
      simp [begun]
    | dispatch => rfl
  | unknown h => rfl
  | store h =>
    rw [storeNotification_hooks h]
    rfl
  | closed h => rfl
  | sendHook h =>
    rw [h.sender, dispatches_append, onCount_append]
    rfl

/-- A call announces what it was to announce, and nothing else. -/
theorem Amplified.callStep {i : Nat} (ha : Amplified config d₀ st)
    (h : (plant env config).exec st (.step i tl) = some st')
    (hs : Obeys env d₀ st (.step i tl)) : Amplified config d₀ st' := by
  obtain ⟨call, call', hi, hplant, hcomps⟩ := System.exec_step h
  obtain ⟨⟨t, call''⟩, hcall, he⟩ := Option.map_eq_some_iff.mp hplant
  obtain ⟨hshared, rfl⟩ := Prod.mk.inj he
  obtain ⟨shared, comps⟩ := st'
  obtain rfl : comps = st.comps.set i call'' := hcomps
  subst hshared
  have hstep := TableCall.step_cases hcall
  have hmem : call ∈ st.comps := List.mem_of_getElem? hi
  have hsucceeds : CallSucceeds st.shared.table call tl := hs call hi
  have hpos := ha.wellFormed.receivers_pos ha.listens
  obtain ⟨hbegin, hstore, hasked⟩ := callStep_begun hstep
  refine ⟨ha.wellFormed.callStep hstep, ha.listens, hstep.sameConfig.keyed ha.keyed, ?_,
    ha.requested, ?_, ?_, ?_, ?_, ?_⟩
  · intro source update hmem'
    rcases List.mem_or_eq_of_mem_set hmem' with hmem' | he
    · obtain ⟨device, hd⟩ := ha.known source update hmem'
      obtain ⟨device', hd', -⟩ := hstep.sameConfig.lookup hd
      exact ⟨device', hd'⟩
    · -- a report that is stored is none that a call has yet to store
      exact absurd he.symm (hstore source update)
  · intro d
    have hle := ha.answered d
    simp only [dispatchHooks_append, onCount_append]
    omega
  · intro e
    have heq := ha.hooks e
    have hlocal := callStep_dispatches hstep hpos hsucceeds
      (fun r he => ha.first r (he ▸ hmem)) e
    have hset := congrArg (· * onCount e [.deviceUpdateDispatch ⟨d₀, .power .on⟩])
      (List.sum_map_set begun hi call'')
    simp only [Nat.add_mul] at hset
    show onCount e (dispatches t.app.hooks.sender.sent) =
      onCount e (dispatchHooks st.shared.requests) +
        ((st.comps.set i call'').map begun).sum *
          onCount e [.deviceUpdateDispatch ⟨d₀, .power .on⟩]
    omega
  · -- the call asks for no more than it did
    have hset := List.sum_map_set asked hi call''
    have hone := ha.one
    show ((st.comps.set i call'').map asked).sum ≤ 1
    omega
  · intro r hmem'
    rcases List.mem_or_eq_of_mem_set hmem' with hmem' | he
    · exact ha.first r hmem'
    · exact absurd he.symm (hbegin r)
  · intro d d' hlink
    -- What the step moves, it moves between the sums of the balance
    have hbalance := ha.balance d d' hlink
    have hlocal := @callStep_balance _ _ _ _ _ _ d hstep ha.wellFormed ha.listens hsucceeds
      fun source update he => ha.known source update (he ▸ hmem)
    have hset := List.sum_map_set (fun call : TableCall => onCount d call.toCome) hi call''
    simp only [Balance, dispatchHooks_append, onCount_append] at hbalance ⊢
    omega

/-- Every action that obeys keeps the account. -/
theorem Amplified.exec {a : System.Act PlantTask TableMessage TableLabel}
    (ha : Amplified config d₀ st) (hs : Obeys env d₀ st a)
    (h : (plant env config).exec st a = some st') : Amplified config d₀ st' := by
  cases a with
  | env task =>
    cases task with
    | automation l => exact ha.automation h hs
    | task task => exact ha.task h hs
  | spawn message => exact ha.spawn h hs
  | step i l => exact ha.callStep h hs

end Exec

/-! ## Chains of devices -/

/-- The relationships are those of each device of a list to the next. -/
structure IsChain (config : DependencyAutomationConfig) (ds : List DeviceId) : Prop where
  nodup : ds.Nodup
  mem_iff : ∀ r, r ∈ config ↔
    ∃ i : Nat, ds[i]? = some r.dependentId ∧ ds[i + 1]? = some r.dependencyId

namespace IsChain

variable {ds : List DeviceId}

/-- A device has one place in the chain. -/
theorem index_inj (h : IsChain config ds) {i j : Nat} (hi : ds[i]? = some d)
    (hj : ds[j]? = some d) : i = j :=
  (List.getElem?_inj (List.getElem?_eq_some_iff.mp hi).1 h.nodup).mp (hi.trans hj.symm)

/-- Each device depends on the next. -/
theorem dependency_iff (h : IsChain config ds) {a b : DeviceId} :
    dependency config a = some b ↔ ∃ i : Nat, ds[i]? = some a ∧ ds[i + 1]? = some b := by
  constructor
  · intro hab
    exact (h.mem_iff _).mp (mem_of_dependency hab)
  · rintro ⟨i, ha, hb⟩
    have hmem : ⟨a, b⟩ ∈ config := (h.mem_iff _).mpr ⟨i, ha, hb⟩
    cases hf : find config a with
    | none =>
      have hnone := List.find?_eq_none.mp hf _ hmem
      simp at hnone
    | some r =>
      -- The device is only once in the chain, so this is its only relationship
      have hra : r.dependentId = a := by simpa using List.find?_some hf
      obtain ⟨j, hj, hj'⟩ := (h.mem_iff r).mp (List.mem_of_find?_eq_some hf)
      rw [hra] at hj
      obtain rfl := h.index_inj ha hj
      rw [dependency, hf, Option.map_some]
      exact hj'.symm.trans hb

/-- Neighbours in the chain are linked. -/
theorem link (h : IsChain config ds) {i : Nat} (hd : ds[i]? = some d)
    (hd' : ds[i + 1]? = some d') : Link config d d' := by
  intro a
  rw [h.dependency_iff]
  constructor
  · rintro ⟨j, ha, hj⟩
    have hij := h.index_inj hj hd'
    obtain rfl : j = i := by omega
    exact Option.some.inj (ha.symm.trans hd)
  · rintro rfl
    exact ⟨i, hd, hd'⟩

/-- No device depends on the first. -/
theorem not_dependency (h : IsChain config ds) (hd : ds[0]? = some d) (a : DeviceId) :
    dependency config a ≠ some d := by
  intro ha
  obtain ⟨j, -, hj⟩ := h.dependency_iff.mp ha
  have hzero := h.index_inj hj hd
  omega

end IsChain

/-! ## Runs -/

/-- Everybody has done what there was to do: the request was made, every command was answered, and
the automation waits. -/
structure Settled (st : System.State Plant TableCall) : Prop where
  requested : 0 < (st.comps.map asked).sum
  calls : ∀ call ∈ st.comps, call = .returned ∨ ∃ result, call = .request (.returned result)
  waits : ∃ rx, st.shared.automation = .receiving rx
  unread : unread st.shared.table.app st.shared.automation = []
  answered : ∀ d, onCount d (reportHooks st.shared.reports) =
    onCount d (dispatchHooks st.shared.commands)

section Runs

variable {st m : System.State Plant TableCall} {d₀ : DeviceId} {ds : List DeviceId}
  {devices : Devices} {controllers : Controllers}

/-- Nothing has happened when the automation has just subscribed. -/
theorem amplified_initial (config : DependencyAutomationConfig) (d₀ : DeviceId)
    (hk : devices.Keyed)
    (h : (plant env config).exec (plantInitial devices controllers) (.env (.automation .poll)) =
      some m) : Amplified config d₀ m := by
  cases h
  refine ⟨⟨rfl, rfl, fun _ => Nat.succ_pos _, fun rx hrx => ?_⟩, rfl, hk,
    fun _ _ hmem => absurd hmem List.not_mem_nil, ?_, fun d => Nat.le_refl _, fun e => ?_,
    Nat.zero_le _, fun _ hmem => absurd hmem List.not_mem_nil, fun d d' _ => rfl⟩
  · cases hrx
    exact Nat.le_refl _
  · -- no request has been made, and none is begun
    rintro e (hmem | hr)
    · exact absurd hmem List.not_mem_nil
    · exact nomatch hr
  · show 0 = 0 + 0 * onCount e [_]
    rw [Nat.zero_mul]

/-- A request that has sent its hook is a request. -/
theorem begun_le_asked (comps : List TableCall) :
    (comps.map begun).sum ≤ (comps.map asked).sum := by
  apply List.sum_le_sum
  intro call _
  cases call with
  | request c => cases c <;> simp [begun, asked]
  | notification source call => exact Nat.le_refl 0
  | returned => exact Nat.le_refl 0

/-- A device other than the first is asked for by the automation only. -/
theorem Amplified.hooks_ne (ha : Amplified config d₀ st) (hd : d ≠ d₀) :
    onCount d (dispatches st.shared.table.app.hooks.sender.sent) =
      onCount d (dispatchHooks st.shared.requests) := by
  have hzero : onCount d [.deviceUpdateDispatch ⟨d₀, .power .on⟩] = 0 := by
    apply onCount_singleton_ne
    intro he
    exact hd (Option.some.inj he).symm
  rw [ha.hooks d, hzero, Nat.mul_zero, Nat.add_zero]

/-- The first device is asked for by the client only. -/
theorem Amplified.hooks_first (ha : Amplified config d₀ st)
    (hfirst : ∀ a, dependency config a ≠ some d₀) :
    onCount d₀ (dispatches st.shared.table.app.hooks.sender.sent) = (st.comps.map begun).sum := by
  have hzero : onCount d₀ (dispatchHooks st.shared.requests) = 0 := by
    rw [onCount_dispatchHooks, List.count_eq_zero]
    intro hmem
    obtain ⟨a, hdependency⟩ := ha.requested d₀ (.inl hmem)
    exact hfirst a hdependency
  rw [ha.hooks d₀, hzero, onCount_singleton_of rfl, Nat.mul_one, Nat.zero_add]

/-- The requests at most double from one device to the next. -/
theorem Amplified.hooks_le (ha : Amplified config d₀ st) (hchain : IsChain config ds)
    (hd₀ : ds[0]? = some d₀) {i : Nat} (hd : ds[i]? = some d) :
    onCount d (dispatches st.shared.table.app.hooks.sender.sent) ≤ 2 ^ i := by
  induction i generalizing d with
  | zero =>
    obtain rfl := Option.some.inj (hd₀.symm.trans hd)
    rw [ha.hooks_first (hchain.not_dependency hd₀)]
    exact (begun_le_asked st.comps).trans ha.one
  | succ i ih =>
    obtain ⟨hlt, -⟩ := List.getElem?_eq_some_iff.mp hd
    have hprev : ds[i]? = some ds[i] := List.getElem?_eq_getElem (by omega)
    have hne : d ≠ d₀ := by
      -- The head of the chain is in no other place
      rintro rfl
      have hzero := hchain.index_inj hd hd₀
      omega
    have hle := ih hprev
    have hbalance := ha.balance _ d (hchain.link hprev hd)
    have hanswered := ha.answered ds[i]
    -- Each answer of the previous device is one dispatch, and each dispatch is answered twice at
    -- most
    rw [ha.hooks_ne hne, Nat.pow_succ]
    simp only [Balance] at hbalance
    omega

/-- Once everything is settled they have doubled. -/
theorem Amplified.hooks_eq (ha : Amplified config d₀ st) (hs : Settled st)
    (hchain : IsChain config ds) (hd₀ : ds[0]? = some d₀) {i : Nat} (hd : ds[i]? = some d) :
    onCount d (dispatches st.shared.table.app.hooks.sender.sent) = 2 ^ i := by
  induction i generalizing d with
  | zero =>
    obtain rfl := Option.some.inj (hd₀.symm.trans hd)
    rw [ha.hooks_first (hchain.not_dependency hd₀)]
    -- The calls that are left have begun if they are requests
    have hsame : st.comps.map begun = st.comps.map asked := by
      apply List.map_congr_left
      intro call hmem
      rcases hs.calls call hmem with rfl | ⟨result, rfl⟩
      · rfl
      · rfl
    have hone := ha.one
    have hpos := hs.requested
    rw [hsame]
    omega
  | succ i ih =>
    obtain ⟨hlt, -⟩ := List.getElem?_eq_some_iff.mp hd
    have hprev : ds[i]? = some ds[i] := List.getElem?_eq_getElem (by omega)
    have hne : d ≠ d₀ := by
      rintro rfl
      have hzero := hchain.index_inj hd hd₀
      omega
    have heq := ih hprev
    have hbalance := ha.balance _ d (hchain.link hprev hd)
    have hanswered := hs.answered ds[i]
    have hcalls : (st.comps.map fun call => onCount ds[i] call.toCome).sum = 0 := by
      apply List.sum_eq_zero
      intro n hmem
      obtain ⟨call, hcall, rfl⟩ := List.mem_map.mp hmem
      rcases hs.calls call hcall with rfl | ⟨result, rfl⟩
      · rfl
      · rfl
    obtain ⟨rx, hk⟩ := hs.waits
    have hunread := hs.unread
    rw [ha.hooks_ne hne, Nat.pow_succ]
    simp only [Balance, hunread, hcalls] at hbalance
    rw [hk] at hbalance
    simp only [Automation.request?, Automation.toCome, Option.toList_none, dispatchHooks_nil,
      onCount_nil] at hbalance
    omega

/-- In a chain of devices, one request for the first makes the automation ask for device `i` at
most `2 ^ i` times to be turned on, and exactly that often once everything is settled. -/
theorem amplification_run (env : IncomingEnv) (config : DependencyAutomationConfig)
    (ds : List DeviceId) (d₀ : DeviceId) (capacity : Nat) (devicesConfig : DevicesConfig)
    (devices : Devices) (controllers : Controllers)
    (as : List (System.Act PlantTask TableMessage TableLabel))
    (m st : System.State Plant TableCall) (hchain : IsChain config ds) (hd₀ : ds[0]? = some d₀)
    (hload : loadDevices capacity devicesConfig = some devices)
    (hstart : (plant env config).exec (plantInitial devices controllers)
      (.env (.automation .poll)) = some m)
    (hrun : (plant env config).run m as = some st)
    (hobeys : Lts.Along (plant env config).exec (Obeys env d₀) m as) :
    ∀ i d, ds[i + 1]? = some d →
      st.shared.requests.count ⟨d, .power .on⟩ ≤ 2 ^ (i + 1) ∧
        (Settled st → st.shared.requests.count ⟨d, .power .on⟩ = 2 ^ (i + 1)) := by
  have hkeep : ∀ s a s', Amplified config d₀ s → Obeys env d₀ s a →
      (plant env config).exec s a = some s' → Amplified config d₀ s' :=
    fun s a s' ha hs hexec => ha.exec hs hexec
  have ha : Amplified config d₀ st := Lts.run_invariant_along _ hkeep hobeys hrun
    (amplified_initial config d₀ (loadDevices_keyed hload) hstart)
  intro i d hd
  -- Device `d` is not the first one, so all that is announced for it are the automation's requests
  have hne : d ≠ d₀ := by
    rintro rfl
    have hzero := hchain.index_inj hd hd₀
    omega
  rw [← onCount_dispatchHooks, ← ha.hooks_ne hne]
  exact ⟨ha.hooks_le hchain hd₀ hd, fun hs => ha.hooks_eq hs hchain hd₀ hd⟩

end Runs

end Dependencies

end Devicectrl

/-! ## A lamp on a fan on a socket -/

namespace Devicectrl.Dependencies.Plant.Demo

/-- Three devices in a row. -/
def row : List DeviceId := [lamp, fan, socket]

/-- The lamp needs the fan, and the fan the socket. -/
def tower : DependencyAutomationConfig := [⟨lamp, fan⟩, ⟨fan, socket⟩]

/-- The automation receives a hook and sends the request that answers it. -/
def answers : List (System.Act PlantTask TableMessage TableLabel) :=
  [.env (.automation .poll), .env (.automation .poll), .env (.automation (.dispatched (.ok ())))]

/-- A client turns the lamp on, and the lamp reports that it is on. -/
def lampOn : List (System.Act PlantTask TableMessage TableLabel) :=
  [.spawn (.request ⟨lamp, .power .on⟩), .step 0 (.request .poll),
    .step 0 (.request (.dispatched (.ok ())))] ++ report 1 lamp .on

/-- The automation answers what it hears of the lamp, and the fan reports on each command. -/
def fanOn : List (System.Act PlantTask TableMessage TableLabel) :=
  answers ++ answers ++ report 2 fan .on ++ report 3 fan .on

/-- The automation answers what it hears of the fan. -/
def socketOn : List (System.Act PlantTask TableMessage TableLabel) :=
  answers ++ answers ++ answers ++ answers

/-- Everybody keeps to the one request and to one report for each command. -/
theorem obeys_tower :
    Lts.Along (plant TableCall.Demo.env tower).exec (Obeys TableCall.Demo.env lamp)
      (((plant TableCall.Demo.env tower).exec (plantInitial devices controllers)
        (.env (.automation .poll))).getD (plantInitial devices controllers))
      (lampOn ++ fanOn ++ socketOn) := by
  decide +kernel

/-- The tower is a chain of its three devices. -/
theorem isChain_tower : IsChain tower row := by
  refine ⟨by decide, fun r => ⟨fun hmem => ?_, ?_⟩⟩
  · simp only [tower, List.mem_cons, List.not_mem_nil, or_false] at hmem
    rcases hmem with rfl | rfl
    · exact ⟨0, rfl, rfl⟩
    · exact ⟨1, rfl, rfl⟩
  · rintro ⟨i, hi, hi'⟩
    obtain ⟨dependent, dependency⟩ := r
    match i with
    | 0 =>
      cases hi
      cases hi'
      exact List.mem_cons_self
    | 1 =>
      cases hi
      cases hi'
      exact List.mem_cons_of_mem _ List.mem_cons_self
    | i + 2 =>
      simp [row] at hi'

end Devicectrl.Dependencies.Plant.Demo

namespace Devicectrl.Dependencies

open Plant.Demo
open TableCall.Demo (env)

/-- The fan is turned on at most twice, and the socket at most four times. -/
theorem amplification_run_demo :
    ∃ m st, (plant env tower).exec (plantInitial devices controllers) (.env (.automation .poll)) =
        some m ∧ (plant env tower).run m (lampOn ++ fanOn ++ socketOn) = some st ∧
      st.shared.requests.count ⟨fan, .power .on⟩ ≤ 2 ∧
      st.shared.requests.count ⟨socket, .power .on⟩ ≤ 4 := by
  refine ⟨_, _, rfl, rfl, ?_⟩
  have hall := amplification_run env tower row lamp 64 devicesConfig devices controllers
    (lampOn ++ fanOn ++ socketOn) _ _ isChain_tower rfl rfl rfl rfl obeys_tower
  exact ⟨(hall 0 fan rfl).1, (hall 1 socket rfl).1⟩

/-- The socket is turned on four times. -/
theorem not_twice :
    ¬∀ env config ds d₀ capacity devicesConfig devices controllers as m st,
      IsChain config ds → ds[0]? = some d₀ → loadDevices capacity devicesConfig = some devices →
      (plant env config).exec (plantInitial devices controllers) (.env (.automation .poll)) =
        some m →
      (plant env config).run m as = some st →
      Lts.Along (plant env config).exec (Obeys env d₀) m as →
        ∀ i d, ds[i + 1]? = some d → st.shared.requests.count ⟨d, .power .on⟩ ≤ 2 := by
  intro h
  have hle := h env tower row lamp 64 devicesConfig devices controllers
    (lampOn ++ fanOn ++ socketOn) _ _ isChain_tower rfl rfl rfl rfl obeys_tower 1 socket rfl
  exact absurd hle (by decide +kernel)

end Devicectrl.Dependencies
