import Devicectrl.ForStd.RunHistory
import Devicectrl.Spec.RequestLedger
import Devicectrl.Spec.SunsetRamp

/-!
# The sunset automation among the other tasks

Over any number of evenings, whatever becomes of its requests: after each sunset the automation
requests the range of every device once, one value after the other, and no evening begins before
the last has covered all ranges. A ramp has one request under way at a time.

## Key results

- `Sweeps.exec`: what has been requested after some evenings
- `SunsetTask.Awaits.step`: each ramp awaits the call of its own request
- `server_sunsets`: the automation in a run of the server
-/

namespace Devicectrl

open RwLock (TryJoinAll)

/-! ## Evenings -/

namespace SunsetDeviceConfig

/-- The requests of one evening. -/
def sweep (update : SunsetDeviceConfig) : List UpdateRequest :=
  update.range.toList.map update.request

/-- The requests of `n` evenings. -/
def sweeps (update : SunsetDeviceConfig) (n : Nat) : List UpdateRequest :=
  (List.replicate n update.sweep).flatten

/-- One evening more is one sweep more. -/
theorem sweeps_succ (update : SunsetDeviceConfig) (n : Nat) :
    update.sweeps (n + 1) = update.sweeps n ++ update.sweep := by
  rw [sweeps, List.replicate_succ', List.flatten_append, List.flatten_cons, List.flatten_nil,
    List.append_nil, sweeps]

/-- One evening less is a prefix. -/
theorem sweeps_pred (update : SunsetDeviceConfig) (n : Nat) :
    update.sweeps (n - 1) <+: update.sweeps n := by
  cases n with
  | zero => exact List.prefix_refl _
  | succ n =>
    rw [sweeps_succ]
    exact List.prefix_append _ _

end SunsetDeviceConfig

namespace DeviceRamp

variable {ramp ramp' : DeviceRamp} {events : List RampEvent} {l : DeviceRampLabel}

/-- The requests that a ramp has yet to make. -/
def unmade (ramp : DeviceRamp) : List UpdateRequest :=
  match ramp.stage with
  | .begin => ramp.update.sweep
  | .requesting rest => rest.toList.map ramp.update.request
  | .sleeping rest => rest.toList.map ramp.update.request
  | .returned _ => []

/-- What the next turn of the loop requests was the first of what is left. -/
theorem unmade_next {update : SunsetDeviceConfig} {range : RangeInclusive}
    (h : DeviceRamp.next update range = (ramp', events)) :
    ramp'.update = update ∧
      requestsOf events ++ ramp'.unmade = range.toList.map update.request := by
  unfold DeviceRamp.next at h
  split at h
  · -- the range is exhausted, and the ramp returns
    rename_i hnext
    cases h
    rw [RangeInclusive.toList_of_next_none hnext]
    exact ⟨rfl, rfl⟩
  · -- the next value is requested
    rename_i colorTemp rest hnext
    cases h
    rw [RangeInclusive.toList_of_next hnext]
    exact ⟨rfl, rfl⟩

/-- A ramp makes its requests in order, and none as it fails. -/
theorem unmade_step (h : ramp.step l = some (ramp', events)) :
    ramp'.update = ramp.update ∧
      ((∃ abort, ramp'.result? = some (.error abort)) ∧ requestsOf events = [] ∨
        requestsOf events ++ ramp'.unmade = ramp.unmade) := by
  -- By whether the ramp goes on
  cases step_cases h with
  | begin hnext =>
    obtain ⟨hupdate, hunmade⟩ := unmade_next hnext
    exact ⟨hupdate, .inr hunmade⟩
  | failed => exact ⟨rfl, .inl ⟨⟨_, rfl⟩, rfl⟩⟩
  | panicked hpause => exact ⟨rfl, .inl ⟨⟨_, rfl⟩, rfl⟩⟩
  | paused hpause => exact ⟨rfl, .inr rfl⟩
  | slept hnext =>
    obtain ⟨hupdate, hunmade⟩ := unmade_next hnext
    exact ⟨hupdate, .inr hunmade⟩

/-- A ramp that has returned has no request to make. -/
theorem unmade_of_result {result : Except Abort Unit} (h : ramp.result? = some result) :
    ramp.unmade = [] := by
  obtain ⟨update, stage⟩ := ramp
  cases stage with
  | returned result' => rfl
  | _ => cases h

end DeviceRamp

/-- What device `i` has been requested, by where the automation is after some evenings. -/
def SunsetLightTemp.Swept (update : SunsetDeviceConfig) (i evenings : Nat)
    (made : List UpdateRequest) : SunsetLightTemp → Prop
  | .computing => made = update.sweeps evenings
  | .sleeping _ => made = update.sweeps evenings
  | .ramping ramps => update.sweeps (evenings - 1) <+: made ∧
      ∃ ramp, ramps[i]? = some ramp ∧ ramp.update = update ∧
        made ++ ramp.unmade = update.sweeps evenings
  | .ended _ => update.sweeps (evenings - 1) <+: made ∧ made <+: update.sweeps evenings

/-- What each device has been requested in the evenings so far. -/
def Sweeps (config : SunsetLightTempAutomationConfig) (log : List SunsetEvent)
    (st : SunsetLightTemp) : Prop :=
  ∀ i update, config.devices[i]? = some update →
    st.Swept update i (starts log).length (requestsOf (rampLog i log))

namespace Sweeps

variable {almanac : Almanac} {config : SunsetLightTempAutomationConfig}
  {st st' : SunsetLightTemp} {log log' : List SunsetEvent} {l : SunsetLabel}

/-- Before the first evening no ramp has swept. -/
theorem initial (config : SunsetLightTempAutomationConfig) : Sweeps config [] .computing :=
  fun _ _ _ => rfl

/-- The events of a ramp start no evening. -/
theorem starts_ramp (i : Nat) (events : List RampEvent) :
    starts (events.map (SunsetEvent.ramp i)) = [] := by
  rw [starts, List.filterMap_map]
  exact List.filterMap_eq_nil_iff.mpr fun _ _ => rfl

/-- The ramps start. -/
theorem start {t : Int} (h : Sweeps config log (.sleeping t)) :
    Sweeps config (log ++ [.started t])
      (SunsetLightTemp.ofJoin (TryJoinAll.start (config.devices.map .start))) := by
  intro i update hi
  have hmade : requestsOf (rampLog i log) = update.sweeps (starts log).length := h i update hi
  have hstarts : (starts (log ++ [.started t])).length = (starts log).length + 1 := by
    simp [starts, SunsetEvent.started?]
  have hlog : rampLog i (log ++ [.started t]) = rampLog i log := by
    rw [rampLog_append]
    exact List.append_nil _
  rw [hstarts, hlog, hmade]
  cases hdevices : config.devices with
  | nil =>
    -- Without devices the evening is over as it starts, but there is no device to ask of
    rw [hdevices] at hi
    cases hi
  | cons first devices =>
    rw [hdevices] at hi
    refine ⟨List.prefix_refl _, .start update, ?_, rfl, (update.sweeps_succ _).symm⟩
    rw [List.getElem?_map, hi, Option.map_some]

/-- One ramp goes on. -/
theorem ramp {ramps : List DeviceRamp} {j : Nat} {ramp ramp' : DeviceRamp} {l' : DeviceRampLabel}
    {events : List RampEvent} (h : Sweeps config log (.ramping ramps))
    (hj : ramps[j]? = some ramp) (hstep : ramp.step l' = some (ramp', events)) :
    Sweeps config (log ++ events.map (.ramp j))
      (SunsetLightTemp.ofJoin (TryJoinAll.after DeviceRamp.result? (ramps.set j ramp') ramp')) := by
  have hlt := (List.getElem?_eq_some_iff.mp hj).1
  obtain ⟨hupdate', hunmade⟩ := DeviceRamp.unmade_step hstep
  intro i update hi
  obtain ⟨hlast, ramp₁, hramp₁, hupdate, hmade⟩ := h i update hi
  have hstarts : starts (log ++ events.map (.ramp j)) = starts log := by
    rw [starts, List.filterMap_append]
    exact (congrArg (starts log ++ ·) (starts_ramp j events)).trans (List.append_nil _)
  rw [hstarts, rampLog_append, requestsOf, List.filterMap_append]
  have hlast := hlast.trans (List.prefix_append _ (requestsOf (rampLog i (events.map (.ramp j)))))
  -- What the ramp of this device has made now, and what it has yet to make
  have hset : (∃ abort, ramp'.result? = some (.error abort)) ∧
        requestsOf (rampLog i log) ++ requestsOf (rampLog i (events.map (.ramp j))) <+:
          update.sweeps (starts log).length ∨
      ∃ ramp₂, (ramps.set j ramp')[i]? = some ramp₂ ∧ ramp₂.update = update ∧
        requestsOf (rampLog i log) ++ requestsOf (rampLog i (events.map (.ramp j))) ++
          ramp₂.unmade = update.sweeps (starts log).length := by
    by_cases hji : j = i
    · subst hji
      rw [rampLog_self]
      obtain rfl := Option.some.inj (hj.symm.trans hramp₁)
      rcases hunmade with ⟨hfailed, hnone⟩ | hunmade
      · rw [hnone, List.append_nil]
        exact .inl ⟨hfailed, ⟨_, hmade⟩⟩
      · refine .inr ⟨ramp', List.getElem?_set_self hlt, hupdate'.trans hupdate, ?_⟩
        rw [List.append_assoc, hunmade, hmade]
    · rw [rampLog_ne hji]
      refine .inr ⟨ramp₁, ?_, hupdate, ?_⟩
      · rw [List.getElem?_set_ne hji, hramp₁]
      · rw [show requestsOf [] = [] from rfl, List.append_nil, hmade]
  -- The first error ends the automation, and the return of the last ramp the evening
  rcases TryJoinAll.after_eq DeviceRamp.result? (ramps.set j ramp') ramp' with
    ⟨abort, -, hafter⟩ | ⟨hruns, ⟨hall, hafter⟩ | ⟨-, hafter⟩⟩
  · rw [hafter]
    rcases hset with ⟨-, hprefix⟩ | ⟨ramp₂, -, -, hmade₂⟩
    · exact ⟨hlast, hprefix⟩
    · exact ⟨hlast, _, hmade₂⟩
  · rw [hafter]
    rcases hset with ⟨⟨abort, habort⟩, -⟩ | ⟨ramp₂, hramp₂, -, hmade₂⟩
    · exact absurd habort (hruns abort)
    · obtain ⟨result, hresult⟩ :=
        Option.ne_none_iff_exists'.mp (hall ramp₂ (List.mem_of_getElem? hramp₂))
      rw [DeviceRamp.unmade_of_result hresult, List.append_nil] at hmade₂
      exact hmade₂
  · rw [hafter]
    rcases hset with ⟨⟨abort, habort⟩, -⟩ | hset
    · exact absurd habort (hruns abort)
    · exact ⟨hlast, hset⟩

/-- A step of the automation. -/
theorem exec (h : Sweeps config log st)
    (hexec : SunsetLightTemp.exec almanac config (st, log) l = some (st', log')) :
    Sweeps config log' st' := by
  rcases SunsetLightTemp.exec_cases hexec with
    ⟨clock, rfl, rfl, hnext⟩ | ⟨t, rfl, rfl, rfl⟩ |
      ⟨ramps, i, l', ramp, ramp', events, rfl, rfl, hi, hstep, rfl, rfl⟩
  · -- between two evenings nothing is requested
    intro i update hi
    have hmade : requestsOf (rampLog i log) = update.sweeps (starts log).length := h i update hi
    have hstarts : starts (log ++ [.computed clock (almanac.wakeTime clock)]) = starts log := by
      rw [starts, List.filterMap_append]
      exact List.append_nil _
    have hlog : rampLog i (log ++ [.computed clock (almanac.wakeTime clock)]) = rampLog i log := by
      rw [rampLog_append]
      exact List.append_nil _
    rw [hstarts, hlog, hmade]
    rcases hnext with ⟨t, -, rfl⟩ | ⟨e, -, rfl⟩
    · exact rfl
    · exact ⟨update.sweeps_pred _, List.prefix_refl _⟩
  · exact h.start
  · exact h.ramp hi hstep

end Sweeps

/-! ## Calls -/

/-- The ramp awaits the call of a request. -/
def DeviceRamp.awaiting (ramp : DeviceRamp) : Nat :=
  match ramp.stage with
  | .requesting _ => 1
  | _ => 0

/-- How many calls the ramp of device `i` awaits. -/
def SunsetLightTemp.awaiting (st : SunsetLightTemp) (i : Nat) : Nat :=
  match st with
  | .ramping ramps => ramps[i]?.elim 0 DeviceRamp.awaiting
  | _ => 0

/-- A call of the ramp of device `i` has returned. -/
def SunsetLabel.answers (i : Nat) : SunsetLabel → Nat
  | .ramp j (.dispatched _) => if j = i then 1 else 0
  | _ => 0

/-- The calls of the ramp of device `i`. -/
def SunsetTask.callsOf (i : Nat) (calls : List (Nat × RequestCall)) : Nat :=
  calls.countP fun call => call.1 = i

/-- Each ramp awaits the call of its request, and there are no other calls. -/
def SunsetTask.Awaits (task : SunsetTask) : Prop :=
  ∀ i, SunsetTask.callsOf i task.calls = task.automation.awaiting i

/-- A step of a ramp takes its answer and makes its next request. -/
theorem DeviceRamp.awaiting_step {ramp ramp' : DeviceRamp} {l : DeviceRampLabel}
    {events : List RampEvent} (h : ramp.step l = some (ramp', events)) (i : Nat) :
    ramp.awaiting = SunsetLabel.answers i (.ramp i l) ∧
      ramp'.awaiting = (requestsOf events).length := by
  -- A turn of the loop makes a request, or ends
  have hnext {update : SunsetDeviceConfig} {range : RangeInclusive}
      (h : DeviceRamp.next update range = (ramp', events)) :
      ramp'.awaiting = (requestsOf events).length := by
    unfold DeviceRamp.next at h
    split at h
    · cases h
      rfl
    · cases h
      rfl
  cases step_cases h with
  | begin h => exact ⟨rfl, hnext h⟩
  | slept h => exact ⟨rfl, hnext h⟩
  | _ => exact ⟨(if_pos rfl).symm, rfl⟩

namespace SunsetTask

variable {almanac : Almanac} {config : SunsetLightTempAutomationConfig} {app app' : AppState}
  {task task' : SunsetTask} {l : SunsetTaskLabel} {st : SunsetLightTemp} {label : SunsetLabel}
  {p : SunsetLightTemp × List SunsetEvent} {calls : List (Nat × RequestCall)}

/-- Only the requests of a ramp begin calls. -/
theorem begun_ramp (i : Nat) (events : List RampEvent) :
    begun (events.map (SunsetEvent.ramp i)) =
      (requestsOf events).map fun request => (i, .begin request) := by
  rw [begun, requestsOf, List.filterMap_map, List.map_filterMap]
  apply List.filterMap_congr
  intro event _
  cases event <;> rfl

/-- The calls of a ramp add up. -/
theorem callsOf_append (i : Nat) (calls calls' : List (Nat × RequestCall)) :
    callsOf i (calls ++ calls') = callsOf i calls + callsOf i calls' :=
  List.countP_append

/-- A ramp begins calls of its own only. -/
theorem callsOf_begun (i j : Nat) (events : List RampEvent) :
    callsOf i (begun (events.map (SunsetEvent.ramp j))) =
      if j = i then (requestsOf events).length else 0 := by
  rw [begun_ramp, callsOf, List.countP_map]
  by_cases hji : j = i
  · simp [hji]
  · simp [hji]

/-- Where the automation has ramps after a step, these await a call less if one has returned, and
the calls that begin. -/
theorem awaiting_step (h : st.step almanac config label = some p) {ramps : List DeviceRamp}
    (hp : p.1 = .ramping ramps) (i : Nat) :
    p.1.awaiting i + label.answers i = st.awaiting i + callsOf i (begun p.2) := by
  have hexec : SunsetLightTemp.exec almanac config (st, []) label = some (p.1, p.2) := by
    rw [SunsetLightTemp.exec, h, Option.map_some, List.nil_append]
  rcases SunsetLightTemp.exec_cases hexec with
    ⟨clock, rfl, -, hnext⟩ | ⟨t, rfl, hevents, hst⟩ |
      ⟨ramps₀, j, l', ramp, ramp', events, rfl, rfl, hj, hstep, hevents, hst⟩
  · rw [hp] at hnext
    rcases hnext with ⟨t, -, hsleeping⟩ | ⟨e, -, hended⟩
    · cases hsleeping
    · cases hended
  · -- ramps that start await nothing yet
    have hlabel : label.answers i = 0 := by
      cases label with
      | ramp j l' => cases h
      | _ => rfl
    rw [hlabel, hevents, hst]
    cases hdevices : config.devices with
    | nil => rfl
    | cons first devices =>
      show (((first :: devices).map DeviceRamp.start)[i]?.elim 0 DeviceRamp.awaiting) = 0
      rw [List.getElem?_map]
      cases (first :: devices)[i]? <;> rfl
  · have hlt := (List.getElem?_eq_some_iff.mp hj).1
    obtain ⟨hawaiting, hawaiting'⟩ := DeviceRamp.awaiting_step hstep i
    -- The evening goes on, so the other ramps are as they were
    have hst' : p.1 = .ramping (ramps₀.set j ramp') := by
      rcases TryJoinAll.after_eq DeviceRamp.result? (ramps₀.set j ramp') ramp' with
        ⟨abort, -, hafter⟩ | ⟨-, ⟨-, hafter⟩ | ⟨-, hafter⟩⟩
      · rw [hst, hafter] at hp
        cases hp
      · rw [hst, hafter] at hp
        cases hp
      · rw [hst, hafter]
        rfl
    rw [hst', hevents, List.nil_append, callsOf_begun]
    show (ramps₀.set j ramp')[i]?.elim 0 DeviceRamp.awaiting + _ =
      ramps₀[i]?.elim 0 DeviceRamp.awaiting + _
    by_cases hji : j = i
    · subst hji
      rw [List.getElem?_set_self hlt, hj, if_pos rfl, Option.elim_some, Option.elim_some,
        hawaiting, hawaiting', Nat.add_comm]
    · have hlabel : SunsetLabel.answers i (.ramp j l') = 0 := by
        cases l' with
        | dispatched result => exact if_neg hji
        | _ => rfl
      rw [List.getElem?_set_ne hji, if_neg hji, hlabel]

/-- Once the automation has no ramps, there are no calls. -/
theorem awaits_after (h : ∀ ramps, p.1 = .ramping ramps →
    ∀ i, callsOf i calls + callsOf i (begun p.2) = p.1.awaiting i) : (after calls p).Awaits := by
  intro i
  unfold after
  split
  · rename_i ramps hp
    rw [← h ramps hp i]
    exact callsOf_append i _ _
  · rename_i hne
    cases hp : p.1 with
    | ramping ramps => exact absurd hp (hne ramps)
    | _ => rfl

/-- A part of the automation leaves each ramp with the call of its request. -/
theorem Awaits.step (h : task.Awaits)
    (hstep : task.step almanac config app l = some (app', task')) : task'.Awaits := by
  cases step_cases hstep with
  | @own label p hl hp =>
    apply awaits_after
    intro ramps hramps i
    have hnext := awaiting_step hp hramps i
    -- What the automation does by itself answers no request
    have hlabel : label.answers i = 0 := by
      cases label with
      | ramp j l' =>
        cases l' with
        | dispatched result => exact absurd rfl (hl j result)
        | _ => rfl
      | _ => rfl
    have hcalls := h i
    omega
  | @goOn j l₀ i₀ call app' call' hj hcall hgo =>
    -- The call goes on in its place
    intro i
    have hkeys (calls : List (Nat × RequestCall)) :
        callsOf i calls = (calls.map Prod.fst).countP fun key => key = i := by
      rw [List.countP_map]
      rfl
    have hkey : (task.calls.map Prod.fst)[j]? = some i₀ := by
      rw [List.getElem?_map, hj, Option.map_some]
    show callsOf i (task.calls.set j (i₀, call')) = task.automation.awaiting i
    rw [← h i, hkeys, hkeys, List.map_set, List.set_of_getElem? hkey]
  | @stop j l₀ i₀ call app' result p hj hcall hp =>
    apply awaits_after
    intro ramps hramps i
    have hnext := awaiting_step hp hramps i
    obtain ⟨hlt, hget⟩ := List.getElem?_eq_some_iff.mp hj
    -- One call less, and its ramp has the answer
    have herase : callsOf i (task.calls.eraseIdx j) +
        SunsetLabel.answers i (.ramp i₀ (.dispatched result)) = callsOf i task.calls := by
      have hperm := List.getElem_cons_eraseIdx_perm hlt
      rw [callsOf, callsOf, ← hperm.countP_eq, hget, List.countP_cons]
      by_cases hi : i₀ = i
      · simp [SunsetLabel.answers, hi]
      · simp [SunsetLabel.answers, hi]
    have hcalls := h i
    omega

/-! ## The automation in a task -/

/-- The step of the automation that a part of its task is, if it is one. -/
def label? (app : AppState) (task : SunsetTask) : SunsetTaskLabel → Option SunsetLabel
  | .own l => some l
  | .request j l =>
    match task.calls[j]? with
    | none => none
    | some (i, call) =>
      match call.step app l with
      | some (_, .returned result) => some (.ramp i (.dispatched result))
      | _ => none

/-- What a part of the task shows of the automation. -/
def events (almanac : Almanac) (config : SunsetLightTempAutomationConfig) (app : AppState)
    (task : SunsetTask) (l : SunsetTaskLabel) : List SunsetEvent :=
  ((task.label? app l).bind fun l => task.automation.step almanac config l).elim [] Prod.snd

/-- A part of the task leaves the automation as it is, or is a step of it. -/
theorem step_automation (h : task.step almanac config app l = some (app', task')) :
    task'.automation = task.automation ∧ task.events almanac config app l = [] ∨
      ∃ label, task.automation.step almanac config label =
        some (task'.automation, task.events almanac config app l) := by
  cases step_cases h with
  -- The automation itself makes the step
  | @own label p hl hp =>
    right
    refine ⟨label, ?_⟩
    rw [hp, automation_after, events, label?, Option.bind_some, hp, Option.elim_some]
  | @goOn j l₀ i₀ call app' call' hj hcall hgo =>
    left
    -- The call goes on, so the automation is told nothing
    have hlabel : task.label? app (.request j l₀) = none := by
      cases call' with
      | returned result => cases hgo
      | _ => simp only [label?, hj, hcall]
    refine ⟨rfl, ?_⟩
    rw [events, hlabel, Option.bind_none, Option.elim_none]
  -- The call has returned, and the automation is told
  | @stop j l₀ i₀ call app' result p hj hcall hp =>
    right
    refine ⟨_, hp.trans ?_⟩
    rw [automation_after, events]
    simp only [label?, hj, hcall, Option.bind_some, hp, Option.elim_some]

end SunsetTask

/-! ## Runs -/

/-- What a part of a task shows of the sunset automation. -/
def ServerTask.sunsetEvents (almanac : Almanac)
    (automationConfig : SunsetLightTempAutomationConfig) (server : ServerState) :
    ServerTask → TaskLabel → List SunsetEvent
  | .sunset task, .sunset l => task.events almanac automationConfig server.app l
  | _, _ => []

/-- The automation in its task: it is as in a run of it alone, and each ramp awaits the call of
its request. -/
structure SunsetTask.Sets (almanac : Almanac) (config : SunsetLightTempAutomationConfig)
    (log : List SunsetEvent) (task : SunsetTask) : Prop where
  alone : ∃ labels, Lts.run (SunsetLightTemp.exec almanac config) (.computing, []) labels =
    some (task.automation, log)
  sweeps : Sweeps config log task.automation
  awaits : task.Awaits

namespace SunsetTask.Sets

variable {almanac : Almanac} {config : SunsetLightTempAutomationConfig} {app app' : AppState}
  {task task' : SunsetTask} {l : SunsetTaskLabel} {log : List SunsetEvent}

/-- The automation begins with nothing set. -/
theorem initial (almanac : Almanac) (config : SunsetLightTempAutomationConfig) :
    Sets almanac config [] ⟨.computing, []⟩ :=
  ⟨⟨[], rfl⟩, .initial config, fun _ => rfl⟩

/-- A step of the automation keeps what it sets within its sweeps. -/
theorem step (h : Sets almanac config log task)
    (hstep : task.step almanac config app l = some (app', task')) :
    Sets almanac config (log ++ task.events almanac config app l) task' := by
  obtain ⟨⟨labels, hlabels⟩, hsweeps, hawaits⟩ := h
  rcases SunsetTask.step_automation hstep with ⟨hautomation, hevents⟩ | ⟨label, hlabel⟩
  · -- the log is as it was
    rw [hevents, List.append_nil]
    exact ⟨⟨labels, by rw [hautomation]; exact hlabels⟩, by rw [hautomation]; exact hsweeps,
      hawaits.step hstep⟩
  · -- the log grows by the events of the step
    have hexec : SunsetLightTemp.exec almanac config (task.automation, log) label =
        some (task'.automation, log ++ task.events almanac config app l) := by
      rw [SunsetLightTemp.exec, hlabel, Option.map_some]
    refine ⟨⟨labels ++ [label], ?_⟩, hsweeps.exec hexec, hawaits.step hstep⟩
    rw [Lts.run_append_of _ hlabels]
    exact Lts.run_cons_of _ hexec

end SunsetTask.Sets

section Runs

variable {env : ServerEnv} {config : Config} {devices : Devices}
  {automationConfig : SunsetLightTempAutomationConfig} {i : Nat}
  {st : System.State ServerState ServerTask}
  {as : List (System.Act Unit TaskStart TaskLabel)}

/-- Every run of the server keeps what the automation sets within its sweeps. -/
theorem SunsetTask.Sets.run
    (hconfig : config.automations.sunsetLightTemp = some automationConfig)
    (hrun : (serverTasks env config).run (serverInitial config devices) as = some st)
    {task : SunsetTask} (hi : st.comps[i]? = some (.sunset task)) :
    Sets env.almanac automationConfig (Lts.observe (serverTasks env config).exec
      (System.shows (ServerTask.sunsetEvents env.almanac automationConfig) i)
      (serverInitial config devices) as) task := by
  refine System.run_shows (P := fun log k => ∀ task, k = ServerTask.sunset task →
    Sets env.almanac automationConfig log task) (fun k hk task htask => ?_)
    -- The automation is a task of `main`, and starts with an empty log
    (fun _ hspawn task htask => ?_) (fun _ _ hstep h task htask => ?_) hrun hi task rfl
  · subst htask
    cases mainTasks_cases (List.mem_of_getElem? hk)
    exact .initial _ _
  · subst htask
    cases acceptTask_cases hspawn
  · subst htask
    cases ServerTask.step_cases hstep with
    -- Its own step, under the configuration it was started with
    | sunset hconfig' hcall hsunset =>
      obtain rfl := Option.some.inj (hconfig.symm.trans hconfig')
      exact (h _ rfl).step hsunset

/-- In every run of the server, with all its tasks in any order: the sunset automation does what it
does alone. After `n` sunsets it has requested the ranges of `n` evenings of each device, each value
once and in order, where only the last evening may not be at its end; it is where the automation
awaits the next sunset. A ramp has one call of its own under way while it awaits an answer, and none
otherwise. -/
theorem server_sunsets (env : ServerEnv) (config : Config) (devices : Devices)
    (automationConfig : SunsetLightTempAutomationConfig)
    (hconfig : config.automations.sunsetLightTemp = some automationConfig)
    (as : List (System.Act Unit TaskStart TaskLabel)) (st : System.State ServerState ServerTask)
    (h : (serverTasks env config).run (serverInitial config devices) as = some st)
    (i : Nat) (task : SunsetTask) (hi : st.comps[i]? = some (.sunset task)) :
    let log := Lts.observe (serverTasks env config).exec
      (System.shows (ServerTask.sunsetEvents env.almanac automationConfig) i)
      (serverInitial config devices) as
    (∃ labels, Lts.run (SunsetLightTemp.exec env.almanac automationConfig) (.computing, [])
        labels = some (task.automation, log)) ∧
      ∀ j update, automationConfig.devices[j]? = some update →
        update.sweeps ((starts log).length - 1) <+: requestsOf (rampLog j log) ∧
          requestsOf (rampLog j log) <+: update.sweeps (starts log).length ∧
          (∀ wake, task.automation = .sleeping wake →
            requestsOf (rampLog j log) = update.sweeps (starts log).length) ∧
          task.calls.countP (fun call => call.1 = j) = task.automation.awaiting j := by
  intro log
  have hsets := SunsetTask.Sets.run hconfig h hi
  refine ⟨hsets.alone, fun j update hj => ?_⟩
  have hswept := hsets.sweeps j update hj
  have hcalls := hsets.awaits j
  cases hst : task.automation with
  -- Between two evenings every ramp has swept its range in full
  | computing | sleeping wake =>
    rw [hst] at hswept hcalls
    have hmade : requestsOf (rampLog j log) = update.sweeps (starts log).length := hswept
    rw [hmade]
    exact ⟨update.sweeps_pred _, List.prefix_refl _, fun _ _ => rfl, hcalls⟩
  | ramping ramps =>
    rw [hst] at hswept hcalls
    -- During an evening the last sweep may be incomplete
    obtain ⟨hlast, ramp, -, -, hmade⟩ := hswept
    exact ⟨hlast, ⟨_, hmade⟩, fun wake hwake => (by cases hwake), hcalls⟩
  -- The automation has ended within an evening or between two
  | ended abort =>
    rw [hst] at hswept hcalls
    exact ⟨hswept.1, hswept.2, fun wake hwake => (by cases hwake), hcalls⟩

end Runs

end Devicectrl

/-! ## A lamp that is dimmed at sunset -/

namespace Devicectrl.ServerTask.Demo

/-- The lamp goes from 1 to 2 over ten seconds. -/
def dimmed : SunsetLightTempAutomationConfig := ⟨[⟨Simple.Demo.lamp, (1, 2), 10⟩]⟩

/-- The server with that sunset and no dependencies. -/
def dimming : Config :=
  { config with automations := ⟨some dimmed, none⟩ }

/-- One evening; the automation is task `1`. -/
def dimmedOnce : List (System.Act Unit TaskStart TaskLabel) :=
  [.step 1 (.sunset (.own (.clock (.at 12)))), .step 1 (.sunset (.own .slept)),
    .step 1 (.sunset (.own (.ramp 0 .poll))), .step 1 (.sunset (.request 0 .poll)),
    .step 1 (.sunset (.request 0 (.dispatched (.ok ())))),
    .step 1 (.sunset (.own (.ramp 0 .slept))), .step 1 (.sunset (.request 0 .poll))]

end Devicectrl.ServerTask.Demo

namespace Devicectrl

open ServerTask.Demo in
/-- The second value of the lamp is the one in flight. -/
theorem server_sunsets_demo :
    ∃ (st : System.State ServerState ServerTask) (task : SunsetTask),
      (serverTasks env dimming).run (serverInitial dimming devices) dimmedOnce = some st ∧
        st.comps[1]? = some (.sunset task) ∧ task.calls.length = 1 ∧
        requestsOf (rampLog 0 (Lts.observe (serverTasks env dimming).exec
          (System.shows (ServerTask.sunsetEvents env.almanac dimmed) 1)
          (serverInitial dimming devices) dimmedOnce)) =
            [⟨Simple.Demo.lamp, .colorTemp (.absolute 1)⟩,
              ⟨Simple.Demo.lamp, .colorTemp (.absolute 2)⟩] ∧
        task.calls.countP (fun call => call.1 = 0) = task.automation.awaiting 0 := by
  -- The events of the run are evaluated, and the theorem counts the calls
  have hrun : ∃ (st : System.State ServerState ServerTask) (task : SunsetTask),
      (serverTasks env dimming).run (serverInitial dimming devices) dimmedOnce = some st ∧
        st.comps[1]? = some (.sunset task) ∧ task.calls.length = 1 ∧
        requestsOf (rampLog 0 (Lts.observe (serverTasks env dimming).exec
          (System.shows (ServerTask.sunsetEvents env.almanac dimmed) 1)
          (serverInitial dimming devices) dimmedOnce)) =
            [⟨Simple.Demo.lamp, .colorTemp (.absolute 1)⟩,
              ⟨Simple.Demo.lamp, .colorTemp (.absolute 2)⟩] := ⟨_, _, rfl, rfl, rfl, rfl⟩
  obtain ⟨st, task, hst, hi, hcalls, hrequests⟩ := hrun
  obtain ⟨-, hdevices⟩ :=
    server_sunsets env dimming devices dimmed rfl dimmedOnce st hst 1 task hi
  exact ⟨st, task, hst, hi, hcalls, hrequests, (hdevices 0 _ rfl).2.2.2⟩

end Devicectrl
