import Devicectrl.Spec.UpdateEffects

/-!
# Relative updates of a Govee light

A Govee controller computes the brightness it sends from the state that is stored when the
request is dispatched, and only a report of the light changes that state. Requests that are
dispatched with no report between them work on the same brightness.

## Key results

- `lightTracks`: the brightness stored for a light is that of the last report
- `sentValues_of_separated`: with a report between any two updates no change is lost
- `sent_from_stored`: what each request for the light sends
-/

namespace Devicectrl

open Govee (BRIGHTNESS_PROPS GOVEE_SEND_PORT buildUpdatePayload buildQueryPayload command)

/-! ## The brightness of a light -/

/-- What has happened to a light. -/
inductive LightEvent where
  /-- Its state was stored. -/
  | stored (state : DeviceState)
  /-- An update of its brightness was dispatched. -/
  | dispatched (update : NumericUpdate)

namespace LightEvent

/-- The update that was dispatched, where the event is a dispatch. -/
def update? : LightEvent → Option NumericUpdate
  | .stored _ => none
  | .dispatched update => some update

/-- The updates among some events. -/
def updates (events : List LightEvent) : List NumericUpdate :=
  events.filterMap update?

/-- The brightness that an update works on, if the state has one. -/
def storedBrightness (env : Govee.Env) : DeviceState → Option NumericState
  | .unknown => some (env.toState BRIGHTNESS_PROPS 0)
  | .dimmableLight state => some state.brightness
  | .colorLight state => some state.brightness
  | _ => none

/-- The brightness that the next update works on, when an update of `base` makes it
`next update base`. -/
def baseAfter (env : Govee.Env) (next : NumericUpdate → NumericState → NumericState)
    (base : Option NumericState) : List LightEvent → Option NumericState
  | [] => base
  | .stored state :: events => baseAfter env next (storedBrightness env state) events
  | .dispatched update :: events => baseAfter env next (base.map (next update)) events

/-- The values of the updates, in the order in which they are dispatched. -/
def values (env : Govee.Env) (next : NumericUpdate → NumericState → NumericState)
    (base : Option NumericState) : List LightEvent → List (Option UInt32)
  | [] => []
  | .stored state :: events => values env next (storedBrightness env state) events
  | .dispatched update :: events =>
    base.map (env.applyTo update) :: values env next (base.map (next update)) events

/-- The brightness that is stored after some events, of which only the reports matter. -/
def storedAfter (env : Govee.Env) (state : DeviceState) (events : List LightEvent) :
    Option NumericState :=
  baseAfter env (fun _ base => base) (storedBrightness env state) events

/-- The values that the controller sends: each update is applied to the stored state. -/
def sentValues (env : Govee.Env) (state : DeviceState) (events : List LightEvent) :
    List (Option UInt32) :=
  values env (fun _ base => base) (storedBrightness env state) events

/-- The values with which nothing is lost: each update is applied to the value that was sent just
before it, or to the stored state if there was none since. -/
def cumulativeValues (env : Govee.Env) (state : DeviceState) (events : List LightEvent) :
    List (Option UInt32) :=
  values env (fun update base => env.toState BRIGHTNESS_PROPS (env.applyTo update base))
    (storedBrightness env state) events

/-- A report is stored between any two updates. -/
def Separated (events : List LightEvent) : Prop :=
  ∀ before update update' after,
    events ≠ before ++ .dispatched update :: .dispatched update' :: after

variable {env : Govee.Env} {next : NumericUpdate → NumericState → NumericState}
  {base : Option NumericState} {events events' : List LightEvent}

/-- The base after two stretches of events, one after the other. -/
theorem baseAfter_append (events events' : List LightEvent) :
    baseAfter env next base (events ++ events') =
      baseAfter env next (baseAfter env next base events) events' := by
  induction events generalizing base with
  | nil => rfl
  | cons event events ih =>
    -- An event decides the base that the rest goes on from
    cases event with
    | stored state => exact ih
    | dispatched update => exact ih

/-- The values of two stretches of events, one after the other. -/
theorem values_append (events events' : List LightEvent) :
    values env next base (events ++ events') =
      values env next base events ++
        values env next (baseAfter env next base events) events' := by
  induction events generalizing base with
  | nil => rfl
  | cons event events ih =>
    cases event with
    | stored state => exact ih
    | dispatched update => exact congrArg _ ih

/-- One value for each update. -/
theorem length_values (events : List LightEvent) :
    (values env next base events).length = (updates events).length := by
  induction events generalizing base with
  | nil => rfl
  | cons event events ih =>
    cases event with
    | stored state => exact ih
    | dispatched update => exact congrArg (· + 1) ih

variable {state : DeviceState}

/-- The updates of two stretches of events, one after the other. -/
theorem updates_append (events events' : List LightEvent) :
    updates (events ++ events') = updates events ++ updates events' :=
  List.filterMap_append

/-- The values sent in two stretches of events, one after the other. -/
theorem sentValues_append (events events' : List LightEvent) :
    sentValues env state (events ++ events') = sentValues env state events ++
      values env (fun _ base => base) (storedAfter env state events) events' :=
  values_append _ _

/-- One value is sent for each update. -/
theorem length_sentValues (events : List LightEvent) :
    (sentValues env state events).length = (updates events).length :=
  length_values _

/-- What is stored is known from the last report. -/
theorem storedAfter_stored (events : List LightEvent) (state' : DeviceState) :
    storedAfter env state (events ++ [.stored state']) = storedBrightness env state' :=
  baseAfter_append _ _

/-- A dispatch stores nothing. -/
theorem storedAfter_dispatched (events : List LightEvent) (update : NumericUpdate) :
    storedAfter env state (events ++ [.dispatched update]) = storedAfter env state events := by
  rw [storedAfter, baseAfter_append, baseAfter, baseAfter, Option.map_id_fun']
  rfl

/-- Two updates with no report between them work on the same brightness. -/
theorem sentValues_adjacent (before : List LightEvent) (update update' : NumericUpdate)
    (after : List LightEvent) :
    [(storedAfter env state before).map (env.applyTo update),
        (storedAfter env state before).map (env.applyTo update')] <+:
      (sentValues env state (before ++ .dispatched update :: .dispatched update' :: after)).drop
        (updates before).length := by
  rw [sentValues_append, ← length_sentValues, List.drop_left]
  -- What is sent leaves the base as it was, so both updates work on the same
  rw [values, values, Option.map_id_fun']
  exact List.prefix_append _ _

/-- A separated run without its first event is separated. -/
theorem Separated.tail {event : LightEvent} (h : Separated (event :: events)) :
    Separated events := by
  rintro before update update' after rfl
  exact h (event :: before) update update' after rfl

/-- With a report between any two updates it makes no difference what an update leaves. -/
theorem values_of_separated {next next' : NumericUpdate → NumericState → NumericState}
    (h : Separated events) : values env next base events = values env next' base events := by
  induction events generalizing base with
  | nil => rfl
  | cons event events ih =>
    cases event with
    | stored state => exact ih h.tail
    | dispatched update =>
      rw [values, values]
      congr 1
      -- What follows is a report, or nothing
      cases events with
      | nil => rfl
      | cons event events =>
        cases event with
        | stored state => exact ih h.tail
        | dispatched update' => exact absurd rfl (h [] update update' events)

/-- In a separated run what is sent is the cumulative value. -/
theorem sentValues_of_separated (h : Separated events) :
    sentValues env state events = cumulativeValues env state events :=
  values_of_separated h

end LightEvent

/-! ## What a request sends -/

/-- The message that sets the brightness of a light. -/
def Govee.brightnessCommand (value : UInt32) : Json.Value :=
  command "brightness" (.single "value" (.ofNat value.toNat))

/-- A request sends `value`, and then its query. -/
def SendsValue (env : ControllerEnv) (config : GoveeControllerConfig) (value : UInt32)
    (emitted : List Emission) : Prop :=
  ∃ data, env.toVec (Govee.brightnessCommand value) = .ok data ∧
    emitted = .datagram config.address GOVEE_SEND_PORT data ::
      (Govee.SendUpdate.commandData env buildQueryPayload).map
        (.datagram config.address GOVEE_SEND_PORT)

open LightEvent (storedBrightness)

/-- The brightness in a Govee payload is the update applied to the stored brightness. -/
theorem Govee.buildUpdatePayload_brightness {env : Govee.Env} {device : Device}
    {update : NumericUpdate} {payload : Json.Value}
    (h : buildUpdatePayload env device (.brightness update) = .ok payload) :
    ∃ base, storedBrightness env device.state = some base ∧
      payload = brightnessCommand (env.applyTo update base) := by
  rw [buildUpdatePayload] at h
  -- The base is read from the state of either kind of light, or is the default
  cases hstate : device.state with
  | unknown =>
    rw [hstate] at h
    cases h
    exact ⟨_, rfl, rfl⟩
  | dimmableLight state =>
    rw [hstate] at h
    cases h
    exact ⟨_, rfl, rfl⟩
  | colorLight state =>
    rw [hstate] at h
    cases h
    exact ⟨_, rfl, rfl⟩
  -- Other states are refused
  | switch state =>
    rw [hstate] at h
    cases h
  | other name fields =>
    rw [hstate] at h
    cases h

/-- A request that is dispatched has the value of the stored state to send. -/
theorem DeviceCall.sendsValue_of_dispatch {env : ControllerEnv} {app : AppState}
    {device : Device} {config : GoveeControllerConfig} {id : DeviceId} {update : NumericUpdate}
    {call : DeviceCall} (hdevice : device.controller = .govee config)
    (h : dispatchUpdate env app device ⟨id, .brightness update⟩ = .inl call) :
    ∃ base, storedBrightness env.govee device.state = some base ∧
      SendsValue env config (env.govee.applyTo update base) (call.left env (.govee config)) := by
  rw [dispatchUpdate, dispatch] at h
  split at h
  · simp only [sendUpdate, hdevice, Govee.SendUpdate.start] at h
    cases hpayload : buildUpdatePayload env.govee device (.brightness update) with
    | error e =>
      rw [hpayload] at h
      cases h
    | ok payload =>
      obtain ⟨base, hbase, rfl⟩ := Govee.buildUpdatePayload_brightness hpayload
      rw [hpayload] at h
      simp only [Govee.SendUpdate.sendCommand] at h
      cases hdata : env.toVec (Govee.brightnessCommand (env.govee.applyTo update base)) with
      | error e =>
        rw [hdata] at h
        cases h
      | ok data =>
        rw [hdata] at h
        cases h
        -- The command waits to be sent, and the query after it
        refine ⟨base, hbase, data, hdata, ?_⟩
        rw [left, Govee.SendUpdate.left, List.flatMap_cons, List.map_eq_flatMap]
        rfl
  · cases h

/-- Nothing is sent before the first await. -/
theorem DeviceCall.dispatch_ne_ok {env : ControllerEnv} {app : AppState} {device : Device}
    {config : GoveeControllerConfig} {request : UpdateRequest}
    (hdevice : device.controller = .govee config) :
    dispatchUpdate env app device request ≠ .inr (.ok ()) := by
  -- A call that has returned at once has failed
  intro h
  rw [dispatchUpdate, dispatch] at h
  split at h
  · -- the payload is refused, or is sent with an await
    simp only [sendUpdate, hdevice, Govee.SendUpdate.start] at h
    split at h
    · cases h
    · simp only [Govee.SendUpdate.sendCommand] at h
      split at h
      · cases h
      · cases h
  · cases h

/-! ## Any number of requests -/

/-- The server, with what has happened to one of its lights. -/
structure LightBoard where
  app : AppState
  events : List LightEvent

/-- An update request, with what it has emitted. `place` is the number of updates that were
dispatched before it; no step reads it. -/
structure LightRequest where
  request : UpdateRequest
  call : UpdateCall
  place : Option Nat
  emitted : List Emission

namespace LightRequest

/-- A request that nothing has been done for. -/
def start (request : UpdateRequest) : LightRequest :=
  ⟨request, .begin request, none, []⟩

/-- The update of light `id` that a step dispatches. -/
def dispatched (id : DeviceId) : UpdateCall → UpdateCall → Option NumericUpdate
  | .begin ⟨id', .brightness update⟩, .dispatching _ _ _ => if id' = id then some update else none
  | _, _ => none

/-- One step of a request, on the board of the light. -/
def step (env : ControllerEnv) (id : DeviceId) (board : LightBoard) (k : LightRequest)
    (l : UpdateLabel) : Option (LightBoard × LightRequest) :=
  (k.call.step env board.app l).map fun p =>
    let update := dispatched id k.call p.2
    (⟨p.1, board.events ++ (update.map .dispatched).toList⟩,
      { k with
        call := p.2
        place := (update.map fun _ => (LightEvent.updates board.events).length) <|> k.place
        emitted := k.emitted ++ k.call.emits l })

end LightRequest

/-- What a task stores for light `id`. -/
def Task.lightEvents (id : DeviceId) : Task → List LightEvent
  | .storeNotification update => if update.deviceId = id then [.stored update.newState] else []
  | _ => []

/-- Any number of requests among all other tasks, and what happens to light `id`. -/
def lightRequests (env : ControllerEnv) (id : DeviceId) :
    System LightBoard LightRequest Task UpdateRequest UpdateLabel where
  env board task := (task.run board.app).map fun app => ⟨app, board.events ++ task.lightEvents id⟩
  spawn board request := some (board, .start request)
  step := LightRequest.step env id

namespace LightRequest

variable {env : ControllerEnv} {id : DeviceId} {config : GoveeControllerConfig} {light : Device}
  {board board' : LightBoard} {k k' : LightRequest} {l : UpdateLabel}

/-- The update is the `n`-th that was dispatched, and `value` the value for it. -/
def Placed (env : ControllerEnv) (light : Device) (events : List LightEvent)
    (update : NumericUpdate) (n : Nat) (value : UInt32) : Prop :=
  (LightEvent.updates events)[n]? = some update ∧
    (LightEvent.sentValues env.govee light.state events)[n]? = some (some value)

/-- What a request for the light has sent, by where it is. -/
inductive Sound (env : ControllerEnv) (config : GoveeControllerConfig)
    (placed : Nat → UInt32 → Prop) : LightRequest → Prop
  | waiting {request} : Sound env config placed ⟨request, .begin request, none, []⟩
  | refused {request e} : Sound env config placed ⟨request, .returned (.error e), none, []⟩
  | sending {request device request' call n value emitted} (hplaced : placed n value)
      (hdevice : device.controller = .govee config)
      (hsends : SendsValue env config value (emitted ++ call.left env (.govee config))) :
      Sound env config placed ⟨request, .dispatching device request' call, some n, emitted⟩
  | sent {request n value emitted} (hplaced : placed n value)
      (hsends : SendsValue env config value emitted) :
      Sound env config placed ⟨request, .returned (.ok ()), some n, emitted⟩
  | failed {request n e emitted} :
      Sound env config placed ⟨request, .returned (.error e), some n, emitted⟩

/-- The stored brightness of the light is that of the last report. -/
def Tracks (env : ControllerEnv) (id : DeviceId) (light : Device) (board : LightBoard) : Prop :=
  ∃ device, board.app.devices.lookup id = some device ∧ device.config = light.config ∧
    storedBrightness env.govee device.state =
      LightEvent.storedAfter env.govee light.state board.events

/-- Soundness only asks that values have been placed, so more of them do no harm. -/
theorem Sound.mono {placed placed' : Nat → UInt32 → Prop}
    (h : ∀ n value, placed n value → placed' n value) (hk : Sound env config placed k) :
    Sound env config placed' k := by
  cases hk with
  | waiting => exact .waiting
  | refused => exact .refused
  | sending hplaced hdevice hsends => exact .sending (h _ _ hplaced) hdevice hsends
  | sent hplaced hsends => exact .sent (h _ _ hplaced) hsends
  | failed => exact .failed

/-- What was dispatched keeps its place and its value. -/
theorem Placed.append {events events' : List LightEvent} {update : NumericUpdate} {n : Nat}
    {value : UInt32} (hkept : events <+: events') (h : Placed env light events update n value) :
    Placed env light events' update n value := by
  obtain ⟨after, rfl⟩ := hkept
  obtain ⟨hupdate, hvalue⟩ := h
  constructor
  · rw [LightEvent.updates_append,
      List.getElem?_append_left (List.getElem?_eq_some_iff.mp hupdate).1]
    exact hupdate
  · rw [LightEvent.sentValues_append,
      List.getElem?_append_left (List.getElem?_eq_some_iff.mp hvalue).1]
    exact hvalue

/-- The update that is dispatched next, on the brightness that is stored. -/
theorem placed_dispatched {events : List LightEvent} {base : NumericState}
    (h : LightEvent.storedAfter env.govee light.state events = some base)
    (update : NumericUpdate) :
    Placed env light (events ++ [.dispatched update]) update (LightEvent.updates events).length
      (env.govee.applyTo update base) := by
  constructor
  · rw [LightEvent.updates_append]
    exact List.getElem?_concat_length
  · rw [LightEvent.sentValues_append, h, ← LightEvent.length_sentValues]
    exact List.getElem?_concat_length

/-- A stored notification is an event of the board, and the only one. -/
theorem Tracks.store {update : UpdateNotification} {app : AppState}
    (h : Tracks env id light board) (hstore : storeNotification update board.app = .ok app) :
    Tracks env id light ⟨app, board.events ++ Task.lightEvents id (.storeNotification update)⟩ := by
  obtain ⟨device, hd, hconfig, hbase⟩ := h
  have hlookup := storeNotification_lookup hstore id
  by_cases hid : update.deviceId = id
  · subst hid
    rw [if_pos rfl, hd, Option.map_some] at hlookup
    refine ⟨_, hlookup, hconfig, ?_⟩
    rw [Task.lightEvents, if_pos rfl, LightEvent.storedAfter_stored]
  · rw [if_neg (Ne.symm hid), hd] at hlookup
    rw [Task.lightEvents, if_neg hid, List.append_nil]
    exact ⟨device, hlookup, hconfig, hbase⟩

/-- A report of the light is stored with its brightness, and other tasks leave it alone. -/
theorem Tracks.task {task : Task} {app : AppState} (h : Tracks env id light board)
    (htask : task.run board.app = some app) :
    Tracks env id light ⟨app, board.events ++ task.lightEvents id⟩ := by
  cases hw : task.isWriter with
  | false =>
    -- A task that stores no state is no event of the light
    obtain ⟨device, hd, hrest⟩ := h
    have hevents : task.lightEvents id = [] := by
      cases task with
      | storeNotification update => cases hw
      | sendHook hook => rfl
      | subscribe => rfl
      | unsubscribe => rfl
    rw [hevents, List.append_nil]
    exact ⟨device, by rw [Task.run_devices hw htask, hd], hrest⟩
  | true =>
    cases Task.run_cases htask with
    | store hstore => exact h.store hstore
    | @unknown update e he =>
      -- The light is configured, so it is another device that is unknown
      by_cases hid : update.deviceId = id
      · subst hid
        obtain ⟨device, hd, -⟩ := h
        rw [lookup_of_storeNotification_error he] at hd
        cases hd
      · rw [Task.lightEvents, if_neg hid, List.append_nil]
        exact h
    | send hr => cases hw
    | closed hr => cases hw
    | subscribe hr => cases hw
    | unsubscribe hr => cases hw

/-- No update changes the stored state. -/
theorem Tracks.dispatch {app : AppState} (h : Tracks env id light board)
    (hdevices : app.devices = board.app.devices) (update : Option NumericUpdate) :
    Tracks env id light ⟨app, board.events ++ (update.map .dispatched).toList⟩ := by
  obtain ⟨device, hd, hconfig, hbase⟩ := h
  refine ⟨device, ?_, hconfig, ?_⟩
  · rw [hdevices, hd]
  · cases update with
    | none => rw [Option.map_none, Option.toList_none, List.append_nil, hbase]
    | some update => rw [Option.map_some, Option.toList_some,
        LightEvent.storedAfter_dispatched, hbase]

/-- A request for the light that has yet to begin is dispatched or refused. -/
theorem Sound.begin {update : NumericUpdate} {app : AppState} {call : UpdateCall}
    (hlight : light.controller = .govee config) (hboard : Tracks env id light board)
    (h : UpdateCall.Step env board.app (.begin ⟨id, .brightness update⟩) .poll app call) :
    Sound env config
      (Placed env light
        (board.events ++ ((dispatched id (.begin ⟨id, .brightness update⟩) call).map
          .dispatched).toList) update)
      ⟨⟨id, .brightness update⟩, call,
        ((dispatched id (.begin ⟨id, .brightness update⟩) call).map
          fun _ => (LightEvent.updates board.events).length) <|> none, []⟩ := by
  cases h with
  | refuse hbegin => exact .refused
  | @send _ device _ hbegin =>
    obtain ⟨device', hd', hconfig, hbase⟩ := hboard
    -- The device of the request is the light, with the stored brightness
    obtain rfl : device = device' :=
      Option.some.inj ((beginUpdateRequest_ok hbegin).1.symm.trans hd')
    have hdevice : device.controller = .govee config := by
      simp only [Device.config, Prod.mk.injEq] at hconfig
      rw [hconfig.2.2, hlight]
    cases hdispatch : DeviceCall.dispatchUpdate env app device ⟨id, .brightness update⟩ with
    | inl call =>
      obtain ⟨base, hstored, hsends⟩ := DeviceCall.sendsValue_of_dispatch hdevice hdispatch
      -- The update takes the next place
      have hplaced := placed_dispatched (hbase.symm.trans hstored) update
      have hdispatched : dispatched id (.begin ⟨id, .brightness update⟩)
          (.dispatching device ⟨id, .brightness update⟩ call) = some update := if_pos rfl
      rw [UpdateCall.after, hdispatched]
      exact .sending hplaced hdevice hsends
    | inr result =>
      cases result with
      | ok _ => exact absurd hdispatch (DeviceCall.dispatch_ne_ok hdevice)
      | error e => exact .refused

/-- A request goes on with its value, until it returns. -/
theorem Sound.device {placed : Nat → UInt32 → Prop} {request request' : UpdateRequest}
    {device : Device} {call : DeviceCall} {place : Option Nat} {emitted : List Emission}
    {l : DeviceLabel} {r : DeviceCall ⊕ Except Error Unit} (h : call.step env l = some r)
    (hk : Sound env config placed
      ⟨request, .dispatching device request' call, place, emitted⟩) :
    Sound env config placed
      ⟨request, .after device request' r, place, emitted ++ call.emits device.controller l⟩ := by
  cases hk with
  | @sending _ _ _ _ n value _ hplaced hdevice hsends =>
    rw [hdevice]
    -- What the step emits is the first of what is left
    have haccounts : DeviceCall.Accounts env (.govee config) call _ r := DeviceCall.step_emits h
    cases r with
    | inl call' =>
      refine .sending hplaced hdevice ?_
      rw [List.append_assoc, show _ ++ call'.left env (.govee config) = _ from haccounts]
      exact hsends
    | inr result =>
      cases result with
      -- Nothing is left, so what was emitted is the whole
      | ok _ =>
        refine .sent hplaced ?_
        rw [show call.emits (.govee config) l = call.left env (.govee config) from haccounts]
        exact hsends
      | error e => exact .failed

/-- A step of a request keeps what it has sent and what it has read sound. -/
theorem Sound.step {update : NumericUpdate} (hlight : light.controller = .govee config)
    (hboard : Tracks env id light board) (hrequest : k.request = ⟨id, .brightness update⟩)
    (hk : Sound env config (Placed env light board.events update) k)
    (h : LightRequest.step env id board k l = some (board', k')) :
    Sound env config (Placed env light board'.events update) k' := by
  obtain ⟨⟨app, call⟩, hstep, he⟩ := Option.map_eq_some_iff.mp h
  cases he
  obtain ⟨request, kcall, place, emitted⟩ := k
  obtain rfl : request = ⟨id, .brightness update⟩ := hrequest
  have hstep := UpdateCall.step_cases hstep
  cases hk with
  | waiting =>
    obtain rfl : l = .poll := by
      cases hstep with
      | refuse hbegin => rfl
      | send hbegin => rfl
    exact .begin hlight hboard hstep
  | sending hplaced hdevice hsends =>
    cases hstep with
    | device hdev =>
      -- A request is dispatched only once
      show Sound env config (Placed env light (board.events ++ []) update) _
      rw [List.append_nil]
      exact (Sound.sending hplaced hdevice hsends).device hdev
  | refused => cases hstep
  | sent hplaced hsends => cases hstep
  | failed => cases hstep

/-- The requests for the light rely on its events being kept. -/
def rely (board board' : LightBoard) : Prop :=
  board.events <+: board'.events

/-- What each request for a Govee light has sent, whatever happens to the light meanwhile. -/
def lightTracks (env : ControllerEnv) (id : DeviceId) (light : Device)
    (config : GoveeControllerConfig) (hlight : light.controller = .govee config) :
    System.RelyGuarantee (lightRequests env id) where
  shared := Tracks env id light
  comp board k := ∀ update, k.request = ⟨id, .brightness update⟩ →
    Sound env config (Placed env light board.events update) k
  rely := rely
  env_ok hboard h := by
    obtain ⟨app, htask, rfl⟩ := Option.map_eq_some_iff.mp h
    exact ⟨hboard.task htask, List.prefix_append _ _⟩
  spawn_ok hboard h := by
    cases h
    exact ⟨hboard, List.prefix_rfl, fun update hrequest => .waiting⟩
  step_ok := by
    intro board k l board' k' hboard hk h
    obtain ⟨⟨app, call⟩, hcall, he⟩ := Option.map_eq_some_iff.mp h
    cases he
    -- An update adds its event and leaves the table as it is
    refine ⟨hboard.dispatch ?_ _, List.prefix_append _ _, fun update hrequest => ?_⟩
    · exact UpdateCall.step_devices hcall
    · have hrequest : k.request = ⟨id, .brightness update⟩ := hrequest
      exact (hk update hrequest).step hlight hboard hrequest h
  stable hrely hk update hrequest := (hk update hrequest).mono fun _ _ h => h.append hrely

end LightRequest

/-- Each request for the brightness of a Govee light that succeeds has sent its update of the
brightness stored when it was dispatched, which is that of the last report. With a report between
any two updates these values are those of updates that work on the value sent before; without
one, the later update works on the same brightness as the earlier. -/
theorem sent_from_stored (env : ControllerEnv) (id : DeviceId) (light : Device)
    (config : GoveeControllerConfig) (hlight : light.controller = .govee config) (app : AppState)
    (hid : app.devices.lookup id = some light)
    (acts : List (System.Act Task UpdateRequest UpdateLabel))
    (st : System.State LightBoard LightRequest)
    (hrun : (lightRequests env id).run ⟨⟨app, []⟩, []⟩ acts = some st) :
    (∀ k ∈ st.comps, ∀ update, k.request = ⟨id, .brightness update⟩ →
      k.call = .returned (.ok ()) → ∃ n value, k.place = some n ∧
        LightRequest.Placed env light st.shared.events update n value ∧
          SendsValue env config value k.emitted) ∧
    (LightEvent.Separated st.shared.events →
      LightEvent.sentValues env.govee light.state st.shared.events =
        LightEvent.cumulativeValues env.govee light.state st.shared.events) ∧
    ∀ before update update' after,
      st.shared.events = before ++ .dispatched update :: .dispatched update' :: after →
        let base := LightEvent.storedAfter env.govee light.state before
        [base.map (env.govee.applyTo update), base.map (env.govee.applyTo update')] <+:
          (LightEvent.sentValues env.govee light.state st.shared.events).drop
            (LightEvent.updates before).length := by
  have hholds := (LightRequest.lightTracks env id light config hlight).run hrun
    ⟨⟨light, hid, rfl, rfl⟩, fun k hk => absurd hk List.not_mem_nil⟩
  refine ⟨fun k hk update hrequest hcall => ?_, LightEvent.sentValues_of_separated, ?_⟩
  · -- a request that has returned `Ok` has sent the value of its place
    have hsound := hholds.2 k hk update hrequest
    obtain ⟨request, call, place, emitted⟩ := k
    cases hsound with
    | sent hplaced hsends => exact ⟨_, _, rfl, hplaced, hsends⟩
    | waiting => cases hcall
    | refused => cases hcall
    | sending hplaced hdevice hsends => cases hcall
    | failed => cases hcall
  · rintro before update update' after hevents
    rw [hevents]
    exact LightEvent.sentValues_adjacent before update update' after

/-! ## A lamp that is brightened twice -/

namespace LightRequest.Demo

/-- The light answers at this address. -/
def config : GoveeControllerConfig := ⟨0x0A000002⟩

/-- The lamp has reported a brightness of 50. -/
def lamp : Device :=
  ⟨⟨"lamp"⟩, .dimmableLight, .dimmableLight ⟨.on, ⟨BRIGHTNESS_PROPS, 50⟩⟩, .govee config⟩

def app : AppState :=
  .new (AList.insert lamp.id lamp ∅) ⟨false, false, false, true⟩

/-- Ten more than it is. -/
def brighter : NumericUpdate := .other [10]

/-- The datagram that sets the brightness to 60. -/
def setTo60 : List UInt8 :=
  "\x7b\"msg\":\x7b\"cmd\":\"brightness\",\"data\":\x7b\"value\":60\x7d\x7d\x7d".toUTF8.data.toList

/-- The datagram that sets the brightness to 70. -/
def setTo70 : List UInt8 :=
  "\x7b\"msg\":\x7b\"cmd\":\"brightness\",\"data\":\x7b\"value\":70\x7d\x7d\x7d".toUTF8.data.toList

/-- The datagram that asks for the state. -/
def query : List UInt8 :=
  "\x7b\"msg\":\x7b\"cmd\":\"devStatus\",\"data\":\x7b\x7d\x7d\x7d".toUTF8.data.toList

/-- Ten is added, and a payload is its text. -/
def env : ControllerEnv where
  fromSlice _ := .error ["expected value at line 1 column 1"]
  toVec v :=
    match (((v.index "msg").index "data").index "value").asU64 with
    | some 60 => .ok setTo60
    | some 70 => .ok setTo70
    | _ => .ok query
  govee := ⟨fun _ => .error ["expected value at line 1 column 1"],
    fun props value => ⟨props, value⟩,
    fun update state =>
      match update with
      | .absolute value => value
      | .other _ => state.value + 10⟩

def request : UpdateRequest := ⟨lamp.id, .brightness brighter⟩

/-- Request `i` from its send to its end. -/
def finish (i : Nat) : List (System.Act Task UpdateRequest UpdateLabel) :=
  [.step i (.device (.sent (.ok ()))), .step i (.device .slept),
    .step i (.device (.sent (.ok ())))]

/-- Both requests are dispatched before the lamp reports. -/
def both : List (System.Act Task UpdateRequest UpdateLabel) :=
  [.spawn request, .spawn request, .step 0 .poll, .step 1 .poll] ++ finish 0 ++ finish 1

/-- What is sent to the lamp. -/
def toLamp (data : List UInt8) : Emission :=
  .datagram config.address GOVEE_SEND_PORT data

end LightRequest.Demo

open LightRequest in
/-- A request on its own sends ten more than what is stored. -/
theorem sent_from_stored_lamp :
    ∃ st, (lightRequests Demo.env Demo.lamp.id).run ⟨⟨Demo.app, []⟩, []⟩
        ([.spawn Demo.request, .step 0 .poll] ++ Demo.finish 0) = some st ∧
      ∃ k ∈ st.comps, k.emitted = [Demo.toLamp Demo.setTo60, Demo.toLamp Demo.query] ∧
        ∃ n value, k.place = some n ∧
          Placed Demo.env Demo.lamp st.shared.events Demo.brighter n value ∧
            SendsValue Demo.env Demo.config value k.emitted := by
  -- The one request of the run is evaluated, and the theorem says what it has sent
  have hrun : ∃ st, (lightRequests Demo.env Demo.lamp.id).run ⟨⟨Demo.app, []⟩, []⟩
      ([.spawn Demo.request, .step 0 .poll] ++ Demo.finish 0) = some st ∧
        ∃ k, st.comps = [k] ∧ k.request = Demo.request ∧ k.call = .returned (.ok ()) ∧
          k.emitted = [Demo.toLamp Demo.setTo60, Demo.toLamp Demo.query] :=
    ⟨_, rfl, _, rfl, rfl, rfl, rfl⟩
  obtain ⟨st, hst, k, hcomps, hrequest, hcall, hemitted⟩ := hrun
  have hk : k ∈ st.comps := by
    rw [hcomps]
    exact List.mem_cons_self
  refine ⟨st, hst, k, hk, hemitted, ?_⟩
  exact (sent_from_stored Demo.env Demo.lamp.id Demo.lamp Demo.config rfl Demo.app rfl _ st
    hst).1 k hk Demo.brighter hrequest hcall

open LightRequest in
/-- Of two requests for ten more, dispatched before the lamp reports, both send 60: the first is
lost, where the second should have sent 70. -/
theorem relative_update_lost :
    ∃ st, (lightRequests Demo.env Demo.lamp.id).run ⟨⟨Demo.app, []⟩, []⟩ Demo.both = some st ∧
      (∀ k ∈ st.comps, k.call = .returned (.ok ()) ∧
        k.emitted = [Demo.toLamp Demo.setTo60, Demo.toLamp Demo.query]) ∧
      LightEvent.sentValues Demo.env.govee Demo.lamp.state st.shared.events =
        [some 60, some 60] ∧
      LightEvent.cumulativeValues Demo.env.govee Demo.lamp.state st.shared.events =
        [some 60, some 70] := by
  -- Both requests return, and each has sent its value and its query
  have hrun : ∃ st, (lightRequests Demo.env Demo.lamp.id).run ⟨⟨Demo.app, []⟩, []⟩ Demo.both =
      some st ∧ (∃ k k', st.comps = [k, k'] ∧
        (k.call = .returned (.ok ()) ∧
          k.emitted = [Demo.toLamp Demo.setTo60, Demo.toLamp Demo.query]) ∧
        k'.call = .returned (.ok ()) ∧
          k'.emitted = [Demo.toLamp Demo.setTo60, Demo.toLamp Demo.query]) ∧
      LightEvent.sentValues Demo.env.govee Demo.lamp.state st.shared.events =
        [some 60, some 60] ∧
      LightEvent.cumulativeValues Demo.env.govee Demo.lamp.state st.shared.events =
        [some 60, some 70] :=
    ⟨_, rfl, ⟨_, _, rfl, ⟨rfl, rfl⟩, rfl, rfl⟩, rfl, rfl⟩
  obtain ⟨st, hst, ⟨k, k', hcomps, hk, hk'⟩, hvalues⟩ := hrun
  refine ⟨st, hst, fun k₁ hmem => ?_, hvalues⟩
  rw [hcomps] at hmem
  rcases List.mem_cons.mp hmem with rfl | hmem
  · exact hk
  · rw [List.mem_singleton.mp hmem]
    exact hk'

end Devicectrl
