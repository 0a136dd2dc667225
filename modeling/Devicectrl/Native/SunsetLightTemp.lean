import Devicectrl.ForStd.LockedFutures
import Devicectrl.ForStd.RangeInclusive
import Devicectrl.Native.AppState

/-!
# The sunset automation

`start_automation` of `automations/sunset_light_temp.rs`, cut where it awaits: the clock is read,
it sleeps, and it ramps the colour temperature of each device. Instants are counted from some
origin; a sleep ends at the instant it was computed for.
-/

namespace Devicectrl

open RwLock (TryJoinAll)

/-! ## When the sun sets -/

/-- What the automation takes from the `sunrise` crate at its coordinates, and from the calendar
of the local time zone. -/
structure Almanac where
  /-- The local date of an instant. -/
  localDay : Int → Int
  /-- `SolarEvent::Sunset` on a date. -/
  sunset : Int → Int
  /-- `SolarEvent::Dusk(DawnType::Civil)` on a date. -/
  dusk : Int → Int
  /-- `checked_add_days(Days::new(1))` of an instant in local time. -/
  addDay : Int → Option Int
  localDay_le : ∀ {t t'}, t ≤ t' → localDay t ≤ localDay t'
  sunset_lt : ∀ {day day'}, day < day' → sunset day < sunset day'
  localDay_sunset : ∀ day, localDay (sunset day) = day
  localDay_dusk : ∀ day, localDay (dusk day) = day
  sunset_lt_dusk : ∀ day, sunset day < dusk day
  localDay_addDay : ∀ {t t'}, addDay t = some t' → localDay t' = localDay t + 1

/-- What one pass of the loop reads off the clock: `Local::now()` for the date of today,
`Utc::now()`, and `Local::now()` again where the date of tomorrow is needed. -/
structure ClockReadings where
  today : Int
  now : Int
  tomorrow : Int
  today_le_now : today ≤ now
  now_le_tomorrow : now ≤ tomorrow

/-- A clock that does not move while it is read. -/
def ClockReadings.at (now : Int) : ClockReadings :=
  ⟨now, now, now, Int.le_refl now, Int.le_refl now⟩

/-- `TimeDelta::to_std`: there is no negative duration. -/
def toStd (delta : Int) : Except Error Nat :=
  if 0 ≤ delta then .ok delta.toNat
  else .error ["Source duration value is out of range for the target type"]

/-- `wait_time` -/
def Almanac.waitTime (almanac : Almanac) (clock : ClockReadings) : Except Error Nat :=
  let sunset := almanac.sunset (almanac.localDay clock.today)
  if sunset > clock.now then
    withContext "sunset duration could not be found" (toStd (sunset - clock.now))
  else
    match almanac.addDay clock.tomorrow with
    | none => .error ["tmr could not be determined"]
    | some tomorrow =>
      let tmrSunset := almanac.dusk (almanac.localDay tomorrow)
      withContext "tmr's sunset duration could not be found" (toStd (tmrSunset - clock.now))

/-- The instant until which the automation sleeps. -/
def Almanac.wakeTime (almanac : Almanac) (clock : ClockReadings) : Except Error Int :=
  (almanac.waitTime clock).map fun waitTime => clock.now + waitTime

/-! ## The ramp of one device -/

/-- What ends the automation. A panic unwinds through `try_join_all` and drops what it joins, as
an error does. -/
inductive Abort where
  | error (e : Error)
  | panic (message : String)
  deriving DecidableEq

/-- What the `async` block of one device does next. `rest` is the range of the `for` loop. -/
inductive RampStage where
  | begin
  | requesting (rest : RangeInclusive)
  | sleeping (rest : RangeInclusive)
  | returned (result : Except Abort Unit)
  deriving DecidableEq

/-- The `async` block of one device, with the configuration it captures. -/
structure DeviceRamp where
  update : SunsetDeviceConfig
  stage : RampStage
  deriving DecidableEq

/-- What the block awaits ends. -/
inductive DeviceRampLabel where
  | poll
  /-- `process_update_request` returns. -/
  | dispatched (result : Except Error Unit)
  | slept
  deriving DecidableEq

/-- What the ramp of a device does that can be observed. -/
inductive RampEvent where
  | request (request : UpdateRequest)
  | sleep (secs : UInt64)
  deriving DecidableEq

/-- The pause after a request, in seconds. The subtraction is checked as in a debug build. -/
def SunsetDeviceConfig.pause (update : SunsetDeviceConfig) : Except String UInt64 :=
  let (start, stop) := update.colorTempRange
  if stop < start then .error "attempt to subtract with overflow"
  else
    let width := (stop - start).toUInt64
    if width = 0 then .error "attempt to divide by zero"
    else .ok (update.totalDurationSecs / width)

/-- The request that sets a colour temperature. -/
def SunsetDeviceConfig.request (update : SunsetDeviceConfig) (colorTemp : UInt32) :
    UpdateRequest :=
  ⟨update.deviceId, .colorTemp (.absolute colorTemp)⟩

namespace DeviceRamp

/-- The result of a ramp that is over. -/
def result? (ramp : DeviceRamp) : Option (Except Abort Unit) :=
  match ramp.stage with
  | .returned result => some result
  | _ => none

/-- The block of a device begins. -/
def start (update : SunsetDeviceConfig) : DeviceRamp :=
  ⟨update, .begin⟩

/-- The `for` loop takes the next value of its range. -/
def next (update : SunsetDeviceConfig) (range : RangeInclusive) : DeviceRamp × List RampEvent :=
  match range.next with
  | none => (⟨update, .returned (.ok ())⟩, [])
  | some (colorTemp, rest) => (⟨update, .requesting rest⟩, [.request (update.request colorTemp)])

/-- One part of the block, and what is observed of it. -/
def step (ramp : DeviceRamp) : DeviceRampLabel → Option (DeviceRamp × List RampEvent)
  | .poll =>
    match ramp.stage with
    | .begin =>
      some (next ramp.update (.new ramp.update.colorTempRange.1 ramp.update.colorTempRange.2))
    | _ => none
  | .dispatched result =>
    match ramp.stage, result with
    | .requesting _, .error e => some (⟨ramp.update, .returned (.error (.error e))⟩, [])
    -- The first request has been dispatched before the pause is computed
    | .requesting rest, .ok () =>
      match ramp.update.pause with
      -- A range of one value is divided by zero, and the task panics
      | .error message => some (⟨ramp.update, .returned (.error (.panic message))⟩, [])
      | .ok secs => some (⟨ramp.update, .sleeping rest⟩, [.sleep secs])
    | _, _ => none
  | .slept =>
    match ramp.stage with
    -- The next value of the `for` loop, or the end of it
    | .sleeping rest => some (next ramp.update rest)
    | _ => none

/-- A step, after what has been observed. -/
def exec (p : DeviceRamp × List RampEvent) (l : DeviceRampLabel) :
    Option (DeviceRamp × List RampEvent) :=
  (p.1.step l).map fun q => (q.1, p.2 ++ q.2)

end DeviceRamp

/-! ## The loop -/

/-- The automation, by where it awaits. It is `computing` at the top of the loop. -/
inductive SunsetLightTemp where
  | computing
  | sleeping (wake : Int)
  | ramping (ramps : List DeviceRamp)
  | ended (abort : Abort)
  deriving DecidableEq

/-- The clock is read, the sleep is over, or a ramp goes on. -/
inductive SunsetLabel where
  | clock (readings : ClockReadings)
  | slept
  | ramp (i : Nat) (l : DeviceRampLabel)

/-- What the automation does that can be observed: it computes the instant to sleep until, starts
the ramps at an instant, and goes on with one of them. -/
inductive SunsetEvent where
  | computed (clock : ClockReadings) (wake : Except Error Int)
  | started (instant : Int)
  | ramp (i : Nat) (event : RampEvent)

namespace SunsetLightTemp

/-- `try_join_all(..).await?`, and back to the top of the loop. -/
def ofJoin : TryJoinAll DeviceRamp Abort → SunsetLightTemp
  | .joining ramps => .ramping ramps
  | .returned (.ok ()) => .computing
  | .returned (.error abort) => .ended abort

/-- One part of the automation, and what is observed of it. -/
def step (almanac : Almanac) (config : SunsetLightTempAutomationConfig) :
    SunsetLightTemp → SunsetLabel → Option (SunsetLightTemp × List SunsetEvent)
  | .computing, .clock readings =>
    -- `wait_time` on the clock that this turn has read
    let wake := almanac.wakeTime readings
    match wake with
    | .error e => some (.ended (.error e), [.computed readings wake])
    | .ok t => some (.sleeping t, [.computed readings wake])
  | .sleeping wake, .slept =>
    -- All devices ramp at the same time
    some (ofJoin (TryJoinAll.start (config.devices.map .start)), [.started wake])
  | .ramping ramps, .ramp i l =>
    match ramps[i]? with
    | none => none
    | some ramp =>
      (ramp.step l).map fun q =>
        (ofJoin (TryJoinAll.after DeviceRamp.result? (ramps.set i q.1) q.1),
          q.2.map (.ramp i))
  | _, _ => none

/-- A step, after what has been observed. -/
def exec (almanac : Almanac) (config : SunsetLightTempAutomationConfig)
    (p : SunsetLightTemp × List SunsetEvent) (l : SunsetLabel) :
    Option (SunsetLightTemp × List SunsetEvent) :=
  (p.1.step almanac config l).map fun q => (q.1, p.2 ++ q.2)

end SunsetLightTemp

end Devicectrl
