import Devicectrl.ForStd.System
import Devicectrl.Native.SunsetLightTemp
import Mathlib.Data.List.Chain

/-!
# When the sunset automation wakes

Today's sunset, while it is yet to come, is the next one. Otherwise the automation takes an event
of tomorrow, but dusk, not sunset.

## Key results

- `Almanac.wakeTime_nextSunset_iff`: the automation sleeps until the next sunset exactly when
  today's is yet to come
- `wakes_at_sunsets_iff`: so a run wakes at the sunsets of successive days exactly when each pass
  of the loop finds today's sunset yet to come
-/

namespace Devicectrl

open RwLock (TryJoinAll)

namespace Almanac

variable {almanac : Almanac} {clock : ClockReadings} {t : Int}

/-- `t` is the earliest sunset strictly after `now`. -/
structure NextSunset (almanac : Almanac) (now t : Int) : Prop where
  after : now < t
  sunset : ∃ day, almanac.sunset day = t
  earliest : ∀ day, now < almanac.sunset day → t ≤ almanac.sunset day

/-- Today's sunset is yet to come. -/
def BeforeSunset (almanac : Almanac) (clock : ClockReadings) : Prop :=
  clock.now < almanac.sunset (almanac.localDay clock.today)

/-- A span of time that is not negative is kept. -/
theorem toStd_eq_ok {delta : Int} {secs : Nat} (h : toStd delta = .ok secs) :
    (secs : Int) = delta := by
  rw [toStd] at h
  split at h
  · rename_i hle
    cases h
    exact Int.toNat_of_nonneg hle
  · cases h

/-- A context does not change what succeeds. -/
theorem withContext_eq_ok {α : Type} {c : String} {r : Except Error α} {a : α}
    (h : withContext c r = .ok a) : r = .ok a := by
  cases r with
  | ok b => exact h
  | error e => cases h

/-- Before sunset the loop sleeps until today's. -/
theorem wakeTime_of_before (h : almanac.BeforeSunset clock) :
    almanac.wakeTime clock = .ok (almanac.sunset (almanac.localDay clock.today)) := by
  have hlt : almanac.sunset (almanac.localDay clock.today) > clock.now := h
  -- Today's sunset is still to come, and the wait is what is left until then
  have hwait : almanac.waitTime clock =
      .ok (almanac.sunset (almanac.localDay clock.today) - clock.now).toNat := by
    simp only [waitTime, if_pos hlt, toStd]
    rw [if_pos (by omega)]
    rfl
  -- The wait and the time of the reading together are the sunset
  have hback : clock.now +
      ((almanac.sunset (almanac.localDay clock.today) - clock.now).toNat : Int) =
        almanac.sunset (almanac.localDay clock.today) := by
    omega
  rw [wakeTime, hwait]
  exact congrArg Except.ok hback

/-- After today's sunset it is dusk that the automation sleeps until. -/
theorem wakeTime_of_not_before (h : ¬almanac.BeforeSunset clock)
    (hwake : almanac.wakeTime clock = .ok t) : ∃ day, t = almanac.dusk day := by
  have hlt : ¬almanac.sunset (almanac.localDay clock.today) > clock.now := h
  simp only [wakeTime] at hwake
  cases hwait : almanac.waitTime clock with
  | error e =>
    rw [hwait] at hwake
    cases hwake
  | ok secs =>
    rw [hwait] at hwake
    cases hwake
    -- The branch for tomorrow asks for dusk, and may find no such day
    simp only [waitTime, if_neg hlt] at hwait
    split at hwait
    · cases hwait
    · rename_i tomorrow _
      have hsecs := toStd_eq_ok (withContext_eq_ok hwait)
      refine ⟨almanac.localDay tomorrow, ?_⟩
      show clock.now + (secs : Int) = _
      omega

/-- Dusk is no sunset, of whatever day. -/
theorem dusk_ne_sunset (almanac : Almanac) (day day' : Int) :
    almanac.dusk day ≠ almanac.sunset day' := by
  intro he
  -- Both lie within their days, so the days would be the same
  have hday : day = day' := by
    rw [← almanac.localDay_dusk day, he, almanac.localDay_sunset]
  have hlt := almanac.sunset_lt_dusk day
  rw [he, hday] at hlt
  omega

/-- Sunsets come in the order of their days. -/
theorem sunset_le_iff (almanac : Almanac) {day day' : Int} :
    almanac.sunset day ≤ almanac.sunset day' ↔ day ≤ day' := by
  constructor
  · intro hle
    by_contra hgt
    have hlt : almanac.sunset day' < almanac.sunset day := almanac.sunset_lt (by omega)
    omega
  · intro hle
    by_cases heq : day = day'
    · rw [heq]
    · have hlt : almanac.sunset day < almanac.sunset day' := almanac.sunset_lt (by omega)
      omega

/-- Today's sunset, if it is yet to come, is the next one: those of earlier days are over. -/
theorem nextSunset_of_before (h : almanac.BeforeSunset clock) :
    almanac.NextSunset clock.now (almanac.sunset (almanac.localDay clock.today)) where
  after := h
  sunset := ⟨_, rfl⟩
  earliest := by
    intro day hday
    have hle : clock.today ≤ almanac.sunset day := by
      have := clock.today_le_now
      omega
    have hday' := almanac.localDay_le hle
    rw [almanac.localDay_sunset] at hday'
    exact almanac.sunset_le_iff.mpr hday'

/-- The automation sleeps until the next sunset exactly when today's is yet to come. -/
theorem wakeTime_nextSunset_iff (almanac : Almanac) (clock : ClockReadings) :
    (∃ t, almanac.wakeTime clock = .ok t ∧ almanac.NextSunset clock.now t) ↔
      almanac.BeforeSunset clock := by
  constructor
  · rintro ⟨t, hwake, hnext⟩
    by_contra hbefore
    -- It would sleep until dusk, which is no sunset
    obtain ⟨day, rfl⟩ := wakeTime_of_not_before hbefore hwake
    obtain ⟨day', hday'⟩ := hnext.sunset
    exact almanac.dusk_ne_sunset day day' hday'.symm
  · intro h
    exact ⟨_, wakeTime_of_before h, nextSunset_of_before h⟩

/-- When a ramp that started at one sunset ends before the next, what is next is the sunset of
the day after. -/
theorem localDay_eq_succ {day : Int} (hstart : almanac.sunset day ≤ clock.today)
    (hend : clock.now < almanac.sunset (day + 1)) (hbefore : almanac.BeforeSunset clock) :
    almanac.localDay clock.today = day + 1 := by
  have hle : almanac.localDay clock.today ≤ day + 1 := by
    have := (nextSunset_of_before hbefore).earliest (day + 1) hend
    exact almanac.sunset_le_iff.mp this
  have hlt : day < almanac.localDay clock.today := by
    by_contra hge
    have hle' := almanac.sunset_le_iff.mpr (Int.not_lt.mp hge)
    have := clock.today_le_now
    have hnow : clock.now < almanac.sunset (almanac.localDay clock.today) := hbefore
    omega
  omega

end Almanac

/-! ## Runs of the loop -/

namespace SunsetEvent

/-- The event says at what time something happens. -/
def isClock : SunsetEvent → Bool
  | .ramp _ _ => false
  | _ => true

/-- The instant at which the ramps were started. -/
def started? : SunsetEvent → Option Int
  | .started instant => some instant
  | _ => none

/-- Time goes on from the start of a ramp to the next reading of the clock, and the ramp ends
before the next sunset. -/
def EndsInTime (almanac : Almanac) : SunsetEvent → SunsetEvent → Prop
  | .started instant, .computed clock _ =>
    instant ≤ clock.today ∧ ∀ day, instant < almanac.sunset day → clock.now < almanac.sunset day
  | _, _ => True

/-- What the loop does next on the clock: it sleeps as long as it computed, and computes again
after the ramps. -/
def Next (almanac : Almanac) : SunsetEvent → SunsetEvent → Prop
  | .computed _ wake, .started instant => wake = .ok instant
  | .started _, .computed clock wake => wake = almanac.wakeTime clock
  | _, _ => False

end SunsetEvent

/-- The instants at which ramps start. -/
def starts (log : List SunsetEvent) : List Int :=
  log.filterMap SunsetEvent.started?

/-- Each ramp of a run ends before the next sunset. -/
def RampsEndInTime (almanac : Almanac) (log : List SunsetEvent) : Prop :=
  (log.filter SunsetEvent.isClock).IsChain (SunsetEvent.EndsInTime almanac)

/-- The instants are the sunsets of `day`, of the next day, and so on. -/
def Almanac.Successive (almanac : Almanac) : Int → List Int → Prop
  | _, [] => True
  | day, t :: ts => t = almanac.sunset day ∧ almanac.Successive (day + 1) ts

/-- The automation sleeps until the next sunset each time, and its ramps start at the sunsets of
successive days. -/
structure WakesAtSunsets (almanac : Almanac) (log : List SunsetEvent) : Prop where
  wakes : ∀ clock wake, .computed clock wake ∈ log →
    ∃ t, wake = .ok t ∧ almanac.NextSunset clock.now t
  starts : ∃ day, almanac.Successive day (starts log)

/-- Each time the clock is read in a run, today's sunset is yet to come. -/
def ReadBeforeSunset (almanac : Almanac) (log : List SunsetEvent) : Prop :=
  ∀ clock wake, .computed clock wake ∈ log → almanac.BeforeSunset clock

/-! ### What a run logs -/

namespace SunsetLightTemp

variable {almanac : Almanac} {config : SunsetLightTempAutomationConfig}
variable {st st' : SunsetLightTemp} {log log' : List SunsetEvent} {l : SunsetLabel}

/-- What a step does: it computes a wake, starts the ramps, or goes on with one of them. -/
theorem exec_cases (h : exec almanac config (st, log) l = some (st', log')) :
    (∃ clock, st = .computing ∧ log' = log ++ [.computed clock (almanac.wakeTime clock)] ∧
      ((∃ t, almanac.wakeTime clock = .ok t ∧ st' = .sleeping t) ∨
        ∃ e, almanac.wakeTime clock = .error e ∧ st' = .ended (.error e))) ∨
    (∃ t, st = .sleeping t ∧ log' = log ++ [.started t] ∧
      st' = ofJoin (TryJoinAll.start (config.devices.map .start))) ∨
    ∃ ramps i l' ramp ramp' events, st = .ramping ramps ∧ l = .ramp i l' ∧
      ramps[i]? = some ramp ∧ ramp.step l' = some (ramp', events) ∧
      log' = log ++ events.map (.ramp i) ∧
      st' = ofJoin (TryJoinAll.after DeviceRamp.result? (ramps.set i ramp') ramp') := by
  obtain ⟨q, hq, he⟩ := Option.map_eq_some_iff.mp h
  cases he
  -- Split by the stage; each has a label of its own
  cases st with
  | computing =>
    cases l with
    | clock readings =>
      refine .inl ⟨readings, rfl, ?_⟩
      -- The wake time is computed from the readings, or the loop ends with its error
      simp only [step] at hq
      split at hq
      · rename_i e hwake
        cases hq
        exact ⟨rfl, .inr ⟨e, hwake, rfl⟩⟩
      · rename_i t hwake
        cases hq
        exact ⟨rfl, .inl ⟨t, hwake, rfl⟩⟩
    | slept => cases hq
    | ramp i l' => cases hq
  | sleeping t =>
    cases l with
    | clock readings => cases hq
    | slept =>
      cases hq
      exact .inr (.inl ⟨t, rfl, rfl, rfl⟩)
    | ramp i l' => cases hq
  | ramping ramps =>
    cases l with
    | clock readings => cases hq
    | slept => cases hq
    | ramp i l' =>
      -- A ramp steps, and the join is read off those that have returned
      simp only [step] at hq
      split at hq
      · cases hq
      · rename_i ramp hramp
        obtain ⟨p, hp, hq⟩ := Option.map_eq_some_iff.mp hq
        cases hq
        exact .inr (.inr ⟨ramps, i, l', ramp, p.1, p.2, rfl, rfl, hramp, hp, rfl, rfl⟩)
  | ended abort => cases hq

/-- After a step of a ramp the loop goes on with the ramps, is back at its top, or has ended. -/
theorem ofJoin_cases (t : TryJoinAll DeviceRamp Abort) :
    (∃ ramps, t = .joining ramps ∧ ofJoin t = .ramping ramps) ∨
      (t = .returned (.ok ()) ∧ ofJoin t = .computing) ∨
      ∃ abort, t = .returned (.error abort) ∧ ofJoin t = .ended abort := by
  cases t with
  | joining ramps => exact .inl ⟨ramps, rfl, rfl⟩
  | returned result =>
    cases result with
    | ok _ => exact .inr (.inl ⟨rfl, rfl⟩)
    | error abort => exact .inr (.inr ⟨abort, rfl, rfl⟩)

/-- What the last event on the clock tells about where the loop is. -/
def LastEvent (last : Option SunsetEvent) : SunsetLightTemp → Prop
  | .computing => ∀ e ∈ last, ∃ t, e = .started t
  | .sleeping t => ∃ clock, last = some (.computed clock (.ok t))
  | .ramping _ => ∃ t, last = some (.started t)
  | .ended _ => True

/-- After the join the loop computes again, ramps or has ended. -/
theorem LastEvent.ofJoin (t : Int) (join : TryJoinAll DeviceRamp Abort) :
    LastEvent (some (.started t)) (ofJoin join) := by
  rcases ofJoin_cases join with ⟨ramps, -, h⟩ | ⟨-, h⟩ | ⟨abort, -, h⟩
  · rw [h]
    exact ⟨t, rfl⟩
  · rw [h]
    intro e he
    cases he
    exact ⟨t, rfl⟩
  · rw [h]
    trivial

/-- The events on the clock follow each other as the loop goes, and lead to where it is. -/
structure OnClock (almanac : Almanac) (p : SunsetLightTemp × List SunsetEvent) : Prop where
  chain : (p.2.filter SunsetEvent.isClock).IsChain (SunsetEvent.Next almanac)
  first : ∀ e ∈ (p.2.filter SunsetEvent.isClock).head?, ∃ clock,
    e = .computed clock (almanac.wakeTime clock)
  last : LastEvent (p.2.filter SunsetEvent.isClock).getLast? p.1

/-- The events of a ramp are not on the clock. -/
theorem filter_ramp (i : Nat) (events : List RampEvent) :
    (events.map (SunsetEvent.ramp i)).filter SunsetEvent.isClock = [] := by
  simp [List.filter_eq_nil_iff, SunsetEvent.isClock]

/-- One more event on the clock. -/
theorem OnClock.event {e : SunsetEvent} (hp : OnClock almanac (st, log))
    (he : e.isClock = true)
    (hnext : ∀ last ∈ (log.filter SunsetEvent.isClock).getLast?, SunsetEvent.Next almanac last e)
    (hfirst : log.filter SunsetEvent.isClock = [] →
      ∃ clock, e = .computed clock (almanac.wakeTime clock))
    (hlast : LastEvent (some e) st') : OnClock almanac (st', log ++ [e]) := by
  have hclock : (log ++ [e]).filter SunsetEvent.isClock =
      log.filter SunsetEvent.isClock ++ [e] := by
    rw [List.filter_append, List.filter_cons_of_pos he, List.filter_nil]
  obtain ⟨hchain, hfirst', -⟩ := hp
  refine ⟨?_, ?_, ?_⟩
  · show ((log ++ [e]).filter SunsetEvent.isClock).IsChain _
    rw [hclock, List.isChain_append]
    refine ⟨hchain, List.isChain_singleton e, fun last hl e' he' => ?_⟩
    cases he'
    exact hnext last hl
  · show ∀ e' ∈ ((log ++ [e]).filter SunsetEvent.isClock).head?, _
    rw [hclock]
    intro e' he'
    cases hlog : log.filter SunsetEvent.isClock with
    | nil =>
      rw [hlog] at he'
      cases he'
      exact hfirst hlog
    | cons c clocked =>
      -- The first event is the one that was first before
      rw [hlog] at he' hfirst'
      exact hfirst' e' he'
  · show LastEvent ((log ++ [e]).filter SunsetEvent.isClock).getLast? st'
    rw [hclock, List.getLast?_concat]
    exact hlast

/-- A step of the loop keeps the events on the clock in order. -/
theorem OnClock.exec {p p' : SunsetLightTemp × List SunsetEvent}
    (h : SunsetLightTemp.exec almanac config p l = some p') (hp : OnClock almanac p) :
    OnClock almanac p' := by
  obtain ⟨st, log⟩ := p
  obtain ⟨st', log'⟩ := p'
  have hlast : LastEvent (log.filter SunsetEvent.isClock).getLast? st := hp.last
  rcases exec_cases h with ⟨clock, rfl, rfl, hst⟩ | ⟨t, rfl, rfl, rfl⟩ |
      ⟨ramps, i, l', ramp, ramp', events, rfl, rfl, -, -, rfl, rfl⟩
  · -- the loop computes at its start, and after its ramps
    apply hp.event rfl
    · intro last hl
      obtain ⟨t, rfl⟩ := hlast last hl
      rfl
    · intro _
      exact ⟨clock, rfl⟩
    · rcases hst with ⟨t, hwake, rfl⟩ | ⟨e, -, rfl⟩
      · exact ⟨clock, by rw [hwake]⟩
      · trivial
  · -- it sleeps until what it has computed
    obtain ⟨clock, hlast⟩ := hlast
    apply hp.event rfl
    · intro last hl
      rw [hlast] at hl
      cases hl
      rfl
    · intro hnil
      rw [hnil] at hlast
      cases hlast
    · exact LastEvent.ofJoin t _
  · -- a ramp is no event on the clock
    have hclock : (log ++ events.map (SunsetEvent.ramp i)).filter SunsetEvent.isClock =
        log.filter SunsetEvent.isClock := by
      rw [List.filter_append, filter_ramp, List.append_nil]
    obtain ⟨t, hlast⟩ := hlast
    refine ⟨by rw [hclock]; exact hp.chain, by rw [hclock]; exact hp.first, ?_⟩
    rw [hclock, hlast]
    exact LastEvent.ofJoin t _

/-- Every run of the loop keeps the events on the clock in order. -/
theorem OnClock.run {as : List SunsetLabel} {p : SunsetLightTemp × List SunsetEvent}
    (h : Lts.run (SunsetLightTemp.exec almanac config) (.computing, []) as = some p) :
    OnClock almanac p :=
  Lts.run_invariant _ (fun _ _ _ hp he => OnClock.exec he hp) h
    ⟨List.isChain_nil, fun _ he => (by cases he), fun _ he => (by cases he)⟩

/-- What is computed is the wake time of the clock. -/
theorem computed_eq {as : List SunsetLabel} {p : SunsetLightTemp × List SunsetEvent}
    (h : Lts.run (SunsetLightTemp.exec almanac config) (.computing, []) as = some p)
    {clock : ClockReadings} {wake : Except Error Int} (hc : .computed clock wake ∈ p.2) :
    wake = almanac.wakeTime clock := by
  revert hc
  apply Lts.run_invariant (I := fun p => ∀ {clock : ClockReadings} {wake : Except Error Int},
    .computed clock wake ∈ p.2 → wake = almanac.wakeTime clock) _ _ h
  · -- nothing is logged before the first poll
    intro clock wake hc
    cases hc
  · rintro ⟨st, log⟩ l ⟨st', log'⟩ hp he clock wake hc
    rcases exec_cases he with ⟨clock', -, rfl, -⟩ | ⟨t, -, rfl, -⟩ |
        ⟨ramps, i, l', ramp, ramp', events, -, -, -, -, rfl, -⟩
    · -- the new event is the time of these readings
      rcases List.mem_append.mp hc with hold | hnew
      · exact hp hold
      · cases List.mem_singleton.mp hnew
        rfl
    · -- the other events are no computations
      rcases List.mem_append.mp hc with hold | hnew
      · exact hp hold
      · cases List.mem_singleton.mp hnew
    · rcases List.mem_append.mp hc with hold | hnew
      · exact hp hold
      · obtain ⟨event, -, he⟩ := List.mem_map.mp hnew
        cases he

end SunsetLightTemp

namespace Almanac

variable {almanac : Almanac}

/-- From one sunset on, with every ramp ending in time and the clock read before today's sunset,
the ramps start at the sunsets that follow. -/
theorem successive_of_chain {day : Int} {e : SunsetEvent} {clocked : List SunsetEvent}
    (he : e = .started (almanac.sunset day) ∨
      ∃ clock, e = .computed clock (.ok (almanac.sunset day)))
    (hnext : (e :: clocked).IsChain (SunsetEvent.Next almanac))
    (hend : (e :: clocked).IsChain (SunsetEvent.EndsInTime almanac))
    (hread : ReadBeforeSunset almanac clocked) :
    almanac.Successive day (starts (e :: clocked)) := by
  -- The day goes up where a wake is computed, and stays where its ramp starts
  induction clocked generalizing day e with
  | nil =>
    rcases he with rfl | ⟨clock, rfl⟩
    · exact ⟨rfl, trivial⟩
    · trivial
  | cons e' clocked ih =>
    obtain ⟨hee', hnext'⟩ := List.isChain_cons_cons.mp hnext
    obtain ⟨hin, hend'⟩ := List.isChain_cons_cons.mp hend
    have hread' : ReadBeforeSunset almanac clocked := fun clock wake hc =>
      hread clock wake (List.mem_cons_of_mem _ hc)
    rcases he with rfl | ⟨clock, rfl⟩
    · cases e' with
      | computed clock wake =>
        have hbefore := hread clock wake List.mem_cons_self
        obtain ⟨htoday, hnow⟩ := hin
        have hday := localDay_eq_succ htoday
          (hnow (day + 1) (almanac.sunset_lt (by omega))) hbefore
        have hwake : wake = .ok (almanac.sunset (day + 1)) := by
          rw [← hday, ← wakeTime_of_before hbefore]
          exact hee'
        exact ⟨rfl, ih (.inr ⟨clock, by rw [hwake]⟩) hnext' hend' hread'⟩
      | started t => exact hee'.elim
      | ramp i event => exact hee'.elim
    · cases e' with
      | computed clock' wake => exact hee'.elim
      | started t =>
        obtain rfl : almanac.sunset day = t := Except.ok.inj hee'
        exact ih (.inl rfl) hnext' hend' hread'
      | ramp i event => exact hee'.elim

end Almanac

/-- Every computation is on the clock. -/
theorem mem_filter_isClock {log : List SunsetEvent} {clock : ClockReadings}
    {wake : Except Error Int} :
    .computed clock wake ∈ log.filter SunsetEvent.isClock ↔ .computed clock wake ∈ log := by
  rw [List.mem_filter]
  exact and_iff_left rfl

/-- Only the clock starts the ramps. -/
theorem starts_filter (log : List SunsetEvent) :
    starts (log.filter SunsetEvent.isClock) = starts log := by
  rw [starts, List.filterMap_filter]
  apply congrFun (congrArg List.filterMap (funext fun e => ?_)) log
  cases e <;> rfl

/-- A run whose clock is read before the sunset each time ramps at the sunsets of successive
days. -/
theorem SunsetLightTemp.OnClock.successive {almanac : Almanac}
    {p : SunsetLightTemp × List SunsetEvent} (hp : OnClock almanac p)
    (hend : RampsEndInTime almanac p.2) (hread : ReadBeforeSunset almanac p.2) :
    ∃ day, almanac.Successive day (starts p.2) := by
  rw [← starts_filter]
  cases hclocked : p.2.filter SunsetEvent.isClock with
  | nil => exact ⟨0, trivial⟩
  | cons e clocked =>
    have hhead : e ∈ (p.2.filter SunsetEvent.isClock).head? := by rw [hclocked]; rfl
    obtain ⟨clock, rfl⟩ := hp.first e hhead
    have hread' : ∀ clock' wake, .computed clock' wake ∈
        .computed clock (almanac.wakeTime clock) :: clocked → almanac.BeforeSunset clock' := by
      intro clock' wake hc
      rw [← hclocked, mem_filter_isClock] at hc
      exact hread clock' wake hc
    have hbefore := hread' clock _ List.mem_cons_self
    have hnext := hp.chain
    rw [RampsEndInTime, hclocked] at hend
    rw [hclocked] at hnext
    -- The first event on the clock computes the sunset that the days are counted from
    exact ⟨_, Almanac.successive_of_chain
      (.inr ⟨clock, by rw [Almanac.wakeTime_of_before hbefore]⟩) hnext hend
      fun clock' wake hc => hread' clock' wake (List.mem_cons_of_mem _ hc)⟩

/-- The automation sleeps until the next sunset exactly when it reads the clock before today's.
A run whose ramps end before the next sunset keeps to the sunsets of successive days exactly when
it reads the clock before today's sunset each time. -/
theorem wakes_at_sunsets_iff (almanac : Almanac) :
    (∀ clock, (∃ t, almanac.wakeTime clock = .ok t ∧ almanac.NextSunset clock.now t) ↔
        almanac.BeforeSunset clock) ∧
      ∀ config as st log,
        Lts.run (SunsetLightTemp.exec almanac config) (.computing, []) as = some (st, log) →
          RampsEndInTime almanac log →
            (WakesAtSunsets almanac log ↔ ReadBeforeSunset almanac log) := by
  refine ⟨almanac.wakeTime_nextSunset_iff, fun config as st log hrun hend => ?_⟩
  -- Each reading of a run falls under the first part
  have hiff : ∀ clock wake, SunsetEvent.computed clock wake ∈ log →
      ((∃ t, wake = .ok t ∧ almanac.NextSunset clock.now t) ↔ almanac.BeforeSunset clock) := by
    intro clock wake hc
    rw [SunsetLightTemp.computed_eq hrun hc]
    exact almanac.wakeTime_nextSunset_iff clock
  constructor
  · intro h clock wake hc
    exact (hiff clock wake hc).mp (h.wakes clock wake hc)
  · intro h
    exact ⟨fun clock wake hc => (hiff clock wake hc).mpr (h clock wake hc),
      (SunsetLightTemp.OnClock.run hrun).successive hend h⟩

/-! ## A lamp -/

namespace SunsetLightTemp.Demo

/-- The sun sets at six in the evening, and dusk is an hour later. -/
def almanac : Almanac where
  localDay t := t / 24
  sunset day := 24 * day + 18
  dusk day := 24 * day + 19
  -- A day of 24 hours with its sunset at 18, its dusk at 19
  addDay t := some (t + 24)
  localDay_le h := Int.ediv_le_ediv (by decide) h
  sunset_lt h := by omega
  localDay_sunset day := by
    show (24 * day + 18) / 24 = day
    omega
  localDay_dusk day := by
    show (24 * day + 19) / 24 = day
    omega
  sunset_lt_dusk day := by
    show 24 * day + 18 < 24 * day + 19
    omega
  localDay_addDay h := by
    cases h
    omega

def lamp : SunsetDeviceConfig :=
  ⟨⟨"lamp"⟩, (1, 2), 3600⟩

/-- The automation of the lamp. -/
def config : SunsetLightTempAutomationConfig :=
  ⟨[lamp]⟩

/-- One evening, from a reading of the clock to the end of the ramp. -/
def evening (now : Int) : List SunsetLabel :=
  [.clock (.at now), .slept, .ramp 0 .poll, .ramp 0 (.dispatched (.ok ())), .ramp 0 .slept,
    .ramp 0 (.dispatched (.ok ())), .ramp 0 .slept]

/-- What an evening logs. -/
def logged (now wake : Int) : List SunsetEvent :=
  [.computed (.at now) (.ok wake), .started wake,
    .ramp 0 (.request (lamp.request 1)), .ramp 0 (.sleep 3600),
    .ramp 0 (.request (lamp.request 2)), .ramp 0 (.sleep 3600)]

/-- The first ramp has ended before the second evening. -/
theorem rampsEndInTime {now wake now' wake' : Int} (h : wake ≤ now')
    (hend : ∀ day, wake < 24 * day + 18 → now' < 24 * day + 18) :
    RampsEndInTime almanac (logged now wake ++ logged now' wake') := by
  show List.IsChain _ [SunsetEvent.computed (.at now) (.ok wake), SunsetEvent.started wake,
    SunsetEvent.computed (.at now') (.ok wake'), SunsetEvent.started wake']
  rw [List.isChain_cons_cons, List.isChain_cons_cons, List.isChain_cons_cons]
  exact ⟨trivial, ⟨h, hend⟩, trivial, List.isChain_singleton _⟩

/-- The two evenings compute once each. -/
theorem computed_mem {now wake now' wake' : Int} {clock : ClockReadings} {e : Except Error Int} :
    .computed clock e ∈ logged now wake ++ logged now' wake' ↔
      clock = .at now ∧ e = .ok wake ∨ clock = .at now' ∧ e = .ok wake' := by
  simp [logged]

end SunsetLightTemp.Demo

open SunsetLightTemp in
/-- Ramps that last past midnight: the lamp ramps at six in the evening, and again the day
after. -/
theorem wakes_at_sunsets_demo :
    WakesAtSunsets Demo.almanac (Demo.logged 12 18 ++ Demo.logged 30 42) := by
  refine ((wakes_at_sunsets_iff Demo.almanac).2 Demo.config (Demo.evening 12 ++ Demo.evening 30)
    .computing (Demo.logged 12 18 ++ Demo.logged 30 42) rfl
      (Demo.rampsEndInTime (by decide) (by omega))).mpr ?_
  intro clock wake hc
  rcases Demo.computed_mem.mp hc with ⟨rfl, -⟩ | ⟨rfl, -⟩
  · show (12 : Int) < 24 * (12 / 24) + 18
    decide
  · show (30 : Int) < 24 * (30 / 24) + 18
    decide

open SunsetLightTemp in
/-- After today's sunset the automation sleeps until tomorrow's dusk, and misses the sunset. A
ramp that ends on its own evening is followed by one at dusk. -/
theorem wakes_at_dusk :
    (¬∃ t, Demo.almanac.wakeTime (.at 20) = .ok t ∧ Demo.almanac.NextSunset 20 t) ∧
      ∃ st, Lts.run (SunsetLightTemp.exec Demo.almanac Demo.config) (.computing, [])
          (Demo.evening 12 ++ Demo.evening 20) =
            some (st, Demo.logged 12 18 ++ Demo.logged 20 43) ∧
        RampsEndInTime Demo.almanac (Demo.logged 12 18 ++ Demo.logged 20 43) ∧
          ¬WakesAtSunsets Demo.almanac (Demo.logged 12 18 ++ Demo.logged 20 43) := by
  have hmissed : ¬∃ t, Demo.almanac.wakeTime (.at 20) = .ok t ∧ Demo.almanac.NextSunset 20 t := by
    rintro ⟨t, hwake, hnext⟩
    cases hwake
    -- The sunset of day 1 comes an hour before the dusk that it sleeps until
    have hearliest : (43 : Int) ≤ 42 := hnext.earliest 1 (by decide)
    exact absurd hearliest (by decide)
  refine ⟨hmissed, _, rfl, Demo.rampsEndInTime (by decide) (by omega), fun h => ?_⟩
  obtain ⟨t, ht, hnext⟩ := h.wakes (.at 20) (.ok 43) (Demo.computed_mem.mpr (.inr ⟨rfl, rfl⟩))
  cases ht
  exact hmissed ⟨43, rfl, hnext⟩

end Devicectrl
