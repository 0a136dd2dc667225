import Devicectrl.Spec.SunsetWakes

/-!
# The ramp after a sunset

What the ramps of one evening request and how long they last. A range that goes upwards is
covered; one of a single value divides by zero after its request, and one that goes downwards is
empty.

## Key results

- `ramps_cover_iff`: every range is covered, and the automation is back at its loop, exactly when
  every range goes upwards
- `ramp_duration_iff`: a ramp takes the configured time exactly when the width of its range
  divides it
-/

namespace Devicectrl

open RwLock (TryJoinAll)

/-! ## The pause -/

namespace SunsetDeviceConfig

variable {update : SunsetDeviceConfig}

/-- The range goes upwards. -/
def Ascending (update : SunsetDeviceConfig) : Prop :=
  update.colorTempRange.1 < update.colorTempRange.2

/-- The bounds of a range are compared. -/
instance (update : SunsetDeviceConfig) : Decidable update.Ascending :=
  inferInstanceAs (Decidable (_ < _))

/-- How many steps the range takes. -/
def width (update : SunsetDeviceConfig) : Nat :=
  update.colorTempRange.2.toNat - update.colorTempRange.1.toNat

/-- The range of the `for` loop. -/
def range (update : SunsetDeviceConfig) : RangeInclusive :=
  .new update.colorTempRange.1 update.colorTempRange.2

/-- An upward range has a pause, and it divides the duration. -/
theorem pause_of_ascending (h : update.Ascending) :
    ∃ secs, update.pause = .ok secs ∧
      secs.toNat = update.totalDurationSecs.toNat / update.width := by
  -- The bounds are ascending, so their difference neither underflows nor is zero
  have hlt : update.colorTempRange.1.toNat < update.colorTempRange.2.toNat :=
    UInt32.lt_iff_toNat_lt.mp h
  have hle : update.colorTempRange.1 ≤ update.colorTempRange.2 := UInt32.le_of_lt h
  have hnotlt : ¬update.colorTempRange.2 < update.colorTempRange.1 := UInt32.not_lt.mpr hle
  have hwidth : (update.colorTempRange.2 - update.colorTempRange.1).toUInt64.toNat =
      update.width := by
    rw [UInt32.toNat_toUInt64, UInt32.toNat_sub_of_le _ _ hle, width]
  have hne : ¬(update.colorTempRange.2 - update.colorTempRange.1).toUInt64 = 0 := by
    intro hzero
    rw [hzero] at hwidth
    simp only [width, UInt64.toNat_zero] at hwidth
    omega
  -- Hence `pause` takes neither of its two early branches
  refine ⟨update.totalDurationSecs /
    (update.colorTempRange.2 - update.colorTempRange.1).toUInt64, ?_, ?_⟩
  · simp only [pause, if_neg hnotlt, if_neg hne]
  · rw [UInt64.toNat_div, hwidth]

/-- With one value in the range the pause divides by zero. -/
theorem pause_of_eq (h : update.colorTempRange.1 = update.colorTempRange.2) :
    update.pause = .error "attempt to divide by zero" := by
  simp only [pause]
  rw [h]
  have hnotlt : ¬update.colorTempRange.2 < update.colorTempRange.2 := UInt32.lt_irrefl _
  have hzero : (update.colorTempRange.2 - update.colorTempRange.2).toUInt64 = 0 := by
    rw [UInt32.sub_self]
    rfl
  rw [if_neg hnotlt, if_pos hzero]

end SunsetDeviceConfig

/-! ## What a ramp observes -/

namespace RampEvent

/-- The request of an event. -/
def request? : RampEvent → Option UpdateRequest
  | .request r => some r
  | .sleep _ => none

/-- How long an event lasts. -/
def secs : RampEvent → Nat
  | .request _ => 0
  | .sleep secs => secs.toNat

/-- Whether an event is a sleep. -/
def isSleep : RampEvent → Bool
  | .request _ => false
  | .sleep _ => true

end RampEvent

/-- The requests of a ramp, in order. -/
def requestsOf (log : List RampEvent) : List UpdateRequest :=
  log.filterMap RampEvent.request?

/-- How long a ramp sleeps from its first request to its last, in seconds. -/
def sleptBetweenRequests (log : List RampEvent) : Nat :=
  (((log.dropWhile RampEvent.isSleep).reverse.dropWhile RampEvent.isSleep).map
    RampEvent.secs).sum

/-- The values go from `start` to `stop` one by one, through each value between them once. -/
structure Sweep (start stop : UInt32) (values : List UInt32) : Prop where
  first : values.head? = some start
  last : values.getLast? = some stop
  mem : ∀ x, x ∈ values ↔ start ≤ x ∧ x ≤ stop ∨ stop ≤ x ∧ x ≤ start
  monotone : if start ≤ stop then values.Pairwise (· < ·) else values.Pairwise (· > ·)

/-- An upward range is swept value by value. -/
theorem sweep_range {start stop : UInt32} (h : start ≤ stop) :
    Sweep start stop (RangeInclusive.new start stop).toList where
  first := RangeInclusive.head?_toList_new h
  last := RangeInclusive.getLast?_toList_new h
  mem x := by
    rw [RangeInclusive.mem_toList_new h]
    rw [UInt32.le_iff_toNat_le] at h
    simp only [UInt32.le_iff_toNat_le]
    omega
  monotone := by
    rw [if_pos h]
    exact RangeInclusive.pairwise_toList_new h

/-! ## One ramp -/

/-- A request and a pause for each value. -/
def rounds (update : SunsetDeviceConfig) (secs : UInt64) (values : List UInt32) :
    List RampEvent :=
  values.flatMap fun colorTemp => [.request (update.request colorTemp), .sleep secs]

namespace DeviceRamp

/-- What a ramp has done, by where it is: a request and a pause for each value of the range that
it is past. It has paused only where the pause can be computed. -/
def Ramped (ramp : DeviceRamp) (log : List RampEvent) : Prop :=
  match ramp.stage with
  | .begin => log = []
  | .requesting rest => ∃ secs done colorTemp,
      ramp.update.range.toList = done ++ colorTemp :: rest.toList ∧
        (done ≠ [] → ramp.update.pause = .ok secs) ∧
          log = rounds ramp.update secs done ++ [.request (ramp.update.request colorTemp)]
  | .sleeping rest => ∃ secs done, ramp.update.range.toList = done ++ rest.toList ∧
      ramp.update.pause = .ok secs ∧ log = rounds ramp.update secs done
  | .returned (.ok ()) => ∃ secs,
      (ramp.update.range.toList ≠ [] → ramp.update.pause = .ok secs) ∧
        log = rounds ramp.update secs ramp.update.range.toList
  | .returned (.error (.panic message)) =>
      ramp.update.range.toList ≠ [] ∧ ramp.update.pause = .error message
  | .returned (.error (.error _)) => False

/-- No dispatch fails. -/
def Succeeds : DeviceRampLabel → Prop
  | .dispatched (.error _) => False
  | _ => True

variable {ramp ramp' : DeviceRamp} {log log' events : List RampEvent} {l : DeviceRampLabel}

/-- The rounds of one value more. -/
theorem rounds_concat (update : SunsetDeviceConfig) (secs : UInt64) (values : List UInt32)
    (colorTemp : UInt32) :
    rounds update secs (values ++ [colorTemp]) =
      rounds update secs values ++ [.request (update.request colorTemp)] ++ [.sleep secs] := by
  simp [rounds, List.flatMap_append]

/-- The loop goes on from a value that it has paused after. -/
theorem Ramped.next {update : SunsetDeviceConfig} {rest : RangeInclusive} (secs : UInt64)
    (done : List UInt32) (h : DeviceRamp.next update rest = (ramp', events))
    (hrange : update.range.toList = done ++ rest.toList)
    (hpause : done ≠ [] → update.pause = .ok secs) :
    ramp'.update = update ∧ Ramped ramp' (rounds update secs done ++ events) := by
  simp only [DeviceRamp.next] at h
  split at h
  · rename_i hnext
    -- The range has come to its end
    cases h
    rw [RangeInclusive.toList_of_next_none hnext, List.append_nil] at hrange
    refine ⟨rfl, secs, ?_, ?_⟩
    · show update.range.toList ≠ [] → _
      rw [hrange]
      exact hpause
    · show _ = rounds update secs update.range.toList
      rw [hrange, List.append_nil]
  · -- its next value is requested
    rename_i colorTemp rest' hnext
    cases h
    refine ⟨rfl, secs, done, colorTemp, ?_, hpause, rfl⟩
    show update.range.toList = _
    rw [hrange, RangeInclusive.toList_of_next hnext]

/-- What a ramp can do. -/
inductive Steps : DeviceRamp → DeviceRampLabel → DeviceRamp → List RampEvent → Prop
  | begin {update : SunsetDeviceConfig} {ramp' : DeviceRamp} {events : List RampEvent}
      (h : DeviceRamp.next update update.range = (ramp', events)) :
      Steps ⟨update, .begin⟩ .poll ramp' events
  | failed {update : SunsetDeviceConfig} {rest : RangeInclusive} {e : Error} :
      Steps ⟨update, .requesting rest⟩ (.dispatched (.error e))
        ⟨update, .returned (.error (.error e))⟩ []
  | panicked {update : SunsetDeviceConfig} {rest : RangeInclusive} {message : String}
      (h : update.pause = .error message) :
      Steps ⟨update, .requesting rest⟩ (.dispatched (.ok ()))
        ⟨update, .returned (.error (.panic message))⟩ []
  | paused {update : SunsetDeviceConfig} {rest : RangeInclusive} {secs : UInt64}
      (h : update.pause = .ok secs) :
      Steps ⟨update, .requesting rest⟩ (.dispatched (.ok ())) ⟨update, .sleeping rest⟩
        [.sleep secs]
  | slept {update : SunsetDeviceConfig} {rest : RangeInclusive} {ramp' : DeviceRamp}
      {events : List RampEvent} (h : DeviceRamp.next update rest = (ramp', events)) :
      Steps ⟨update, .sleeping rest⟩ .slept ramp' events

theorem step_cases (h : ramp.step l = some (ramp', events)) : Steps ramp l ramp' events := by
  -- Split by the stage; each stage takes one kind of step
  obtain ⟨update, stage⟩ := ramp
  cases stage with
  | begin =>
    cases l with
    | poll => exact .begin (Option.some.inj h)
    | dispatched result => cases h
    | slept => cases h
  | requesting rest =>
    cases l with
    | poll => cases h
    | dispatched result =>
      cases result with
      | error e =>
        cases h
        exact .failed
      -- The pause after a request is computed, and may panic
      | ok _ =>
        simp only [DeviceRamp.step] at h
        split at h
        · rename_i message hpause
          cases h
          exact .panicked hpause
        · rename_i secs hpause
          cases h
          exact .paused hpause
    | slept => cases h
  | sleeping rest =>
    cases l with
    | poll => cases h
    | dispatched result => cases h
    | slept => exact .slept (Option.some.inj h)
  | returned result =>
    cases l with
    | poll => cases h
    | dispatched result' => cases result' <;> cases h
    | slept => cases h

/-- A successful step keeps to what a ramp does. -/
theorem Ramped.step (hl : Succeeds l) (h : ramp.step l = some (ramp', events))
    (hramp : Ramped ramp log) : ramp'.update = ramp.update ∧ Ramped ramp' (log ++ events) := by
  cases step_cases h with
  | begin hnext =>
    obtain rfl : log = [] := hramp
    exact Ramped.next 0 [] hnext rfl fun hne => absurd rfl hne
  | failed => exact hl.elim
  | @panicked update rest message hpause =>
    obtain ⟨secs, done, colorTemp, hrange, -, rfl⟩ := hramp
    have hrange : update.range.toList = done ++ colorTemp :: rest.toList := hrange
    refine ⟨rfl, ?_, hpause⟩
    show update.range.toList ≠ []
    rw [hrange]
    exact List.append_ne_nil_of_right_ne_nil done (List.cons_ne_nil _ _)
  | @paused update rest secs' hpause =>
    obtain ⟨secs, done, colorTemp, hrange, hpaused, rfl⟩ := hramp
    have hrange : update.range.toList = done ++ colorTemp :: rest.toList := hrange
    -- The pause does not change from one value to the next
    have hrounds : rounds update secs done = rounds update secs' done := by
      by_cases hdone : done = []
      · rw [hdone]
        rfl
      · rw [Except.ok.inj ((hpaused hdone).symm.trans hpause)]
    refine ⟨rfl, secs', done ++ [colorTemp], ?_, hpause, ?_⟩
    · show update.range.toList = done ++ [colorTemp] ++ rest.toList
      rw [hrange, List.append_assoc, List.singleton_append]
    · show rounds update secs done ++ _ ++ _ = _
      rw [rounds_concat, hrounds]
  | slept hnext =>
    obtain ⟨secs, done, hrange, hpause, rfl⟩ := hramp
    exact Ramped.next secs done hnext hrange fun _ => hpause

/-! ### The end of a ramp -/

/-- How many steps a ramp has yet to take. -/
def left (ramp : DeviceRamp) : Nat :=
  match ramp.stage with
  | .begin => 2 * ramp.update.range.size + 1
  | .requesting rest => 2 * rest.size + 2
  | .sleeping rest => 2 * rest.size + 1
  | .returned _ => 0

/-- A turn of the loop takes two steps of what is left. -/
theorem left_next (update : SunsetDeviceConfig) (rest : RangeInclusive) :
    left (DeviceRamp.next update rest).1 ≤ 2 * rest.size := by
  cases hnext : rest.next with
  | none =>
    simp only [DeviceRamp.next, hnext, left]
    omega
  | some p =>
    have hsize := RangeInclusive.size_of_next hnext
    simp only [DeviceRamp.next, hnext, left]
    omega

/-- A ramp has fewer and fewer steps to take. -/
theorem left_step (h : ramp.step l = some (ramp', events)) : ramp'.left < ramp.left := by
  -- The range has one value less, or the stage is nearer to the end
  cases step_cases h with
  | @begin update _ _ hnext =>
    have hle := left_next update update.range
    rw [hnext] at hle
    simp only [left] at hle ⊢
    omega
  | failed =>
    simp only [left]
    omega
  | panicked _ =>
    simp only [left]
    omega
  | paused _ =>
    simp only [left]
    omega
  | @slept update rest _ _ hnext =>
    have hle := left_next update rest
    rw [hnext] at hle
    simp only [left] at hle ⊢
    omega

/-- A ramp that has not returned goes on with a successful step. -/
theorem exists_step (h : ramp.result? = none) : ∃ l q, Succeeds l ∧ ramp.step l = some q := by
  obtain ⟨update, stage⟩ := ramp
  cases stage with
  | begin => exact ⟨.poll, _, trivial, rfl⟩
  -- After a request the step depends on the pause that follows it
  | requesting rest =>
    cases hpause : update.pause with
    | error message =>
      refine ⟨.dispatched (.ok ()), (⟨update, .returned (.error (.panic message))⟩, []),
        trivial, ?_⟩
      simp only [DeviceRamp.step, hpause]
    | ok secs =>
      refine ⟨.dispatched (.ok ()), (⟨update, .sleeping rest⟩, [.sleep secs]), trivial, ?_⟩
      simp only [DeviceRamp.step, hpause]
  | sleeping rest => exact ⟨.slept, _, trivial, rfl⟩
  | returned result => cases h

/-- A ramp with the configuration `update` that has done what it should. -/
def RampedBy (update : SunsetDeviceConfig) (p : DeviceRamp × List RampEvent) : Prop :=
  p.1.update = update ∧ p.1.Ramped p.2

/-- A step of a ramp requests the next value and takes one step of what is left. -/
theorem RampedBy.exec {update : SunsetDeviceConfig} {p p' : DeviceRamp × List RampEvent}
    (hp : RampedBy update p) (hl : Succeeds l) (h : DeviceRamp.exec p l = some p') :
    RampedBy update p' ∧ p'.1.left < p.1.left := by
  obtain ⟨q, hq, rfl⟩ := Option.map_eq_some_iff.mp h
  obtain ⟨hupdate, hramped⟩ := Ramped.step hl hq hp.2
  exact ⟨⟨hupdate.trans hp.1, hramped⟩, left_step hq⟩

/-- A ramp that starts has logged nothing. -/
theorem rampedBy_start (update : SunsetDeviceConfig) : RampedBy update (.start update, []) :=
  ⟨rfl, rfl⟩

/-- What a ramp does in a run without failed dispatches. -/
theorem RampedBy.run {update : SunsetDeviceConfig} {as : List DeviceRampLabel}
    {p : DeviceRamp × List RampEvent} (has : ∀ l ∈ as, Succeeds l)
    (h : Lts.run DeviceRamp.exec (.start update, []) as = some p) : RampedBy update p :=
  Lts.run_invariant_of_forall _ (fun _ _ _ hp hl he => (hp.exec hl he).1) has h
    (rampedBy_start update)

/-- Every ramp can run until it has returned. -/
theorem exists_run (update : SunsetDeviceConfig) :
    ∃ as p, (∀ l ∈ as, Succeeds l) ∧ Lts.run DeviceRamp.exec (.start update, []) as = some p ∧
      RampedBy update p ∧ p.1.result? ≠ none := by
  apply Lts.exists_run_of_measure _ (μ := fun p => p.1.left) _
    (fun _ _ _ hp hl he => hp.exec hl he) (rampedBy_start update)
  intro p _
  by_cases hresult : p.1.result? = none
  · obtain ⟨l, q, hl, hstep⟩ := exists_step hresult
    right
    refine ⟨l, (q.1, p.2 ++ q.2), hl, ?_⟩
    rw [DeviceRamp.exec, hstep]
    rfl
  · exact .inl hresult

/-- What a ramp has done that has come to its end. -/
theorem Ramped.of_result (hramp : Ramped ramp log) (hresult : ramp.result? = some (.ok ())) :
    ∃ secs, (ramp.update.range.toList ≠ [] → ramp.update.pause = .ok secs) ∧
      log = rounds ramp.update secs ramp.update.range.toList := by
  obtain ⟨update, stage⟩ := ramp
  cases stage with
  | begin => cases hresult
  | requesting rest => cases hresult
  | sleeping rest => cases hresult
  | returned result =>
    cases hresult
    exact hramp

/-- A ramp of a range that goes upwards does not panic. -/
theorem Ramped.result_eq (hramp : Ramped ramp log) (hascending : ramp.update.Ascending)
    (hend : ramp.result? ≠ none) : ramp.result? = some (.ok ()) := by
  obtain ⟨update, stage⟩ := ramp
  cases stage with
  | begin => exact absurd rfl hend
  | requesting rest => exact absurd rfl hend
  | sleeping rest => exact absurd rfl hend
  | returned result =>
    cases result with
    | ok _ => rfl
    | error abort =>
      cases abort with
      | error e => exact hramp.elim
      | panic message =>
        -- The pause can be computed, so the ramp has not panicked
        obtain ⟨secs, hpause, -⟩ := SunsetDeviceConfig.pause_of_ascending hascending
        have hpanic : update.pause = .error message := hramp.2
        rw [hpanic] at hpause
        cases hpause

end DeviceRamp

/-! ### How long it takes -/

/-- Every value sleeps once. -/
theorem sum_secs_rounds (update : SunsetDeviceConfig) (secs : UInt64) (values : List UInt32) :
    ((rounds update secs values).map RampEvent.secs).sum = values.length * secs.toNat := by
  induction values with
  | nil => simp [rounds]
  | cons c values ih =>
    have hcons : rounds update secs (c :: values) =
        [.request (update.request c), .sleep secs] ++ rounds update secs values := rfl
    rw [hcons, List.map_append, List.sum_append, ih, List.length_cons, Nat.add_mul]
    simp only [List.map_cons, List.map_nil, RampEvent.secs, List.sum_cons, List.sum_nil]
    omega

/-- The rounds begin with a request. -/
theorem dropWhile_rounds (update : SunsetDeviceConfig) (secs : UInt64) (values : List UInt32) :
    (rounds update secs values).dropWhile RampEvent.isSleep = rounds update secs values := by
  cases values with
  | nil => rfl
  | cons c values => rfl

/-- The pause after the last request is not between requests. -/
theorem sleptBetweenRequests_rounds (update : SunsetDeviceConfig) (secs : UInt64)
    (values : List UInt32) (colorTemp : UInt32) :
    sleptBetweenRequests (rounds update secs (values ++ [colorTemp])) =
      values.length * secs.toNat := by
  rw [sleptBetweenRequests, dropWhile_rounds, DeviceRamp.rounds_concat, List.reverse_append,
    List.reverse_append]
  -- Reversed, the log begins with the last pause, which is dropped
  show ((RampEvent.request (update.request colorTemp) ::
    (rounds update secs values).reverse).map RampEvent.secs).sum = _
  rw [List.map_cons, List.sum_cons, List.map_reverse, List.sum_reverse, sum_secs_rounds]
  exact Nat.zero_add _

/-- With no failed dispatch, the time between the first and the last request of a ramp is less
than a second off. -/
def KeepsDuration (update : SunsetDeviceConfig) : Prop :=
  ∀ as ramp log, (∀ l ∈ as, DeviceRamp.Succeeds l) →
    Lts.run DeviceRamp.exec (.start update, []) as = some (ramp, log) →
      ramp.result? = some (.ok ()) →
        ((sleptBetweenRequests log : Int) - update.totalDurationSecs.toNat).natAbs < 1

/-- What a ramp that has returned has slept, if its range goes upwards. -/
theorem slept_of_returned {update : SunsetDeviceConfig} {ramp : DeviceRamp}
    {log : List RampEvent} (hascending : update.Ascending) (hramp : ramp.Ramped log)
    (hupdate : ramp.update = update) (hresult : ramp.result? = some (.ok ())) :
    sleptBetweenRequests log =
      update.width * (update.totalDurationSecs.toNat / update.width) := by
  obtain ⟨secs, hpaused, rfl⟩ := hramp.of_result hresult
  rw [hupdate] at hpaused ⊢
  obtain ⟨secs', hpause, hsecs⟩ := SunsetDeviceConfig.pause_of_ascending hascending
  have hle : update.colorTempRange.1 ≤ update.colorTempRange.2 := UInt32.le_of_lt hascending
  have hlength : update.range.toList.length = update.width + 1 :=
    RangeInclusive.length_toList_new hle
  have hne : update.range.toList ≠ [] := by
    intro hnil
    rw [hnil] at hlength
    cases hlength
  obtain rfl : secs' = secs := Except.ok.inj (hpause.symm.trans (hpaused hne))
  -- A pause follows each request, and the last one is not counted
  rw [← List.dropLast_append_getLast hne, sleptBetweenRequests_rounds, List.length_dropLast,
    hlength, hsecs]
  rfl

/-- A ramp of a range that goes upwards takes the configured time exactly when the pauses come
out even. -/
theorem ramp_duration_iff (update : SunsetDeviceConfig)
    (hascending : update.colorTempRange.1 < update.colorTempRange.2) :
    KeepsDuration update ↔
      update.colorTempRange.2.toNat - update.colorTempRange.1.toNat ∣
        update.totalDurationSecs.toNat := by
  constructor
  · intro h
    -- The run to the end, which there is, has slept for all of the time
    obtain ⟨as, ⟨ramp, log⟩, has, hrun, ⟨hupdate, hramp⟩, hend⟩ := DeviceRamp.exists_run update
    have hramp : ramp.Ramped log := hramp
    have hresult := hramp.result_eq (by rw [hupdate]; exact hascending) hend
    have hslept := slept_of_returned hascending hramp hupdate hresult
    have hless := h as ramp log has hrun hresult
    have hle := Nat.mul_div_le update.totalDurationSecs.toNat update.width
    exact ⟨update.totalDurationSecs.toNat / update.width, by
      show _ = update.width * _
      omega⟩
  · -- on a multiple of the width no second is lost to the division
    rintro hdvd as ramp log has hrun hresult
    obtain ⟨hupdate, hramp⟩ := DeviceRamp.RampedBy.run has hrun
    have hdvd : update.width ∣ update.totalDurationSecs.toNat := hdvd
    have hslept := slept_of_returned hascending hramp hupdate hresult
    rw [Nat.mul_div_cancel' hdvd] at hslept
    rw [hslept]
    omega

/-- A ramp of an hour in two steps takes its hour. -/
theorem ramp_duration_two : KeepsDuration ⟨⟨"lamp"⟩, (1, 3), 3600⟩ :=
  (ramp_duration_iff ⟨⟨"lamp"⟩, (1, 3), 3600⟩ (by decide)).mpr (by decide)

/-- A ramp of an hour over 4000 kelvin is over at once. -/
theorem ramp_duration_kelvin : ¬KeepsDuration ⟨⟨"lamp"⟩, (2500, 6500), 3600⟩ := by
  intro h
  obtain ⟨as, ⟨ramp, log⟩, has, hrun, ⟨hupdate, hramp⟩, hend⟩ :=
    DeviceRamp.exists_run ⟨⟨"lamp"⟩, (2500, 6500), 3600⟩
  have hascending : SunsetDeviceConfig.Ascending ⟨⟨"lamp"⟩, (2500, 6500), 3600⟩ := by decide
  have hresult := hramp.result_eq (by rw [hupdate]; exact hascending) hend
  have hslept := slept_of_returned hascending hramp hupdate hresult
  have hless := h as ramp log has hrun hresult
  rw [hslept] at hless
  exact absurd hless (by decide)

/-! ## An evening -/

/-- What the ramp of device `i` has done. -/
def rampLog (i : Nat) (log : List SunsetEvent) : List RampEvent :=
  log.filterMap fun
    | .ramp j event => if j = i then some event else none
    | _ => none

/-- The clock is not read again, and no dispatch fails. -/
def SunsetLabel.Succeeds : SunsetLabel → Prop
  | .clock _ => False
  | .slept => True
  | .ramp _ l => DeviceRamp.Succeeds l

/-- `as` is a run over one evening, up to where the clock is read again. -/
def Evening (almanac : Almanac) (config : SunsetLightTempAutomationConfig) (sunset : Int)
    (as : List SunsetLabel) (st : SunsetLightTemp) (log : List SunsetEvent) : Prop :=
  (∀ l ∈ as, l.Succeeds) ∧
    Lts.run (SunsetLightTemp.exec almanac config) (.sleeping sunset, []) as = some (st, log)

/-- After a sunset, with no failed dispatch, each device is requested every value of its range,
and the automation is back at its loop after finitely many steps. -/
structure RampsCover (almanac : Almanac) (config : SunsetLightTempAutomationConfig)
    (sunset : Int) : Prop where
  survives : ∀ as st log, Evening almanac config sunset as st log → ∀ abort, st ≠ .ended abort
  goes_on : ∀ as st log, Evening almanac config sunset as st log →
    ∃ as' log', Evening almanac config sunset (as ++ as') .computing log'
  bounded : ∃ n, ∀ as st log, Evening almanac config sunset as st log → as.length ≤ n
  covers : ∀ as log, Evening almanac config sunset as .computing log →
    ∀ i update, config.devices[i]? = some update →
      ∃ values, Sweep update.colorTempRange.1 update.colorTempRange.2 values ∧
        requestsOf (rampLog i log) = values.map update.request

/-- The log of a ramp over two stretches. -/
theorem rampLog_append (i : Nat) (log log' : List SunsetEvent) :
    rampLog i (log ++ log') = rampLog i log ++ rampLog i log' :=
  List.filterMap_append

/-- All events of a ramp are in its log. -/
theorem rampLog_self (i : Nat) (events : List RampEvent) :
    rampLog i (events.map (.ramp i)) = events := by
  simp [rampLog, List.filterMap_map]

/-- The events of another ramp are not in its log. -/
theorem rampLog_ne {i j : Nat} (h : j ≠ i) (events : List RampEvent) :
    rampLog i (events.map (.ramp j)) = [] := by
  simp [rampLog, List.filterMap_map, h]

namespace SunsetLightTemp

variable {almanac : Almanac} {config : SunsetLightTempAutomationConfig}
variable {st st' : SunsetLightTemp} {log log' : List SunsetEvent} {l : SunsetLabel}

/-- Each device has its ramp, and none has failed. -/
structure Members (config : SunsetLightTempAutomationConfig) (ramps : List DeviceRamp)
    (log : List SunsetEvent) : Prop where
  devices : ramps.map DeviceRamp.update = config.devices
  ramped : ∀ {i : Nat} {ramp : DeviceRamp}, ramps[i]? = some ramp → ramp.Ramped (rampLog i log)
  runs : ∀ {i : Nat} {ramp : DeviceRamp}, ramps[i]? = some ramp →
    ∀ abort, ramp.result? ≠ some (.error abort)

/-- What the ramps of an evening have done, by where the loop is. -/
def Ramped (config : SunsetLightTempAutomationConfig) (st : SunsetLightTemp)
    (log : List SunsetEvent) : Prop :=
  match st with
  | .computing => ∀ i update, config.devices[i]? = some update →
      ∃ ramp : DeviceRamp, ramp.update = update ∧ ramp.result? = some (.ok ()) ∧
        ramp.Ramped (rampLog i log)
  | .sleeping _ => log = []
  | .ramping ramps => Members config ramps log ∧ ∃ ramp ∈ ramps, DeviceRamp.result? ramp = none
  | .ended abort => ∃ (i : Nat) (ramp : DeviceRamp), ramp.update ∈ config.devices ∧
      ramp.result? = some (.error abort) ∧ ramp.Ramped (rampLog i log)

/-- The ramps start. -/
theorem Ramped.start (config : SunsetLightTempAutomationConfig) (sunset : Int) :
    Ramped config (ofJoin (TryJoinAll.start (config.devices.map .start))) [.started sunset] := by
  -- `try_join_all` of no futures returns at once
  cases hdevices : config.devices with
  | nil =>
    intro i update hi
    rw [hdevices] at hi
    cases hi
  | cons update devices =>
    refine ⟨⟨?_, ?_, ?_⟩, .start update, List.mem_cons_self, rfl⟩
    · rw [hdevices, List.map_map]
      exact List.map_id _
    · -- each ramp has logged nothing yet
      intro i ramp hi
      obtain ⟨update', -, rfl⟩ := List.mem_map.mp (List.mem_of_getElem? hi)
      rfl
    · intro i ramp hi abort
      obtain ⟨update', -, rfl⟩ := List.mem_map.mp (List.mem_of_getElem? hi)
      -- None of them has returned
      intro habort
      cases habort

variable {ramps : List DeviceRamp} {i : Nat} {ramp ramp' : DeviceRamp} {events : List RampEvent}
  {l' : DeviceRampLabel}

/-- The other ramps stay as they are when one goes on. -/
theorem Members.set (h : Members config ramps log) (hi : ramps[i]? = some ramp)
    (hl : DeviceRamp.Succeeds l') (hstep : ramp.step l' = some (ramp', events))
    (hruns : ∀ abort, ramp'.result? ≠ some (.error abort)) :
    Members config (ramps.set i ramp') (log ++ events.map (.ramp i)) := by
  obtain ⟨hupdate, hramped⟩ := DeviceRamp.Ramped.step hl hstep (h.ramped hi)
  have hlt := (List.getElem?_eq_some_iff.mp hi).1
  -- The ramps are still those of the devices
  refine ⟨?_, ?_, ?_⟩
  · have hget : (ramps.map DeviceRamp.update)[i]? = some ramp.update := by
      rw [List.getElem?_map, hi]
      rfl
    rw [List.map_set, hupdate, List.set_of_getElem? hget, h.devices]
  · -- the events are in the log of the ramp that has made them
    intro j r hj
    rw [rampLog_append]
    by_cases hij : i = j
    · subst hij
      rw [List.getElem?_set_self hlt] at hj
      cases hj
      rw [rampLog_self]
      exact hramped
    · rw [List.getElem?_set_ne hij] at hj
      rw [rampLog_ne hij, List.append_nil]
      exact h.ramped hj
  · -- the ramp that has moved is not the end of the others
    intro j r hj
    by_cases hij : i = j
    · subst hij
      rw [List.getElem?_set_self hlt] at hj
      cases hj
      exact hruns
    · rw [List.getElem?_set_ne hij] at hj
      exact h.runs hj

/-- The ramps are those of the devices in the configuration. -/
theorem Members.mem_devices (h : Members config ramps log) (hi : ramps[i]? = some ramp) :
    ramp.update ∈ config.devices := by
  rw [← h.devices]
  exact List.mem_map_of_mem (List.mem_of_getElem? hi)

/-- The evening is over when all ramps have returned. -/
theorem Members.computing (h : Members config ramps log)
    (hall : ∀ ramp ∈ ramps, DeviceRamp.result? ramp ≠ none) : Ramped config .computing log := by
  intro i update hi
  rw [← h.devices, List.getElem?_map] at hi
  obtain ⟨ramp, hramp, rfl⟩ := Option.map_eq_some_iff.mp hi
  refine ⟨ramp, rfl, ?_, h.ramped hramp⟩
  cases hresult : ramp.result? with
  | none => exact absurd hresult (hall ramp (List.mem_of_getElem? hramp))
  | some result =>
    cases result with
    | ok _ => rfl
    | error abort => exact absurd hresult (h.runs hramp abort)

/-- One step of an evening. -/
theorem Ramped.exec (hl : l.Succeeds)
    (h : SunsetLightTemp.exec almanac config (st, log) l = some (st', log'))
    (hst : Ramped config st log) : Ramped config st' log' := by
  rcases exec_cases h with ⟨clock, rfl, rfl, -⟩ | ⟨t, rfl, rfl, rfl⟩ |
      ⟨ramps, i, l', ramp, ramp', events, rfl, rfl, hi, hstep, rfl, rfl⟩
  · cases l with
    | clock readings => exact hl.elim
    | slept => cases h
    | ramp i l' => cases h
  · obtain rfl : log = [] := hst
    exact Ramped.start config t
  · obtain ⟨hmembers, -⟩ := hst
    -- The ramp has failed, or all have returned, or one is left
    rcases TryJoinAll.after_eq DeviceRamp.result? (ramps.set i ramp') ramp' with
      ⟨abort, habort, hafter⟩ | ⟨hruns, hrest⟩
    · obtain ⟨hupdate, hramped⟩ := DeviceRamp.Ramped.step hl hstep (hmembers.ramped hi)
      rw [hafter]
      refine ⟨i, ramp', ?_, habort, ?_⟩
      · rw [hupdate]
        exact hmembers.mem_devices hi
      · rw [rampLog_append, rampLog_self]
        exact hramped
    · have hset := hmembers.set hi hl hstep hruns
      rcases hrest with ⟨hall, hafter⟩ | ⟨hsome, hafter⟩
      · rw [hafter]
        exact hset.computing hall
      · rw [hafter]
        exact ⟨hset, hsome⟩

/-! ### The end of an evening -/

/-- How many steps an evening has yet to take. -/
def left (config : SunsetLightTempAutomationConfig) : SunsetLightTemp → Nat
  | .sleeping _ => ((config.devices.map DeviceRamp.start).map DeviceRamp.left).sum + 1
  | .ramping ramps => (ramps.map DeviceRamp.left).sum
  | _ => 0

/-- To start the ramps is the one step that waking up takes. -/
theorem left_ofJoin_start (config : SunsetLightTempAutomationConfig) (ramps : List DeviceRamp) :
    left config (ofJoin (TryJoinAll.start ramps)) ≤ (ramps.map DeviceRamp.left).sum := by
  cases ramps with
  | nil => exact Nat.le_refl 0
  | cons ramp ramps => exact Nat.le_refl _

/-- A step of a ramp takes one step of the evening. -/
theorem left_ofJoin_after (config : SunsetLightTempAutomationConfig) (ramps : List DeviceRamp)
    (stepped : DeviceRamp) :
    left config (ofJoin (TryJoinAll.after DeviceRamp.result? ramps stepped)) ≤
      (ramps.map DeviceRamp.left).sum := by
  rcases TryJoinAll.after_eq DeviceRamp.result? ramps stepped with
    ⟨abort, -, h⟩ | ⟨-, ⟨-, h⟩ | ⟨-, h⟩⟩
  · rw [h]
    exact Nat.zero_le _
  · rw [h]
    exact Nat.zero_le _
  · rw [h]
    exact Nat.le_refl _

/-- An evening has fewer and fewer steps to take. -/
theorem left_exec (hl : l.Succeeds)
    (h : SunsetLightTemp.exec almanac config (st, log) l = some (st', log')) :
    st'.left config < st.left config := by
  rcases exec_cases h with ⟨clock, rfl, rfl, -⟩ | ⟨t, rfl, rfl, rfl⟩ |
      ⟨ramps, i, l', ramp, ramp', events, rfl, rfl, hi, hstep, rfl, rfl⟩
  · cases l with
    | clock readings => exact hl.elim
    | slept => cases h
    | ramp i l' => cases h
  · have hle := left_ofJoin_start config (config.devices.map .start)
    show _ < ((config.devices.map DeviceRamp.start).map DeviceRamp.left).sum + 1
    omega
  · have hle := left_ofJoin_after config (ramps.set i ramp') ramp'
    -- One ramp has fewer steps to take, and the others as many
    have hsum := List.sum_map_set DeviceRamp.left hi ramp'
    have hlt := DeviceRamp.left_step hstep
    show _ < (ramps.map DeviceRamp.left).sum
    omega

/-- Where no ramp has failed, the evening goes on until the loop is back at its top. -/
theorem exists_exec (hst : Ramped config st log) (hended : ∀ abort, st ≠ .ended abort) :
    st = .computing ∨ ∃ l p, l.Succeeds ∧
      SunsetLightTemp.exec almanac config (st, log) l = some p := by
  cases st with
  | computing => exact .inl rfl
  | sleeping t => exact .inr ⟨.slept, _, trivial, rfl⟩
  | ramping ramps =>
    -- Some ramp has not returned, and can go on
    obtain ⟨-, ramp, hmem, hresult⟩ := hst
    obtain ⟨i, hi⟩ := List.mem_iff_getElem?.mp hmem
    obtain ⟨l', q, hl', hstep⟩ := DeviceRamp.exists_step hresult
    right
    refine ⟨.ramp i l', (ofJoin (TryJoinAll.after DeviceRamp.result? (ramps.set i q.1) q.1),
      log ++ q.2.map (.ramp i)), hl', ?_⟩
    simp only [SunsetLightTemp.exec, SunsetLightTemp.step, hi, hstep, Option.map_some]
  | ended abort => exact absurd rfl (hended abort)

/-- An evening whose ranges go upwards does not fail. -/
theorem Ramped.survives (hst : Ramped config st log)
    (hascending : ∀ update ∈ config.devices, update.Ascending) :
    ∀ abort, st ≠ .ended abort := by
  rintro abort rfl
  obtain ⟨i, ramp, hmem, hresult, hramped⟩ := hst
  have hok := hramped.result_eq (hascending _ hmem) (by rw [hresult]; exact Option.some_ne_none _)
  rw [hresult] at hok
  cases hok

end SunsetLightTemp

/-! ## The whole evening -/

section Evening

variable {almanac : Almanac} {config : SunsetLightTempAutomationConfig} {sunset : Int}
variable {as : List SunsetLabel} {st : SunsetLightTemp} {log : List SunsetEvent}

/-- The ramps of an evening go through their ranges. -/
theorem Evening.ramped (h : Evening almanac config sunset as st log) :
    SunsetLightTemp.Ramped config st log := by
  have hbegin : SunsetLightTemp.Ramped config (.sleeping sunset) [] := rfl
  exact Lts.run_invariant_of_forall (I := fun p => SunsetLightTemp.Ramped config p.1 p.2)
    (s := (.sleeping sunset, [])) _ (fun _ _ _ hp hl he => SunsetLightTemp.Ramped.exec hl he hp)
    h.1 h.2 hbegin

/-- An evening is no longer than its ramps take. -/
theorem Evening.length_le (h : Evening almanac config sunset as st log) :
    as.length ≤ (SunsetLightTemp.sleeping sunset).left config := by
  have hle : as.length + st.left config ≤ (SunsetLightTemp.sleeping sunset).left config :=
    Lts.run_length_le (μ := fun p => p.1.left config) _
      (fun _ _ _ hl he => SunsetLightTemp.left_exec hl he) h.1 h.2
  omega

/-- An evening whose ranges go upwards comes to its end. -/
theorem Evening.goes_on (h : Evening almanac config sunset as st log)
    (hascending : ∀ update ∈ config.devices, update.Ascending) :
    ∃ as' log', Evening almanac config sunset (as ++ as') .computing log' := by
  -- On the measure of what is left, which every step that succeeds makes smaller
  obtain ⟨as', ⟨st', log'⟩, has', hrun, -, hend⟩ :=
    Lts.exists_run_of_measure (SunsetLightTemp.exec almanac config)
      (μ := fun p => p.1.left config) (Q := SunsetLabel.Succeeds)
      (I := fun p => SunsetLightTemp.Ramped config p.1 p.2) (G := fun p => p.1 = .computing)
      (fun _ hp => SunsetLightTemp.exists_exec hp (hp.survives hascending))
      (fun _ _ _ hp hl he =>
        ⟨SunsetLightTemp.Ramped.exec hl he hp, SunsetLightTemp.left_exec hl he⟩)
      (s := (st, log)) h.ramped
  obtain rfl : st' = .computing := hend
  -- The events of the run so far and of the rest all succeed
  refine ⟨as', log', ?_, ?_⟩
  · intro l hl
    rcases List.mem_append.mp hl with hl | hl
    · exact h.1 l hl
    · exact has' l hl
  · rw [Lts.run_append_of _ h.2]
    exact hrun

/-- The rounds request each value once. -/
theorem requestsOf_rounds (update : SunsetDeviceConfig) (secs : UInt64) (values : List UInt32) :
    requestsOf (rounds update secs values) = values.map update.request := by
  induction values with
  | nil => rfl
  | cons c values ih =>
    have hcons : rounds update secs (c :: values) =
        [.request (update.request c), .sleep secs] ++ rounds update secs values := rfl
    rw [hcons, requestsOf, List.filterMap_append, List.map_cons]
    exact congrArg (update.request c :: ·) ih

/-- What a device has been requested by the end of an evening. -/
theorem Evening.requests (h : Evening almanac config sunset as .computing log) {i : Nat}
    {update : SunsetDeviceConfig} (hi : config.devices[i]? = some update) :
    requestsOf (rampLog i log) = update.range.toList.map update.request ∧
      (update.range.toList ≠ [] → ∃ secs, update.pause = .ok secs) := by
  obtain ⟨ramp, rfl, hresult, hramped⟩ := h.ramped i update hi
  obtain ⟨secs, hpaused, hlog⟩ := hramped.of_result hresult
  constructor
  · rw [hlog]
    exact requestsOf_rounds ramp.update secs _
  · intro hne
    exact ⟨secs, hpaused hne⟩

/-- A request names its value. -/
theorem SunsetDeviceConfig.request_injective (update : SunsetDeviceConfig) :
    Function.Injective update.request := by
  intro c c' h
  injection h with _ h
  injection h with h
  injection h

/-- A range that an evening covers goes upwards. -/
theorem Evening.ascending_of_sweep (h : Evening almanac config sunset as .computing log) {i : Nat}
    {update : SunsetDeviceConfig} (hi : config.devices[i]? = some update) {values : List UInt32}
    (hsweep : Sweep update.colorTempRange.1 update.colorTempRange.2 values)
    (hvalues : requestsOf (rampLog i log) = values.map update.request) : update.Ascending := by
  -- The values requested are the range of the device, which is not empty
  obtain ⟨hrequests, hpause⟩ := h.requests hi
  rw [hvalues] at hrequests
  have heq : values = update.range.toList :=
    List.map_injective_iff.mpr update.request_injective hrequests
  have hne : update.range.toList ≠ [] := by
    intro hnil
    have hfirst := hsweep.first
    rw [heq, hnil] at hfirst
    cases hfirst
  show update.colorTempRange.1 < update.colorTempRange.2
  rw [UInt32.lt_iff_toNat_lt]
  rcases Nat.lt_trichotomy update.colorTempRange.1.toNat update.colorTempRange.2.toNat with
    hlt | hab | hgt
  · exact hlt
  · -- the pause after the one request panics
    obtain ⟨secs, hsecs⟩ := hpause hne
    rw [SunsetDeviceConfig.pause_of_eq (UInt32.toNat_inj.mp hab)] at hsecs
    cases hsecs
  · -- nothing is requested
    exact absurd (RangeInclusive.toList_new_of_lt (UInt32.lt_iff_toNat_lt.mpr hgt)) hne

end Evening

/-- Every evening covers the ranges and comes back to the loop exactly when they all go
upwards. -/
theorem ramps_cover_iff (almanac : Almanac) (config : SunsetLightTempAutomationConfig)
    (sunset : Int) :
    RampsCover almanac config sunset ↔
      ∀ update ∈ config.devices, update.colorTempRange.1 < update.colorTempRange.2 := by
  constructor
  · -- the evening comes to its end, and has covered the range of the device
    intro h update hupdate
    obtain ⟨i, hi⟩ := List.mem_iff_getElem?.mp hupdate
    obtain ⟨as, log, hevening⟩ := h.goes_on [] _ _ ⟨fun l hl => (by cases hl), rfl⟩
    rw [List.nil_append] at hevening
    obtain ⟨values, hsweep, hvalues⟩ := h.covers as log hevening i update hi
    exact hevening.ascending_of_sweep hi hsweep hvalues
  · -- when all ascend, the evening survives, goes on, is bounded and covers each range
    intro hascending
    refine ⟨?_, ?_, ?_, ?_⟩
    · intro as st log hevening
      exact hevening.ramped.survives hascending
    · intro as st log hevening
      exact hevening.goes_on hascending
    · exact ⟨_, fun as st log hevening => hevening.length_le⟩
    · intro as log hevening i update hi
      have hle : update.colorTempRange.1 ≤ update.colorTempRange.2 :=
        UInt32.le_of_lt (hascending update (List.mem_of_getElem? hi))
      exact ⟨_, sweep_range hle, (hevening.requests hi).1⟩

/-- A range of one value panics after its request, and one that goes downwards requests
nothing. -/
theorem ramps_cover_not :
    ¬RampsCover SunsetLightTemp.Demo.almanac ⟨[⟨⟨"lamp"⟩, (3000, 3000), 3600⟩]⟩ 0 ∧
      ¬RampsCover SunsetLightTemp.Demo.almanac ⟨[⟨⟨"lamp"⟩, (6500, 2500), 3600⟩]⟩ 0 := by
  constructor
  · intro h
    have hrun : Evening SunsetLightTemp.Demo.almanac ⟨[⟨⟨"lamp"⟩, (3000, 3000), 3600⟩]⟩ 0
        [.slept, .ramp 0 .poll, .ramp 0 (.dispatched (.ok ()))]
        (.ended (.panic "attempt to divide by zero")) _ :=
      ⟨by simp [SunsetLabel.Succeeds, DeviceRamp.Succeeds], rfl⟩
    -- The one request is made before the pause panics
    exact h.survives _ _ _ hrun _ rfl
  · intro h
    have hrun : Evening SunsetLightTemp.Demo.almanac ⟨[⟨⟨"lamp"⟩, (6500, 2500), 3600⟩]⟩ 0
        [.slept, .ramp 0 .poll] .computing [.started 0] :=
      ⟨by simp [SunsetLabel.Succeeds, DeviceRamp.Succeeds], rfl⟩
    obtain ⟨values, hsweep, hvalues⟩ := h.covers _ _ hrun 0 _ rfl
    cases values with
    | nil => cases hsweep.first
    | cons value values => cases hvalues

end Devicectrl
