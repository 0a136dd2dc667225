import Devicectrl.Spec.UdpIngestion

/-!
# The brightness of Govee devices

A status reports the brightness as a JSON number, of which `parse_query_payload` takes an unsigned
integer of 64 bits and keeps the low 32. Nothing compares it with the range that
`BRIGHTNESS_PROPS` declares.

## Key results

- `neverMisread_iff`: the payloads whose brightness is stored as it was reported, or not at all
-/

namespace Devicectrl.Govee

open Json (Value)

/-- What a status reports as the brightness. -/
def reportedBrightness (payload : Value) : Value :=
  ((payload.index "msg").index "data").index "brightness"

/-- The payload reports an integer of the declared range. -/
def Reports (payload : Value) (n : UInt32) : Prop :=
  (reportedBrightness payload).integer? = some (n.toNat : Int) ∧
    BRIGHTNESS_PROPS.min ≤ n ∧ n ≤ BRIGHTNESS_PROPS.max

/-- The state has brightness `n`, which relative updates are based on. -/
structure HasBrightness (env : Env) (state : DeviceState) (n : UInt32) : Prop where
  light : ∃ power, state = .dimmableLight ⟨power, env.toState BRIGHTNESS_PROPS n⟩
  base : ∀ device update, device.state = state →
    buildUpdatePayload env device (.brightness update) =
      .ok (command "brightness" (.single "value"
        (.ofNat (env.applyTo update (env.toState BRIGHTNESS_PROPS n)).toNat)))

/-- In every run of the listener, a turn whose datagram is `payload`, from a device of this type,
leaves the server as it was. -/
def KeepsStates (env : IncomingEnv) (payload : Value) (deviceType : DeviceType) : Prop :=
  ∀ app acts st, app.devices.Keyed → 0 < app.hooks.sender.receivers →
    Lts.run (ListenRun.exec env .govee) (.start app) acts = some st →
    ∀ turn ∈ st.finished, ∀ read, turn.polls.head? = some read →
      ∀ device, findDevice read.1.devices turn.addr = some device →
        device.deviceType = deviceType →
          env.govee.fromSlice (turn.datagram.take 1500) = .ok payload →
            ∀ poll ∈ turn.polls, poll.2 = poll.1

/-- What is stored for the payload is the brightness that it reports, and of the declared range.
If it reports no such integer, it is an error and nothing is stored. -/
structure NeverMisread (env : IncomingEnv) (payload : Value) (deviceType : DeviceType) : Prop where
  stored : ∀ state, parseQueryPayload env.govee payload deviceType = .ok state →
    ∃ n, Reports payload n ∧ HasBrightness env.govee state n
  rejected : (∀ n, ¬Reports payload n) →
    ∃ e, parseQueryPayload env.govee payload deviceType = .error e
  kept : (∀ n, ¬Reports payload n) → KeepsStates env payload deviceType

/-- The payload of a light is complete, and reports more than the declared range has. -/
def Overlarge (payload : Value) (deviceType : DeviceType) : Prop :=
  deviceType = .dimmableLight ∧
    (((payload.index "msg").index "data").index "onOff").asI64.isSome ∧
      ∃ n, (reportedBrightness payload).asU64 = some n ∧ BRIGHTNESS_PROPS.max.toNat < n.toNat

section Payloads

variable {env : IncomingEnv} {payload : Value} {deviceType : DeviceType} {state : DeviceState}

/-- A light that was made with a brightness has it. -/
theorem HasBrightness.mk_light (env : Env) (power : SwitchPower) (n : UInt32) :
    HasBrightness env (.dimmableLight ⟨power, env.toState BRIGHTNESS_PROPS n⟩) n := by
  refine ⟨⟨power, rfl⟩, fun device update h => ?_⟩
  simp only [buildUpdatePayload, h]
  rfl

/-- A payload that is read reports an unsigned integer, of which the low half is stored. -/
theorem parseQueryPayload_ok {env : Env}
    (h : parseQueryPayload env payload deviceType = .ok state) :
    deviceType = .dimmableLight ∧
      (((payload.index "msg").index "data").index "onOff").asI64.isSome ∧
      ∃ n : UInt64, (reportedBrightness payload).asU64 = some n ∧
        HasBrightness env state n.toUInt32 := by
  cases deviceType with
  | dimmableLight =>
    simp only [parseQueryPayload] at h
    -- Without `onOff` there is no state
    split at h
    · cases h
    · rename_i onOff honOff
      -- Without a number there is no state
      split at h
      · cases h
      · rename_i n hn
        cases h
        exact ⟨rfl, Option.isSome_iff_exists.mpr ⟨onOff, honOff⟩, n, hn, .mk_light env _ _⟩
  | switch => cases h
  | colorLight => cases h
  | other name => cases h

/-- Within the declared range the low half is all of the integer. -/
theorem reports_of_le {n : UInt64} (h : (reportedBrightness payload).asU64 = some n)
    (hle : n.toNat ≤ BRIGHTNESS_PROPS.max.toNat) : Reports payload n.toUInt32 := by
  have hmax : BRIGHTNESS_PROPS.max.toNat = 100 := rfl
  have hlow : n.toUInt32.toNat = n.toNat := by
    rw [UInt64.toNat_toUInt32]
    omega
  refine ⟨?_, UInt32.zero_le, ?_⟩
  · rw [Json.Value.integer?_of_asU64 h, hlow]
  · rw [UInt32.le_iff_toNat_le, hlow]
    exact hle

/-- An overlarge payload is read all the same. -/
theorem Overlarge.exists_state (env : Env) (h : Overlarge payload deviceType) :
    ∃ state, parseQueryPayload env payload deviceType = .ok state := by
  obtain ⟨rfl, honOff, n, hn, -⟩ := h
  obtain ⟨onOff, honOff⟩ := Option.isSome_iff_exists.mp honOff
  have hn' : (((payload.index "msg").index "data").index "brightness").asU64 = some n := hn
  refine ⟨.dimmableLight ⟨if onOff = 1 then .on else .off,
    env.toState BRIGHTNESS_PROPS n.toUInt32⟩, ?_⟩
  simp only [parseQueryPayload, honOff, hn']

/-- It reports no integer of the declared range. -/
theorem Overlarge.not_reports (h : Overlarge payload deviceType) (n : UInt32) :
    ¬Reports payload n := by
  obtain ⟨-, -, m, hm, hlt⟩ := h
  intro hreports
  obtain ⟨hn, -, hle⟩ := hreports
  rw [Json.Value.integer?_of_asU64 hm] at hn
  rw [UInt32.le_iff_toNat_le] at hle
  have heq : m.toNat = n.toNat := Int.ofNat.inj (Option.some.inj hn)
  omega

/-- Apart from overlarge ones, what is read is what the payload reports. -/
theorem reports_of_parseQueryPayload {env : Env} (hfits : ¬Overlarge payload deviceType)
    (h : parseQueryPayload env payload deviceType = .ok state) :
    ∃ n, Reports payload n ∧ HasBrightness env state n := by
  obtain ⟨htype, honOff, n, hn, hstate⟩ := parseQueryPayload_ok h
  refine ⟨n.toUInt32, reports_of_le hn ?_, hstate⟩
  by_contra hlt
  exact hfits ⟨htype, honOff, n, hn, Nat.lt_of_not_le hlt⟩

/-- A turn on a payload that is not read leaves the server alone. -/
theorem keepsStates_of_error {e : Error}
    (h : parseQueryPayload env.govee payload deviceType = .error e) :
    KeepsStates env payload deviceType := by
  intro app acts st hk hr hrun turn hturn read hread device hfind htype hslice
  subst htype
  -- Each finished turn of the listener is ingested
  have hinv := Lts.run_invariant _ (fun _ _ _ hs h => ListenRun.Inv.exec hk hr hs h) hrun
    (ListenRun.inv_start env .govee app)
  obtain ⟨read', ⟨-, hpolls⟩ | ⟨-, update, device', _, _, _, _, haccepts, hpolls, -⟩⟩ :=
    hinv.finished turn hturn
  · rw [hpolls]
    intro poll hpoll
    obtain rfl : poll = (read', read') := List.mem_singleton.mp hpoll
    rfl
  · -- what was accepted would have been read
    rw [hpolls] at hread
    cases hread
    obtain rfl : device = device' := Option.some.inj (hfind.symm.trans haccepts.found)
    obtain ⟨payload', hslice', hparse⟩ := haccepts.state
    cases hslice.symm.trans hslice'
    cases h.symm.trans hparse

end Payloads

/-- The brightness of a payload is never misread exactly when the payload is not that of a
dimmable light with its `onOff` and a brightness above 100. -/
theorem neverMisread_iff (env : IncomingEnv) (payload : Value) (deviceType : DeviceType) :
    NeverMisread env payload deviceType ↔ ¬Overlarge payload deviceType := by
  constructor
  · -- a value that does not fit is read, and what is stored is not what was reported
    intro h hlarge
    obtain ⟨state, hstate⟩ := hlarge.exists_state env.govee
    obtain ⟨n, hn, -⟩ := h.stored state hstate
    exact hlarge.not_reports n hn
  · intro hfits
    -- A payload that reports nothing is refused, since what is parsed is reported
    have herror : (∀ n, ¬Reports payload n) →
        ∃ e, parseQueryPayload env.govee payload deviceType = .error e := by
      intro hnone
      cases hparse : parseQueryPayload env.govee payload deviceType with
      | error e => exact ⟨e, rfl⟩
      | ok state =>
        obtain ⟨n, hn, -⟩ := reports_of_parseQueryPayload hfits hparse
        exact absurd hn (hnone n)
    refine ⟨fun state hstate => reports_of_parseQueryPayload hfits hstate, herror, ?_⟩
    intro hnone
    obtain ⟨e, he⟩ := herror hnone
    exact keepsStates_of_error he

/-! ## A lamp that reports a brightness of 2³² + 1 -/

namespace Demo

open ListenRun.Demo (app lamp lampAddr)

/-- The status of a light with a brightness of 2³² + 1. -/
def overlarge : Value :=
  .single "msg" (.single "data"
    (.object [("onOff", .ofNat 1), ("brightness", .ofNat 4294967297)]))

/-- The one text of a status here. -/
def text : List UInt8 :=
  "\x7b\"msg\":\x7b\"data\":\x7b\"onOff\":1,\"brightness\":4294967297\x7d\x7d\x7d"
    |>.toUTF8.data.toList

/-- This text is read as that status, and no other text is read. -/
def env : IncomingEnv :=
  { ListenRun.Demo.env with
    govee := { ListenRun.Demo.env.govee with
      fromSlice := fun bytes =>
        if bytes = text then .ok overlarge else .error ["expected value at line 1 column 1"] } }

end Demo

open ListenRun.Demo in
/-- The listener stores a brightness of 1 for a lamp that reports 2³² + 1. -/
theorem not_neverMisread :
    ¬NeverMisread Demo.env Demo.overlarge .dimmableLight ∧
      (reportedBrightness Demo.overlarge).integer? = some 4294967297 ∧
      ∃ st, Lts.run (ListenRun.exec Demo.env .govee) (.start app)
          [.listener (.received (.ok (lampAddr, Demo.text))), .listener .poll,
            .listener .poll, .listener .poll] = some st ∧
        st.app.devices.lookup lamp.id =
          some { lamp with state := .dimmableLight ⟨.on, ⟨BRIGHTNESS_PROPS, 1⟩⟩ } := by
  refine ⟨fun h => ?_, rfl, _, rfl, rfl⟩
  have hlarge : Overlarge Demo.overlarge .dimmableLight := ⟨rfl, rfl, 4294967297, rfl, by decide⟩
  obtain ⟨state, hstate⟩ := hlarge.exists_state Demo.env.govee
  obtain ⟨n, hn, -⟩ := h.stored state hstate
  exact hlarge.not_reports n hn

end Devicectrl.Govee
