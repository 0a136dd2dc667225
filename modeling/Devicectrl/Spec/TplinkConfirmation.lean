import Devicectrl.ForStd.Noninterference
import Devicectrl.Spec.TplinkCipher
import Devicectrl.Spec.UpdateEffects

/-!
# Who confirms a TP-Link update

`send_update` of the TP-Link controller waits for an answer on a socket that is bound but not
connected, and `recv` yields the datagram that arrives first, whoever sent it. The listener of the
same controller looks at the sender, this one does not.

## Key results

- `sendUpdate_run`: `sendUpdate` is what the steps of a call come to in given surroundings
- `confirmedByDevice_iff`: when an update is confirmed by its own device only
-/

namespace Devicectrl.Tplink

open Json (Value)
open Noninterference (Noninterfering)

/-! ## A call in its surroundings -/

/-- What the sockets answer to a call of `send_update`, but for the datagrams. -/
structure Surroundings where
  bound : Except Error Unit
  sent : Except Error Unit
  queried : Except Error Unit

/-- `receive_response` within its timeout, on the datagrams that arrive before the timeout. -/
def receiveResponse (env : ControllerEnv) : List (Ipv4Addr × List UInt8) → Except Error Value
  | [] => .error ["timed out waiting for response", "deadline has elapsed"]
  | (_, datagram) :: _ => env.fromSlice (decrypt (datagram.take 1500))

/-- What follows the answer: the device is queried if it says that it succeeded. -/
def finishUpdate (env : ControllerEnv) (device : Device) (w : Surroundings) (setRes : Value) :
    Except Error Unit := do
  let success ← isResponseSuccess setRes device.deviceType
  if success then
    let _ ← env.toVec buildQueryPayload
    w.queried
  else .error ["Device update was unsuccessful"]

/-- `send_update` as a whole. -/
def sendUpdate (env : ControllerEnv) (device : Device) (request : UpdateRequest)
    (w : Surroundings) (arrivals : List (Ipv4Addr × List UInt8)) : Except Error Unit := do
  let payload ← buildUpdatePayload request.update
  w.bound
  let _ ← env.toVec payload
  w.sent
  let setRes ← receiveResponse env arrivals
  finishUpdate env device w setRes

namespace SendUpdate

/-- What ends next where a call awaits. -/
def label (w : Surroundings) (arrivals : List (Ipv4Addr × List UInt8)) :
    SendUpdate → DeviceLabel
  | .binding _ => .bound w.bound
  | .sending _ => .sent w.sent
  | .receiving =>
    match arrivals with
    | [] => .timedOut
    | arrival :: _ => .received (.ok arrival)
  | .querying _ => .sent w.queried

/-- A step by what the surroundings yield. -/
def exec (env : ControllerEnv) (device : Device) (w : Surroundings)
    (arrivals : List (Ipv4Addr × List UInt8)) :
    SendUpdate ⊕ Except Error Unit → Unit → Option (SendUpdate ⊕ Except Error Unit)
  | .inl call, _ => call.step env device (call.label w arrivals)
  | .inr _, _ => none

/-- What a call comes to in its surroundings. -/
def outcome (env : ControllerEnv) (device : Device) (w : Surroundings)
    (arrivals : List (Ipv4Addr × List UInt8)) :
    SendUpdate ⊕ Except Error Unit → Except Error Unit
  | .inl (.binding payload) => do
    w.bound
    let _ ← env.toVec payload
    w.sent
    let setRes ← receiveResponse env arrivals
    finishUpdate env device w setRes
  | .inl (.sending _) => do
    w.sent
    let setRes ← receiveResponse env arrivals
    finishUpdate env device w setRes
  | .inl .receiving => do
    let setRes ← receiveResponse env arrivals
    finishUpdate env device w setRes
  | .inl (.querying _) => w.queried
  | .inr result => result

/-- How many steps a call still takes at most. -/
def remaining : SendUpdate ⊕ Except Error Unit → Nat
  | .inl (.binding _) => 4
  | .inl (.sending _) => 3
  | .inl .receiving => 2
  | .inl (.querying _) => 1
  | .inr _ => 0

variable {env : ControllerEnv} {device : Device} {w : Surroundings}
  {arrivals : List (Ipv4Addr × List UInt8)}

/-- Encoding a command fails at once, or is followed by what comes next. -/
theorem outcome_sendCommand (command : Value) (next : List UInt8 → SendUpdate)
    {result : Except Error Unit}
    (hnext : ∀ data, outcome env device w arrivals (.inl (next data)) = result) :
    outcome env device w arrivals (sendCommand env command next) =
      (env.toVec command >>= fun _ => result) := by
  rw [sendCommand]
  cases env.toVec command with
  | error e => rfl
  | ok data => exact hnext _

/-- An answer has been received. -/
theorem outcome_confirm (datagram : List UInt8) :
    outcome env device w arrivals (confirm env device datagram) =
      (env.fromSlice (decrypt (datagram.take 1500)) >>= finishUpdate env device w) := by
  -- The datagram is no JSON, or it is judged for the device
  rw [confirm]
  cases env.fromSlice (decrypt (datagram.take 1500)) with
  | error e => rfl
  | ok setRes =>
    dsimp only
    show _ = finishUpdate env device w setRes
    unfold finishUpdate
    cases isResponseSuccess setRes device.deviceType with
    | error e => rfl
    -- A success is followed by the query of the device
    | ok success =>
      cases success with
      | false => rfl
      | true => exact outcome_sendCommand _ _ fun _ => rfl

/-- The outcome of a call that starts is that of `send_update`. -/
theorem outcome_start (request : UpdateRequest) :
    outcome env device w arrivals (start request) =
      sendUpdate env device request w arrivals := by
  unfold start sendUpdate
  cases buildUpdatePayload request.update with
  | error e => rfl
  | ok payload => rfl

/-- To encode a command takes no more steps than what follows it. -/
theorem remaining_sendCommand (command : Value) {next : List UInt8 → SendUpdate} {n : Nat}
    (hnext : ∀ data, remaining (.inl (next data)) < n) :
    remaining (sendCommand env command next) < n := by
  rw [sendCommand]
  split
  · exact Nat.lt_of_le_of_lt (Nat.zero_le _) (hnext [])
  · exact hnext _

/-- After an answer there is the query left to send, at most. -/
theorem remaining_confirm (datagram : List UInt8) :
    remaining (confirm env device datagram) < 2 := by
  rw [confirm]
  split
  · exact Nat.two_pos
  · split
    · exact Nat.two_pos
    · exact Nat.two_pos
    · exact remaining_sendCommand buildQueryPayload fun _ => Nat.lt_succ_self 1

/-- A call in its surroundings goes on, towards its end, to what it comes to. -/
theorem exec_outcome (call : SendUpdate) :
    ∃ s, exec env device w arrivals (.inl call) () = some s ∧
      outcome env device w arrivals s = outcome env device w arrivals (.inl call) ∧
        remaining s < remaining (.inl call) := by
  -- Each stage takes one step, which leaves the outcome and shortens what remains
  cases call with
  | binding payload =>
    have houtcome : outcome env device w arrivals (.inl (.binding payload)) =
        (w.bound >>= fun _ => env.toVec payload >>= fun _ =>
          outcome env device w arrivals (.inl (.sending []))) := rfl
    rw [houtcome]
    simp only [exec, label, step]
    -- A socket that cannot be bound, or a command to be sent
    cases w.bound with
    | error e => exact ⟨_, rfl, rfl, Nat.succ_pos 3⟩
    | ok u =>
      exact ⟨_, rfl, outcome_sendCommand payload .sending fun _ => rfl,
        remaining_sendCommand payload fun _ => Nat.lt_succ_self 3⟩
  | sending data =>
    have houtcome : outcome env device w arrivals (.inl (.sending data)) =
        (w.sent >>= fun _ => outcome env device w arrivals (.inl .receiving)) := rfl
    rw [houtcome]
    simp only [exec, label, step]
    cases w.sent with
    | error e => exact ⟨_, rfl, rfl, Nat.succ_pos 2⟩
    | ok u => exact ⟨_, rfl, rfl, Nat.lt_succ_self 2⟩
  | receiving =>
    simp only [exec, label]
    -- No datagram in time, or the first one, from whatever address
    cases arrivals with
    | nil => exact ⟨_, rfl, rfl, Nat.succ_pos 1⟩
    | cons arrival arrivals => exact ⟨_, rfl, outcome_confirm _, remaining_confirm _⟩
  | querying data => exact ⟨_, rfl, rfl, Nat.one_pos⟩

/-- In its surroundings, a call takes steps until it returns, and returns what `sendUpdate` says. -/
theorem sendUpdate_run (env : ControllerEnv) (device : Device) (request : UpdateRequest)
    (w : Surroundings) (arrivals : List (Ipv4Addr × List UInt8)) :
    ∃ steps, Lts.run (exec env device w arrivals) (start request) steps =
      some (.inr (sendUpdate env device request w arrivals)) := by
  -- What the call comes to is invariant, and each step is one towards the end
  have hstep : ∀ s (u : Unit) s',
      outcome env device w arrivals s = sendUpdate env device request w arrivals → True →
      exec env device w arrivals s u = some s' →
        outcome env device w arrivals s' = sendUpdate env device request w arrivals ∧
          remaining s' < remaining s := by
    intro s u s' hs _ hexec
    cases s with
    | inl call =>
      obtain ⟨s₁, hs₁, houtcome, hlt⟩ := exec_outcome call
      cases hs₁.symm.trans hexec
      exact ⟨houtcome.trans hs, hlt⟩
    | inr result => cases hexec
  have hprogress : ∀ s,
      outcome env device w arrivals s = sendUpdate env device request w arrivals →
        (∃ result, s = .inr result) ∨
          ∃ (u : Unit) (s' : _), True ∧ exec env device w arrivals s u = some s' := by
    intro s _
    cases s with
    | inl call =>
      obtain ⟨s', hs', -, -⟩ := exec_outcome call
      exact .inr ⟨(), s', trivial, hs'⟩
    | inr result => exact .inl ⟨result, rfl⟩
  obtain ⟨steps, s, -, hrun, houtcome, result, rfl⟩ :=
    Lts.exists_run_of_measure _ hprogress hstep (outcome_start request)
  obtain rfl : result = sendUpdate env device request w arrivals := houtcome
  exact ⟨steps, hrun⟩

end SendUpdate

/-! ## The datagrams that an answer is taken from -/

/-- The datagram decrypts to a response with `err_code` 0. -/
def SaysSuccess (env : ControllerEnv) (datagram : List UInt8) : Prop :=
  ∃ setRes, env.fromSlice (decrypt (datagram.take 1500)) = .ok setRes ∧
    (((setRes.index "system").index "set_relay_state").index "err_code").asI64 = some 0

/-- A success rests on a datagram of the device that says so, and whatever the datagrams of others
contain, the result is that of the device's own datagrams alone. -/
structure ConfirmedByDevice (env : ControllerEnv) (config : TplinkControllerConfig)
    (device : Device) (request : UpdateRequest) (w : Surroundings)
    (arrivals : List (Ipv4Addr × List UInt8)) : Prop where
  success : sendUpdate env device request w arrivals = .ok () →
    ∃ arrival ∈ arrivals, arrival.1 = config.address ∧ SaysSuccess env arrival.2
  noninterference : Noninterfering (fun addr => addr = config.address)
    (sendUpdate env device request w) arrivals

/-- The update can be sent as a command, and is. -/
def CommandSent (env : ControllerEnv) (request : UpdateRequest) (w : Surroundings) : Prop :=
  w.bound = .ok () ∧ w.sent = .ok () ∧
    ∃ payload data, buildUpdatePayload request.update = .ok payload ∧
      env.toVec payload = .ok data

/-- What `serde_json` makes of two texts: the empty one, and `null`. -/
structure JsonTexts (fromSlice : List UInt8 → Except Error Value) : Prop where
  empty : fromSlice [] = .error ["EOF while parsing a value at line 1 column 0"]
  null : fromSlice "null".toUTF8.data.toList = .ok .null

section Confirmation

variable {env : ControllerEnv} {config : TplinkControllerConfig} {device : Device}
  {request : UpdateRequest} {w : Surroundings} {arrivals : List (Ipv4Addr × List UInt8)}

/-- The bind of a value goes on with it. -/
private theorem ok_bind {α β : Type} (a : α) (f : α → Except Error β) :
    (Except.ok a >>= f) = f a := rfl

/-- The bind of an error is the error. -/
private theorem error_bind {α β : Type} (e : Error) (f : α → Except Error β) :
    (Except.error e >>= f) = .error e := rfl

/-- Once the command is sent, the answer decides. -/
theorem CommandSent.sendUpdate (h : CommandSent env request w)
    (arrivals : List (Ipv4Addr × List UInt8)) :
    Tplink.sendUpdate env device request w arrivals =
      (receiveResponse env arrivals >>= finishUpdate env device w) := by
  obtain ⟨hbound, hsent, payload, data, hpayload, hdata⟩ := h
  simp only [Tplink.sendUpdate, hpayload, hbound, hdata, hsent, ok_bind]

/-- Before that, an update fails whatever arrives. -/
theorem sendUpdate_of_not_sent (h : ¬CommandSent env request w) :
    ∃ e, ∀ arrivals, sendUpdate env device request w arrivals = .error e := by
  unfold sendUpdate
  -- It fails at the first step that is not as `CommandSent` has it
  cases hpayload : buildUpdatePayload request.update with
  | error e => exact ⟨e, fun _ => rfl⟩
  | ok payload =>
    cases hbound : w.bound with
    | error e => exact ⟨e, fun _ => rfl⟩
    | ok _ =>
      cases hdata : env.toVec payload with
      | error e => exact ⟨e, fun _ => by simp only [ok_bind, hdata, error_bind]⟩
      | ok data =>
        cases hsent : w.sent with
        | error e => exact ⟨e, fun _ => by simp only [ok_bind, hdata, error_bind]⟩
        | ok _ => exact absurd ⟨hbound, hsent, payload, data, hpayload, hdata⟩ h

/-- Only the datagram that arrives first is looked at. -/
theorem sendUpdate_of_head {xs ys : List (Ipv4Addr × List UInt8)} (h : xs.head? = ys.head?) :
    sendUpdate env device request w xs = sendUpdate env device request w ys := by
  -- Only the first datagram is read
  have hreceive : receiveResponse env xs = receiveResponse env ys := by
    cases xs with
    | nil =>
      cases ys with
      | nil => rfl
      | cons y ys => cases h
    | cons x xs =>
      cases ys with
      | nil => cases h
      | cons y ys =>
        cases h
        rfl
  unfold sendUpdate
  rw [hreceive]

/-- An update succeeds on an `err_code` of 0 only. -/
theorem errCode_of_finishUpdate {setRes : Value}
    (h : finishUpdate env device w setRes = .ok ()) :
    (((setRes.index "system").index "set_relay_state").index "err_code").asI64 = some 0 := by
  unfold finishUpdate at h
  -- The answer was judged a success, so its `err_code` is zero
  cases hsuccess : isResponseSuccess setRes device.deviceType with
  | error e =>
    rw [hsuccess] at h
    cases h
  | ok success =>
    rw [hsuccess] at h
    cases success with
    | false => cases h
    | true =>
      unfold isResponseSuccess at hsuccess
      split at hsuccess
      · split at hsuccess
        · cases hsuccess
        · rename_i errCode herrCode
          rw [herrCode]
          simpa using hsuccess
      · cases hsuccess

/-- A success is one that the first datagram states. -/
theorem saysSuccess_of_ok (hsent : CommandSent env request w)
    (h : sendUpdate env device request w arrivals = .ok ()) :
    ∃ arrival, arrivals.head? = some arrival ∧ SaysSuccess env arrival.2 := by
  rw [hsent.sendUpdate] at h
  -- No datagram is a timeout; one that says no success is an error
  cases arrivals with
  | nil => cases h
  | cons arrival arrivals =>
    refine ⟨arrival, rfl, ?_⟩
    have hreceive : receiveResponse env (arrival :: arrivals) =
        env.fromSlice (decrypt (arrival.2.take 1500)) := rfl
    rw [hreceive] at h
    cases hslice : env.fromSlice (decrypt (arrival.2.take 1500)) with
    | error e =>
      rw [hslice] at h
      cases h
    | ok setRes =>
      rw [hslice] at h
      rw [ok_bind] at h
      exact ⟨setRes, hslice, errCode_of_finishUpdate h⟩

/-- An answer of `null` is refused, whatever the type of the device. -/
theorem finishUpdate_null (env : ControllerEnv) (device : Device) (w : Surroundings) :
    finishUpdate env device w .null ≠
      .error ["EOF while parsing a value at line 1 column 0"] := by
  unfold finishUpdate
  cases device.deviceType with
  | switch => simp [isResponseSuccess, Value.index, Value.asI64, error_bind]
  | _ => simp [isResponseSuccess, error_bind]

/-- Once the command is sent, what the first datagram contains makes a difference. -/
theorem CommandSent.sendUpdate_ne (h : CommandSent env request w)
    (hjson : JsonTexts env.fromSlice) (addr : Ipv4Addr) :
    ∃ b b', Tplink.sendUpdate env device request w [(addr, b)] ≠
      Tplink.sendUpdate env device request w [(addr, b')] := by
  -- An answer that is JSON, and one that is not
  refine ⟨encrypt "null".toUTF8.data.toList, [], ?_⟩
  rw [h.sendUpdate, h.sendUpdate]
  have hnull : receiveResponse env [(addr, encrypt "null".toUTF8.data.toList)] = .ok .null := by
    rw [← hjson.null]
    show env.fromSlice (decrypt ((encrypt "null".toUTF8.data.toList).take 1500)) = _
    rw [decrypt_take_encrypt]
    rfl
  have hempty : receiveResponse env [(addr, [])] =
      .error ["EOF while parsing a value at line 1 column 0"] := hjson.empty
  -- The update fails with one error or with the other
  rw [hnull, hempty]
  exact finishUpdate_null env device w

end Confirmation

/-- An update is confirmed by its own device exactly where it is not sent as a command, or no
datagram arrives, or the first one that arrives is from the address of the device. -/
theorem confirmedByDevice_iff (env : ControllerEnv) (hjson : JsonTexts env.fromSlice)
    (config : TplinkControllerConfig) (device : Device) (request : UpdateRequest)
    (w : Surroundings) (arrivals : List (Ipv4Addr × List UInt8)) :
    ConfirmedByDevice env config device request w arrivals ↔
      ¬(CommandSent env request w ∧
        ∃ arrival, arrivals.head? = some arrival ∧ arrival.1 ≠ config.address) := by
  by_cases hsent : CommandSent env request w
  · have hiff : Noninterfering (fun addr => addr = config.address)
        (sendUpdate env device request w) arrivals ↔
          ¬∃ arrival, arrivals.head? = some arrival ∧ arrival.1 ≠ config.address :=
      Noninterference.noninterfering_iff_of_head (fun _ _ h => sendUpdate_of_head h)
        (hsent.sendUpdate_ne hjson) arrivals
    constructor
    · rintro ⟨-, hnoninterference⟩ ⟨-, hforeign⟩
      exact hiff.mp hnoninterference hforeign
    · intro h
      have hforeign : ¬∃ arrival, arrivals.head? = some arrival ∧ arrival.1 ≠ config.address :=
        fun hforeign => h ⟨hsent, hforeign⟩
      refine ⟨fun hok => ?_, hiff.mpr hforeign⟩
      -- What the success rests on came first, and so from the device
      obtain ⟨arrival, hhead, hsays⟩ := saysSuccess_of_ok hsent hok
      refine ⟨arrival, List.mem_of_mem_head? hhead, ?_, hsays⟩
      by_contra haddr
      exact hforeign ⟨arrival, hhead, haddr⟩
  · have hfails : ∃ e, ∀ arrivals, sendUpdate env device request w arrivals = .error e :=
      sendUpdate_of_not_sent hsent
    obtain ⟨e, he⟩ := hfails
    constructor
    · rintro - ⟨h, -⟩
      exact hsent h
    · intro _
      refine ⟨fun hok => ?_, fun ys _ => ?_⟩
      · rw [he] at hok
        cases hok
      · rw [he, he]

/-! ## A plug and a stranger -/

namespace Demo

open UpdateRun.Demo (query turnOn switched)

/-- The address of the plug. -/
def config : TplinkControllerConfig := ⟨0x0A000003⟩

/-- A switch of the TP-Link controller. -/
def plug : Device :=
  ⟨⟨"plug"⟩, .switch, .unknown, .tplink config⟩

def stranger : Ipv4Addr := 0x0A000009

def request : UpdateRequest := ⟨plug.id, .power .on⟩

/-- JSON as the plug answers it, and `null`. -/
def env : ControllerEnv :=
  { UpdateRun.Demo.env with
    fromSlice := fun bytes =>
      if bytes = [] then .error ["EOF while parsing a value at line 1 column 0"]
      else if bytes = "null".toUTF8.data.toList then .ok .null
      else UpdateRun.Demo.env.fromSlice bytes }

/-- No socket fails. -/
def surroundings : Surroundings := ⟨.ok (), .ok (), .ok ()⟩

/-- The parser of the plug's answers meets the assumption. -/
theorem jsonTexts : JsonTexts env.fromSlice := ⟨rfl, rfl⟩

end Demo

/-- The plug answers before a stranger does. -/
theorem confirmedByDevice_plug :
    ConfirmedByDevice Demo.env Demo.config Demo.plug Demo.request Demo.surroundings
      [(Demo.config.address, encrypt UpdateRun.Demo.switched), (Demo.stranger, [])] := by
  apply (confirmedByDevice_iff Demo.env Demo.jsonTexts Demo.config Demo.plug Demo.request
    Demo.surroundings _).mpr
  rintro ⟨-, arrival, hhead, hne⟩
  cases hhead
  exact hne rfl

/-- A stranger confirms an update for a plug that is silent, and has one fail that the plug
confirms. -/
theorem not_confirmedByDevice :
    (sendUpdate Demo.env Demo.plug Demo.request Demo.surroundings
        [(Demo.stranger, encrypt UpdateRun.Demo.switched)] = .ok () ∧
      ¬ConfirmedByDevice Demo.env Demo.config Demo.plug Demo.request Demo.surroundings
        [(Demo.stranger, encrypt UpdateRun.Demo.switched)]) ∧
    sendUpdate Demo.env Demo.plug Demo.request Demo.surroundings
        [(Demo.config.address, encrypt UpdateRun.Demo.switched)] = .ok () ∧
      sendUpdate Demo.env Demo.plug Demo.request Demo.surroundings
        [(Demo.stranger, []), (Demo.config.address, encrypt UpdateRun.Demo.switched)] =
          .error ["EOF while parsing a value at line 1 column 0"] := by
  refine ⟨⟨rfl, fun h => ?_⟩, rfl, rfl⟩
  -- The only datagram comes from another address than the plug's
  obtain ⟨arrival, hmem, haddr, -⟩ := h.success rfl
  obtain rfl := List.mem_singleton.mp hmem
  exact absurd haddr (by decide)

end Devicectrl.Tplink
