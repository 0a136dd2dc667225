import Devicectrl.Native.Http
import Devicectrl.Spec.ClientSessions

/-!
# Acknowledgements

When the backends send `RequestReceived`, against how the operation that it acknowledges has
ended. HTTP and the scenes of the socket backends acknowledge what has succeeded; the update
requests of the socket backends are acknowledged before they are processed.

## Key results

- `acknowledge_iff`: over every run, all handlers acknowledge exactly what has succeeded if and
  only if no update request fails that came over TCP or WebSocket
- `not_acknowledge`: a request for an unknown device is acknowledged over TCP
-/

namespace Devicectrl

variable {env : SocketEnv} {scenes : ScenesConfig} {app app' : AppState}

namespace BackendCall

variable {k k' : BackendCall} {l : HandlerLabel}

/-- A handler that has returned has acknowledged an operation that returned `Ok`, and no other:
`RequestReceived` was written only if it did, and was sent if it did. -/
def Agrees (k : BackendCall) : Prop :=
  k.handler.isDone = true →
    (k.acknowledged = some (.ok ()) → k.operation = some (.ok ())) ∧
      (k.operation = some (.ok ()) → k.acknowledged.isSome = true)

/-- A step of `process_update_request` called by `handle_line` succeeds. -/
def Succeeds (app : AppState) (k : BackendCall) (l : HandlerLabel) : Prop :=
  match k.handler, l with
  | .line (.requesting call), .line (.request l) => call.Succeeds app l
  | _, _ => True

/-- What a handler has done, by where it is. -/
inductive Coherent : BackendCall → Prop
  | received {request} :
      Coherent ⟨.line (.sending .requestReceived (some request)), none, none⟩
  | unsent {result e} : Coherent ⟨.line (.returned result), some (.error e), none⟩
  | requesting {call} (h : call.result? = none) :
      Coherent ⟨.line (.requesting call), some (.ok ()), none⟩
  | processed {result} : Coherent ⟨.line (.returned result), some (.ok ()), some result⟩
  | activating {call} (h : call.result? = none) : Coherent ⟨.line (.activating call), none, none⟩
  | acknowledging :
      Coherent ⟨.line (.sending .requestReceived none), none, some (.ok ())⟩
  | failed {result e} : Coherent ⟨.line (.returned result), none, some (.error e)⟩
  | acknowledged {result sent} :
      Coherent ⟨.line (.returned result), some sent, some (.ok ())⟩
  | httpRequesting {call} (h : call.result? = none) :
      Coherent ⟨.http (.requesting call), none, none⟩
  | httpActivating {call} (h : call.result? = none) :
      Coherent ⟨.http (.activating call), none, none⟩
  | httpAnswering : Coherent ⟨.http (.answering (.new .requestReceived)), none, some (.ok ())⟩
  | httpFailed {result e} : Coherent ⟨.http (.returned result), none, some (.error e)⟩
  | httpAnswered {result sent} :
      Coherent ⟨.http (.returned result), some sent, some (.ok ())⟩

/-- Nothing has been acknowledged or done when a message is received. -/
theorem Coherent.start (backend : Backend) (operation : Operation) :
    Coherent (.start backend operation) := by
  cases operation with
  | updateRequest request =>
    cases backend with
    | tcp => exact .received
    | websocket => exact .received
    | http => exact .httpRequesting rfl
  | activateScene sceneId =>
    cases backend with
    | tcp => exact .activating rfl
    | websocket => exact .activating rfl
    | http => exact .httpActivating rfl

/-- Only a handler that has returned can disagree. -/
theorem Agrees.of_not_done (h : k.handler.isDone = false) : k.Agrees := by
  intro hdone
  rw [h] at hdone
  exact absurd hdone Bool.false_ne_true

/-- A handler that is at work after a step has not failed in it. -/
private theorem agrees_of_working (h : k.handler.isDone = false) {p : Prop} (hp : p) :
    k.Agrees ↔ p :=
  ⟨fun _ => hp, fun _ => .of_not_done h⟩

/-- An operation that failed and was not acknowledged agrees, and so does one that succeeded and
was. -/
private theorem agrees_of_failed {handler : Handler} {e : Error} :
    BackendCall.Agrees ⟨handler, none, some (.error e)⟩ := by
  refine fun _ => ⟨fun hack => ?_, fun hop => ?_⟩
  · exact nomatch hack
  · exact nomatch hop

private theorem agrees_of_acknowledged {handler : Handler} {sent : Except Error Unit} :
    BackendCall.Agrees ⟨handler, some sent, some (.ok ())⟩ :=
  fun _ => ⟨fun _ => rfl, fun _ => rfl⟩

/-- The first acknowledgement of an update request ends. -/
theorem Coherent.step_received {request : UpdateRequest}
    (h : BackendCall.step env scenes app
      ⟨.line (.sending .requestReceived (some request)), none, none⟩ l = some (app', k')) :
    Coherent k' ∧ k'.Agrees := by
  cases l with
  | http l => exact nomatch h
  | line l =>
    cases l with
    | sent result =>
      -- A request that cannot be acknowledged is not processed either
      rcases result with e | ⟨⟩
      · cases h
        refine ⟨.unsent, fun _ => ⟨fun hack => ?_, fun hop => ?_⟩⟩
        · exact nomatch hack
        · exact nomatch hop
      · cases h
        exact ⟨.requesting rfl, .of_not_done rfl⟩
    | poll => exact nomatch h
    | request l => exact nomatch h
    | scene l => exact nomatch h
    | dispatched outcome => exact nomatch h

/-- A part of an update request that has been acknowledged: if it fails, the handler disagrees. -/
theorem Coherent.step_requesting {call : RequestCall} {l : RequestLabel}
    (hr : 0 < app.hooks.sender.receivers)
    (h : BackendCall.step env scenes app ⟨.line (.requesting call), some (.ok ()), none⟩
      (.line (.request l)) = some (app', k')) :
    Coherent k' ∧ (k'.Agrees ↔ call.Succeeds app l) := by
  obtain ⟨p, hp, he⟩ := Option.map_eq_some_iff.mp h
  obtain ⟨q, hq, rfl⟩ := Option.map_eq_some_iff.mp hp
  obtain ⟨q₁, hq₁, rfl⟩ := Option.map_eq_some_iff.mp hq
  obtain ⟨app₁, call'⟩ := q₁
  cases he
  have hop : (Handler.line (.requesting call)).operates scenes app (.line (.request l)) =
      call'.result? := by
    simp only [Handler.operates, hq₁, Option.bind_some]
  have hiff := (RequestCall.step_cases hq₁).succeeds_iff hr
  rw [hop, hiff]
  cases call' with
  | begin request => exact ⟨.requesting rfl, agrees_of_working rfl nofun⟩
  | dispatching device request => exact ⟨.requesting rfl, agrees_of_working rfl nofun⟩
  | returned result =>
    -- It was acknowledged before, so it disagrees as soon as the request fails
    refine ⟨.processed, fun hagrees e he => ?_, fun hne _ => ⟨fun _ => ?_, fun _ => rfl⟩⟩
    · cases he
      exact nomatch (hagrees rfl).1 rfl
    · rcases result with e | ⟨⟩
      · exact absurd rfl (hne e)
      · rfl

/-! The other handlers acknowledge what has returned `Ok`. -/

/-- A part of a scene that a line activates. -/
theorem Coherent.step_activating {call : SceneCall} {l : SceneLabel}
    (h : BackendCall.step env scenes app ⟨.line (.activating call), none, none⟩
      (.line (.scene l)) = some (app', k')) : Coherent k' ∧ k'.Agrees := by
  obtain ⟨p, hp, he⟩ := Option.map_eq_some_iff.mp h
  obtain ⟨q, hq, rfl⟩ := Option.map_eq_some_iff.mp hp
  obtain ⟨⟨app₁, call'⟩, hcall, rfl⟩ := Option.map_eq_some_iff.mp hq
  cases he
  -- What the part operates on is what the call has returned
  have hop : (Handler.line (.activating call)).operates scenes app (.line (.scene l)) =
      call'.result? := by
    simp only [Handler.operates, hcall, Option.bind_some]
  rw [hop]
  -- A scene that is still joined is acknowledged by nobody; the end of it decides
  cases call' with
  | begin sceneId => exact ⟨.activating rfl, .of_not_done rfl⟩
  | joining calls => exact ⟨.activating rfl, .of_not_done rfl⟩
  | returned result =>
    rcases result with e | ⟨⟩
    · exact ⟨.failed, agrees_of_failed⟩
    · exact ⟨.acknowledging, .of_not_done rfl⟩

/-- A scene that was activated is acknowledged afterwards. -/
theorem Coherent.step_acknowledging
    (h : BackendCall.step env scenes app
      ⟨.line (.sending .requestReceived none), none, some (.ok ())⟩ l = some (app', k')) :
    Coherent k' ∧ k'.Agrees := by
  -- Only the send of the acknowledgement is left, and it ends however that goes
  cases l with
  | http l => exact nomatch h
  | line l =>
    cases l with
    | sent result =>
      rcases result with e | ⟨⟩
      · cases h
        exact ⟨.acknowledged, agrees_of_acknowledged⟩
      · cases h
        exact ⟨.acknowledged, agrees_of_acknowledged⟩
    | poll => exact nomatch h
    | request l => exact nomatch h
    | scene l => exact nomatch h
    | dispatched outcome => exact nomatch h

/-- A part of an update request over HTTP. -/
theorem Coherent.step_httpRequesting {call : RequestCall} {l : RequestLabel}
    (h : BackendCall.step env scenes app ⟨.http (.requesting call), none, none⟩
      (.http (.request l)) = some (app', k')) : Coherent k' ∧ k'.Agrees := by
  obtain ⟨p, hp, he⟩ := Option.map_eq_some_iff.mp h
  obtain ⟨q, hq, rfl⟩ := Option.map_eq_some_iff.mp hp
  obtain ⟨⟨app₁, call'⟩, hcall, rfl⟩ := Option.map_eq_some_iff.mp hq
  cases he
  -- What the part operates on is what the call has returned
  have hop : (Handler.http (.requesting call)).operates scenes app (.http (.request l)) =
      call'.result? := by
    simp only [Handler.operates, hcall, Option.bind_some]
  rw [hop]
  cases call' with
  | begin request => exact ⟨.httpRequesting rfl, .of_not_done rfl⟩
  | dispatching device request => exact ⟨.httpRequesting rfl, .of_not_done rfl⟩
  -- A failure is returned at once, and a success is answered first
  | returned result =>
    rcases result with e | ⟨⟩
    · exact ⟨.httpFailed, agrees_of_failed⟩
    · exact ⟨.httpAnswering, .of_not_done rfl⟩

/-- A part of a scene over HTTP. -/
theorem Coherent.step_httpActivating {call : SceneCall} {l : SceneLabel}
    (h : BackendCall.step env scenes app ⟨.http (.activating call), none, none⟩
      (.http (.scene l)) = some (app', k')) : Coherent k' ∧ k'.Agrees := by
  obtain ⟨p, hp, he⟩ := Option.map_eq_some_iff.mp h
  obtain ⟨q, hq, rfl⟩ := Option.map_eq_some_iff.mp hp
  obtain ⟨⟨app₁, call'⟩, hcall, rfl⟩ := Option.map_eq_some_iff.mp hq
  cases he
  -- What the part operates on is what the call has returned
  have hop : (Handler.http (.activating call)).operates scenes app (.http (.scene l)) =
      call'.result? := by
    simp only [Handler.operates, hcall, Option.bind_some]
  rw [hop]
  cases call' with
  | begin sceneId => exact ⟨.httpActivating rfl, .of_not_done rfl⟩
  | joining calls => exact ⟨.httpActivating rfl, .of_not_done rfl⟩
  -- A failure is returned at once, and a success is answered first
  | returned result =>
    rcases result with e | ⟨⟩
    · exact ⟨.httpFailed, agrees_of_failed⟩
    · exact ⟨.httpAnswering, .of_not_done rfl⟩

/-- The response over HTTP is encoded, whatever was done. -/
theorem Coherent.step_httpAnswering
    (h : BackendCall.step env scenes app
      ⟨.http (.answering (.new .requestReceived)), none, some (.ok ())⟩ l = some (app', k')) :
    Coherent k' ∧ k'.Agrees := by
  -- The answer is encoded, and the call is over
  cases l with
  | line l => exact nomatch h
  | http l =>
    cases l with
    | encoded result =>
      rcases result with e | ⟨⟩
      · cases h
        exact ⟨.httpAnswered, agrees_of_acknowledged⟩
      · cases h
        exact ⟨.httpAnswered, agrees_of_acknowledged⟩
    | request l => exact nomatch h
    | scene l => exact nomatch h

/-- A step of a handler makes it disagree exactly when it fails an acknowledged request. -/
theorem Coherent.step (hk : Coherent k) (hr : 0 < app.hooks.sender.receivers)
    (h : k.step env scenes app l = some (app', k')) :
    Coherent k' ∧ (k'.Agrees ↔ k.Succeeds app l) := by
  -- Only a step of an acknowledged request can fail to succeed
  have hsucceeds {p : Prop} (h : Coherent k' ∧ k'.Agrees) (hp : p) :
      Coherent k' ∧ (k'.Agrees ↔ p) :=
    ⟨h.1, fun _ => hp, fun _ => h.2⟩
  cases hk with
  | received => exact hsucceeds (step_received h) trivial
  | unsent =>
    cases l with
    | line l => cases l <;> exact nomatch h
    | http l => exact nomatch h
  | requesting hcall =>
    cases l with
    | line l =>
      cases l with
      | request l => exact step_requesting hr h
      | poll => exact nomatch h
      | scene l => exact nomatch h
      | dispatched outcome => exact nomatch h
      | sent result => exact nomatch h
    | http l => exact nomatch h
  | activating hcall =>
    cases l with
    | line l =>
      cases l with
      | scene l => exact hsucceeds (step_activating h) trivial
      | poll => exact nomatch h
      | request l => exact nomatch h
      | dispatched outcome => exact nomatch h
      | sent result => exact nomatch h
    | http l => exact nomatch h
  | acknowledging => exact hsucceeds (step_acknowledging h) trivial
  | httpRequesting hcall =>
    cases l with
    | line l => exact nomatch h
    | http l =>
      cases l with
      | request l => exact hsucceeds (step_httpRequesting h) trivial
      | scene l => exact nomatch h
      | encoded result => exact nomatch h
  | httpActivating hcall =>
    cases l with
    | line l => exact nomatch h
    | http l =>
      cases l with
      | scene l => exact hsucceeds (step_httpActivating h) trivial
      | request l => exact nomatch h
      | encoded result => exact nomatch h
  | httpAnswering => exact hsucceeds (step_httpAnswering h) trivial
  | _ =>
    cases l with
    | line l => cases l <;> exact nomatch h
    | http l => cases l <;> exact nomatch h

end BackendCall

/-! ## Runs -/

section Runs

variable {st st' : System.State AppState BackendCall}
  {a : System.Act Task (Backend × Operation) HandlerLabel}

/-- No handler changes the configuration. -/
theorem BackendCall.step_sameConfig {k k' : BackendCall} {l : HandlerLabel}
    (h : k.step env scenes app l = some (app', k')) : app.SameConfig app' := by
  obtain ⟨p, hp, he⟩ := Option.map_eq_some_iff.mp h
  cases he
  cases hh : k.handler with
  | line line =>
    rw [hh] at hp
    cases l with
    | line l =>
      obtain ⟨q, hq, rfl⟩ := Option.map_eq_some_iff.mp hp
      -- Only the call of a line touches the server, and that sends hooks
      obtain ⟨hooks, hsends, -⟩ := Line.step_sends hq
      exact hsends.sameConfig
    | http l => exact nomatch hp
  | http call =>
    rw [hh] at hp
    cases l with
    | line l => exact nomatch hp
    | http l =>
      obtain ⟨⟨app₁, call'⟩, hq, rfl⟩ := Option.map_eq_some_iff.mp hp
      -- Only the call of `POST /` touches the server, and that sends hooks
      cases HttpCall.step_cases hq with
      | request hr =>
        obtain ⟨hooks, hsends, -⟩ := (RequestCall.step_cases hr).sends
        exact hsends.sameConfig
      | scene hr =>
        obtain ⟨hooks, hsends, -⟩ := (SceneCall.step_cases hr).sends
        exact hsends.sameConfig
      | _ => exact .refl app

/-- What the handlers of a server need: someone to send hooks to, and their own history. -/
structure BackendsReady (st : System.State AppState BackendCall) : Prop where
  receivers : 0 < st.shared.hooks.sender.receivers
  coherent : ∀ k ∈ st.comps, k.Coherent

/-- A step of a handler succeeds. -/
def StepSucceeds (st : System.State AppState BackendCall) :
    System.Act Task (Backend × Operation) HandlerLabel → Prop
  | .step i l => ∀ k, st.comps[i]? = some k → k.Succeeds st.shared l
  | _ => True

/-- Every action keeps the backends ready. -/
theorem BackendsReady.exec (h : BackendsReady st)
    (hexec : (backendCalls env scenes).exec st a = some st') : BackendsReady st' := by
  cases a with
  | env task =>
    obtain ⟨htask, hc⟩ := System.exec_env hexec
    exact ⟨(Task.run_sameConfig htask).receivers.mpr h.receivers, by rw [hc]; exact h.coherent⟩
  | spawn message =>
    obtain ⟨k, hspawn, hc⟩ := System.exec_spawn hexec
    obtain ⟨happ, hk⟩ := Prod.mk.inj (Option.some.inj hspawn)
    have happ' : st.shared = st'.shared := happ
    refine ⟨by rw [← happ']; exact h.receivers, fun k' hk' => ?_⟩
    rw [hc, List.mem_append, List.mem_singleton] at hk'
    rcases hk' with hk' | rfl
    · exact h.coherent k' hk'
    · -- a handler that begins is coherent
      rw [← hk]
      exact .start _ _
  | step i l =>
    obtain ⟨k, k', hk, hstep, hc⟩ := System.exec_step hexec
    have hstep' : k.step env scenes st.shared l = some (st'.shared, k') := hstep
    refine ⟨(BackendCall.step_sameConfig hstep').receivers.mpr h.receivers, fun k₁ hk₁ => ?_⟩
    rw [hc] at hk₁
    rcases List.mem_or_eq_of_mem_set hk₁ with hk₁ | rfl
    · exact h.coherent k₁ hk₁
    · -- the handler that steps stays so by its own lemma
      exact ((h.coherent k (List.mem_of_getElem? hk)).step h.receivers hstep').1

/-- A handler that can step has not returned. -/
theorem BackendCall.agrees_of_step {k k' : BackendCall} {l : HandlerLabel}
    (h : k.step env scenes app l = some (app', k')) : k.Agrees := by
  apply Agrees.of_not_done
  obtain ⟨p, hp, -⟩ := Option.map_eq_some_iff.mp h
  -- A handler that has returned takes no step
  cases hh : k.handler with
  | line line =>
    rw [hh] at hp
    cases line with
    | returned result => cases l with
      | line l => cases l <;> exact nomatch hp
      | http l => exact nomatch hp
    | _ => rfl
  | http call =>
    rw [hh] at hp
    cases call with
    | returned result => cases l with
      | line l => exact nomatch hp
      | http l => cases l <;> exact nomatch hp
    | _ => rfl

/-- An action keeps all handlers in agreement exactly when its step succeeds. -/
theorem BackendsReady.agrees_iff (h : BackendsReady st)
    (hexec : (backendCalls env scenes).exec st a = some st') :
    (∀ k ∈ st'.comps, k.Agrees) ↔ (∀ k ∈ st.comps, k.Agrees) ∧ StepSucceeds st a := by
  cases a with
  | env task =>
    obtain ⟨-, hc⟩ := System.exec_env hexec
    rw [hc]
    exact ⟨fun hall => ⟨hall, trivial⟩, And.left⟩
  | spawn message =>
    obtain ⟨k, hspawn, hc⟩ := System.exec_spawn hexec
    obtain ⟨-, hk⟩ := Prod.mk.inj (Option.some.inj hspawn)
    rw [hc]
    refine ⟨fun hall => ⟨fun k' hk' => hall k' (List.mem_append_left _ hk'), trivial⟩,
      fun hall k' hk' => ?_⟩
    rcases List.mem_append.mp hk' with hk' | hk'
    · exact hall.1 k' hk'
    · -- a message that has just arrived is being handled
      rw [List.mem_singleton.mp hk', ← hk]
      apply BackendCall.Agrees.of_not_done
      rcases message with ⟨backend, operation⟩
      cases backend <;> cases operation <;> rfl
  | step i l =>
    obtain ⟨k, k', hk, hstep, hc⟩ := System.exec_step hexec
    have hstep' : k.step env scenes st.shared l = some (st'.shared, k') := hstep
    have hiff := ((h.coherent k (List.mem_of_getElem? hk)).step h.receivers hstep').2
    have hsucceeds : StepSucceeds st (.step i l) ↔ k.Succeeds st.shared l :=
      ⟨fun hs => hs k hk, fun hs k₁ hk₁ => Option.some.inj (hk.symm.trans hk₁) ▸ hs⟩
    have hi : i < st.comps.length := (List.getElem?_eq_some_iff.mp hk).1
    rw [hsucceeds, ← hiff, hc]
    constructor
    · intro hall
      refine ⟨fun k₁ hk₁ => ?_, hall k' (List.mem_set hi k')⟩
      -- The handler that stepped was at work before
      rcases List.mem_set_or_eq hk hk₁ with hk₁ | rfl
      · exact hall k₁ hk₁
      · exact BackendCall.agrees_of_step hstep'
    · rintro ⟨hall, hk'⟩ k₁ hk₁
      rcases List.mem_or_eq_of_mem_set hk₁ with hk₁ | rfl
      · exact hall k₁ hk₁
      · exact hk'

/-- In every run of messages over the three backends, all handlers that have returned have
acknowledged exactly the operations that returned `Ok` if and only if every step of an update
request that came over TCP or WebSocket succeeded. -/
theorem acknowledge_iff (env : SocketEnv) (scenes : ScenesConfig) (devices : Devices)
    (controllers : Controllers) (as : List (System.Act Task (Backend × Operation) HandlerLabel))
    (st : System.State AppState BackendCall)
    (h : (backendCalls env scenes).run ⟨.new devices controllers, []⟩ as = some st) :
    (∀ k ∈ st.comps, k.Agrees) ↔
      Lts.Along (backendCalls env scenes).exec StepSucceeds ⟨.new devices controllers, []⟩ as := by
  have hready : BackendsReady ⟨.new devices controllers, []⟩ :=
    ⟨Nat.zero_lt_one, fun _ hmem => absurd hmem List.not_mem_nil⟩
  have hiff := Lts.run_iff_along _ (fun _ _ _ hs he => BackendsReady.exec hs he)
    (fun _ _ _ hs he => BackendsReady.agrees_iff hs he) h hready
  rw [hiff]
  exact ⟨And.right, fun halong => ⟨fun _ hmem => absurd hmem List.not_mem_nil, halong⟩⟩

end Runs

end Devicectrl

/-! ## A request for a fan nobody configured -/

namespace Devicectrl.ClientSession.Demo

/-- A request over TCP: it is acknowledged, and then processed. -/
def tcpRequest (deviceId : DeviceId) :
    List (System.Act Task (Backend × Operation) HandlerLabel) :=
  [.spawn (.tcp, .updateRequest (turnOn deviceId)), .step 0 (.line (.sent (.ok ()))),
    .step 0 (.line (.request .poll))]

/-- A request for the lamp, up to the answer of its controller. -/
def lampRequest : List (System.Act Task (Backend × Operation) HandlerLabel) :=
  tcpRequest lamp ++ [.step 0 (.line (.request (.dispatched (.ok ()))))]

end Devicectrl.ClientSession.Demo

namespace Devicectrl

open ClientSession.Demo

/-- A request for the lamp that goes well, on the TCP backend. -/
theorem acknowledge_iff_demo :
    ∃ st, (backendCalls env ∅).run ⟨.new devices controllers, []⟩ lampRequest = some st ∧
      ((∀ k ∈ st.comps, k.Agrees) ↔
        Lts.Along (backendCalls env ∅).exec StepSucceeds ⟨.new devices controllers, []⟩
          lampRequest) :=
  ⟨_, rfl, acknowledge_iff env ∅ devices controllers lampRequest _ rfl⟩

/-- A client that asks for an unknown device over TCP is told that its request was received. -/
theorem not_acknowledge :
    ¬∀ (env : SocketEnv) (scenes : ScenesConfig) (devices : Devices) (controllers : Controllers)
      (as : List (System.Act Task (Backend × Operation) HandlerLabel))
      (st : System.State AppState BackendCall),
      (backendCalls env scenes).run ⟨.new devices controllers, []⟩ as = some st →
      ∀ k ∈ st.comps, k.Agrees := by
  intro h
  have hagrees := h env ∅ devices controllers (tcpRequest fan) _ rfl _ List.mem_cons_self
  exact nomatch (hagrees rfl).1 rfl

end Devicectrl
