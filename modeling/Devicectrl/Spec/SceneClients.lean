import Devicectrl.Spec.ClientNotifications

/-!
# A client that activates a scene

The session that activates a scene is a receiver of the hooks this sends, and reads none of them
before the scene is activated. They fit its buffer up to a scene of 15 updates.

## Key results

- `keepsClient_iff`: after a scene was activated, reading its hooks keeps the session going
  exactly when the scene has at most 15 updates
- `not_keepsClient`: a scene of 16 updates ends the session of its client
-/

namespace Devicectrl

variable {env : SocketEnv} {scenes : ScenesConfig} {devices : Devices} {controllers : Controllers}
  {i n : Nat} {st st' : System.State AppState ClientSession}
  {a : System.Act Task Transport SessionLabel} {as : List (System.Act Task Transport SessionLabel)}

/-- A step of session `i` itself that satisfies `own`, or one of others that sends no hook. -/
def Undisturbed (env : SocketEnv) (scenes : ScenesConfig) (i : Nat) (own : SessionLabel → Prop)
    (st : System.State AppState ClientSession) (a : System.Act Task Transport SessionLabel) :
    Prop :=
  (∃ l, a = .step i l ∧ own l) ∨
    (∀ l, a ≠ .step i l) ∧ ∀ st', (clientSessions env scenes).exec st a = some st' →
      st'.shared.hooks.sender.sent = st.shared.hooks.sender.sent

/-- The part of a session that handles a line. -/
def SessionLabel.IsLine (l : SessionLabel) : Prop :=
  ∃ l', l = .line l'

/-- Session `i` had read all hooks when its client activated a scene, and nobody else has sent
any since. The scene is activated, this is acknowledged and the session is at its select. -/
def Activated (env : SocketEnv) (scenes : ScenesConfig) (devices : Devices)
    (controllers : Controllers) (i : Nat) (scene : List UpdateRequest)
    (st : System.State AppState ClientSession) : Prop :=
  ∃ bs cs m m₁ k k₁ rx rx₁ item text sceneId,
    (clientSessions env scenes).run (sessionsInitial devices controllers) bs = some m ∧
      m.comps[i]? = some k ∧ k.stage = .selecting rx ∧ m.shared.hooks.sender.unread rx = [] ∧
      k.transport.turn item = .line text ∧ env.fromStr text = .ok (.activateScene sceneId) ∧
      scenes.lookup sceneId = some scene ∧
      (clientSessions env scenes).exec m (.step i (.tryNext k.transport (.ok item))) = some m₁ ∧
      Lts.Along (clientSessions env scenes).exec
        (Undisturbed env scenes i SessionLabel.IsLine) m₁ cs ∧
      (clientSessions env scenes).run m₁ cs = some st ∧
      st.comps[i]? = some k₁ ∧ k₁.stage = .selecting rx₁ ∧
      k₁.written = k.written ++ [.message .requestReceived]

/-- However much of its subscription session `i` reads, it goes on. -/
def KeepsClient (env : SocketEnv) (scenes : ScenesConfig) (i : Nat)
    (st : System.State AppState ClientSession) : Prop :=
  ∀ ds st', Lts.Along (clientSessions env scenes).exec (Undisturbed env scenes i (· = .recv)) st ds →
    (clientSessions env scenes).run st ds = some st' →
    ∃ k rx, st'.comps[i]? = some k ∧ k.stage = .selecting rx

/-! ## Handling the scene -/

/-- Session `i` while it activates a scene of `n` updates: the hooks it has yet to read and those
that the scene has yet to send are one for the scene and one for each update. -/
structure Activating (scenes : ScenesConfig) (i n : Nat) (rx : Broadcast.Receiver)
    (st : System.State AppState ClientSession) : Prop where
  next : rx.next ≤ st.shared.hooks.sender.sent.length
  unread : ∀ hook ∈ st.shared.hooks.sender.unread rx, hook.stateUpdate? = none
  session : ∃ k, st.comps[i]? = some k ∧
    ((∃ line, k.stage = .handling line rx ∧
        (st.shared.hooks.sender.unread rx).length + line.hooksLeft scenes = 1 + n) ∨
      (∃ message, k.stage = .sending message rx) ∨
      k.stage = .selecting rx ∧ (st.shared.hooks.sender.unread rx).length = 1 + n)

/-- What others do keeps it, as long as they send no hook. -/
theorem Activating.other {rx : Broadcast.Receiver} (h : Activating scenes i n rx st)
    (hi : ∀ l, a ≠ .step i l) (hexec : (clientSessions env scenes).exec st a = some st')
    (hsent : st'.shared.hooks.sender.sent = st.shared.hooks.sender.sent) :
    Activating scenes i n rx st' := by
  have hunread : st'.shared.hooks.sender.unread rx = st.shared.hooks.sender.unread rx :=
    Broadcast.Channel.unread_of_sent_eq hsent rx
  obtain ⟨k, hk, hstage⟩ := h.session
  refine ⟨by rw [hsent]; exact h.next, by rw [hunread]; exact h.unread, k, ?_,
    by rw [hunread]; exact hstage⟩
  rcases System.exec_comp hexec hk with ⟨-, hk'⟩ | ⟨l, k', ha, -⟩
  · exact hk'
  · exact absurd ha (hi l)

/-- A part of `handle_line` sends what it has no longer to send. -/
theorem Activating.line {rx : Broadcast.Receiver} {l : LineLabel}
    (h : Activating scenes i n rx st)
    (hexec : (clientSessions env scenes).exec st (.step i (.line l)) = some st') :
    Activating scenes i n rx st' := by
  obtain ⟨app', comps'⟩ := st'
  obtain ⟨k, k', hk, hstep, hk'⟩ := clientSessions_step hexec
  obtain ⟨k₀, hk₀, hstage⟩ := h.session
  obtain rfl := Option.some.inj (hk.symm.trans hk₀)
  cases hstep with
  | @handle line rx' l app' line' hhandling hl =>
    -- Of the three stages only the first has a line at work
    rcases hstage with ⟨line₀, hs, hcount⟩ | ⟨message, hs⟩ | ⟨hs, -⟩
    · cases hhandling.symm.trans hs
      obtain ⟨hooks, hsends, hkind, -, heq⟩ := Line.step_sends hl
      have hunread := hsends.unread h.next
      refine ⟨Nat.le_trans h.next hsends.grows.sent.length_le, fun hook hmem => ?_, _, hk', ?_⟩
      · rw [hunread, List.mem_append] at hmem
        rcases hmem with hmem | hmem
        · exact h.unread hook hmem
        · exact hkind hook hmem
      · rw [hunread, List.length_append]
        rcases heq with heq | ⟨e, rfl⟩
        · cases line' with
          | returned result =>
            have hnone : Line.hooksLeft scenes (.returned result) = 0 := rfl
            rcases result with e | ⟨⟩
            · exact .inr (.inl ⟨_, rfl⟩)
            · exact .inr (.inr ⟨rfl, by omega⟩)
          | _ => exact .inl ⟨_, rfl, by omega⟩
        · exact .inr (.inl ⟨_, rfl⟩)
    · exact nomatch hhandling.symm.trans hs
    · exact nomatch hhandling.symm.trans hs

/-- While the session is left alone its line goes on, and nothing else is put before it. -/
theorem Activating.exec {rx : Broadcast.Receiver} (h : Activating scenes i n rx st)
    (ha : Undisturbed env scenes i SessionLabel.IsLine st a)
    (hexec : (clientSessions env scenes).exec st a = some st') : Activating scenes i n rx st' := by
  rcases ha with ⟨l, rfl, l', rfl⟩ | ⟨hi, hsent⟩
  · exact h.line hexec
  · exact h.other hi hexec (hsent st' hexec)

/-- Once the scene is activated, its hooks are what the session has to read. -/
theorem Activated.unread {scene : List UpdateRequest}
    (h : Activated env scenes devices controllers i scene st) :
    ∃ k rx, st.comps[i]? = some k ∧ k.stage = .selecting rx ∧
      (st.shared.hooks.sender.unread rx).length = 1 + scene.length ∧
      (∀ hook ∈ st.shared.hooks.sender.unread rx, hook.stateUpdate? = none) ∧
      st.shared.hooks.sender.capacity = 16 ∧ st.shared.hooks.sender.senders = 1 := by
  obtain ⟨bs, cs, m, m₁, k, k₁, rx, rx₁, item, text, sceneId, hm, hk, hstage, hunread, hturn,
    hdecode, hscene, hstart, hcs, hrun, hk₁, hstage₁, -⟩ := h
  have hm₁ : (clientSessions env scenes).run (sessionsInitial devices controllers)
      (bs ++ .step i (.tryNext k.transport (.ok item)) :: cs) = some st := by
    rw [System.run, Lts.run_append_of _ hm, Lts.run_cons_of _ hstart]
    exact hrun
  obtain ⟨hcapacity, hsenders⟩ := (notifiedSessions_run hm₁).1
  have hlistening := ((notifiedSessions_run hm).2 k (List.mem_of_getElem? hk)).listening rx
    (by rw [hstage]; rfl)
  -- The line begins with the call that activates the scene
  have hbegin : Activating scenes i scene.length rx m₁ := by
    have hline : Line.start env text = .activating (.begin sceneId) := by
      simp only [Line.start, hdecode, Line.handle]
    have hleft : (Line.activating (.begin sceneId)).hooksLeft scenes = 1 + scene.length := by
      simp only [Line.hooksLeft, SceneCall.hooksLeft, hscene]
    have htext : k.step env scenes m.shared (.tryNext k.transport (.ok item)) =
        some (m.shared, { k with stage := .handling (.activating (.begin sceneId)) rx }) := by
      rw [ClientSession.step_text hstage hturn, hline]
      rfl
    obtain rfl := Option.some.inj (hstart.symm.trans (System.exec_step_of hk htext))
    refine ⟨hlistening.2.1, ?_, _,
      List.getElem?_set_self (List.getElem?_eq_some_iff.mp hk).1, .inl ⟨_, rfl, ?_⟩⟩
    · rw [hunread]
      exact fun _ hmem => absurd hmem List.not_mem_nil
    · rw [hunread, hleft, List.length_nil, Nat.zero_add]
  have hactivating := Lts.run_invariant_along _ (fun _ _ _ h => h.exec) hcs hrun hbegin
  obtain ⟨k', hk', hstage'⟩ := hactivating.session
  obtain rfl := Option.some.inj (hk₁.symm.trans hk')
  -- At its select the session has neither a line at work nor a failure to send
  rcases hstage' with ⟨line, hs, -⟩ | ⟨message, hs⟩ | ⟨hs, hcount⟩
  · cases hstage₁.symm.trans hs
  · cases hstage₁.symm.trans hs
  · exact ⟨k₁, rx, hk₁, hs, hcount, hactivating.unread, hcapacity, hsenders⟩

/-! ## Reading its hooks -/

/-- Session `i` while it reads hooks that its client is not told of, and that fit the buffer. -/
structure Draining (i : Nat) (st : System.State AppState ClientSession) : Prop where
  capacity : st.shared.hooks.sender.capacity = 16
  senders : st.shared.hooks.sender.senders = 1
  session : ∃ k rx, st.comps[i]? = some k ∧ k.stage = .selecting rx ∧
    (st.shared.hooks.sender.unread rx).length ≤ 16 ∧
    ∀ hook ∈ st.shared.hooks.sender.unread rx, hook.stateUpdate? = none

/-- Every action keeps the capacity and the sender of the hook channel. -/
theorem clientSessions_grows (hexec : (clientSessions env scenes).exec st a = some st') :
    st.shared.hooks.sender.Grows st'.shared.hooks.sender := by
  cases a with
  | env task =>
    obtain ⟨sent, hsent, hcapacity, hsenders, -⟩ := Task.run_hooks (System.exec_env hexec).1
    exact ⟨hcapacity, hsenders, by rw [hsent]; exact List.prefix_append _ _⟩
  | spawn transport =>
    obtain ⟨s, hspawn, -⟩ := System.exec_spawn hexec
    obtain ⟨happ, -⟩ := Prod.mk.inj (Option.some.inj hspawn)
    have happ' : st.shared = st'.shared := happ
    rw [happ']
    exact .refl _
  -- Only a step of a session sends, and that grows
  | step j l =>
    obtain ⟨k, k', -, hstep, -⟩ := clientSessions_step hexec
    exact hstep.frame.2.2

/-- While the session is left alone it only reads what is in its channel. -/
theorem Draining.exec (h : Draining i st) (ha : Undisturbed env scenes i (· = .recv) st a)
    (hexec : (clientSessions env scenes).exec st a = some st') : Draining i st' := by
  have hgrows := clientSessions_grows hexec
  obtain ⟨k, rx, hk, hstage, hroom, hkind⟩ := h.session
  refine ⟨hgrows.capacity.trans h.capacity, hgrows.senders.trans h.senders, ?_⟩
  rcases ha with ⟨l, rfl, rfl⟩ | ⟨hi, hsent⟩
  · obtain ⟨app', comps'⟩ := st'
    obtain ⟨k', k₁, hk', hstep, hk₁⟩ := clientSessions_step hexec
    obtain rfl := Option.some.inj (hk.symm.trans hk')
    cases hstep with
    | @lag rx' rx'' e hs hr =>
      cases hs.symm.trans hstage
      -- Neither is the channel closed nor are there more hooks than it holds
      cases e with
      | closed => exact absurd hr (Broadcast.Channel.recv_ne_closed (by rw [h.senders]; decide))
      | lagged skipped =>
        have hlag := Broadcast.Channel.recv_lagged hr
        rw [h.capacity] at hlag
        omega
    | @notify rx' rx'' update hs hr =>
      cases hs.symm.trans hstage
      have hread := (Broadcast.Channel.recv_ok hr).2.2.1
      have hnone := hkind (.deviceStateUpdate update) (by rw [hread]; exact List.mem_cons_self)
      exact nomatch hnone
    | @skip rx' rx'' hook hs hr hnone =>
      cases hs.symm.trans hstage
      have hread := (Broadcast.Channel.recv_ok hr).2.2.1
      rw [hread] at hroom hkind
      refine ⟨_, rx'', hk₁, rfl, ?_, fun hook' hmem => hkind hook' (List.mem_cons_of_mem _ hmem)⟩
      exact Nat.le_of_succ_le hroom
  · have hunread : st'.shared.hooks.sender.unread rx = st.shared.hooks.sender.unread rx :=
      Broadcast.Channel.unread_of_sent_eq (hsent st' hexec) rx
    refine ⟨k, rx, ?_, hstage, by rw [hunread]; exact hroom, by rw [hunread]; exact hkind⟩
    rcases System.exec_comp hexec hk with ⟨-, hk'⟩ | ⟨l, k', ha, -⟩
    · exact hk'
    · exact absurd ha (hi l)

/-- A scene of more updates than the buffer has room for ends the session at its next read. -/
theorem Activated.lags {scene : List UpdateRequest}
    (h : Activated env scenes devices controllers i scene st) (hlong : 15 < scene.length) :
    ¬KeepsClient env scenes i st := by
  obtain ⟨k, rx, hk, hstage, hcount, -, hcapacity, -⟩ := h.unread
  intro hkeep
  -- The hooks of the scene are more than the channel keeps
  have hlag : rx.next < st.shared.hooks.sender.oldest := by
    rw [Broadcast.Channel.lt_oldest_iff]
    omega
  have hrecv : k.step env scenes st.shared .recv =
      some (k.leave st.shared (.error [Broadcast.RecvError.message
        (.lagged (st.shared.hooks.sender.oldest - rx.next))])) := by
    simp only [ClientSession.step, hstage, Broadcast.Channel.recv, if_pos hlag, Option.map_some,
      ClientSession.hear]
  have hexec : (clientSessions env scenes).exec st (.step i .recv) = some _ :=
    System.exec_step_of hk hrecv
  obtain ⟨k', rx', hk', hstage'⟩ := hkeep [.step i .recv] _
    ((Lts.along_cons _ hexec).mpr ⟨.inl ⟨.recv, rfl, rfl⟩, trivial⟩)
    (Lts.run_cons_of _ hexec)
  rw [List.getElem?_set_self (List.getElem?_eq_some_iff.mp hk).1] at hk'
  cases hk'
  cases hstage'

/-- After a scene was activated, its client keeps its session exactly when the scene has at most
15 updates: with the hook of the scene itself these fit the buffer of 16. -/
theorem keepsClient_iff (env : SocketEnv) (scenes : ScenesConfig) (devices : Devices)
    (controllers : Controllers) (i : Nat) (scene : List UpdateRequest)
    (st : System.State AppState ClientSession)
    (h : Activated env scenes devices controllers i scene st) :
    KeepsClient env scenes i st ↔ scene.length ≤ 15 := by
  constructor
  · intro hkeep
    by_contra hlong
    exact h.lags (by omega) hkeep
  · intro hshort ds st' hds hrun
    -- Sixteen messages fit into the channel, and the session drains it
    obtain ⟨k, rx, hk, hstage, hcount, hkind, hcapacity, hsenders⟩ := h.unread
    have hdraining : Draining i st :=
      ⟨hcapacity, hsenders, k, rx, hk, hstage, by omega, hkind⟩
    obtain ⟨k', rx', hk', hstage', -⟩ :=
      (Lts.run_invariant_along _ (fun _ _ _ h => h.exec) hds hrun hdraining).session
    exact ⟨k', rx', hk', hstage'⟩

end Devicectrl

/-! ## A scene that turns the lamp on over and over -/

namespace Devicectrl.ClientSession.Demo

/-- A client that has subscribed. -/
def subscribed : List (System.Act Task Transport SessionLabel) :=
  [.spawn .tcp, .step 0 (.accept (.ok ()))]

/-- A scene that turns the lamp on `n` times. -/
def lampScene (n : Nat) : ScenesConfig :=
  AList.insert evening (List.replicate n (turnOn lamp)) ∅

/-- The scene is activated: all of its updates begin, then all are dispatched. -/
def activation (n : Nat) : List (System.Act Task Transport SessionLabel) :=
  .step 0 (.line (.scene .poll)) ::
    ((List.range n).map (fun j => .step 0 (.line (.scene (.member j .poll)))) ++
      ((List.range n).map (fun j =>
        .step 0 (.line (.scene (.member j (.dispatched (.ok ())))))) ++
        [.step 0 (.line (.sent (.ok ())))]))

/-- The activation is made of steps of the line alone. -/
theorem activation_isLine (n : Nat) (st : System.State AppState ClientSession) :
    Lts.Along (clientSessions env (lampScene n)).exec
      (Undisturbed env (lampScene n) 0 SessionLabel.IsLine) st (activation n) := by
  apply Lts.along_of_forall
  intro s a ha
  simp only [activation, List.mem_cons, List.mem_append, List.mem_map, List.not_mem_nil,
    or_false] at ha
  rcases ha with rfl | ⟨j, -, rfl⟩ | ⟨j, -, rfl⟩ | rfl
  · exact .inl ⟨_, rfl, _, rfl⟩
  · exact .inl ⟨_, rfl, _, rfl⟩
  · exact .inl ⟨_, rfl, _, rfl⟩
  · exact .inl ⟨_, rfl, _, rfl⟩

end Devicectrl.ClientSession.Demo

namespace Devicectrl

open ClientSession.Demo

/-- A scene of fifteen updates leaves the client connected. -/
theorem keepsClient_iff_demo :
    ∃ st, Activated env (lampScene 15) devices controllers 0
        (List.replicate 15 (turnOn lamp)) st ∧
      (KeepsClient env (lampScene 15) 0 st ↔ (List.replicate 15 (turnOn lamp)).length ≤ 15) := by
  have h : ∃ st, Activated env (lampScene 15) devices controllers 0
      (List.replicate 15 (turnOn lamp)) st :=
    ⟨_, subscribed, activation 15, _, _, _, _, _, _, some "evening", "evening", evening, rfl, rfl,
      rfl, rfl, rfl, rfl, rfl, rfl, activation_isLine 15 _, rfl, rfl, rfl, rfl⟩
  obtain ⟨st, hst⟩ := h
  exact ⟨st, hst, keepsClient_iff env (lampScene 15) devices controllers 0 _ st hst⟩

/-- A scene of 16 updates for an existing device ends the session of its client. -/
theorem not_keepsClient :
    ¬∀ (env : SocketEnv) (scenes : ScenesConfig) (devices : Devices) (controllers : Controllers)
      (i : Nat) (scene : List UpdateRequest) (st : System.State AppState ClientSession),
      (∀ update ∈ scene, ∃ device config, devices.lookup update.deviceId = some device ∧
        device.controller = .simple config) →
      Activated env scenes devices controllers i scene st → KeepsClient env scenes i st := by
  intro hkeeps
  -- One hook more than the channel keeps
  have h : ∃ st, Activated env (lampScene 16) devices controllers 0
      (List.replicate 16 (turnOn lamp)) st :=
    ⟨_, subscribed, activation 16, _, _, _, _, _, _, some "evening", "evening", evening, rfl, rfl,
      rfl, rfl, rfl, rfl, rfl, rfl, activation_isLine 16 _, rfl, rfl, rfl, rfl⟩
  obtain ⟨st, hst⟩ := h
  refine hst.lags (by decide) (hkeeps env (lampScene 16) devices controllers 0 _ st ?_ hst)
  intro update hmem
  rw [List.eq_of_mem_replicate hmem]
  exact ⟨_, _, rfl, rfl⟩

end Devicectrl
