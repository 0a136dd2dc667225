import Devicectrl.Spec.ClientSessions

/-!
# The notification stream of a client

What a session writes to its client of state updates, against the hooks that were sent since it
subscribed. `Notified` ties the two at every step of every session: as long as a session has its
receiver, the updates it was given are those it has written or is about to.

## Key results

- `notifications_run`: in every run, the notifications written to a client are a prefix of the
  state updates sent since it subscribed, and only a session that has ended can miss one
-/

namespace Devicectrl

variable {env : SocketEnv} {scenes : ScenesConfig} {app app' : AppState}
  {ch ch' : Broadcast.Channel Hook}

/-- The state updates among some hooks, in order. -/
def stateUpdates (hooks : List Hook) : List UpdateNotification :=
  hooks.filterMap Hook.stateUpdate?

@[simp] theorem stateUpdates_nil : stateUpdates [] = [] := rfl

/-- The updates of a list of hooks keep their order. -/
@[simp] theorem stateUpdates_append (hooks hooks' : List Hook) :
    stateUpdates (hooks ++ hooks') = stateUpdates hooks ++ stateUpdates hooks' :=
  List.filterMap_append

/-- More hooks are more updates. -/
theorem stateUpdates_mono {hooks hooks' : List Hook} (h : hooks <+: hooks') :
    stateUpdates hooks <+: stateUpdates hooks' :=
  h.filterMap _

/-- What is written may be a notification. -/
def Outgoing.notification? : Outgoing → Option UpdateNotification
  | .message (.updateNotification notification) => some notification
  | _ => none

/-! ## Lines -/

/-- The message that a line is sending is not a notification. -/
def Line.Replies : Line → Prop
  | .sending message _ => (Outgoing.message message).notification? = none
  | _ => True

namespace Line

variable {line line' : Line} {l : LineLabel}

/-- A line that has just been read only replies. -/
theorem replies_start (env : SocketEnv) (text : String) : (start env text).Replies := by
  unfold start
  split
  · trivial
  · rename_i message hm
    cases message <;> trivial

/-- So does one whose request goes on. -/
theorem replies_afterRequest (call : RequestCall) : (afterRequest call).Replies := by
  cases call <;> trivial

/-- So does one whose scene goes on. -/
theorem replies_afterScene (call : SceneCall) : (afterScene call).Replies := by
  cases call with
  | begin sceneId => trivial
  | joining calls => trivial
  | returned result => rcases result with e | ⟨⟩ <;> trivial

/-- Handling a line writes replies only. -/
theorem replies_step (h : line.step env scenes app l = some (app', line')) : line'.Replies := by
  unfold step at h
  split at h
  · -- a send ends, and at most a request follows it
    split at h <;> cases h <;> trivial
  · obtain ⟨p, -, he⟩ := Option.map_eq_some_iff.mp h
    cases he
    exact replies_afterRequest p.2
  · obtain ⟨p, -, he⟩ := Option.map_eq_some_iff.mp h
    cases he
    exact replies_afterScene p.2
  · split at h <;> cases h <;> trivial
  · cases h
    trivial
  · -- the catalog is asked for by a line, so it is a reply
    cases h
    rfl
  · exact nomatch h

/-- What a line writes is not a notification. -/
theorem writes_replies (h : line.Replies) (l : LineLabel) :
    (((line.writes l).map Outgoing.message).toList).filterMap Outgoing.notification? = [] := by
  -- What a line writes is what it was sending
  cases hw : line.writes l with
  | none => rfl
  | some message =>
    have hline : ∃ next, line = .sending message next := by
      unfold writes at hw
      split at hw
      · cases hw
        exact ⟨_, rfl⟩
      · exact nomatch hw
    obtain ⟨next, rfl⟩ := hline
    have hnone : (Outgoing.message message).notification? = none := h
    simp [hnone]

end Line

/-! ## Sessions -/

namespace ClientSession

variable {s s' : ClientSession} {l : SessionLabel}

/-- The notifications that were written. -/
def notified (s : ClientSession) : List UpdateNotification :=
  s.written.filterMap Outgoing.notification?

end ClientSession

/-- The notification that is being written. -/
def SessionStage.pending : SessionStage → List UpdateNotification
  | .sending message _ => message.notification?.toList
  | _ => []

/-- A line at work has a message to send that is no notification. -/
def SessionStage.Replies : SessionStage → Prop
  | .handling line _ => line.Replies
  | _ => True

/-- What a session has written of the hooks it was given. -/
structure Notified (ch : Broadcast.Channel Hook) (s : ClientSession) : Prop where
  written : s.notified <+: stateUpdates (ch.sent.drop s.since)
  accepting : s.stage = .accepting → s.written = []
  replies : s.stage.Replies
  listening : ∀ rx, s.stage.receiver? = some rx → s.since ≤ rx.next ∧ rx.next ≤ ch.sent.length ∧
    s.notified ++ s.stage.pending = stateUpdates (ch.between s.since rx.next)

namespace Notified

variable {s s' : ClientSession} {l : SessionLabel} {rx rx' : Broadcast.Receiver}

/-- A session has no receiver yet, so nothing is to come. -/
theorem start (ch : Broadcast.Channel Hook) (transport : Transport) :
    Notified ch (.start transport) := by
  refine ⟨List.nil_prefix, fun _ => rfl, trivial, fun rx hrx => ?_⟩
  have hnone : none = some rx := hrx
  exact nomatch hnone

/-- More hooks change nothing of what was written. -/
theorem grows (h : ch.Grows ch') (hs : Notified ch s) : Notified ch' s := by
  refine ⟨hs.written.trans (stateUpdates_mono (h.drop_prefix _)), hs.accepting, hs.replies,
    fun rx hrx => ?_⟩
  obtain ⟨hsince, hnext, heq⟩ := hs.listening rx hrx
  refine ⟨hsince, Nat.le_trans hnext h.sent.length_le, ?_⟩
  rw [Broadcast.Channel.between_grows h hsince hnext]
  exact heq

/-- A session that has its receiver has written what it was given, up to what it is writing. -/
theorem of_listening {transport : Transport} {stage : SessionStage} {since : Nat}
    {written : List Outgoing} (hsince : since ≤ rx.next) (hnext : rx.next ≤ ch.sent.length)
    (hrx : stage.receiver? = some rx) (hreplies : stage.Replies)
    (h : written.filterMap Outgoing.notification? ++ stage.pending =
      stateUpdates (ch.between since rx.next)) :
    Notified ch ⟨transport, stage, since, written⟩ := by
  -- What is to come began at `since`, and the rest of the channel is still to come
  have hprefix := stateUpdates_mono (ch.between_prefix since rx.next)
  rw [← h] at hprefix
  refine ⟨(List.prefix_append _ _).trans hprefix, fun hs => ?_, hreplies, fun rx' hrx' => ?_⟩
  · have hs' : stage = .accepting := hs
    rw [hs'] at hrx
    exact nomatch hrx
  · cases hrx.symm.trans hrx'
    exact ⟨hsince, hnext, h⟩

/-- A session that returns keeps what it has written. -/
theorem leave (hs : Notified ch s) (result : Except Error Unit) :
    Notified ch (s.leave app result).2 := by
  refine ⟨hs.written, fun h => ?_, trivial, fun rx hrx => ?_⟩
  · have hret : SessionStage.returned result = .accepting := h
    exact nomatch hret
  · have hnone : none = some rx := hrx
    exact nomatch hnone

/-- A session that goes on without writing or hearing anything. -/
theorem goOn (hs : Notified ch s) (hrx : s.stage.receiver? = some rx) {stage : SessionStage}
    (hrx' : stage.receiver? = some rx) (hreplies : stage.Replies) (hp : s.stage.pending = [])
    (hp' : stage.pending = []) : Notified ch { s with stage } := by
  obtain ⟨hsince, hnext, heq⟩ := hs.listening rx hrx
  refine of_listening hsince hnext hrx' hreplies ?_
  rw [hp', ← hp]
  exact heq

/-- After a line the session has no notification in hand. -/
theorem pending_afterLine (transport : Transport) (rx : Broadcast.Receiver) (line : Line) :
    (ClientSession.afterLine transport rx line).pending = [] := by
  cases line with
  | returned result => rcases result with e | ⟨⟩ <;> rfl
  | _ => rfl

/-- A session that goes on with a line only replies. -/
theorem replies_afterLine (transport : Transport) (rx : Broadcast.Receiver) {line : Line}
    (h : line.Replies) : (ClientSession.afterLine transport rx line).Replies := by
  cases line with
  | returned result => rcases result with e | ⟨⟩ <;> trivial
  | sending message next => exact h
  | _ => trivial

/-- Every step of a session keeps what it has written in line with what it was given. -/
theorem step (h : ClientSession.Step env scenes app s l app' s')
    (hs : Notified app.hooks.sender s) : Notified app.hooks.sender s' := by
  cases h with
  | refuse h =>
    refine ⟨hs.written, fun hacc => ?_, trivial, fun rx hrx => ?_⟩
    · cases hacc
    · cases hrx
  | subscribe h =>
    have hwritten : s.notified = [] := by rw [ClientSession.notified, hs.accepting h]; rfl
    refine of_listening (Nat.le_refl _) (Nat.le_refl _) rfl trivial ?_
    show s.notified ++ [] = stateUpdates (app.hooks.sender.between _ _)
    rw [hwritten, Broadcast.Channel.between_self]
    rfl
  | finish h => exact hs.leave _
  | lag h hr => exact hs.leave _
  | fail h => exact hs.leave _
  | pong h => exact hs.goOn (by rw [h]; rfl) rfl trivial (by rw [h]; rfl) rfl
  | ignore h => exact hs.goOn (by rw [h]; rfl) rfl trivial (by rw [h]; rfl) rfl
  | @line rx transport item text h hitem =>
    exact hs.goOn (by rw [h]; rfl) (ClientSession.afterLine_receiver? _ _ _)
      (replies_afterLine _ _ (Line.replies_start env text)) (by rw [h]; rfl)
      (pending_afterLine _ _ _)
  | @notify rx rx' n h hr =>
    -- The hook moves from the channel to what is being written
    obtain ⟨hsince, -, heq⟩ := hs.listening rx (by rw [h]; rfl)
    have hle : s.since ≤ rx'.next := Nat.le_trans hsince (Broadcast.Channel.recv_le_next hr)
    refine of_listening hle (Broadcast.Channel.recv_ok_next_le hr) rfl trivial ?_
    rw [Broadcast.Channel.between_recv hsince hr, stateUpdates_append, ← heq, h]
    show s.notified ++ [n] = s.notified ++ [] ++ [n]
    rw [List.append_nil]
  | @skip rx rx' hook h hr hk =>
    obtain ⟨hsince, -, heq⟩ := hs.listening rx (by rw [h]; rfl)
    have hle : s.since ≤ rx'.next := Nat.le_trans hsince (Broadcast.Channel.recv_le_next hr)
    have hnone : stateUpdates [hook] = [] := by simp [stateUpdates, hk]
    refine of_listening hle (Broadcast.Channel.recv_ok_next_le hr) rfl trivial ?_
    rw [Broadcast.Channel.between_recv hsince hr, stateUpdates_append, hnone, List.append_nil,
      ← heq, h]
    rfl
  | @handle line rx l app' line' h hl =>
    have hline : line.Replies := by
      have hreplies := hs.replies
      rw [h] at hreplies
      exact hreplies
    obtain ⟨hsince, hnext, heq⟩ := hs.listening rx (by rw [h]; rfl)
    refine of_listening hsince hnext (ClientSession.afterLine_receiver? _ _ _)
      (replies_afterLine _ _ (Line.replies_step hl)) ?_
    -- The line writes, but no notification
    show (s.written ++ _).filterMap Outgoing.notification? ++ _ = _
    rw [List.filterMap_append, Line.writes_replies hline, pending_afterLine, List.append_nil,
      List.append_nil, ← heq, h]
    exact (List.append_nil _).symm
  | @sent m rx h =>
    obtain ⟨hsince, hnext, heq⟩ := hs.listening rx (by rw [h]; rfl)
    refine of_listening hsince hnext rfl trivial ?_
    show (s.written ++ [m]).filterMap Outgoing.notification? ++ [] = _
    rw [List.filterMap_append, List.append_nil, ← heq, h]
    cases m with
    | pong => rfl
    | message message => cases message <;> rfl

end Notified

/-! ## Runs -/

/-- The sessions of a server with its hook channel. -/
def notifiedSessions (env : SocketEnv) (scenes : ScenesConfig) :
    System.RelyGuarantee (clientSessions env scenes) where
  -- The process never drops its sender
  shared app := app.hooks.sender.capacity = 16 ∧ app.hooks.sender.senders = 1
  comp app s := Notified app.hooks.sender s
  rely app app' := app.hooks.sender.Grows app'.hooks.sender
  env_ok := by
    intro app task app' hs h
    have htask : task.run app = some app' := h
    obtain ⟨sent, hsent, hcapacity, hsenders, -⟩ := Task.run_hooks htask
    exact ⟨⟨hcapacity.trans hs.1, hsenders.trans hs.2⟩, hcapacity, hsenders,
      by rw [hsent]; exact List.prefix_append _ _⟩
  spawn_ok := by
    intro app transport app' s hs h
    cases h
    exact ⟨hs, .refl _, .start _ transport⟩
  step_ok := by
    intro app s l app' s' hs hn h
    have hstep := ClientSession.step_cases h
    have hgrows := hstep.frame.2.2
    exact ⟨⟨hgrows.capacity.trans hs.1, hgrows.senders.trans hs.2⟩, hgrows,
      (Notified.step hstep hn).grows hgrows⟩
  stable h hs := hs.grows h

/-- It holds in every state of every run. -/
theorem notifiedSessions_run {devices : Devices} {controllers : Controllers}
    {as : List (System.Act Task Transport SessionLabel)} {st : System.State AppState ClientSession}
    (h : (clientSessions env scenes).run (sessionsInitial devices controllers) as = some st) :
    (notifiedSessions env scenes).Holds st :=
  (notifiedSessions env scenes).run h
    ⟨⟨rfl, rfl⟩, fun _ hmem => absurd hmem List.not_mem_nil⟩

/-- Once a session has subscribed, it keeps its place in the stream of hooks. -/
theorem ClientSession.since_step {s s' : ClientSession} {l : SessionLabel}
    (h : ClientSession.Step env scenes app s l app' s') (hs : s.stage ≠ .accepting) :
    s'.since = s.since ∧ s'.stage ≠ .accepting := by
  cases h with
  -- Only a session that waits for its handshake subscribes
  | refuse h => exact absurd h hs
  | subscribe h => exact absurd h hs
  | line h hitem => exact ⟨rfl, ClientSession.afterLine_ne_accepting _ _ _⟩
  | handle h hl => exact ⟨rfl, ClientSession.afterLine_ne_accepting _ _ _⟩
  | finish h => exact ⟨rfl, nofun⟩
  | pong h => exact ⟨rfl, nofun⟩
  | ignore h => exact ⟨rfl, nofun⟩
  | lag h hr => exact ⟨rfl, nofun⟩
  | notify h hr => exact ⟨rfl, nofun⟩
  | skip h hr hk => exact ⟨rfl, nofun⟩
  | fail h => exact ⟨rfl, nofun⟩
  | sent h => exact ⟨rfl, nofun⟩

/-- A session that has subscribed stays subscribed at its place, or has returned. -/
theorem since_run {m st : System.State AppState ClientSession} {i n : Nat}
    {cs : List (System.Act Task Transport SessionLabel)}
    (h : (clientSessions env scenes).run m cs = some st)
    (hm : ∃ s, m.comps[i]? = some s ∧ s.since = n ∧ s.stage ≠ .accepting) :
    ∃ s, st.comps[i]? = some s ∧ s.since = n ∧ s.stage ≠ .accepting := by
  have hkeep : ∀ st a st', (∃ s, st.comps[i]? = some s ∧ s.since = n ∧ s.stage ≠ .accepting) →
      (clientSessions env scenes).exec st a = some st' →
      ∃ s, st'.comps[i]? = some s ∧ s.since = n ∧ s.stage ≠ .accepting := by
    -- Whatever happens elsewhere, session `i` keeps where it began
    rintro st a st' ⟨s, hs, hsince, hstage⟩ hexec
    rcases System.exec_comp hexec hs with ⟨-, hs'⟩ | ⟨l, s', -, hstep, hs'⟩
    · exact ⟨s, hs', hsince, hstage⟩
    · obtain ⟨hsame, hstage'⟩ := ClientSession.since_step (ClientSession.step_cases hstep) hstage
      exact ⟨s', hs', hsame.trans hsince, hstage'⟩
  exact Lts.run_invariant _ hkeep h hm

/-- In every state of every run, the notifications that a session has written are a prefix of the
state updates sent since it subscribed, in the order in which they were. Those it has written,
is writing and has yet to receive are all of them, unless it has returned and writes no more. -/
theorem notifications_run (env : SocketEnv) (scenes : ScenesConfig) (devices : Devices)
    (controllers : Controllers) (bs cs : List (System.Act Task Transport SessionLabel)) (i : Nat)
    (m st : System.State AppState ClientSession)
    (hm : (clientSessions env scenes).run (sessionsInitial devices controllers) bs = some m)
    (hrun : (clientSessions env scenes).run (sessionsInitial devices controllers)
      (bs ++ .step i (.accept (.ok ())) :: cs) = some st)
    (s : ClientSession) (hs : st.comps[i]? = some s) :
    s.notified <+: stateUpdates
        (st.shared.hooks.sender.sent.drop m.shared.hooks.sender.sent.length) ∧
      ((∃ rx, s.stage.receiver? = some rx ∧
          s.notified ++ s.stage.pending ++ stateUpdates (st.shared.hooks.sender.unread rx) =
            stateUpdates (st.shared.hooks.sender.sent.drop m.shared.hooks.sender.sent.length)) ∨
        (∃ result, s.stage = .returned result) ∧
          ∀ app l, s.step env scenes app l = none) := by
  have hnotified : Notified st.shared.hooks.sender s :=
    (notifiedSessions_run hrun).2 s (List.mem_of_getElem? hs)
  -- The run up to the handshake, the handshake, and what follows it
  obtain ⟨m', hm', hrest⟩ := Lts.run_split _ hrun
  obtain rfl := Option.some.inj (hm.symm.trans hm')
  obtain ⟨m₁, haccept, hcs⟩ := Lts.run_cons _ hrest
  obtain ⟨s₀, s₁, hs₀, hstep, hc⟩ := System.exec_step haccept
  have hsubscribed : s₁.since = m.shared.hooks.sender.sent.length ∧ s₁.stage ≠ .accepting := by
    have haccepted : s₀.Step env scenes m.shared (.accept (.ok ())) m₁.shared s₁ :=
      ClientSession.step_cases hstep
    generalize m₁.shared = app₁ at haccepted
    cases haccepted with
    | subscribe h => exact ⟨rfl, nofun⟩
  have hs₁ : m₁.comps[i]? = some s₁ := by
    rw [hc, List.getElem?_set_self (List.getElem?_eq_some_iff.mp hs₀).1]
  obtain ⟨s', hs', hsince, hstage⟩ := since_run hcs ⟨s₁, hs₁, hsubscribed⟩
  obtain rfl := Option.some.inj (hs'.symm.trans hs)
  have hwritten := hnotified.written
  rw [hsince] at hwritten
  refine ⟨hwritten, ?_⟩
  cases hrx : s'.stage.receiver? with
  | some rx =>
    obtain ⟨hle, -, heq⟩ := hnotified.listening rx hrx
    refine .inl ⟨rx, rfl, ?_⟩
    rw [heq, ← stateUpdates_append, Broadcast.Channel.between_append_unread hle, hsince]
  | none =>
    cases hst : s'.stage with
    | accepting => exact absurd hst hstage
    | returned result =>
      exact .inr ⟨⟨result, rfl⟩, fun app l => ClientSession.step_returned hst⟩
    | selecting rx => rw [hst] at hrx; exact nomatch hrx
    | handling line rx => rw [hst] at hrx; exact nomatch hrx
    | sending message rx => rw [hst] at hrx; exact nomatch hrx

end Devicectrl

/-! ## A client that is told of a report -/

namespace Devicectrl.ClientSession.Demo

/-- The lamp has reported before the client subscribes. -/
def earlyReport : List (System.Act Task Transport SessionLabel) :=
  [.spawn .tcp, .env (.sendHook (.deviceStateUpdate lampOn))]

/-- The lamp reports again, and the client is told. -/
def lateReport : List (System.Act Task Transport SessionLabel) :=
  [.env (.sendHook (.deviceStateUpdate lampOn)), .step 0 .recv, .step 0 (.sent (.ok ()))]

end Devicectrl.ClientSession.Demo

namespace Devicectrl

open ClientSession.Demo

/-- A client that connects between two reports is told of the second. -/
theorem notifications_run_demo :
    ∃ st s, (clientSessions env ∅).run (sessionsInitial devices controllers)
        (earlyReport ++ .step 0 (.accept (.ok ())) :: lateReport) = some st ∧
      st.comps[0]? = some s ∧ s.notified = [lampOn] ∧
      s.notified <+: stateUpdates (st.shared.hooks.sender.sent.drop 1) :=
  ⟨_, _, rfl, rfl, rfl, (notifications_run env ∅ devices controllers earlyReport lateReport 0
    _ _ rfl rfl _ rfl).1⟩

end Devicectrl
