import Mathlib.Data.List.Forall2
import Devicectrl.ForStd.TaggedLog
import Devicectrl.ForStd.Translation
import Devicectrl.Spec.ClientSessions

/-!
# TCP and WebSocket sessions do the same

A session among other tasks, with what it has the controllers do. The two backends receive
different frames, and a WebSocket session answers a `Ping`; otherwise the same texts and the same
hooks make them do the same, but for the context by which a failure names its backend. A text
that is no message costs its session one failure and nothing else.

## Key results

- `websocketToTcp`, `tcpToWebsocket`: each session simulates the other
- `pruning`: a session simulates itself without some of the texts that are no messages
- `sockets_equivalent`: what all three keep
-/

namespace Devicectrl

/-! ## What a session has the controllers do -/

/-- A call of `dispatch_update` or `dispatch_query_state`. -/
inductive Dispatch where
  | update (device : Device) (request : UpdateRequest)
  | query (device : Device)
  deriving DecidableEq

/-- What a step of a request dispatches. -/
def RequestCall.dispatches (app : AppState) : RequestCall → RequestLabel → List Dispatch
  | .begin request, .poll =>
    match beginUpdateRequest request app with
    | .ok (device, _) => [.update device request]
    | .error _ => []
  | _, _ => []

/-- What a step of a line dispatches. -/
def Line.dispatches (app : AppState) : Line → LineLabel → List Dispatch
  | .requesting call, .request l => call.dispatches app l
  | .activating (.joining calls), .scene (.member i l) =>
    match calls[i]? with
    | some call => call.dispatches app l
    | none => []
  | .querying deviceId, .poll =>
    match app.devices.lookup deviceId with
    | some device => [.query device]
    | none => []
  | _, _ => []

/-- What a step of a session dispatches. -/
def SessionStage.dispatches (app : AppState) : SessionStage → SessionLabel → List Dispatch
  | .handling line _, .line l => line.dispatches app l
  | _, _ => []

/-- What a session has returned. -/
def SessionStage.result? : SessionStage → Option (Except Error Unit)
  | .returned result => some result
  | _ => none

/-! ## Sessions side by side -/

/-- The same message as two backends send it: a failure has the context of its backend. -/
inductive ClientBoundSocketMessage.Same (transport transport' : Transport) :
    ClientBoundSocketMessage → ClientBoundSocketMessage → Prop
  | failure {e} :
      Same transport transport' (.failure (transport.context :: e))
        (.failure (transport'.context :: e))
  | same {m} : Same transport transport' m m

/-- What is written alike. -/
inductive Outgoing.Same (transport transport' : Transport) : Outgoing → Outgoing → Prop
  | message {m m'} (h : m.Same transport transport' m') :
      Same transport transport' (.message m) (.message m')
  | pong : Same transport transport' .pong .pong

/-- Where two sessions are that do the same. -/
inductive SessionStage.Same (transport transport' : Transport) :
    SessionStage → SessionStage → Prop
  | accepting : Same transport transport' .accepting .accepting
  | selecting {rx} : Same transport transport' (.selecting rx) (.selecting rx)
  | handling {line rx} : Same transport transport' (.handling line rx) (.handling line rx)
  | sending {m m' rx} (h : m.Same transport transport' m') :
      Same transport transport' (.sending m rx) (.sending m' rx)
  | returned {result} : Same transport transport' (.returned result) (.returned result)

/-- What makes two sessions do the same. Their frames differ, but not what the loops do with
them. -/
inductive SessionLabel.Same (transport transport' : Transport) :
    SessionLabel → SessionLabel → Prop
  | accept {result} : Same transport transport' (.accept result) (.accept result)
  | tryNext {item item'} (h : item.map transport.turn = item'.map transport'.turn) :
      Same transport transport' (.tryNext transport item) (.tryNext transport' item')
  /-- Frames of another backend. -/
  | foreign {t t' item item'} (h : transport ≠ t) (h' : transport' ≠ t') :
      Same transport transport' (.tryNext t item) (.tryNext t' item')
  | recv : Same transport transport' .recv .recv
  | line {l} : Same transport transport' (.line l) (.line l)
  | sent {result} : Same transport transport' (.sent result) (.sent result)

/-- Two sessions have taken a step side by side. -/
structure ClientSession.Advance (transport transport' : Transport) (s s' : ClientSession)
    (p p' : AppState × ClientSession) : Prop where
  app : p'.1 = p.1
  transports : p.2.transport = s.transport ∧ p'.2.transport = s'.transport
  stage : p.2.stage.Same transport transport' p'.2.stage
  written : ∃ ws ws', p.2.written = s.written ++ ws ∧ p'.2.written = s'.written ++ ws' ∧
    List.Forall₂ (Outgoing.Same transport transport') ws ws'

section SideBySide

variable {env : SocketEnv} {scenes : ScenesConfig} {app : AppState}
  {transport transport' : Transport} {s s' : ClientSession} {l l' : SessionLabel}

theorem Outgoing.Same.refl (m : Outgoing) : m.Same transport transport' m := by
  cases m with
  | message m => exact .message .same
  | pong => exact .pong

/-- Of one backend, the same messages are equal. -/
theorem Outgoing.Same.eq {m m' : Outgoing} (h : m.Same transport transport m') : m' = m := by
  cases h with
  | message h =>
    cases h with
    | failure => rfl
    | same => rfl
  | pong => rfl

theorem SessionStage.Same.refl (stage : SessionStage) : stage.Same transport transport' stage := by
  cases stage with
  | accepting => exact .accepting
  | selecting rx => exact .selecting
  | handling line rx => exact .handling
  | sending m rx => exact .sending (.refl m)
  | returned result => exact .returned

/-- The stages of one transport are the same if they are equal. -/
theorem SessionStage.Same.eq {stage stage' : SessionStage}
    (h : stage.Same transport transport stage') : stage' = stage := by
  cases h with
  | sending h => rw [h.eq]
  | accepting => rfl
  | selecting => rfl
  | handling => rfl
  | returned => rfl

theorem SessionLabel.Same.refl (l : SessionLabel) : l.Same transport transport l := by
  cases l with
  | tryNext t item =>
    -- Frames of the session's own backend, or of another, which it is never given
    by_cases h : transport = t
    · subst h
      exact .tryNext rfl
    · exact .foreign h h
  | accept result => exact .accept
  | recv => exact .recv
  | line l => exact .line
  | sent result => exact .sent

/-- A line ends in the same stage over both transports. -/
theorem SessionStage.Same.afterLine (line : Line) (rx : Broadcast.Receiver) :
    (ClientSession.afterLine transport rx line).Same transport transport'
      (ClientSession.afterLine transport' rx line) := by
  -- Only the answer to a failed text is written at once
  cases line with
  | returned result =>
    cases result with
    | error e => exact .sending (.message .failure)
    | ok _ => exact .selecting
  | sending message next => exact .handling
  | requesting call => exact .handling
  | activating call => exact .handling
  | querying deviceId => exact .handling
  | dispatching device => exact .handling
  | cataloguing => exact .handling

/-- The same step dispatches the same. -/
theorem SessionStage.Same.dispatches {stage stage' : SessionStage}
    (hstage : stage.Same transport transport' stage') (hl : l.Same transport transport' l') :
    stage'.dispatches app l' = stage.dispatches app l := by
  cases hstage with
  | _ =>
    cases hl with
    | _ => rfl

/-- Neither has written anything. -/
theorem ClientSession.Advance.silent {p p' : AppState × ClientSession} (happ : p'.1 = p.1)
    (htransports : p.2.transport = s.transport ∧ p'.2.transport = s'.transport)
    (hstage : p.2.stage.Same transport transport' p'.2.stage)
    (hwritten : p.2.written = s.written) (hwritten' : p'.2.written = s'.written) :
    Advance transport transport' s s' p p' :=
  ⟨happ, htransports, hstage, [], [], by rw [hwritten, List.append_nil],
    by rw [hwritten', List.append_nil], .nil⟩

/-- Sessions that do the same go on in the same way, or not at all. -/
theorem ClientSession.step_same (hs : s.transport = transport) (hs' : s'.transport = transport')
    (hstage : s.stage.Same transport transport' s'.stage) (hl : l.Same transport transport' l') :
    Option.Rel (Advance transport transport' s s') (s.step env scenes app l)
      (s'.step env scenes app l') := by
  obtain ⟨transport₁, stage, since, written⟩ := s
  obtain ⟨transport₂, stage', since', written'⟩ := s'
  obtain rfl : transport₁ = transport := hs
  obtain rfl : transport₂ = transport' := hs'
  have hstage : stage.Same transport₁ transport₂ stage' := hstage
  cases hstage with
  | accepting =>
    cases hl with
    | @accept result =>
      cases result with
      | error e => exact .some (.silent rfl ⟨rfl, rfl⟩ .returned rfl rfl)
      | ok _ => exact .some (.silent rfl ⟨rfl, rfl⟩ .selecting rfl rfl)
    | _ => exact .none
  | @selecting rx =>
    cases hl with
    | @tryNext item item' hturn =>
      -- What the loop does with a frame is the same, and that is all it looks at
      simp only [step, if_true, hturn]
      cases item'.map transport₂.turn with
      | error e => exact .some (.silent rfl ⟨rfl, rfl⟩ .returned rfl rfl)
      | ok turn =>
        cases turn with
        | finish => exact .some (.silent rfl ⟨rfl, rfl⟩ .returned rfl rfl)
        | line text => exact .some (.silent rfl ⟨rfl, rfl⟩ (.afterLine _ _) rfl rfl)
        | pong => exact .some (.silent rfl ⟨rfl, rfl⟩ (.sending .pong) rfl rfl)
        | ignore => exact .some (.silent rfl ⟨rfl, rfl⟩ .selecting rfl rfl)
    | foreign h h' =>
      simp only [step, if_neg h, if_neg h']
      exact .none
    | recv =>
      simp only [step]
      cases app.hooks.sender.recv rx with
      | none => exact .none
      | some p =>
        obtain ⟨result, rx'⟩ := p
        cases result with
        | error e => exact .some (.silent rfl ⟨rfl, rfl⟩ .returned rfl rfl)
        | ok hook =>
          cases hook with
          | deviceStateUpdate n =>
            exact .some (.silent rfl ⟨rfl, rfl⟩ (.sending (.refl _)) rfl rfl)
          | deviceUpdateDispatch r => exact .some (.silent rfl ⟨rfl, rfl⟩ .selecting rfl rfl)
          | sceneActivate sceneId => exact .some (.silent rfl ⟨rfl, rfl⟩ .selecting rfl rfl)
    | _ => exact .none
  | @handling line rx =>
    cases hl with
    | @line l =>
      simp only [step]
      cases line.step env scenes app l with
      | none => exact .none
      | some p =>
        -- A line writes no failure: that comes with its result
        refine .some ⟨rfl, ⟨rfl, rfl⟩, .afterLine _ _, _, _, rfl, rfl, ?_⟩
        exact List.forall₂_same.mpr fun m _ => .refl m
    | _ => exact .none
  | @sending m m' rx hm =>
    cases hl with
    | @sent result =>
      cases result with
      | error e => exact .some (.silent rfl ⟨rfl, rfl⟩ .returned rfl rfl)
      | ok _ => exact .some ⟨rfl, ⟨rfl, rfl⟩, .selecting, _, _, rfl, rfl, .cons hm .nil⟩
    | _ => exact .none
  | returned =>
    cases hl with
    | _ => exact .none

end SideBySide

/-! ## A session among other tasks -/

/-- A session on the server, with what it has dispatched. -/
structure SocketRun where
  app : AppState
  session : ClientSession
  dispatched : List Dispatch

/-- A task of the server, or a step of the session. -/
inductive SocketAct where
  | task (task : Task)
  | session (l : SessionLabel)

/-- The message, unless it is the `Pong` of a WebSocket session. -/
def Outgoing.message? : Outgoing → Option ClientBoundSocketMessage
  | .message m => some m
  | .pong => none

/-- A frame of a WebSocket session that is neither a text nor its end. -/
def Message.isChatter : Message → Bool
  | .text _ => false
  | .close _ => false
  | _ => true

/-- A frame that is answered. -/
def Message.isPing : Message → Bool
  | .ping _ => true
  | _ => false

namespace SocketRun

/-- A client that has not been accepted yet. -/
def start (transport : Transport) (app : AppState) : SocketRun :=
  ⟨app, .start transport, []⟩

/-- One action of the run of a session. -/
def exec (env : SocketEnv) (scenes : ScenesConfig) (st : SocketRun) :
    SocketAct → Option SocketRun
  | .task task => (task.run st.app).map fun app => { st with app }
  | .session l => (st.session.step env scenes st.app l).map fun p =>
      ⟨p.1, p.2, st.dispatched ++ st.session.stage.dispatches st.app l⟩

/-- The messages among what was written. -/
def messagesOf (written : List Outgoing) : List ClientBoundSocketMessage :=
  written.filterMap Outgoing.message?

/-- The messages that the client has been sent. -/
def messages (st : SocketRun) : List ClientBoundSocketMessage :=
  messagesOf st.session.written

/-- The result of the session, once it has returned. -/
def result? (st : SocketRun) : Option (Except Error Unit) :=
  st.session.stage.result?

/-! ### From WebSocket to TCP -/

/-- What a TCP session is given for what a WebSocket session is given. It is not told of a frame
that TCP does not have; that a `Pong` cannot be sent shows when it reads. The flag tells that a
`Pong` is being sent. -/
def toTcp : Bool → SocketAct → Bool × List SocketAct
  | ponging, .task task => (ponging, [.task task])
  | true, .session (.sent (.ok ())) => (false, [])
  | true, .session (.sent (.error e)) => (false, [.session (.tryNext .tcp (.error e))])
  | false, .session (.tryNext .websocket (.error e)) =>
    (false, [.session (.tryNext .tcp (.error e))])
  | false, .session (.tryNext .websocket (.ok item)) =>
    match Websocket.turn item with
    | .finish => (false, [.session (.tryNext .tcp (.ok none))])
    | .line text => (false, [.session (.tryNext .tcp (.ok (some text)))])
    | .pong => (true, [])
    | .ignore => (false, [])
  | ponging, .session l => (ponging, [.session l])

/-- A stage of a WebSocket session and the one of the TCP session. -/
inductive StageMatches : Bool → SessionStage → SessionStage → Prop
  | same {stage stage'} (h : stage.Same .websocket .tcp stage') : StageMatches false stage stage'
  | ponging {rx} : StageMatches true (.sending .pong rx) (.selecting rx)

/-- A WebSocket session and a TCP session have sent the same messages. -/
def SameMessages (written written' : List Outgoing) : Prop :=
  List.Forall₂ (ClientBoundSocketMessage.Same .websocket .tcp) (messagesOf written)
    (messagesOf written')

/-- Messages that are the same one by one are the same but for pongs and failures. -/
theorem SameMessages.of_same {written written' : List Outgoing}
    (h : List.Forall₂ (Outgoing.Same .websocket .tcp) written written') :
    SameMessages written written' := by
  induction h with
  | nil => exact .nil
  | cons hm _ ih =>
    cases hm with
    | message hm => exact .cons hm ih
    | pong => exact ih

/-- The same messages, and more of them. -/
theorem SameMessages.append {written written' ws ws' : List Outgoing}
    (h : SameMessages written written') (hws : SameMessages ws ws') :
    SameMessages (written ++ ws) (written' ++ ws') := by
  rw [SameMessages, messagesOf, messagesOf, List.filterMap_append, List.filterMap_append]
  exact List.rel_append h hws

/-- A `Pong` is no message. -/
theorem SameMessages.pong {written written' : List Outgoing} (h : SameMessages written written') :
    SameMessages (written ++ [.pong]) written' := by
  have hmessages : messagesOf (written ++ [.pong]) = messagesOf written :=
    List.filterMap_append.trans (List.append_nil _)
  rw [SameMessages, hmessages]
  exact h

/-- The two sessions have done the same, but for the context of a failure. -/
structure Matches (ponging : Bool) (st st' : SocketRun) : Prop where
  app : st'.app = st.app
  dispatched : st'.dispatched = st.dispatched
  messages : SameMessages st.session.written st'.session.written
  transport : st.session.transport = .websocket ∧ st'.session.transport = .tcp
  stage : StageMatches ponging st.session.stage st'.session.stage

variable {env : SocketEnv} {scenes : ScenesConfig} {app : AppState} {st st' m : SocketRun}

/-- Both runs start in the same state. -/
theorem matches_start (app : AppState) :
    Matches false (start .websocket app) (start .tcp app) :=
  ⟨rfl, rfl, .nil, ⟨rfl, rfl⟩, .same .accepting⟩

/-- Sessions that match go on in the same way, or not at all. -/
theorem Matches.step {l l' : SessionLabel} (hst : Matches false st st')
    (hl : l.Same .websocket .tcp l') :
    Option.Rel (Matches false) (exec env scenes st (.session l))
      (exec env scenes st' (.session l')) := by
  obtain ⟨happ, hdispatched, hmessages, ⟨htransport, htransport'⟩, hstage⟩ := hst
  cases hstage with
  | same hstage =>
    -- Both transports take the same step, and write the same
    rw [exec, exec, happ, hdispatched, hstage.dispatches hl]
    refine (ClientSession.step_same htransport htransport' hstage hl).map fun hp => ?_
    obtain ⟨happ', htransports, hstage', ws, ws', hws, hws', hsame⟩ := hp
    refine ⟨happ', rfl, ?_, ?_, .same hstage'⟩
    · -- the new messages are appended on both sides
      rw [hws, hws']
      exact hmessages.append (.of_same hsame)
    · rw [htransports.1, htransports.2]
      exact ⟨htransport, htransport'⟩

/-- A step over the WebSocket that is not a frame is one over TCP. -/
theorem Matches.toTcp_step {l l' : SessionLabel} (hst : Matches false st st')
    (hl : l.Same .websocket .tcp l') (h : exec env scenes st (.session l) = some m) :
    ∃ m', Lts.run (exec env scenes) st' [.session l'] = some m' ∧ Matches false m m' :=
  Lts.run_of_rel (hst.step hl) h

/-- A frame is taken only between two lines. -/
theorem exec_tryNext {transport : Transport} {item : Except Error (Option transport.Frame)}
    (h : exec env scenes st (.session (.tryNext transport item)) = some m) :
    st.session.transport = transport ∧ ∃ rx, st.session.stage = .selecting rx := by
  obtain ⟨p, hp, -⟩ := Option.map_eq_some_iff.mp h
  exact ClientSession.step_tryNext hp

/-- A hook is taken only between two lines. -/
theorem exec_recv (h : exec env scenes st (.session .recv) = some m) :
    ∃ rx, st.session.stage = .selecting rx := by
  obtain ⟨p, hp, -⟩ := Option.map_eq_some_iff.mp h
  exact ClientSession.step_recv hp

/-- Where one session is at its select, the other is. -/
theorem StageMatches.selecting_iff {stage stage' : SessionStage} {rx : Broadcast.Receiver}
    (h : StageMatches false stage stage') : stage = .selecting rx ↔ stage' = .selecting rx := by
  cases h with
  | same h =>
    cases h with
    | selecting => exact Iff.rfl
    | accepting => exact ⟨nofun, nofun⟩
    | handling => exact ⟨nofun, nofun⟩
    | sending h => exact ⟨nofun, nofun⟩
    | returned => exact ⟨nofun, nofun⟩

/-- A frame that TCP does not have leaves a session at its select, or makes it send a `Pong`. -/
theorem Matches.skip {message : Message} (hst : Matches false st st')
    (hmessage : message.isChatter = true)
    (h : exec env scenes st (.session (.tryNext .websocket (.ok (some message)))) = some m) :
    toTcp false (.session (.tryNext .websocket (.ok (some message)))) = (message.isPing, []) ∧
      Matches message.isPing m st' := by
  obtain ⟨-, rx, hs⟩ := exec_tryNext h
  obtain ⟨app, ⟨transport, stage, since, written⟩, dispatched⟩ := st
  obtain ⟨happ, hdispatched, hsame, ⟨htransport, htransport'⟩, hstage⟩ := hst
  obtain rfl : transport = .websocket := htransport
  obtain rfl : stage = .selecting rx := hs
  have hempty : st'.dispatched = dispatched ++ [] :=
    hdispatched.trans (List.append_nil _).symm
  -- A ping is answered before the next turn, so the two match again after the pong
  cases message with
  | text text => cases hmessage
  | close bytes => cases hmessage
  | ping bytes =>
    cases h
    refine ⟨rfl, happ, hempty, hsame, ⟨rfl, htransport'⟩, ?_⟩
    rw [hstage.selecting_iff.mp rfl]
    exact .ponging
  | binary bytes =>
    cases h
    exact ⟨rfl, happ, hempty, hsame, ⟨rfl, htransport'⟩, hstage⟩
  | pong bytes =>
    cases h
    exact ⟨rfl, happ, hempty, hsame, ⟨rfl, htransport'⟩, hstage⟩
  | frame bytes =>
    cases h
    exact ⟨rfl, happ, hempty, hsame, ⟨rfl, htransport'⟩, hstage⟩

/-- While a pong is written there is only that to do. -/
theorem Matches.sent_of_ponging {l : SessionLabel} (hst : Matches true st st')
    (h : exec env scenes st (.session l) = some m) : ∃ result, l = .sent result := by
  obtain ⟨app, ⟨transport, stage, since, written⟩, dispatched⟩ := st
  have hstage : StageMatches true stage st'.session.stage := hst.stage
  generalize st'.session.stage = stage' at hstage
  -- A session that sends its `Pong` does nothing else until that is done
  cases hstage with
  | ponging =>
    cases l with
    | sent result => exact ⟨result, rfl⟩
    | _ => cases h

/-- A `Pong` has been sent, or could not be. -/
theorem Matches.ponged {result : Except Error Unit} (hst : Matches true st st')
    (h : exec env scenes st (.session (.sent result)) = some m) :
    ∃ m', Lts.run (exec env scenes) st' (toTcp true (.session (.sent result))).2 = some m' ∧
      Matches false m m' := by
  obtain ⟨app, ⟨transport, stage, since, written⟩, dispatched⟩ := st
  obtain ⟨app', ⟨transport', stage', since', written'⟩, dispatched'⟩ := st'
  obtain ⟨happ, hdispatched, hsame, ⟨htransport, htransport'⟩, hstage⟩ := hst
  obtain rfl : app' = app := happ
  obtain rfl : dispatched' = dispatched := hdispatched
  obtain rfl : transport' = .tcp := htransport'
  have hsame : SameMessages written written' := hsame
  have hstage : StageMatches true stage stage' := hstage
  cases hstage with
  | ponging =>
    -- The TCP session has nothing to do, or its next read fails with the same error
    cases result with
    | error e =>
      cases h
      exact ⟨_, rfl, rfl, rfl, hsame, ⟨htransport, rfl⟩, .same .returned⟩
    | ok _ =>
      cases h
      exact ⟨_, rfl, rfl, (List.append_nil _).symm, hsame.pong, ⟨htransport, rfl⟩,
        .same .selecting⟩

/-- A message of the WebSocket is one text over TCP, or none. -/
theorem Matches.item {item : Except Error (Option Message)} (hst : Matches false st st')
    (h : exec env scenes st (.session (.tryNext .websocket item)) = some m) :
    ∃ m', Lts.run (exec env scenes) st' (toTcp false (.session (.tryNext .websocket item))).2 =
        some m' ∧
      Matches (toTcp false (.session (.tryNext .websocket item))).1 m m' := by
  cases item with
  | error e => exact hst.toTcp_step (.tryNext rfl) h
  | ok item =>
    cases item with
    | none => exact hst.toTcp_step (.tryNext rfl) h
    | some message =>
      -- A frame that TCP has as well is a text or the end of the stream
      cases hmessage : message.isChatter with
      | true =>
        obtain ⟨htcp, hm⟩ := hst.skip hmessage h
        rw [htcp]
        exact ⟨st', rfl, hm⟩
      | false =>
        cases message with
        | text text => exact hst.toTcp_step (.tryNext rfl) h
        | close bytes => exact hst.toTcp_step (.tryNext rfl) h
        | _ => cases hmessage

/-- The other tasks do the same to both. -/
theorem Matches.task {ponging : Bool} (hst : Matches ponging st st') (task : Task) :
    Option.Rel (Matches ponging) (exec env scenes st (.task task))
      (exec env scenes st' (.task task)) := by
  simp only [exec, hst.app]
  cases task.run st.app with
  | none => exact .none
  | some app => exact .some ⟨rfl, hst.dispatched, hst.messages, hst.transport, hst.stage⟩

/-- A TCP session simulates a WebSocket session. -/
def websocketToTcp (env : SocketEnv) (scenes : ScenesConfig) :
    Lts.Simulation (exec env scenes) (exec env scenes) toTcp where
  rel := Matches
  step := by
    intro ponging st st' act m hst h
    -- A task is the same on both sides; a step of the session depends on whether a pong is due
    cases act with
    | task task => exact Lts.run_of_rel (hst.task task) h
    | session l =>
      cases ponging with
      | true =>
        -- A pong that is due is the one step, and the tcp session has none for it
        obtain ⟨result, rfl⟩ := hst.sent_of_ponging h
        cases result with
        | error e => exact hst.ponged h
        | ok _ => exact hst.ponged h
      | false =>
        cases l with
        | accept result => exact hst.toTcp_step .accept h
        | tryNext transport item =>
          cases transport with
          | tcp =>
            -- A websocket session reads no lines
            have htransport := hst.transport.1
            rw [(exec_tryNext h).1] at htransport
            cases htransport
          | websocket => exact hst.item h
        | recv => exact hst.toTcp_step .recv h
        | line l => exact hst.toTcp_step .line h
        | sent result =>
          cases result with
          | error e => exact hst.toTcp_step .sent h
          | ok _ => exact hst.toTcp_step .sent h

/-! ### From TCP to WebSocket -/

/-- A frame that TCP does not have, and the `Pong` that answers it. -/
def chat (message : Message) : List SocketAct :=
  .session (.tryNext .websocket (.ok (some message))) ::
    if message.isPing then [.session (.sent (.ok ()))] else []

/-- What a WebSocket session is given for what a TCP session is given: a text for a line, and
before each item or hook the next of the lists of frames that TCP does not have. -/
def toWebsocket : List (List Message) → SocketAct → List (List Message) × List SocketAct
  | chatter, .session (.tryNext .tcp item) =>
    (chatter.tail, (chatter.headD []).flatMap chat ++
      [.session (.tryNext .websocket (item.map fun line => line.map Message.text))])
  | chatter, .session .recv =>
    (chatter.tail, (chatter.headD []).flatMap chat ++ [.session .recv])
  | chatter, act => (chatter, [act])

variable {rx : Broadcast.Receiver}

/-- A step over TCP is one over the WebSocket. -/
theorem Matches.toWebsocket_step {l l' : SessionLabel} {m' : SocketRun}
    (hst : Matches false st st') (hl : l.Same .websocket .tcp l')
    (h : exec env scenes st' (.session l') = some m') :
    ∃ m, Lts.run (exec env scenes) st [.session l] = some m ∧ Matches false m m' :=
  Lts.run_of_rel_right (hst.step hl) h

variable (env scenes) in
/-- A WebSocket session at its select takes a frame that TCP does not have, and is there again. -/
theorem Matches.run_chat {message : Message} (hst : Matches false st st')
    (hstage : st.session.stage = .selecting rx) (hmessage : message.isChatter = true) :
    ∃ m, Lts.run (exec env scenes) st (chat message) = some m ∧ Matches false m st' ∧
      m.session.stage = .selecting rx := by
  obtain ⟨app, ⟨transport, stage, since, written⟩, dispatched⟩ := st
  obtain rfl : stage = .selecting rx := hstage
  obtain ⟨happ, hdispatched, hsame, ⟨htransport, htransport'⟩, hstage⟩ := hst
  obtain rfl : transport = .websocket := htransport
  have hempty : st'.dispatched = dispatched ++ [] :=
    hdispatched.trans (List.append_nil _).symm
  -- Chatter is a ping and its pong, or one message that is ignored
  cases message with
  | text text => cases hmessage
  | close bytes => cases hmessage
  | ping bytes =>
    refine ⟨_, rfl, ⟨happ, ?_, ?_, ⟨rfl, htransport'⟩, hstage⟩, rfl⟩
    · exact hempty.trans (List.append_nil _).symm
    · exact hsame.pong
  | binary bytes =>
    exact ⟨_, rfl, ⟨happ, hempty, hsame, ⟨rfl, htransport'⟩, hstage⟩, rfl⟩
  | pong bytes =>
    exact ⟨_, rfl, ⟨happ, hempty, hsame, ⟨rfl, htransport'⟩, hstage⟩, rfl⟩
  | frame bytes =>
    exact ⟨_, rfl, ⟨happ, hempty, hsame, ⟨rfl, htransport'⟩, hstage⟩, rfl⟩

variable (env scenes) in
/-- The WebSocket answers pings and skips pongs, and is back where it was. -/
theorem Matches.run_chatter {messages : List Message} (hst : Matches false st st')
    (hstage : st.session.stage = .selecting rx)
    (hmessages : ∀ message ∈ messages, message.isChatter = true) :
    ∃ m, Lts.run (exec env scenes) st (messages.flatMap chat) = some m ∧ Matches false m st' := by
  -- On the messages, each of which leaves the session selecting
  induction messages generalizing st with
  | nil => exact ⟨st, rfl, hst⟩
  | cons message messages ih =>
    obtain ⟨m₁, hrun, hm₁, hstage₁⟩ := hst.run_chat env scenes hstage
      (hmessages message List.mem_cons_self)
    obtain ⟨m, hrun', hm⟩ := ih hm₁ hstage₁ fun message hmem =>
      hmessages message (List.mem_cons_of_mem _ hmem)
    refine ⟨m, ?_, hm⟩
    rw [List.flatMap_cons, Lts.run_append_of _ hrun]
    exact hrun'

/-- A session at its select takes an item or a hook, and WebSocket frames before it. -/
theorem Matches.run_select {messages : List Message} {l l' : SessionLabel} {m' : SocketRun}
    (hst : Matches false st st') (hl : l.Same .websocket .tcp l')
    (hselect : st'.session.stage = .selecting rx)
    (hmessages : ∀ message ∈ messages, message.isChatter = true)
    (h : exec env scenes st' (.session l') = some m') :
    ∃ m, Lts.run (exec env scenes) st (messages.flatMap chat ++ [.session l]) = some m ∧
      Matches false m m' := by
  have hstage := hst.stage.selecting_iff.mpr hselect
  obtain ⟨m₁, hrun, hm₁⟩ := hst.run_chatter env scenes hstage hmessages
  obtain ⟨m, hrun', hm⟩ := hm₁.toWebsocket_step hl h
  exact ⟨m, by rw [Lts.run_append_of _ hrun, hrun'], hm⟩

/-- A WebSocket session simulates a TCP session, whatever frames it receives besides. -/
def tcpToWebsocket (env : SocketEnv) (scenes : ScenesConfig) :
    Lts.Simulation (exec env scenes) (exec env scenes) toWebsocket where
  rel chatter st st' :=
    (∀ messages ∈ chatter, ∀ message ∈ messages, message.isChatter = true) ∧
      Matches false st' st
  step := by
    rintro chatter st st' act m ⟨hchatter, hst⟩ h
    -- The chatter that comes before the next turn is `chatter.headD []`
    have hhead : ∀ message ∈ chatter.headD [], message.isChatter = true := by
      cases chatter with
      | nil => exact fun message hmem => absurd hmem List.not_mem_nil
      | cons messages chatter => exact hchatter messages List.mem_cons_self
    have htail : ∀ messages ∈ chatter.tail, ∀ message ∈ messages, message.isChatter = true :=
      fun messages hmem => hchatter messages (List.mem_of_mem_tail hmem)
    cases act with
    | task task =>
      obtain ⟨m', hrun, hm⟩ := Lts.run_of_rel_right (hst.task task) h
      exact ⟨m', hrun, hchatter, hm⟩
    | session l =>
      cases l with
      | accept result =>
        obtain ⟨m', hrun, hm⟩ := hst.toWebsocket_step .accept h
        exact ⟨m', hrun, hchatter, hm⟩
      | tryNext transport item =>
        cases transport with
        | tcp =>
          obtain ⟨-, rx, hselect⟩ := exec_tryNext h
          -- A line of text is a text message; the end and an error are the same
          have hturn : (item.map fun line => line.map Message.text).map Transport.websocket.turn =
              item.map Transport.tcp.turn := by
            cases item with
            | error e => rfl
            | ok line =>
              cases line with
              | none => rfl
              | some text => rfl
          obtain ⟨m', hrun, hm⟩ := hst.run_select (.tryNext hturn) hselect hhead h
          exact ⟨m', hrun, htail, hm⟩
        | websocket =>
          -- A tcp session receives no messages
          have htransport := hst.transport.2
          rw [(exec_tryNext h).1] at htransport
          cases htransport
      | recv =>
        obtain ⟨rx, hselect⟩ := exec_recv h
        obtain ⟨m', hrun, hm⟩ := hst.run_select .recv hselect hhead h
        exact ⟨m', hrun, htail, hm⟩
      | line l =>
        obtain ⟨m', hrun, hm⟩ := hst.toWebsocket_step .line h
        exact ⟨m', hrun, hchatter, hm⟩
      | sent result =>
        obtain ⟨m', hrun, hm⟩ := hst.toWebsocket_step .sent h
        exact ⟨m', hrun, hchatter, hm⟩

/-! ### Without some of the texts that are no messages -/

/-- The error of a text that is no message. -/
def decodeError? (env : SocketEnv) : SessionLabel → Option Error
  | .tryNext transport (.ok item) =>
    match transport.turn item with
    | .line text =>
      match env.fromStr text with
      | .error e => some e
      | .ok _ => none
    | _ => none
  | _ => none

/-- The reply to such a text. -/
def failureReply (transport : Transport) (e : Error) : Outgoing :=
  .message (.failure (transport.context :: e))

/-- What has been left out: the text whose reply is being sent, and those whose replies were. -/
structure Pruning where
  pending : Option Error
  replied : List Error

/-- What a session is given without the marked texts that are no messages. That a reply cannot be
sent shows when the session reads. -/
def prune (env : SocketEnv) (transport : Transport) (p : Pruning) (act : SocketAct × Bool) :
    Pruning × List SocketAct :=
  match act.1, p.pending with
  | .task task, _ => (p, [.task task])
  | .session l, none =>
    match if act.2 then decodeError? env l else none with
    | some e => (⟨some e, p.replied⟩, [])
    | none => (p, [.session l])
  | .session l, some e =>
    match l with
    | .sent (.ok ()) => (⟨none, p.replied ++ [e]⟩, [])
    | .sent (.error e') => (⟨none, p.replied⟩, [.session (.tryNext transport (.error e'))])
    | l => (p, [.session l])

/-- A stage of a session and the one without the texts that were left out. -/
inductive StagePruned (transport : Transport) :
    Option Error → SessionStage → SessionStage → Prop
  | same {stage} : StagePruned transport none stage stage
  | replying {e rx} : StagePruned transport (some e)
      (.sending (failureReply transport e) rx) (.selecting rx)

/-- The two sessions have done the same, but for the replies to the texts that were left out. -/
structure Pruned (transport : Transport) (p : Pruning) (st st' : SocketRun) : Prop where
  app : st'.app = st.app
  dispatched : st'.dispatched = st.dispatched
  backend : st.session.transport = transport ∧ st'.session.transport = transport
  written : TaggedLog.Interleaves st'.session.written (p.replied.map (failureReply transport))
    st.session.written
  stage : StagePruned transport p.pending st.session.stage st'.session.stage

variable {transport : Transport} {replied : List Error}

/-- The other tasks do the same to both. -/
theorem Pruned.task {p : Pruning} (hst : Pruned transport p st st') (task : Task) :
    Option.Rel (Pruned transport p) (exec env scenes st (.task task))
      (exec env scenes st' (.task task)) := by
  simp only [exec, hst.app]
  cases task.run st.app with
  | none => exact .none
  | some app => exact .some ⟨rfl, hst.dispatched, hst.backend, hst.written, hst.stage⟩

/-- A step of the session is a step of its run. -/
theorem run_session {l : SessionLabel} {app' : AppState} {s' : ClientSession}
    (h : st.session.step env scenes st.app l = some (app', s')) :
    Lts.run (exec env scenes) st [.session l] =
      some ⟨app', s', st.dispatched ++ st.session.stage.dispatches st.app l⟩ := by
  rw [Lts.run_singleton, exec, h]
  rfl

/-- A session goes on in the same way, whatever it has written. -/
theorem Pruned.step (hst : Pruned transport ⟨none, replied⟩ st st') (l : SessionLabel) :
    Option.Rel (Pruned transport ⟨none, replied⟩) (exec env scenes st (.session l))
      (exec env scenes st' (.session l)) := by
  obtain ⟨happ, hdispatched, ⟨htransport, htransport'⟩, hwritten, hstage⟩ := hst
  have hstage : st'.session.stage = st.session.stage := by
    generalize st.session.stage = stage at hstage ⊢
    cases hstage
    rfl
  have hsame : st.session.stage.Same transport transport st'.session.stage := by
    rw [hstage]
    exact .refl _
  rw [exec, exec, happ, hdispatched, hstage]
  refine (ClientSession.step_same htransport htransport' hsame (.refl l)).map fun hp => ?_
  obtain ⟨happ', htransports, hstage', ws, ws', hws, hws', hsame'⟩ := hp
  have heq : List.Forall₂ (· = ·) ws ws' := hsame'.imp fun _ _ h => h.eq.symm
  rw [List.forall₂_eq_eq_eq] at heq
  refine ⟨happ', rfl, ?_, ?_, ?_⟩
  · -- the transports stay, the same messages are written, the stages are equal
    rw [htransports.1, htransports.2]
    exact ⟨htransport, htransport'⟩
  · rw [hws, hws', ← heq]
    exact hwritten.append_left ws
  · rw [hstage'.eq]
    exact .same

/-- A text that is no message makes its session send a failure, and do nothing else. -/
theorem Pruned.skip {l : SessionLabel} {e : Error}
    (hst : Pruned transport ⟨none, replied⟩ st st') (hl : decodeError? env l = some e)
    (h : exec env scenes st (.session l) = some m) :
    Pruned transport ⟨some e, replied⟩ m st' := by
  obtain ⟨app, ⟨transport₁, stage, since, written⟩, dispatched⟩ := st
  obtain ⟨happ, hdispatched, ⟨htransport, htransport'⟩, hwritten, hstage⟩ := hst
  obtain rfl : transport₁ = transport := htransport
  -- Only a text that cannot be decoded is left out
  cases l with
  | tryNext transport item =>
    obtain ⟨htransport, rx, hs⟩ := exec_tryNext h
    obtain rfl : transport₁ = transport := htransport
    obtain rfl : stage = .selecting rx := hs
    cases item with
    | error e => cases hl
    | ok item =>
      simp only [decodeError?] at hl
      split at hl
      · rename_i text hturn
        split at hl
        · rename_i e' htext
          cases hl
          obtain ⟨p, hp, rfl⟩ := Option.map_eq_some_iff.mp h
          -- It is answered by a failure, which the pruned session does not write
          have hstep : ClientSession.step env scenes app ⟨transport₁, .selecting rx, since, written⟩
              (.tryNext transport₁ (.ok item)) = _ := ClientSession.step_text rfl hturn
          rw [Line.start, htext] at hstep
          cases hstep.symm.trans hp
          refine ⟨happ, hdispatched.trans (List.append_nil _).symm, ⟨rfl, htransport'⟩, hwritten,
            ?_⟩
          generalize st'.session.stage = stage' at hstage
          cases hstage
          exact .replying
        · cases hl
      · cases hl
  | _ => cases hl

/-- The failure has been sent, or could not be. -/
theorem Pruned.reply {e : Error} {result : Except Error Unit} {marked : Bool}
    (hst : Pruned transport ⟨some e, replied⟩ st st')
    (h : exec env scenes st (.session (.sent result)) = some m) :
    ∃ m', Lts.run (exec env scenes) st'
        (prune env transport ⟨some e, replied⟩ (.session (.sent result), marked)).2 = some m' ∧
      Pruned transport
        (prune env transport ⟨some e, replied⟩ (.session (.sent result), marked)).1 m m' := by
  obtain ⟨app, ⟨transport₁, stage, since, written⟩, dispatched⟩ := st
  obtain ⟨app', ⟨transport₂, stage', since', written'⟩, dispatched'⟩ := st'
  obtain ⟨happ, hdispatched, ⟨htransport, htransport'⟩, hwritten, hstage⟩ := hst
  obtain rfl : app' = app := happ
  obtain rfl : dispatched' = dispatched := hdispatched
  obtain rfl : transport₁ = transport := htransport
  obtain rfl : transport₂ = transport₁ := htransport'
  have hstage : StagePruned transport₂ (some e) stage stage' := hstage
  cases hstage with
  -- The failure was the one pending: written, or lost with the socket
  | replying =>
    cases result with
    | error e' =>
      cases h
      exact ⟨_, run_session (ClientSession.step_readError rfl e'), rfl, rfl, ⟨rfl, rfl⟩, hwritten,
        .same⟩
    | ok _ =>
      cases h
      refine ⟨_, rfl, rfl, (List.append_nil _).symm, ⟨rfl, rfl⟩, ?_, .same⟩
      show TaggedLog.Interleaves _ ((replied ++ [_]).map _) _
      rw [List.map_append]
      exact hwritten.append_right _

/-- While a failure is written there is only that to do. -/
theorem Pruned.sent_of_pending {e : Error} {l : SessionLabel}
    (hst : Pruned transport ⟨some e, replied⟩ st st')
    (h : exec env scenes st (.session l) = some m) : ∃ result, l = .sent result := by
  obtain ⟨app, ⟨transport₁, stage, since, written⟩, dispatched⟩ := st
  have hstage : StagePruned transport (some e) stage st'.session.stage := hst.stage
  generalize st'.session.stage = stage' at hstage
  cases hstage with
  | replying =>
    cases l with
    | sent result => exact ⟨result, rfl⟩
    | _ => cases h

/-- A session simulates itself without some of the texts that are no messages. -/
def pruning (env : SocketEnv) (scenes : ScenesConfig) (transport : Transport) :
    Lts.Simulation (fun st (act : SocketAct × Bool) => exec env scenes st act.1)
      (exec env scenes) (prune env transport) where
  rel := Pruned transport
  step := by
    rintro ⟨pending, replied⟩ st st' ⟨act, marked⟩ m hst h
    -- A marked text that cannot be decoded goes, and its reply with it
    cases act with
    | task task => exact Lts.run_of_rel (hst.task task) h
    | session l =>
      cases pending with
      | some e =>
        obtain ⟨result, rfl⟩ := hst.sent_of_pending h
        exact hst.reply h
      | none =>
        simp only [prune]
        cases hl : if marked then decodeError? env l else none with
        | none => exact Lts.run_of_rel (hst.step l) h
        | some e =>
          have hl : decodeError? env l = some e := by
            split at hl
            · exact hl
            · cases hl
          exact ⟨st', rfl, hst.skip hl h⟩

/-! ### What the sessions have in common -/

/-- Two sessions of some backends have left the server in the same state, its hooks among it, have
dispatched the same and have sent the same messages, and both have returned the same or neither
has. -/
structure SameOutput (transport transport' : Transport) (st st' : SocketRun) : Prop where
  app : st'.app = st.app
  dispatched : st'.dispatched = st.dispatched
  messages : List.Forall₂ (ClientBoundSocketMessage.Same transport transport') st.messages
    st'.messages
  result : st'.result? = st.result?

/-- The second session has done what the first has, except for the replies to texts that it was
not given. -/
structure LessReplies (transport : Transport) (replied : List Error) (st st' : SocketRun) :
    Prop where
  app : st'.app = st.app
  dispatched : st'.dispatched = st.dispatched
  written : TaggedLog.Interleaves st'.session.written (replied.map (failureReply transport))
    st.session.written
  result : st'.result? = st.result?

/-- Sessions that match have returned the same. -/
theorem StageMatches.result {ponging : Bool} {stage stage' : SessionStage}
    (h : StageMatches ponging stage stage') : stage'.result? = stage.result? := by
  cases h with
  | same h =>
    cases h with
    | _ => rfl
  | ponging => rfl

/-- A pruned session has returned the same. -/
theorem StagePruned.result {pending : Option Error} {stage stage' : SessionStage}
    (h : StagePruned transport pending stage stage') : stage'.result? = stage.result? := by
  cases h with
  | _ => rfl

/-- Runs that match have the same output. -/
theorem Matches.sameOutput {ponging : Bool} (h : Matches ponging st st') :
    SameOutput .websocket .tcp st st' :=
  ⟨h.app, h.dispatched, h.messages, h.stage.result⟩

theorem SameOutput.symm {transport' : Transport} (h : SameOutput transport transport' st st') :
    SameOutput transport' transport st' st := by
  refine ⟨h.app.symm, h.dispatched.symm, List.Forall₂.flip ?_, h.result.symm⟩
  refine h.messages.imp fun m m' hm => ?_
  cases hm with
  | failure => exact .failure
  | same => exact .same

/-- A pruned run has written no more than the failures it left out. -/
theorem Pruned.lessReplies {p : Pruning} (h : Pruned transport p st st') :
    LessReplies transport p.replied st st' :=
  ⟨h.app, h.dispatched, h.written, h.stage.result⟩

/-- Nothing has been left out at the start. -/
theorem pruned_start (transport : Transport) (app : AppState) :
    Pruned transport ⟨none, []⟩ (start transport app) (start transport app) :=
  ⟨rfl, rfl, ⟨rfl, rfl⟩, .nil, .same⟩

end SocketRun

open SocketRun in
/-- For every run of a WebSocket session there is one of a TCP session that is given its texts as
lines, and for every run of a TCP session one of a WebSocket session that is given its lines as
texts and any other frames among them, with the same output. For every run of a session there is
one without any of the texts that are no messages, whose output lacks the replies to them. -/
theorem sockets_equivalent (env : SocketEnv) (scenes : ScenesConfig) (app : AppState) :
    (∀ acts st, Lts.run (exec env scenes) (start .websocket app) acts = some st →
      ∃ st', Lts.run (exec env scenes) (start .tcp app) (Lts.translate toTcp false acts).2 =
          some st' ∧
        SameOutput .websocket .tcp st st') ∧
    (∀ chatter acts st, (∀ messages ∈ chatter, ∀ message ∈ messages, message.isChatter = true) →
      Lts.run (exec env scenes) (start .tcp app) acts = some st →
        ∃ st', Lts.run (exec env scenes) (start .websocket app)
            (Lts.translate toWebsocket chatter acts).2 = some st' ∧
          SameOutput .tcp .websocket st st') ∧
    ∀ transport marked st,
      Lts.run (exec env scenes) (start transport app) (marked.map Prod.fst) = some st →
        ∃ st', Lts.run (exec env scenes) (start transport app)
            (Lts.translate (prune env transport) ⟨none, []⟩ marked).2 = some st' ∧
          LessReplies transport
            (Lts.translate (prune env transport) ⟨none, []⟩ marked).1.replied st st' := by
  -- Three translations of runs: of frames to lines, of lines to frames, and without the texts
  refine ⟨fun acts st hrun => ?_, fun chatter acts st hchatter hrun => ?_,
    fun transport marked st hrun => ?_⟩
  · obtain ⟨st', hrun', hst⟩ := (websocketToTcp env scenes).run (matches_start app) hrun
    exact ⟨st', hrun', hst.sameOutput⟩
  · obtain ⟨st', hrun', -, hst⟩ :=
      (tcpToWebsocket env scenes).run ⟨hchatter, matches_start app⟩ hrun
    exact ⟨st', hrun', hst.sameOutput.symm⟩
  · rw [Lts.run_map] at hrun
    obtain ⟨st', hrun', hst⟩ :=
      (pruning env scenes transport).run (pruned_start transport app) hrun
    exact ⟨st', hrun', hst.lessReplies⟩

/-! ## A client that says something that is no message -/

namespace SocketRun.Demo

def noMessage : Error := ["expected value at line 1 column 1"]

/-- The one message that is one asks for nothing that is implemented. -/
def env : SocketEnv where
  fromStr text := if text = "\"Reserved\"" then .ok (.other []) else .error noMessage
  sort := ⟨.mergeSort _, .mergeSort _⟩

def app : AppState := .new ∅ ⟨false, false, false, false⟩

/-- The client greets the server, and is told of the failure. -/
def greet : List SocketAct :=
  [.session (.accept (.ok ())), .session (.tryNext .websocket (.ok (some (.text "hello")))),
    .session (.sent (.ok ()))]

/-- It sends a `Ping`. -/
def ping : List SocketAct :=
  [.session (.tryNext .websocket (.ok (some (.ping [])))), .session (.sent (.ok ()))]

/-- It sends a message that the server does not implement. -/
def ask : List SocketAct :=
  [.session (.tryNext .websocket (.ok (some (.text "\"Reserved\"")))),
    .session (.line (.sent (.ok ())))]

end SocketRun.Demo

open SocketRun in
/-- A client that greets the server and then sends a message, over WebSocket and over TCP. -/
theorem sockets_equivalent_greeting :
    ∃ st st', Lts.run (exec Demo.env ∅) (start .websocket Demo.app)
        (Demo.greet ++ Demo.ping ++ Demo.ask) = some st ∧
      st.session.written = [failureReply .websocket Demo.noMessage, .pong,
        .message .unimplemented] ∧
      Lts.run (exec Demo.env ∅) (start .tcp Demo.app)
        [.session (.accept (.ok ())), .session (.tryNext .tcp (.ok (some "hello"))),
          .session (.sent (.ok ())),
          .session (.tryNext .tcp (.ok (some "\"Reserved\""))),
          .session (.line (.sent (.ok ())))] = some st' ∧
      SameOutput .websocket .tcp st st' := by
  -- The WebSocket run is evaluated, and the theorem gives its translation
  have hrun : ∃ st, Lts.run (exec Demo.env ∅) (start .websocket Demo.app)
      (Demo.greet ++ Demo.ping ++ Demo.ask) = some st ∧
        st.session.written = [failureReply .websocket Demo.noMessage, .pong,
          .message .unimplemented] := ⟨_, rfl, rfl⟩
  obtain ⟨st, hst, hwritten⟩ := hrun
  obtain ⟨st', hst', hsame⟩ := (sockets_equivalent Demo.env ∅ Demo.app).1 _ st hst
  exact ⟨st, st', hst, hwritten, hst', hsame⟩

open SocketRun in
/-- The two failures differ in what names the backend. -/
theorem failure_names_backend :
    ∃ st st', Lts.run (exec Demo.env ∅) (start .websocket Demo.app) Demo.greet = some st ∧
      Lts.run (exec Demo.env ∅) (start .tcp Demo.app)
        [.session (.accept (.ok ())), .session (.tryNext .tcp (.ok (some "hello"))),
          .session (.sent (.ok ()))] = some st' ∧
      st.messages =
        [.failure ["failed to handle websocket message", "expected value at line 1 column 1"]] ∧
      st'.messages = [.failure ["failed to handle tcp line", "expected value at line 1 column 1"]] :=
  ⟨_, _, rfl, rfl, rfl, rfl⟩

end Devicectrl
