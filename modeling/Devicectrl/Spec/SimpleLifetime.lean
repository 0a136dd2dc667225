import Devicectrl.Spec.SimpleRuns

/-!
# How a Simple connection ends

The two loops of `handle_conn` end on their own. Neither notices the end of the other: the
scope keeps `sender` and `receiver` alive until both have completed.

## Key results

- `endsWithDevice_iff`: the select loop returns once the read loop has ended and the channel
  is drained only in runs that never get there
- `nothingDropped_iff`: no message is accepted in vain exactly when every step that breaks the
  select loop finds the read loop ended
-/

namespace Devicectrl.Simple

variable {env : Env} {key : SigningKey} {app app' : AppState} {socket socket' : Socket}
  {s s' : Session} {as bs cs : List Act} {i : Nat}

/-! ## The end of the read loop -/

namespace Session

/-- The read loop has left, its messages are handled, and the handler is at its select. -/
def Drained (s : Session) : Prop :=
  s.reader = .ended ∧ s.messages.queue = [] ∧ s.handler = .selecting

/-- The channel keeps its sender, and the loop has not returned through its `None` branch. -/
def Waits (s : Session) : Prop :=
  s.messages.senders = 1 ∧ s.handler ≠ .ended (.ok ())

/-- A session that writes is still waiting for its device. -/
theorem startWrite_waits (env : Env) (key : SigningKey) (m : DeviceBoundSimpleMessage)
    (s : Session) (h : s.messages.senders = 1) : (s.startWrite env key m).Waits := by
  obtain ⟨nonce, handler, he, -, -, hne⟩ := startWrite_frame env key m s
  rw [he]
  exact ⟨h, hne⟩

/-- No step drops the sender, so `recv` never yields `None`. -/
theorem Step.waits {l : Label} (h : Step env key app socket s l app' socket' s') (hs : s.Waits) :
    s'.Waits := by
  have hsenders := hs.1
  cases h with
  -- Only a channel without senders yields `None`
  | hangUp hh hq hs₀ => rw [hsenders] at hs₀; exact nomatch hs₀
  | refuse => exact startWrite_waits env key _ _ hsenders
  | failStore => exact startWrite_waits env key _ _ hsenders
  | failHook => exact startWrite_waits env key _ _ hsenders
  | notified => exact ⟨hsenders, nofun⟩
  | store => exact ⟨hsenders, nofun⟩
  | sendHook => exact ⟨hsenders, nofun⟩
  | writeSome => exact ⟨hsenders, nofun⟩
  | writeAll => exact ⟨hsenders, nofun⟩
  | writeError => exact ⟨hsenders, nofun⟩
  | accept => exact ⟨hsenders, hs.2⟩
  | reject => exact ⟨hsenders, hs.2⟩
  | queue => exact ⟨hsenders, hs.2⟩
  | unqueued => exact ⟨hsenders, hs.2⟩
  | skip => exact ⟨hsenders, hs.2⟩

/-- A request that is received leaves the session waiting. -/
theorem recvRequest_waits {r : Except Broadcast.RecvError DeviceBoundSimpleMessage}
    (h : s.recvRequest env key r = some s') (hs : s.Waits) : s'.Waits := by
  obtain ⟨-, ⟨e, -, rfl⟩ | ⟨m, -, -, rfl⟩ | ⟨m, -, -, rfl⟩⟩ := recvRequest_cases h
  · exact ⟨hs.1, nofun⟩
  · exact hs
  · exact startWrite_waits env key m s hs.1

/-- What a session does leaves it waiting. -/
theorem Moves.waits (h : s.Moves env key s') (hs : s.Waits) : s'.Waits := by
  cases h with
  | step h => exact h.waits hs
  | recv h => exact recvRequest_waits h hs

/-- Once ended, the read loop accepts nothing more and queues nothing more. -/
theorem Moves.reader_ended (h : s.Moves env key s') (hs : s.reader = .ended) :
    s'.reader = .ended ∧ s'.log.accepted = s.log.accepted ∧
      (s.messages.queue = [] → s'.messages.queue = []) := by
  have hwrite : ∀ m : DeviceBoundSimpleMessage, (s.startWrite env key m).reader = .ended ∧
      (s.startWrite env key m).log.accepted = s.log.accepted ∧
      (s.messages.queue = [] → (s.startWrite env key m).messages.queue = []) := by
    intro m
    obtain ⟨nonce, handler, he, -⟩ := startWrite_frame env key m s
    rw [he]
    exact ⟨hs, rfl, id⟩
  -- An ended read loop rules out its own four turns; the others leave its fields
  cases h with
  | step h =>
    cases h with
    | accept hr => rw [hs] at hr; exact nomatch hr
    | reject hr => rw [hs] at hr; exact nomatch hr
    | queue hr => rw [hs] at hr; exact nomatch hr
    | unqueued hr => rw [hs] at hr; exact nomatch hr
    -- A handler that answers takes its message off the queue and starts a write
    | @refuse m rest e hh hq hm =>
      obtain ⟨nonce, handler, he, -⟩ := startWrite_frame env key
        (.failure ("failed to handle simple message" :: e))
        { s with messages := { s.messages with queue := rest } }
      rw [fail, he]
      exact ⟨hs, rfl, fun h => by rw [hq] at h; exact nomatch h⟩
    | skip hh hq => exact ⟨hs, rfl, fun h => by rw [hq] at h; exact nomatch h⟩
    | notified hh hq => exact ⟨hs, rfl, fun h => by rw [hq] at h; exact nomatch h⟩
    | failStore => exact hwrite _
    | failHook => exact hwrite _
    | hangUp => exact ⟨hs, rfl, id⟩
    | store => exact ⟨hs, rfl, id⟩
    | sendHook => exact ⟨hs, rfl, id⟩
    | writeSome => exact ⟨hs, rfl, id⟩
    | writeAll => exact ⟨hs, rfl, id⟩
    | writeError => exact ⟨hs, rfl, id⟩
  -- A received request is at most written
  | recv h =>
    obtain ⟨-, ⟨e, -, rfl⟩ | ⟨m, -, -, rfl⟩ | ⟨m, -, -, rfl⟩⟩ := recvRequest_cases h
    · exact ⟨hs, rfl, id⟩
    · exact ⟨hs, rfl, id⟩
    · exact hwrite m

/-- Once ended, the select loop stays so and writes nothing more. -/
theorem Moves.handler_ended (h : s.Moves env key s') {r : Except Error Unit}
    (hs : s.handler = .ended r) :
    s'.handler = .ended r ∧ s'.log.written = s.log.written := by
  cases h with
  | step h =>
    cases h with
    -- The reader does not touch the handler
    | accept => exact ⟨hs, rfl⟩
    | reject => exact ⟨hs, rfl⟩
    | queue => exact ⟨hs, rfl⟩
    | unqueued => exact ⟨hs, rfl⟩
    -- The other steps are those of a handler that awaits something
    | hangUp hh => rw [hs] at hh; exact nomatch hh
    | refuse hh => rw [hs] at hh; exact nomatch hh
    | skip hh => rw [hs] at hh; exact nomatch hh
    | notified hh => rw [hs] at hh; exact nomatch hh
    | store hh => rw [hs] at hh; exact nomatch hh
    | sendHook hh => rw [hs] at hh; exact nomatch hh
    | failStore hh => rw [hs] at hh; exact nomatch hh
    | failHook hh => rw [hs] at hh; exact nomatch hh
    | writeSome hh => rw [hs] at hh; exact nomatch hh
    | writeAll hh => rw [hs] at hh; exact nomatch hh
    | writeError hh => rw [hs] at hh; exact nomatch hh
  | recv h =>
    have hh := (recvRequest_cases h).1
    rw [hs] at hh
    exact nomatch hh

end Session

namespace SessionAt

/-- In every state of every run the select loop waits on a channel that has its sender. -/
theorem waits (h : SessionAt env key app as i s) : s.Waits := by
  induction as using List.reverseRecOn generalizing s with
  | nil =>
    obtain ⟨st, k, hrun, hk, -⟩ := h
    cases hrun
    exact nomatch hk
  | append_singleton as a ih =>
    rcases h.concat with hs | ⟨s₁, hs, hmove⟩ | ⟨-, d, publicKey, n, N, rfl⟩
    · exact ih hs
    · exact hmove.waits (ih hs)
    · exact ⟨rfl, nofun⟩

/-- After the read loop has ended nothing more is accepted, and an empty channel stays so. -/
theorem reader_ended (h : SessionAt env key app as i s)
    (h' : SessionAt env key app (as ++ bs) i s') (hs : s.reader = .ended) :
    s'.reader = .ended ∧ s'.log.accepted = s.log.accepted ∧
      (s.messages.queue = [] → s'.messages.queue = []) := by
  -- Closed under moves, hence over the rest of the run
  refine h.later
    (R := fun s s' => s.reader = .ended → s'.reader = .ended ∧
      s'.log.accepted = s.log.accepted ∧ (s.messages.queue = [] → s'.messages.queue = []))
    (fun s hs => ⟨hs, rfl, id⟩) (fun h₁ h₂ hs => ?_) (fun hmove hs => hmove.reader_ended hs) h' hs
  obtain ⟨hr₁, ha₁, hq₁⟩ := h₁ hs
  obtain ⟨hr₂, ha₂, hq₂⟩ := h₂ hr₁
  exact ⟨hr₂, ha₂.trans ha₁, fun hq => hq₂ (hq₁ hq)⟩

/-- After the select loop has ended no message is written. -/
theorem handler_ended (h : SessionAt env key app as i s)
    (h' : SessionAt env key app (as ++ bs) i s') {r : Except Error Unit}
    (hs : s.handler = .ended r) :
    s'.handler = .ended r ∧ s'.log.written = s.log.written := by
  refine h.later
    (R := fun s s' => s.handler = .ended r → s'.handler = .ended r ∧
      s'.log.written = s.log.written)
    (fun s hs => ⟨hs, rfl⟩) (fun h₁ h₂ hs => ?_) (fun hmove hs => hmove.handler_ended hs) h' hs
  obtain ⟨hr₁, hw₁⟩ := h₁ hs
  obtain ⟨hr₂, hw₂⟩ := h₂ hr₁
  exact ⟨hr₂, hw₂.trans hw₁⟩

end SessionAt

/-- In the run `as`, whenever the read loop of connection `i` has ended and the channel is
drained, `recv` yields `None` and no frame is written from then on. -/
def EndsWithDevice (env : Env) (key : SigningKey) (app : AppState) (as : List Act) (i : Nat) :
    Prop :=
  ∀ bs cs s, as = bs ++ cs → SessionAt env key app bs i s → s.Drained →
    (∃ messages, s.messages.recv = some (none, messages)) ∧
      ∀ s', SessionAt env key app as i s' → s'.log.written = s.log.written

/-- The connection ends with its device only in a run that never has it drained: from such a
state on `recv` stays pending. In no run does the select loop return through `None`. -/
theorem endsWithDevice_iff (env : Env) (key : SigningKey) (app : AppState) :
    (∀ as i, EndsWithDevice env key app as i ↔
      ∀ bs cs s, as = bs ++ cs → SessionAt env key app bs i s → ¬s.Drained) ∧
    (∀ as bs i s s', SessionAt env key app as i s → s.Drained →
      SessionAt env key app (as ++ bs) i s' → s'.messages.recv = none) ∧
    ∀ as i s, SessionAt env key app as i s → s.handler ≠ .ended (.ok ()) := by
  -- The queue stays empty and the sender alive, so the receive stays pending
  have hpending : ∀ as bs i s s', SessionAt env key app as i s → s.Drained →
      SessionAt env key app (as ++ bs) i s' → s'.messages.recv = none := by
    intro as bs i s s' h ⟨hr, hq, _⟩ h'
    have hq' := (h.reader_ended h' hr).2.2 hq
    have hsenders := h'.waits.1
    simp only [Mpsc.Channel.recv, hq', hsenders]
    rfl
  refine ⟨fun as i => ⟨fun h bs cs s has hs hd => ?_, fun h bs cs s has hs hd => ?_⟩, hpending,
    fun as i s h => h.waits.2⟩
  · obtain ⟨⟨messages, hrecv⟩, -⟩ := h bs cs s has hs hd
    have hnone := hpending bs [] i s s hs hd (by rwa [List.append_nil])
    rw [hrecv] at hnone
    cases hnone
  · exact absurd hd (h bs cs s has hs)

/-! ## The end of the select loop -/

namespace Session

/-- The select loop has left by `?` or by `return`. -/
def HandlerEnded (s : Session) : Prop :=
  ∃ r, s.handler = .ended r

/-- What the select loop has to write because of a step of its connection. -/
def reply? (app : AppState) (s : Session) :
    HandleConn.Label Conn.Label → Option DeviceBoundSimpleMessage
  | .recvRequest (.ok request) =>
    if request.requestDevice = some s.deviceId then some request else none
  -- A message of the device is answered only when it is refused
  | .own (.session .recvMessage) =>
    match s.messages.queue.head? with
    | none => none
    | some message =>
      match handleMessage message s.deviceId with
      | .error e => some (.failure ("failed to handle simple message" :: e))
      | .ok _ => none
  -- So is a notification, when it cannot be stored or sent on
  | .own (.session .process) =>
    match s.handler with
    | .processing call =>
      match (processUpdateNotification app call).2 with
      | .inr (.error e) =>
        some (.failure ("failed to handle simple message" ::
          "failed to process simple update notification" :: e))
      | _ => none
    | _ => none
  | _ => none

/-- A receive of a request, or a write, that fails. -/
def failed : HandleConn.Label Conn.Label → Bool
  | .recvRequest (.error _) => true
  | .own (.session (.write (.error _))) => true
  | _ => false

/-- A step of the connection fails to receive a request or to write, or what there is to write
because of it cannot be signed. -/
def Breaks (env : Env) (key : SigningKey) (app : AppState) (s : Session)
    (l : HandleConn.Label Conn.Label) : Prop :=
  failed l = true ∨ ∃ m, s.reply? app l = some m ∧ s.Unsignable env key m

/-- A write ends the handler exactly if its message cannot be signed. -/
theorem startWrite_ended_iff (env : Env) (key : SigningKey) (m : DeviceBoundSimpleMessage)
    (s : Session) : (s.startWrite env key m).HandlerEnded ↔ s.Unsignable env key m := by
  simp only [HandlerEnded, startWrite, Unsignable]
  split
  · rename_i e nonce h
    simp [h]
  · rename_i F nonce h
    simp [h]

/-- A step that neither fails nor replies breaks nothing. -/
theorem not_breaks {l : HandleConn.Label Conn.Label} (hf : failed l = false)
    (hreply : s.reply? app l = none) : ¬s.Breaks env key app l := by
  simp [Breaks, hf, hreply]

/-- A step that replies breaks the session exactly if the reply cannot be signed. -/
theorem breaks_of_reply {l : HandleConn.Label Conn.Label} {m : DeviceBoundSimpleMessage}
    (hf : failed l = false) (hreply : s.reply? app l = some m) :
    s.Breaks env key app l ↔ s.Unsignable env key m := by
  simp [Breaks, hf, hreply]

/-- The steps outside the two loops do not break them. -/
theorem not_breaks_outside {l : Conn.Label} (hl : ∀ l', l ≠ .session l') :
    ¬s.Breaks env key app (.own l) := by
  cases l with
  | session l' => exact absurd rfl (hl l')
  | deliver bytes => exact not_breaks rfl rfl
  | hangUp => exact not_breaks rfl rfl
  | greet result => exact not_breaks rfl rfl
  | identify => exact not_breaks rfl rfl
  | finish => exact not_breaks rfl rfl

/-- A turn ends the select loop exactly when it breaks it. -/
theorem Turn.ended_iff {l : HandleConn.Label Conn.Label} (h : s.Turn env key app l s')
    (hs : s.Waits) (hne : ¬s.HandlerEnded) : s'.HandlerEnded ↔ s.Breaks env key app l := by
  -- What is left is a write begun, where `breaks_of_reply` reads the answer off the turn, or no
  -- answer
  cases h with
  | step h =>
    cases h with
    | accept => exact iff_of_false hne (not_breaks rfl rfl)
    | reject => exact iff_of_false hne (not_breaks rfl rfl)
    | queue => exact iff_of_false hne (not_breaks rfl rfl)
    | unqueued => exact iff_of_false hne (not_breaks rfl rfl)
    -- A waiting session still has its reader, so its queue has a sender
    | hangUp hh hq hs₀ =>
      rw [hs.1] at hs₀
      omega
    -- A refused message ends the handler only if its answer cannot be signed
    | @refuse m rest e hh hq hm =>
      have hreply : s.reply? app (.own (.session .recvMessage)) =
          some (.failure ("failed to handle simple message" :: e)) := by
        simp only [reply?, hq, List.head?_cons, hm]
      rw [breaks_of_reply rfl hreply]
      exact startWrite_ended_iff env key _ _
    | skip hh hq hm =>
      have hreply : s.reply? app (.own (.session .recvMessage)) = none := by
        simp only [reply?, hq, List.head?_cons, hm]
      exact iff_of_false hne (not_breaks rfl hreply)
    | notified hh hq hm =>
      have hreply : s.reply? app (.own (.session .recvMessage)) = none := by
        simp only [reply?, hq, List.head?_cons, hm]
      exact iff_of_false (by rintro ⟨r, ⟨⟩⟩) (not_breaks rfl hreply)
    -- A notification stored or sent on needs no answer
    | store hh hn =>
      have hreply : s.reply? app (.own (.session .process)) = none := by
        simp only [reply?, hh, processUpdateNotification, hn]
      exact iff_of_false (by rintro ⟨r, ⟨⟩⟩) (not_breaks rfl hreply)
    | sendHook hh hn =>
      have hreply : s.reply? app (.own (.session .process)) = none := by
        simp only [reply?, hh, processUpdateNotification, hn]
      exact iff_of_false (by rintro ⟨r, ⟨⟩⟩) (not_breaks rfl hreply)
    -- One that could not be is answered as a refused message is
    | @failStore n e hh hn =>
      have hreply : s.reply? app (.own (.session .process)) =
          some (.failure ("failed to handle simple message" ::
            "failed to process simple update notification" :: e)) := by
        simp only [reply?, hh, processUpdateNotification, hn]
      rw [breaks_of_reply rfl hreply]
      exact startWrite_ended_iff env key _ _
    | @failHook n e hh hn =>
      have hreply : s.reply? app (.own (.session .process)) =
          some (.failure ("failed to handle simple message" ::
            "failed to process simple update notification" :: e)) := by
        simp only [reply?, hh, processUpdateNotification, hn]
      rw [breaks_of_reply rfl hreply]
      exact startWrite_ended_iff env key _ _
    | writeSome => exact iff_of_false (by rintro ⟨r, ⟨⟩⟩) (not_breaks rfl rfl)
    | writeAll => exact iff_of_false (by rintro ⟨r, ⟨⟩⟩) (not_breaks rfl rfl)
    -- A socket that fails ends the handler, whatever it was to send
    | writeError => exact iff_of_true ⟨_, rfl⟩ (.inl rfl)
  | recv h =>
    obtain ⟨hh, ⟨e, rfl, rfl⟩ | ⟨m, rfl, hm, rfl⟩ | ⟨m, rfl, hm, rfl⟩⟩ := recvRequest_cases h
    · -- a lagging receiver ends it too; a request for another device does nothing
      exact iff_of_true ⟨_, rfl⟩ (.inl rfl)
    · have hreply : s'.reply? app (.recvRequest (.ok m)) = none := by simp only [reply?, if_neg hm]
      exact iff_of_false hne (not_breaks rfl hreply)
    · have hreply : s.reply? app (.recvRequest (.ok m)) = some m := by simp only [reply?, if_pos hm]
      rw [breaks_of_reply rfl hreply]
      exact startWrite_ended_iff env key m s

/-- A move is one of either loop. -/
theorem Moves.one_loop (h : s.Moves env key s') :
    s'.reader = s.reader ∨ s'.handler = s.handler := by
  have hwrite : ∀ (t : Session) (m : DeviceBoundSimpleMessage),
      (t.startWrite env key m).reader = t.reader := by
    intro t m
    obtain ⟨nonce, handler, he, -⟩ := startWrite_frame env key m t
    rw [he]
  -- The first four are turns of the read loop, the rest of the handler
  cases h with
  | step h =>
    cases h with
    | accept => exact .inr rfl
    | reject => exact .inr rfl
    | queue => exact .inr rfl
    | unqueued => exact .inr rfl
    | refuse => exact .inl (hwrite _ _)
    | failStore => exact .inl (hwrite _ _)
    | failHook => exact .inl (hwrite _ _)
    | _ => exact .inl rfl
  | recv h =>
    obtain ⟨-, ⟨e, -, rfl⟩ | ⟨m, -, -, rfl⟩ | ⟨m, -, -, rfl⟩⟩ := recvRequest_cases h
    · exact .inl rfl
    · exact .inl rfl
    · exact .inl (hwrite s m)

end Session

/-- In the run `as`, once the select loop of connection `i` has ended the read loop has too,
and nothing more is accepted. -/
def NothingDropped (env : Env) (key : SigningKey) (app : AppState) (as : List Act) (i : Nat) :
    Prop :=
  ∀ bs cs s, as = bs ++ cs → SessionAt env key app bs i s → s.HandlerEnded →
    s.reader = .ended ∧
      ∀ s', SessionAt env key app as i s' → s'.log.accepted = s.log.accepted

/-- Every step of connection `i` in the run `as` that breaks its select loop finds the read loop
ended. -/
def ReaderEndsFirst (env : Env) (key : SigningKey) (app : AppState) (as : List Act) (i : Nat) :
    Prop :=
  ∀ bs l cs st k s, as = bs ++ .step i l :: cs →
    (handleConn env key).system.run (HandleConn.initial app) bs = some st →
    st.comps[i]? = some k → k.conn.stage.session? = some s →
    (∃ s', SessionAt env key app (bs ++ [.step i l]) i s') →
    s.Breaks env key st.shared.app l → s.reader = .ended

/-- If the reader ends first in a run, then in each run before it. -/
theorem ReaderEndsFirst.of_append (h : ReaderEndsFirst env key app (as ++ bs) i) :
    ReaderEndsFirst env key app as i := by
  intro cs l ds st k s has
  exact h cs l (ds ++ bs) st k s (by rw [has]; simp)

/-- The invariant of a run whose steps all meet the condition. -/
theorem ReaderEndsFirst.reader (h : ReaderEndsFirst env key app as i)
    (hs : SessionAt env key app as i s) (he : s.HandlerEnded) : s.reader = .ended := by
  induction as using List.reverseRecOn generalizing s with
  | nil =>
    obtain ⟨st, k, hrun, hk, -⟩ := hs
    cases hrun
    exact nomatch hk
  | append_singleton as a ih =>
    rcases hs.concat_turn with hs₁ | ⟨st, k, s₁, l, hrun, hk, hsession, rfl, hturn⟩ |
      ⟨-, d, publicKey, n, N, rfl⟩
    · exact ih h.of_append hs₁ he
    · have hs₁ : SessionAt env key app as i s₁ := ⟨st, k, hrun, hk, hsession⟩
      by_cases he₁ : s₁.HandlerEnded
      · -- it had ended before: the read loop had, and has not come back
        exact (hturn.moves.reader_ended (ih h.of_append hs₁ he₁)).1
      · -- this turn ended it, so it broke it
        have hbreaks := (hturn.ended_iff hs₁.waits he₁).mp he
        have hended := h as l [] st k s₁ rfl hrun hk hsession ⟨s, hs⟩ hbreaks
        exact (hturn.moves.reader_ended hended).1
    · -- a session just opened has a handler that has not ended
      obtain ⟨r, hr⟩ := he
      exact nomatch hr

/-- No message is accepted after the select loop has ended exactly in the runs in which each
step that breaks it finds the read loop ended. -/
theorem nothingDropped_iff (env : Env) (key : SigningKey) (app : AppState) (as : List Act)
    (i : Nat) : NothingDropped env key app as i ↔ ReaderEndsFirst env key app as i := by
  constructor
  · intro h bs l cs st k s has hrun hk hsession hs' hbreaks
    obtain ⟨s', hs'⟩ := hs'
    have hs : SessionAt env key app bs i s := ⟨st, k, hrun, hk, hsession⟩
    by_cases he : s.HandlerEnded
    · exact (h bs (.step i l :: cs) s has hs he).1
    · rcases SessionAt.turn_of hrun hk hsession hs' with hturn | ⟨l', rfl, hl⟩
      · have hended := h (bs ++ [.step i l]) cs s' (by rw [has]; simp) hs'
          ((hturn.ended_iff hs.waits he).mpr hbreaks)
        -- One step does not end both loops
        rcases hturn.moves.one_loop with hreader | hhandler
        · rw [← hreader, hended.1]
        · obtain ⟨r, hr⟩ := (hturn.ended_iff hs.waits he).mpr hbreaks
          exact absurd ⟨r, by rw [← hhandler, hr]⟩ he
      · exact absurd hbreaks (Session.not_breaks_outside hl)
  · intro h bs cs s has hs he
    subst has
    have hended := h.of_append.reader hs he
    exact ⟨hended, fun s' hs' => (hs.reader_ended hs' hended).2.1⟩

/-! ## Runs that go wrong -/

/-- The lamp hangs up, and the next request for it is written all the same. -/
def Demo.hangUpRun : List Act :=
  Demo.connect 0 ++
    [.step 0 (.own .hangUp), .step 0 (.own (.session .read))] ++
    [.env (.sendUpdate ⟨Demo.lamp, .power .on⟩),
      .step 0 (.recvRequest (.ok (.updateCommand ⟨Demo.lamp, .power .on⟩))),
      .step 0 (.own (.session (.write (.ok 73))))]

/-- A device that hangs up leaves its handler waiting. -/
theorem not_endsWithDevice :
    ¬EndsWithDevice Demo.env Demo.privateKey Demo.app Demo.hangUpRun 0 := by
  intro h
  have hdrained := h (Demo.connect 0 ++ [.step 0 (.own .hangUp), .step 0 (.own (.session .read))])
    _ _ rfl ⟨_, _, rfl, rfl, rfl⟩ ⟨rfl, rfl, rfl⟩
  have hwritten := hdrained.2 _ ⟨_, _, rfl, rfl, rfl⟩
  exact absurd hwritten (by decide)

/-- Requests for the fan overtake the lamp's connection, whose reader goes on accepting. -/
def Demo.lagRun : List Act :=
  Demo.connect 0 ++ List.replicate 65 (.env (.sendUpdate ⟨Demo.fan, .power .on⟩)) ++
    [.step 0 (.recvRequest (.error (.lagged 1)))] ++
    [.step 0 (.own (.deliver (Demo.reportFrame 1))), .step 0 (.own (.session .read))]

set_option maxRecDepth 4000 in
/-- A report is dropped when its handler has lagged behind. -/
theorem not_nothingDropped :
    ¬NothingDropped Demo.env Demo.privateKey Demo.app Demo.lagRun 0 := by
  intro h
  have hended := h (Demo.connect 0 ++
      List.replicate 65 (.env (.sendUpdate ⟨Demo.fan, .power .on⟩)) ++
      [.step 0 (.recvRequest (.error (.lagged 1)))])
    _ _ rfl ⟨_, _, rfl, rfl, rfl⟩ ⟨_, rfl⟩
  exact nomatch hended.1

end Devicectrl.Simple
