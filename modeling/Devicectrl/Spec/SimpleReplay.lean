import Devicectrl.ForStd.SequenceNumbers
import Devicectrl.Spec.SimpleFraming
import Devicectrl.Spec.SimpleRuns

/-!
# Replay across Simple connections

The server with all its Simple connections, the devices, which sign their frames, and whoever
delivers bytes to the connections. A signature is ideal: it verifies only over what the owner
of the key has signed. Any frame that was ever signed can be delivered to any connection.

The signed bytes name neither the connection nor the device, so a frame belongs to a
connection through its nonce only.

## Key results

- `acceptedOnce_run`: where the nonces of connections do not meet, each signed frame is accepted
  at most once, by the connection it was signed for
- `not_acceptedOnce`: where two connections draw one nonce, a frame is accepted by both
-/

namespace Devicectrl.Simple

/-! ## Signed frames -/

/-- A frame that a device signed: the connection it is for, how many it had signed for this
connection before, and what it signs. -/
structure SignedFrame where
  conn : Nat
  publicKey : VerifyingKey
  index : Nat
  nonce : UInt32
  payload : List UInt8
  deriving DecidableEq

namespace SignedFrame

/-- The bytes the signature covers. -/
def data (e : SignedFrame) : List UInt8 :=
  be32 e.nonce ++ be32 (UInt32.ofNat e.payload.length) ++ e.payload

/-- `F` is the frame on the wire, with any signature. -/
def OnWire (env : Env) (e : SignedFrame) (F : List UInt8) : Prop :=
  ∃ sig, sig.length = env.SIGNATURE_LEN ∧ F = e.data ++ sig

end SignedFrame

/-- Nothing verifies under a key but what has been signed with it. -/
def Env.ideal (env : Env) (signed : List SignedFrame) : Env :=
  { env with
    verify := fun publicKey data signature =>
      if signed.any fun e => e.publicKey = publicKey ∧ e.data = data then
        env.verify publicKey data signature
      else .error ["signature error"] }

/-! ## The server and the devices -/

/-- The server, and all frames that devices have signed. -/
structure World where
  server : System.State Server (Connection Conn)
  signed : List SignedFrame

namespace World

/-- How many frames were signed with a key for a connection. -/
def signedFor (w : World) (conn : Nat) (publicKey : VerifyingKey) : Nat :=
  (w.signed.filter fun e => e.conn = conn ∧ e.publicKey = publicKey).length

/-- The nonce a connection has drawn. -/
def startNonce (w : World) (conn : Nat) : UInt32 :=
  (w.server.comps[conn]?.map fun k => k.conn.expectedRecvNonce).getD 0

/-- An action of the world: one of the server, or a signature by a device. -/
inductive Act where
  /-- A step of the server, or bytes that arrive: any bytes, on any connection. -/
  | server (a : Simple.Act)
  /-- A device signs its next frame for a connection. -/
  | sign (conn : Nat) (publicKey : VerifyingKey) (payload : List UInt8)
  deriving DecidableEq

/-- A signature takes the next nonce of the connection it is made for. -/
def exec (env : Env) (key : SigningKey) (w : World) : Act → Option World
  | .server a =>
    ((handleConn (env.ideal w.signed) key).system.exec w.server a).map fun server =>
      { w with server }
  | .sign conn publicKey payload =>
    match w.server.comps[conn]? with
    | none => none
    | some k =>
      let index := w.signedFor conn publicKey
      let nonce := frameNonce k.conn.expectedRecvNonce index
      some { w with signed := w.signed ++ [⟨conn, publicKey, index, nonce, payload⟩] }

/-- Nothing has been signed before the first connection. -/
def initial (app : AppState) : World :=
  ⟨HandleConn.initial app, []⟩

/-- The frame is the `j`-th one that connection `i` has accepted from its device. -/
def AcceptedAt (env : Env) (w : World) (e : SignedFrame) (i j : Nat) : Prop :=
  ∃ k s F m, w.server.comps[i]? = some k ∧ k.conn.stage.session? = some s ∧
    s.publicKey = e.publicKey ∧ s.log.accepted[j]? = some (F, m) ∧ e.OnWire env F

/-- A signed frame is accepted at most once over all connections, and by none but its own. -/
def AcceptedOnce (env : Env) (w : World) (e : SignedFrame) : Prop :=
  (∀ i j, w.AcceptedAt env e i j → i = e.conn) ∧
    ∀ i j i' j', w.AcceptedAt env e i j → w.AcceptedAt env e i' j' → i = i' ∧ j = j'

/-- The nonces of connections do not meet: fewer than 2³² frames are signed for each, and no
nonce of a session, up to that after the last frame signed for it, is one of a frame signed
with the same key for another connection. -/
structure Fresh (w : World) : Prop where
  few : ∀ conn publicKey, w.signedFor conn publicKey < 2 ^ 32
  apart : ∀ (i : Nat) (k : Connection Conn) (s : Session), w.server.comps[i]? = some k →
    k.conn.stage.session? = some s → ∀ conn, conn ≠ i →
    ∀ j, j ≤ w.signedFor i s.publicKey → ∀ l, l < w.signedFor conn s.publicKey →
      frameNonce (w.startNonce i) j ≠ frameNonce (w.startNonce conn) l

/-- What the frames of one key are numbered by. -/
def sequenceNumbers (w : World) (publicKey : VerifyingKey) : SequenceNumbers Nat UInt32 where
  tag conn index := frameNonce (w.startNonce conn) index
  sent conn := w.signedFor conn publicKey

end World

variable {env : Env} {key : SigningKey} {app app' : AppState} {socket socket' : Socket}
  {s s' : Session} {signed signed' : List SignedFrame} {w w' : World}

/-! ## What verifies -/

/-- Signed data begins with its nonce. -/
theorem SignedFrame.nonce_of_data {e e' : SignedFrame} (h : e.data = e'.data) :
    e.nonce = e'.nonce := by
  have h := congrArg (List.take 4) h
  exact be32_inj h

/-- Two frames on the wire as the same bytes are signed over the same bytes. -/
theorem SignedFrame.OnWire.data_eq {e e' : SignedFrame} {F : List UInt8} (h : e.OnWire env F)
    (h' : e'.OnWire env F) : e.data = e'.data := by
  obtain ⟨sig, hsig, rfl⟩ := h
  obtain ⟨sig', hsig', h'⟩ := h'
  exact (List.append_inj' h' (by omega)).1

/-- An ideal signature verifies only if its device made it over these bytes. -/
theorem Env.ideal_verify {publicKey : VerifyingKey} {data : List UInt8} {signature : Signature}
    (h : (env.ideal signed).verify publicKey data signature = .ok ()) :
    ∃ e ∈ signed, e.publicKey = publicKey ∧ e.data = data := by
  simp only [Env.ideal] at h
  split at h
  · rename_i hany
    simpa using hany
  · exact nomatch h

/-- A frame that is accepted was signed, with the key and under the nonce it is accepted with. -/
theorem IsFrame.exists_signed {publicKey : VerifyingKey} {nonce : UInt32} {F : List UInt8}
    {m : ServerBoundSimpleMessage} (h : IsFrame (env.ideal signed) publicKey nonce F m) :
    ∃ e ∈ signed, e.publicKey = publicKey ∧ e.OnWire env F ∧ e.nonce = nonce := by
  obtain ⟨payload, sig, signature, -, hsig, rfl, -, hver, -⟩ := h
  obtain ⟨e, he, hkey, hdata⟩ := Env.ideal_verify hver
  refine ⟨e, he, hkey, ⟨sig, hsig, by rw [hdata]⟩, ?_⟩
  have h := congrArg (List.take 4) hdata
  exact be32_inj h

/-! ## What sessions accept -/

/-- A session that began with the nonce `n` has accepted signed frames only, under the nonces
that follow `n`. -/
structure Session.Authentic (env : Env) (signed : List SignedFrame) (n : UInt32) (s : Session) :
    Prop where
  startNonce : s.startNonce = n
  nonce : s.expectedRecvNonce = n + UInt32.ofNat s.log.accepted.length
  accepted : ∀ (j : Nat) (F : List UInt8) (m : ServerBoundSimpleMessage),
    s.log.accepted[j]? = some (F, m) →
    ∃ e ∈ signed, e.publicKey = s.publicKey ∧ e.OnWire env F ∧ e.nonce = frameNonce n j

namespace Session

variable {n : UInt32}

/-- A frame that was signed stays signed. -/
theorem Authentic.mono (h : s.Authentic env signed n) (hsub : ∀ e ∈ signed, e ∈ signed') :
    s.Authentic env signed' n := by
  refine ⟨h.startNonce, h.nonce, fun j F m hj => ?_⟩
  obtain ⟨e, he, hframe⟩ := h.accepted j F m hj
  exact ⟨e, hsub e he, hframe⟩

/-- A session that starts has accepted nothing. -/
theorem Authentic.start (env : Env) (signed : List SignedFrame) (d : DeviceId)
    (publicKey : VerifyingKey) (startNonce peerNonce : UInt32) :
    (Session.start d publicKey startNonce peerNonce).Authentic env signed startNonce where
  startNonce := rfl
  nonce := by simp [Session.start, Log.empty]
  accepted j F m h := by simp [Session.start, Log.empty] at h

/-- The session has accepted nothing since. -/
theorem Authentic.same (h : s.Authentic env signed n) (hpeer : s.SamePeer s')
    (hnonce : s'.expectedRecvNonce = s.expectedRecvNonce)
    (haccepted : s'.log.accepted = s.log.accepted) : s'.Authentic env signed n := by
  refine ⟨by rw [hpeer.startNonce, h.startNonce], by rw [hnonce, haccepted, h.nonce], ?_⟩
  rw [haccepted, hpeer.publicKey]
  exact h.accepted

/-- A write neither accepts a frame nor moves the expected nonce. -/
theorem startWrite_recv (env : Env) (key : SigningKey) (m : DeviceBoundSimpleMessage)
    (s : Session) :
    (s.startWrite env key m).expectedRecvNonce = s.expectedRecvNonce ∧
      (s.startWrite env key m).log.accepted = s.log.accepted := by
  obtain ⟨nonce, handler, he, -⟩ := startWrite_frame env key m s
  rw [he]
  exact ⟨rfl, rfl⟩

/-- A step of the two loops accepts the next frame, or none. -/
theorem Step.recv_cases {l : Label} (h : Step env key app socket s l app' socket' s') :
    (s'.expectedRecvNonce = s.expectedRecvNonce ∧ s'.log.accepted = s.log.accepted) ∨
      ∃ F m, IsFrame env s.publicKey (s.expectedRecvNonce + 1) F m ∧
        s'.expectedRecvNonce = s.expectedRecvNonce + 1 ∧
        s'.log.accepted = s.log.accepted ++ [(F, m)] := by
  cases h with
  -- Only an accepted frame moves the nonce on; what else writes, reads nothing
  | @accept F m _ hr hin heof hF => exact .inr ⟨F, m, hF, rfl, rfl⟩
  | @refuse m rest e =>
    obtain ⟨hnonce, haccepted⟩ := startWrite_recv env key
      (.failure ("failed to handle simple message" :: e))
      { s with messages := { s.messages with queue := rest } }
    exact .inl ⟨hnonce, haccepted⟩
  | failStore => exact .inl (startWrite_recv env key _ s)
  | failHook => exact .inl (startWrite_recv env key _ s)
  | _ => exact .inl ⟨rfl, rfl⟩

/-- A step of the session accepts signed frames only, each under the nonce it expects. -/
theorem Step.authentic {l : Label}
    (h : Step (env.ideal signed) key app socket s l app' socket' s')
    (hs : s.Authentic env signed n) : s'.Authentic env signed n := by
  rcases h.recv_cases with ⟨hnonce, haccepted⟩ | ⟨F, m, hF, hnonce, haccepted⟩
  · exact hs.same h.samePeer hnonce haccepted
  · -- the start nonce stays, the expected one is a frame further on
    refine ⟨by rw [h.samePeer.startNonce, hs.startNonce], ?_, fun j F' m' hj => ?_⟩
    · rw [hnonce, haccepted, hs.nonce, List.length_append, List.length_singleton,
        add_ofNat_add_one]
      rfl
    · rw [haccepted] at hj
      rw [h.samePeer.publicKey]
      by_cases hlt : j < s.log.accepted.length
      · rw [List.getElem?_append_left hlt] at hj
        exact hs.accepted j F' m' hj
      · -- the frame that has just been accepted is the last one
        obtain rfl : j = s.log.accepted.length := by
          have hlen := (List.getElem?_eq_some_iff.mp hj).1
          rw [List.length_append, List.length_singleton] at hlen
          omega
        rw [List.getElem?_concat_length] at hj
        cases hj
        rw [hs.nonce, add_ofNat_add_one] at hF
        exact hF.exists_signed

/-- A request that is received accepts no frame. -/
theorem recvRequest_authentic {r : Except Broadcast.RecvError DeviceBoundSimpleMessage}
    (h : s.recvRequest env key r = some s') {env₀ : Env} (hs : s.Authentic env₀ signed n) :
    s'.Authentic env₀ signed n := by
  apply hs.same (recvRequest_samePeer h)
  · obtain ⟨-, ⟨e, -, rfl⟩ | ⟨m, -, -, rfl⟩ | ⟨m, -, -, rfl⟩⟩ := recvRequest_cases h
    · rfl
    · rfl
    · exact (startWrite_recv env key m s).1
  · obtain ⟨-, ⟨e, -, rfl⟩ | ⟨m, -, -, rfl⟩ | ⟨m, -, -, rfl⟩⟩ := recvRequest_cases h
    · rfl
    · rfl
    · exact (startWrite_recv env key m s).2

end Session

/-! ## Steps of the server and the devices -/

/-- A connection keeps the nonce that it has drawn. -/
theorem Conn.step_keeps {c c' : Conn} {l : Conn.Label}
    (h : c.step env key app l = some (app', c')) : c'.expectedRecvNonce = c.expectedRecvNonce := by
  cases Conn.step_cases h with
  | _ => rfl

namespace World

/-- The start nonce of a connection, from its state. -/
theorem startNonce_of {i : Nat} {k : Connection Conn} (h : w.server.comps[i]? = some k) :
    w.startNonce i = k.conn.expectedRecvNonce := by
  rw [startNonce, h]
  rfl

/-- The frames of a key and a connection, after one more is signed. -/
theorem signedFor_append (server : System.State Server (Connection Conn)) (e : SignedFrame)
    (conn : Nat) (publicKey : VerifyingKey) :
    signedFor ⟨server, signed ++ [e]⟩ conn publicKey =
      signedFor ⟨server, signed⟩ conn publicKey +
        if e.conn = conn ∧ e.publicKey = publicKey then 1 else 0 := by
  simp only [signedFor, List.filter_append, List.length_append]
  by_cases he : e.conn = conn ∧ e.publicKey = publicKey
  · simp [he]
  · simp [he]

/-- An action of the server signs nothing. -/
theorem exec_server {a : Simple.Act} (h : w.exec env key (.server a) = some w') :
    (handleConn (env.ideal w.signed) key).system.exec w.server a = some w'.server ∧
      w'.signed = w.signed := by
  obtain ⟨server, hs, rfl⟩ := Option.map_eq_some_iff.mp h
  exact ⟨hs, rfl⟩

/-- A signature changes nothing of the server. -/
theorem exec_sign {conn : Nat} {publicKey : VerifyingKey} {payload : List UInt8}
    (h : w.exec env key (.sign conn publicKey payload) = some w') :
    ∃ k, w.server.comps[conn]? = some k ∧ w' = { w with
      signed := w.signed ++ [⟨conn, publicKey, w.signedFor conn publicKey,
        frameNonce (w.startNonce conn) (w.signedFor conn publicKey), payload⟩] } := by
  simp only [exec] at h
  split at h
  · exact nomatch h
  · rename_i k hk
    cases h
    exact ⟨k, hk, by rw [startNonce_of hk]⟩

/-- A connection stays, with the nonce it has drawn. -/
theorem exec_keeps {a : Act} {i : Nat} (h : w.exec env key a = some w')
    (hi : i < w.server.comps.length) :
    i < w'.server.comps.length ∧ w'.startNonce i = w.startNonce i := by
  cases a with
  -- Signing changes no connection
  | sign conn publicKey payload =>
    obtain ⟨k, -, rfl⟩ := exec_sign h
    exact ⟨hi, rfl⟩
  | server a =>
    obtain ⟨hexec, -⟩ := exec_server h
    have hk := List.getElem?_eq_getElem hi
    -- The connection has stayed as it was, or has taken the turn itself
    rcases System.exec_comp hexec hk with ⟨-, hk'⟩ | ⟨l, k', -, hstep, hk'⟩
    · exact ⟨(List.getElem?_eq_some_iff.mp hk').1, by rw [startNonce_of hk', startNonce_of hk]⟩
    · refine ⟨(List.getElem?_eq_some_iff.mp hk').1, ?_⟩
      rw [startNonce_of hk', startNonce_of hk]
      cases l with
      | own l =>
        obtain ⟨hown, -⟩ := HandleConn.turn_own hstep
        exact Conn.step_keeps hown
      | recvRequest r =>
        obtain ⟨-, hr, -⟩ := HandleConn.turn_recv hstep
        obtain ⟨s, s', -, -, he⟩ := Conn.recvRequest_session hr
        rw [he]

/-- What the devices sign and the sessions accept: every signed frame is one of the frames of
its connection, and every session is authentic. -/
structure Sound (env : Env) (w : World) : Prop where
  frames : ∀ e ∈ w.signed, e.index < w.signedFor e.conn e.publicKey ∧
    e.nonce = frameNonce (w.startNonce e.conn) e.index ∧ e.conn < w.server.comps.length
  sessions : ∀ (i : Nat) (k : Connection Conn) (s : Session), w.server.comps[i]? = some k →
    k.conn.stage.session? = some s → s.Authentic env w.signed (w.startNonce i)

/-- A session after a step of the server, with the frames signed so far: its connection was
there before, since the connections that start have no session. -/
theorem Sound.session_server {a : Simple.Act} (hs : w.Sound env)
    (h : w.exec env key (.server a) = some w') {i : Nat} {k' : Connection Conn}
    (hk' : w'.server.comps[i]? = some k') (hsession : k'.conn.stage.session? = some s') :
    i < w.server.comps.length ∧ s'.Authentic env w.signed (w.startNonce i) := by
  obtain ⟨hexec, -⟩ := exec_server h
  -- The connection was there before, or has just been accepted
  rcases System.exec_comp_inv hexec hk' with ⟨k, hk⟩ | ⟨v, -, -, hspawn⟩
  · refine ⟨(List.getElem?_eq_some_iff.mp hk).1, ?_⟩
    rcases System.exec_comp hexec hk with ⟨-, hsame⟩ | ⟨l, k₁, -, hstep, hk₁⟩
    · obtain rfl := Option.some.inj (hsame.symm.trans hk')
      exact hs.sessions i k s' hk hsession
    · obtain rfl := Option.some.inj (hk₁.symm.trans hk')
      cases l with
      | own l =>
        obtain ⟨hown, -⟩ := HandleConn.turn_own hstep
        rcases Conn.session_step hown hsession with
          -- Its session was there, has taken a step, or has just begun with the key of its device
          ⟨-, hold⟩ | ⟨l', s, -, hold, hst⟩ | ⟨d, publicKey, peerNonce, -, -, rfl⟩
        · exact hs.sessions i k s' hk hold
        · exact hst.authentic (hs.sessions i k s hk hold)
        · rw [startNonce_of hk]
          exact .start env w.signed d publicKey _ peerNonce
      | recvRequest r =>
        obtain ⟨-, hr, -⟩ := HandleConn.turn_recv hstep
        obtain ⟨s, s₁, hstage, hr, he⟩ := Conn.recvRequest_session hr
        rw [he] at hsession
        cases hsession
        exact Session.recvRequest_authentic hr (hs.sessions i k s hk (by rw [hstage]; rfl))
  · -- an accepted connection has no session yet
    obtain ⟨-, rfl⟩ := HandleConn.spawn_eq hspawn
    have hnone : none = some s' := hsession
    cases hnone

/-- Every step keeps the world sound. -/
theorem Sound.exec {a : Act} (hs : w.Sound env) (h : w.exec env key a = some w') :
    w'.Sound env := by
  cases a with
  | server a =>
    obtain ⟨-, hsigned⟩ := exec_server h
    -- A turn of the server keeps the signed frames and the connections they are for
    refine ⟨fun e he => ?_, fun i k' s' hk' hsession => ?_⟩
    · rw [hsigned] at he
      obtain ⟨hindex, hnonce, hconn⟩ := hs.frames e he
      obtain ⟨hlt, hstart⟩ := exec_keeps h hconn
      refine ⟨?_, by rw [hstart, hnonce], hlt⟩
      rw [signedFor, hsigned]
      exact hindex
    · obtain ⟨hi, hauth⟩ := hs.session_server h hk' hsession
      rw [hsigned, (exec_keeps h hi).2]
      exact hauth
  | sign conn publicKey payload =>
    obtain ⟨k, hk, rfl⟩ := exec_sign h
    have hlt : conn < w.server.comps.length := (List.getElem?_eq_some_iff.mp hk).1
    -- The new frame has the index that was next, and so no other frame has it
    refine ⟨fun e he => ?_, fun i k' s' hk' hsession => ?_⟩
    · rw [signedFor_append]
      rcases List.mem_append.mp he with he | he
      · obtain ⟨hindex, hnonce, hconn⟩ := hs.frames e he
        exact ⟨Nat.lt_add_right _ hindex, hnonce, hconn⟩
      · obtain rfl := List.mem_singleton.mp he
        refine ⟨?_, rfl, hlt⟩
        rw [if_pos ⟨rfl, rfl⟩]
        exact Nat.lt_succ_self _
    · exact (hs.sessions i k' s' hk' hsession).mono fun e he => List.mem_append_left _ he

/-- In every run of the world the frames and their nonces are sound. -/
theorem sound_run {as : List Act} (h : Lts.run (World.exec env key) (.initial app) as = some w) :
    w.Sound env := by
  apply Lts.run_invariant _ (fun _ _ _ hs hstep => hs.exec hstep) h
  refine ⟨fun e he => ?_, fun i k s hk => ?_⟩
  · exact absurd he List.not_mem_nil
  · have hnone : none = some k := hk
    exact nomatch hnone

/-! ## Fresh nonces -/

/-- The frames of a key are numbered by connections and positions: where the nonces of
connections do not meet, no tag is seen twice. -/
theorem Fresh.sequenceNumbers (h : w.Fresh) {i : Nat} {k : Connection Conn}
    (hk : w.server.comps[i]? = some k) (hs : k.conn.stage.session? = some s) :
    (w.sequenceNumbers s.publicKey).Fresh i := by
  intro j hj conn l hl htag
  simp only [World.sequenceNumbers] at hj hl htag
  have hfew := h.few i s.publicKey
  by_cases hconn : conn = i
  · subst hconn
    refine ⟨rfl, ?_⟩
    -- Within one connection a nonce recurs after 2³² frames only
    rcases Nat.lt_trichotomy l j with hlt | heq | hlt
    · exact absurd htag (frameNonce_ne _ hlt (by omega))
    · exact heq
    · exact absurd htag.symm (frameNonce_ne _ hlt (by omega))
  · exact absurd htag.symm (h.apart i k s hk hs conn hconn j hj l hl)

/-- A session accepts what is signed with its key. -/
theorem Sound.accepts (h : w.Sound env) {i : Nat} {k : Connection Conn}
    (hk : w.server.comps[i]? = some k) (hs : k.conn.stage.session? = some s) :
    (w.sequenceNumbers s.publicKey).Accepts i s.log.accepted.length := by
  intro j hj
  have hauth := h.sessions i k s hk hs
  obtain ⟨e, he, hkey, -, hnonce⟩ := hauth.accepted j _ _ (List.getElem?_eq_getElem hj)
  obtain ⟨hindex, hframe, -⟩ := h.frames e he
  refine ⟨e.conn, e.index, ?_, ?_⟩
  · rw [← hkey]
    exact hindex
  · show frameNonce (w.startNonce e.conn) e.index = frameNonce (w.startNonce i) j
    rw [← hframe, hnonce]

/-- A frame is accepted at its position on its own connection. -/
theorem Fresh.eq_of_acceptedAt (h : w.Fresh) (hw : w.Sound env) {e : SignedFrame}
    (he : e ∈ w.signed) {i j : Nat} (hat : w.AcceptedAt env e i j) :
    e.conn = i ∧ e.index = j := by
  obtain ⟨k, s, F, m, hk, hs, hkey, hj, hwire⟩ := hat
  obtain ⟨e', he', hkey', hwire', hnonce'⟩ := (hw.sessions i k s hk hs).accepted j F m hj
  -- The accepted frame was signed by someone for this key, with its own nonce
  obtain ⟨hindex, hframe, -⟩ := hw.frames e he
  have hnonce : e.nonce = e'.nonce := SignedFrame.nonce_of_data (hwire.data_eq hwire')
  have hlt : j < s.log.accepted.length := (List.getElem?_eq_some_iff.mp hj).1
  -- Equal nonces less than `2 ^ 32` apart are the same place of the same connection
  apply (h.sequenceNumbers hk hs).eq_of_accepts (hw.accepts hk hs) hlt
  · show e.index < w.signedFor e.conn s.publicKey
    rw [hkey]
    exact hindex
  · show frameNonce (w.startNonce e.conn) e.index = frameNonce (w.startNonce i) j
    rw [← hframe, hnonce, hnonce']

end World

/-- In every run, whatever is delivered to the connections: if the nonces of connections do not
meet, then each signed frame is accepted at most once over all connections, and by none but the
one it was signed for. -/
theorem acceptedOnce_run (env : Env) (key : SigningKey) (app : AppState) (as : List World.Act)
    (w : World) (hrun : Lts.run (World.exec env key) (.initial app) as = some w)
    (hfresh : w.Fresh) : ∀ e ∈ w.signed, w.AcceptedOnce env e := by
  have hw := World.sound_run hrun
  intro e he
  refine ⟨fun i j hat => ?_, fun i j i' j' hat hat' => ?_⟩
  · exact (hfresh.eq_of_acceptedAt hw he hat).1.symm
  · obtain ⟨rfl, rfl⟩ := hfresh.eq_of_acceptedAt hw he hat
    exact hfresh.eq_of_acceptedAt hw he hat'

end Devicectrl.Simple

namespace Devicectrl.Simple

/-- The lamp connects, signs a report, and the server accepts it. Then a peer that says it is
the lamp opens a connection with the start nonce `n` and sends the report again. -/
def Demo.replayRun (n : UInt32) : List World.Act :=
  (Demo.connect 0).map .server ++
    [.sign 0 ⟨[7]⟩ [1], .server (.step 0 (.own (.deliver (Demo.reportFrame 1)))),
      .server (.step 0 (.own (.session .read))), .server (.spawn n),
      .server (.step 1 (.own (.greet (.ok ())))),
      .server (.step 1 (.own (.deliver (be32 5 ++ be32 1 ++ [0] ++ Demo.reportFrame 1)))),
      .server (.step 1 (.own .identify)), .server (.step 1 (.own (.session .read)))]

/-- The frame of the lamp is accepted on its first connection, and not again on the second. -/
theorem acceptedOnce_run_demo :
    ∃ w : World, Lts.run (World.exec Demo.env Demo.privateKey) (.initial Demo.app)
        (Demo.replayRun 100) = some w ∧
      (w.server.comps.map fun k => k.conn.log.accepted.length) = [1, 0] ∧
      w.signed = [⟨0, ⟨[7]⟩, 0, 1, [1]⟩] ∧ ∀ e ∈ w.signed, w.AcceptedOnce Demo.env e := by
  have hrun : ∃ w, Lts.run (World.exec Demo.env Demo.privateKey) (.initial Demo.app)
      (Demo.replayRun 100) = some w ∧
      (w.server.comps.map fun k => k.conn.log.accepted.length) = [1, 0] ∧
      w.signed = [⟨0, ⟨[7]⟩, 0, 1, [1]⟩] ∧
      w.server.comps.map (fun k => k.conn.expectedRecvNonce) = [0, 100] := ⟨_, rfl, rfl, rfl, rfl⟩
  obtain ⟨w, hrun, hlen, hsigned, hnonces⟩ := hrun
  refine ⟨w, hrun, hlen, hsigned,
    acceptedOnce_run Demo.env Demo.privateKey Demo.app (Demo.replayRun 100) w hrun ?_⟩
  have hle : ∀ conn publicKey, w.signedFor conn publicKey ≤ 1 := fun conn publicKey => by
    rw [World.signedFor, hsigned]
    exact List.length_filter_le _ _
  have hstart : ∀ i, w.startNonce i = ([0, 100][i]?).getD 0 := fun i => by
    rw [← hnonces, List.getElem?_map]
    rfl
  refine ⟨fun conn publicKey => ?_, fun i k s hk hs conn hconn j hj l hl => ?_⟩
  · have := hle conn publicKey
    omega
  · have hj₁ := hle i s.publicKey
    have hl₁ := hle conn s.publicKey
    have hi : i < w.server.comps.length := (List.getElem?_eq_some_iff.mp hk).1
    have hcomps : w.server.comps.length = 2 := by
      have := congrArg List.length hnonces
      rwa [List.length_map] at this
    -- The only frame was signed for connection 0, so the session is that of connection 1
    obtain rfl : 0 = conn := by
      by_contra hne
      simp [World.signedFor, hsigned, hne] at hl
    obtain rfl : i = 1 := by omega
    obtain rfl : l = 0 := by omega
    rw [hstart, hstart]
    obtain rfl | rfl : j = 0 ∨ j = 1 := by omega
    · decide
    · decide

/-- On a second connection with the same start nonce a frame is accepted again. -/
theorem not_acceptedOnce :
    ¬∀ (env : Env) (key : SigningKey) (app : AppState) (as : List World.Act) (w : World),
      Lts.run (World.exec env key) (.initial app) as = some w →
        ∀ e ∈ w.signed, w.AcceptedOnce env e := by
  intro h
  have hrun : ∃ w, Lts.run (World.exec Demo.env Demo.privateKey) (.initial Demo.app)
      (Demo.replayRun 0) = some w ∧ ⟨0, ⟨[7]⟩, 0, 1, [1]⟩ ∈ w.signed ∧
      w.AcceptedAt Demo.env ⟨0, ⟨[7]⟩, 0, 1, [1]⟩ 1 0 :=
    ⟨_, rfl, List.mem_singleton_self _, _, _, _, _, rfl, rfl, rfl, rfl, Demo.sign [7], rfl, rfl⟩
  obtain ⟨w, hrun, he, hat⟩ := hrun
  have hconn := (h Demo.env Demo.privateKey Demo.app _ w hrun _ he).1 1 0 hat
  exact absurd hconn (by decide)

end Devicectrl.Simple
