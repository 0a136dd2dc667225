import Devicectrl.Spec.SimpleSession
import Mathlib.Data.List.Induction

/-!
# Sessions in the runs of a Simple controller

## Key results

- `sessionInvariant`: what sessions start with and their steps preserve holds in every run
- `SessionAt.concat`: what one action of a run does to a session
- `SessionAt.later`: what every move of a session preserves, in the long run
-/

namespace Devicectrl.Simple

variable {env : Env} {key : SigningKey} {app app' : AppState} {socket socket' : Socket}
  {s s' : Session}

/-! ## Invariants of sessions -/

/-- Where the session of a connection comes from, step by step. -/
theorem Conn.session_step {c c' : Conn} {l : Conn.Label}
    (h : c.step env key app l = some (app', c')) (hs : c'.stage.session? = some s') :
    ((∀ l', l ≠ .session l') ∧ c.stage.session? = some s') ∨
      (∃ l' s, l = .session l' ∧ c.stage.session? = some s ∧
        Session.Step env key app c.socket s l' app' c'.socket s') ∨
      ∃ d publicKey sendNonce, c.stage.session? = none ∧
        lookupPublicKey app.devices d = .ok publicKey ∧
        s' = .start d publicKey c.expectedRecvNonce sendNonce := by
  -- A session step, the start of one after the hello, or neither
  cases Conn.step_cases h with
  | deliver _ _ => exact .inl ⟨nofun, hs⟩
  | hangUp _ => exact .inl ⟨nofun, hs⟩
  -- Before the hello there is no session
  | greet => cases hs
  | greetError => cases hs
  | unidentified _ => cases hs
  | identified hkey _ =>
    cases hs
    exact .inr (.inr ⟨_, _, _, rfl, hkey, rfl⟩)
  | session hstep =>
    cases hs
    exact .inr (.inl ⟨_, _, rfl, rfl, Session.step_cases hstep⟩)
  | finish _ _ => exact .inl ⟨nofun, hs⟩

/-- Every session of a run satisfies what sessions start with and their steps preserve. -/
def sessionInvariant (env : Env) (key : SigningKey) (app₀ : AppState) (I : Session → Prop)
    (hstart : ∀ d publicKey n N, lookupPublicKey app₀.devices d = .ok publicKey →
      I (.start d publicKey n N))
    (hstep : ∀ {app socket s l app' socket' s'}, app₀.SameConfig app → I s →
      Session.Step env key app socket s l app' socket' s' → I s')
    (hrecv : ∀ {s r s'}, I s → s.recvRequest env key r = some s' → I s') :
    System.RelyGuarantee (handleConn env key).system where
  shared server := app₀.SameConfig server.app
  comp _ k := ∀ s, k.conn.stage.session? = some s → I s
  rely _ _ := True
  env_ok := by
    -- Another part of the server leaves the configuration alone
    intro server e server' hs h
    have hcall : server.call e = some server' := h
    exact ⟨hs.trans (Server.call_frame hcall).1, trivial⟩
  spawn_ok := by
    -- A connection just accepted has no session, so nothing is to be shown
    intro server v server' k hs h
    obtain ⟨rfl, rfl⟩ := HandleConn.spawn_eq h
    refine ⟨hs, trivial, fun s hsession => ?_⟩
    have hnone : none = some s := hsession
    exact nomatch hnone
  step_ok := by
    intro server k l server' k' hs hk h
    refine ⟨hs.trans ((handleConn_lawful env key).turn_frame h).1, trivial, fun s' hs' => ?_⟩
    cases l with
    | own l =>
      obtain ⟨hstep', -⟩ := HandleConn.turn_own h
      -- No session step, a session step, or the first message of a device that has just told its id
      rcases Conn.session_step hstep' hs' with
        ⟨-, hs₀⟩ | ⟨l', s, -, hs₀, hst⟩ | ⟨d, pk, N, -, hkey, rfl⟩
      · exact hk s' hs₀
      · exact hstep hs (hk s hs₀) hst
      · exact hstart d pk _ N (by rwa [lookupPublicKey_congr hs] at hkey)
    | recvRequest r =>
      -- A request received is the invariant's own case
      obtain ⟨-, hr, -⟩ := HandleConn.turn_recv h
      obtain ⟨s, s₁, hstage, hr, he⟩ := Conn.recvRequest_session hr
      rw [he] at hs'
      cases hs'
      exact hrecv (hk s (by rw [hstage]; rfl)) hr
  stable _ hk := hk

/-! ## Sessions in runs -/

/-- A new connection with its start nonce, a call of the controller, or a step of a connection. -/
abbrev Act := System.Act Server.Call UInt32 (HandleConn.Label Conn.Label)

/-- A step of a session: of its loops, or a receive. -/
inductive Session.Moves (env : Env) (key : SigningKey) : Session → Session → Prop
  | step {app socket s l app' socket' s'}
      (h : Session.Step env key app socket s l app' socket' s') :
      Session.Moves env key s s'
  | recv {s r s'} (h : s.recvRequest env key r = some s') : Session.Moves env key s s'

/-- What a step of its connection does to a session. -/
inductive Session.Turn (env : Env) (key : SigningKey) (app : AppState) (s : Session) :
    HandleConn.Label Conn.Label → Session → Prop
  | step {socket l app' socket' s'} (h : Session.Step env key app socket s l app' socket' s') :
      Session.Turn env key app s (.own (.session l)) s'
  | recv {r s'} (h : s.recvRequest env key r = some s') :
      Session.Turn env key app s (.recvRequest r) s'

/-- What a session does in a turn is one of its moves. -/
theorem Session.Turn.moves {l : HandleConn.Label Conn.Label} (h : s.Turn env key app l s') :
    s.Moves env key s' := by
  cases h with
  | step h => exact .step h
  | recv h => exact .recv h

/-- After the run `as` the session of connection `i` is `s`. -/
def SessionAt (env : Env) (key : SigningKey) (app : AppState) (as : List Act) (i : Nat)
    (s : Session) : Prop :=
  ∃ st k, (handleConn env key).system.run (HandleConn.initial app) as = some st ∧
    st.comps[i]? = some k ∧ k.conn.stage.session? = some s

namespace SessionAt

variable {as bs cs : List Act} {a : Act} {i : Nat}

/-- Connection `i` has one session. -/
theorem unique (h : SessionAt env key app as i s) (h' : SessionAt env key app as i s') :
    s = s' := by
  obtain ⟨st, k, hrun, hk, hs⟩ := h
  obtain ⟨st', k', hrun', hk', hs'⟩ := h'
  obtain rfl := Option.some.inj (hrun.symm.trans hrun')
  obtain rfl := Option.some.inj (hk.symm.trans hk')
  exact Option.some.inj (hs.symm.trans hs')

/-- One action of the run is a turn of a session, starts it, or leaves it as it is. -/
theorem concat_turn (h : SessionAt env key app (as ++ [a]) i s') :
    SessionAt env key app as i s' ∨
      (∃ st k s l, (handleConn env key).system.run (HandleConn.initial app) as = some st ∧
        st.comps[i]? = some k ∧ k.conn.stage.session? = some s ∧ a = .step i l ∧
        s.Turn env key st.shared.app l s') ∨
      ((∀ s, ¬SessionAt env key app as i s) ∧ ∃ d publicKey n N, s' = .start d publicKey n N) := by
  obtain ⟨st, k', hrun, hk', hs'⟩ := h
  obtain ⟨m, hm, ha⟩ := Lts.run_concat _ hrun
  -- The connection was there before, or was accepted just now and has no session
  rcases System.exec_comp_inv ha hk' with ⟨k, hk⟩ | ⟨v, -, -, hspawn⟩
  · rcases System.exec_comp ha hk with ⟨-, hsame⟩ | ⟨l, k₁, hact, hstep, hk₁⟩
    · rw [hk'] at hsame
      cases hsame
      exact .inl ⟨m, k', hm, hk, hs'⟩
    · rw [hk'] at hk₁
      cases hk₁
      cases l with
      | own l =>
        obtain ⟨hown, -⟩ := HandleConn.turn_own hstep
        rcases Conn.session_step hown hs' with
          ⟨-, hs⟩ | ⟨l', s, rfl, hs, hst⟩ | ⟨d, pk, N, hnone, -, he⟩
        · exact .inl ⟨m, k, hm, hk, hs⟩
        · exact .inr (.inl ⟨m, k, s, _, hm, hk, hs, hact, .step hst⟩)
        · refine .inr (.inr ⟨fun s ⟨m', k₂, hm', hk₂, hs⟩ => ?_, d, pk, _, N, he⟩)
          obtain rfl := Option.some.inj (hm.symm.trans hm')
          obtain rfl := Option.some.inj (hk.symm.trans hk₂)
          rw [hnone] at hs
          exact nomatch hs
      | recvRequest r =>
        obtain ⟨-, hr, -⟩ := HandleConn.turn_recv hstep
        obtain ⟨s, s₁, hstage, hr, he⟩ := Conn.recvRequest_session hr
        rw [he] at hs'
        cases hs'
        exact .inr (.inl ⟨m, k, s, _, hm, hk, by rw [hstage]; rfl, hact, .recv hr⟩)
  · obtain ⟨-, rfl⟩ := HandleConn.spawn_eq hspawn
    have hnone : none = some s' := hs'
    exact nomatch hnone

/-- One action of the run moves a session, starts it, or leaves it as it is. -/
theorem concat (h : SessionAt env key app (as ++ [a]) i s') :
    SessionAt env key app as i s' ∨ (∃ s, SessionAt env key app as i s ∧ s.Moves env key s') ∨
      ((∀ s, ¬SessionAt env key app as i s) ∧ ∃ d publicKey n N, s' = .start d publicKey n N) := by
  rcases h.concat_turn with hs | ⟨st, k, s, l, hrun, hk, hs, -, hturn⟩ | hstart
  · exact .inl hs
  · exact .inr (.inl ⟨s, ⟨st, k, hrun, hk, hs⟩, hturn.moves⟩)
  · exact .inr (.inr hstart)

/-- A step of a connection that has a session is a turn of it, or none of its loops'. -/
theorem turn_of {st : System.State Server (Connection Conn)} {k : Connection Conn}
    {l : HandleConn.Label Conn.Label}
    (hrun : (handleConn env key).system.run (HandleConn.initial app) as = some st)
    (hk : st.comps[i]? = some k) (hs : k.conn.stage.session? = some s)
    (h' : SessionAt env key app (as ++ [.step i l]) i s') :
    s.Turn env key st.shared.app l s' ∨ ∃ l', l = .own l' ∧ ∀ l'', l' ≠ .session l'' := by
  obtain ⟨st', k', hrun', hk', hs'⟩ := h'
  obtain ⟨m, hm, ha⟩ := Lts.run_concat _ hrun'
  obtain rfl := Option.some.inj (hrun.symm.trans hm)
  -- It is connection `i` that takes the turn, and no other
  rcases System.exec_comp ha hk with ⟨hne, -⟩ | ⟨l', k₁, he, hstep, hk₁⟩
  · exact absurd rfl (hne l)
  · cases he
    rw [hk'] at hk₁
    cases hk₁
    cases l with
    | own l =>
      obtain ⟨hown, -⟩ := HandleConn.turn_own hstep
      -- A step without a session keeps it; to start one there must have been none
      rcases Conn.session_step hown hs' with ⟨hl, -⟩ | ⟨l', s₁, rfl, hs₁, hst⟩ | ⟨_, _, _, hnone, -⟩
      · exact .inr ⟨l, rfl, hl⟩
      · rw [hs] at hs₁
        cases hs₁
        exact .inl (.step hst)
      · rw [hs] at hnone
        exact nomatch hnone
    | recvRequest r =>
      obtain ⟨-, hr, -⟩ := HandleConn.turn_recv hstep
      obtain ⟨s₁, s₂, hstage, hr, he⟩ := Conn.recvRequest_session hr
      rw [hstage] at hs
      rw [he] at hs'
      cases hs
      cases hs'
      exact .inl (.recv hr)

/-- A connection that has a session keeps one. -/
theorem persists {st' : System.State Server (Connection Conn)} (h : SessionAt env key app as i s)
    (hrun : (handleConn env key).system.run (HandleConn.initial app) (as ++ [a]) = some st') :
    ∃ s', SessionAt env key app (as ++ [a]) i s' := by
  obtain ⟨st, k, hst, hk, hs⟩ := h
  obtain ⟨m, hm, ha⟩ := Lts.run_concat _ hrun
  obtain rfl := Option.some.inj (hst.symm.trans hm)
  -- A session shows in the device of its connection, which stays
  have hdevice : (handleConn env key).device k.conn = some s.deviceId := by
    show k.conn.stage.session?.map Session.deviceId = some s.deviceId
    rw [hs, Option.map_some]
  rcases System.exec_comp ha hk with ⟨-, hk'⟩ | ⟨l, k', -, hstep, hk'⟩
  · exact ⟨s, st', k, hrun, hk', hs⟩
  · have hdevice' : (handleConn env key).device k'.conn = some s.deviceId := by
      cases l with
      | own l =>
        obtain ⟨hown, -⟩ := HandleConn.turn_own hstep
        exact (handleConn_lawful env key).step_device hown hdevice
      | recvRequest r =>
        obtain ⟨-, hr, -⟩ := HandleConn.turn_recv hstep
        obtain ⟨d, hd, hd'⟩ := (handleConn_lawful env key).recv_device hr
        rw [hdevice] at hd
        rw [hd', ← hd]
    obtain ⟨s', hs', -⟩ := Option.map_eq_some_iff.mp hdevice'
    exact ⟨s', st', k', hrun, hk', hs'⟩

/-- A session is still there, further on, in a longer run. -/
theorem exists_later {st' : System.State Server (Connection Conn)}
    (h : SessionAt env key app as i s)
    (hrun : (handleConn env key).system.run (HandleConn.initial app) (as ++ bs) = some st') :
    ∃ s', SessionAt env key app (as ++ bs) i s' := by
  induction bs using List.reverseRecOn generalizing st' with
  | nil => exact ⟨s, by rwa [List.append_nil]⟩
  | append_singleton bs b ih =>
    rw [← List.append_assoc] at hrun ⊢
    obtain ⟨m, hm, -⟩ := Lts.run_concat _ hrun
    obtain ⟨s₁, hs₁⟩ := ih hm
    exact hs₁.persists hrun

/-- What every move of a session preserves, in the long run. -/
theorem later {R : Session → Session → Prop} (hrefl : ∀ s, R s s)
    (htrans : ∀ {s₁ s₂ s₃}, R s₁ s₂ → R s₂ s₃ → R s₁ s₃)
    (hmove : ∀ {s₁ s₂}, s₁.Moves env key s₂ → R s₁ s₂)
    (h : SessionAt env key app as i s) (h' : SessionAt env key app (as ++ bs) i s') : R s s' := by
  -- On the later turns
  induction bs using List.reverseRecOn generalizing s' with
  | nil =>
    rw [List.append_nil] at h'
    rw [h.unique h']
    exact hrefl s'
  | append_singleton bs b ih =>
    rw [← List.append_assoc] at h'
    -- The last turn leaves the session, moves it, or starts it
    rcases h'.concat with hs | ⟨s₁, hs, hmv⟩ | ⟨hnone, -⟩
    · exact ih hs
    · exact htrans (ih hs) (hmove hmv)
    · -- a session that was there all along is not started again
      obtain ⟨st', -, hrun, -⟩ := h'
      obtain ⟨m, hm, -⟩ := Lts.run_concat _ hrun
      obtain ⟨s₁, hs₁⟩ := h.exists_later hm
      exact absurd hs₁ (hnone s₁)

end SessionAt

end Devicectrl.Simple

/-! ## A small configuration

Two devices and one-byte payloads, for runs that show the hypotheses of a result met. -/

namespace Devicectrl.Simple.Demo

def lamp : DeviceId := ⟨"lamp"⟩

def fan : DeviceId := ⟨"fan"⟩

def device (id : DeviceId) : Device :=
  ⟨id, .switch, .unknown, .simple ⟨⟨[7]⟩⟩⟩

def devices : Devices :=
  AList.insert lamp (device lamp) (AList.insert fan (device fan) ∅)

def controllers : Controllers := ⟨true, false, false, false⟩

def app : AppState := .new devices controllers

def privateKey : SigningKey := ⟨[9]⟩

/-- The lamp reports that it is on. -/
def report : UpdateNotification := ⟨lamp, true, .switch ⟨.on⟩⟩

/-- A signature repeats the first byte of the key. -/
def sign (bytes : List UInt8) : List UInt8 :=
  List.replicate 64 (bytes.headD 0)

/-- Payload `[0]` identifies the lamp, and payload `[1]` reports it. -/
def env : Env where
  SIGNATURE_LEN := 64
  signatureFromSlice bytes := .ok ⟨bytes⟩
  verify publicKey _ signature :=
    if signature.bytes = sign publicKey.bytes then .ok () else .error ["signature error"]
  trySign privateKey _ := .ok ⟨sign privateKey.bytes⟩
  fromSlice
    | [0] => .ok (.identify lamp)
    | [1] => .ok (.updateNotification report)
    | _ => .error ["expected value"]
  toVec
    | .updateCommand _ => .ok [1]
    | .stateQuery _ => .ok [2]
    | .failure _ => .ok [3]
    | .other _ => .ok [4]

/-- The frame of payload `[1]` under a nonce, signed by a device. -/
def reportFrame (nonce : UInt32) : List UInt8 :=
  be32 nonce ++ be32 1 ++ [1] ++ sign [7]

/-- Connection `i` is at its select, as the lamp. -/
def connect (i : Nat) : List Act :=
  [.spawn 0, .step i (.own (.greet (.ok ()))), .step i (.own (.deliver (be32 5 ++ be32 1 ++ [0]))),
    .step i (.own .identify)]

end Devicectrl.Simple.Demo
