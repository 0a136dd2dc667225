import Devicectrl.Spec.KryptonConn
import Devicectrl.Spec.RequestBroadcast
import Devicectrl.Spec.SimpleLifetime
import Mathlib.Data.List.Induction

/-!
# Interference through the request broadcast

The abstract view of a connection is that of a private mailbox: an unbounded queue of the
requests for its own device. While it does not lag, a connection behaves as if it had one,
so traffic for other devices makes no difference to it.

## Key results

- `Tracks.run`: a connection that does not lag refines the connection with a mailbox
- `independent_unless_lagged`: runs that differ in the traffic for other devices only leave
  a connection in the same state
-/

namespace Devicectrl

namespace HandleConn

variable {κ ν ℓ : Type}

/-! ## What a connection sees of a run -/

/-- What matters to a connection, with the contents of the requests it receives left out. -/
inductive Event (ν ℓ : Type) where
  | accept (v : ν)
  | request (m : DeviceBoundMessage)
  | own (l : ℓ)
  | receive
  deriving DecidableEq

/-- An action as connection `c` of device `d` sees it. -/
def view (c : Nat) (d : DeviceId) : System.Act Server.Call ν (Label ℓ) → Option (Event ν ℓ)
  | .env call =>
    match call.request? with
    | some m => if m.requestDevice = some d then some (.request m) else none
    | none => none
  | .spawn v => some (.accept v)
  | .step i (.own l) => if i = c then some (.own l) else none
  | .step i (.recvRequest (.ok m)) =>
    if i = c ∧ m.requestDevice = some d then some .receive else none
  | .step _ (.recvRequest (.error _)) => none

/-- The runs differ, to connection `c` of device `d`, in the calls for other devices and in
its receiving them, and otherwise in the steps of other connections and tasks only. -/
def SameView (c : Nat) (d : DeviceId) (as bs : List (System.Act Server.Call ν (Label ℓ))) : Prop :=
  as.filterMap (view c d) = bs.filterMap (view c d)

/-- The receiver of connection `c` is never told that it lags. -/
def NoLag (c : Nat) (as : List (System.Act Server.Call ν (Label ℓ))) : Prop :=
  ∀ e, .step c (.recvRequest (.error e)) ∉ as

/-- Of the runs `P` allows, any two that a connection of device `d` cannot tell apart leave it
with the same messages written, and open in both or in neither. -/
def IndependentOn (H : HandleConn κ ν ℓ) (app : AppState)
    (P : Nat → List (System.Act Server.Call ν (Label ℓ)) → Prop) : Prop :=
  ∀ c d as bs st st' k, P c as → P c bs →
    H.system.run (HandleConn.initial app) as = some st →
    H.system.run (HandleConn.initial app) bs = some st' → SameView c d as bs →
    st.comps[c]? = some k → H.device k.conn = some d →
      ∃ k', st'.comps[c]? = some k' ∧ H.device k'.conn = some d ∧
        H.written k'.conn = H.written k.conn ∧ H.isOpen k'.conn = H.isOpen k.conn

/-! ## A connection with a mailbox -/

/-- Connection `c` with its mailbox, once `c` connections were accepted before it. -/
structure Mailbox (κ : Type) where
  accepted : Nat
  conn : Option (κ × List DeviceBoundMessage)

/-- The connection reads the first request of its mailbox, which nobody else fills or empties. -/
def mailbox (H : HandleConn κ ν ℓ) (app : AppState) (c : Nat) (mb : Mailbox κ) :
    Event ν ℓ → Option (Mailbox κ)
  | .accept v =>
    some { accepted := mb.accepted + 1
           -- Only the `c`-th connection has this mailbox
           conn := if mb.accepted = c then some (H.start v, []) else mb.conn }
  | .request m => some { mb with conn := mb.conn.map fun p => (p.1, p.2 ++ [m]) }
  | .own l =>
    match mb.conn with
    | none => none
    | some (conn, box) =>
      -- The state of the server does not come into it: the lookups read what no run changes
      (H.step app conn l).map fun p => { mb with conn := some (p.2, box) }
  | .receive =>
    match mb.conn with
    | some (conn, m :: box) =>
      (H.recvRequest conn (.ok m)).map fun conn' => { mb with conn := some (conn', box) }
    | _ => none

variable {H : HandleConn κ ν ℓ} {app : AppState} {c : Nat} {d : DeviceId}
  {st st' : System.State Server (Connection κ)} {mb mb' : Mailbox κ}
  {as : List (System.Act Server.Call ν (Label ℓ))} {a : System.Act Server.Call ν (Label ℓ)}

/-- The mailbox holds the unread requests for the device. -/
structure Matches (app : AppState) (c : Nat) (d : DeviceId)
    (st : System.State Server (Connection κ)) (mb : Mailbox κ) : Prop where
  config : app.SameConfig st.shared.app
  accepted : mb.accepted = st.comps.length
  conn : mb.conn = st.comps[c]?.map fun k =>
    (k.conn, requestsFor d (st.shared.controller.requestSender.unread k.requestReceiver))

/-- Connection `c` is not identified as a device other than `d`. -/
def MayBe (H : HandleConn κ ν ℓ) (c : Nat) (d : DeviceId)
    (st : System.State Server (Connection κ)) : Prop :=
  ∀ k, st.comps[c]? = some k → H.device k.conn = none ∨ H.device k.conn = some d

/-- The connection with the mailbox is one of another device. -/
def Off (H : HandleConn κ ν ℓ) (c : Nat) (d : DeviceId) (mb : Mailbox κ) : Prop :=
  c < mb.accepted ∧ ∃ conn box d', mb.conn = some (conn, box) ∧ H.device conn = some d' ∧ d' ≠ d

/-- Before connection `c` is accepted the mailbox is empty. -/
theorem Matches.initial (app : AppState) (c : Nat) (d : DeviceId) :
    Matches app c d (HandleConn.initial app : System.State Server (Connection κ)) ⟨0, none⟩ :=
  ⟨.refl app, rfl, rfl⟩

/-- A call of the controller fills the mailbox, if it requests something of the device. -/
theorem Matches.env (hH : H.Lawful) (hs : H.Subscribed st) (hm : Matches app c d st mb)
    {call : Server.Call} (h : H.system.exec st (.env call) = some st') :
    ∃ mb', Lts.run (H.mailbox app c) mb
        (view c d (.env call : System.Act Server.Call ν (Label ℓ))).toList = some mb' ∧
      Matches app c d st' mb' := by
  have hcall : st.shared.call call = some st'.shared := (System.exec_env h).1
  have hcomps := (System.exec_env h).2
  have hconfig := hm.config.trans (Server.call_frame hcall).1
  have hsent := hs.exec_sent hH h
  -- A request goes to the end of what each connection has yet to read
  have hunread : ∀ k ∈ st.comps,
      st'.shared.controller.requestSender.unread k.requestReceiver =
        st.shared.controller.requestSender.unread k.requestReceiver ++
          requests [(.env call : System.Act Server.Call ν (Label ℓ))] := by
    intro k hk
    rw [Broadcast.Channel.unread, hsent, List.drop_append_of_le_length (hs.next k hk)]
    rfl
  cases hr : call.request? with
  | none =>
    refine ⟨mb, by simp [view, hr], hconfig, by rw [hm.accepted, hcomps], ?_⟩
    rw [hm.conn, hcomps]
    cases hk : st.comps[c]? with
    | none => rfl
    | some k =>
      simp only [Option.map_some]
      rw [hunread k (List.mem_of_getElem? hk)]
      simp [requests, hr]
  | some m =>
    have hreq : requests [(.env call : System.Act Server.Call ν (Label ℓ))] = [m] := by
      simp [requests, hr]
    by_cases hmd : m.requestDevice = some d
    · refine ⟨{ mb with conn := mb.conn.map fun p => (p.1, p.2 ++ [m]) }, ?_, hconfig,
        by rw [hcomps]; exact hm.accepted, ?_⟩
      · simp [view, hr, hmd, Lts.run, mailbox]
      · simp only [hm.conn, hcomps]
        cases hk : st.comps[c]? with
        | none => rfl
        | some k =>
          simp only [Option.map_some]
          rw [hunread k (List.mem_of_getElem? hk), hreq, requestsFor_append, requestsFor_own hmd]
    · refine ⟨mb, by simp [view, hr, hmd], hconfig, by rw [hm.accepted, hcomps], ?_⟩
      rw [hm.conn, hcomps]
      cases hk : st.comps[c]? with
      | none => rfl
      | some k =>
        simp only [Option.map_some]
        rw [hunread k (List.mem_of_getElem? hk), hreq, requestsFor_append,
          requestsFor_foreign hmd, List.append_nil]

/-- A connection that is accepted is an event for all of them, which are numbered by it. -/
theorem Matches.spawn (hm : Matches app c d st mb) {v : ν}
    (h : H.system.exec st (.spawn v) = some st') :
    ∃ mb', Lts.run (H.mailbox app c) mb
        (view c d (.spawn v : System.Act Server.Call ν (Label ℓ))).toList = some mb' ∧
      Matches app c d st' mb' := by
  obtain ⟨k, he, hcomps⟩ := System.exec_spawn h
  obtain ⟨hsh, rfl⟩ := spawn_eq he
  have happ : st'.shared.app = st.shared.app := by rw [hsh]; rfl
  have hunread : ∀ rx, st'.shared.controller.requestSender.unread rx =
      st.shared.controller.requestSender.unread rx := by
    intro rx
    rw [hsh]
    rfl
  refine ⟨_, rfl, by rw [happ]; exact hm.config, ?_, ?_⟩
  · simp [hm.accepted, hcomps]
  · simp only [hm.conn, hunread, hcomps]
    -- Connection `c` is an older one, this one, or yet to come
    rcases Nat.lt_trichotomy c st.comps.length with hc | hc | hc
    · rw [List.getElem?_append_left hc, if_neg (by rw [hm.accepted]; omega)]
    · subst hc
      rw [if_pos hm.accepted, List.getElem?_concat_length]
      simp [Broadcast.Channel.unread]
    · rw [if_neg (by rw [hm.accepted]; omega), List.getElem?_eq_none (by omega),
        List.getElem?_eq_none (by simp; omega)]

/-- The steps of connection `c` are its own, but for requests of other devices. -/
theorem Matches.turn (hH : H.Lawful) (hm : Matches app c d st mb) (hd : MayBe H c d st)
    {l : Label ℓ} (hlag : ∀ e, l ≠ .recvRequest (.error e)) {k k' : Connection κ}
    (hk : st.comps[c]? = some k) (hk' : st'.comps[c]? = some k')
    (hlength : st'.comps.length = st.comps.length)
    (hturn : H.turn st.shared k l = some (st'.shared, k')) :
    ∃ mb', Lts.run (H.mailbox app c) mb
        (view c d (.step c l : System.Act Server.Call ν (Label ℓ))).toList = some mb' ∧
      Matches app c d st' mb' := by
  obtain ⟨hcfg, -, hsent⟩ := hH.turn_frame hturn
  have hconfig := hm.config.trans hcfg
  have haccepted : mb.accepted = st'.comps.length := by rw [hm.accepted, hlength]
  have hunread := Broadcast.Channel.unread_of_sent_eq hsent
  have hconn : mb.conn = some (k.conn,
      requestsFor d (st.shared.controller.requestSender.unread k.requestReceiver)) := by
    rw [hm.conn, hk]
    rfl
  cases l with
  | own l =>
    obtain ⟨hown, hkeep, -⟩ := turn_own hturn
    -- The connection acts on the configuration, which has not changed
    obtain ⟨app₁, hown'⟩ := hH.step_congr hm.config.symm hown
    have hrx : k'.requestReceiver = k.requestReceiver := by rw [hkeep]
    refine ⟨{ mb with conn := some (k'.conn, requestsFor d
      (st.shared.controller.requestSender.unread k.requestReceiver)) }, ?_, hconfig,
      haccepted, ?_⟩
    · simp [view, Lts.run, mailbox, hconn, hown']
    · simp only [hk', Option.map_some, hunread, hrx]
  | recvRequest r =>
    obtain ⟨hrecv, hr, -, -⟩ := turn_recv hturn
    cases r with
    | error e => exact absurd rfl (hlag e)
    | ok m =>
      obtain ⟨-, -, hcons, -⟩ := Broadcast.Channel.recv_ok hrecv
      obtain ⟨d', hd', -⟩ := hH.recv_device hr
      -- An identified connection is one of device `d`
      obtain rfl : d' = d := by
        rcases hd k hk with hnone | hsome
        · rw [hd'] at hnone; cases hnone
        · rw [hd'] at hsome; exact Option.some.inj hsome
      by_cases hmd : m.requestDevice = some d'
      · refine ⟨{ mb with conn := some (k'.conn, requestsFor d'
          (st.shared.controller.requestSender.unread k'.requestReceiver)) }, ?_, hconfig,
          haccepted, ?_⟩
        · rw [hcons, ← List.singleton_append, requestsFor_append, requestsFor_own hmd] at hconn
          simp [view, hmd, Lts.run, mailbox, hconn, hr]
        · simp only [hk', Option.map_some, hunread]
      · refine ⟨mb, by simp [view, hmd], hconfig, haccepted, ?_⟩
        -- A foreign request is skipped, and was never in the mailbox
        have hsame := hH.recv_foreign hr (by rw [hd']; exact fun he => hmd he.symm)
        rw [hcons, ← List.singleton_append, requestsFor_append,
          requestsFor_foreign hmd] at hconn
        rw [hconn, hk', Option.map_some, hunread, hsame, List.nil_append]

/-- One action of the controller is the event the connection sees of it, or none. -/
theorem Matches.exec (hH : H.Lawful) (hs : H.Subscribed st) (hm : Matches app c d st mb)
    (hd : MayBe H c d st) (hlag : ∀ e, a ≠ .step c (.recvRequest (.error e)))
    (h : H.system.exec st a = some st') :
    ∃ mb', Lts.run (H.mailbox app c) mb (view c d a).toList = some mb' ∧
      Matches app c d st' mb' := by
  cases a with
  -- By whose action it is: of the controller, of a new connection or of a connection
  | env call => exact hm.env hH hs h
  | spawn v => exact hm.spawn h
  | step i l =>
    obtain ⟨k, k', hk, hstep, hcomps⟩ := System.exec_step h
    have hturn : H.turn st.shared k l = some (st'.shared, k') := hstep
    have hlength : st'.comps.length = st.comps.length := by rw [hcomps, List.length_set]
    by_cases hi : i = c
    · subst hi
      -- Its own step is an event of the mailbox
      have hk' : st'.comps[i]? = some k' := by
        rw [hcomps, List.getElem?_set_self (List.getElem?_eq_some_iff.mp hk).1]
      exact hm.turn hH hd (fun e he => hlag e (he ▸ rfl)) hk hk' hlength hturn
    · -- a step of another connection, which connection `c` does not see
      obtain ⟨hcfg, -, hsent⟩ := hH.turn_frame hturn
      refine ⟨mb, ?_, hm.config.trans hcfg, by rw [hm.accepted, hlength], ?_⟩
      · cases l with
        | own l => simp [view, hi]
        | recvRequest r =>
          cases r with
          | ok m => simp [view, hi]
          | error e => simp [view]
      · -- nothing is broadcast, so nothing new is unread
        have hunread := Broadcast.Channel.unread_of_sent_eq hsent
        simp only [hm.conn, hcomps, List.getElem?_set_ne hi, hunread]

/-- A connection with a mailbox keeps its device. -/
theorem Off.event (hH : H.Lawful) {e : Event ν ℓ} (ho : H.Off c d mb)
    (h : H.mailbox app c mb e = some mb') : H.Off c d mb' := by
  obtain ⟨hc, conn, box, d', hconn, hd, hne⟩ := ho
  cases e with
  | accept v =>
    cases h
    -- Later connections have other indices
    exact ⟨Nat.lt_succ_of_lt hc, conn, box, d', by rw [if_neg (by omega)]; exact hconn, hd, hne⟩
  | request m =>
    cases h
    exact ⟨hc, conn, box ++ [m], d', by rw [hconn]; rfl, hd, hne⟩
  | own l =>
    simp only [mailbox, hconn] at h
    obtain ⟨p, hp, rfl⟩ := Option.map_eq_some_iff.mp h
    -- The device stays the one that was identified
    exact ⟨hc, p.2, box, d', rfl, hH.step_device hp hd, hne⟩
  | receive =>
    cases box with
    | nil => simp only [mailbox, hconn] at h; exact nomatch h
    | cons m box =>
      simp only [mailbox, hconn] at h
      obtain ⟨conn', hr, rfl⟩ := Option.map_eq_some_iff.mp h
      obtain ⟨d₁, hd₁, hd₁'⟩ := hH.recv_device hr
      rw [hd] at hd₁
      exact ⟨hc, conn', box, d', rfl, hd₁'.trans hd₁.symm, hne⟩

/-- Whatever it does, a connection of another device stays one. -/
theorem Off.run (hH : H.Lawful) {es : List (Event ν ℓ)} (ho : H.Off c d mb)
    (h : Lts.run (H.mailbox app c) mb es = some mb') : H.Off c d mb' :=
  Lts.run_invariant (H.mailbox app c) (fun _ _ _ ho he => Off.event hH ho he) h ho

/-- A connection that is identified as another device stays so. -/
theorem MayBe.of_exec (hH : H.Lawful) (h : H.system.exec st a = some st') (hd : H.MayBe c d st') :
    H.MayBe c d st := by
  intro k hk
  cases hdev : H.device k.conn with
  | none => exact .inl rfl
  | some d' =>
    right
    -- An identified connection keeps its device through the action
    have hkeeps : ∃ k', st'.comps[c]? = some k' ∧ H.device k'.conn = some d' := by
      rcases System.exec_comp h hk with ⟨-, hk'⟩ | ⟨l, k', -, hstep, hk'⟩
      · exact ⟨k, hk', hdev⟩
      · have hturn : H.turn st.shared k l = some (st'.shared, k') := hstep
        refine ⟨k', hk', ?_⟩
        cases l with
        | own l => exact hH.step_device (turn_own hturn).1 hdev
        | recvRequest r =>
          obtain ⟨d₁, hd₁, hd₁'⟩ := hH.recv_device (turn_recv hturn).2.1
          rw [hdev] at hd₁
          exact hd₁'.trans hd₁.symm
    obtain ⟨k', hk', hdev'⟩ := hkeeps
    rcases hd k' hk' with hnone | hsome
    · rw [hdev'] at hnone; exact nomatch hnone
    · rw [← hdev', hsome]

/-- Either the run is that of a connection with a mailbox, or that connection, if there is
such a run, is of another device than `d`. -/
def Tracks (H : HandleConn κ ν ℓ) (app : AppState) (c : Nat) (d : DeviceId)
    (st : System.State Server (Connection κ)) (run : Option (Mailbox κ)) : Prop :=
  (H.MayBe c d st ∧ ∃ mb, run = some mb ∧ Matches app c d st mb) ∨
    (¬H.MayBe c d st ∧ ∀ mb, run = some mb → H.Off c d mb)

/-- A connection that does not lag refines the connection with a mailbox. -/
theorem Tracks.run (hH : H.Lawful) (hlag : NoLag c as)
    (h : H.system.run (HandleConn.initial app) as = some st) :
    H.Tracks app c d st (Lts.run (H.mailbox app c) ⟨0, none⟩ (as.filterMap (view c d))) := by
  induction as using List.reverseRecOn generalizing st with
  | nil =>
    cases h
    exact .inl ⟨fun k hk => (nomatch hk), _, rfl, .initial app c d⟩
  | append_singleton as a ih =>
    obtain ⟨m, hm, ha⟩ := Lts.run_concat _ h
    have hlag' : NoLag c as := fun e he => hlag e (List.mem_append_left _ he)
    have hne : ∀ e, a ≠ .step c (.recvRequest (.error e)) := fun e he =>
      hlag e (by rw [he]; exact List.mem_append_right _ (List.mem_singleton_self _))
    have hview : (as ++ [a]).filterMap (view c d) =
        as.filterMap (view c d) ++ (view c d a).toList := by
      rw [List.filterMap_append]
      cases hv : view c d a <;> simp [hv]
    rw [hview, Lts.run_append]
    rcases ih hlag' hm with ⟨hd, mb, hmb, hmatch⟩ | ⟨hd, hoff⟩
    · obtain ⟨mb', hmb', hmatch'⟩ := hmatch.exec hH (Subscribed.run hH hm) hd hne ha
      rw [hmb, Option.bind_some, hmb']
      by_cases hd' : H.MayBe c d st
      · exact .inl ⟨hd', mb', rfl, hmatch'⟩
      · refine .inr ⟨hd', fun mb₁ he => ?_⟩
        cases he
        -- It was identified as another device just now
        simp only [MayBe, not_forall, not_or] at hd'
        obtain ⟨k, hk, hnone, hne'⟩ := hd'
        obtain ⟨d', hdev⟩ := Option.ne_none_iff_exists'.mp hnone
        refine ⟨?_, k.conn, _, d', by rw [hmatch'.conn, hk]; rfl, hdev, fun he => ?_⟩
        · rw [hmatch'.accepted]
          exact (List.getElem?_eq_some_iff.mp hk).1
        · rw [he] at hdev
          exact hne' hdev
    · refine .inr ⟨fun hd' => hd (hd'.of_exec hH ha), fun mb' hmb' => ?_⟩
      obtain ⟨mb, hmb, hrest⟩ := Option.bind_eq_some_iff.mp hmb'
      exact (hoff mb hmb).run hH hrest

/-- Runs that a connection cannot tell apart, and in which it does not lag, leave it in the
same state. -/
theorem Lawful.same_conn (hH : H.Lawful) {bs : List (System.Act Server.Call ν (Label ℓ))}
    (has : NoLag c as) (hbs : NoLag c bs)
    (h : H.system.run (HandleConn.initial app) as = some st)
    (h' : H.system.run (HandleConn.initial app) bs = some st') (hview : SameView c d as bs)
    {k : Connection κ} (hk : st.comps[c]? = some k) (hd : H.device k.conn = some d) :
    ∃ k', st'.comps[c]? = some k' ∧ k'.conn = k.conn := by
  -- The connection is of device `d` or has not identified itself
  have hmay : H.MayBe c d st := fun k₁ hk₁ => by
    rw [hk] at hk₁
    cases hk₁
    exact .inr hd
  have htracks := Tracks.run hH (d := d) has h
  have htracks' := Tracks.run hH (d := d) hbs h'
  rw [← hview] at htracks'
  -- The first run keeps track of the mailbox, and so does the second, of the same events
  rcases htracks with ⟨-, mb, hmb, hmatch⟩ | ⟨hno, -⟩
  · have hconn : mb.conn = some (k.conn, requestsFor d
        (st.shared.controller.requestSender.unread k.requestReceiver)) := by
      rw [hmatch.conn, hk]
      rfl
    rcases htracks' with ⟨-, mb', hmb', hmatch'⟩ | ⟨-, hoff⟩
    · -- both runs end with the same mailbox
      obtain rfl := Option.some.inj (hmb.symm.trans hmb')
      rw [hmatch'.conn] at hconn
      obtain ⟨k', hk', he⟩ := Option.map_eq_some_iff.mp hconn
      exact ⟨k', hk', (Prod.mk.inj he).1⟩
    · -- the other run cannot have identified it as another device
      obtain ⟨-, conn, box, d', hconn', hd', hne⟩ := hoff mb hmb
      rw [hconn] at hconn'
      cases hconn'
      rw [hd] at hd'
      exact absurd (Option.some.inj hd').symm hne
  · exact absurd hmay hno

/-- A connection that does not lag is independent of the traffic for other devices. -/
theorem Lawful.independent (hH : H.Lawful) (app : AppState) : H.IndependentOn app NoLag := by
  intro c d as bs st st' k has hbs h h' hview hk hd
  obtain ⟨k', hk', he⟩ := hH.same_conn has hbs h h' hview hk hd
  exact ⟨k', hk', by rw [he, hd], by rw [he], by rw [he]⟩

end HandleConn

/-- Of the runs in which a Simple or Krypton connection does not lag, any two that differ for
it in the traffic for other devices only leave it with the same messages written, and open in
both or in neither. -/
theorem independent_unless_lagged :
    (∀ env key app, (Simple.handleConn env key).IndependentOn app HandleConn.NoLag) ∧
      ∀ env globalConfig deviceCerts app,
        (Krypton.handleConn env globalConfig deviceCerts).IndependentOn app HandleConn.NoLag :=
  ⟨fun env key app => (Simple.handleConn_lawful env key).independent app,
    fun env globalConfig deviceCerts app =>
      (Krypton.handleConn_lawful env globalConfig deviceCerts).independent app⟩

/-! ## Runs of the Simple controller

The lamp is connected, and the fan is not.
-/

namespace Simple.Demo

/-- The lamp is switched on: the request is received, and written in two parts. -/
def lampOn : List Act :=
  [.env (.sendUpdate ⟨lamp, .power .on⟩),
    .step 0 (.recvRequest (.ok (.updateCommand ⟨lamp, .power .on⟩))),
    .step 0 (.own (.session (.write (.ok 70)))), .step 0 (.own (.session (.write (.ok 3))))]

/-- A request for the fan, which the lamp's connection receives and skips. -/
def fanOn : List Act :=
  [.env (.sendUpdate ⟨fan, .power .on⟩),
    .step 0 (.recvRequest (.ok (.updateCommand ⟨fan, .power .on⟩)))]

/-- Sixty-five requests for the fan are sent before the one for the lamp, and no connection is
scheduled meanwhile. -/
def flood : List Act :=
  List.replicate 65 (.env (.sendUpdate ⟨fan, .power .on⟩)) ++
    [.env (.sendUpdate ⟨lamp, .power .on⟩)]

end Simple.Demo

section

open Simple.Demo

/-- A request for the fan comes first in one of two runs, and the lamp is sent the same. -/
theorem independent_unless_lagged_demo :
    ∃ (st st' : System.State Server (Connection Simple.Conn)) (k k' : Connection Simple.Conn),
      (Simple.handleConn env privateKey).system.run (HandleConn.initial app)
          (connect 0 ++ lampOn) = some st ∧
        (Simple.handleConn env privateKey).system.run (HandleConn.initial app)
          (connect 0 ++ (fanOn ++ lampOn)) = some st' ∧
        st.comps[0]? = some k ∧ st'.comps[0]? = some k' ∧
        (Simple.handleConn env privateKey).written k.conn ≠ [] ∧
        (Simple.handleConn env privateKey).written k'.conn =
          (Simple.handleConn env privateKey).written k.conn := by
  have hrun : ∃ st st' k,
      (Simple.handleConn env privateKey).system.run (HandleConn.initial app)
          (connect 0 ++ lampOn) = some st ∧
        (Simple.handleConn env privateKey).system.run (HandleConn.initial app)
          (connect 0 ++ (fanOn ++ lampOn)) = some st' ∧
        st.comps[0]? = some k ∧ (Simple.handleConn env privateKey).device k.conn = some lamp ∧
        (Simple.handleConn env privateKey).written k.conn ≠ [] :=
    ⟨_, _, _, rfl, rfl, rfl, rfl, List.cons_ne_nil _ _⟩
  obtain ⟨st, st', k, hst, hst', hk, hd, hwritten⟩ := hrun
  -- Neither run lags, and to the lamp's connection they look the same
  obtain ⟨k', hk', -, hsame, -⟩ := independent_unless_lagged.1 env privateKey app 0 lamp
    (connect 0 ++ lampOn) (connect 0 ++ (fanOn ++ lampOn)) st st' k
    (by simp [HandleConn.NoLag, connect, lampOn])
    (by simp [HandleConn.NoLag, connect, lampOn, fanOn]) hst hst' rfl hk hd
  exact ⟨st, st', k, k', hst, hst', hk, hk', hwritten, hsame⟩

set_option maxRecDepth 4000 in
/-- The request for the lamp is written. After the requests for the fan the lamp's connection can
receive nothing but the error that it lags, and then nothing is ever written to the lamp. -/
theorem not_independent :
    (∃ (st : System.State Server (Connection Simple.Conn)) (k : Connection Simple.Conn),
      (Simple.handleConn env privateKey).system.run (HandleConn.initial app)
          (connect 0 ++ lampOn) = some st ∧
        st.comps[0]? = some k ∧ (Simple.handleConn env privateKey).written k.conn ≠ []) ∧
      ((Simple.handleConn env privateKey).system.run (HandleConn.initial app)
        (connect 0 ++ flood ++ [.step 0 (.recvRequest (.error (.lagged 2)))])).isSome ∧
      (∀ r st, (Simple.handleConn env privateKey).system.run (HandleConn.initial app)
          (connect 0 ++ flood ++ [.step 0 (.recvRequest r)]) = some st →
        r = .error (.lagged 2)) ∧
      ∀ bs st k, (Simple.handleConn env privateKey).system.run (HandleConn.initial app)
          (connect 0 ++ flood ++ [.step 0 (.recvRequest (.error (.lagged 2)))] ++ bs) = some st →
        st.comps[0]? = some k → (Simple.handleConn env privateKey).written k.conn = [] := by
  refine ⟨⟨_, _, rfl, rfl, List.cons_ne_nil _ _⟩, rfl, ?_, ?_⟩
  · intro r st h
    obtain ⟨m, hm, ha⟩ := Lts.run_concat _ h
    have hstate : ∃ st₀ k₀ rx, (Simple.handleConn env privateKey).system.run
        (HandleConn.initial app) (connect 0 ++ flood) = some st₀ ∧ st₀.comps[0]? = some k₀ ∧
        st₀.shared.controller.requestSender.recv k₀.requestReceiver =
          some (.error (.lagged 2), rx) :=
      ⟨_, _, _, rfl, rfl, rfl⟩
    obtain ⟨st₀, k₀, rx, hst₀, hk₀, hlag⟩ := hstate
    obtain rfl := Option.some.inj (hst₀.symm.trans hm)
    obtain ⟨k, k', hk, hturn, -⟩ := System.exec_step ha
    obtain rfl := Option.some.inj (hk₀.symm.trans hk)
    have hrecv := (HandleConn.turn_recv hturn).1
    rw [hlag] at hrecv
    exact (Prod.mk.inj (Option.some.inj hrecv)).1.symm
  · intro bs st k h hk
    -- The error has ended the select loop, which stays so
    have hlagged : ∃ s, Simple.SessionAt env privateKey app
        (connect 0 ++ flood ++ [.step 0 (.recvRequest (.error (.lagged 2)))]) 0 s ∧
        (∃ r, s.handler = .ended r) ∧ s.log.written = [] :=
      ⟨_, ⟨_, _, rfl, rfl, rfl⟩, ⟨_, rfl⟩, rfl⟩
    obtain ⟨s, hs, ⟨r, hr⟩, hwritten⟩ := hlagged
    obtain ⟨s', hs'⟩ := hs.exists_later h
    have hkeep := (hs.handler_ended hs' hr).2
    obtain ⟨st', k', hst', hk', hsession⟩ := hs'
    obtain rfl := Option.some.inj (h.symm.trans hst')
    obtain rfl := Option.some.inj (hk.symm.trans hk')
    show ((k.conn.stage.session?.map Simple.Session.log).getD .empty).written = []
    rw [hsession, Option.map_some, Option.getD_some, hkeep, hwritten]

end

end Devicectrl
