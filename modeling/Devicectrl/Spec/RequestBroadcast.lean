import Devicectrl.Native.Controller

/-!
# The request broadcast

Facts about a controller and its connections that hold for every lawful `handle_conn`.

## Key results

- `Subscribed.run`: the receivers of the broadcast are the controller's and those of the
  open connections
- `Subscribed.sent`: what has been broadcast is what the calls of the run requested
-/

namespace Devicectrl

namespace HandleConn

variable {κ ν ℓ : Type} {H : HandleConn κ ν ℓ} {app : AppState}
  {st st' : System.State Server (Connection κ)}

/-- The broadcast has the controller's receiver and one for each open connection, which has
not read past its end. -/
structure Subscribed (H : HandleConn κ ν ℓ) (st : System.State Server (Connection κ)) : Prop where
  receivers : st.shared.controller.requestSender.receivers =
    1 + st.comps.countP fun k => H.isOpen k.conn
  next : ∀ k ∈ st.comps, k.requestReceiver.next ≤ st.shared.controller.requestSender.sent.length

/-- Before the first connection there is none to subscribe. -/
theorem Subscribed.initial (H : HandleConn κ ν ℓ) (app : AppState) :
    H.Subscribed (HandleConn.initial app) :=
  ⟨rfl, fun _ hk => absurd hk List.not_mem_nil⟩

/-- A connection that was open accounts for one receiver until it returns. -/
theorem countP_open_set {comps : List (Connection κ)} {i : Nat} {k k' : Connection κ}
    (hk : comps[i]? = some k) (hopen : H.isOpen k.conn = true) :
    1 + ((comps.set i k').countP fun k => H.isOpen k.conn) =
      1 + (comps.countP fun k => H.isOpen k.conn) - if H.isOpen k'.conn then 0 else 1 := by
  obtain ⟨hi, hget⟩ := List.getElem?_eq_some_iff.mp hk
  -- An open connection counts
  have hpos : 0 < comps.countP fun k => H.isOpen k.conn :=
    List.countP_pos_iff.mpr ⟨k, List.mem_of_getElem? hk, hopen⟩
  rw [List.countP_set hi, hget, if_pos hopen]
  split <;> omega

/-- The position a receive leaves a receiver at. -/
theorem recv_next_le {ch : Broadcast.Channel DeviceBoundMessage} {rx rx' : Broadcast.Receiver}
    {r : Except Broadcast.RecvError DeviceBoundMessage} (h : ch.recv rx = some (r, rx'))
    (hrx : rx.next ≤ ch.sent.length) : rx'.next ≤ ch.sent.length := by
  cases r with
  | ok m => exact Broadcast.Channel.recv_ok_next_le h
  | error e =>
    simp only [Broadcast.Channel.recv] at h
    split at h
    · -- a lagged receiver goes on with the oldest message that is still there
      cases h
      simp only [Broadcast.Channel.oldest]
      omega
    · split at h
      · cases h
      · split at h
        · cases h; exact hrx
        · cases h

/-- One action of the server keeps every connection subscribed. -/
theorem Subscribed.exec (hH : H.Lawful) {a : System.Act Server.Call ν (Label ℓ)}
    (hs : H.Subscribed st) (h : H.system.exec st a = some st') : H.Subscribed st' := by
  cases a with
  | env c =>
    obtain ⟨he, hc⟩ := System.exec_env h
    have hcall : st.shared.call c = some st'.shared := he
    obtain ⟨-, hgrows, hrx⟩ := Server.call_frame hcall
    refine ⟨by rw [hrx, hc, hs.receivers], fun k hk => ?_⟩
    rw [hc] at hk
    exact Nat.le_trans (hs.next k hk) hgrows.sent.length_le
  | spawn v =>
    obtain ⟨k, he, hc⟩ := System.exec_spawn h
    obtain ⟨hsh, rfl⟩ := spawn_eq he
    have hrx : st'.shared.controller.requestSender =
        { st.shared.controller.requestSender with
          receivers := st.shared.controller.requestSender.receivers + 1 } := by rw [hsh]; rfl
    refine ⟨?_, fun k hk => ?_⟩
    · rw [hrx, hc, List.countP_append, List.countP_singleton, hs.receivers]
      -- The new connection is open and has the new receiver
      simp only [hH.start_open, if_true]
      omega
    · rw [hrx]
      rw [hc, List.mem_append, List.mem_singleton] at hk
      rcases hk with hk | rfl
      · exact hs.next k hk
      · exact Nat.le_refl _
  | step i l =>
    obtain ⟨k, k', hk, hstep, hc⟩ := System.exec_step h
    have hturn : H.turn st.shared k l = some (st'.shared, k') := hstep
    have hsent := (hH.turn_frame hturn).2.2
    have hkmem := List.mem_of_getElem? hk
    -- Whichever step it is, the connection was open and its receiver stays in the stream
    have hstep : H.isOpen k.conn = true ∧
        k'.requestReceiver.next ≤ st.shared.controller.requestSender.sent.length ∧
        st'.shared.controller.requestSender.receivers =
          st.shared.controller.requestSender.receivers - if H.isOpen k'.conn then 0 else 1 := by
      cases l with
      | own l =>
        obtain ⟨hown, hk', hserver⟩ := turn_own hturn
        refine ⟨hH.step_open hown, by rw [hk']; exact hs.next k hkmem, ?_⟩
        rw [hserver, H.leave_receivers]
      | recvRequest r =>
        obtain ⟨hrecv, hr, -, hserver⟩ := turn_recv hturn
        refine ⟨hH.recv_open hr, recv_next_le hrecv (hs.next k hkmem), ?_⟩
        rw [hserver, H.leave_receivers]
    obtain ⟨hopen, hnext, hreceivers⟩ := hstep
    refine ⟨?_, fun k₁ hk₁ => ?_⟩
    · rw [hreceivers, hs.receivers, hc, countP_open_set hk hopen]
    · rw [hc] at hk₁
      rw [hsent]
      rcases List.mem_or_eq_of_mem_set hk₁ with hk₁ | rfl
      · exact hs.next k₁ hk₁
      · exact hnext

/-- What one action adds to the broadcast. -/
theorem Subscribed.exec_sent (hH : H.Lawful) {a : System.Act Server.Call ν (Label ℓ)}
    (hs : H.Subscribed st) (h : H.system.exec st a = some st') :
    st'.shared.controller.requestSender.sent =
      st.shared.controller.requestSender.sent ++ requests [a] := by
  cases a with
  | env c =>
    have hcall : st.shared.call c = some st'.shared := (System.exec_env h).1
    rcases Server.call_cases hcall with ⟨m, hm, ⟨hsend, -⟩ | ⟨⟨e, he⟩, -⟩⟩ | ⟨t, rfl, -, hc⟩
    · rw [Controller.send_ok hsend]
      simp [requests, hm]
    · -- with the controller's own receiver no send fails
      have hpos : 0 < st.shared.controller.requestSender.receivers := by
        rw [hs.receivers]
        omega
      rw [Controller.send_of_pos hpos] at he
      exact nomatch he
    · rw [hc]
      simp [requests, Server.Call.request?]
  | spawn v =>
    obtain ⟨k, he, -⟩ := System.exec_spawn h
    -- A new receiver is put at the end of what was sent
    rw [(spawn_eq he).1]
    simp [requests, Server.subscribe, Broadcast.Channel.resubscribe]
  | step i l =>
    obtain ⟨k, k', -, hstep, -⟩ := System.exec_step h
    rw [(hH.turn_frame hstep).2.2]
    simp [requests]

variable {as : List (System.Act Server.Call ν (Label ℓ))}

/-- In every run every connection is subscribed. -/
theorem Subscribed.run (hH : H.Lawful) (h : H.system.run (HandleConn.initial app) as = some st) :
    H.Subscribed st :=
  Lts.run_invariant H.system.exec (fun _ _ _ hs he => hs.exec hH he) h (.initial H app)

/-- A run broadcasts the requests of its calls, all of them and nothing else. -/
theorem Subscribed.sent (hH : H.Lawful) (hs : H.Subscribed st)
    (h : H.system.run st as = some st') :
    st'.shared.controller.requestSender.sent =
      st.shared.controller.requestSender.sent ++ requests as := by
  induction as generalizing st with
  | nil => cases h; simp
  | cons a as ih =>
    obtain ⟨m, ha, h⟩ := Lts.run_cons _ h
    rw [ih (hs.exec hH ha) h, hs.exec_sent hH ha, List.append_assoc, ← requests_append,
      List.singleton_append]

/-- A connection keeps the position at which it was subscribed. -/
theorem since_run {i : Nat} {k : Connection κ} (h : H.system.run st as = some st')
    (hk : st.comps[i]? = some k) : ∃ k', st'.comps[i]? = some k' ∧ k'.since = k.since := by
  induction as generalizing st k with
  | nil => cases h; exact ⟨k, hk, rfl⟩
  | cons a as ih =>
    obtain ⟨m, ha, h⟩ := Lts.run_cons _ h
    rcases System.exec_comp ha hk with ⟨-, hk'⟩ | ⟨l, k', -, hstep, hk'⟩
    · exact ih h hk'
    · -- a turn of the connection itself, which keeps where it began
      have hturn : H.turn st.shared k l = some (m.shared, k') := hstep
      have hsince : k'.since = k.since := by
        cases l with
        | own l =>
          rw [(turn_own hturn).2.1]
        | recvRequest r => exact (turn_recv hturn).2.2.1
      rw [← hsince]
      exact ih h hk'

end HandleConn

end Devicectrl
