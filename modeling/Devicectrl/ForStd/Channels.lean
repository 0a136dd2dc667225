import Mathlib.Algebra.BigOperators.Group.List.Basic
import Mathlib.Algebra.Order.Ring.Nat

/-!
# tokio channels

`Broadcast` is `tokio::sync::broadcast`: a sender that reaches every live receiver, each
with its own position in the stream of sent messages, and a bounded buffer. A receiver
that is further behind than the buffer reaches gets `lagged` instead of a message and
continues at the oldest message still there.

`Mpsc` is `tokio::sync::mpsc`: a bounded queue with one receiver.

An asynchronous call returns `none` while its future is pending.
-/

namespace Broadcast

/-- The shared half of a channel. `sent` is every message ever sent, oldest first; the
buffer holds the last `capacity` of them. -/
structure Channel (α : Type) where
  capacity : Nat
  sent : List α
  senders : Nat
  receivers : Nat
  deriving DecidableEq

/-- A receiver: the position in `sent` of the message it returns next. -/
structure Receiver where
  next : Nat
  deriving DecidableEq

/-- How a receive fails: messages were dropped before it, or every sender is gone. -/
inductive RecvError where
  | closed
  | lagged (skipped : Nat)
  deriving DecidableEq

/-- How a `RecvError` is displayed. -/
def RecvError.message : RecvError → String
  | .closed => "channel closed"
  | .lagged skipped => s!"channel lagged by {skipped}"

variable {α : Type}

/-- `broadcast::channel(capacity)`. -/
def channel (capacity : Nat) : Channel α × Receiver :=
  (⟨capacity, [], 1, 1⟩, ⟨0⟩)

namespace Channel

/-- `Sender::send`: fails only when no receiver exists. -/
def send (ch : Channel α) (a : α) : Option (Channel α) :=
  if ch.receivers = 0 then none else some { ch with sent := ch.sent ++ [a] }

/-- `Receiver::resubscribe`: a new receiver that starts at the tail. -/
def resubscribe (ch : Channel α) : Channel α × Receiver :=
  ({ ch with receivers := ch.receivers + 1 }, ⟨ch.sent.length⟩)

/-- What dropping a receiver does to the channel. -/
def dropReceiver (ch : Channel α) : Channel α :=
  { ch with receivers := ch.receivers - 1 }

/-- The position of the oldest message the buffer still holds. -/
def oldest (ch : Channel α) : Nat :=
  ch.sent.length - ch.capacity

/-- `Receiver::recv`. -/
def recv (ch : Channel α) (rx : Receiver) : Option (Except RecvError α × Receiver) :=
  -- The buffer has dropped the message: report how many, go on at the oldest
  if rx.next < ch.oldest then
    some (.error (.lagged (ch.oldest - rx.next)), ⟨ch.oldest⟩)
  else
    match ch.sent[rx.next]? with
    | some a => some (.ok a, ⟨rx.next + 1⟩)
    -- Nothing left to read
    | none => if ch.senders = 0 then some (.error .closed, rx) else none

/-- The messages sent and not yet returned to the receiver. -/
def unread (ch : Channel α) (rx : Receiver) : List α :=
  ch.sent.drop rx.next

/-! ### Sending -/

/-- With a receiver a send succeeds. -/
theorem send_of_pos {ch : Channel α} (h : 0 < ch.receivers) (a : α) :
    ch.send a = some { ch with sent := ch.sent ++ [a] } := by
  rw [send, if_neg (by omega)]

/-- A send that succeeds appends its message. -/
theorem send_eq_some {ch ch' : Channel α} {a : α} (h : ch.send a = some ch') :
    ch' = { ch with sent := ch.sent ++ [a] } ∧ 0 < ch.receivers := by
  rw [send] at h
  split at h
  · exact nomatch h
  · exact ⟨(Option.some.inj h).symm, by omega⟩

/-- A send fails only without a receiver. -/
theorem send_eq_none {ch : Channel α} {a : α} (h : ch.send a = none) : ch.receivers = 0 := by
  rw [send] at h
  split at h
  · assumption
  · exact nomatch h

/-- A send adds its message to what each receiver has yet to read. -/
theorem unread_send {ch : Channel α} {rx : Receiver} (h : rx.next ≤ ch.sent.length) (a : α) :
    unread { ch with sent := ch.sent ++ [a] } rx = ch.unread rx ++ [a] := by
  simp only [unread, List.drop_append_of_le_length h]

/-- Nothing becomes unread as long as nothing is sent. -/
theorem unread_of_sent_eq {ch ch' : Channel α} (h : ch'.sent = ch.sent) (rx : Receiver) :
    ch'.unread rx = ch.unread rx := by
  rw [unread, unread, h]

/-- A new receiver has nothing unread. -/
@[simp] theorem unread_resubscribe (ch : Channel α) :
    ch.resubscribe.1.unread ch.resubscribe.2 = [] := by
  simp only [resubscribe, unread, List.drop_length]

/-- The same channel later on: more may have been sent. -/
structure Grows (ch ch' : Channel α) : Prop where
  capacity : ch'.capacity = ch.capacity
  senders : ch'.senders = ch.senders
  sent : ch.sent <+: ch'.sent

theorem Grows.refl (ch : Channel α) : ch.Grows ch :=
  ⟨rfl, rfl, List.prefix_refl _⟩

/-- A channel that grows in two steps has grown. -/
theorem Grows.trans {ch ch' ch'' : Channel α} (h : ch.Grows ch') (h' : ch'.Grows ch'') :
    ch.Grows ch'' :=
  ⟨h'.capacity.trans h.capacity, h'.senders.trans h.senders, h.sent.trans h'.sent⟩

/-- Messages at the end are growth. -/
theorem Grows.append (ch : Channel α) (as : List α) : ch.Grows { ch with sent := ch.sent ++ as } :=
  ⟨rfl, rfl, List.prefix_append _ _⟩

/-- What was sent from some point on stays the first of what is. -/
theorem Grows.drop_prefix {ch ch' : Channel α} (h : ch.Grows ch') (n : Nat) :
    ch.sent.drop n <+: ch'.sent.drop n := by
  obtain ⟨more, hmore⟩ := h.sent
  rw [← hmore, List.drop_append]
  exact List.prefix_append _ _

/-- Besides the receiver that is kept with the sender there is one for each subscriber, so that the
channel takes what is sent. -/
structure OpenFor (ch : Channel α) (subscribers : Nat) : Prop where
  receivers : ch.receivers = 1 + subscribers
  send : ∀ a, ch.send a = some { ch with sent := ch.sent ++ [a] }

/-- A channel is open while its own receiver is there. -/
theorem OpenFor.of_receivers {ch : Channel α} {subscribers : Nat}
    (h : ch.receivers = 1 + subscribers) : ch.OpenFor subscribers :=
  ⟨h, fun a => send_of_pos (by omega) a⟩

/-! ### Receiving -/

/-- A receiver lags exactly when more messages are unread than the buffer holds. -/
theorem lt_oldest_iff (ch : Channel α) (rx : Receiver) :
    rx.next < ch.oldest ↔ ch.capacity < (ch.unread rx).length := by
  simp only [oldest, unread, List.length_drop]
  omega

/-- A delivered message is the first unread one, and the receiver was not lagged. -/
theorem recv_ok {ch : Channel α} {rx rx' : Receiver} {a : α}
    (h : ch.recv rx = some (.ok a, rx')) :
    rx' = ⟨rx.next + 1⟩ ∧ ch.sent[rx.next]? = some a ∧
      ch.unread rx = a :: ch.unread rx' ∧ (ch.unread rx).length ≤ ch.capacity := by
  rw [recv] at h
  split at h
  · exact nomatch h
  · -- not lagged: what is next is still in the buffer
    rename_i hold
    split at h
    · rename_i b hb
      cases h
      refine ⟨rfl, hb, List.drop_eq_getElem?_toList_append.trans ?_, ?_⟩
      · rw [hb]; rfl
      · rw [lt_oldest_iff] at hold; omega
    · -- an empty channel is closed or makes the receiver wait
      split at h <;> exact nomatch h

/-- A lagged receiver had more messages unread than the buffer holds. -/
theorem recv_lagged {ch : Channel α} {rx rx' : Receiver} {n : Nat}
    (h : ch.recv rx = some (.error (.lagged n), rx')) :
    ch.capacity < (ch.unread rx).length := by
  rw [recv] at h
  split at h
  · rename_i hold
    exact (lt_oldest_iff ch rx).mp hold
  · split at h
    · exact nomatch h
    · split at h <;> exact nomatch h

/-- With a sender left the channel is never closed. -/
theorem recv_ne_closed {ch : Channel α} {rx rx' : Receiver} (hs : ch.senders ≠ 0) :
    ch.recv rx ≠ some (.error .closed, rx') := by
  intro h
  rw [recv] at h
  split at h
  · exact nomatch h
  · split at h <;> exact nomatch h

/-- A receiver that is not lagged gets its first unread message. -/
theorem recv_of_unread {ch : Channel α} {rx : Receiver} {a : α} {rest : List α}
    (h : ch.unread rx = a :: rest) (hcap : (ch.unread rx).length ≤ ch.capacity) :
    ch.recv rx = some (.ok a, ⟨rx.next + 1⟩) := by
  have hget : ch.sent[rx.next]? = some a := by
    rw [← List.head?_drop, ← unread, h, List.head?_cons]
  rw [recv, if_neg (by rw [lt_oldest_iff]; omega), hget]

/-- A receive is pending only when nothing is unread. -/
theorem unread_of_recv_none {ch : Channel α} {rx : Receiver} (h : ch.recv rx = none) :
    ch.unread rx = [] := by
  rw [recv] at h
  split at h
  · exact nomatch h
  · split at h
    · exact nomatch h
    · rename_i hnone
      rw [unread, List.drop_eq_nil_iff]
      exact List.getElem?_eq_none_iff.mp hnone

/-- A receive never moves a receiver back. -/
theorem recv_le_next {ch : Channel α} {rx rx' : Receiver} {r : Except RecvError α}
    (h : ch.recv rx = some (r, rx')) : rx.next ≤ rx'.next := by
  rw [recv] at h
  split at h
  · rename_i hold
    cases h
    exact Nat.le_of_lt hold
  · split at h
    · cases h; exact Nat.le_succ _
    · split at h
      · cases h; exact Nat.le_refl _
      · exact nomatch h

/-- The position after a delivery is still inside the stream. -/
theorem recv_ok_next_le {ch : Channel α} {rx rx' : Receiver} {a : α}
    (h : ch.recv rx = some (.ok a, rx')) : rx'.next ≤ ch.sent.length := by
  obtain ⟨rfl, hget, -⟩ := recv_ok h
  exact (List.getElem?_eq_some_iff.mp hget).1

/-! ### What a receiver has been given -/

/-- The messages from position `since` up to position `next`. -/
def between (ch : Channel α) (since next : Nat) : List α :=
  (ch.sent.drop since).take (next - since)

@[simp] theorem between_self (ch : Channel α) (since : Nat) : ch.between since since = [] := by
  rw [between, Nat.sub_self, List.take_zero]

/-- What a receiver has passed was sent since. -/
theorem between_prefix (ch : Channel α) (since next : Nat) :
    ch.between since next <+: ch.sent.drop since :=
  List.take_prefix _ _

/-- What a receiver was given stays the same while more is sent. -/
theorem between_grows {ch ch' : Channel α} {since next : Nat} (h : ch.Grows ch')
    (hsince : since ≤ next) (hnext : next ≤ ch.sent.length) :
    ch'.between since next = ch.between since next := by
  obtain ⟨more, hmore⟩ := h.sent
  have hlen : (ch.sent.drop since).length = ch.sent.length - since := List.length_drop
  rw [between, between, ← hmore, List.drop_append_of_le_length (by omega),
    List.take_append_of_le_length (by omega)]

/-- A receive that returns a message adds it. -/
theorem between_recv {ch : Channel α} {since : Nat} {rx rx' : Receiver} {a : α}
    (hsince : since ≤ rx.next) (h : ch.recv rx = some (.ok a, rx')) :
    ch.between since rx'.next = ch.between since rx.next ++ [a] := by
  obtain ⟨rfl, hget, -⟩ := recv_ok h
  have hn : rx.next + 1 - since = rx.next - since + 1 := by omega
  -- The message returned is the next one after those given
  have hidx : (ch.sent.drop since)[rx.next - since]? = some a := by
    rw [List.getElem?_drop, ← hget]
    congr 1
    omega
  rw [between, between, hn, List.take_add_one, hidx]
  rfl

/-- Between them, what a receiver was given and what it has yet to read are all messages. -/
theorem between_append_unread {ch : Channel α} {since : Nat} {rx : Receiver}
    (hsince : since ≤ rx.next) :
    ch.between since rx.next ++ ch.unread rx = ch.sent.drop since := by
  rw [between, unread, show rx.next = since + (rx.next - since) by omega, ← List.drop_drop,
    Nat.add_sub_cancel_left]
  exact List.take_append_drop _ _

end Channel

end Broadcast

namespace Mpsc

/-- A bounded queue. `receiver` tells whether the receiving half still exists. -/
structure Channel (α : Type) where
  capacity : Nat
  queue : List α
  senders : Nat
  receiver : Bool
  deriving DecidableEq

variable {α : Type}

/-- `mpsc::channel(capacity)`. -/
def channel (capacity : Nat) : Channel α :=
  ⟨capacity, [], 1, true⟩

namespace Channel

/-- `Sender::send`: pending while the queue is full, an error once the receiver is gone. -/
def send (ch : Channel α) (a : α) : Option (Except α (Channel α)) :=
  if ch.receiver = false then some (.error a)
  else if ch.queue.length < ch.capacity then some (.ok { ch with queue := ch.queue ++ [a] })
  else none

/-- `Receiver::recv`: pending while the queue is empty and some sender is left. -/
def recv (ch : Channel α) : Option (Option α × Channel α) :=
  match ch.queue with
  | a :: rest => some (some a, { ch with queue := rest })
  | [] => if ch.senders = 0 then some (none, ch) else none

/-- A send into the queue found room in it. -/
theorem send_ok {ch ch' : Channel α} {a : α} (h : ch.send a = some (.ok ch')) :
    ch' = { ch with queue := ch.queue ++ [a] } ∧ ch.queue.length < ch.capacity := by
  rw [send] at h
  split at h
  · exact nomatch h
  · split at h
    · rename_i hlt
      cases h
      exact ⟨rfl, hlt⟩
    · exact nomatch h

/-- While the receiver exists a send never fails. -/
theorem send_ne_error {ch : Channel α} {a b : α} (hr : ch.receiver = true) :
    ch.send a ≠ some (.error b) := by
  intro h
  rw [send, if_neg (by simp [hr])] at h
  split at h <;> exact nomatch h

/-- A message that is received was the first of the queue. -/
theorem recv_some {ch ch' : Channel α} {a : α} (h : ch.recv = some (some a, ch')) :
    ch.queue = a :: ch'.queue ∧ ch' = { ch with queue := ch'.queue } := by
  rw [recv] at h
  split at h
  · rename_i b rest hq
    cases h
    exact ⟨hq, rfl⟩
  · split at h <;> exact nomatch h

/-- `recv` yields `None` only from an empty queue that has no sender left. -/
theorem recv_none_iff {ch ch' : Channel α} :
    ch.recv = some (none, ch') ↔ ch.queue = [] ∧ ch.senders = 0 ∧ ch' = ch := by
  rw [recv]
  split
  · rename_i hq
    simp [hq]
  · rename_i hq
    by_cases hs : ch.senders = 0 <;> simp [hq, hs, eq_comm]

end Channel

end Mpsc
