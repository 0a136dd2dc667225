import Devicectrl.ForStd.Channels

/-!
# Forwarding a broadcast

A task that receives a broadcast passes on what it makes of the messages, one at a time; some it
ignores. However much is sent meanwhile, and wherever the task ends, what it has passed on is the
first of what it makes of the messages since it subscribed.
-/

namespace Broadcast.Channel

variable {α β : Type} {ch ch' : Channel α} {f : α → Option β} {since : Nat} {rx rx' : Receiver}
  {written inHand : List β} {hand : Option (List β)} {a : α} {b : β}

/-- A task that subscribed at `since` has passed on `written`. What it has taken besides is in
hand, until it ends. -/
structure Forwards (ch : Channel α) (f : α → Option β) (since : Nat) (rx : Receiver)
    (written : List β) (hand : Option (List β)) : Prop where
  order : written <+: (ch.sent.drop since).filterMap f
  live : ∀ inHand ∈ hand, since ≤ rx.next ∧ rx.next ≤ ch.sent.length ∧
    written ++ inHand = (ch.between since rx.next).filterMap f

namespace Forwards

/-- Who has just subscribed has forwarded nothing, and has nothing to forward. -/
theorem subscribe (ch : Channel α) (f : α → Option β) :
    ch.Forwards f ch.sent.length ⟨ch.sent.length⟩ [] (some []) := by
  refine ⟨List.nil_prefix, fun inHand h => ?_⟩
  cases h
  simp

/-- What is written and in hand is all that was passed, so the rest is to come. -/
theorem of_live (hsince : since ≤ rx.next) (hnext : rx.next ≤ ch.sent.length)
    (h : written ++ inHand = (ch.between since rx.next).filterMap f) :
    ch.Forwards f since rx written (some inHand) := by
  refine ⟨?_, fun inHand' h' => ?_⟩
  · apply List.IsPrefix.trans (List.prefix_append written inHand)
    rw [h]
    exact (ch.between_prefix since rx.next).filterMap f
  · cases h'
    exact ⟨hsince, hnext, h⟩

/-- More is sent. -/
theorem grows (h : ch.Forwards f since rx written hand) (hgrows : ch.Grows ch') :
    ch'.Forwards f since rx written hand := by
  refine ⟨h.order.trans ((hgrows.drop_prefix since).filterMap f), fun inHand hmem => ?_⟩
  obtain ⟨hsince, hnext, hwritten⟩ := h.live inHand hmem
  refine ⟨hsince, Nat.le_trans hnext hgrows.sent.length_le, ?_⟩
  rw [between_grows hgrows hsince hnext]
  exact hwritten

/-- A message that is ignored is received. -/
theorem skip (h : ch.Forwards f since rx written (some []))
    (hr : ch.recv rx = some (.ok a, rx')) (ha : f a = none) :
    ch.Forwards f since rx' written (some []) := by
  obtain ⟨hsince, -, hwritten⟩ := h.live [] rfl
  apply of_live (Nat.le_trans hsince (recv_le_next hr)) (recv_ok_next_le hr)
  rw [between_recv hsince hr, List.filterMap_append, ← hwritten]
  simp [ha]

/-- A message is received that something is made of. -/
theorem take (h : ch.Forwards f since rx written (some []))
    (hr : ch.recv rx = some (.ok a, rx')) (ha : f a = some b) :
    ch.Forwards f since rx' written (some [b]) := by
  obtain ⟨hsince, -, hwritten⟩ := h.live [] rfl
  apply of_live (Nat.le_trans hsince (recv_le_next hr)) (recv_ok_next_le hr)
  rw [between_recv hsince hr, List.filterMap_append, ← hwritten]
  simp [ha]

/-- What is in hand is passed on. -/
theorem pass (h : ch.Forwards f since rx written (some inHand)) :
    ch.Forwards f since rx (written ++ inHand) (some []) := by
  obtain ⟨hsince, hnext, hwritten⟩ := h.live inHand rfl
  apply of_live hsince hnext
  rw [List.append_nil, hwritten]

/-- The task ends, and drops what it has in hand. -/
theorem stop (h : ch.Forwards f since rx written hand) :
    ch.Forwards f since rx' written none :=
  ⟨h.order, fun _ hmem => by cases hmem⟩

end Forwards

end Broadcast.Channel
