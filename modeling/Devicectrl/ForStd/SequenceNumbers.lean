import Mathlib.Algebra.Order.Ring.Nat

/-!
# Numbered messages

Channels `ι` whose messages carry tags `τ`: the `k`-th message sent over channel `c` carries
`tag c k`. A receiver at channel `i` accepts its messages in order and checks nothing but
that each carries the tag that is next there.

Tags may coincide across channels, and may recur in one. `Fresh` says where they must not for
every receiver to accept what its own channel was sent, at the position it was sent.
-/

/-- How the messages of each channel are tagged, and how many each was sent. -/
structure SequenceNumbers (ι τ : Type*) where
  tag : ι → Nat → τ
  sent : ι → Nat

namespace SequenceNumbers

variable {ι τ : Type*} (N : SequenceNumbers ι τ)

/-- No message sent carries a tag of the receiver at `i`, up to the one it waits for after all
of its own messages, unless it is the message of that position. -/
def Fresh (i : ι) : Prop :=
  ∀ j, j ≤ N.sent i → ∀ c k, k < N.sent c → N.tag c k = N.tag i j → c = i ∧ k = j

/-- The receiver at `i` has accepted `n` messages, each of which was sent on some channel. -/
def Accepts (i : ι) (n : Nat) : Prop :=
  ∀ j, j < n → ∃ c k, k < N.sent c ∧ N.tag c k = N.tag i j

variable {N} {i : ι} {n : Nat}

/-- A receiver with fresh tags accepts no more than its channel was sent. -/
theorem Fresh.accepts_le (hfresh : N.Fresh i) (h : N.Accepts i n) : n ≤ N.sent i := by
  induction n with
  | zero => exact Nat.zero_le _
  | succ n ih =>
    have hn : n ≤ N.sent i := ih fun j hj => h j (by omega)
    obtain ⟨c, k, hk, htag⟩ := h n (by omega)
    obtain ⟨rfl, rfl⟩ := hfresh n hn c k hk htag
    exact hk

/-- What such a receiver accepts as its `j`-th message is the `j`-th one of its channel. -/
theorem Fresh.eq_of_accepts (hfresh : N.Fresh i) (h : N.Accepts i n) {j k : Nat} {c : ι}
    (hj : j < n) (hk : k < N.sent c) (htag : N.tag c k = N.tag i j) : c = i ∧ k = j := by
  have hn := hfresh.accepts_le h
  exact hfresh j (by omega) c k hk htag

end SequenceNumbers
