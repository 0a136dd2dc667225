import Mathlib.Data.List.Forall2

/-!
# Messages from sources that are not trusted

A receiver is handed a list of messages, each with its source. It is not interfered with when the
messages of sources that are not trusted make no difference to its result: whatever they say, it
is the result of the trusted messages alone.

## Key results

- `noninterfering_iff_of_head`: a receiver that looks at the first message only is not interfered
  with exactly where that message is trusted.
-/

namespace Noninterference

variable {ι β γ : Type*} (trusted : ι → Prop)

/-- Lists with the same sources in the same places, and the same messages of those trusted. -/
def SameTrusted (xs ys : List (ι × β)) : Prop :=
  List.Forall₂ (fun x y => x.1 = y.1 ∧ (trusted x.1 → x.2 = y.2)) xs ys

/-- Whatever the untrusted messages of `xs` say, `f` makes of it what it makes of the trusted ones
alone. -/
def Noninterfering [DecidablePred trusted] (f : List (ι × β) → γ) (xs : List (ι × β)) : Prop :=
  ∀ ys, SameTrusted trusted xs ys → f ys = f (ys.filter fun y => trusted y.1)

variable {trusted}

theorem SameTrusted.refl (xs : List (ι × β)) : SameTrusted trusted xs xs :=
  List.forall₂_same.mpr fun _ _ => ⟨rfl, fun _ => rfl⟩

/-- An untrusted message can be any other. -/
theorem SameTrusted.cons_of_not {x : ι × β} (hx : ¬trusted x.1) (b : β) (xs : List (ι × β)) :
    SameTrusted trusted (x :: xs) ((x.1, b) :: xs) :=
  .cons ⟨rfl, fun h => absurd h hx⟩ (SameTrusted.refl xs)

variable [DecidablePred trusted] {f : List (ι × β) → γ}

/-- A trusted first message is not interfered with by what follows it. -/
theorem noninterfering_of_head (hf : ∀ xs ys : List (ι × β), xs.head? = ys.head? → f xs = f ys)
    {xs : List (ι × β)} (hx : ∀ x, xs.head? = some x → trusted x.1) :
    Noninterfering trusted f xs := by
  intro ys hys
  apply hf
  cases hys with
  | nil => rfl
  | @cons x y xs ys hxy _ =>
    have hy : trusted y.1 := hxy.1 ▸ hx x rfl
    rw [List.filter_cons_of_pos (by simpa using hy)]
    rfl

/-- An untrusted first message interferes if it can make a difference. -/
theorem not_noninterfering_of_head
    (hf : ∀ xs ys : List (ι × β), xs.head? = ys.head? → f xs = f ys) {x : ι × β}
    {xs : List (ι × β)} (hx : ¬trusted x.1) {b b' : β} (hne : f [(x.1, b)] ≠ f [(x.1, b')]) :
    ¬Noninterfering trusted f (x :: xs) := by
  intro h
  -- Without their first message both lists are the same
  have hb : ∀ b, f [(x.1, b)] = f (xs.filter fun y => trusted y.1) := by
    intro b
    have hys := h ((x.1, b) :: xs) (.cons_of_not hx b xs)
    rw [List.filter_cons_of_neg (by simpa using hx)] at hys
    rw [← hys]
    exact hf _ _ rfl
  exact hne ((hb b).trans (hb b').symm)

/-- A receiver that looks at the first message only, and to which it makes a difference, is not
interfered with exactly where no untrusted message comes first. -/
theorem noninterfering_iff_of_head
    (hf : ∀ xs ys : List (ι × β), xs.head? = ys.head? → f xs = f ys)
    (hne : ∀ i, ∃ b b', f [(i, b)] ≠ f [(i, b')]) (xs : List (ι × β)) :
    Noninterfering trusted f xs ↔ ¬∃ x, xs.head? = some x ∧ ¬trusted x.1 := by
  constructor
  · -- an untrusted head can be replaced by the pair that tells the outputs apart
    rintro h ⟨x, hx, htrusted⟩
    cases xs with
    | nil => cases hx
    | cons y xs =>
      cases hx
      obtain ⟨b, b', hne⟩ := hne x.1
      exact not_noninterfering_of_head hf htrusted hne h
  · intro h
    apply noninterfering_of_head hf
    intro x hx
    by_contra htrusted
    exact h ⟨x, hx, htrusted⟩

end Noninterference
