import Mathlib.Algebra.BigOperators.Group.List.Basic
import Mathlib.Algebra.Order.Ring.Nat
import Mathlib.Data.Fintype.Card
import Mathlib.Data.Set.Finite.Basic
import Mathlib.Logic.Relation

/-!
# Chains of a partial function

A partial function `next : α → Option α` leads from each element to a chain, which ends or
goes on forever.
-/

namespace Chain

variable {α : Type*} {next : α → Option α} {a b : α} {n m : Nat}

/-- The chain from `a` ends after `n` steps. -/
inductive Ends (next : α → Option α) : α → Nat → Prop
  | last {a : α} (h : next a = none) : Ends next a 0
  | step {a b : α} {n : Nat} (h : next a = some b) (hb : Ends next b n) : Ends next a (n + 1)

/-- The chain from `a` ends. -/
def Terminates (next : α → Option α) (a : α) : Prop :=
  ∃ n, Ends next a n

/-- A chain has one end. -/
theorem Ends.unique (h : Ends next a n) (h' : Ends next a m) : n = m := by
  -- Both chains take the same steps, since `next` is a function
  induction h generalizing m with
  | last hnone =>
    cases h' with
    | last => rfl
    | step hsome => rw [hnone] at hsome; exact nomatch hsome
  | step hsome _ ih =>
    cases h' with
    | last hnone => rw [hsome] at hnone; exact nomatch hnone
    | step hsome' hb =>
      rw [hsome] at hsome'
      cases hsome'
      rw [ih hb]

/-- A chain ends where nothing follows. -/
theorem terminates_of_none (h : next a = none) : Terminates next a :=
  ⟨0, .last h⟩

/-- A chain ends exactly when its tail does. -/
theorem terminates_iff_of_some (h : next a = some b) : Terminates next a ↔ Terminates next b := by
  constructor
  · rintro ⟨n, ha⟩
    cases ha with
    | last hnone => rw [h] at hnone; exact nomatch hnone
    | step hsome hb =>
      rw [h] at hsome
      cases hsome
      exact ⟨_, hb⟩
  · rintro ⟨n, hb⟩
    exact ⟨n + 1, .step h hb⟩

/-- Where a chain ends depends on its second element only. -/
theorem terminates_congr (h : next a = next b) : Terminates next a ↔ Terminates next b := by
  cases hb : next b with
  | none => exact ⟨fun _ => terminates_of_none hb, fun _ => terminates_of_none (h.trans hb)⟩
  | some c => rw [terminates_iff_of_some (h.trans hb), terminates_iff_of_some hb]

/-- A map that carries one partial function to another keeps where chains end. -/
theorem ends_map {β : Type*} {next' : β → Option β} {g : α → β}
    (hg : ∀ a, next' (g a) = (next a).map g) : Ends next' (g a) n ↔ Ends next a n := by
  constructor
  · intro h
    -- On the length: `g a` is no free index to induct on the chain itself
    induction n generalizing a with
    | zero =>
      cases h with
      | last hnone =>
        rw [hg, Option.map_eq_none_iff] at hnone
        exact .last hnone
    | succ n ih =>
      cases h with
      | step hsome hb =>
        rw [hg, Option.map_eq_some_iff] at hsome
        obtain ⟨b, hb', rfl⟩ := hsome
        exact .step hb' (ih hb)
  · intro h
    induction h with
    | last hnone => exact .last (by rw [hg, hnone, Option.map_none])
    | step hsome _ ih => exact .step (by rw [hg, hsome, Option.map_some]) ih

open Classical in
/-- The number of steps after which the chain from `a` ends; `0` if it does not. -/
noncomputable def length (next : α → Option α) (a : α) : Nat :=
  if h : Terminates next a then h.choose else 0

/-- The length of a chain is the number of steps to its end. -/
theorem Ends.length_eq (h : Ends next a n) : length next a = n := by
  have ht : Terminates next a := ⟨n, h⟩
  rw [length, dif_pos ht]
  exact ht.choose_spec.unique h

@[simp] theorem length_of_none (h : next a = none) : length next a = 0 :=
  (Ends.last h).length_eq

/-- A link more is a step more. -/
theorem length_of_some (h : next a = some b) (ht : Terminates next b) :
    length next a = length next b + 1 := by
  obtain ⟨n, hb⟩ := ht
  rw [hb.length_eq]
  exact (Ends.step h hb).length_eq

/-- An element that leads to itself is the start of an endless chain. -/
theorem not_terminates_of_self (h : next a = some a) : ¬Terminates next a := by
  rintro ⟨n, ha⟩
  cases ha with
  | last hnone => rw [h] at hnone; exact nomatch hnone
  | step hsome hb =>
    rw [h] at hsome
    cases hsome
    -- The chain would be one step longer than itself
    have hlen := (Ends.step h hb).unique hb
    omega

/-! ## Chains without cycles -/

/-- `b` comes after `a` on the chain from `a`. -/
def Follows (next : α → Option α) : α → α → Prop :=
  Relation.TransGen fun a b => next a = some b

/-- Where a partial function has finitely many values and no element comes after itself, every
chain ends. -/
theorem terminates_of_acyclic {values : List α} (hvalues : ∀ a b, next a = some b → b ∈ values)
    (hacyclic : ∀ a, ¬Follows next a a) (a : α) : Terminates next a := by
  -- On the values, each of which has finitely many others after it
  let After (b a : {a // a ∈ values}) : Prop := Follows next a b
  have : Finite {a // a ∈ values} := (List.finite_toSet values).to_subtype
  have : IsTrans _ After := ⟨fun _ _ _ hab hbc => Relation.TransGen.trans hbc hab⟩
  have : Std.Irrefl After := ⟨fun a => hacyclic a⟩
  have hwf : WellFounded After := Finite.wellFounded_of_trans_of_irrefl After
  have hvalue (b : {a // a ∈ values}) : Terminates next b.1 := by
    induction b using hwf.induction with
    | h b ih =>
      cases hb : next b.1 with
      | none => exact terminates_of_none hb
      | some c =>
        rw [terminates_iff_of_some hb]
        exact ih ⟨c, hvalues b c hb⟩ (.single hb)
  cases ha : next a with
  | none => exact terminates_of_none ha
  | some b =>
    rw [terminates_iff_of_some ha]
    exact hvalue ⟨b, hvalues a b ha⟩

end Chain
