import Mathlib.Algebra.BigOperators.Group.List.Basic
import Mathlib.Algebra.Order.Ring.Nat
import Mathlib.Data.List.Nodup

/-!
# Unstable sorting

`slice::sort_unstable_by_key`: the result is a sorted permutation, and the order of elements
with the same key is left open. Where the keys are distinct there is only one such result.
-/

/-- A sort by a key. -/
structure SortUnstable {α κ : Type*} [LinearOrder κ] (key : α → κ) where
  sort : List α → List α
  perm : ∀ l, (sort l).Perm l
  sorted : ∀ l, (sort l).Pairwise fun a b => key a ≤ key b

namespace SortUnstable

variable {α κ : Type*} [LinearOrder κ] {key : α → κ} (s s' : SortUnstable key) {l l' : List α}

/-- Lists with the same elements of distinct keys are sorted to the same list, whichever sort
is used. -/
theorem sort_eq_of_perm (h : l.Perm l') (hkeys : (l.map key).Nodup) : s.sort l = s'.sort l' := by
  have hperm : (s.sort l).Perm (s'.sort l') := (s.perm l).trans (h.trans (s'.perm l').symm)
  apply hperm.eq_of_pairwise _ (s.sorted l) (s'.sorted l')
  intro a b ha hb hab hba
  have ha' : a ∈ l := (s.perm l).mem_iff.mp ha
  have hb' : b ∈ l := h.mem_iff.mpr ((s'.perm l').mem_iff.mp hb)
  -- Two elements of the same key are the same
  exact List.inj_on_of_nodup_map hkeys ha' hb' (le_antisymm hab hba)

/-- With distinct keys the result is strictly ascending. -/
theorem sort_strict (hkeys : (l.map key).Nodup) :
    (s.sort l).Pairwise fun a b => key a < key b := by
  have hnodup : ((s.sort l).map key).Nodup := ((s.perm l).map key).nodup_iff.mpr hkeys
  rw [List.Nodup, List.pairwise_map] at hnodup
  exact (s.sorted l).imp₂ (fun a b hle hne => lt_of_le_of_ne hle hne) hnodup

/-- A stable sort is one of them. -/
def mergeSort (key : α → κ) : SortUnstable key where
  sort l := l.mergeSort fun a b => decide (key a ≤ key b)
  perm l := List.mergeSort_perm l _
  sorted l := by
    have h := @List.pairwise_mergeSort α (fun a b => decide (key a ≤ key b))
      (fun a b c hab hbc => decide_eq_true (le_trans (of_decide_eq_true hab)
        (of_decide_eq_true hbc)))
      (fun a b => by simpa using le_total (key a) (key b)) l
    exact h.imp of_decide_eq_true

end SortUnstable
