import Mathlib.Algebra.BigOperators.Group.List.Basic
import Mathlib.Algebra.Order.Ring.Nat

/-!
# Waiting for a set of tasks

`while tasks.join_next().await.transpose()?.transpose()?.is_some() {}` on a
`tokio::task::JoinSet`: the tasks are joined as they end, until the set is empty or one of
them has ended with an error.
-/

namespace JoinSet

variable {ι ε : Type} [DecidableEq ι] {output : ι → Option (Except ε Unit)} {tasks tasks' : List ι}
  {next : Option ι} {e : ε}

/-- One round of the loop: the tasks left in the set, and the result once the loop is over.
`output` is how a task has ended, a panic being an error; `next` is the task that `join_next`
returns, if there is one. -/
def joinNext (output : ι → Option (Except ε Unit)) (tasks : List ι) :
    Option ι → Option (List ι × Option (Except ε Unit))
  | none => if tasks = [] then some ([], some (.ok ())) else none
  | some i =>
    if i ∈ tasks then
      match output i with
      | none => none
      | some (.error e) => some (tasks.erase i, some (.error e))
      | some (.ok ()) => some (tasks.erase i, none)
    else none

/-- The error that ends the loop is that of one of its tasks. -/
theorem joinNext_error (h : joinNext output tasks next = some (tasks', some (.error e))) :
    ∃ i ∈ tasks, output i = some (.error e) := by
  cases next with
  | none =>
    simp only [joinNext] at h
    split at h <;> exact nomatch h
  | some i =>
    simp only [joinNext] at h
    split at h
    · -- a task of the set has ended, and only an error is returned as one
      rename_i hi
      split at h
      · exact nomatch h
      · rename_i hout
        cases h
        exact ⟨i, hi, hout⟩
      · exact nomatch h
    · exact nomatch h

end JoinSet
