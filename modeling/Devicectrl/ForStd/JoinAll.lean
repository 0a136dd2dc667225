import Mathlib.Data.List.Perm.Basic

/-!
# The members of `join_all`

`join_all` polls futures that end one by one, in any order. A member that has ended is `none`.
-/

namespace JoinAll

variable {α β γ : Type*} {args : List α} {members : List (Option β)} {a : α} {b : β} {i : Nat}

/-- The members that have not ended, each with what it was called with. -/
def pending (args : List α) (members : List (Option β)) : List (α × β) :=
  (args.zip members).filterMap fun p => p.2.map fun b => (p.1, b)

/-- `g` is what is left of the arguments once a member has ended. -/
theorem pending_map (f : γ → Option β) (g : γ → α) (l : List γ) :
    pending (l.map g) (l.map f) = l.filterMap fun c => (f c).map fun b => (g c, b) := by
  unfold pending
  rw [List.zip_map', List.filterMap_map]
  rfl

/-- An argument whose member is still there is pending. -/
theorem mem_pending (ha : args[i]? = some a) (hb : members[i]? = some (some b)) :
    (a, b) ∈ pending args members := by
  apply List.mem_filterMap.mpr
  refine ⟨(a, some b), ?_, rfl⟩
  apply List.mem_of_getElem? (i := i)
  simp [List.getElem?_zip_eq_some, ha, hb]

/-- When all members are done nothing is pending. -/
theorem pending_eq_nil (h : members.all Option.isNone = true) : pending args members = [] := by
  apply List.filterMap_eq_nil_iff.mpr
  intro p hp
  have hnone := List.all_eq_true.mp h p.2 (List.of_mem_zip hp).2
  rw [Option.isNone_iff_eq_none.mp hnone, Option.map_none]

/-- A member ends: it is pending no more, and nothing else has changed. -/
theorem pending_set_none (hlength : members.length = args.length) (ha : args[i]? = some a)
    (hb : members[i]? = some (some b)) :
    (pending args members).Perm ((a, b) :: pending args (members.set i none)) := by
  induction args generalizing members i with
  | nil => simp at ha
  | cons a' args ih =>
    cases members with
    | nil => simp at hb
    | cons member members =>
      cases i with
      | zero =>
        -- The member that has gone on is the first
        simp only [List.getElem?_cons_zero, Option.some.injEq] at ha hb
        simp [pending, ha, hb]
      | succ i =>
        have hrest := ih (Nat.succ.inj hlength) ha hb
        cases member with
        | none => simpa [pending] using hrest
        | some b' =>
          -- The first is pending too: it comes before, and the two change places
          have hcons := (hrest.cons (a', b')).trans (List.Perm.swap _ _ _)
          simpa [pending] using hcons

/-- A member does more: in all, that much more has been done. -/
theorem flatMap_set_perm {f : α → List γ} {l : List α} {a' : α} {new : List γ} (ha : l[i]? = some a)
    (hnew : f a' = f a ++ new) : ((l.set i a').flatMap f).Perm (l.flatMap f ++ new) := by
  induction l generalizing i with
  | nil => simp at ha
  | cons a₀ l ih =>
    cases i with
    | zero =>
      obtain rfl : a₀ = a := by simpa using ha
      rw [List.set_cons_zero, List.flatMap_cons, List.flatMap_cons, hnew, List.append_assoc,
        List.append_assoc]
      exact List.perm_append_comm.append_left _
    | succ i =>
      rw [List.set_cons_succ, List.flatMap_cons, List.flatMap_cons, List.append_assoc]
      exact (ih (by simpa using ha)).append_left _

end JoinAll
