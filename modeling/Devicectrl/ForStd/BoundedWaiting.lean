import Devicectrl.ForStd.LockedFutures

/-!
# Bounded waiting

The lock is first come, first served, so whoever waits for it is overtaken by nobody. Where each
operation has only so many parts left while it needs the lock, the wait comes to an end: the
operations that are there finish it by themselves.

## Key results

- `WellFormed.place_exec`: in the queue one only gets ahead
- `WellFormed.leaves_queue`: nobody waits for more turns than its place in the queue
- `Finishes.served`: whoever waits can be served, in a bounded number of actions
- `Future.Finishes.body`, `TryJoinAll.finishes`, `Body.sigma_finishes`: from futures to operations
-/

/-- What is in a sublist comes no later there. -/
theorem List.Sublist.idxOf_le {α : Type*} [BEq α] [LawfulBEq α] {l l' : List α} {a : α}
    (h : l.Sublist l') (ha : a ∈ l) (hl' : l'.Nodup) : l.idxOf a ≤ l'.idxOf a := by
  induction h with
  | slnil => cases ha
  -- An element that is left out of `l` comes before `a`, and only adds to its place
  | cons b h ih =>
    obtain ⟨hb, hl'⟩ := List.nodup_cons.mp hl'
    have hne : b ≠ a := by
      rintro rfl
      exact hb (h.subset ha)
    rw [List.idxOf_cons_ne _ hne]
    exact Nat.le_succ_of_le (ih ha hl')
  | cons_cons b h ih =>
    obtain ⟨-, hl'⟩ := List.nodup_cons.mp hl'
    -- Both lists begin with the same element: that is `a`, or it is in front of `a` in both
    by_cases hba : b = a
    · subst hba
      rw [List.idxOf_cons_self]
      exact Nat.zero_le _
    · rw [List.idxOf_cons_ne _ hba, List.idxOf_cons_ne _ hba]
      exact Nat.succ_le_succ (ih ((List.mem_cons.mp ha).resolve_left (Ne.symm hba)) hl')

namespace RwLock

/-- How many get the lock by an action. -/
def Act.acquires {ε ν ℓ : Type*} : Act ε ν ℓ → Nat
  | .acquire => 1
  | _ => 0

/-- What the operations that are there do by themselves. -/
def Act.GoesOn {ε ν ℓ : Type*} : Act ε ν ℓ → Prop
  | .enqueue _ => True
  | .acquire => True
  | .step _ _ => True
  | _ => False

namespace Operations

variable {σ κ ε ν ℓ τ : Type*} {S : Operations σ κ ε ν ℓ} {st st' : State σ κ} {o : Owner}

/-! ## Turns -/

/-- An owner that is queued has a place, counted from one. -/
theorem place_pos (ho : o ∈ st.queue.map Prod.fst) : 0 < place st o := by
  rw [place, if_pos ho]
  exact Nat.succ_pos _

/-- A place is within the queue. -/
theorem place_le (st : State σ κ) (o : Owner) : place st o ≤ st.queue.length := by
  unfold place
  split
  · rename_i ho
    have hlt := List.idxOf_lt_length_iff.mpr ho
    rw [List.length_map] at hlt
    exact hlt
  · exact Nat.zero_le _

/-- An operation that leaves the queue lets those behind it move up. -/
theorem WellFormed.place_put (h : S.WellFormed st) {i : Nat} {op : Option κ} {shared : σ}
    {stays : Nat → Bool} (ho : o ∈ (st.put i op shared stays).queue.map Prod.fst) :
    place (st.put i op shared stays) o ≤ place st o := by
  have hsub : ((st.put i op shared stays).queue.map Prod.fst).Sublist (st.queue.map Prod.fst) :=
    List.filter_sublist.map _
  rw [place, place, if_pos ho, if_pos (hsub.subset ho)]
  exact Nat.succ_le_succ (hsub.idxOf_le ho h.nodup)

/-- Whoever stays in the queue is one place further ahead when somebody gets the lock, and is never
further behind. -/
theorem WellFormed.place_exec (h : S.WellFormed st) {a : Act ε ν ℓ}
    (hexec : S.exec st a = some st') (ho : o ∈ st.queue.map Prod.fst)
    (ho' : o ∈ st'.queue.map Prod.fst) : place st' o + a.acquires ≤ place st o := by
  cases a with
  | env e =>
    obtain ⟨shared, rfl⟩ := exec_env hexec
    exact Nat.le_refl _
  | spawn v =>
    obtain ⟨shared, k, -, rfl⟩ := exec_spawn hexec
    exact Nat.le_refl _
  | enqueue o₁ =>
    obtain ⟨m, -, -, -, rfl⟩ := exec_enqueue hexec
    rw [place, place, if_pos ho', if_pos ho, List.map_append, List.idxOf_append_of_mem ho]
    exact Nat.le_refl _
  | acquire =>
    obtain ⟨o₁, m, rest, hq, -, rfl⟩ := exec_acquire hexec
    have hnodup := h.nodup
    rw [hq, List.map_cons, List.nodup_cons] at hnodup
    -- The first in the queue is gone, so it is not the one that stays
    have hne : o₁ ≠ o := by
      rintro rfl
      exact hnodup.1 ho'
    rw [place, place, if_pos ho', if_pos ho, hq, List.map_cons, List.idxOf_cons_ne _ hne]
    exact Nat.le_refl _
  | step i l =>
    obtain ⟨k, shared, k', -, -, -, rfl⟩ := exec_step hexec
    exact h.place_put ho'
  | cancel i =>
    obtain ⟨k, -, rfl⟩ := exec_cancel hexec
    exact h.place_put ho'

/-- Nobody waits for more turns than its place in the queue. -/
theorem WellFormed.leaves_queue {as : List (Act ε ν ℓ)} (h : S.WellFormed st)
    (hrun : S.run st as = some st') (hturns : place st o ≤ (as.map Act.acquires).sum) :
    ∃ before after m, as = before ++ after ∧ S.run st before = some m ∧
      o ∉ m.queue.map Prod.fst := by
  induction as generalizing st with
  | nil =>
    refine ⟨[], [], st, rfl, rfl, fun ho => ?_⟩
    -- Nobody at the back of the queue has place `0`
    exact absurd (place_pos ho) (Nat.not_lt.mpr hturns)
  | cons a as ih =>
    by_cases ho : o ∈ st.queue.map Prod.fst
    · -- the action leaves `o` in the queue, so its place has gone down by the turns of `a`
      obtain ⟨m, hexec, hrun⟩ := Lts.run_cons _ hrun
      by_cases hom : o ∈ m.queue.map Prod.fst
      · have hplace := h.place_exec hexec ho hom
        rw [List.map_cons, List.sum_cons] at hturns
        obtain ⟨before, after, m', rfl, hbefore, hno⟩ := ih (h.exec hexec) hrun (by omega)
        exact ⟨a :: before, after, m', rfl, (Lts.run_cons_of _ hexec).trans hbefore, hno⟩
      · -- the first action has served it
        exact ⟨[a], as, m, rfl, Lts.run_cons_of _ hexec, hom⟩
    · exact ⟨[], a :: as, st, rfl, rfl, ho⟩

/-! ## Parts left -/

/-- `left` bounds the parts that an operation has left while it needs the lock. It may depend on
what no step changes. A future leaves the needs of its siblings alone, or ends them all. -/
structure Finishes (S : Operations σ κ ε ν ℓ) (view : σ → τ) (left : τ → κ → Nat) : Prop where
  same : ∀ {s k l s' k'}, S.step s k l = some (s', k') → view s' = view s
  less : ∀ {s k l s' k'}, S.step s k l = some (s', k') → S.need k (S.future l) ≠ .nothing →
    left (view s) k' < left (view s) k
  sibling : ∀ {s k l s' k' j}, S.step s k l = some (s', k') → j ≠ S.future l →
    S.need k' j = S.need k j ∨ S.need k' j = .nothing

/-- The parts that all operations have left. -/
def total (left : κ → Nat) (st : State σ κ) : Nat :=
  (st.ops.map fun op => op.elim 0 left).sum

namespace Finishes

variable {view : σ → τ} {left : τ → κ → Nat}

/-- A future with a guard goes on: then there is one part less, and whoever was in the queue is
still there or awaits the lock no more. -/
theorem holder_step (h : S.Finishes view left) (hS : S.Disciplined) (hwf : S.WellFormed st)
    {o' : Owner} {m : Mode} (hm : m ∈ S.guards st o') :
    ∃ l st', S.exec st (.step o'.1 l) = some st' ∧ view st'.shared = view st.shared ∧
      total (left (view st.shared)) st' < total (left (view st.shared)) st ∧
      ∀ o ∈ st.queue.map Prod.fst, o ∈ st'.queue.map Prod.fst ∨ ¬S.Waits st' o := by
  obtain ⟨l, hl, hsome⟩ := hS.holder_steps hm
  obtain ⟨st', hexec⟩ := Option.isSome_iff_exists.mp hsome
  refine ⟨l, st', hexec, ?_⟩
  obtain ⟨k, shared, k', hk, -, hstep, rfl⟩ := exec_step hexec
  -- The holder has a guard, so it needs something and a step of it is due
  have hlt := (List.getElem?_eq_some_iff.mp hk).1
  have hneed := need_ne_nothing_of_guards hm
  rw [needAt_of hk, ← hl] at hneed
  refine ⟨h.same hstep, ?_, fun o ho => ?_⟩
  · have hless := h.less hstep hneed
    have hsum := List.sum_map_set (fun op : Option κ => op.elim 0 (left (view st.shared))) hk
      (some k')
    simp only [Option.elim_some] at hsum
    simp only [total, State.put]
    omega
  · obtain ⟨e, he, rfl⟩ := List.mem_map.mp ho
    by_cases hstays : e.1.1 ≠ o'.1 ∨ (e.1.2 ≠ S.future l ∧ S.need k' e.1.2 = S.need k e.1.2)
    · left
      refine List.mem_map.mpr ⟨e, mem_queue_put.mpr ⟨he, ?_⟩, rfl⟩
      simpa using hstays
    · -- a sibling of the one that went on, and the operation is over
      right
      rintro ⟨hwants, -⟩
      simp only [not_or, not_and, not_not] at hstays
      obtain ⟨hi, hchanged⟩ := hstays
      have hj : e.1.2 ≠ S.future l := by
        intro hj
        have howner : e.1 = o' := Prod.ext hi (hj.trans hl)
        exact hwf.not_queued hS hm (howner ▸ ho)
      rw [needAt_put_self hlt hi] at hwants
      have hwants : (S.need k' e.1.2).wants ≠ none := hwants
      rcases h.sibling hstep hj with hsame | hnothing
      · exact hchanged hj hsame
      · rw [hnothing] at hwants
        exact hwants rfl

/-- Whoever is in the queue can be served. -/
theorem served_of_queued (h : S.Finishes view left) (hS : S.Disciplined) (n : Nat)
    (hwf : S.WellFormed st) (ho : o ∈ st.queue.map Prod.fst)
    (hn : total (left (view st.shared)) st + place st o ≤ n) :
    ∃ as st', S.run st as = some st' ∧ (∀ a ∈ as, a.GoesOn) ∧ as.length ≤ n ∧
      ¬S.Waits st' o := by
  induction n generalizing st with
  | zero =>
    have hpos := place_pos ho
    omega
  | succ n ih =>
    -- One action, and then those of the shorter wait
    have hthen {a : Act ε ν ℓ} {st₁ : State σ κ} (hexec : S.exec st a = some st₁)
        (hgoes : a.GoesOn) (hview : view st₁.shared = view st.shared)
        (ho₁ : o ∈ st₁.queue.map Prod.fst ∨ ¬S.Waits st₁ o)
        (hless : o ∈ st₁.queue.map Prod.fst → total (left (view st.shared)) st₁ + place st₁ o <
          total (left (view st.shared)) st + place st o) :
        ∃ as st', S.run st as = some st' ∧ (∀ a ∈ as, a.GoesOn) ∧ as.length ≤ n + 1 ∧
          ¬S.Waits st' o := by
      rcases ho₁ with ho₁ | hserved
      · have hlt := hless ho₁
        rw [← hview] at hlt hn
        obtain ⟨as, st', hrun, hall, hlength, hserved⟩ := ih (hwf.exec hexec) ho₁ (by omega)
        refine ⟨a :: as, st', (Lts.run_cons_of _ hexec).trans hrun, ?_, ?_, hserved⟩
        · exact List.forall_mem_cons.mpr ⟨hgoes, hall⟩
        · exact Nat.succ_le_succ hlength
      · refine ⟨[a], st₁, Lts.run_cons_of _ hexec, ?_, Nat.le_add_left 1 n, hserved⟩
        exact List.forall_mem_singleton.mpr hgoes
    cases hq : st.queue with
    | nil =>
      rw [hq] at ho
      cases ho
    | cons front rest =>
      obtain ⟨o₁, m⟩ := front
      by_cases hadmits : S.admits st m = true
      · have hexec : S.exec st .acquire =
            some { st with granted := o₁ :: st.granted, queue := rest } := by
          simp only [exec, hq, if_pos hadmits]
        refine hthen hexec trivial rfl ?_ fun hrest => ?_
        · rw [hq, List.map_cons, List.mem_cons] at ho
          rcases ho with rfl | ho
          · exact .inr fun hwaits => hwaits.2 List.mem_cons_self
          · exact .inl ho
        · have hplace : _ + 1 ≤ _ := hwf.place_exec hexec ho hrest
          simp only [total]
          omega
      · -- somebody is in the way, and goes on
        obtain ⟨o', m', hm', -⟩ := exists_guard_of_not_admits hadmits
        obtain ⟨l, st₁, hexec, hview, hless, hqueue⟩ := h.holder_step hS hwf hm'
        refine hthen hexec trivial hview (hqueue o ho) fun ho₁ => ?_
        have hplace := hwf.place_exec hexec ho ho₁
        omega

/-- Whoever waits can be served, by no more actions than there are parts left, and others in the
queue. -/
theorem served (h : S.Finishes view left) (hS : S.Disciplined) (hwf : S.WellFormed st)
    (hwaits : S.Waits st o) :
    ∃ as st', S.run st as = some st' ∧ (∀ a ∈ as, a.GoesOn) ∧
      as.length ≤ total (left (view st.shared)) st + st.queue.length + 2 ∧ ¬S.Waits st' o := by
  by_cases ho : o ∈ st.queue.map Prod.fst
  · -- in the queue already: no poll is needed
    have hplace := place_le st o
    obtain ⟨as, st', hrun, hall, hlength, hserved⟩ :=
      h.served_of_queued hS _ hwf ho (Nat.le_refl _)
    exact ⟨as, st', hrun, hall, by omega, hserved⟩
  · -- it is polled for the first time
    obtain ⟨hwants, hgranted⟩ := hwaits
    obtain ⟨m, hm⟩ := Option.ne_none_iff_exists'.mp hwants
    have hexec : S.exec st (.enqueue o) = some { st with queue := st.queue ++ [(o, m)] } := by
      simp only [exec, hm, hgranted, ho, or_self, if_false]
    have ho₁ : o ∈ (st.queue ++ [(o, m)]).map Prod.fst := by simp
    obtain ⟨as, st', hrun, hall, hlength, hserved⟩ :=
      h.served_of_queued hS _ (hwf.exec hexec) ho₁ (Nat.le_refl _)
    have hplace := place_le { st with queue := st.queue ++ [(o, m)] } o
    refine ⟨.enqueue o :: as, st', (Lts.run_cons_of _ hexec).trans hrun, ?_, ?_, hserved⟩
    · exact List.forall_mem_cons.mpr ⟨trivial, hall⟩
    · simp only [List.length_append, List.length_singleton] at hplace
      simp only [List.length_cons, total] at hlength ⊢
      omega

end Finishes

end Operations

/-! ## From futures to operations -/

section Lifts

variable {σ τ : Type*} {view : σ → τ}

/-- As `Operations.Finishes`. -/
structure Body.Finishes {κ ℓ : Type*} (B : Body σ κ ℓ) (view : σ → τ) (left : τ → κ → Nat) :
    Prop where
  same : ∀ {s k l s' k'}, B.step s k l = some (s', k') → view s' = view s
  less : ∀ {s k l s' k'}, B.step s k l = some (s', k') → B.need k (B.future l) ≠ .nothing →
    left (view s) k' < left (view s) k
  sibling : ∀ {s k l s' k' j}, B.step s k l = some (s', k') → j ≠ B.future l →
    B.need k' j = B.need k j ∨ B.need k' j = .nothing

/-- The operations of a body finish as the body does. -/
theorem Body.Finishes.operations {κ ε ν ℓ : Type*} {B : Body σ κ ℓ} {left : τ → κ → Nat}
    (h : B.Finishes view left) (env : σ → ε → Option σ) (spawn : σ → ν → Option (σ × κ)) :
    (B.operations env spawn).Finishes view left where
  same := h.same
  less := h.less
  sibling := h.sibling

/-- A sum of bodies finishes as each of them does. -/
theorem Body.sigma_finishes {ι : Type*} [DecidableEq ι] {κ ℓ : ι → Type*}
    {B : ∀ i, Body σ (κ i) (ℓ i)} {left : ∀ i, τ → κ i → Nat}
    (h : ∀ i, (B i).Finishes view (left i)) :
    (Body.sigma B).Finishes view fun v op => left op.1 v op.2 where
  same := by
    intro s op l s' op' hstep
    -- An operation of the sum is one of its summands, and so is its step
    obtain ⟨i, k, k', l', rfl, rfl, rfl, hp⟩ := sigma_step_cases hstep
    exact (h i).same hp
  less := by
    intro s op l s' op' hstep hneed
    obtain ⟨i, k, k', l', rfl, rfl, rfl, hp⟩ := sigma_step_cases hstep
    exact (h i).less hp hneed
  sibling := by
    intro s op l s' op' j hstep hj
    obtain ⟨i, k, k', l', rfl, rfl, rfl, hp⟩ := sigma_step_cases hstep
    exact (h i).sibling hp hj

variable {κ ℓ : Type*} {F : Future σ κ ℓ} {left : τ → κ → Nat}

/-- `left` bounds the parts that a future has left while it needs the lock. -/
structure Future.Finishes (F : Future σ κ ℓ) (view : σ → τ) (left : τ → κ → Nat) : Prop where
  same : ∀ {s k l s' k'}, F.step s k l = some (s', k') → view s' = view s
  less : ∀ {s k l s' k'}, F.step s k l = some (s', k') → F.need k ≠ .nothing →
    left (view s) k' < left (view s) k

/-- A future on its own is a body that finishes. -/
theorem Future.Finishes.body (h : F.Finishes view left) : F.body.Finishes view left where
  same := h.same
  less hstep hneed := h.less hstep hneed
  sibling := by
    intro s k l s' k' j _ hj
    have hj : j ≠ 0 := hj
    rw [Future.body_need, if_neg hj]
    exact .inr rfl

namespace TryJoinAll

variable {ε : Type*} {result? : κ → Option (Except ε Unit)}

/-- The parts that the members have left. -/
def parts (left : τ → κ → Nat) (v : τ) : TryJoinAll κ ε → Nat
  | .joining members => (members.map (left v)).sum
  | .returned _ => 0

/-- Futures that are joined have left what all of them have. -/
theorem finishes (h : F.Finishes view left) :
    (body F result? : Body σ (TryJoinAll κ ε) (Nat × ℓ)).Finishes view (parts left) where
  same := by
    intro s t l s' t' hstep
    obtain ⟨members, k, k', -, -, hp, -⟩ := step_cases hstep
    exact h.same hp
  less := by
    intro s t l s' t' hstep hneed
    obtain ⟨members, k, k', rfl, hk, hp, rfl⟩ := step_cases hstep
    have hneed : (body F result?).need (.joining members) l.1 ≠ .nothing := hneed
    rw [need_joining hk] at hneed
    -- The member that took the step has less to do, and the others what they had
    have hless := h.less hp hneed
    have hsum := List.sum_map_set (left (view s)) hk k'
    rcases after_cases (members.set l.1 k') k' with ⟨r, hafter⟩ | hafter
    · -- the other members are dropped
      rw [hafter]
      simp only [parts]
      omega
    · rw [hafter]
      simp only [parts]
      omega
  sibling := by
    intro s t l s' t' j hstep hj
    obtain ⟨members, k, k', rfl, hk, -, rfl⟩ := step_cases hstep
    rcases after_cases (members.set l.1 k') k' with ⟨r, hafter⟩ | hafter
    · rw [hafter]
      exact .inr rfl
    · left
      have hj : l.1 ≠ j := Ne.symm hj
      rw [hafter]
      simp only [Body.need, body, needs, List.getElem?_map, List.getElem?_set_ne hj]

end TryJoinAll

end Lifts

end RwLock
