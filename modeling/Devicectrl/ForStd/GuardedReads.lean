import Devicectrl.ForStd.LockedFutures

/-!
# What is read under a guard

The lock protects a part of the store, its view. What a future has read there under a guard stays
true until the guard is dropped: nobody writes meanwhile.

## Key results

- `Operations.Relies.view_eq`: nothing changes the view besides a guard
- `Operations.Relies.run`: what futures with a guard rely on, in every state of every run
- `Future.Relies.body`, `TryJoinAll.relies`, `Body.sigma_relies`: from futures to operations
-/

namespace RwLock

/-! ## Operations -/

namespace Operations

variable {σ κ ε ν ℓ τ : Type*}

/-- `R t k j` is what future `j` of an operation relies on while it has a guard in scope: a step
brings it about, with what the view is then. Only who awaits the lock for writing changes that. -/
structure Relies (S : Operations σ κ ε ν ℓ) (view : σ → τ) (R : τ → κ → Nat → Prop) : Prop where
  env : ∀ {s e s'}, S.env s e = some s' → view s' = view s
  spawn : ∀ {s v s' k}, S.spawn s v = some (s', k) → view s' = view s
  writes : ∀ {s k l s' k'}, S.step s k l = some (s', k') →
    view s' = view s ∨ (S.need k (S.future l)).wants = some .write
  own : ∀ {s k l s' k'}, S.step s k l = some (s', k') →
    ((S.need k (S.future l)).holds ≠ [] → R (view s) k (S.future l)) →
    (S.need k' (S.future l)).holds ≠ [] → R (view s') k' (S.future l)
  sibling : ∀ {s k l s' k' t j}, S.step s k l = some (s', k') → j ≠ S.future l →
    (S.need k' j).holds ≠ [] → R t k j → R t k' j

/-- Whatever has a guard in scope can rely on what it has read. -/
def Reads (S : Operations σ κ ε ν ℓ) (view : σ → τ) (R : τ → κ → Nat → Prop) (st : State σ κ) :
    Prop :=
  ∀ (i j : Nat) (k : κ), st.ops[i]? = some (some k) → (S.need k j).holds ≠ [] → R (view st.shared) k j

namespace Relies

variable {S : Operations σ κ ε ν ℓ} {view : σ → τ} {R : τ → κ → Nat → Prop}
  {st st' : State σ κ} {a : Act ε ν ℓ}

/-- A step that changes the view has the guard for writing. -/
theorem view_eq_or (h : S.Relies view R) (hexec : S.exec st a = some st') :
    view st'.shared = view st.shared ∨ ∃ o, .write ∈ S.guards st o ∧
      (S.needAt st o).wants = some .write ∧ ∃ l, a = .step o.1 l ∧ S.future l = o.2 := by
  cases a with
  | env e =>
    obtain ⟨shared, hshared, rfl⟩ := Option.map_eq_some_iff.mp hexec
    exact .inl (h.env hshared)
  | spawn v =>
    obtain ⟨shared, k, hspawn, rfl⟩ := exec_spawn hexec
    exact .inl (h.spawn hspawn)
  | enqueue o =>
    obtain ⟨m, -, -, -, rfl⟩ := exec_enqueue hexec
    exact .inl rfl
  | acquire =>
    obtain ⟨o, m, rest, -, -, rfl⟩ := exec_acquire hexec
    exact .inl rfl
  | step i l =>
    obtain ⟨k, shared, k', hk, hready, hstep, rfl⟩ := exec_step hexec
    -- A step that writes has the write guard that it wants
    rcases h.writes hstep with heq | hwants
    · exact .inl heq
    · right
      have hneed : S.needAt st (i, S.future l) = S.need k (S.future l) := needAt_of hk
      rw [← hneed] at hready hwants
      refine ⟨(i, S.future l), mem_guards.mpr (.inr ⟨?_, hwants⟩), hwants, l, rfl, rfl⟩
      rcases hready with hnone | hgranted
      · rw [hnone] at hwants
        cases hwants
      · exact hgranted
  | cancel i =>
    obtain ⟨k, -, rfl⟩ := exec_cancel hexec
    exact .inl rfl

/-- Nothing changes the view while there is a guard, but for the one whose it is. -/
theorem view_eq_of_ne (h : S.Relies view R) (hexclusive : S.Exclusive st)
    (hexec : S.exec st a = some st') {o : Owner} {m : Mode} (hm : m ∈ S.guards st o)
    (hne : ∀ l, a = .step o.1 l → S.future l ≠ o.2) : view st'.shared = view st.shared := by
  rcases h.view_eq_or hexec with heq | ⟨o', hwrite, -, l, ha, hl⟩
  · exact heq
  · have hoo' : o' ≠ o := by
      rintro rfl
      exact hne l ha hl
    have hcompatible := hexclusive o' o .write m hwrite hm hoo'
    cases m <;> cases hcompatible

/-- Nothing changes the view while there is a guard for reading. -/
theorem view_eq (h : S.Relies view R) (hS : S.Disciplined) (hexclusive : S.Exclusive st)
    (hexec : S.exec st a = some st') {o : Owner} (hread : .read ∈ S.guards st o) :
    view st'.shared = view st.shared := by
  rcases h.view_eq_or hexec with heq | ⟨o', hwrite, hwants, -⟩
  · exact heq
  · -- the reader would be the writer itself, or two guards would be incompatible
    by_cases ho : o' = o
    · subst ho
      rcases mem_guards.mp hread with hholds | ⟨-, hwants'⟩
      · have hnone := hS.wants_of_holds hholds
        rw [hnone] at hwants
        cases hwants
      · rw [hwants'] at hwants
        cases hwants
    · have hcompatible := hexclusive o' o .write .read hwrite hread ho
      cases hcompatible

/-- Every step leaves what futures with a guard rely on. -/
theorem exec (h : S.Relies view R) (hS : S.Disciplined) (hexclusive : S.Exclusive st)
    (hreads : S.Reads view R st) (hexec : S.exec st a = some st') : S.Reads view R st' := by
  -- A future that keeps its guard, and does not take the step itself
  have hkept {i j : Nat} {k : κ} (hk : st.ops[i]? = some (some k))
      (hholds : (S.need k j).holds ≠ []) (hne : ∀ l, a = .step i l → S.future l ≠ j) :
      R (view st'.shared) k j := by
    obtain ⟨m, hm⟩ := List.exists_mem_of_ne_nil _ hholds
    have hguard : m ∈ S.guards st (i, j) := mem_guards.mpr (.inl (by rwa [needAt_of hk]))
    rw [h.view_eq_of_ne hexclusive hexec hguard hne]
    exact hreads i j k hk hholds
  intro i j k hk hholds
  cases a with
  | env e =>
    obtain ⟨shared, rfl⟩ := exec_env hexec
    exact hkept hk hholds (by simp)
  | spawn v =>
    obtain ⟨shared, k', hspawn, rfl⟩ := exec_spawn hexec
    rw [List.getElem?_append] at hk
    split at hk
    · exact hkept hk hholds (by simp)
    · -- what has just started has no guard
      obtain rfl : k = k' := by simpa using List.mem_of_getElem? hk
      exact absurd (hS.spawned hspawn) hholds
  | enqueue o =>
    obtain ⟨m, -, -, -, rfl⟩ := exec_enqueue hexec
    exact hkept hk hholds (by simp)
  | acquire =>
    obtain ⟨o, m, rest, -, -, rfl⟩ := exec_acquire hexec
    exact hkept hk hholds (by simp)
  | step i' l =>
    obtain ⟨k₀, shared, k', hk₀, -, hstep, rfl⟩ := exec_step hexec
    have hlt := (List.getElem?_eq_some_iff.mp hk₀).1
    simp only [State.put] at hk
    by_cases hi : i' = i
    · subst hi
      rw [List.getElem?_set_self hlt] at hk
      obtain rfl := Option.some.inj (Option.some.inj hk)
      by_cases hj : j = S.future l
      · subst hj
        exact h.own hstep (hreads i' _ k₀ hk₀) hholds
      · obtain ⟨m, hm⟩ := List.exists_mem_of_ne_nil _ hholds
        have hold : (S.need k₀ j).holds ≠ [] := by
          rcases hS.keeps hstep hm with hmem | ⟨hl, -⟩
          · exact List.ne_nil_of_mem hmem
          · exact absurd hl hj
        refine h.sibling hstep hj hholds (hkept hk₀ hold fun l' ha hl' => ?_)
        cases ha
        exact hj hl'.symm
    · rw [List.getElem?_set_ne hi] at hk
      refine hkept hk hholds fun l' ha => ?_
      cases ha
      exact absurd rfl hi
  | cancel i' =>
    obtain ⟨k₀, hk₀, rfl⟩ := exec_cancel hexec
    have hlt := (List.getElem?_eq_some_iff.mp hk₀).1
    simp only [State.put] at hk
    by_cases hi : i' = i
    · subst hi
      rw [List.getElem?_set_self hlt] at hk
      cases hk
    · rw [List.getElem?_set_ne hi] at hk
      exact hkept hk hholds (by simp)

/-- In every run what the holders of guards rely on is there. -/
theorem run (h : S.Relies view R) (hS : S.Disciplined) {shared : σ} {as : List (Act ε ν ℓ)}
    (hrun : S.run (State.initial shared) as = some st) : S.Reads view R st := by
  have hboth : (S.WellFormed st ∧ S.Exclusive st) ∧ S.Reads view R st := by
    apply Lts.run_invariant _ (fun _ _ _ hs hexec => ?_) hrun
    · have hinitial : S.run (State.initial shared) ([] : List (Act ε ν ℓ)) =
          some (State.initial shared) := rfl
      refine ⟨⟨.initial S shared, Exclusive.run hS hinitial⟩, fun i j k hk => ?_⟩
      cases hk
    · obtain ⟨⟨hwf, hexclusive⟩, hreads⟩ := hs
      exact ⟨⟨hwf.exec hexec, hexclusive.exec hwf hS hexec⟩, h.exec hS hexclusive hreads hexec⟩
  exact hboth.2

end Relies

end Operations

/-! ## Building operations -/

variable {σ τ : Type*} {view : σ → τ}

namespace Body

variable {κ ℓ : Type*}

/-- As `Operations.Relies`. -/
structure Relies (B : Body σ κ ℓ) (view : σ → τ) (R : τ → κ → Nat → Prop) : Prop where
  writes : ∀ {s k l s' k'}, B.step s k l = some (s', k') →
    view s' = view s ∨ (B.need k (B.future l)).wants = some .write
  own : ∀ {s k l s' k'}, B.step s k l = some (s', k') →
    ((B.need k (B.future l)).holds ≠ [] → R (view s) k (B.future l)) →
    (B.need k' (B.future l)).holds ≠ [] → R (view s') k' (B.future l)
  sibling : ∀ {s k l s' k' t j}, B.step s k l = some (s', k') → j ≠ B.future l →
    (B.need k' j).holds ≠ [] → R t k j → R t k' j

/-- The operations of a body rely on what the body does, if nothing outside changes the view. -/
theorem Relies.operations {ε ν : Type*} {B : Body σ κ ℓ} {R : τ → κ → Nat → Prop}
    (h : B.Relies view R) {env : σ → ε → Option σ} {spawn : σ → ν → Option (σ × κ)}
    (henv : ∀ {s e s'}, env s e = some s' → view s' = view s)
    (hspawn : ∀ {s v s' k}, spawn s v = some (s', k) → view s' = view s) :
    (B.operations env spawn).Relies view R where
  env := henv
  spawn := hspawn
  writes := h.writes
  own := h.own
  sibling := h.sibling

/-- A sum of bodies relies on what each of them does. -/
theorem sigma_relies {ι : Type*} [DecidableEq ι] {κ ℓ : ι → Type*}
    {B : ∀ i, Body σ (κ i) (ℓ i)} {R : ∀ i, τ → κ i → Nat → Prop}
    (h : ∀ i, (B i).Relies view (R i)) :
    (sigma B).Relies view fun t k j => R k.1 t k.2 j where
  writes := by
    intro s op l s' op' hstep
    -- An operation of the sum is one of its summands, and so is its step
    obtain ⟨i, k, k', l', rfl, rfl, rfl, hp⟩ := sigma_step_cases hstep
    exact (h i).writes hp
  own := by
    intro s op l s' op' hstep hread hholds
    obtain ⟨i, k, k', l', rfl, rfl, rfl, hp⟩ := sigma_step_cases hstep
    exact (h i).own hp hread hholds
  sibling := by
    intro s op l s' op' t j hstep hj hholds hread
    obtain ⟨i, k, k', l', rfl, rfl, rfl, hp⟩ := sigma_step_cases hstep
    exact (h i).sibling hp hj hholds hread

end Body

/-! ### One future -/

section Future

variable {κ ℓ : Type*} {F : Future σ κ ℓ} {R : τ → κ → Prop}

/-- What a future relies on while it has a guard in scope. -/
structure Future.Relies (F : Future σ κ ℓ) (view : σ → τ) (R : τ → κ → Prop) : Prop where
  writes : ∀ {s k l s' k'}, F.step s k l = some (s', k') →
    view s' = view s ∨ (F.need k).wants = some .write
  reads : ∀ {s k l s' k'}, F.step s k l = some (s', k') →
    ((F.need k).holds ≠ [] → R (view s) k) → (F.need k').holds ≠ [] → R (view s') k'

/-- A future on its own is a body that relies on what the future does. -/
theorem Future.Relies.body (h : F.Relies view R) : F.body.Relies view fun t k _ => R t k where
  writes := by
    intro s k l s' k' hstep
    exact h.writes hstep
  own := by
    intro s k l s' k' hstep hread hholds
    exact h.reads hstep hread hholds
  sibling := by
    intro s k l s' k' t j hstep hj hholds
    have hj : j ≠ 0 := hj
    rw [Future.body_need, if_neg hj] at hholds
    exact absurd rfl hholds

/-! ### Several futures -/

variable {ε : Type*} {result? : κ → Option (Except ε Unit)}

/-- What the members rely on. -/
def TryJoinAll.Members (R : κ → Prop) (t : TryJoinAll κ ε) (j : Nat) : Prop :=
  ∀ members k, t = .joining members → members[j]? = some k → R k

/-- Joined futures rely on what each of them does. -/
theorem TryJoinAll.relies (h : F.Relies view R) :
    (body F result? : Body σ (TryJoinAll κ ε) (Nat × ℓ)).Relies view fun t op j =>
      Members (R t) op j where
  writes := by
    intro s t l s' t' hstep
    obtain ⟨members, k, k', rfl, hk, hmember, -⟩ := step_cases hstep
    rw [show (body F result?).future l = l.1 from rfl, need_joining hk]
    exact h.writes hmember
  own := by
    intro s t l s' t' hstep hread hholds members' k₁ ht' hk₁
    obtain ⟨members, k, k', rfl, hk, hmember, hafter⟩ := step_cases hstep
    subst ht'
    obtain rfl := after_joining hafter.symm
    rw [show (body F result?).future l = l.1 from rfl] at hread hholds hk₁
    rw [need_joining hk₁] at hholds
    rw [need_joining hk] at hread
    rw [List.getElem?_set_self (List.getElem?_eq_some_iff.mp hk).1] at hk₁
    obtain rfl := Option.some.inj hk₁
    exact h.reads hmember (fun hne => hread hne members k rfl hk) hholds
  sibling := by
    intro s t l s' t' u j hstep hj hholds hread members' k₁ ht' hk₁
    obtain ⟨members, k, k', rfl, hk, hmember, hafter⟩ := step_cases hstep
    -- The others are as they were
    obtain rfl := after_joining (hafter.symm.trans ht')
    have hj : l.1 ≠ j := Ne.symm hj
    rw [List.getElem?_set_ne hj] at hk₁
    exact hread members k₁ rfl hk₁

end Future

end RwLock
