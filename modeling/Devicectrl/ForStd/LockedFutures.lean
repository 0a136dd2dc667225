import Devicectrl.ForStd.RwLock

/-!
# Building operations that share a lock

An operation is made of one future, or joins several that are polled side by side; a server has
operations of many kinds. What the futures keep to, the operations keep to, whatever their
kinds.

## Key results

- `Future.Disciplined.body`, `TryJoinAll.disciplined`: from futures to operations
- `Body.sigma_disciplined`: from operations of each kind to those of all kinds
- `Body.Disciplined.operations`: operations that start without a guard
-/

namespace RwLock

/-- What operations do, without how they start and who else acts on the store. -/
structure Body (σ κ ℓ : Type*) where
  step : σ → κ → ℓ → Option (σ × κ)
  future : ℓ → Nat
  needs : κ → List Need

namespace Body

variable {σ κ ε ν ℓ : Type*} (B : Body σ κ ℓ)

/-- What a future of an operation needs of the lock. -/
def need (k : κ) (j : Nat) : Need :=
  (B.needs k)[j]?.getD .nothing

/-- As `Operations.Disciplined`. -/
structure Disciplined : Prop where
  keeps : ∀ {s k l s' k' j m}, B.step s k l = some (s', k') → m ∈ (B.need k' j).holds →
    m ∈ (B.need k j).holds ∨ j = B.future l ∧ (B.need k j).wants = some m
  alone : ∀ {k j}, (B.need k j).holds ≠ [] → (B.need k j).wants = none
  ends : ∀ {k j}, B.need k j ≠ .nothing → ∀ s, ∃ l, B.future l = j ∧ (B.step s k l).isSome

/-- No future of the operation has a guard. -/
def Unguarded (k : κ) : Prop :=
  ∀ j, (B.need k j).holds = []

/-- The operations on the data that have this body. -/
def operations (env : σ → ε → Option σ) (spawn : σ → ν → Option (σ × κ)) :
    Operations σ κ ε ν ℓ where
  env
  spawn
  step := B.step
  future := B.future
  needs := B.needs

/-- Operations are disciplined if their body is. -/
theorem Disciplined.operations {B : Body σ κ ℓ} (h : B.Disciplined)
    {env : σ → ε → Option σ} {spawn : σ → ν → Option (σ × κ)}
    (hspawn : ∀ {s v s' k}, spawn s v = some (s', k) → B.Unguarded k) :
    (B.operations env spawn).Disciplined where
  spawned hs := hspawn hs _
  keeps := h.keeps
  alone := h.alone
  ends := h.ends

/-! ## Operations of many kinds -/

section Sigma

variable {ι : Type*} [DecidableEq ι] {κ ℓ : ι → Type*}

/-- Operations of every kind. A step of one kind is none of another. -/
def sigma (B : ∀ i, Body σ (κ i) (ℓ i)) : Body σ (Σ i, κ i) (Σ i, ℓ i) where
  step s k l :=
    if h : l.1 = k.1 then ((B k.1).step s k.2 (h ▸ l.2)).map fun p => (p.1, ⟨k.1, p.2⟩) else none
  future l := (B l.1).future l.2
  needs k := (B k.1).needs k.2

/-- A step is one of a kind. -/
theorem sigma_step_cases {B : ∀ i, Body σ (κ i) (ℓ i)} {s s' : σ} {op op' : Σ i, κ i}
    {l : Σ i, ℓ i} (h : (sigma B).step s op l = some (s', op')) :
    ∃ (i : ι) (k k' : κ i) (l' : ℓ i), op = ⟨i, k⟩ ∧ op' = ⟨i, k'⟩ ∧ l = ⟨i, l'⟩ ∧
      (B i).step s k l' = some (s', k') := by
  obtain ⟨i, k⟩ := op
  obtain ⟨i', l'⟩ := l
  simp only [sigma] at h
  split at h
  · -- the label is one of this kind, so nothing is transported along the equation
    rename_i hi
    subst hi
    obtain ⟨p, hp, he⟩ := Option.map_eq_some_iff.mp h
    cases he
    exact ⟨i', k, p.2, l', rfl, rfl, rfl, hp⟩
  · cases h

/-- A sum of disciplined bodies is disciplined. -/
theorem sigma_disciplined {B : ∀ i, Body σ (κ i) (ℓ i)} (h : ∀ i, (B i).Disciplined) :
    (sigma B).Disciplined where
  keeps := by
    intro s op l s' op' j m hstep hm
    obtain ⟨i, k, k', l', rfl, rfl, rfl, hp⟩ := sigma_step_cases hstep
    exact (h i).keeps hp hm
  alone := by
    rintro ⟨i, k⟩ j hholds
    exact (h i).alone hholds
  ends := by
    -- The operation is one of a kind, and its own kind has the step
    rintro ⟨i, k⟩ j hneed s
    obtain ⟨l, hl, hstep⟩ := (h i).ends hneed s
    refine ⟨⟨i, l⟩, hl, ?_⟩
    simp only [sigma, dif_pos, Option.isSome_map]
    exact hstep

end Sigma

end Body

/-! ## One future -/

/-- A future on its own: its steps, and its need of the lock. -/
structure Future (σ κ ℓ : Type*) where
  step : σ → κ → ℓ → Option (σ × κ)
  need : κ → Need

namespace Future

variable {σ κ ℓ : Type*} (F : Future σ κ ℓ)

/-- What a future keeps to. -/
structure Disciplined : Prop where
  keeps : ∀ {s k l s' k' m}, F.step s k l = some (s', k') → m ∈ (F.need k').holds →
    m ∈ (F.need k).holds ∨ (F.need k).wants = some m
  alone : ∀ {k}, (F.need k).holds ≠ [] → (F.need k).wants = none
  ends : ∀ {k}, F.need k ≠ .nothing → ∀ s, ∃ l, (F.step s k l).isSome

/-- The operation that is this future. -/
def body : Body σ κ ℓ where
  step := F.step
  future _ := 0
  needs k := [F.need k]

/-- The one future of the body needs what the future does. -/
theorem body_need (k : κ) (j : Nat) : F.body.need k j = if j = 0 then F.need k else .nothing := by
  cases j with
  | zero => rfl
  | succ j => rfl

variable {F}

/-- A future that is disciplined is a disciplined body. -/
theorem Disciplined.body (h : F.Disciplined) : F.body.Disciplined where
  keeps := by
    intro s k l s' k' j m hstep hm
    rw [body_need] at hm ⊢
    -- Only branch `0` of the body is the future itself
    by_cases hj : j = 0
    · rw [if_pos hj] at hm ⊢
      rcases h.keeps hstep hm with hold | hwants
      · exact .inl hold
      · exact .inr ⟨hj, hwants⟩
    · rw [if_neg hj] at hm
      exact absurd hm List.not_mem_nil
  alone := by
    intro k j hholds
    rw [body_need] at hholds ⊢
    by_cases hj : j = 0
    · rw [if_pos hj] at hholds ⊢
      exact h.alone hholds
    · rw [if_neg hj]
      rfl
  ends := by
    intro k j hneed s
    rw [body_need] at hneed
    by_cases hj : j = 0
    · rw [if_pos hj] at hneed
      obtain ⟨l, hl⟩ := h.ends hneed s
      exact ⟨l, hj.symm, hl⟩
    · rw [if_neg hj] at hneed
      exact absurd rfl hneed

/-- A future that holds nothing is an unguarded body. -/
theorem unguarded_body {k : κ} (h : (F.need k).holds = []) : F.body.Unguarded k := by
  intro j
  rw [body_need]
  by_cases hj : j = 0
  · rw [if_pos hj, h]
  · rw [if_neg hj]
    rfl

end Future

/-! ## Several futures -/

/-- `try_join_all`: the members are polled side by side. -/
inductive TryJoinAll (κ ε : Type*) where
  | joining (members : List κ)
  | returned (result : Except ε Unit)
  deriving DecidableEq

namespace TryJoinAll

variable {σ κ ℓ ε : Type*} (F : Future σ κ ℓ) (result? : κ → Option (Except ε Unit))

/-- Nothing to join: it returns at once. -/
def start (members : List κ) : TryJoinAll κ ε :=
  match members with
  | [] => .returned (.ok ())
  | _ => .joining members

/-- After a step of one member: the first error ends it and drops the other members, and it
returns when all members have. This is how up to 30 futures are joined, which are polled in their
order; more are collected from a queue, which returns an error when all the members before it have
returned, while the others go on. -/
def after (members : List κ) (stepped : κ) : TryJoinAll κ ε :=
  match result? stepped with
  | some (.error e) => .returned (.error e)
  | _ =>
    if members.all fun k => (result? k).isSome then .returned (.ok ()) else .joining members

/-- One member takes a step. -/
def step (s : σ) : TryJoinAll κ ε → Nat × ℓ → Option (σ × TryJoinAll κ ε)
  | .joining members, (i, l) =>
    match members[i]? with
    | none => none
    | some k => (F.step s k l).map fun p => (p.1, after result? (members.set i p.2) p.2)
  | .returned _, _ => none

/-- The needs of the members that are joined. -/
def needs : TryJoinAll κ ε → List Need
  | .joining members => members.map F.need
  | .returned _ => []

/-- The operation that joins futures. -/
def body : Body σ (TryJoinAll κ ε) (Nat × ℓ) where
  step := step F result?
  future l := l.1
  needs := needs F

variable {F result?} {t : TryJoinAll κ ε} {j : Nat}

/-- After a step it has returned, or its members are joined as before. -/
theorem after_cases (members : List κ) (stepped : κ) :
    (∃ r, after result? members stepped = .returned r) ∨
      after result? members stepped = .joining members := by
  rw [after]
  split
  · exact .inl ⟨_, rfl⟩
  · split
    · exact .inl ⟨_, rfl⟩
    · exact .inr rfl

variable (result?) in
/-- The first error ends it, and so does the return of the last member. -/
theorem after_eq (members : List κ) (stepped : κ) :
    (∃ e, result? stepped = some (.error e) ∧
      after result? members stepped = .returned (.error e)) ∨
    (∀ e, result? stepped ≠ some (.error e)) ∧
      ((∀ k ∈ members, result? k ≠ none) ∧ after result? members stepped = .returned (.ok ()) ∨
        (∃ k ∈ members, result? k = none) ∧
          after result? members stepped = .joining members) := by
  rw [after]
  split
  · rename_i e he
    exact .inl ⟨e, he, rfl⟩
  · rename_i hne
    refine .inr ⟨fun e he => hne e he, ?_⟩
    by_cases hall : members.all fun k => (result? k).isSome
    · refine .inl ⟨fun k hk hnone => ?_, if_pos hall⟩
      have hsome := List.all_eq_true.mp hall k hk
      rw [hnone] at hsome
      cases hsome
    · -- not all have results, so one has none
      refine .inr ⟨?_, if_neg hall⟩
      by_contra hnone
      apply hall
      rw [List.all_eq_true]
      intro k hk
      cases hresult : result? k with
      | none => exact absurd ⟨k, hk, hresult⟩ hnone
      | some r => rfl

/-- How far the futures are that have been joined, given how far each of them is. -/
def Joins (result? : κ → Option (Except ε Unit)) (members : List κ) : TryJoinAll κ ε → Prop
  | .joining joined => joined = members ∧ ∀ k ∈ members, ∀ e, result? k ≠ some (.error e)
  | .returned (.ok ()) => ∀ k ∈ members, result? k = some (.ok ())
  | .returned (.error e) => ∃ k ∈ members, result? k = some (.error e)

/-- Futures of which none has returned can be joined. -/
theorem joins_start {members : List κ} (h : ∀ k ∈ members, result? k = none) :
    Joins result? members (start members) := by
  cases members with
  | nil => exact fun k hk => absurd hk List.not_mem_nil
  | cons k members =>
    refine ⟨rfl, fun k' hk' e he => ?_⟩
    rw [h k' hk'] at he
    cases he

/-- A step of one member, while the futures are joined. -/
theorem Joins.after {members joined : List κ} {i : Nat} {k : κ}
    (h : Joins result? members (.joining joined)) (hi : i < members.length) :
    Joins result? (members.set i k) (after result? (members.set i k) k) := by
  obtain ⟨-, hruns⟩ := h
  have hmem : k ∈ members.set i k := List.mem_set hi k
  -- An error of this member is the result; else no member has failed, and all have returned or not
  rcases after_eq result? (members.set i k) k with ⟨e, he, hafter⟩ | ⟨hk, hrest⟩
  · rw [hafter]
    exact ⟨k, hmem, he⟩
  · have hruns' : ∀ k' ∈ members.set i k, ∀ e, result? k' ≠ some (.error e) := by
      intro k' hk' e
      rcases List.mem_or_eq_of_mem_set hk' with hold | rfl
      · exact hruns k' hold e
      · exact hk e
    rcases hrest with ⟨hall, hafter⟩ | ⟨-, hafter⟩
    · rw [hafter]
      intro k' hk'
      cases hresult : result? k' with
      | none => exact absurd hresult (hall k' hk')
      | some result =>
        cases result with
        | ok _ => rfl
        | error e => exact absurd hresult (hruns' k' hk' e)
    · rw [hafter]
      exact ⟨rfl, hruns'⟩

/-- The need of a future is that of the member it is. -/
theorem need_joining {members : List κ} {k : κ} (h : members[j]? = some k) :
    (body F result?).need (.joining members) j = F.need k := by
  simp [Body.need, body, needs, h]

/-- Only members need anything. -/
theorem exists_member (h : (body F result?).need t j ≠ .nothing) :
    ∃ members k, t = .joining members ∧ members[j]? = some k := by
  cases t with
  | returned r => exact absurd rfl h
  | joining members =>
    cases hk : members[j]? with
    | none =>
      apply absurd _ h
      simp [Body.need, body, needs, hk]
    | some k => exact ⟨members, k, rfl, hk⟩

/-- The members that are joined stay the same ones. -/
theorem after_joining {members members' : List κ} {stepped : κ}
    (h : after result? members stepped = .joining members') : members' = members := by
  rw [after] at h
  split at h
  · cases h
  · split at h
    · cases h
    · cases h
      rfl

/-- A step is one of a member. -/
theorem step_cases {s s' : σ} {t t' : TryJoinAll κ ε} {l : Nat × ℓ}
    (h : step F result? s t l = some (s', t')) :
    ∃ members k k', t = .joining members ∧ members[l.1]? = some k ∧
      F.step s k l.2 = some (s', k') ∧ t' = after result? (members.set l.1 k') k' := by
  cases t with
  | returned r => cases h
  | joining members =>
    simp only [step] at h
    split at h
    · -- only members that are there take steps
      cases h
    · rename_i k hk
      obtain ⟨p, hp, he⟩ := Option.map_eq_some_iff.mp h
      cases he
      exact ⟨members, k, p.2, rfl, hk, hp, rfl⟩

/-- Joined futures are disciplined if each of them is. -/
theorem disciplined (hF : F.Disciplined) :
    (body F result? : Body σ (TryJoinAll κ ε) (Nat × ℓ)).Disciplined where
  keeps := by
    rintro s t ⟨i, l⟩ s' t' j m hstep hm
    have hne : (body F result?).need t' j ≠ .nothing := fun hn => by
      rw [hn] at hm
      exact absurd hm List.not_mem_nil
    -- There is a guard, so the members have not been dropped
    obtain ⟨members', k', rfl, hk'⟩ := exists_member hne
    rw [need_joining hk'] at hm
    obtain ⟨members, k, k₁, rfl, hk, hp, hafter⟩ := step_cases hstep
    -- It goes on, so only the member that stepped has changed
    obtain rfl := after_joining hafter.symm
    by_cases hij : i = j
    · subst hij
      rw [List.getElem?_set_self (List.getElem?_eq_some_iff.mp hk).1] at hk'
      cases hk'
      rw [need_joining hk]
      rcases hF.keeps hp hm with hold | hwants
      · exact .inl hold
      · exact .inr ⟨rfl, hwants⟩
    · rw [List.getElem?_set_ne hij] at hk'
      rw [need_joining hk']
      exact .inl hm
  alone := by
    intro t j hholds
    have hne : (body F result?).need t j ≠ .nothing := fun hn => hholds (by rw [hn]; rfl)
    obtain ⟨members, k, rfl, hk⟩ := exists_member hne
    rw [need_joining hk] at hholds ⊢
    exact hF.alone hholds
  ends := by
    intro t j hneed s
    obtain ⟨members, k, rfl, hk⟩ := exists_member hneed
    rw [need_joining hk] at hneed
    obtain ⟨l, hl⟩ := hF.ends hneed s
    refine ⟨(j, l), rfl, ?_⟩
    simp only [body, step, hk, Option.isSome_map]
    exact hl

/-- It starts with the guards that its members start with. -/
theorem unguarded_start {members : List κ} (h : ∀ k ∈ members, (F.need k).holds = []) :
    (body F result? : Body σ (TryJoinAll κ ε) (Nat × ℓ)).Unguarded (start members) := by
  intro j
  by_contra hholds
  have hne : (body F result? : Body σ (TryJoinAll κ ε) (Nat × ℓ)).need (start members) j ≠
      .nothing := fun hn => hholds (by rw [hn]; rfl)
  obtain ⟨members', k, he, hk⟩ := exists_member hne
  rw [he, need_joining hk] at hholds
  cases members with
  | nil => cases he
  | cons k₀ members =>
    cases he
    exact hholds (h k (List.mem_of_getElem? hk))

end TryJoinAll

end RwLock
