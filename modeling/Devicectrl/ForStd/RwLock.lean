import Devicectrl.ForStd.System
import Mathlib.Data.List.Nodup
import Mathlib.Logic.Relation

/-!
# Operations that share a fair read-write lock

Any number of operations on a store, each made of one or more futures that are polled side by
side: a future waits for none of its siblings. The lock is first come, first served, so a
writer in the queue blocks the readers behind it.

`needs` tells what each future of an operation needs of the lock where it awaits: the guards
that are in scope there, and the lock itself if this is what it awaits. A guard is dropped with
its scope, and with its operation when that is dropped.

## Key results

- `WellFormed.progress`: whoever waits for the lock waits for a future that can take a step
- `WellFormed.not_circular`: no future waits for itself
- `Disciplined.deadlockFree`: both in every state of every run
- `Exclusive.run`: a writer is alone with its guard
-/

namespace RwLock

/-- How the lock is held. -/
inductive Mode where
  | read
  | write
  deriving DecidableEq, Repr

/-- The two guards can be held side by side. -/
def Mode.compatible : Mode → Mode → Bool
  | .read, .read => true
  | _, _ => false

/-- It does not matter which of two guards came first. -/
theorem Mode.compatible_comm (m m' : Mode) : m.compatible m' = m'.compatible m := by
  cases m <;> cases m' <;> rfl

/-- What a future needs of the lock where it awaits. -/
structure Need where
  holds : List Mode
  wants : Option Mode
  deriving DecidableEq, Repr

/-- Of a future that neither holds the lock nor asks for it. -/
def Need.nothing : Need := ⟨[], none⟩

/-- A future: the number of its operation, and its own number in that. -/
abbrev Owner := Nat × Nat

/-- Operations `κ` on a store `σ`. Those who do not use the lock act on the store by `ε`, an
operation starts with a `ν`, and each step `ℓ` is one of its futures'. -/
structure Operations (σ κ ε ν ℓ : Type*) where
  env : σ → ε → Option σ
  spawn : σ → ν → Option (σ × κ)
  step : σ → κ → ℓ → Option (σ × κ)
  future : ℓ → Nat
  needs : κ → List Need

/-- `granted` are the futures that have the lock they awaited and have not run since. An
operation that was dropped is `none`. -/
structure State (σ κ : Type*) where
  shared : σ
  ops : List (Option κ)
  granted : List Owner
  queue : List (Owner × Mode)

/-- What happens to the lock and to the operations that use it. -/
inductive Act (ε ν ℓ : Type*) where
  | env (e : ε)
  | spawn (v : ν)
  /-- A future that awaits the lock is polled for the first time. -/
  | enqueue (o : Owner)
  /-- The first in the queue gets the lock. -/
  | acquire
  | step (i : Nat) (l : ℓ)
  | cancel (i : Nat)
  deriving DecidableEq

namespace State

variable {σ κ : Type*}

/-- Operation `i` changes. Its futures that do not stay leave the queue and give up the lock. -/
def put (st : State σ κ) (i : Nat) (op : Option κ) (shared : σ) (stays : Nat → Bool) :
    State σ κ where
  shared
  ops := st.ops.set i op
  granted := st.granted.filter fun o => o.1 ≠ i ∨ stays o.2
  queue := st.queue.filter fun e => e.1.1 ≠ i ∨ stays e.1.2

/-- No operation has begun, and nobody waits. -/
def initial (shared : σ) : State σ κ :=
  ⟨shared, [], [], []⟩

end State

namespace Operations

variable {σ κ ε ν ℓ : Type*} (S : Operations σ κ ε ν ℓ)

/-- What future `j` of an operation needs, and nothing once the operation is over. -/
def need (k : κ) (j : Nat) : Need :=
  (S.needs k)[j]?.getD .nothing

/-- What an owner needs in a state. -/
def needAt (st : State σ κ) (o : Owner) : Need :=
  match st.ops[o.1]? with
  | some (some k) => S.need k o.2
  | _ => .nothing

/-- The guards a future has. -/
def guards (st : State σ κ) (o : Owner) : List Mode :=
  (S.needAt st o).holds ++ if o ∈ st.granted then (S.needAt st o).wants.toList else []

/-- Every future of every operation there is. -/
def owners (st : State σ κ) : List Owner :=
  (List.range st.ops.length).flatMap fun i =>
    match st.ops[i]? with
    | some (some k) => (List.range (S.needs k).length).map fun j => (i, j)
    | _ => []

/-- The lock can be had besides all guards there are. -/
def admits (st : State σ κ) (m : Mode) : Bool :=
  (S.owners st).all fun o => (S.guards st o).all m.compatible

/-- One action. A request joins the end of the queue, and only the front of the queue is admitted.
-/
def exec (st : State σ κ) : Act ε ν ℓ → Option (State σ κ)
  | .env e => (S.env st.shared e).map fun shared => { st with shared }
  | .spawn v =>
    (S.spawn st.shared v).map fun p => { st with shared := p.1, ops := st.ops ++ [some p.2] }
  | .enqueue o =>
    match (S.needAt st o).wants with
    | none => none
    | some m =>
      if o ∈ st.granted ∨ o ∈ st.queue.map Prod.fst then none
      else some { st with queue := st.queue ++ [(o, m)] }
  | .acquire =>
    match st.queue with
    | [] => none
    | (o, m) :: rest =>
      if S.admits st m then some { st with granted := o :: st.granted, queue := rest } else none
  | .step i l =>
    match st.ops[i]? with
    | some (some k) =>
      -- A future that awaits the lock runs once it has it
      if (S.need k (S.future l)).wants = none ∨ (i, S.future l) ∈ st.granted then
        (S.step st.shared k l).map fun p =>
          st.put i (some p.2) p.1 fun j => j ≠ S.future l ∧ S.need p.2 j = S.need k j
      else none
    | _ => none
  | .cancel i =>
    match st.ops[i]? with
    | some (some _) => some (st.put i none st.shared fun _ => false)
    | _ => none

/-- A run of actions. -/
abbrev run (st : State σ κ) (as : List (Act ε ν ℓ)) : Option (State σ κ) :=
  Lts.run S.exec st as

/-! ## Who waits for whom -/

/-- The future awaits the lock and does not have it. -/
def Waits (st : State σ κ) (o : Owner) : Prop :=
  (S.needAt st o).wants ≠ none ∧ o ∉ st.granted

/-- In the queue, a future waits for those ahead of it and for those with a guard that keeps it
from the lock. -/
def WaitsFor (st : State σ κ) (o o' : Owner) : Prop :=
  ∃ m ahead behind, st.queue = ahead ++ (o, m) :: behind ∧
    (o' ∈ ahead.map Prod.fst ∨ ∃ m' ∈ S.guards st o', m.compatible m' = false)

/-- The steps by which a future gets ahead: not those that start or drop operations. -/
def Advances (st : State σ κ) (o : Owner) : Act ε ν ℓ → Prop
  | .enqueue o' => o' = o
  | .acquire => (st.queue.map Prod.fst).head? = some o
  | .step i l => (i, S.future l) = o
  | _ => False

/-- Waiting for the lock is not in vain and never circular, and whoever has a guard goes on by
itself, whatever its siblings wait for. -/
structure DeadlockFree (st : State σ κ) : Prop where
  progress : ∀ o, S.Waits st o → ∃ o' a, Relation.ReflTransGen (S.WaitsFor st) o o' ∧
    S.Advances st o' a ∧ (S.exec st a).isSome
  acyclic : ∀ o, ¬Relation.TransGen (S.WaitsFor st) o o
  holders : ∀ o, S.guards st o ≠ [] →
    ∃ l, S.future l = o.2 ∧ (S.exec st (.step o.1 l)).isSome

/-! ## Discipline -/

/-- What the operations keep to. A step brings no guard but the lock that was awaited; no future
awaits the lock while it has a guard in scope; and whatever else it awaits meanwhile ends. -/
structure Disciplined : Prop where
  spawned : ∀ {s v s' k j}, S.spawn s v = some (s', k) → (S.need k j).holds = []
  keeps : ∀ {s k l s' k' j m}, S.step s k l = some (s', k') → m ∈ (S.need k' j).holds →
    m ∈ (S.need k j).holds ∨ j = S.future l ∧ (S.need k j).wants = some m
  alone : ∀ {k j}, (S.need k j).holds ≠ [] → (S.need k j).wants = none
  ends : ∀ {k j}, S.need k j ≠ .nothing → ∀ s, ∃ l, S.future l = j ∧ (S.step s k l).isSome

/-- The queue holds futures that await the lock, each once, and only those that await it have
been granted it. -/
structure WellFormed (st : State σ κ) : Prop where
  queued : ∀ e ∈ st.queue, (S.needAt st e.1).wants = some e.2 ∧ e.1 ∉ st.granted
  granted : ∀ o ∈ st.granted, (S.needAt st o).wants ≠ none
  nodup : (st.queue.map Prod.fst).Nodup

/-- Guards that are held side by side are compatible. -/
def Exclusive (st : State σ κ) : Prop :=
  ∀ o o' m m', m ∈ S.guards st o → m' ∈ S.guards st o' → o ≠ o' → m.compatible m' = true

/-! ## Needs and guards -/

section Needs

variable {S} {st : State σ κ} {o : Owner} {m : Mode}

/-- The need of an owner is read off its operation. -/
theorem needAt_of {k : κ} (h : st.ops[o.1]? = some (some k)) :
    S.needAt st o = S.need k o.2 := by
  rw [needAt, h]

/-- Only an operation that is there needs anything. -/
theorem exists_of_need (h : S.needAt st o ≠ .nothing) : ∃ k, st.ops[o.1]? = some (some k) := by
  rw [needAt] at h
  split at h
  · rename_i k hk
    exact ⟨k, hk⟩
  · exact absurd rfl h

/-- A future that holds a guard has a need. -/
theorem need_ne_nothing_of_holds (h : m ∈ (S.needAt st o).holds) :
    S.needAt st o ≠ .nothing := by
  intro hn
  rw [hn] at h
  exact absurd h List.not_mem_nil

/-- So has one that wants a guard. -/
theorem need_ne_nothing_of_wants (h : (S.needAt st o).wants ≠ none) :
    S.needAt st o ≠ .nothing := by
  intro hn
  rw [hn] at h
  exact h rfl

/-- A guard is held, or was granted to a future that has yet to see it. -/
theorem mem_guards : m ∈ S.guards st o ↔
    m ∈ (S.needAt st o).holds ∨ o ∈ st.granted ∧ (S.needAt st o).wants = some m := by
  rw [guards, List.mem_append]
  by_cases ho : o ∈ st.granted
  · rw [if_pos ho, Option.mem_toList]
    simp [ho]
  · rw [if_neg ho]
    simp [ho]

/-- An owner of a guard has a need. -/
theorem need_ne_nothing_of_guards (h : m ∈ S.guards st o) : S.needAt st o ≠ .nothing := by
  rcases mem_guards.mp h with h | ⟨-, h⟩
  · exact need_ne_nothing_of_holds h
  · apply need_ne_nothing_of_wants
    rw [h]
    simp

/-- A future with a guard is one of the owners. -/
theorem mem_owners (h : m ∈ S.guards st o) : o ∈ S.owners st := by
  have hneed := need_ne_nothing_of_guards h
  obtain ⟨k, hk⟩ := exists_of_need hneed
  rw [needAt_of hk] at hneed
  have hj : o.2 < (S.needs k).length := by
    by_contra hge
    apply hneed
    rw [need, List.getElem?_eq_none (by omega), Option.getD_none]
  rw [owners, List.mem_flatMap]
  refine ⟨o.1, List.mem_range.mpr (List.getElem?_eq_some_iff.mp hk).1, ?_⟩
  simp only [hk]
  exact List.mem_map.mpr ⟨o.2, List.mem_range.mpr hj, rfl⟩

/-- A mode is admitted when every guard there is goes with it. -/
theorem admits_iff :
    S.admits st m = true ↔ ∀ o, ∀ m' ∈ S.guards st o, m.compatible m' = true := by
  simp only [admits, List.all_eq_true]
  constructor
  · intro h o m' hm'
    exact h o (mem_owners hm') m' hm'
  · intro h o _ m' hm'
    exact h o m' hm'

/-- The lock is refused because of some guard. -/
theorem exists_guard_of_not_admits (h : S.admits st m ≠ true) :
    ∃ o, ∃ m' ∈ S.guards st o, m.compatible m' = false := by
  by_contra hno
  apply h
  rw [admits_iff]
  intro o m' hm'
  by_contra hne
  exact hno ⟨o, m', hm', by simpa using hne⟩

/-! ### After an operation has changed -/

variable {i : Nat} {op : Option κ} {shared : σ} {stays : Nat → Bool}

/-- The other operations need what they did. -/
theorem needAt_put_ne (h : o.1 ≠ i) : S.needAt (st.put i op shared stays) o = S.needAt st o := by
  rw [needAt, needAt, State.put]
  simp only
  rw [List.getElem?_set_ne (Ne.symm h)]

/-- The operation that was put there needs what it says. -/
theorem needAt_put_self (hi : i < st.ops.length) (h : o.1 = i) :
    S.needAt (st.put i op shared stays) o =
      match op with
      | some k => S.need k o.2
      | none => .nothing := by
  subst h
  rw [needAt, State.put]
  simp only
  rw [List.getElem?_set_self hi]
  cases op with
  | none => rfl
  | some k => rfl

/-- A grant is kept by the other operations, and by the futures that stay. -/
theorem mem_granted_put :
    o ∈ (st.put i op shared stays).granted ↔ o ∈ st.granted ∧ (o.1 ≠ i ∨ stays o.2) := by
  simp [State.put]

/-- So is a place in the queue. -/
theorem mem_queue_put {e : Owner × Mode} :
    e ∈ (st.put i op shared stays).queue ↔ e ∈ st.queue ∧ (e.1.1 ≠ i ∨ stays e.1.2) := by
  simp [State.put]

/-- The futures of other operations get no guard. -/
theorem mem_guards_of_put_ne (h : o.1 ≠ i) (hm : m ∈ S.guards (st.put i op shared stays) o) :
    m ∈ S.guards st o := by
  rw [mem_guards, needAt_put_ne h, mem_granted_put] at hm
  rw [mem_guards]
  rcases hm with hholds | ⟨⟨hg, -⟩, hwants⟩
  · exact .inl hholds
  · exact .inr ⟨hg, hwants⟩

/-- A new operation changes nothing for those that are there. -/
theorem needAt_spawn (k : κ) (h : o.1 < st.ops.length) :
    S.needAt { st with shared, ops := st.ops ++ [some k] } o = S.needAt st o := by
  rw [needAt, needAt]
  simp only
  rw [List.getElem?_append_left h]

/-- Who needs anything is a future of an operation. -/
theorem lt_of_need (h : S.needAt st o ≠ .nothing) : o.1 < st.ops.length := by
  obtain ⟨k, hk⟩ := exists_of_need h
  exact (List.getElem?_eq_some_iff.mp hk).1

end Needs

/-! ## What a step does -/

section Steps

variable {S} {st st' : State σ κ} {i : Nat}

/-- The environment changes the data only. -/
theorem exec_env {e : ε} (h : S.exec st (.env e) = some st') :
    ∃ shared, st' = { st with shared } := by
  obtain ⟨shared, -, rfl⟩ := Option.map_eq_some_iff.mp h
  exact ⟨shared, rfl⟩

/-- A new operation begins without a guard and outside the queue. -/
theorem exec_spawn {v : ν} (h : S.exec st (.spawn v) = some st') :
    ∃ shared k, S.spawn st.shared v = some (shared, k) ∧
      st' = { st with shared, ops := st.ops ++ [some k] } := by
  obtain ⟨p, hp, rfl⟩ := Option.map_eq_some_iff.mp h
  exact ⟨p.1, p.2, hp, rfl⟩

/-- A future that asks for the lock goes to the end of the queue. -/
theorem exec_enqueue {o : Owner} (h : S.exec st (.enqueue o) = some st') :
    ∃ m, (S.needAt st o).wants = some m ∧ o ∉ st.granted ∧ o ∉ st.queue.map Prod.fst ∧
      st' = { st with queue := st.queue ++ [(o, m)] } := by
  simp only [exec] at h
  split at h
  · cases h
  · rename_i m hm
    split at h
    · cases h
    · rename_i hno
      cases h
      exact ⟨m, hm, fun hg => hno (.inl hg), fun hq => hno (.inr hq), rfl⟩

/-- The front of the queue is granted what it asks for. -/
theorem exec_acquire (h : S.exec st .acquire = some st') :
    ∃ o m rest, st.queue = (o, m) :: rest ∧ S.admits st m = true ∧
      st' = { st with granted := o :: st.granted, queue := rest } := by
  simp only [exec] at h
  split at h
  · cases h
  · rename_i o m rest hq
    split at h
    · rename_i hadmits
      cases h
      exact ⟨o, m, rest, hq, hadmits, rfl⟩
    · cases h

/-- A step is one of a future that does not wait. The needs of the others stay. -/
theorem exec_step {l : ℓ} (h : S.exec st (.step i l) = some st') :
    ∃ k shared k', st.ops[i]? = some (some k) ∧
      ((S.need k (S.future l)).wants = none ∨ (i, S.future l) ∈ st.granted) ∧
      S.step st.shared k l = some (shared, k') ∧
      st' = st.put i (some k') shared fun j => j ≠ S.future l ∧ S.need k' j = S.need k j := by
  simp only [exec] at h
  split at h
  · rename_i k hk
    split at h
    · rename_i hready
      obtain ⟨p, hp, rfl⟩ := Option.map_eq_some_iff.mp h
      -- The future had no need of the lock, or a guard that was granted
      exact ⟨k, p.1, p.2, hk, hready, hp, rfl⟩
    · cases h
  · cases h

/-- An operation that is dropped leaves the queue and its guards. -/
theorem exec_cancel (h : S.exec st (.cancel i) = some st') :
    ∃ k, st.ops[i]? = some (some k) ∧ st' = st.put i none st.shared fun _ => false := by
  simp only [exec] at h
  split at h
  · rename_i k hk
    cases h
    exact ⟨k, hk, rfl⟩
  · cases h

/-- An operation changes, and those of its futures that stay need what they needed. -/
theorem WellFormed.put (h : S.WellFormed st) (hi : i < st.ops.length) {op : Option κ}
    {shared : σ} {stays : Nat → Bool}
    (hstays : ∀ j, stays j → S.needAt (st.put i op shared stays) (i, j) = S.needAt st (i, j)) :
    S.WellFormed (st.put i op shared stays) := by
  have hsame : ∀ o : Owner, o.1 ≠ i ∨ stays o.2 →
      S.needAt (st.put i op shared stays) o = S.needAt st o := by
    intro o ho
    by_cases hoi : o.1 = i
    · subst hoi
      exact hstays o.2 (ho.resolve_left fun hne => hne rfl)
    · exact needAt_put_ne hoi
  -- Whoever is left in the queue, or with a guard, needs what it needed
  refine ⟨fun e he => ?_, fun o ho => ?_, ?_⟩
  · obtain ⟨he, hstay⟩ := mem_queue_put.mp he
    obtain ⟨hwants, hgranted⟩ := h.queued e he
    rw [hsame e.1 hstay]
    exact ⟨hwants, fun hg => hgranted (mem_granted_put.mp hg).1⟩
  · obtain ⟨ho, hstay⟩ := mem_granted_put.mp ho
    rw [hsame o hstay]
    exact h.granted o ho
  · exact h.nodup.sublist (List.filter_sublist.map _)

/-- Every step keeps the queue well formed. -/
theorem WellFormed.exec {a : Act ε ν ℓ} (h : S.WellFormed st) (hexec : S.exec st a = some st') :
    S.WellFormed st' := by
  cases a with
  | env e =>
    obtain ⟨shared, rfl⟩ := exec_env hexec
    exact ⟨h.queued, h.granted, h.nodup⟩
  | spawn v =>
    obtain ⟨shared, k, -, rfl⟩ := exec_spawn hexec
    -- It comes behind all other operations, so nobody in the queue is one of its futures
    refine ⟨fun e he => ?_, fun o ho => ?_, h.nodup⟩
    · obtain ⟨hwants, hgranted⟩ := h.queued e he
      have hlt : e.1.1 < st.ops.length :=
        lt_of_need (need_ne_nothing_of_wants (by rw [hwants]; simp))
      rw [needAt_spawn k hlt]
      exact ⟨hwants, hgranted⟩
    · have hwants := h.granted o ho
      rw [needAt_spawn k (lt_of_need (need_ne_nothing_of_wants hwants))]
      exact hwants
  | enqueue o =>
    obtain ⟨m, hwants, hgranted, hqueue, rfl⟩ := exec_enqueue hexec
    refine ⟨fun e he => ?_, h.granted, ?_⟩
    · rcases List.mem_append.mp he with he | he
      · exact h.queued e he
      · obtain rfl := List.mem_singleton.mp he
        exact ⟨hwants, hgranted⟩
    · rw [List.map_append, List.nodup_append]
      refine ⟨h.nodup, List.nodup_singleton _, fun a ha b hb hab => ?_⟩
      obtain rfl : b = o := by simpa using hb
      exact hqueue (hab ▸ ha)
  | acquire =>
    obtain ⟨o, m, rest, hq, -, rfl⟩ := exec_acquire hexec
    have hnodup := h.nodup
    rw [hq, List.map_cons, List.nodup_cons] at hnodup
    have hqueued := h.queued
    rw [hq] at hqueued
    -- The first was in the queue once, so nobody with a guard is left in it
    refine ⟨fun e he => ?_, fun o' ho' => ?_, hnodup.2⟩
    · obtain ⟨hwants, hgranted⟩ := hqueued e (List.mem_cons_of_mem _ he)
      refine ⟨hwants, fun hg => ?_⟩
      rcases List.mem_cons.mp hg with heq | hg
      · exact hnodup.1 (List.mem_map.mpr ⟨e, he, heq⟩)
      · exact hgranted hg
    · rcases List.mem_cons.mp ho' with rfl | ho'
      · obtain ⟨hwants, -⟩ := hqueued _ List.mem_cons_self
        rw [show S.needAt { st with granted := _, queue := rest } _ = S.needAt st _ from rfl,
          hwants]
        simp
      · exact h.granted o' ho'
  | step i l =>
    obtain ⟨k, shared, k', hk, -, -, rfl⟩ := exec_step hexec
    have hi := (List.getElem?_eq_some_iff.mp hk).1
    apply h.put hi
    intro j hj
    have hneed : S.need k' j = S.need k j := by simpa using (of_decide_eq_true hj).2
    rw [needAt_put_self hi rfl, needAt_of hk]
    exact hneed
  | cancel i =>
    obtain ⟨k, hk, rfl⟩ := exec_cancel hexec
    apply h.put (List.getElem?_eq_some_iff.mp hk).1
    intro j hj
    cases hj

end Steps

/-- Nobody has anything in the beginning. -/
theorem WellFormed.initial (shared : σ) : S.WellFormed (State.initial shared) :=
  ⟨fun _ he => absurd he List.not_mem_nil, fun _ ho => absurd ho List.not_mem_nil,
    List.nodup_nil⟩

/-- Every state that is reached is well formed. -/
theorem WellFormed.run {shared : σ} {st : State σ κ} {as : List (Act ε ν ℓ)}
    (h : S.run (State.initial shared) as = some st) : S.WellFormed st :=
  Lts.run_invariant _ (fun _ _ _ hs hexec => hs.exec hexec) h (.initial S shared)

/-! ## No deadlock -/

section Progress

variable {S} {st st' : State σ κ} {o : Owner} {m : Mode}

/-- A future with a guard in scope does not await the lock. -/
theorem Disciplined.wants_of_holds (hS : S.Disciplined) (hm : m ∈ (S.needAt st o).holds) :
    (S.needAt st o).wants = none := by
  obtain ⟨k, hk⟩ := exists_of_need (need_ne_nothing_of_holds hm)
  rw [needAt_of hk] at hm ⊢
  exact hS.alone (List.ne_nil_of_mem hm)

/-- A future that has a guard can take a step. -/
theorem Disciplined.holder_steps (hS : S.Disciplined) (hm : m ∈ S.guards st o) :
    ∃ l, S.future l = o.2 ∧ (S.exec st (.step o.1 l)).isSome := by
  -- A future with a guard is ready, and `ends` gives it a step
  have hne := need_ne_nothing_of_guards hm
  have hready : (S.needAt st o).wants = none ∨ o ∈ st.granted := by
    rcases mem_guards.mp hm with h | ⟨hg, -⟩
    · exact .inl (hS.wants_of_holds h)
    · exact .inr hg
  obtain ⟨k, hk⟩ := exists_of_need hne
  rw [needAt_of hk] at hne hready
  obtain ⟨l, hl, hstep⟩ := hS.ends hne st.shared
  refine ⟨l, hl, ?_⟩
  have hready : (S.need k (S.future l)).wants = none ∨ (o.1, S.future l) ∈ st.granted := by
    rw [hl]
    exact hready
  simp only [exec, hk, if_pos hready]
  rw [Option.isSome_map]
  exact hstep

/-- A future with a guard is not in the queue. -/
theorem WellFormed.not_queued (h : S.WellFormed st) (hS : S.Disciplined)
    (hm : m ∈ S.guards st o) : o ∉ st.queue.map Prod.fst := by
  intro hq
  obtain ⟨e, he, rfl⟩ := List.mem_map.mp hq
  obtain ⟨hwants, hgranted⟩ := h.queued e he
  rcases mem_guards.mp hm with hh | ⟨hg, -⟩
  · rw [hS.wants_of_holds hh] at hwants
    cases hwants
  · exact hgranted hg

/-- The first in the queue gets the lock, or waits for a future with a guard. -/
theorem front_progress (hS : S.Disciplined) {rest : List (Owner × Mode)}
    (hq : st.queue = (o, m) :: rest) :
    ∃ o' a, Relation.ReflTransGen (S.WaitsFor st) o o' ∧ S.Advances st o' a ∧
      (S.exec st a).isSome := by
  by_cases hadmits : S.admits st m = true
  · refine ⟨o, .acquire, .refl, ?_, ?_⟩
    · rw [Advances, hq]
      rfl
    · simp only [exec, hq, if_pos hadmits, Option.isSome_some]
  · obtain ⟨o', m', hm', hconflict⟩ := exists_guard_of_not_admits hadmits
    obtain ⟨l, hl, hstep⟩ := hS.holder_steps hm'
    refine ⟨o', .step o'.1 l, .single ⟨m, [], rest, hq, .inr ⟨m', hm', hconflict⟩⟩, ?_, hstep⟩
    rw [Advances, hl]

/-- Whoever waits for the lock waits for a future that can take a step. -/
theorem WellFormed.progress (hS : S.Disciplined) (h : S.Waits st o) :
    ∃ o' a, Relation.ReflTransGen (S.WaitsFor st) o o' ∧ S.Advances st o' a ∧
      (S.exec st a).isSome := by
  obtain ⟨hwants, hgranted⟩ := h
  by_cases hq : o ∈ st.queue.map Prod.fst
  · obtain ⟨e, he, rfl⟩ := List.mem_map.mp hq
    obtain ⟨ahead, behind, hsplit⟩ := List.append_of_mem he
    cases ahead with
    | nil => exact front_progress hS hsplit
    | cons front ahead =>
      -- Only the first is served, so everybody behind it waits for it
      obtain ⟨o', a, hreach, hby, hstep⟩ := front_progress hS hsplit
      have hwait : S.WaitsFor st e.1 front.1 :=
        ⟨e.2, front :: ahead, behind, hsplit,
          .inl (List.mem_map.mpr ⟨front, List.mem_cons_self, rfl⟩)⟩
      exact ⟨o', a, .head hwait hreach, hby, hstep⟩
  · -- not even polled yet
    obtain ⟨m, hm⟩ := Option.ne_none_iff_exists'.mp hwants
    refine ⟨o, .enqueue o, .refl, rfl, ?_⟩
    have hno : ¬(o ∈ st.granted ∨ o ∈ st.queue.map Prod.fst) := by
      rintro (hg | hq')
      · exact hgranted hg
      · exact hq hq'
    simp only [Operations.exec, hm, if_neg hno, Option.isSome_some]

/-- A reader that awaits the lock again under its guard, and writers. -/
def reentrant : Operations Unit Nat Unit Nat Unit where
  env _ _ := none
  spawn _ stage := some ((), stage)
  step _ stage _ := some ((), stage + 1)
  future _ := 0
  needs
    | 0 => [⟨[], some .read⟩]
    | 1 => [⟨[.read], some .read⟩]
    | 10 => [⟨[], some .write⟩]
    | _ => []

-- Without discipline a writer that comes in between blocks the reader, and the reader the writer
example :
    (reentrant.run (.initial ()) [.spawn 0, .enqueue (0, 0), .acquire, .step 0 (), .spawn 10,
        .enqueue (1, 0), .enqueue (0, 0)]).map (fun st =>
      ((reentrant.exec st .acquire).isSome, (reentrant.exec st (.step 0 ())).isSome,
        (reentrant.exec st (.step 1 ())).isSome)) = some (false, false, false) := by
  decide

/-- The place of a future in the queue, counted from one. -/
def place (st : State σ κ) (o : Owner) : Nat :=
  if o ∈ st.queue.map Prod.fst then (st.queue.map Prod.fst).idxOf o + 1 else 0

/-- Whoever is waited for has a place further ahead. -/
theorem WellFormed.place_lt (h : S.WellFormed st) (hS : S.Disciplined) {o' : Owner}
    (hw : S.WaitsFor st o o') : place st o' < place st o := by
  obtain ⟨m, ahead, behind, hq, hw⟩ := hw
  have hmap : st.queue.map Prod.fst = ahead.map Prod.fst ++ o :: behind.map Prod.fst := by
    rw [hq, List.map_append, List.map_cons]
  have ho : o ∈ st.queue.map Prod.fst := by
    rw [hmap]
    exact List.mem_append_right _ List.mem_cons_self
  have hnodup := h.nodup
  rw [hmap, List.nodup_append] at hnodup
  have hnot : o ∉ ahead.map Prod.fst := fun hin =>
    hnodup.2.2 o hin o List.mem_cons_self rfl
  rw [place, place, if_pos ho]
  -- It is ahead in the queue, or has left it with a guard
  rcases hw with hahead | ⟨m', hm', -⟩
  · have ho' : o' ∈ st.queue.map Prod.fst := by
      rw [hmap]
      exact List.mem_append_left _ hahead
    rw [if_pos ho', hmap, List.idxOf_append_of_mem hahead, List.idxOf_append_of_notMem hnot,
      List.idxOf_cons_self]
    have hlt := List.idxOf_lt_length_iff.mpr hahead
    omega
  · rw [if_neg (h.not_queued hS hm')]
    exact Nat.succ_pos _

/-- No future waits for itself, however indirectly. -/
theorem WellFormed.not_circular (h : S.WellFormed st) (hS : S.Disciplined) (o : Owner) :
    ¬Relation.TransGen (S.WaitsFor st) o o := by
  have hlt : ∀ o₁ o₂, Relation.TransGen (S.WaitsFor st) o₁ o₂ → place st o₂ < place st o₁ := by
    intro o₁ o₂ hreach
    induction hreach with
    | single hw => exact h.place_lt hS hw
    | tail _ hw ih => exact Nat.lt_trans (h.place_lt hS hw) ih
  intro hreach
  exact Nat.lt_irrefl _ (hlt o o hreach)

/-! ## Mutual exclusion -/

/-- With no guard that was not there before, guards stay compatible. -/
theorem Exclusive.of_subset (h : S.Exclusive st)
    (hsub : ∀ o m, m ∈ S.guards st' o → m ∈ S.guards st o) : S.Exclusive st' :=
  fun o o' m m' hm hm' hne => h o o' m m' (hsub o m hm) (hsub o' m' hm') hne

/-- A new operation has no guard. -/
theorem WellFormed.mem_guards_of_spawn (h : S.WellFormed st) (hS : S.Disciplined) {v : ν}
    {shared : σ} {k : κ} (hspawn : S.spawn st.shared v = some (shared, k))
    (hm : m ∈ S.guards { st with shared, ops := st.ops ++ [some k] } o) : m ∈ S.guards st o := by
  by_cases ho : o.1 < st.ops.length
  · rw [mem_guards, needAt_spawn k ho] at hm
    exact mem_guards.mpr hm
  · exfalso
    -- It can only be the new operation, which holds nothing and has been granted nothing
    rcases mem_guards.mp hm with hholds | ⟨hg, -⟩
    · obtain ⟨k', hk'⟩ := exists_of_need (need_ne_nothing_of_holds hholds)
      rw [needAt_of hk'] at hholds
      have hlast : (st.ops ++ [some k])[o.1]? = some (some k') := hk'
      rw [List.getElem?_append_right (by omega)] at hlast
      have hmem := List.mem_of_getElem? hlast
      obtain rfl : k' = k := by simpa using hmem
      rw [hS.spawned hspawn] at hholds
      exact absurd hholds List.not_mem_nil
    · exact ho (lt_of_need (need_ne_nothing_of_wants (h.granted o hg)))

/-- The one new guard is that of the first in the queue. -/
theorem WellFormed.mem_guards_of_acquire (h : S.WellFormed st) {rest : List (Owner × Mode)}
    (hq : st.queue = (o, m) :: rest) {o' : Owner} {m' : Mode}
    (hm' : m' ∈ S.guards { st with granted := o :: st.granted, queue := rest } o') :
    m' ∈ S.guards st o' ∨ o' = o ∧ m' = m := by
  -- The front of the queue wants what it has queued for
  have hfront : (S.needAt st o).wants = some m := by
    obtain ⟨hwants, -⟩ := h.queued (o, m) (by rw [hq]; exact List.mem_cons_self)
    exact hwants
  rcases mem_guards.mp hm' with hholds | ⟨hg, hwants⟩
  · exact .inl (mem_guards.mpr (.inl hholds))
  · rcases List.mem_cons.mp hg with rfl | hg
    · right
      have hwants : (S.needAt st o').wants = some m' := hwants
      rw [hfront] at hwants
      exact ⟨rfl, (Option.some.inj hwants).symm⟩
    · exact .inl (mem_guards.mpr (.inr ⟨hg, hwants⟩))

/-- A step brings no guard but the lock that the future awaited, and had. -/
theorem Disciplined.mem_guards_of_step (hS : S.Disciplined) {i : Nat} {k k' : κ} {l : ℓ}
    {shared : σ} (hk : st.ops[i]? = some (some k))
    (hready : (S.need k (S.future l)).wants = none ∨ (i, S.future l) ∈ st.granted)
    (hstep : S.step st.shared k l = some (shared, k'))
    (hm : m ∈ S.guards (st.put i (some k') shared fun j => j ≠ S.future l ∧
      S.need k' j = S.need k j) o) : m ∈ S.guards st o := by
  by_cases ho : o.1 = i
  · -- its own future: a guard it keeps was one before, and it keeps none that was granted for the
    -- step
    subst ho
    rw [mem_guards, needAt_put_self (List.getElem?_eq_some_iff.mp hk).1 rfl, mem_granted_put] at hm
    rw [mem_guards, needAt_of hk]
    rcases hm with hholds | ⟨⟨hg, hstay⟩, hwants⟩
    · rcases hS.keeps hstep hholds with hold | ⟨hl, hwants⟩
      · exact .inl hold
      · right
        refine ⟨?_, hwants⟩
        rw [← hl] at hready
        rcases hready with hnone | hg
        · rw [hnone] at hwants
          cases hwants
        · exact hg
    · right
      refine ⟨hg, ?_⟩
      have hneed : S.need k' o.2 = S.need k o.2 := by
        have hstay := hstay.resolve_left fun hne => hne rfl
        exact (of_decide_eq_true hstay).2
      rw [← hneed]
      exact hwants
  · -- the guards of the other operations stay
    exact mem_guards_of_put_ne ho hm

/-- Every step leaves the guards that are held side by side compatible. -/
theorem Exclusive.exec (h : S.Exclusive st) (hwf : S.WellFormed st) (hS : S.Disciplined)
    {a : Act ε ν ℓ} (hexec : S.exec st a = some st') : S.Exclusive st' := by
  cases a with
  | env e =>
    obtain ⟨shared, rfl⟩ := exec_env hexec
    exact h
  | spawn v =>
    obtain ⟨shared, k, hspawn, rfl⟩ := exec_spawn hexec
    apply h.of_subset
    intro o m hm
    exact hwf.mem_guards_of_spawn hS hspawn hm
  | enqueue o =>
    obtain ⟨m, -, -, -, rfl⟩ := exec_enqueue hexec
    exact h
  | acquire =>
    obtain ⟨o, m, rest, hq, hadmits, rfl⟩ := exec_acquire hexec
    -- The lock that is granted is compatible with every guard there is
    intro o₁ o₂ m₁ m₂ hm₁ hm₂ hne
    rcases hwf.mem_guards_of_acquire hq hm₁ with hold₁ | ⟨rfl, rfl⟩
    · rcases hwf.mem_guards_of_acquire hq hm₂ with hold₂ | ⟨rfl, rfl⟩
      · exact h o₁ o₂ m₁ m₂ hold₁ hold₂ hne
      · rw [Mode.compatible_comm]
        exact admits_iff.mp hadmits o₁ m₁ hold₁
    · rcases hwf.mem_guards_of_acquire hq hm₂ with hold₂ | ⟨rfl, rfl⟩
      · exact admits_iff.mp hadmits o₂ m₂ hold₂
      · exact absurd rfl hne
  | step i l =>
    obtain ⟨k, shared, k', hk, hready, hstep, rfl⟩ := exec_step hexec
    apply h.of_subset
    intro o m hm
    exact hS.mem_guards_of_step hk hready hstep hm
  | cancel i =>
    obtain ⟨k, hk, rfl⟩ := exec_cancel hexec
    apply h.of_subset
    intro o m hm
    by_cases ho : o.1 = i
    · rw [mem_guards, needAt_put_self (List.getElem?_eq_some_iff.mp hk).1 ho] at hm
      rcases hm with hholds | ⟨-, hwants⟩
      · exact absurd hholds List.not_mem_nil
      · cases hwants
    · exact mem_guards_of_put_ne ho hm

/-- Disciplined operations never deadlock. -/
theorem Disciplined.deadlockFree (hS : S.Disciplined) {shared : σ}
    {as : List (Act ε ν ℓ)} (h : S.run (State.initial shared) as = some st) :
    S.DeadlockFree st where
  progress _ ho := WellFormed.progress hS ho
  acyclic o := (WellFormed.run S h).not_circular hS o
  holders o ho := by
    obtain ⟨m, hm⟩ := List.exists_mem_of_ne_nil _ ho
    exact hS.holder_steps hm

/-- In every state that is reached the guards go together. -/
theorem Exclusive.run (hS : S.Disciplined) {shared : σ} {as : List (Act ε ν ℓ)}
    (h : S.run (State.initial shared) as = some st) : S.Exclusive st := by
  have hboth : S.WellFormed st ∧ S.Exclusive st := by
    apply Lts.run_invariant _ (fun _ _ _ hs hexec => ?_) h
    · refine ⟨.initial S shared, fun o o' m m' hm => ?_⟩
      rcases mem_guards.mp hm with hholds | ⟨hg, -⟩
      · exact absurd hholds List.not_mem_nil
      · exact absurd hg List.not_mem_nil
    · exact ⟨hs.1.exec hexec, hs.2.exec hs.1 hS hexec⟩
  exact hboth.2

end Progress

end Operations

end RwLock
