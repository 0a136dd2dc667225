import Mathlib.Algebra.BigOperators.Group.List.Basic
import Mathlib.Algebra.Order.Ring.Nat

/-!
# Interleaved components over a shared store

A deterministic partial step function gives runs over lists of actions (`Lts.run`).
`System` is the step function of any number of components that share a store: an
action belongs to the environment, starts a new component, or is a step of one
component.

`RelyGuarantee` packages an invariant of the store, an invariant each component has
with the store, and the relation by which everybody else may change the store;
`RelyGuarantee.run` carries the two invariants over every interleaving.
-/

/-- Replacing one entry of a list leaves the other members in it. -/
theorem List.mem_set_or_eq {α : Type*} {l : List α} {i : Nat} {a b c : α} (ha : l[i]? = some a)
    (hc : c ∈ l) : c ∈ l.set i b ∨ c = a := by
  obtain ⟨j, hj⟩ := List.mem_iff_getElem?.mp hc
  by_cases hij : i = j
  · subst hij
    exact .inr (Option.some.inj (hj.symm.trans ha))
  · exact .inl (List.mem_of_getElem? ((List.getElem?_set_ne hij).trans hj))

/-- Replacing one entry of a list by itself changes nothing. -/
theorem List.set_of_getElem? {α : Type*} {l : List α} {i : Nat} {a : α} (h : l[i]? = some a) :
    l.set i a = l := by
  obtain ⟨hlt, rfl⟩ := List.getElem?_eq_some_iff.mp h
  exact List.set_getElem_self hlt

/-- Replacing one entry of a list changes a sum over it by that entry's share. -/
theorem List.sum_map_set {α : Type*} (f : α → Nat) {l : List α} {i : Nat} {a : α}
    (h : l[i]? = some a) (b : α) : ((l.set i b).map f).sum + f a = (l.map f).sum + f b := by
  induction l generalizing i with
  | nil => exact nomatch h
  | cons c l ih =>
    cases i with
    | zero =>
      -- The head is replaced, and the rest is as it was
      cases h
      simp only [List.set_cons_zero, List.map_cons, List.sum_cons]
      omega
    | succ i =>
      have h' : l[i]? = some a := h
      have hset := ih h'
      simp only [List.set_cons_succ, List.map_cons, List.sum_cons]
      omega

/-! ## Runs of a partial step function -/

namespace Lts

variable {σ α : Type*} (exec : σ → α → Option σ)

/-- The state after a list of actions; `none` when one of them is not enabled. -/
def run (s : σ) : List α → Option σ
  | [] => some s
  | a :: as =>
    match exec s a with
    | none => none
    | some s' => run s' as

@[simp] theorem run_nil (s : σ) : run exec s [] = some s := rfl

/-- A run begins with a step by its first action. -/
theorem run_cons {s s' : σ} {a : α} {as : List α} (h : run exec s (a :: as) = some s') :
    ∃ m, exec s a = some m ∧ run exec m as = some s' := by
  rw [run] at h
  cases hm : exec s a with
  | none => rw [hm] at h; exact nomatch h
  | some m => rw [hm] at h; exact ⟨m, rfl, h⟩

/-- A step, and the run from where it leads. -/
theorem run_cons_of {s m : σ} {a : α} {as : List α} (h : exec s a = some m) :
    run exec s (a :: as) = run exec m as := by
  rw [run, h]

/-- A run over two lists is one over the first and then one over the second. -/
theorem run_append (s : σ) (as bs : List α) :
    run exec s (as ++ bs) = (run exec s as).bind fun m => run exec m bs := by
  induction as generalizing s with
  | nil => rfl
  | cons a as ih =>
    rw [List.cons_append, run, run]
    cases exec s a with
    | none => rfl
    | some m => exact ih m

/-- The second part of a run goes on from where the first has led. -/
theorem run_append_of {s m : σ} {as bs : List α} (h : run exec s as = some m) :
    run exec s (as ++ bs) = run exec m bs := by
  rw [run_append, h]
  rfl

/-- A run over `as ++ bs` passes through the state after `as`. -/
theorem run_split {s s' : σ} {as bs : List α} (h : run exec s (as ++ bs) = some s') :
    ∃ m, run exec s as = some m ∧ run exec m bs = some s' := by
  rw [run_append] at h
  exact Option.bind_eq_some_iff.mp h

/-- A run over `as ++ [a]` ends with a step by `a`. -/
theorem run_concat {s s' : σ} {as : List α} {a : α} (h : run exec s (as ++ [a]) = some s') :
    ∃ m, run exec s as = some m ∧ exec m a = some s' := by
  obtain ⟨m, hm, h⟩ := run_split exec h
  obtain ⟨m', ha, h⟩ := run_cons exec h
  cases h
  exact ⟨m, hm, ha⟩

/-- What every step preserves, every run preserves. -/
theorem run_invariant {I : σ → Prop} (hstep : ∀ s a s', I s → exec s a = some s' → I s')
    {s s' : σ} {as : List α} (h : run exec s as = some s') (hs : I s) : I s' := by
  induction as generalizing s with
  | nil => cases h; exact hs
  | cons a as ih =>
    obtain ⟨m, ha, h⟩ := run_cons exec h
    exact ih h (hstep s a m hs ha)

/-! ### Runs that come to an end -/

section Measure

variable {μ : σ → Nat} {Q : α → Prop} {I G : σ → Prop}

/-- What every step by an action with `Q` preserves, every run of such actions preserves. -/
theorem run_invariant_of_forall (hstep : ∀ s a s', I s → Q a → exec s a = some s' → I s')
    {s s' : σ} {as : List α} (hQ : ∀ a ∈ as, Q a) (h : run exec s as = some s') (hs : I s) :
    I s' := by
  induction as generalizing s with
  | nil => cases h; exact hs
  | cons a as ih =>
    obtain ⟨m, ha, h⟩ := run_cons exec h
    have hm := hstep s a m hs (hQ a List.mem_cons_self) ha
    exact ih (fun b hb => hQ b (List.mem_cons_of_mem _ hb)) h hm

/-- A run is no longer than a measure that each step lowers. -/
theorem run_length_le (hstep : ∀ s a s', Q a → exec s a = some s' → μ s' < μ s) {s s' : σ}
    {as : List α} (hQ : ∀ a ∈ as, Q a) (h : run exec s as = some s') :
    as.length + μ s' ≤ μ s := by
  induction as generalizing s with
  | nil =>
    cases h
    simp
  | cons a as ih =>
    obtain ⟨m, ha, h⟩ := run_cons exec h
    have hlt := hstep s a m (hQ a List.mem_cons_self) ha
    have hle := ih (fun b hb => hQ b (List.mem_cons_of_mem _ hb)) h
    rw [List.length_cons]
    omega

/-- Where a step is enabled as long as `G` does not hold, and each lowers a measure, a run leads
to `G`. -/
theorem exists_run_of_measure
    (hprogress : ∀ s, I s → G s ∨ ∃ a s', Q a ∧ exec s a = some s')
    (hstep : ∀ s a s', I s → Q a → exec s a = some s' → I s' ∧ μ s' < μ s) {s : σ} (hs : I s) :
    ∃ as s', (∀ a ∈ as, Q a) ∧ run exec s as = some s' ∧ I s' ∧ G s' := by
  induction hμ : μ s using Nat.strong_induction_on generalizing s with
  | h n ih =>
    -- At the goal there is nothing to do; else one action brings it nearer, by strong induction
    rcases hprogress s hs with hG | ⟨a, m, ha, hm⟩
    · exact ⟨[], s, fun a ha => (by cases ha), rfl, hs, hG⟩
    · obtain ⟨hIm, hlt⟩ := hstep s a m hs ha hm
      obtain ⟨as, s', has, hrun, hI, hG⟩ := ih (μ m) (by omega) hIm rfl
      refine ⟨a :: as, s', ?_, ?_, hI, hG⟩
      · intro b hb
        rcases List.mem_cons.mp hb with rfl | hb
        · exact ha
        · exact has b hb
      · rw [run_cons_of exec hm]
        exact hrun

end Measure

/-! ### What holds of each action of a run -/

/-- `P` holds of every action of the run over a list, in the state in which it is taken. -/
def Along (P : σ → α → Prop) (s : σ) : List α → Prop
  | [] => True
  | a :: as =>
    P s a ∧
      match exec s a with
      | none => True
      | some s' => Along P s' as

variable {P : σ → α → Prop}

/-- A condition holds along a run if it holds of its first step and along the rest. -/
theorem along_cons {s m : σ} {a : α} {as : List α} (h : exec s a = some m) :
    Along exec P s (a :: as) ↔ P s a ∧ Along exec P m as := by
  rw [Along, h]

/-- `P` holds along a run exactly when it holds of each action in the state that the actions
before it lead to. -/
theorem along_iff_reached {s s' : σ} {as : List α} (h : run exec s as = some s') :
    Along exec P s as ↔
      ∀ bs a cs m, as = bs ++ a :: cs → run exec s bs = some m → P m a := by
  induction as generalizing s with
  | nil => exact ⟨fun _ bs a cs m he => by simp at he, fun _ => trivial⟩
  | cons a as ih =>
    obtain ⟨m, ha, h⟩ := run_cons exec h
    rw [along_cons exec ha, ih h]
    constructor
    · rintro ⟨hPa, hP⟩ bs b cs m' he hbs
      cases bs with
      -- The first action itself, at the start
      | nil =>
        cases he
        cases hbs
        exact hPa
      | cons b' bs =>
        cases he
        -- A later action: the prefix begins with `a`
        rw [run_cons_of exec ha] at hbs
        exact hP bs b cs m' rfl hbs
    · intro hP
      refine ⟨hP [] a as s rfl rfl, fun bs b cs m' he hbs => ?_⟩
      apply hP (a :: bs) b cs m' (by rw [he]; rfl)
      rw [run_cons_of exec ha]
      exact hbs

/-- It holds along both parts of a run. -/
theorem along_append {s m : σ} {as bs : List α} (h : run exec s as = some m) :
    Along exec P s (as ++ bs) ↔ Along exec P s as ∧ Along exec P m bs := by
  induction as generalizing s with
  | nil =>
    cases h
    exact (and_iff_right trivial).symm
  | cons a as ih =>
    obtain ⟨m', ha, h⟩ := run_cons exec h
    rw [List.cons_append, along_cons exec ha, along_cons exec ha, ih h, and_assoc]

/-- What holds along a run holds along the start of it. -/
theorem along_prefix {s s' : σ} {as bs : List α} (h : run exec s as = some s')
    (hP : Along exec P s as) (hbs : bs <+: as) : Along exec P s bs := by
  obtain ⟨cs, rfl⟩ := hbs
  obtain ⟨m, hm, -⟩ := run_split exec h
  exact ((along_append exec hm).mp hP).1

/-- What holds of every action of a list holds along its run. -/
theorem along_of_forall {s : σ} {as : List α} (h : ∀ s, ∀ a ∈ as, P s a) : Along exec P s as := by
  induction as generalizing s with
  | nil => trivial
  | cons a as ih =>
    refine ⟨h s a List.mem_cons_self, ?_⟩
    cases exec s a with
    | none => trivial
    | some m => exact ih fun s b hb => h s b (List.mem_cons_of_mem _ hb)

/-- Conditions that can be decided can be decided along a run. -/
instance decidableAlong [∀ s a, Decidable (P s a)] (s : σ) (as : List α) :
    Decidable (Along exec P s as) :=
  match as with
  | [] => inferInstanceAs (Decidable True)
  | a :: as =>
    match h : exec s a with
    | none => decidable_of_iff (P s a) (by simp [Along, h])
    | some m =>
      have := decidableAlong m as
      decidable_of_iff (P s a ∧ Along exec P m as) (along_cons exec h).symm

/-- What every step preserves whose action satisfies `P`, every run of such actions does. -/
theorem run_invariant_along {I : σ → Prop}
    (hstep : ∀ s a s', I s → P s a → exec s a = some s' → I s') {s s' : σ} {as : List α}
    (hP : Along exec P s as) (h : run exec s as = some s') (hs : I s) : I s' := by
  induction as generalizing s with
  | nil => cases h; exact hs
  | cons a as ih =>
    obtain ⟨m, ha, h⟩ := run_cons exec h
    obtain ⟨hPa, hP⟩ := (along_cons exec ha).mp hP
    exact ih hP h (hstep s a m hs hPa ha)

/-- What a step establishes exactly when it held before and `P` holds of the step, a run
establishes exactly when it held before and `P` holds of every step. -/
theorem run_iff_along {I G : σ → Prop} (hI : ∀ s a s', I s → exec s a = some s' → I s')
    (hstep : ∀ s a s', I s → exec s a = some s' → (G s' ↔ G s ∧ P s a)) {s s' : σ} {as : List α}
    (h : run exec s as = some s') (hs : I s) : G s' ↔ G s ∧ Along exec P s as := by
  induction as generalizing s with
  | nil =>
    cases h
    exact ⟨fun hg => ⟨hg, trivial⟩, And.left⟩
  | cons a as ih =>
    obtain ⟨m, ha, h⟩ := run_cons exec h
    rw [ih h (hI s a m hs ha), hstep s a m hs ha, along_cons exec ha, and_assoc]

end Lts

/-! ## Components -/

/-- Components `κ` that share a store `σ`. The environment acts on the store by `ε`, a
component starts with a `ν` and steps by an `ℓ`. -/
structure System (σ κ ε ν ℓ : Type*) where
  env : σ → ε → Option σ
  spawn : σ → ν → Option (σ × κ)
  step : σ → κ → ℓ → Option (σ × κ)

namespace System

/-- Who moves next. Components are numbered in the order they started. -/
inductive Act (ε ν ℓ : Type*) where
  | env (e : ε)
  | spawn (v : ν)
  | step (i : Nat) (l : ℓ)
  deriving DecidableEq

/-- What the components share, and each of them. -/
@[ext] structure State (σ κ : Type*) where
  shared : σ
  comps : List κ

variable {σ κ ε ν ℓ : Type*} (S : System σ κ ε ν ℓ)

/-- One action: of the environment, of a new component, or of one that is there. -/
def exec (s : State σ κ) : Act ε ν ℓ → Option (State σ κ)
  | .env e => (S.env s.shared e).map fun sh => { s with shared := sh }
  | .spawn v => (S.spawn s.shared v).map fun p => ⟨p.1, s.comps ++ [p.2]⟩
  | .step i l =>
    match s.comps[i]? with
    | none => none
    | some k => (S.step s.shared k l).map fun p => ⟨p.1, s.comps.set i p.2⟩

/-- Runs of the whole system. -/
abbrev run (s : State σ κ) (as : List (Act ε ν ℓ)) : Option (State σ κ) :=
  Lts.run S.exec s as

/-! ### What one action does -/

variable {S}

/-- The environment leaves the components alone. -/
theorem exec_env {s s' : State σ κ} {e : ε} (h : S.exec s (.env e) = some s') :
    S.env s.shared e = some s'.shared ∧ s'.comps = s.comps := by
  obtain ⟨sh, he, rfl⟩ := Option.map_eq_some_iff.mp h
  exact ⟨he, rfl⟩

/-- A new component is the last one. -/
theorem exec_spawn {s s' : State σ κ} {v : ν} (h : S.exec s (.spawn v) = some s') :
    ∃ k, S.spawn s.shared v = some (s'.shared, k) ∧ s'.comps = s.comps ++ [k] := by
  obtain ⟨p, he, rfl⟩ := Option.map_eq_some_iff.mp h
  exact ⟨p.2, he, rfl⟩

/-- A component takes a step, and the others stay as they are. -/
theorem exec_step {s s' : State σ κ} {i : Nat} {l : ℓ} (h : S.exec s (.step i l) = some s') :
    ∃ k k', s.comps[i]? = some k ∧ S.step s.shared k l = some (s'.shared, k') ∧
      s'.comps = s.comps.set i k' := by
  simp only [exec] at h
  split at h
  · exact nomatch h
  · rename_i k hk
    obtain ⟨p, he, rfl⟩ := Option.map_eq_some_iff.mp h
    exact ⟨k, p.2, hk, he, rfl⟩

/-- A component that can step makes the system step. -/
theorem exec_step_of {s : State σ κ} {i : Nat} {l : ℓ} {k k' : κ} {sh : σ}
    (hk : s.comps[i]? = some k) (h : S.step s.shared k l = some (sh, k')) :
    S.exec s (.step i l) = some ⟨sh, s.comps.set i k'⟩ := by
  simp only [exec, hk, h, Option.map_some]

/-- A component keeps its state until it steps itself. -/
theorem exec_comp {s s' : State σ κ} {a : Act ε ν ℓ} {i : Nat} {k : κ}
    (h : S.exec s a = some s') (hk : s.comps[i]? = some k) :
    ((∀ l, a ≠ .step i l) ∧ s'.comps[i]? = some k) ∨
      ∃ l k', a = .step i l ∧ S.step s.shared k l = some (s'.shared, k') ∧
        s'.comps[i]? = some k' := by
  cases a with
  | env e => exact .inl ⟨nofun, by rw [(exec_env h).2, hk]⟩
  | spawn v =>
    obtain ⟨k', -, hc⟩ := exec_spawn h
    refine .inl ⟨nofun, ?_⟩
    rw [hc, List.getElem?_append_left (List.getElem?_eq_some_iff.mp hk).1, hk]
  | step j l =>
    obtain ⟨m, k', hm, hstep, hc⟩ := exec_step h
    -- A step of another component writes another entry
    by_cases hij : j = i
    · subst hij
      obtain rfl : m = k := Option.some.inj (hm.symm.trans hk)
      refine .inr ⟨l, k', rfl, hstep, ?_⟩
      rw [hc, List.getElem?_set_self (List.getElem?_eq_some_iff.mp hk).1]
    · refine .inl ⟨fun l' he => hij (by injection he), ?_⟩
      rw [hc, List.getElem?_set_ne hij, hk]

/-- A component is there because it was before, or because this action started it. -/
theorem exec_comp_inv {s s' : State σ κ} {a : Act ε ν ℓ} {i : Nat} {k' : κ}
    (h : S.exec s a = some s') (hk : s'.comps[i]? = some k') :
    (∃ k, s.comps[i]? = some k) ∨
      ∃ v, a = .spawn v ∧ i = s.comps.length ∧ S.spawn s.shared v = some (s'.shared, k') := by
  cases a with
  | env e => exact .inl ⟨k', by rw [← (exec_env h).2, hk]⟩
  | spawn v =>
    obtain ⟨m, hm, hc⟩ := exec_spawn h
    rw [hc] at hk
    -- The new component is the last one
    rcases Nat.lt_trichotomy i s.comps.length with hi | hi | hi
    · exact .inl ⟨k', by rwa [List.getElem?_append_left hi] at hk⟩
    · subst hi
      rw [List.getElem?_concat_length] at hk
      exact .inr ⟨v, rfl, rfl, by rw [hm, Option.some.inj hk]⟩
    · rw [List.getElem?_eq_none (by simp; omega)] at hk
      cases hk
  | step j l =>
    obtain ⟨m, k, hm, -, hc⟩ := exec_step h
    have hi : i < s.comps.length := by
      have := (List.getElem?_eq_some_iff.mp hk).1
      rwa [hc, List.length_set] at this
    exact .inl ⟨s.comps[i], List.getElem?_eq_getElem hi⟩

/-! ## Rely and guarantee -/

/-- An invariant of the store, one of each component with the store, and what a component
relies on the rest of the system to do to the store. -/
structure RelyGuarantee (S : System σ κ ε ν ℓ) where
  shared : σ → Prop
  comp : σ → κ → Prop
  rely : σ → σ → Prop
  env_ok : ∀ {s e s'}, shared s → S.env s e = some s' → shared s' ∧ rely s s'
  spawn_ok : ∀ {s v s' k}, shared s → S.spawn s v = some (s', k) →
    shared s' ∧ rely s s' ∧ comp s' k
  step_ok : ∀ {s k l s' k'}, shared s → comp s k → S.step s k l = some (s', k') →
    shared s' ∧ rely s s' ∧ comp s' k'
  stable : ∀ {s s' k}, rely s s' → comp s k → comp s' k

namespace RelyGuarantee

variable (R : RelyGuarantee S)

/-- The invariant of the whole system. -/
def Holds (s : State σ κ) : Prop :=
  R.shared s.shared ∧ ∀ k ∈ s.comps, R.comp s.shared k

/-- One action keeps the invariant and changes the store as the components rely on. -/
theorem exec {s s' : State σ κ} {a : Act ε ν ℓ} (hs : R.Holds s) (h : S.exec s a = some s') :
    R.Holds s' ∧ R.rely s.shared s'.shared := by
  obtain ⟨hsh, hcomp⟩ := hs
  -- The component that acts is told by its own rule, and the others are stable under `rely`
  cases a with
  | env e =>
    obtain ⟨he, hc⟩ := exec_env h
    obtain ⟨hsh', hrely⟩ := R.env_ok hsh he
    refine ⟨⟨hsh', fun k hk => ?_⟩, hrely⟩
    rw [hc] at hk
    exact R.stable hrely (hcomp k hk)
  | spawn v =>
    obtain ⟨k', he, hc⟩ := exec_spawn h
    obtain ⟨hsh', hrely, hk'⟩ := R.spawn_ok hsh he
    refine ⟨⟨hsh', fun k hk => ?_⟩, hrely⟩
    rw [hc, List.mem_append, List.mem_singleton] at hk
    rcases hk with hk | rfl
    · exact R.stable hrely (hcomp k hk)
    · exact hk'
  | step i l =>
    obtain ⟨m, k', hm, he, hc⟩ := exec_step h
    obtain ⟨hsh', hrely, hk'⟩ := R.step_ok hsh (hcomp m (List.mem_of_getElem? hm)) he
    refine ⟨⟨hsh', fun k hk => ?_⟩, hrely⟩
    rw [hc] at hk
    rcases List.mem_or_eq_of_mem_set hk with hk | rfl
    · exact R.stable hrely (hcomp k hk)
    · exact hk'

/-- The invariant holds in every state of every run. -/
theorem run {s s' : State σ κ} {as : List (Act ε ν ℓ)} (h : S.run s as = some s')
    (hs : R.Holds s) : R.Holds s' :=
  Lts.run_invariant S.exec (fun _ _ _ hs he => (R.exec hs he).1) h hs

end RelyGuarantee

end System
