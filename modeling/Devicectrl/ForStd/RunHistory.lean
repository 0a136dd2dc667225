import Devicectrl.ForStd.System
import Mathlib.Data.List.Induction

/-!
# What has happened in a run

An invariant of a run may speak of the actions it has taken so far (`run_history`), and of what
these have shown (`observe`).
-/

namespace Lts

variable {σ α ω : Type*} (exec : σ → α → Option σ)

/-- What every action preserves of the actions so far and the state they have led to. -/
theorem run_history {I : List α → σ → Prop} {s s' : σ} {as : List α} (hs : I [] s)
    (hstep : ∀ {as m a m'}, run exec s as = some m → I as m → exec m a = some m' → I (as ++ [a]) m')
    (h : run exec s as = some s') : I as s' := by
  induction as using List.reverseRecOn generalizing s' with
  | nil =>
    cases h
    exact hs
  | append_singleton as a ih =>
    obtain ⟨m, hm, ha⟩ := run_concat exec h
    exact hstep hm (ih hm) ha

/-- What the actions of a run show, in order. -/
def observe (f : σ → α → List ω) (s : σ) : List α → List ω
  | [] => []
  | a :: as =>
    f s a ++
      match exec s a with
      | none => []
      | some m => observe f m as

variable {f : σ → α → List ω}

@[simp] theorem observe_nil (s : σ) : observe exec f s [] = [] := rfl

/-- What a run shows begins with what its first action does. -/
theorem observe_cons {s m : σ} {a : α} {as : List α} (h : exec s a = some m) :
    observe exec f s (a :: as) = f s a ++ observe exec f m as := by
  rw [observe, h]

/-- What a run shows is what its parts show, one after the other. -/
theorem observe_append {s m : σ} {as : List α} (h : run exec s as = some m) (bs : List α) :
    observe exec f s (as ++ bs) = observe exec f s as ++ observe exec f m bs := by
  induction as generalizing s with
  | nil =>
    cases h
    rfl
  | cons a as ih =>
    obtain ⟨m', ha, h⟩ := run_cons exec h
    rw [List.cons_append, observe_cons exec ha, observe_cons exec ha, ih h, List.append_assoc]

/-- The last action adds what it shows. -/
theorem observe_concat {s m : σ} {as : List α} (h : run exec s as = some m) (a : α) :
    observe exec f s (as ++ [a]) = observe exec f s as ++ f m a := by
  rw [observe_append exec h]
  congr 1
  rw [observe]
  cases exec m a with
  | none => exact List.append_nil _
  | some m' => exact List.append_nil _

end Lts

/-- Where a component comes from: this action started it, or it is as it was, or it took a step. -/
theorem System.exec_comp_from {σ κ ε ν ℓ : Type*} {S : System σ κ ε ν ℓ} {s s' : State σ κ}
    {a : Act ε ν ℓ} {i : Nat} {k' : κ} (h : S.exec s a = some s') (hk' : s'.comps[i]? = some k') :
    (∃ v, a = .spawn v ∧ S.spawn s.shared v = some (s'.shared, k')) ∨ s.comps[i]? = some k' ∨
      ∃ l k, a = .step i l ∧ s.comps[i]? = some k ∧ S.step s.shared k l = some (s'.shared, k') := by
  rcases exec_comp_inv h hk' with ⟨k, hk⟩ | ⟨v, hv, -, hspawn⟩
  · rcases exec_comp h hk with ⟨-, hkept⟩ | ⟨l, k₁, hl, hstep, hk₁⟩
    · obtain rfl := Option.some.inj (hk'.symm.trans hkept)
      exact .inr (.inl hk)
    · obtain rfl := Option.some.inj (hk'.symm.trans hk₁)
      exact .inr (.inr ⟨l, k, hl, hk, hstep⟩)
  · exact .inl ⟨v, hv, hspawn⟩

namespace System

variable {σ κ ε ν ℓ ω : Type*} {S : System σ κ ε ν ℓ} {s s' m m' : State σ κ} {i : Nat} {k : κ}
  {as : List (Act ε ν ℓ)} {a : Act ε ν ℓ}

/-- What component `i` shows in an action, where `f` is what its parts show. -/
def shows (f : σ → κ → ℓ → List ω) (i : Nat) (s : State σ κ) : Act ε ν ℓ → List ω
  | .env _ => []
  | .spawn _ => []
  | .step j l => if j = i then s.comps[i]?.elim [] fun k => f s.shared k l else []

variable {f : σ → κ → ℓ → List ω} {P : List ω → κ → Prop} {log : List ω}

/-- Actions of others show nothing of a component. -/
theorem shows_of_ne (h : ∀ l, a ≠ .step i l) : shows f i s a = [] := by
  cases a with
  | env e => rfl
  | spawn v => rfl
  | step j l =>
    rw [shows, if_neg]
    rintro rfl
    exact h l rfl

/-- What an action keeps, of what a component has shown and where it is. -/
theorem exec_shows
    (hstep : ∀ {k k' l sh}, m.comps[i]? = some k → S.step m.shared k l = some (sh, k') →
      P log k → P (log ++ f m.shared k l) k')
    (ha : S.exec m a = some m') (hk : m.comps[i]? = some k) (hP : P log k) :
    ∃ k', m'.comps[i]? = some k' ∧ P (log ++ shows f i m a) k' := by
  rcases exec_comp ha hk with ⟨hne, hkept⟩ | ⟨l, k', rfl, hstepped, hk'⟩
  · rw [shows_of_ne hne, List.append_nil]
    exact ⟨k, hkept, hP⟩
  · rw [shows, if_pos rfl, hk, Option.elim_some]
    exact ⟨k', hk', hstep hk hstepped hP⟩

/-- What a component keeps in a run, of what it has shown since it was as `k` and where it is. -/
theorem run_shows_of (hk : s.comps[i]? = some k) (hP : P [] k)
    (hstep : ∀ {as m k k' l sh log}, S.run s as = some m → m.comps[i]? = some k →
      S.step m.shared k l = some (sh, k') → P log k → P (log ++ f m.shared k l) k')
    (h : S.run s as = some s') :
    ∃ k', s'.comps[i]? = some k' ∧ P (Lts.observe S.exec (shows f i) s as) k' := by
  apply Lts.run_history (I := fun as s' => ∃ k', s'.comps[i]? = some k' ∧
    P (Lts.observe S.exec (shows f i) s as) k') _ ⟨k, hk, hP⟩ _ h
  intro as m a m' hm hkept ha
  obtain ⟨k₁, hk₁, hP₁⟩ := hkept
  rw [Lts.observe_concat _ hm]
  exact exec_shows (hstep hm) ha hk₁ hP₁

/-- A component that is not there yet has shown nothing; one that is, has come to be as `P`
says. -/
structure ShownAt (P : List ω → κ → Prop) (i : Nat) (log : List ω) (s : State σ κ) : Prop where
  absent : s.comps[i]? = none → log = []
  holds : ∀ k, s.comps[i]? = some k → P log k

/-- An action keeps what holds of a component and of all that it has shown. -/
theorem ShownAt.exec (h : ShownAt P i log m)
    (hspawn : ∀ {v sh k}, S.spawn m.shared v = some (sh, k) → P [] k)
    (hstep : ∀ {k k' l sh}, m.comps[i]? = some k → S.step m.shared k l = some (sh, k') →
      P log k → P (log ++ f m.shared k l) k')
    (ha : S.exec m a = some m') : ShownAt P i (log ++ shows f i m a) m' := by
  cases hk : m.comps[i]? with
  | some k =>
    -- The component exists: its log grows by what its own steps show
    obtain ⟨k', hk', hP⟩ := exec_shows hstep ha hk (h.holds k hk)
    refine ⟨fun hnone => ?_, fun k₁ hk₁ => ?_⟩
    · rw [hk'] at hnone
      cases hnone
    · obtain rfl := Option.some.inj (hk'.symm.trans hk₁)
      exact hP
  | none =>
    -- It does not exist yet, so no step is one of it
    have hne : ∀ l, a ≠ .step i l := by
      rintro l rfl
      obtain ⟨k, -, hk', -⟩ := exec_step ha
      rw [hk] at hk'
      cases hk'
    rw [shows_of_ne hne, List.append_nil, h.absent hk]
    refine ⟨fun _ => rfl, fun k₁ hk₁ => ?_⟩
    -- It existed before, against `hk`, or is spawned by this action
    rcases exec_comp_inv ha hk₁ with ⟨k, hk'⟩ | ⟨v, -, -, hspawned⟩
    · rw [hk] at hk'
      cases hk'
    · exact hspawn hspawned

/-- What a component and its own parts keep, of what it has shown in a run and where it is. -/
theorem run_shows (hs : ∀ k, s.comps[i]? = some k → P [] k)
    (hspawn : ∀ {as m v sh k}, S.run s as = some m → S.spawn m.shared v = some (sh, k) → P [] k)
    (hstep : ∀ {as m k k' l sh log}, S.run s as = some m → m.comps[i]? = some k →
      S.step m.shared k l = some (sh, k') → P log k → P (log ++ f m.shared k l) k')
    (h : S.run s as = some s') (hk : s'.comps[i]? = some k) :
    P (Lts.observe S.exec (shows f i) s as) k := by
  have hshown : ShownAt P i (Lts.observe S.exec (shows f i) s as) s' := by
    apply Lts.run_history _ ⟨fun _ => rfl, hs⟩ _ h
    intro as m a m' hm hshown ha
    rw [Lts.observe_concat _ hm]
    exact hshown.exec (hspawn hm) (hstep hm) ha
  exact hshown.holds k hk

end System
