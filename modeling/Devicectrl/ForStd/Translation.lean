import Devicectrl.ForStd.System

/-!
# Translated runs

A translation reads the actions of one system and puts actions of another in their place, one,
none or several. It is a simulation if the second system follows the first.
-/

/-- Related results stay so under functions that keep the relation. -/
theorem Option.Rel.map {α α' β β' : Type*} {R : α → β → Prop} {S : α' → β' → Prop} {f : α → α'}
    {g : β → β'} {x : Option α} {y : Option β} (h : Option.Rel R x y)
    (hfg : ∀ {a b}, R a b → S (f a) (g b)) : Option.Rel S (x.map f) (y.map g) := by
  cases h with
  | some hab => exact .some (hfg hab)
  | none => exact .none

namespace Lts

variable {σ σ' τ α β : Type*}

/-- The translation of some actions. `next` is what it does with one; it has a state of its
own. -/
def translate (next : τ → α → τ × List β) (t : τ) : List α → τ × List β
  | [] => (t, [])
  | a :: as =>
    ((translate next (next t a).1 as).1, (next t a).2 ++ (translate next (next t a).1 as).2)

/-- Wherever the first system takes an action, the second runs over its translation, and they
stay related. -/
structure Simulation (exec : σ → α → Option σ) (exec' : σ' → β → Option σ')
    (next : τ → α → τ × List β) where
  rel : τ → σ → σ' → Prop
  step : ∀ {t s s' a m}, rel t s s' → exec s a = some m →
    ∃ m', run exec' s' (next t a).2 = some m' ∧ rel (next t a).1 m m'

variable {exec : σ → α → Option σ} {exec' : σ' → β → Option σ'} {next : τ → α → τ × List β}

/-- The second system runs over the translation of a run of the first. -/
theorem Simulation.run (S : Simulation exec exec' next) {t : τ} {s m : σ} {s' : σ'}
    {as : List α} (hs : S.rel t s s') (h : Lts.run exec s as = some m) :
    ∃ m', Lts.run exec' s' (translate next t as).2 = some m' ∧
      S.rel (translate next t as).1 m m' := by
  induction as generalizing t s s' with
  | nil =>
    cases h
    exact ⟨s', rfl, hs⟩
  | cons a as ih =>
    obtain ⟨s₁, ha, h⟩ := run_cons exec h
    -- The translated actions of one step lead to where the induction begins again
    obtain ⟨s₁', ha', hs₁⟩ := S.step hs ha
    obtain ⟨m', hm', hrel⟩ := ih hs₁ h
    refine ⟨m', ?_, hrel⟩
    rw [translate, run_append_of exec' ha']
    exact hm'

/-- A run of one action is a step. -/
theorem run_singleton (s : σ) (a : α) : Lts.run exec s [a] = exec s a := by
  rw [Lts.run]
  cases exec s a with
  | none => rfl
  | some m => rfl

variable {R : σ → σ' → Prop} {a : α} {b : β}

/-- Of two actions that are both enabled or neither, the second follows the first. -/
theorem run_of_rel {s m : σ} {s' : σ'} (h : Option.Rel R (exec s a) (exec' s' b))
    (ha : exec s a = some m) : ∃ m', Lts.run exec' s' [b] = some m' ∧ R m m' := by
  rw [ha] at h
  generalize hb : exec' s' b = x at h
  cases h with
  | @some _ m' hm => exact ⟨m', by rw [run_singleton, hb], hm⟩

/-- And the first follows the second. -/
theorem run_of_rel_right {s : σ} {s' m' : σ'} (h : Option.Rel R (exec s a) (exec' s' b))
    (hb : exec' s' b = some m') : ∃ m, Lts.run exec s [a] = some m ∧ R m m' := by
  rw [hb] at h
  generalize ha : exec s a = x at h
  cases h with
  | @some m _ hm => exact ⟨m, by rw [run_singleton, ha], hm⟩

/-- A run over actions that are read off others. -/
theorem run_map {γ : Type*} (f : γ → α) (s : σ) (cs : List γ) :
    Lts.run exec s (cs.map f) = Lts.run (fun s c => exec s (f c)) s cs := by
  induction cs generalizing s with
  | nil => rfl
  | cons c cs ih =>
    rw [List.map_cons, Lts.run, Lts.run]
    cases exec s (f c) with
    | none => rfl
    | some m => exact ih m

end Lts
