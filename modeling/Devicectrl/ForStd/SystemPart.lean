import Devicectrl.ForStd.System

/-!
# Parts of a system

A part of a system is another system: its components are some of those of the first, and what
the others do is for it the work of its environment. A run of the whole is then a run of the part,
and what the part keeps invariant holds within the whole.
-/

namespace List

variable {α β : Type*} {f : α → Option β} {l : List α} {i : Nat} {a a' : α} {b : β}

/-- A member that is picked has a place among those that are. -/
theorem exists_filterMap_set (ha : l[i]? = some a) (hb : f a = some b) :
    ∃ j, (l.filterMap f)[j]? = some b ∧
      ∀ a' b', f a' = some b' → (l.set i a').filterMap f = (l.filterMap f).set j b' := by
  induction l generalizing i with
  | nil => exact nomatch ha
  | cons c l ih =>
    cases i with
    | zero =>
      -- The head is replaced, and is the first that `f` keeps
      cases ha
      refine ⟨0, by rw [filterMap_cons_some hb]; rfl, fun a' b' hb' => ?_⟩
      rw [set_cons_zero, filterMap_cons_some hb, filterMap_cons_some hb', set_cons_zero]
    | succ i =>
      obtain ⟨j, hj, hset⟩ := ih ha
      cases hc : f c with
      -- The head is dropped, so the place in the rest is the place
      | none =>
        refine ⟨j, by rw [filterMap_cons_none hc]; exact hj, fun a' b' hb' => ?_⟩
        rw [set_cons_succ, filterMap_cons_none hc, filterMap_cons_none hc, hset a' b' hb']
      -- The head is kept, and comes before that place
      | some d =>
        refine ⟨j + 1, by rw [filterMap_cons_some hc]; exact hj, fun a' b' hb' => ?_⟩
        rw [set_cons_succ, filterMap_cons_some hc, filterMap_cons_some hc, set_cons_succ,
          hset a' b' hb']

/-- A component outside the part leaves it alone. -/
theorem filterMap_set_none (ha : l[i]? = some a) (hn : f a = none) (hn' : f a' = none) :
    (l.set i a').filterMap f = l.filterMap f := by
  induction l generalizing i with
  | nil => rfl
  | cons c l ih =>
    cases i with
    | zero =>
      cases ha
      rw [set_cons_zero, filterMap_cons_none hn, filterMap_cons_none hn']
    | succ i =>
      rw [set_cons_succ]
      -- The head is another one, dropped or kept in both
      cases hc : f c with
      | none => rw [filterMap_cons_none hc, filterMap_cons_none hc, ih ha]
      | some d => rw [filterMap_cons_some hc, filterMap_cons_some hc, ih ha]

end List

namespace System

variable {σ κ ε ν ℓ σ₁ κ₁ ε₁ ν₁ ℓ₁ : Type*} {S : System σ κ ε ν ℓ} {P : System σ₁ κ₁ ε₁ ν₁ ℓ₁}

/-- The environment of `P` can lead from one store to another. -/
def EnvLeads (P : System σ₁ κ₁ ε₁ ν₁ ℓ₁) (s s' : σ₁) : Prop :=
  ∃ es, Lts.run P.env s es = some s'

/-- Nothing needs to happen. -/
theorem EnvLeads.refl (s : σ₁) : P.EnvLeads s s :=
  ⟨[], rfl⟩

/-- One action of the environment. -/
theorem EnvLeads.single {s s' : σ₁} {e : ε₁} (h : P.env s e = some s') : P.EnvLeads s s' :=
  ⟨[e], by rw [Lts.run_cons_of P.env h]; rfl⟩

/-- One sequence of actions after another. -/
theorem EnvLeads.trans {s s' s'' : σ₁} (h : P.EnvLeads s s') (h' : P.EnvLeads s' s'') :
    P.EnvLeads s s'' := by
  obtain ⟨es, hes⟩ := h
  obtain ⟨es', hes'⟩ := h'
  exact ⟨es ++ es', by rw [Lts.run_append_of P.env hes, hes']⟩

/-- What the environment does is done in the system. -/
theorem EnvLeads.run {s s' : σ₁} (h : P.EnvLeads s s') (comps : List κ₁) :
    ∃ as, P.run ⟨s, comps⟩ as = some ⟨s', comps⟩ := by
  obtain ⟨es, hes⟩ := h
  induction es generalizing s with
  | nil =>
    cases hes
    exact ⟨[], rfl⟩
  | cons e es ih =>
    obtain ⟨m, he, hes⟩ := Lts.run_cons P.env hes
    obtain ⟨as, has⟩ := ih hes
    refine ⟨.env e :: as, ?_⟩
    -- One action of the environment, with the components as they are
    have hexec : P.exec ⟨s, comps⟩ (.env e) = some ⟨m, comps⟩ := by
      simp only [exec, he, Option.map_some]
    exact (Lts.run_cons_of P.exec hexec).trans has

/-- A part of the system `S`: `share` is what it has of the store, `pick` are its components. The
conditions may use what `S` keeps invariant. -/
structure Part (S : System σ κ ε ν ℓ) (P : System σ₁ κ₁ ε₁ ν₁ ℓ₁) where
  share : σ → σ₁
  pick : κ → Option κ₁
  inv : State σ κ → Prop
  inv_exec : ∀ {s s' : State σ κ} {a}, inv s → S.exec s a = some s' → inv s'
  env_ok : ∀ {s : State σ κ} {e m}, inv s → S.env s.shared e = some m → P.EnvLeads (share s.shared) (share m)
  spawn_ok : ∀ {s : State σ κ} {v m k}, inv s → S.spawn s.shared v = some (m, k) →
    (pick k = none ∧ P.EnvLeads (share s.shared) (share m)) ∨
      ∃ v₁ k₁, pick k = some k₁ ∧ P.spawn (share s.shared) v₁ = some (share m, k₁)
  step_ok : ∀ {s : State σ κ} {i : Nat} {k l m k'}, inv s → s.comps[i]? = some k →
    S.step s.shared k l = some (m, k') →
    (pick k = none ∧ pick k' = none ∧ P.EnvLeads (share s.shared) (share m)) ∨
      ∃ k₁ l₁ k₁', pick k = some k₁ ∧ pick k' = some k₁' ∧
        P.step (share s.shared) k₁ l₁ = some (share m, k₁')

namespace Part

variable (p : Part S P) {s s' : State σ κ}

/-- What the part has of a state. -/
def view (s : State σ κ) : State σ₁ κ₁ :=
  ⟨p.share s.shared, s.comps.filterMap p.pick⟩

/-- One action of the whole is a run of the part. -/
theorem exec {a : Act ε ν ℓ} (hs : p.inv s) (h : S.exec s a = some s') :
    ∃ as, P.run (p.view s) as = some (p.view s') := by
  cases a with
  | env e =>
    -- What is environment to the whole is environment to the part
    obtain ⟨he, hc⟩ := exec_env h
    obtain ⟨as, has⟩ := (p.env_ok hs he).run (s.comps.filterMap p.pick)
    refine ⟨as, ?_⟩
    rw [view, has, view, hc]
  | spawn v =>
    obtain ⟨k, he, hc⟩ := exec_spawn h
    -- The component is none of the part, and begins as its environment
    rcases p.spawn_ok hs he with ⟨hpick, henv⟩ | ⟨v₁, k₁, hpick, hspawn⟩
    · obtain ⟨as, has⟩ := henv.run (s.comps.filterMap p.pick)
      refine ⟨as, ?_⟩
      rw [view, has, view, hc, List.filterMap_append, List.filterMap_cons_none hpick,
        List.filterMap_nil, List.append_nil]
    · have hexec : P.exec (p.view s) (.spawn v₁) = some (p.view s') := by
        simp only [System.exec, view, hspawn, Option.map_some, hc, List.filterMap_append,
          List.filterMap_cons_some hpick, List.filterMap_nil]
      exact ⟨[.spawn v₁], Lts.run_cons_of P.exec hexec⟩
  | step i l =>
    obtain ⟨k, k', hk, he, hc⟩ := exec_step h
    -- It is none of the part, and steps as its environment
    rcases p.step_ok hs hk he with ⟨hpick, hpick', henv⟩ | ⟨k₁, l₁, k₁', hpick, hpick', hstep⟩
    · obtain ⟨as, has⟩ := henv.run (s.comps.filterMap p.pick)
      refine ⟨as, ?_⟩
      rw [view, has, view, hc, List.filterMap_set_none hk hpick hpick']
    · -- the component has a place of its own among those of the part
      obtain ⟨j, hj, hset⟩ := List.exists_filterMap_set hk hpick
      have hexec : P.exec (p.view s) (.step j l₁) = some (p.view s') := by
        have hview : p.view s' = ⟨p.share s'.shared, (s.comps.filterMap p.pick).set j k₁'⟩ := by
          rw [view, hc, hset k' k₁' hpick']
        rw [hview]
        exact exec_step_of hj hstep
      exact ⟨[.step j l₁], Lts.run_cons_of P.exec hexec⟩

/-- A run of the whole is a run of the part. -/
theorem run {as : List (Act ε ν ℓ)} (hs : p.inv s) (h : S.run s as = some s') :
    ∃ as₁, P.run (p.view s) as₁ = some (p.view s') := by
  induction as generalizing s with
  | nil =>
    cases h
    exact ⟨[], rfl⟩
  | cons a as ih =>
    obtain ⟨m, ha, h⟩ := Lts.run_cons S.exec h
    obtain ⟨as₁, has₁⟩ := p.exec hs ha
    obtain ⟨as₂, has₂⟩ := ih (p.inv_exec hs ha) h
    exact ⟨as₁ ++ as₂, by rw [System.run, Lts.run_append_of P.exec has₁]; exact has₂⟩

end Part

end System
