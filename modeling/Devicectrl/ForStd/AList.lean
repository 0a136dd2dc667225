import Mathlib.Data.List.AList
import Mathlib.Algebra.BigOperators.Group.List.Basic
import Mathlib.Algebra.Order.Ring.Nat

/-!
# AList lemmas for the standard library

Lookups after `AList.replace`. Mathlib has the keys of a replaced association
list but not its lookups.
-/

namespace AList

variable {α : Type*} {β : α → Type*} [DecidableEq α]

/-- An entry under the key at the head is replaced there. -/
private theorem kreplace_cons_self {a : α} {b v : β a} {l : List (Sigma β)} :
    (⟨a, v⟩ :: l : List (Sigma β)).kreplace a b = ⟨a, b⟩ :: l := by
  unfold List.kreplace
  exact List.lookmap_cons_some _ _ (if_pos rfl)

/-- An entry under another key is passed over. -/
private theorem kreplace_cons_ne {a c : α} {b : β a} {v : β c} {l : List (Sigma β)} (h : a ≠ c) :
    (⟨c, v⟩ :: l : List (Sigma β)).kreplace a b = ⟨c, v⟩ :: l.kreplace a b := by
  unfold List.kreplace
  exact List.lookmap_cons_none _ _ (if_neg h)

/-- Replacing a key of the underlying list and looking the same key up again. -/
private theorem dlookup_kreplace_self {a : α} {b : β a} {l : List (Sigma β)} (h : a ∈ l.keys) :
    (l.kreplace a b).dlookup a = some b := by
  induction l with
  | nil => simp at h
  | cons p l ih =>
    obtain ⟨c, v⟩ := p
    -- `kreplace` stops at the first entry with the key
    by_cases hc : a = c
    · subst hc
      rw [kreplace_cons_self, List.dlookup_cons_eq]
    · rw [kreplace_cons_ne hc, List.dlookup_cons_ne _ _ hc]
      apply ih
      rw [List.keys_cons, List.mem_cons] at h
      exact h.resolve_left hc

/-- Replacing one key of the underlying list does not change the lookup of another. -/
private theorem dlookup_kreplace_ne {a a' : α} {b : β a'} {l : List (Sigma β)} (h : a ≠ a') :
    (l.kreplace a' b).dlookup a = l.dlookup a := by
  induction l with
  | nil => rfl
  | cons p l ih =>
    obtain ⟨c, v⟩ := p
    by_cases hc : a' = c
    · -- the head is the entry that is replaced, and `a` is none of it
      subst hc
      rw [kreplace_cons_self, List.dlookup_cons_ne _ _ h, List.dlookup_cons_ne _ _ h]
    · rw [kreplace_cons_ne hc]
      by_cases hac : a = c
      · subst hac
        rw [List.dlookup_cons_eq, List.dlookup_cons_eq]
      · -- the head is another entry, that of `a` or not, and stays as it is
        rw [List.dlookup_cons_ne _ _ hac, List.dlookup_cons_ne _ _ hac]
        exact ih

/-- A replaced key holds the new value. -/
theorem lookup_replace_self {a : α} {b : β a} {s : AList β} (h : a ∈ s) :
    (s.replace a b).lookup a = some b :=
  dlookup_kreplace_self (mem_keys.mp h)

/-- Replacing a key leaves the other keys as they were. -/
theorem lookup_replace_ne {a a' : α} {b : β a'} {s : AList β} (h : a ≠ a') :
    (s.replace a' b).lookup a = s.lookup a :=
  dlookup_kreplace_ne h

/-- What a function does not tell apart is not changed by a replace. -/
private theorem map_kreplace {γ : Type*} {f : Sigma β → γ} {a : α} {b : β a} {l : List (Sigma β)}
    (h : ∀ c ∈ l.dlookup a, f ⟨a, b⟩ = f ⟨a, c⟩) : (l.kreplace a b).map f = l.map f := by
  induction l with
  | nil => rfl
  | cons p l ih =>
    obtain ⟨c, v⟩ := p
    by_cases hc : a = c
    · subst hc
      rw [kreplace_cons_self, List.map_cons, List.map_cons, h v (List.dlookup_cons_eq l a v)]
    · rw [List.dlookup_cons_ne _ _ hc] at h
      rw [kreplace_cons_ne hc, List.map_cons, List.map_cons, ih h]

/-- What `f` sees of the entries stays if it sees the same of the new value as of the old one. -/
theorem map_entries_replace {γ : Type*} {f : Sigma β → γ} {a : α} {b : β a} {s : AList β}
    (h : ∀ c ∈ s.lookup a, f ⟨a, b⟩ = f ⟨a, c⟩) :
    (s.replace a b).entries.map f = s.entries.map f :=
  map_kreplace h

/-- What `f` sees of a list decides what it sees of each entry. -/
private theorem map_dlookup_congr {γ : Type*} {f : ∀ a, β a → γ} {l l' : List (Sigma β)}
    (h : (l'.map fun e => (e.1, f e.1 e.2)) = l.map fun e => (e.1, f e.1 e.2)) (a : α) :
    (l'.dlookup a).map (f a) = (l.dlookup a).map (f a) := by
  induction l generalizing l' with
  | nil =>
    rw [List.map_nil, List.map_eq_nil_iff] at h
    rw [h]
  | cons p l ih =>
    cases l' with
    | nil => cases h
    | cons p' l' =>
      obtain ⟨c, v⟩ := p
      obtain ⟨c', v'⟩ := p'
      rw [List.map_cons, List.map_cons, List.cons.injEq, Prod.mk.injEq] at h
      -- The two heads have one key and the same picture of their values
      obtain ⟨⟨hc, hv⟩, hl⟩ := h
      obtain rfl : c' = c := hc
      by_cases hac : a = c'
      · subst hac
        rw [List.dlookup_cons_eq, List.dlookup_cons_eq]
        exact congrArg some hv
      · rw [List.dlookup_cons_ne _ _ hac, List.dlookup_cons_ne _ _ hac]
        exact ih hl

/-- Tables that a function does not tell apart, entry by entry, have the same lookups for it. -/
theorem map_lookup_congr {γ : Type*} {f : ∀ a, β a → γ} {s s' : AList β}
    (h : (s'.entries.map fun e => (e.1, f e.1 e.2)) = s.entries.map fun e => (e.1, f e.1 e.2))
    (a : α) : (s'.lookup a).map (f a) = (s.lookup a).map (f a) :=
  map_dlookup_congr h a

end AList
