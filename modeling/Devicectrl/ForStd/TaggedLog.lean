import Mathlib.Algebra.BigOperators.Group.List.Basic
import Mathlib.Algebra.Order.Ring.Nat
import Mathlib.Data.List.Perm.Lattice

/-!
# Logs of several writers

A log to which writers add entries under their number: what each has written, and the whole log
up to its order.
-/

namespace TaggedLog

variable {α : Type*} {log log' : List (Nat × α)} {i j n : Nat}

/-- What writer `i` has written, in order. -/
def entries (i : Nat) (log : List (Nat × α)) : List α :=
  log.filterMap fun e => if e.1 = i then some e.2 else none

/-- Entries of writer `i`. -/
def tag (i : Nat) (xs : List α) : List (Nat × α) :=
  xs.map fun x => (i, x)

@[simp] theorem entries_nil (i : Nat) : entries i ([] : List (Nat × α)) = [] := rfl

/-- The entries of one index come in the order of the log. -/
@[simp] theorem entries_append (i : Nat) (log log' : List (Nat × α)) :
    entries i (log ++ log') = entries i log ++ entries i log' :=
  List.filterMap_append

/-- Entries tagged with an index are those of this index. -/
@[simp] theorem entries_tag_self (i : Nat) (xs : List α) : entries i (tag i xs) = xs := by
  simp [entries, tag, List.filterMap_map]

/-- They are none of another. -/
theorem entries_tag_ne (h : j ≠ i) (xs : List α) : entries i (tag j xs) = [] := by
  simp [entries, tag, List.filterMap_map, h]

/-- What is tagged with an index is found there. -/
theorem mem_tag {e : Nat × α} {xs : List α} : e ∈ tag i xs ↔ e.1 = i ∧ e.2 ∈ xs := by
  constructor
  · intro h
    obtain ⟨x, hx, rfl⟩ := List.mem_map.mp h
    exact ⟨rfl, hx⟩
  · rintro ⟨rfl, hx⟩
    exact List.mem_map.mpr ⟨e.2, hx, rfl⟩

/-- Tags are taken off again. -/
theorem map_snd_tag (i : Nat) (xs : List α) : (tag i xs).map Prod.snd = xs := by
  simp [tag]

/-- An entry of this index is the next one. -/
theorem entries_cons_self {e : Nat × α} (h : e.1 = i) (log : List (Nat × α)) :
    entries i (e :: log) = e.2 :: entries i log := by
  simp [entries, h]

/-- An entry of another index is passed over. -/
theorem entries_cons_ne {e : Nat × α} (h : e.1 ≠ i) (log : List (Nat × α)) :
    entries i (e :: log) = entries i log := by
  simp [entries, h]

/-- Leaving one index out keeps the entries of the others. -/
theorem entries_filter_ne (h : i ≠ n) (log : List (Nat × α)) :
    entries i (log.filter fun e => e.1 ≠ n) = entries i log := by
  induction log with
  | nil => rfl
  | cons e log ih =>
    by_cases hn : e.1 = n
    · rw [List.filter_cons_of_neg (by simp [hn]), ih, entries_cons_ne]
      exact fun he => h (he.symm.trans hn)
    · rw [List.filter_cons_of_pos (by simp [hn])]
      by_cases hi : e.1 = i
      · rw [entries_cons_self hi, entries_cons_self hi, ih]
      · rw [entries_cons_ne hi, entries_cons_ne hi, ih]

/-- What is left out are the entries of that index. -/
theorem map_filter_eq (n : Nat) (log : List (Nat × α)) :
    (log.filter fun e => !decide (e.1 ≠ n)).map Prod.snd = entries n log := by
  induction log with
  | nil => rfl
  | cons e log ih =>
    by_cases hn : e.1 = n
    · rw [List.filter_cons_of_pos (by simp [hn]), List.map_cons, ih, entries_cons_self hn]
    · rw [List.filter_cons_of_neg (by simp [hn]), ih, entries_cons_ne hn]

/-- Up to its order, a log is what its writers have written one after the other. -/
theorem perm_flatMap_entries (h : ∀ e ∈ log, e.1 < n) :
    (log.map Prod.snd).Perm ((List.range n).flatMap fun i => entries i log) := by
  induction n generalizing log with
  | zero =>
    cases log with
    | nil => exact .refl _
    | cons e log => exact absurd (h e List.mem_cons_self) (Nat.not_lt_zero _)
  | succ n ih =>
    -- The entries of the last writer come last
    have hsplit := (List.filter_append_perm (fun e => decide (e.1 ≠ n)) log).symm.map Prod.snd
    have hlt : ∀ e ∈ log.filter fun e => decide (e.1 ≠ n), e.1 < n := by
      intro e he
      obtain ⟨hmem, hne⟩ := List.mem_filter.mp he
      have hle := h e hmem
      have hne' := of_decide_eq_true hne
      omega
    have hothers : ((List.range n).flatMap fun i =>
        entries i (log.filter fun e => decide (e.1 ≠ n))) =
          (List.range n).flatMap fun i => entries i log := by
      apply List.flatMap_congr
      intro i hi
      have hlt := List.mem_range.mp hi
      exact entries_filter_ne (by omega) log
    rw [List.map_append, map_filter_eq] at hsplit
    rw [List.range_succ, List.flatMap_append, List.flatMap_singleton, ← hothers]
    exact hsplit.trans ((ih hlt).append_right _)

/-! ### Two writers -/

/-- `zs` is what two writers have written in turns, one of them `xs` and the other `ys`. -/
def Interleaves (xs ys zs : List α) : Prop :=
  ∃ log : List (Nat × α), (∀ e ∈ log, e.1 < 2) ∧ entries 0 log = xs ∧ entries 1 log = ys ∧
    log.map Prod.snd = zs

variable {xs ys zs : List α}

theorem Interleaves.nil : Interleaves ([] : List α) [] [] :=
  ⟨[], fun _ he => absurd he List.not_mem_nil, rfl, rfl, rfl⟩

/-- What a writer appends is tagged as that of one of the two. -/
theorem lt_two_of_mem_tag (hi : i < 2) (hlog : ∀ e ∈ log, e.1 < 2) (ws : List α) :
    ∀ e ∈ log ++ tag i ws, e.1 < 2 := by
  intro e he
  rcases List.mem_append.mp he with he | he
  · exact hlog e he
  · rw [(mem_tag.mp he).1]
    exact hi

/-- What is appended to the first list comes last. -/
theorem Interleaves.append_left (h : Interleaves xs ys zs) (ws : List α) :
    Interleaves (xs ++ ws) ys (zs ++ ws) := by
  obtain ⟨log, hlog, rfl, rfl, rfl⟩ := h
  refine ⟨log ++ tag 0 ws, lt_two_of_mem_tag (by omega) hlog ws, ?_, ?_, ?_⟩
  · rw [entries_append, entries_tag_self]
  · rw [entries_append, entries_tag_ne (by omega), List.append_nil]
  · rw [List.map_append, map_snd_tag]

/-- So does what is appended to the second. -/
theorem Interleaves.append_right (h : Interleaves xs ys zs) (ws : List α) :
    Interleaves xs (ys ++ ws) (zs ++ ws) := by
  obtain ⟨log, hlog, rfl, rfl, rfl⟩ := h
  refine ⟨log ++ tag 1 ws, lt_two_of_mem_tag (by omega) hlog ws, ?_, ?_, ?_⟩
  · rw [entries_append, entries_tag_ne (by omega), List.append_nil]
  · rw [entries_append, entries_tag_self]
  · rw [List.map_append, map_snd_tag]

/-- What the writers have written one after the other, when each stands for an entry of a list. -/
theorem flatMap_range {β : Type*} {xs : List β} {f : Nat → List α} {g : β → List α}
    (h : ∀ i x, xs[i]? = some x → f i = g x) :
    (List.range xs.length).flatMap f = xs.flatMap g := by
  have hmap : (List.range xs.length).map f = xs.map g := by
    apply List.ext_getElem?
    intro i
    rw [List.getElem?_map, List.getElem?_map]
    -- Inside the list `h` applies, and outside both have nothing
    by_cases hi : i < xs.length
    · rw [List.getElem?_range hi, List.getElem?_eq_getElem hi, Option.map_some, Option.map_some,
        h i _ (List.getElem?_eq_getElem hi)]
    · have hlen : xs.length ≤ i := Nat.not_lt.mp hi
      rw [List.getElem?_eq_none hlen, List.getElem?_eq_none (by rw [List.length_range]; exact hlen)]
      rfl
  rw [List.flatMap_def, List.flatMap_def, hmap]

end TaggedLog
