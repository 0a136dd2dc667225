import Mathlib.Algebra.BigOperators.Group.List.Basic
import Mathlib.Algebra.Order.Ring.Nat
import Mathlib.Data.List.Range

/-!
# Ranges of 32-bit words

`RangeInclusive<u32>` as an iterator. It keeps a flag for having yielded its last word, since
there may be no word after it to start from.
-/

/-- `start..=stop`, where `next` has left it. -/
structure RangeInclusive where
  start : UInt32
  stop : UInt32
  exhausted : Bool
  deriving DecidableEq, Repr

namespace RangeInclusive

/-- `RangeInclusive::new`. -/
def new (start stop : UInt32) : RangeInclusive :=
  ⟨start, stop, false⟩

/-- `RangeInclusive::next`. -/
def next (r : RangeInclusive) : Option (UInt32 × RangeInclusive) :=
  if r.exhausted ∨ r.stop < r.start then none
  else if r.start < r.stop then some (r.start, { r with start := r.start + 1 })
  else some (r.start, { r with exhausted := true })

/-- How many words it has yet to yield. -/
def size (r : RangeInclusive) : Nat :=
  if r.exhausted ∨ r.stop < r.start then 0 else r.stop.toNat - r.start.toNat + 1

/-- The words it has yet to yield. -/
def toList (r : RangeInclusive) : List UInt32 :=
  (List.range' r.start.toNat r.size).map UInt32.ofNat

variable {r r' : RangeInclusive} {x : UInt32}

/-- A range without a next value is empty. -/
theorem toList_of_next_none (h : r.next = none) : r.toList = [] := by
  rw [next] at h
  split at h
  · rename_i hend
    simp only [toList, size, if_pos hend, List.range'_zero, List.map_nil]
  · split at h <;> cases h

/-- `next` yields the first of the words that are left. -/
theorem toList_of_next (h : r.next = some (x, r')) : r.toList = x :: r'.toList := by
  rw [next] at h
  split at h
  · cases h
  · rename_i hend
    obtain ⟨hexhausted, hle⟩ := not_or.mp hend
    have hsize : r.size = r.stop.toNat - r.start.toNat + 1 := if_neg hend
    rw [toList, hsize, List.range'_succ, List.map_cons, UInt32.ofNat_toNat]
    split at h
    · -- the start is still below the end: one word on, and one fewer is left
      rename_i hlt
      cases h
      have hlt' : r.start.toNat < r.stop.toNat := UInt32.lt_iff_toNat_lt.mp hlt
      have hstop := r.stop.toNat_lt
      have hsucc : (r.start + 1).toNat = r.start.toNat + 1 := by
        rw [UInt32.toNat_add, UInt32.toNat_one]
        omega
      have hle' : ¬r.stop < r.start + 1 := by
        rw [UInt32.lt_iff_toNat_lt, hsucc]
        omega
      have hsize' : RangeInclusive.size ⟨r.start + 1, r.stop, r.exhausted⟩ =
          r.stop.toNat - r.start.toNat := by
        rw [size, if_neg (not_or.mpr ⟨hexhausted, hle'⟩), hsucc]
        show r.stop.toNat - (r.start.toNat + 1) + 1 = _
        omega
      rw [toList, hsize', hsucc]
    · rename_i hge
      -- The end has been yielded, and the range is exhausted
      cases h
      have hsize' : RangeInclusive.size ⟨r.start, r.stop, true⟩ = 0 := if_pos (.inl rfl)
      have heq : r.stop.toNat - r.start.toNat = 0 := by
        rw [UInt32.lt_iff_toNat_lt] at hge
        omega
      rw [toList, hsize', heq]
      rfl

/-- Each word that is yielded is one fewer to yield. -/
theorem size_of_next (h : r.next = some (x, r')) : r.size = r'.size + 1 := by
  have hlength := congrArg List.length (toList_of_next h)
  simpa [toList] using hlength

/-! ## A whole range -/

variable {a b : UInt32}

/-- A new range has the numbers from its start to its end. -/
theorem toList_new (h : a ≤ b) :
    (new a b).toList = (List.range' a.toNat (b.toNat - a.toNat + 1)).map UInt32.ofNat := by
  have hle : ¬b < a := by
    rw [UInt32.lt_iff_toNat_lt]
    rw [UInt32.le_iff_toNat_le] at h
    omega
  have hsize : (new a b).size = b.toNat - a.toNat + 1 :=
    if_neg (not_or.mpr ⟨Bool.false_ne_true, hle⟩)
  rw [toList, hsize]
  rfl

/-- A range whose bounds are reversed is empty. -/
theorem toList_new_of_lt (h : b < a) : (new a b).toList = [] := by
  have hsize : (new a b).size = 0 := if_pos (.inr h)
  rw [toList, hsize]
  rfl

/-- The number of values of a new range. -/
theorem length_toList_new (h : a ≤ b) : (new a b).toList.length = b.toNat - a.toNat + 1 := by
  rw [toList_new h, List.length_map, List.length_range']

/-- The words of a range, by their values. -/
theorem map_toNat_toList_new (h : a ≤ b) :
    (new a b).toList.map UInt32.toNat = List.range' a.toNat (b.toNat - a.toNat + 1) := by
  have hb := b.toNat_lt
  rw [UInt32.le_iff_toNat_le] at h
  rw [toList_new (UInt32.le_iff_toNat_le.mpr h), List.map_map]
  apply (List.map_congr_left fun n hn => ?_).trans (List.map_id _)
  rw [List.mem_range'_1] at hn
  show (UInt32.ofNat n).toNat = n
  rw [UInt32.toNat_ofNat']
  omega

/-- A new range has what lies between its bounds, both included. -/
theorem mem_toList_new (h : a ≤ b) : x ∈ (new a b).toList ↔ a ≤ x ∧ x ≤ b := by
  have hmem : x ∈ (new a b).toList ↔ x.toNat ∈ (new a b).toList.map UInt32.toNat :=
    (List.mem_map_of_injective fun _ _ => UInt32.toNat_inj.mp).symm
  rw [hmem, map_toNat_toList_new h, List.mem_range'_1]
  rw [UInt32.le_iff_toNat_le] at h
  rw [UInt32.le_iff_toNat_le, UInt32.le_iff_toNat_le]
  omega

/-- A range goes upwards. -/
theorem pairwise_toList_new (h : a ≤ b) : (new a b).toList.Pairwise (· < ·) := by
  have hmap : ((new a b).toList.map UInt32.toNat).Pairwise (· < ·) := by
    rw [map_toNat_toList_new h]
    exact List.pairwise_lt_range'
  exact (List.pairwise_map.mp hmap).imp fun hlt => UInt32.lt_iff_toNat_lt.mpr hlt

/-- It starts with the lower bound. -/
theorem head?_toList_new (h : a ≤ b) : (new a b).toList.head? = some a := by
  rw [toList_new h, List.range'_succ, List.map_cons, UInt32.ofNat_toNat]
  rfl

/-- It ends with the upper bound. -/
theorem getLast?_toList_new (h : a ≤ b) : (new a b).toList.getLast? = some b := by
  rw [toList_new h, List.range'_concat, List.map_append, List.map_singleton,
    List.getLast?_append]
  rw [UInt32.le_iff_toNat_le] at h
  have hb : a.toNat + 1 * (b.toNat - a.toNat) = b.toNat := by omega
  rw [hb, UInt32.ofNat_toNat]
  rfl

end RangeInclusive
