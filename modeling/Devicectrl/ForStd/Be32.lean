import Mathlib.Algebra.BigOperators.Group.List.Basic
import Mathlib.Algebra.Order.Ring.Nat

/-!
# Big-endian 32-bit words

`be32` is `u32::to_be_bytes` and `ofBe32` is `u32::from_be_bytes`. The two are
inverse to each other on four-byte lists.
-/

/-- The four bytes of `n`, most significant first. -/
def be32 (n : UInt32) : List UInt8 :=
  [(n >>> 24).toUInt8, (n >>> 16).toUInt8, (n >>> 8).toUInt8, n.toUInt8]

/-- The word whose bytes, most significant first, are `bytes`. -/
def ofBe32 (bytes : List UInt8) : UInt32 :=
  bytes.foldl (fun n b => n * 256 + b.toUInt32) 0

/-- A word is four bytes. -/
@[simp] theorem length_be32 (n : UInt32) : (be32 n).length = 4 := rfl

/-- Reading back the four bytes of a word gives the word. -/
@[simp] theorem ofBe32_be32 (n : UInt32) : ofBe32 (be32 n) = n := by
  have hn := n.toNat_lt
  apply UInt32.toNat_inj.mp
  simp only [be32, ofBe32, List.foldl_cons, List.foldl_nil, UInt32.toNat_add, UInt32.toNat_mul,
    UInt8.toNat_toUInt32, UInt32.toNat_toUInt8, UInt32.toNat_shiftRight, UInt32.toNat_zero,
    Nat.shiftRight_eq_div_pow, UInt32.reduceToNat, Nat.reduceMod, Nat.reducePow]
  omega

/-- Four bytes are the encoding of the word they spell. -/
theorem be32_ofBe32 {bytes : List UInt8} (h : bytes.length = 4) : be32 (ofBe32 bytes) = bytes := by
  match bytes, h with
  | [a, b, c, d], _ =>
    have ha := a.toNat_lt
    have hb := b.toNat_lt
    have hc := c.toNat_lt
    have hd := d.toNat_lt
    simp only [be32, List.cons.injEq, and_true]
    refine ⟨?_, ?_, ?_, ?_⟩ <;> apply UInt8.toNat_inj.mp <;>
      simp only [ofBe32, List.foldl_cons, List.foldl_nil, UInt32.toNat_add, UInt32.toNat_mul,
        UInt8.toNat_toUInt32, UInt32.toNat_toUInt8, UInt32.toNat_shiftRight, UInt32.toNat_zero,
        Nat.shiftRight_eq_div_pow, UInt32.reduceToNat, Nat.reduceMod, Nat.reducePow] <;>
      omega

/-- Different words have different bytes. -/
theorem be32_inj {m n : UInt32} (h : be32 m = be32 n) : m = n := by
  rw [← ofBe32_be32 m, h, ofBe32_be32]
