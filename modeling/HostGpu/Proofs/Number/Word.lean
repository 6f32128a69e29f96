import HostGpu.Number.Word
import Mathlib.Algebra.Order.Ring.Nat
import Mathlib.Data.Nat.Basic

/-!
# Words of natural numbers

The low 32 bits of a natural number, as a word.  Sums and products of words are the words of sums
and products, wrapped or not, and a number below `2 ^ 31` is read back from its word with and
without sign.  A divisor of `2 ^ 32` divides a word exactly if it divides the number the word was
cut from.  Integers wrap into words in the same way.
-/

namespace HostGpu.Word

theorem ofNat_toNat_of_lt {n : Nat} (h : n < 2 ^ 32) : (UInt32.ofNat n).toNat = n := by
  rw [UInt32.toNat_ofNat']
  exact Nat.mod_eq_of_lt h

theorem signed_ofNat {n : Nat} (h : n < 2 ^ 31) : signed (UInt32.ofNat n) = n := by
  have hn : (UInt32.ofNat n).toNat = n := ofNat_toNat_of_lt (by omega)
  rw [signed_of_lt (by omega), hn]

theorem signed_ofNat_toNat {n : Nat} (h : n < 2 ^ 31) : (signed (UInt32.ofNat n)).toNat = n := by
  rw [signed_ofNat h, Int.toNat_natCast]

/-- The signed reading is the unsigned one less `2 ^ 32` from the sign bit on. -/
theorem signed_eq (w : UInt32) :
    signed w = if w.toNat < 2 ^ 31 then (w.toNat : Int) else w.toNat - 2 ^ 32 := by
  have h' : w.toBitVec.toNat = w.toNat := rfl
  simp only [signed, BitVec.toInt_eq_toNat_cond, h']
  split <;> split <;> omega

/-- A bound on signed numbers from zero on is one test without sign. -/
theorem signed_mem_range {w : UInt32} {n : Nat} (h : n ≤ 2 ^ 31) :
    (0 ≤ signed w ∧ signed w < n) ↔ w.toNat < n := by
  have hw := w.toNat_lt
  rw [signed_eq]
  split <;> omega

theorem toNat_signed {w : UInt32} (h : 0 ≤ signed w) : (signed w).toNat = w.toNat := by
  have hw := w.toNat_lt
  rw [signed_eq] at h ⊢
  split at h <;> omega

/-- Adding does not wrap as long as the sum can be read with sign. -/
theorem signed_add_ofNat {w : UInt32} {k : Nat} (h : signed w + k < 2 ^ 31) :
    signed (w + UInt32.ofNat k) = signed w + k := by
  have hw := w.toNat_lt
  have hsum : (w + UInt32.ofNat k).toNat = (w.toNat + k % 2 ^ 32) % 2 ^ 32 := by
    rw [UInt32.toNat_add, UInt32.toNat_ofNat']
  rw [signed_eq, hsum]
  rw [signed_eq] at h ⊢
  split at h <;> split <;> omega

/-- Nor does it if the sum is not negative, for small steps. -/
theorem signed_add_ofNat_of_nonneg {w : UInt32} {k : Nat} (hk : k < 2 ^ 31)
    (h : 0 ≤ signed (w + UInt32.ofNat k)) : signed (w + UInt32.ofNat k) = signed w + k := by
  refine signed_add_ofNat ?_
  have hw := w.toNat_lt
  have hsum : (w + UInt32.ofNat k).toNat = (w.toNat + k % 2 ^ 32) % 2 ^ 32 := by
    rw [UInt32.toNat_add, UInt32.toNat_ofNat']
  rw [signed_eq, hsum] at h
  rw [signed_eq]
  split at h <;> split <;> omega

theorem ofNat_le_iff {n : Nat} (h : n < 2 ^ 32) (w : UInt32) :
    UInt32.ofNat n ≤ w ↔ n ≤ w.toNat := by
  rw [UInt32.le_iff_toNat_le, ofNat_toNat_of_lt h]

/-- A divisor of the word size divides the word of its multiples and no others. -/
theorem dvd_toNat_ofNat {d n : Nat} (hd : d ∣ 2 ^ 32) : d ∣ (UInt32.ofNat n).toNat ↔ d ∣ n := by
  rw [UInt32.toNat_ofNat']
  exact Nat.dvd_mod_iff hd

/-- A divisor of the word size divides the signed reading of a word if it divides the word. -/
theorem dvd_signed {d : Nat} {w : UInt32} (hd : d ∣ 2 ^ 32) (h : d ∣ w.toNat) :
    (d : Int) ∣ signed w := by
  rw [signed_eq]
  split
  · exact Int.natCast_dvd_natCast.mpr h
  · exact Int.dvd_sub (Int.natCast_dvd_natCast.mpr h) (by exact_mod_cast hd)

/-! ## Integers that wrap -/

theorem ofInt_natCast (n : Nat) : ofInt n = UInt32.ofNat n := by
  rw [ofInt, BitVec.ofInt_natCast]
  rfl

theorem ofInt_toNat (w : UInt32) : ofInt w.toNat = w := by
  rw [ofInt_natCast, UInt32.ofNat_toNat]

theorem ofInt_add (a b : Int) : ofInt (a + b) = ofInt a + ofInt b := by
  rw [ofInt, BitVec.ofInt_add]
  rfl

theorem ofInt_mul (a b : Int) : ofInt (a * b) = ofInt a * ofInt b := by
  rw [ofInt, BitVec.ofInt_mul]
  rfl

/-- The word of an integer is read as the signed number that is the same up to multiples of
`2 ^ 32`. -/
theorem signed_ofInt (i : Int) : signed (ofInt i) = i.bmod (2 ^ 32) := BitVec.toInt_ofInt i

/-- Signed numbers do not wrap. -/
theorem bmod_eq_self {i : Int} (h : -2 ^ 31 ≤ i) (h' : i < 2 ^ 31) : i.bmod (2 ^ 32) = i := by
  refine Int.bmod_eq_of_le_mul_two ?_ ?_ <;> omega

/-- Numbers that are not below all words are in a range of natural numbers as they are, or not at
all. -/
theorem bmod_mem_range {i : Int} {n : Nat} (hn : n ≤ 2 ^ 31) (hlow : -2 ^ 31 ≤ i)
    (hhigh : i < 2 ^ 32) : (0 ≤ i.bmod (2 ^ 32) ∧ i.bmod (2 ^ 32) < n) ↔ 0 ≤ i ∧ i < n := by
  rw [Int.bmod_def]
  split <;> omega

end HostGpu.Word
