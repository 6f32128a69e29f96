import HostGpu.Number.Word
import Mathlib.Data.Nat.Bitwise

/-!
# The bits of a word

A word is its 32 bits (`Word.eq_of_bit_eq`).  Shifts move them, and the mask of the lowest `n` bits
has these and no others.
-/

namespace HostGpu.Word

/-- Bit `j` of a word, from the lowest on. -/
def bit (w : UInt32) (j : Nat) : Bool := w.toBitVec.getLsbD j

theorem bit_eq_testBit (w : UInt32) (j : Nat) : bit w j = w.toNat.testBit j := rfl

theorem eq_of_bit_eq {v w : UInt32} (h : ∀ j < 32, bit v j = bit w j) : v = w :=
  UInt32.eq_of_toBitVec_eq (BitVec.eq_of_getLsbD_eq h)

@[simp] theorem bit_zero (j : Nat) : bit 0 j = false := by simp [bit]

@[simp] theorem bit_or (v w : UInt32) (j : Nat) : bit (v ||| w) j = (bit v j || bit w j) := by
  simp [bit]

@[simp] theorem bit_and (v w : UInt32) (j : Nat) : bit (v &&& w) j = (bit v j && bit w j) := by
  simp [bit]

theorem or_and_distrib_right (v w m : UInt32) : (v ||| w) &&& m = v &&& m ||| w &&& m := by
  refine eq_of_bit_eq ?_
  intro j _
  rw [bit_and, bit_or, bit_or, bit_and, bit_and, Bool.and_or_distrib_right]

variable {n : Nat}

theorem toNat_ofNat_mod (hn : n < 32) : (UInt32.ofNat n).toNat % 32 = n := by
  rw [UInt32.toNat_ofNat']
  omega

theorem bit_shiftLeft (hn : n < 32) (w : UInt32) (j : Nat) :
    bit (shiftLeft w (UInt32.ofNat n)) j = (decide (j < 32 ∧ n ≤ j) && bit w (j - n)) := by
  rw [bit_eq_testBit, shiftLeft, UInt32.toNat_shiftLeft, toNat_ofNat_mod hn,
    Nat.testBit_mod_two_pow, Nat.testBit_shiftLeft, ← Bool.and_assoc, ← Bool.decide_and]
  rfl

theorem bit_shiftRight (hn : n < 32) (w : UInt32) (j : Nat) :
    bit (w >>> UInt32.ofNat n) j = bit w (n + j) := by
  rw [bit_eq_testBit, UInt32.toNat_shiftRight, toNat_ofNat_mod hn, Nat.testBit_shiftRight]
  rfl

/-- The sign bit is repeated. -/
theorem bit_shiftRightSigned (hn : n < 32) (w : UInt32) {j : Nat} (hj : j < 32) :
    bit (shiftRightSigned w (UInt32.ofNat n)) j = bit w (min (n + j) 31) := by
  rw [bit, shiftRightSigned, toNat_ofNat_mod hn, BitVec.getLsbD_sshiftRight,
    BitVec.msb_eq_getLsbD_last]
  by_cases h : n + j < 32
  · rw [Nat.min_eq_left (by omega)]
    simp [h, hj, bit]
  · rw [Nat.min_eq_right (by omega)]
    simp [h, hj, bit]

/-- The mask of the lowest bits. -/
theorem bit_lowMask (hn : n ≤ 32) (j : Nat) :
    bit (UInt32.ofNat (2 ^ n - 1)) j = decide (j < n) := by
  have hpow : 2 ^ n ≤ 2 ^ 32 := Nat.pow_le_pow_right (by decide) hn
  have hpos := Nat.two_pow_pos n
  rw [bit_eq_testBit, UInt32.toNat_ofNat', Nat.mod_eq_of_lt (by omega),
    Nat.testBit_two_pow_sub_one]

/-- A power of two has one bit. -/
theorem bit_two_pow (hn : n < 32) (j : Nat) : bit (UInt32.ofNat (2 ^ n)) j = decide (n = j) := by
  rw [bit_eq_testBit, UInt32.toNat_ofNat', Nat.testBit_mod_two_pow, Nat.testBit_two_pow]
  by_cases h : n = j
  · simp [← h, hn]
  · simp [h]

/-- One bit of a word is set or not. -/
theorem and_two_pow (hn : n < 32) (w : UInt32) :
    w &&& UInt32.ofNat (2 ^ n) = if bit w n then UInt32.ofNat (2 ^ n) else 0 := by
  refine eq_of_bit_eq fun j _ => ?_
  rw [bit_and, bit_two_pow hn]
  by_cases h : n = j
  · subst h
    cases hbit : bit w n <;> simp [bit_two_pow hn]
  · cases hbit : bit w n <;> simp [h, bit_two_pow hn]

/-- Nothing of a word is left of a bit that is not set. -/
theorem and_two_pow_eq_zero (hn : n < 32) (w : UInt32) :
    w &&& UInt32.ofNat (2 ^ n) = 0 ↔ bit w n = false := by
  have hbit := bit_two_pow hn n
  rw [and_two_pow hn]
  cases bit w n with
  | false => simp
  | true =>
    simp only [if_true, Bool.true_eq_false, iff_false]
    intro hzero
    simp [hzero] at hbit

/-! ## Words of some of the bits -/

/-- The lowest bits of a word, and zeros above them. -/
def zeroExtend (n : Nat) (w : UInt32) : UInt32 := ⟨(w.toBitVec.setWidth n).setWidth 32⟩

/-- The lowest bits of a word as a number in two's complement: the highest of them is repeated. -/
def signExtend (n : Nat) (w : UInt32) : UInt32 := ⟨(w.toBitVec.setWidth n).signExtend 32⟩

theorem bit_zeroExtend (w : UInt32) {j : Nat} (hj : j < 32) :
    bit (zeroExtend n w) j = (decide (j < n) && bit w j) := by
  simp [bit, zeroExtend, hj]

/-- A word of some of the bits has no others. -/
theorem zeroExtend_of_lt {w : UInt32} (h : w.toNat < 2 ^ n) : zeroExtend n w = w := by
  refine eq_of_bit_eq ?_
  intro j hj
  rw [bit_zeroExtend _ hj]
  by_cases hn : j < n
  · simp [hn]
  · have hpow : 2 ^ n ≤ 2 ^ j := Nat.pow_le_pow_right (by decide) (by omega)
    have hbit : bit w j = false := Nat.testBit_lt_two_pow (h.trans_le hpow)
    simp [hbit]

theorem bit_signExtend (hpos : 0 < n) (w : UInt32) {j : Nat} (hj : j < 32) :
    bit (signExtend n w) j = bit w (min j (n - 1)) := by
  rw [bit, signExtend, BitVec.getLsbD_signExtend, BitVec.msb_eq_getLsbD_last]
  by_cases h : j < n
  · rw [Nat.min_eq_left (by omega)]
    simp [h, hj, bit]
  · have hlast : n - 1 < n := by omega
    rw [Nat.min_eq_right (by omega)]
    simp [h, hj, bit, hlast]

end HostGpu.Word
