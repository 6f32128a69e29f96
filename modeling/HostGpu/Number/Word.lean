/-!
# Words read as signed integers

A lane holds 32 bits. `Word.signed` is the integer they stand for in two's complement and
`Word.ofInt` wraps an integer back into a word.
-/

namespace HostGpu.Word

-- Powers mean the same whether or not algebra is in scope.
attribute [local instance (high)] instPowNat

/-- The integer that a word stands for in two's complement. -/
def signed (w : UInt32) : Int := w.toBitVec.toInt

/-- The word with the low 32 bits of an integer. -/
def ofInt (i : Int) : UInt32 := ⟨BitVec.ofInt 32 i⟩

/-- Shifts left by `n` modulo 32 bits. -/
def shiftLeft (w n : UInt32) : UInt32 := w <<< n

/-- Shifts right by `n` modulo 32 bits, filling with zeros. -/
def shiftRight (w n : UInt32) : UInt32 := w >>> n

/-- Shifts right by `n` modulo 32 bits, filling with the sign bit. -/
def shiftRightSigned (w n : UInt32) : UInt32 := ⟨w.toBitVec.sshiftRight (n.toNat % 32)⟩

/-- The all-ones word for true, zero for false. -/
def ofBool (b : Bool) : UInt32 := if b then 0xFFFFFFFF else 0

/-- The larger of two words read as signed integers. -/
def maxSigned (a b : UInt32) : UInt32 := if signed a < signed b then b else a

@[simp] theorem ofInt_signed (w : UInt32) : ofInt (signed w) = w := by
  simp [ofInt, signed]

theorem signed_bounds (w : UInt32) : -2 ^ (31 : Nat) ≤ signed w ∧ signed w < 2 ^ (31 : Nat) := by
  have h₁ := BitVec.le_toInt w.toBitVec
  have h₂ := BitVec.toInt_lt (x := w.toBitVec)
  simp only [signed]
  omega

/-- Below the sign bit the signed reading is the unsigned one. -/
theorem signed_of_lt {w : UInt32} (h : w.toNat < 2 ^ (31 : Nat)) : signed w = w.toNat := by
  have h' : w.toBitVec.toNat = w.toNat := rfl
  simp only [signed, BitVec.toInt_eq_toNat_cond, h']
  rw [if_pos (by omega)]

@[simp] theorem ofBool_ne_zero (b : Bool) : ofBool b ≠ 0 ↔ b = true := by
  cases b <;> decide

end HostGpu.Word
