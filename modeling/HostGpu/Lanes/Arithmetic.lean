import HostGpu.Lanes.Basic
import HostGpu.Number.Single

/-!
# Lane-wise arithmetic

Words are read as floating point numbers, signed integers or unsigned integers, whatever the
operation asks for. Integer operations wrap and shift counts are taken modulo 32. A mask has a word
in each lane; a lane is on if its word is not zero.
-/

namespace HostGpu

-- Powers and sums mean the same whether or not algebra is in scope.
attribute [local instance (high)] instPowNat Zero.ofOfNat0

/-- A word in each lane. -/
abbrev WordLanes := Lanes UInt32

namespace Lanes

/-! ## Floating point -/

def addFloat : WordLanes → WordLanes → WordLanes := zipWith Single.add
def subFloat : WordLanes → WordLanes → WordLanes := zipWith Single.sub
def mulFloat : WordLanes → WordLanes → WordLanes := zipWith Single.mul
def divFloat : WordLanes → WordLanes → WordLanes := zipWith Single.div
def minFloat : WordLanes → WordLanes → WordLanes := zipWith Single.min
def maxFloat : WordLanes → WordLanes → WordLanes := zipWith Single.max

/-- Brings every lane into `low` to `high`; a NaN becomes `low`. -/
def clampFloat (v : WordLanes) (low high : UInt32) : WordLanes := v.map (Single.clampOr low high)

/-- Rounds to whole numbers, ties to even. -/
def roundFloat : WordLanes → WordLanes := map Single.roundEven

/-- Rounds to whole numbers, ties to even, as saturated signed integers. -/
def roundSigned : WordLanes → WordLanes := map (Single.toSigned ∘ Single.roundEven)

/-- Cuts to whole numbers as saturated signed integers. -/
def floatToSigned : WordLanes → WordLanes := map Single.toSigned

/-- Cuts to whole numbers as saturated unsigned integers. -/
def floatToUnsigned : WordLanes → WordLanes := map Single.toUnsigned

/-- The mask of lanes where the left side is the smaller number. -/
def lessFloat : WordLanes → WordLanes → WordLanes := zipWith fun a b => Word.ofBool (Single.lt a b)

/-! ## Integers -/

def add : WordLanes → WordLanes → WordLanes := zipWith (· + ·)
def sub : WordLanes → WordLanes → WordLanes := zipWith (· - ·)
def mul : WordLanes → WordLanes → WordLanes := zipWith (· * ·)
def and : WordLanes → WordLanes → WordLanes := zipWith (· &&& ·)
def or : WordLanes → WordLanes → WordLanes := zipWith (· ||| ·)
def not : WordLanes → WordLanes := map (~~~ ·)
def shiftLeft (v : WordLanes) (n : UInt32) : WordLanes := v.map (Word.shiftLeft · n)
def shiftRight (v : WordLanes) (n : UInt32) : WordLanes := v.map (Word.shiftRight · n)
def shiftRightSigned (v : WordLanes) (n : UInt32) : WordLanes := v.map (Word.shiftRightSigned · n)
def maxSigned : WordLanes → WordLanes → WordLanes := zipWith Word.maxSigned
def signedToFloat : WordLanes → WordLanes := map fun w => Single.ofInt (Word.signed w)
def unsignedToFloat : WordLanes → WordLanes := map fun w => Single.ofInt w.toNat

/-- The mask of lanes where the left side is at least the right one, both without sign. -/
def atLeast : WordLanes → WordLanes → WordLanes := zipWith fun a b => Word.ofBool (b ≤ a)

/-! ## Masks -/

/-- Whether a mask has a lane on. -/
def anyOn (mask : WordLanes) : Bool := mask.toList.any (· != 0)

/-- The number whose bit `l` is set where lane `l` is on. -/
def bits (mask : WordLanes) : Nat :=
  (Lane.all.map fun l => if mask.get l = 0 then 0 else 2 ^ l.val).sum

/-- The first value in lanes that are on and the second one in the others. -/
def select {α : Type} (mask : WordLanes) (on off : Lanes α) : Lanes α :=
  ofFn fun l => if mask.get l = 0 then off.get l else on.get l

/-- The lowest lane that is on. -/
def firstOn? (mask : WordLanes) : Option Lane := Lane.all.find? fun l => mask.get l ≠ 0

theorem anyOn_eq_true_iff (mask : WordLanes) : mask.anyOn = true ↔ ∃ l, mask.get l ≠ 0 := by
  constructor
  · intro h
    simp only [anyOn, toList, List.any_cons, List.any_nil, Bool.or_false, Bool.or_eq_true,
      bne_iff_ne, ne_eq] at h
    rcases h with h | h | h | h
    · exact ⟨0, h⟩
    · exact ⟨1, h⟩
    · exact ⟨2, h⟩
    · exact ⟨3, h⟩
  · rintro ⟨l, h⟩
    simp only [anyOn, List.any_eq_true, bne_iff_ne, ne_eq]
    refine ⟨mask.get l, ?_, h⟩
    match l with
    | 0 => simp [toList, get]
    | 1 => simp [toList, get]
    | 2 => simp [toList, get]
    | 3 => simp [toList, get]

end Lanes

end HostGpu
