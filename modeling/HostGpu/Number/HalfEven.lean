/-!
# Rounding a quotient to the nearest integer, ties to even

`roundHalfEven num den` is the rounding that every inexact operation of the floating point
modules goes through. Its lemmas say what it does below a half and on exact quotients.
-/

namespace HostGpu

/-- The integer nearest to `num / den`; of two equally near integers the even one. -/
def roundHalfEven (num den : Nat) : Nat :=
  let quotient := num / den
  let twice := 2 * (num % den)
  if twice < den then quotient
  else if den < twice then quotient + 1
  else quotient + quotient % 2

theorem roundHalfEven_of_lt {num den : Nat} (h : 2 * (num % den) < den) :
    roundHalfEven num den = num / den := by
  simp [roundHalfEven, h]

theorem roundHalfEven_mul (q den : Nat) (h : 0 < den) : roundHalfEven (q * den) den = q := by
  rw [roundHalfEven_of_lt (by simpa using h), Nat.mul_div_cancel _ h]

end HostGpu
