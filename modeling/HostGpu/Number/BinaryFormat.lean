import HostGpu.Number.HalfEven

/-!
# Binary floating point formats: codes of non-negative numbers

A format has an exponent field above a fraction field. The *code* of a non-negative number is the
two fields read as one natural number, so that codes are ordered as the numbers are. Every finite
number of a format is a natural multiple of its smallest positive one; `units` is that multiple.
Exact results are therefore quotients of natural numbers, and `ofRatio` rounds such a quotient to
the code of the nearest number, ties to the even code.
-/

namespace HostGpu

-- Powers mean the same whether or not algebra is in scope.
attribute [local instance (high)] instPowNat

/-- The field widths of a binary floating point format, sign aside. -/
structure BinaryFormat where
  exponentBits : Nat
  fractionBits : Nat
deriving DecidableEq

namespace BinaryFormat

variable (f : BinaryFormat)

/-- The code of infinity: all exponent bits set, no fraction bit. Larger codes are NaNs. -/
def infinity : Nat := (2 ^ f.exponentBits - 1) * 2 ^ f.fractionBits

/-- The smallest positive number of the format is two to the minus `scale`. -/
def scale : Nat := 2 ^ (f.exponentBits - 1) - 2 + f.fractionBits

/-- The number that a finite code stands for, as a multiple of the smallest positive number. -/
def units (code : Nat) : Nat :=
  let exponent := code / 2 ^ f.fractionBits
  let fraction := code % 2 ^ f.fractionBits
  if exponent = 0 then fraction else (2 ^ f.fractionBits + fraction) * 2 ^ (exponent - 1)

/-- The code nearest to `num / den` units. The fraction field is filled first, then every doubling
of the unit step raises the code by one full fraction field; a fraction that is rounded up past its
field carries into the exponent. -/
def ofRatio (num den : Nat) : Nat :=
  let step := (num / den).log2 - f.fractionBits
  min (step * 2 ^ f.fractionBits + roundHalfEven num (den * 2 ^ step)) f.infinity

/-- The code in format `g` nearest to the number with finite code `code` in format `f`. -/
def convert (g : BinaryFormat) (code : Nat) : Nat :=
  g.ofRatio (f.units code * 2 ^ g.scale) (2 ^ f.scale)

theorem ofRatio_le_infinity (num den : Nat) : f.ofRatio num den ≤ f.infinity :=
  Nat.min_le_right _ _

end BinaryFormat

end HostGpu
