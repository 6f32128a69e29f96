import HostGpu.Number.Single

/-!
# Powers of positive numbers

A single precision exponent is `m / 2 ^ k` for natural numbers `m` and `k`, so a power is a whole
power followed by `k` square roots. Both are computed on mantissas of `Power.precision` bits that
are truncated after every step. The relative error of the whole power grows to about `m` times the
truncation error, and every square root halves it again, so that the result is known to far more
bits than single precision keeps and rounding it gives the nearest single precision number.
-/

namespace HostGpu

-- Powers mean the same whether or not algebra is in scope.
attribute [local instance (high)] instPowNat

/-- The integer square root, found bit by bit from `bits` bits down. -/
def rootFrom (n : Nat) : (bits root : Nat) → Nat
  | 0, root => root
  | bits + 1, root =>
    let next := root + 2 ^ bits
    if next * next ≤ n then rootFrom n bits next else rootFrom n bits root

/-- The largest integer whose square is at most `n`. -/
def integerRoot (n : Nat) : Nat := rootFrom n (n.log2 / 2 + 1) 0

/-- A positive number `mantissa * 2 ^ exponent`. -/
structure Scaled where
  mantissa : Nat
  exponent : Int

namespace Scaled

/-- Bits kept in a mantissa. -/
def precision : Nat := 160

/-- Drops the low bits of a mantissa that is too long. -/
def truncate (x : Scaled) : Scaled :=
  let excess := x.mantissa.log2 + 1 - precision
  ⟨x.mantissa >>> excess, x.exponent + excess⟩

def mul (x y : Scaled) : Scaled :=
  truncate ⟨x.mantissa * y.mantissa, x.exponent + y.exponent⟩

/-- The `n`-th power by repeated squaring. -/
def pow (x : Scaled) (n : Nat) : Scaled :=
  if n = 0 then ⟨1, 0⟩
  else
    let half := pow x (n / 2)
    let square := mul half half
    if n % 2 = 0 then square else mul square x
termination_by n
decreasing_by omega

/-- The square root. The mantissa is widened to twice the precision first, by an amount that makes
the exponent even. -/
def sqrt (x : Scaled) : Scaled :=
  let shift : Nat := 2 * precision + (x.exponent % 2).toNat
  truncate ⟨integerRoot (x.mantissa <<< shift), (x.exponent - shift) / 2⟩

/-- The square root taken `k` times. -/
def sqrtTimes : Nat → Scaled → Scaled
  | 0, x => x
  | k + 1, x => sqrtTimes k (sqrt x)

end Scaled

namespace Single

/-- A finite positive word as a mantissa and an exponent. -/
def toScaled (w : UInt32) : Scaled := Scaled.truncate ⟨units w, -(format.scale : Int)⟩

/-- The single precision number nearest to a scaled one that stands for all numbers from it up to
one more unit in its last place. -/
def ofScaled (x : Scaled) : UInt32 :=
  let e := x.exponent - 1 + format.scale
  let mantissa := 2 * x.mantissa + 1
  ofCode false <|
    if 0 ≤ e then format.ofRatio (mantissa * 2 ^ e.toNat) 1
    else format.ofRatio mantissa (2 ^ (-e).toNat)

/-- The fewest bits `k` for which `x * 2 ^ k` is whole, with that whole number, for the finite
positive number `x` below two to the 24. -/
def fractionOf (w : UInt32) : Nat × Nat :=
  let exponent := code w / 2 ^ format.fractionBits
  (format.scale - (exponent - 1), format.units (code w) / 2 ^ (exponent - 1))

/-- `x` to the power `y`, for `x` not negative and `y` positive and below two to the 24. -/
def pow (x y : UInt32) : UInt32 :=
  if isNaN x then quiet x
  else if isNaN y then quiet y
  else if isZero x || isInfinite x then x
  else if code x = code one then one
  else
    let (roots, whole) := fractionOf y
    ofScaled (Scaled.sqrtTimes roots (Scaled.pow (toScaled x) whole))

end Single

end HostGpu
