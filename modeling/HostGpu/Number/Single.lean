import HostGpu.Number.BinaryFormat
import HostGpu.Number.Word

/-!
# Single precision arithmetic on words

A word is read as a sign bit above a code of the format with 8 exponent and 23 fraction bits.
Sums, products and quotients are computed exactly in units of the smallest positive number and
rounded once. Where an operand of these is a NaN the result is that operand made quiet, the first one
if both are; an operation without a meaningful result gives `Single.invalid`. Choosing between two
words and rounding to whole numbers leave the bits of a NaN alone.
-/

namespace HostGpu.Single

-- Powers mean the same whether or not algebra is in scope.
attribute [local instance (high)] instPowNat

/-- Eight exponent bits above 23 fraction bits. -/
def format : BinaryFormat := ⟨8, 23⟩

/-! ## Parts of a word -/

/-- The sign bit. -/
def sign (w : UInt32) : Bool := w &&& 0x80000000 != 0

/-- The code below the sign bit. -/
def code (w : UInt32) : Nat := (w &&& 0x7FFFFFFF).toNat

/-- The word with a given sign and code. -/
def ofCode (negative : Bool) (code : Nat) : UInt32 :=
  UInt32.ofNat code ||| (if negative then 0x80000000 else 0)

def isNaN (w : UInt32) : Bool := format.infinity < code w

def isInfinite (w : UInt32) : Bool := code w == format.infinity

def isZero (w : UInt32) : Bool := code w == 0

/-- Zero, one and the NaN of an operation without a meaningful result. -/
def zero : UInt32 := 0
def one : UInt32 := 0x3F800000
def invalid : UInt32 := 0xFFC00000

/-- A NaN with its quiet bit set. -/
def quiet (w : UInt32) : UInt32 := w ||| 0x00400000

/-- The same number with the other sign. -/
def neg (w : UInt32) : UInt32 := w ^^^ 0x80000000

/-- The magnitude of a finite word as a multiple of the smallest positive number. -/
def units (w : UInt32) : Nat := format.units (code w)

/-- A finite word as a signed multiple of the smallest positive number. -/
def signedUnits (w : UInt32) : Int := if sign w then -(units w : Int) else units w

/-- A key that orders all words but NaNs as the numbers are ordered; both zeros have key 0. -/
def key (w : UInt32) : Int := if sign w then -(code w : Int) else code w

/-! ## Conversions -/

/-- The number nearest to `num / den`. -/
def ofRatio (num den : Nat) : UInt32 :=
  ofCode false (format.ofRatio (num * 2 ^ format.scale) den)

/-- The number nearest to an integer. -/
def ofInt (i : Int) : UInt32 :=
  ofCode (i < 0) (format.ofRatio (i.natAbs * 2 ^ format.scale) 1)

/-- The integer part of a number, brought into `low ≤ i ≤ high`; 0 for a NaN. -/
def toIntClamped (low high : Int) (w : UInt32) : Int :=
  if isNaN w then 0
  else if isInfinite w then (if sign w then low else high)
  else
    let whole : Nat := units w / 2 ^ format.scale
    max low (min high (if sign w then -(whole : Int) else whole))

/-- The integer part as a signed word, saturating. -/
def toSigned (w : UInt32) : UInt32 :=
  Word.ofInt (toIntClamped (-2 ^ (31 : Nat)) (2 ^ (31 : Nat) - 1) w)

/-- The integer part as an unsigned word, saturating. -/
def toUnsigned (w : UInt32) : UInt32 := Word.ofInt (toIntClamped 0 (2 ^ (32 : Nat) - 1) w)

/-- The nearest integer as a floating point number, ties to even; zero results keep the sign. A word
that is not finite stays as it is. -/
def roundEven (w : UInt32) : UInt32 :=
  if isNaN w || isInfinite w then w
  else
    let whole := roundHalfEven (units w) (2 ^ format.scale)
    ofCode (sign w) (format.ofRatio (whole * 2 ^ format.scale) 1)

/-! ## Arithmetic -/

/-- The quiet form of the first operand that is a NaN, or else `result`. -/
def orNaN (a b result : UInt32) : UInt32 :=
  if isNaN a then quiet a else if isNaN b then quiet b else result

/-- The sum of two words neither of which is a NaN. -/
def addNumbers (a b : UInt32) : UInt32 :=
  if isInfinite a then (if isInfinite b && sign a != sign b then invalid else a)
  else if isInfinite b then b
  else
    let sum := signedUnits a + signedUnits b
    if sum = 0 then ofCode (sign a && sign b) 0
    else ofCode (sum < 0) (format.ofRatio sum.natAbs 1)

def add (a b : UInt32) : UInt32 := orNaN a b (addNumbers a b)

def sub (a b : UInt32) : UInt32 := orNaN a b (addNumbers a (neg b))

def mul (a b : UInt32) : UInt32 :=
  let negative := sign a != sign b
  orNaN a b <|
    if isInfinite a || isInfinite b then
      if isZero a || isZero b then invalid else ofCode negative format.infinity
    else ofCode negative (format.ofRatio (units a * units b) (2 ^ format.scale))

def div (a b : UInt32) : UInt32 :=
  let negative := sign a != sign b
  orNaN a b <|
    if isInfinite a then
      if isInfinite b then invalid else ofCode negative format.infinity
    else if isInfinite b then ofCode negative 0
    else if isZero b then
      if isZero a then invalid else ofCode negative format.infinity
    else ofCode negative (format.ofRatio (units a * 2 ^ format.scale) (units b))

/-! ## Order -/

/-- Whether `a` is less than `b`; false if one of them is a NaN. -/
def lt (a b : UInt32) : Bool := !isNaN a && !isNaN b && key a < key b

/-- Whether `a` is at most `b`; false if one of them is a NaN. -/
def le (a b : UInt32) : Bool := !isNaN a && !isNaN b && key a ≤ key b

/-- The smaller of two words, or the one that is not a NaN. Of two zeros it is the second word and
of two NaNs the first. -/
def min (a b : UInt32) : UInt32 := if isNaN b then a else if lt a b then a else b

/-- The larger of two words, or the one that is not a NaN. Of two zeros it is the second word and
of two NaNs the first. -/
def max (a b : UInt32) : UInt32 := if isNaN b then a else if lt b a then a else b

/-- `x` brought down to `high` where it is at least `low`, and `low` everywhere else. -/
def clampOr (low high x : UInt32) : UInt32 := if le low x then min x high else low

/-- `x` brought into `low` to `high`; a NaN stays as it is. -/
def clamp (low high x : UInt32) : UInt32 :=
  if lt x low then low else if lt high x then high else x

end HostGpu.Single
