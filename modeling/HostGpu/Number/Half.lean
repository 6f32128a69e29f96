import HostGpu.Number.Single

/-!
# Half precision

A half has a sign bit above a code with 5 exponent and 10 fraction bits and is kept in the low 16
bits of a word. Widening is exact; narrowing rounds to the nearest half, ties to even. A NaN keeps
its sign and the top bits of its payload and becomes quiet.

`toSingle` and `ofSingle` stand for the conversions `to_f32` and `from_f32` of the `half` library.
That is a dependency, so they follow its documentation and not its code.
-/

namespace HostGpu.Half

/-- Five exponent bits above ten fraction bits. -/
def format : BinaryFormat := ⟨5, 10⟩

/-- The code below the sign bit of the half in the low 16 bits. -/
def code (h : UInt32) : Nat := (h &&& 0x7FFF).toNat

/-- The single precision form of the half in the low 16 bits of a word. -/
def toSingle (h : UInt32) : UInt32 :=
  let sign : UInt32 := (h &&& 0x8000) <<< 16
  let payload : UInt32 := (h &&& 0x3FF) <<< 13
  let c := code h
  if format.infinity < c then sign ||| 0x7FC00000 ||| payload
  else if c = format.infinity then sign ||| 0x7F800000
  else sign ||| UInt32.ofNat (format.convert Single.format c)

/-- The half nearest to a single precision number, in the low 16 bits. -/
def ofSingle (w : UInt32) : UInt32 :=
  let sign : UInt32 := (w &&& 0x80000000) >>> 16
  let payload : UInt32 := (w &&& 0x7FFFFF) >>> 13
  if Single.isNaN w then sign ||| 0x7E00 ||| payload
  else if Single.isInfinite w then sign ||| 0x7C00
  else sign ||| UInt32.ofNat (Single.format.convert format (Single.code w))

end HostGpu.Half
