import HostGpu.Sampling.Signature
import HostGpu.Shader.Basic

/-!
# Sampling instructions

The operands of image instructions are announced by a mask and follow it in the order of the bits.
Together with the operation they decide the signature of a sampling instruction.
-/

namespace HostGpu.Shader

open Spirv

/-! ## Image operands -/

/-- The optional operands of an image instruction. -/
structure ImageOperands where
  /-- The bits of the mask other than the ones that only say how integers are extended. -/
  mask : UInt32 := 0
  bias : Option Nat := none
  lod : Option Nat := none
  gradient : Option (Nat × Nat) := none
  constOffset : Option Nat := none
  sample : Option Nat := none
deriving DecidableEq, Repr

namespace ImageOperands

/-! Bits of the mask. -/

def biasBit : UInt32 := 0x1
def lodBit : UInt32 := 0x2
def gradientBit : UInt32 := 0x4
def constOffsetBit : UInt32 := 0x8
def sampleBit : UInt32 := 0x40

/-- Zero extension and sign extension of integers. -/
def extensionBits : UInt32 := 0x3000

def supportedBits : UInt32 := biasBit ||| lodBit ||| gradientBit ||| constOffsetBit ||| sampleBit

/-- An operand at a word if the mask has its bit, and the word after it. -/
def take (i : Instruction) (mask bit : UInt32) (index : Nat) :
    Except Fault (Option Nat × Nat) :=
  if mask &&& bit = 0 then .ok (none, index) else do return (some (← i.id index), index + 1)

/-- Bits of a mask that are not among some others are a fault. -/
def checkBits (mask allowed : UInt32) : Except Fault Unit :=
  let others := mask &&& ~~~allowed
  if others = 0 then .ok () else .error (.unsupportedOperands others)

/-- Reads the mask at a word and the operands after it. An instruction that ends before the mask has
no operands. -/
def read (i : Instruction) (index : Nat) : Except Fault ImageOperands := do
  if i.length ≤ index then return {}
  let mask := (← i.word index) &&& ~~~extensionBits
  let (bias, next) ← take i mask biasBit (index + 1)
  let (lod, next) ← take i mask lodBit next
  let (dx, next) ← take i mask gradientBit next
  let (dy, next) ← take i mask gradientBit next
  let (constOffset, next) ← take i mask constOffsetBit next
  let (sample, _) ← take i mask sampleBit next
  checkBits mask supportedBits
  let gradient := dx.bind fun dx => dy.map fun dy => (dx, dy)
  return { mask, bias, lod, gradient, constOffset, sample }

/-- The sample, if no other operand is present. -/
def sampleOnly (o : ImageOperands) : Except Fault (Option Nat) := do
  checkBits o.mask sampleBit
  return o.sample

end ImageOperands

/-! ## Signatures -/

/-- The method of an operation that finds the level of detail by itself. -/
def implicitMethod (o : ImageOperands) : SamplingMethod :=
  if o.bias.isSome then .bias else .implicit

/-- The method of an operation that is given the level of detail. -/
def explicitMethod (o : ImageOperands) : SamplingMethod :=
  if o.gradient.isSome then .grad else .lod

/-- The variant and the method of a sampling operation. -/
def classify (op : Opcode) (o : ImageOperands) : Except Fault (SamplingVariant × SamplingMethod) :=
  match op with
  | .opImageSampleImplicitLod => .ok (.plain, implicitMethod o)
  | .opImageSampleExplicitLod => .ok (.plain, explicitMethod o)
  | .opImageSampleDrefImplicitLod => .ok (.dref, implicitMethod o)
  | .opImageSampleDrefExplicitLod => .ok (.dref, explicitMethod o)
  | .opImageSampleProjImplicitLod => .ok (.proj, implicitMethod o)
  | .opImageSampleProjExplicitLod => .ok (.proj, explicitMethod o)
  | .opImageSampleProjDrefImplicitLod => .ok (.projDref, implicitMethod o)
  | .opImageSampleProjDrefExplicitLod => .ok (.projDref, explicitMethod o)
  | .opImageGather => .ok (.plain, .gather)
  | .opImageDrefGather => .ok (.dref, .gather)
  | .opImageFetch => .ok (.plain, .fetch)
  | .opImageQueryLod => .ok (.plain, .query)
  | _ => .error (.notSampling op)

structure SamplingInstruction where
  signature : SamplingSignature
  callSite : Nat
  resultType : Nat
  result : Nat
  sampledImage : Nat
  coordinate : Nat
  dref : Option Nat
  operands : ImageOperands
deriving DecidableEq, Repr

namespace SamplingInstruction

/-- The operands of a sampling operation. A depth reference or the component of a gather stands
before the mask. -/
def readOperands (i : Instruction) (op : Opcode) : Except Fault ImageOperands :=
  if op = .opImageQueryLod then
    if i.length = 5 then .ok {} else .error .lodQueryOperands
  else if op.hasDepthReference || op == .opImageGather then ImageOperands.read i 6
  else ImageOperands.read i 5

/-- The sampling instruction that an instruction stands for. -/
def ofInstruction (d : Declarations) (i : Instruction) (op : Opcode) :
    Except Fault SamplingInstruction := do
  let operands ← readOperands i op
  let (variant, method) ← classify op operands
  let gatherComponent ← if op = .opImageGather then d.scalar (← i.id 5) else pure 0
  let callSite ← d.callSite i.offset
  let resultType ← i.id 1
  let result ← i.id 2
  let sampledImage ← i.id 3
  let coordinate ← i.id 4
  let dref ← if op.hasDepthReference then some <$> i.id 5 else pure none
  return {
    signature := { variant, method, gatherComponent }
    callSite, resultType, result, sampledImage, coordinate, dref, operands }

end SamplingInstruction

end HostGpu.Shader
