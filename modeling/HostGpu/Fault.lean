import HostGpu.Descriptor.Kind
import HostGpu.Refusal
import HostGpu.Spirv.Enumerant
import HostGpu.Spirv.Opcode

/-!
# Faults

A fault ends an operation that has no meaningful way to go on: an argument that no rule of valid
usage covers, a shader module that does not hold together, or an unsupported feature. What the
operation stored before the fault stays stored. Each cause has one text; a few, which only say that
an index or a number is out of range, have none.
-/

namespace HostGpu

open Spirv (Opcode)

/-- The causes of faults. -/
inductive Fault where
  -- Ranges
  | indexOutOfRange
  | numberOutOfRange
  | accessOutOfRange
  | emptyCoordinates
  /-- The run would never end. -/
  | endless
  /-- A type stands for itself. -/
  | cyclicType
  -- Formats
  | noAspect (format : Format) (aspect : Aspect)
  | unreadableFormat (format : Format)
  | unwritableFormat (format : Format)
  | unsupportedTexelSize (size : Nat)
  -- Descriptors and layouts
  | inlineUniformBlock
  | unknownBinding (binding : Nat)
  | unknownSet (set : Nat)
  | staticBinding (binding : Nat)
  | outsideSetData (first last binding : Nat)
  | unboundSet (set : Nat)
  | noRoutineBuilder
  | unexpectedRule (error : ValidationError)
  -- Modules
  | missingWord (index opcode words : Nat)
  | noEntryPoint
  | noEntryBody (name : String)
  | notType (id : Nat)
  | notObject (id : Nat)
  | notConstant (id : Nat)
  | notImageType (id : Nat)
  | notVariable (id : Nat)
  | unknownStorageClass (number : Nat)
  | unknownDimension (number : Nat)
  | unknownImageFormat (number : Nat)
  | noDescriptor (id : Nat)
  | noAttachmentIndex (id : Nat)
  -- Execution
  | unknownBlock (id : Nat)
  | unknownOpcode (number : Nat)
  | unsupportedInstruction (op : Opcode)
  | definedTwice (id : Nat)
  | isPointer (id : Nat)
  | notPointer (id : Nat)
  | notComputed (id : Nat)
  | loadFromDescriptor (op : Opcode)
  | storeToDescriptor
  | atomicOnDescriptor
  | indexedTexel
  | descriptorIndexCount
  | descriptorOutOfRange (index binding set : Nat)
  | dynamicMember
  | notIndexable (op : Opcode)
  -- Image instructions
  | lodQueryOperands
  | unsupportedOperands (mask : UInt32)
  | tooManyInputs (count : Nat)
  | notSampling (op : Opcode)
  | noCallSite (offset : Nat)
  | noLevels (kind : DescriptorKind)
  | noSamples (kind : DescriptorKind)
  | noSize (kind : DescriptorKind)
  | notMultisampled
  | noAttachmentFormat (index : Nat)
  | readWithoutFormat
  | writeWithoutFormat
deriving DecidableEq, Repr

namespace Fault

/-- A number in hexadecimal with at least eight digits. -/
def hexWord (n : Nat) : String :=
  let digits := String.ofList (Nat.toDigits 16 n)
  "0x" ++ String.ofList (List.replicate (8 - digits.length) '0') ++ digits

/-- The text of an identifier of a module. -/
def idText (id : Nat) : String := s!"%{id}"

open Catalogue (name)

/-- The text of a fault. -/
def message? : Fault → Option String
  | indexOutOfRange | numberOutOfRange | accessOutOfRange | emptyCoordinates | endless
  | cyclicType => none
  | noAspect f a => some s!"format {name f} has no {name a} aspect"
  | unreadableFormat f => some s!"reading texels of format {name f} is not supported"
  | unwritableFormat f => some s!"writing texels of format {name f} is not supported"
  | unsupportedTexelSize n => some s!"unsupported texel size {n}"
  | inlineUniformBlock => some "descriptor type `InlineUniformBlock` is not implemented"
  | unknownBinding b => some s!"invalid descriptor set layout binding {b}"
  | unknownSet s => some s!"invalid descriptor set {s}"
  | staticBinding b => some s!"binding {b} is not a dynamic buffer binding"
  | outsideSetData first last b =>
    some s!"descriptors {first}..{last} of binding {b} are outside of the descriptor set data"
  | unboundSet s => some s!"descriptor set {s} is not bound"
  | noRoutineBuilder => some "the device has no sampling routine builder"
  | unexpectedRule e =>
    some s!"called `Validated::unwrap` on a `ValidationError` value: {e.report}"
  | missingWord i op n =>
    some s!"word {i} of an instruction with opcode {op} and {n} words is out of range"
  | noEntryPoint => some "the module has no entry point"
  | noEntryBody n => some s!"the entry point `{n}` has no body"
  | notType id => some s!"{idText id} is not a type"
  | notObject id => some s!"{idText id} is not an object"
  | notConstant id => some s!"{idText id} is not a constant"
  | notImageType id => some s!"{idText id} is not an image type"
  | notVariable id => some s!"{idText id} is not a variable"
  | unknownStorageClass n => some s!"unsupported storage class {n}"
  | unknownDimension n => some s!"unsupported image dimensionality {n}"
  | unknownImageFormat n => some s!"unsupported image format {n}"
  | noDescriptor id => some s!"{idText id} does not refer to a descriptor"
  | noAttachmentIndex id => some s!"{idText id} has no input attachment index"
  | unknownBlock id => some s!"branch to unknown block {idText id}"
  | unknownOpcode n => some s!"unsupported SPIR-V opcode {n}"
  | unsupportedInstruction op => some s!"unsupported SPIR-V instruction {name op}"
  | definedTwice id => some s!"{idText id} is defined twice"
  | isPointer id => some s!"{idText id} is a pointer"
  | notPointer id => some s!"{idText id} is not a pointer"
  | notComputed id => some s!"{idText id} has not been computed"
  | loadFromDescriptor op => some s!"loading a {name op} from a descriptor is not supported"
  | storeToDescriptor => some "descriptors can't be stored to"
  | atomicOnDescriptor => some "atomic operations on descriptors are not supported"
  | indexedTexel => some "texel pointers can't be indexed"
  | descriptorIndexCount => some "access chains into descriptors must have exactly one index"
  | descriptorOutOfRange i b s =>
    some s!"descriptor {i} is out of range for binding {b} of set {s}"
  | dynamicMember => some "struct members must be indexed by constants"
  | notIndexable op => some s!"a {name op} can't be indexed"
  | lodQueryOperands => some "OpImageQueryLod can't have image operands"
  | unsupportedOperands mask => some s!"unsupported image operands {hexWord mask.toNat}"
  | tooManyInputs n => some s!"image instruction has {n} input components"
  | notSampling op => some s!"{name op} is not an image sampling instruction"
  | noCallSite offset => some s!"no call site at word {offset}"
  | noLevels k => some s!"the levels of {name k} descriptors can't be queried"
  | noSamples k => some s!"the samples of {name k} descriptors can't be queried"
  | noSize k => some s!"the size of {name k} descriptors can't be queried"
  | notMultisampled => some "only multisampled 2D images have a sample count"
  | noAttachmentFormat i => some s!"no format was given for input attachment {i}"
  | readWithoutFormat => some "storage images read by shader code must have a format"
  | writeWithoutFormat => some "storage images written by shader code must have a format"

end Fault

/-- The error of a valid request; a broken rule is a fault. -/
def Refusal.expectError {ε : Type} (r : Refusal ε) : Except Fault ε :=
  r.toExcept.mapError .unexpectedRule

end HostGpu
