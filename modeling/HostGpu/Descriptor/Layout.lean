import HostGpu.Descriptor.Kind
import HostGpu.Failure
import HostGpu.Sampler
import HostGpu.Span

/-!
# Descriptor set layouts

A layout lists bindings, each an array of descriptors of one kind. The records lie in the data of a
set in the order of declaration, then of array elements, without gaps. Dynamic descriptors are
numbered in the same order, the others left out.
-/

namespace HostGpu

-- Powers and sums mean the same whether or not algebra is in scope.
attribute [local instance (high)] instPowNat Zero.ofOfNat0

/-- An array of descriptors of one kind. -/
structure LayoutBinding where
  /-- The number that shaders and writes name the binding by. -/
  number : Nat
  kind : DescriptorKind
  count : Nat := 1
  /-- Samplers that sets cannot change, one for each element, or none at all. -/
  immutableSamplers : List Sampler := []
deriving DecidableEq, Repr

namespace LayoutBinding

/-- Bytes of one record. -/
def stride (b : LayoutBinding) : Nat := b.kind.record?.elim 0 RecordKind.size

/-- Bytes of all records. -/
def size (b : LayoutBinding) : Nat := b.count * b.stride

def usesImmutableSamplers (b : LayoutBinding) : Bool :=
  b.kind.holdsSampler && !b.immutableSamplers.isEmpty

/-- The rules that a binding can break. -/
inductive Violation where
  | samplerKind
  | samplerCount
deriving DecidableEq, Repr

def Violation.error : Violation → ValidationError
  | samplerKind =>
    { problem := "`immutable_samplers` is not empty, but `descriptor_type` is not " ++
        "`DescriptorType::Sampler` or `DescriptorType::CombinedImageSampler`" }
  | samplerCount =>
    { problem := "`immutable_samplers` is not empty, but its length does not equal " ++
        "`descriptor_count`"
      rules := ["VUID-VkDescriptorSetLayoutBinding-descriptorType-00282"] }

/-- The first rule that a binding breaks. -/
def check (b : LayoutBinding) : Except Violation Unit := do
  if b.immutableSamplers.isEmpty then return
  if !b.kind.holdsSampler then throw .samplerKind
  if b.count ≠ b.immutableSamplers.length then throw .samplerCount

end LayoutBinding

structure SetLayout where
  id : Nat
  device : Nat
  bindings : List LayoutBinding
deriving DecidableEq, Repr

namespace SetLayout

/-! ## Rules -/

/-- Two bindings do not have the same number. -/
def duplicateError (index : Nat) : ValidationError where
  context := s!"bindings[{index}].binding"
  problem := "is not unique"
  rules := ["VUID-VkDescriptorSetLayoutCreateInfo-binding-00279"]

/-- The first rule that bindings break, where `before` are the bindings that passed. -/
def checkFrom (before : List LayoutBinding) : List LayoutBinding → Except ValidationError Unit
  | [] => .ok ()
  | b :: rest => do
    b.check.mapError fun v => v.error.within s!"bindings[{before.length}]"
    if before.any (·.number = b.number) then throw (duplicateError before.length)
    checkFrom (before ++ [b]) rest

/-- A new layout. Inline uniform blocks have no records and are a fault. -/
def create (id device : Nat) (bindings : List LayoutBinding) : Except Failure SetLayout := do
  (checkFrom [] bindings).mapError fun e => .invalid (e.within "create_info")
  if bindings.any (·.kind.record?.isNone) then throw (.fault .inlineUniformBlock)
  return ⟨id, device, bindings⟩

/-! ## Records -/

/-- Bytes before the data of a set. -/
def headerSize : Nat := 16

/-- Where the records of a declared binding start, by its place in the declaration. -/
def start (l : SetLayout) (index : Nat) : Nat := ((l.bindings.take index).map (·.size)).sum

/-- Bytes of the records of a set. -/
def dataSize (l : SetLayout) : Nat := (l.bindings.map (·.size)).sum

/-- Bytes of a set. -/
def allocationSize (l : SetLayout) : Nat := headerSize + l.dataSize

/-- Bytes that a layout takes for its immutable samplers, eight for each. -/
def immutableSamplerBytes (bindings : List LayoutBinding) : Nat :=
  8 * ((bindings.filter (·.usesImmutableSamplers)).map (·.count)).sum

/-- The binding with a given number. -/
def find? (l : SetLayout) (number : Nat) : Option LayoutBinding :=
  l.bindings.find? (·.number = number)

/-- The place of a binding in the declaration. -/
def bindingIndex (l : SetLayout) (number : Nat) : Except Fault Nat :=
  match l.bindings.findIdx? (·.number = number) with
  | some index => .ok index
  | none => .error (.unknownBinding number)

def binding (l : SetLayout) (number : Nat) : Except Fault LayoutBinding :=
  match l.find? number with
  | some b => .ok b
  | none => .error (.unknownBinding number)

def bindingStride (l : SetLayout) (number : Nat) : Except Fault Nat := do
  return (← l.binding number).stride

/-- Where the record of an array element starts. -/
def bindingOffset (l : SetLayout) (number element : Nat) : Except Fault Nat := do
  let index ← l.bindingIndex number
  return l.start index + (← l.bindingStride number) * element

/-- Where the records of a run of array elements start and end. -/
def dataRange (l : SetLayout) (number first count : Nat) : Except Fault Span := do
  let start ← l.bindingOffset number first
  let stop := start + (← l.bindingStride number) * count
  if stop ≤ l.dataSize then return ⟨start, stop⟩
  else throw (.outsideSetData first (first + count) number)

/-! ## Dynamic descriptors -/

/-- The number of dynamic descriptors of bindings. -/
def dynamicTotal (bindings : List LayoutBinding) : Nat :=
  ((bindings.filter (·.kind.isDynamic)).map (·.count)).sum

/-- A count that has to fit 32 bits. -/
def checkCount (n : Nat) : Except Fault Nat :=
  if n < 2 ^ (32 : Nat) then .ok n else .error .numberOutOfRange

/-- The number of dynamic descriptors. -/
def dynamicCount (l : SetLayout) : Except Fault Nat := checkCount (dynamicTotal l.bindings)

def isBindingDynamic (l : SetLayout) (number : Nat) : Except Fault Bool := do
  return (← l.binding number).kind.isDynamic

/-- The number of dynamic descriptors before a dynamic binding. -/
def dynamicOffset (l : SetLayout) (number : Nat) : Except Fault Nat := do
  let index ← l.bindingIndex number
  if !(← l.isBindingDynamic number) then throw (.staticBinding number)
  checkCount (dynamicTotal (l.bindings.take index))

end SetLayout

end HostGpu
