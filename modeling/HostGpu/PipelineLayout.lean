import HostGpu.Descriptor.Layout

/-!
# Pipeline layouts

A pipeline layout gives each descriptor set number a set layout. Dynamic descriptors are numbered
through all sets.
-/

namespace HostGpu

-- Sums mean the same whether or not algebra is in scope.
attribute [local instance (high)] Zero.ofOfNat0

structure PipelineLayout where
  id : Nat
  device : Nat
  setLayouts : List SetLayout
deriving DecidableEq, Repr

namespace PipelineLayout

/-- The most sets of a pipeline layout. -/
def maxSets : Nat := 4

/-- The number of sets is limited. -/
def lengthError : ValidationError where
  context := "set_layouts"
  problem := "the length exceeds `MAX_BOUND_DESCRIPTOR_SETS`"
  rules := ["VUID-VkPipelineLayoutCreateInfo-setLayoutCount-00286"]

/-- Set layouts are of the device of the pipeline layout. -/
def deviceError (index : Nat) : ValidationError where
  context := s!"set_layouts[{index}]"
  problem := "was not created from the same device as the pipeline layout"
  rules := ["VUID-VkPipelineLayoutCreateInfo-commonparent"]

/-- The first rule that parameters break. -/
def check (device : Nat) (setLayouts : List SetLayout) : Except ValidationError Unit := do
  if maxSets < setLayouts.length then throw lengthError
  if let some index := setLayouts.findIdx? (·.device ≠ device) then throw (deviceError index)

/-- The number of dynamic descriptors of set layouts. -/
def dynamicTotal (setLayouts : List SetLayout) : Nat :=
  (setLayouts.map fun l => SetLayout.dynamicTotal l.bindings).sum

/-- A new pipeline layout. -/
def create (id device : Nat) (setLayouts : List SetLayout) : Except Failure PipelineLayout := do
  (check device setLayouts).mapError fun e => .invalid (e.within "create_info")
  let _ ← (SetLayout.checkCount (dynamicTotal setLayouts)).mapError Failure.fault
  return ⟨id, device, setLayouts⟩

/-- The number of dynamic descriptors. -/
def dynamicCount (p : PipelineLayout) : Nat := dynamicTotal p.setLayouts

def setLayout (p : PipelineLayout) (set : Nat) : Except Fault SetLayout :=
  match p.setLayouts[set]? with
  | some l => .ok l
  | none => .error (.unknownSet set)

def descriptorKind (p : PipelineLayout) (set binding : Nat) : Except Fault DescriptorKind := do
  return (← (← p.setLayout set).binding binding).kind

/-- Where the first record of a binding starts in the data of its set. -/
def bindingOffset (p : PipelineLayout) (set binding : Nat) : Except Fault Nat := do
  (← p.setLayout set).bindingOffset binding 0

/-- The number of dynamic descriptors before a dynamic binding, through all sets. -/
def dynamicOffsetIndex (p : PipelineLayout) (set binding : Nat) : Except Fault Nat := do
  let offset ← (← p.setLayout set).dynamicOffset binding
  return dynamicTotal (p.setLayouts.take set) + offset

end PipelineLayout

end HostGpu
