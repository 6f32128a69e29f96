import HostGpu.Device
import HostGpu.PipelineLayout
import HostGpu.Descriptor.Set
import HostGpu.Shader.Analysis

/-!
# Routines

A routine is a shader with everything that its runs are given: a pipeline layout, the bound
descriptor sets, the position of its lanes and the masks of lanes that take part. It keeps, for each
sampling instruction, the sampling function that was used last.
-/

namespace HostGpu

/-- The descriptor sets that are alive, by number. -/
abbrev SetTable := Std.TreeMap Nat DescriptorSet

/-- What the runs of a routine are given. -/
structure Setup where
  shader : Shader
  layout : PipelineLayout
  /-- The numbers of the bound sets. -/
  bound : List (Option Nat)
  resolver : Resolver := .device
  /-- The position of the lanes in the window. -/
  windowX : WordLanes := .splat 0
  windowY : WordLanes := .splat 0
  viewIndex : UInt32 := 0
  /-- The formats of input attachments. -/
  attachmentFormats : List Format := []
  /-- The lanes that take part. -/
  active : WordLanes := .splat 0xFFFFFFFF
  /-- The lanes that take part only to help others and store nothing. -/
  helper : WordLanes := .splat 0

namespace Setup

/-- The lanes that store and add to memory. -/
def storing (s : Setup) : WordLanes := s.active.and s.helper.not

end Setup

/-- What a sampling instruction used last. -/
structure CallSiteEntry where
  /-- The image descriptor. -/
  image : Option DescriptorAddress := none
  sampler : Nat := 0
  function : Option SamplingFunction := none

/-- The function that a call site keeps, if it was found for the same image and sampler. -/
def CallSiteEntry.hit? (entry : CallSiteEntry) (image : DescriptorAddress) (sampler : Nat) :
    Option SamplingFunction :=
  if entry.image = some image ∧ entry.sampler = sampler then entry.function else none

structure Routine extends Setup where
  cache : List CallSiteEntry

namespace Routine

/-- The rules that a routine can break. -/
inductive Violation where
  | device
  | undeclared (set binding : Nat)
deriving DecidableEq, Repr

def Violation.error : Violation → ValidationError
  | device =>
    { context := "pipeline_layout"
      problem := "was not created from the same device as the shader" }
  | undeclared set binding =>
    { context := "pipeline_layout"
      problem := s!"the shader uses binding {binding} of descriptor set {set}, which the layout " ++
        "does not declare"
      rules := ["VUID-VkGraphicsPipelineCreateInfo-layout-07988"] }

/-- Whether a pipeline layout declares a binding of a set. -/
def declares (layout : PipelineLayout) (set binding : Nat) : Bool :=
  layout.setLayouts[set]?.any fun l => (l.find? binding).isSome

/-- The first rule that a shader with a pipeline layout breaks. -/
def check (shader : Shader) (layout : PipelineLayout) : Except Violation Unit := do
  if shader.device ≠ layout.device then throw .device
  match shader.descriptorBindings.find? fun (set, binding) => !declares layout set binding with
  | some (set, binding) => throw (.undeclared set binding)
  | none => return

/-- A new routine with no sets bound and nothing sampled yet. -/
def create (setup : Setup) : Except ValidationError Routine := do
  (check setup.shader setup.layout).mapError Violation.error
  return { setup with
    bound := setup.layout.setLayouts.map fun _ => none
    cache := setup.shader.declarations.callSites.map fun _ => {} }

/-! ## Bound sets -/

/-- There is no set of that number. -/
def setNumberError : ValidationError where
  context := "set"
  problem := "is not less than the number of set layouts of the pipeline layout"
  rules := ["VUID-vkCmdBindDescriptorSets-firstSet-00360"]

/-- A set is bound where its own layout is asked for. -/
def setLayoutError : ValidationError where
  context := "descriptor_set"
  problem := "was not allocated with the set layout of the pipeline layout"
  rules := ["VUID-vkCmdBindDescriptorSets-pDescriptorSets-00358"]

/-- Binds a set, given by its number and its layout, at an index. -/
def bind (r : Routine) (index set : Nat) (layout : SetLayout) : Except ValidationError Routine :=
  match r.layout.setLayouts[index]? with
  | none => .error setNumberError
  | some expected =>
    if layout.id = expected.id then .ok { r with bound := r.bound.set index (some set) }
    else .error setLayoutError

end Routine

end HostGpu
