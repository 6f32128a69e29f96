import HostGpu.Execution.State
import HostGpu.Shader.SamplingInstruction

/-!
# Sampling

A sampling instruction finds its sampling function and calls it with the texture, which is the
record of its image, and sixteen input vectors. The call site keeps the function for as long as the
image descriptor and the sampler are the same. The inputs are, in this order, the coordinates, the
depth reference, what the method asks for, the constant offset and the sample, and then zeros.
-/

namespace HostGpu.Execution

open Spirv Shader

/-! ## Inputs -/

namespace Environment

/-- The components of an operand, if there is one. -/
def optionalComponents (e : Environment) (s : State) :
    Option Nat → Except Fault (List WordLanes)
  | some id => do return (← e.operand s id).components
  | none => .ok []

/-- The first component of an operand, if there is one. -/
def optionalFirst (e : Environment) (s : State) : Option Nat → Except Fault (List WordLanes)
  | some id => do return [← (← e.operand s id).component 0]
  | none => .ok []

/-- Coordinates, divided by the last one if they are projected, and what the depth reference is to
be divided by. -/
def projected (variant : SamplingVariant) (components : List WordLanes) :
    Except Fault (List WordLanes × Option WordLanes) :=
  if variant.isProj then
    match components.getLast? with
    | some q => .ok (components.dropLast.map (·.divFloat q), some q)
    | none => .error .numberOutOfRange
  else .ok (components, none)

/-- What the method asks for: a level of detail or a bias, gradients, or for a fetch without a level
of detail the level zero. -/
def methodInputs (e : Environment) (s : State) (i : SamplingInstruction) :
    Except Fault (List WordLanes) := do
  match i.operands.lod.or i.operands.bias with
  | some id => e.optionalFirst s (some id)
  | none =>
    match i.operands.gradient with
    | some (dx, dy) =>
      let dx ← e.operand s dx
      let dy ← e.operand s dy
      return dx.components ++ dy.components
    | none => return if i.signature.method = .fetch then [.splat 0] else []

/-- The inputs of a sampling function before zeros are added. -/
def givenInputs (e : Environment) (s : State) (i : SamplingInstruction) :
    Except Fault (List WordLanes) := do
  let coordinate ← e.operand s i.coordinate
  let (coordinates, divisor) ← projected i.signature.variant coordinate.components
  let dref ← e.optionalFirst s i.dref
  let dref := dref.map fun d => divisor.elim d d.divFloat
  let method ← e.methodInputs s i
  let offset ← e.optionalComponents s i.operands.constOffset
  let sample ← e.optionalFirst s i.operands.sample
  return coordinates ++ dref ++ method ++ offset ++ sample

/-- The inputs of a sampling function. -/
def samplingInputs (e : Environment) (s : State) (i : SamplingInstruction) :
    Except Fault (List WordLanes) := do
  let given ← e.givenInputs s i
  if samplingInputCount < given.length then throw (.tooManyInputs given.length)
  return given ++ List.replicate (samplingInputCount - given.length) (.splat 0)

/-! ## Functions -/

/-- The identifier of the sampler that an image operand brings along, or zero. A sampler that was
joined to its image is found through the instruction that joined them. -/
def samplerOf (e : Environment) (s : State) (sampledImage : Nat) (image : DescriptorAddress) :
    Except Fault Nat := do
  let object ← e.declarations.object sampledImage
  if (← e.declarations.type object.type).op = .opTypeSampledImage then
    let definition ← e.shader.definition object.offset
    let address ←
      if definition.op? = some .opSampledImage then s.descriptor (← definition.id 4)
      else pure image
    return (e.sampledRecord address).sampler.toNat
  else return 0

end Environment

/-- Asks a resolver for a function. -/
def ask (resolver : Resolver) (key : SamplingKey) : Run SamplingFunction := do
  match resolver with
  | .own find =>
    modify (·.note (.askedOwn key))
    return find key
  | .device =>
    modify (·.note (.askedDevice key))
    let r ← inspect (·.machine.device.resolve key)
    modify fun s => { s with machine := { s.machine with device := r.device } }
    if let some request := r.request then modify (·.note (.built request))
    return r.function

/-- Finds the function of a call site, which is kept there. -/
def findFunction (e : Environment) (i : SamplingInstruction) (image : DescriptorAddress)
    (sampler : Nat) : Run SamplingFunction := do
  let s ← get
  match s.machine.cache[i.callSite]?.bind (·.hit? image sampler) with
  | some function => return function
  | none =>
    let view := (e.sampledRecord image).view.toNat
    let function ← ask e.resolver ⟨i.signature, sampler, view⟩
    modify fun s => { s with machine := { s.machine with
      cache := s.machine.cache.set i.callSite ⟨some image, sampler, some function⟩ } }
    return function

/-- The texels that a sampling instruction gives. -/
def sampleTexels (e : Environment) (i : SamplingInstruction) : Run (Lanes Texel) := do
  let image ← inspect (·.descriptor i.sampledImage)
  let sampler ← inspect fun s => e.samplerOf s i.sampledImage image
  let function ← findFunction e i image sampler
  let inputs ← inspect fun s => e.samplingInputs s i
  let texture : Texture := ⟨image, e.sampledRecord image⟩
  modify (·.note (.called function texture inputs))
  let s ← get
  return function s.machine.blocks texture inputs

/-- Executes a sampling instruction. Nothing is sampled if no lane is active. -/
def executeSampling (e : Environment) (i : Instruction) (op : Opcode) : Run Unit := do
  let i ← liftM (SamplingInstruction.ofInstruction e.declarations i op)
  let count ← liftM (e.declarations.componentCount i.resultType)
  let texels ← if e.active.anyOn then sampleTexels e i else pure (.splat ⟨0, 0, 0, 0⟩)
  defineComponents i.result ((Texel.channels texels).take count)

end HostGpu.Execution
