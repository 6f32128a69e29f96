import HostGpu.Execution.State
import HostGpu.Shader.ImageType

/-!
# Image queries

Queries read extents, levels and samples from the record of an image. The kind of the descriptor,
which the pipeline layout gives, says whether that is a storage or a sampled record.
-/

namespace HostGpu.Execution

open Spirv Shader

/-- The record of an image. -/
inductive ImageRecord where
  | storage (r : StorageRecord)
  | sampled (r : SampledRecord)
deriving DecidableEq, Repr

namespace ImageRecord

/-- Width, height and the third extent. -/
def extent : ImageRecord → List UInt32
  | storage r => [r.width, r.height, r.depth]
  | sampled r => [r.width, r.height, r.depth]

theorem length_extent (r : ImageRecord) : r.extent.length = 3 := by
  cases r <;> rfl

end ImageRecord

/-- A side at a level of detail, at least one. No side is left after 32 levels. -/
def sideAtLevel (side lod : UInt32) : UInt32 :=
  Word.maxSigned (if lod < 32 then Word.shiftRightSigned side lod else 0) 1

namespace Environment

/-- The kind of the descriptor that an object refers to. -/
def descriptorKind (e : Environment) (id : Nat) : Except Fault DescriptorKind := do
  let slot ← e.declarations.slot id
  e.layout.descriptorKind slot.set slot.binding

/-- The record of an image, if its kind has texels. -/
def imageRecord (e : Environment) (s : State) (image : Nat) : Except Fault ImageRecord := do
  let address ← s.descriptor image
  match ← e.descriptorKind image with
  | .storageImage | .storageTexelBuffer | .inputAttachment =>
    return .storage (e.storageRecord address)
  | .combinedImageSampler | .sampledImage | .uniformTexelBuffer =>
    return .sampled (e.sampledRecord address)
  | kind => throw (.noSize kind)

/-- One side of an image, in every lane at its own level of detail. -/
def queriedSide (lod : Option WordLanes) (side : UInt32) : WordLanes :=
  lod.elim (.splat side) fun lod => lod.map (sideAtLevel side)

/-- The size of an image, followed by the third extent if it is arrayed. -/
def querySize (e : Environment) (s : State) (i : Instruction) (lod : Option Nat) :
    Except Fault (List WordLanes) := do
  let count ← e.declarations.componentCount (← i.id 1)
  let image ← i.id 3
  let type ← e.shader.objectImageType image
  let layers := if type.arrayed then 1 else 0
  if count < layers then throw .numberOutOfRange
  let extent := (← e.imageRecord s image).extent
  let lod ← lod.mapM fun id => do (← e.operand s id).component 0
  let sides := count - layers
  if extent.length < sides then throw .indexOutOfRange
  return (extent.take sides).map (queriedSide lod) ++
    ((extent.drop 2).take layers).map .splat

/-- The number of levels of an image. -/
def queryLevels (e : Environment) (s : State) (i : Instruction) : Except Fault UInt32 := do
  let image ← i.id 3
  let address ← s.descriptor image
  match ← e.descriptorKind image with
  | .combinedImageSampler | .sampledImage | .uniformTexelBuffer =>
    return (e.sampledRecord address).mipLevels
  | kind => throw (.noLevels kind)

/-- The number of samples of an image. -/
def querySamples (e : Environment) (s : State) (i : Instruction) : Except Fault UInt32 := do
  let image ← i.id 3
  let type ← e.shader.objectImageType image
  if type.dimension ≠ .dim2D ∨ !type.multisampled then throw .notMultisampled
  let address ← s.descriptor image
  match ← e.descriptorKind image with
  | .storageImage => return (e.storageRecord address).sampleCount
  | .combinedImageSampler | .sampledImage | .uniformTexelBuffer =>
    return (e.sampledRecord address).sampleCount
  | kind => throw (.noSamples kind)

end Environment

end HostGpu.Execution
