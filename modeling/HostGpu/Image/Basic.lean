import HostGpu.Failure
import HostGpu.Image.Extent
import HostGpu.Image.Kind
import HostGpu.Memory.Basic

/-!
# Images

An image keeps one plane for every aspect of its format. A plane holds its array layers one after
the other, a layer its mip levels, a level its samples, a sample its depth slices, a slice its rows
and a row its texels. The functions on `ImageInfo` that take the size of a texel in bytes compute
pitches and sizes of a plane; those that take an aspect check the aspect and the level first.
-/

namespace HostGpu

-- Powers and sums mean the same whether or not algebra is in scope.
attribute [local instance (high)] instPowNat Zero.ofOfNat0

/-- The most mip levels of an image. -/
def maxLevels : Nat := 15

/-- The parameters of an image. -/
structure ImageInfo where
  kind : ImageKind := .dim2
  format : Format := .undefined
  extent : Extent := ⟨0, 0, 0⟩
  mipLevels : Nat := 1
  arrayLayers : Nat := 1
  samples : SampleCount := .one
  cubeCompatible : Bool := false
deriving DecidableEq, Repr

namespace ImageInfo

/-! ## Rules -/

/-- The rules that parameters can break. -/
inductive Violation where
  | undefinedFormat
  | emptyExtent
  | flatLine
  | flatPlane
  | layeredVolume
  | levels (most : Nat)
  | noLayers
  | sampled
  | cube
deriving DecidableEq, Repr

def Violation.error : Violation → ValidationError
  | undefinedFormat =>
    { context := "format"
      problem := "is `Format::UNDEFINED`"
      rules := ["VUID-VkImageCreateInfo-format-00943"] }
  | emptyExtent =>
    { context := "extent"
      problem := "one or more elements are zero"
      rules := [
        "VUID-VkImageCreateInfo-extent-00944",
        "VUID-VkImageCreateInfo-extent-00945",
        "VUID-VkImageCreateInfo-extent-00946"] }
  | flatLine =>
    { problem := "`image_type` is `ImageType::Dim1d`, but `extent[1]` or `extent[2]` is not 1"
      rules := ["VUID-VkImageCreateInfo-imageType-00956"] }
  | flatPlane =>
    { problem := "`image_type` is `ImageType::Dim2d`, but `extent[2]` is not 1"
      rules := ["VUID-VkImageCreateInfo-imageType-00957"] }
  | layeredVolume =>
    { problem := "`image_type` is `ImageType::Dim3d`, but `array_layers` is not 1"
      rules := ["VUID-VkImageCreateInfo-imageType-00961"] }
  | levels most =>
    { context := "mip_levels"
      problem := s!"is not between 1 and {most}"
      rules := [
        "VUID-VkImageCreateInfo-mipLevels-00947",
        "VUID-VkImageCreateInfo-mipLevels-00958"] }
  | noLayers =>
    { context := "array_layers"
      problem := "is zero"
      rules := ["VUID-VkImageCreateInfo-arrayLayers-00948"] }
  | sampled =>
    { problem := "`samples` is not `SampleCount::Sample1`, but `image_type` is not " ++
        "`ImageType::Dim2d` or `mip_levels` is not 1"
      rules := ["VUID-VkImageCreateInfo-samples-02257"] }
  | cube =>
    { problem := "`cube_compatible` is set, but `image_type` is not `ImageType::Dim2d`, " ++
        "`extent[0]` does not equal `extent[1]`, or `array_layers` is less than 6"
      rules := [
        "VUID-VkImageCreateInfo-flags-00949",
        "VUID-VkImageCreateInfo-imageType-00954"] }

/-- The most mip levels for the extent. -/
def levelLimit (i : ImageInfo) : Nat := min i.extent.maxMipLevels maxLevels

/-- The first rule that the parameters break. -/
def check (i : ImageInfo) : Except Violation Unit := do
  if i.format = .undefined then throw .undefinedFormat
  if i.extent.toList.contains 0 then throw .emptyExtent
  if i.kind = .dim1 ∧ (i.extent.height ≠ 1 ∨ i.extent.depth ≠ 1) then throw .flatLine
  if i.kind = .dim2 ∧ i.extent.depth ≠ 1 then throw .flatPlane
  if i.kind = .dim3 ∧ i.arrayLayers ≠ 1 then throw .layeredVolume
  if i.mipLevels = 0 ∨ i.levelLimit < i.mipLevels then throw (.levels i.levelLimit)
  if i.arrayLayers = 0 then throw .noLayers
  if i.samples ≠ .one ∧ (i.kind ≠ .dim2 ∨ i.mipLevels ≠ 1) then throw .sampled
  if i.cubeCompatible ∧
      (i.kind ≠ .dim2 ∨ i.extent.width ≠ i.extent.height ∨ i.arrayLayers < 6) then
    throw .cube

/-! ## Planes -/

/-- The extent of a mip level. -/
def levelExtent (i : ImageInfo) (level : Nat) : Extent := i.extent.level level

/-- Bytes from a row of a level to the next, for texels of `texel` bytes. -/
def rowPitch (i : ImageInfo) (texel level : Nat) : Nat := (i.levelExtent level).width * texel

/-- Bytes from a depth slice of a level to the next. -/
def slicePitch (i : ImageInfo) (texel level : Nat) : Nat :=
  (i.levelExtent level).height * i.rowPitch texel level

/-- Bytes from a sample of a level to the next. -/
def samplePitch (i : ImageInfo) (texel level : Nat) : Nat :=
  (i.levelExtent level).depth * i.slicePitch texel level

/-- Bytes of a level of one layer. -/
def levelSize (i : ImageInfo) (texel level : Nat) : Nat :=
  i.samples.count * i.samplePitch texel level

/-- Bytes of the levels of a layer before a given one. -/
def levelOffset (i : ImageInfo) (texel level : Nat) : Nat :=
  ((List.range level).map (i.levelSize texel)).sum

/-- Bytes from a layer to the next. -/
def layerPitch (i : ImageInfo) (texel : Nat) : Nat := i.levelOffset texel i.mipLevels

/-- Bytes of a plane. -/
def planeSize (i : ImageInfo) (texel : Nat) : Nat := i.arrayLayers * i.layerPitch texel

/-- Bytes of a texel in the plane of an aspect, zero for an aspect that the format does not have. -/
def planeTexel (i : ImageInfo) (a : Aspect) : Nat := (i.format.plane? a).elim 0 (·.blockSize)

/-- Where the plane of an aspect starts: after the planes of the aspects before it. -/
def planeOffset (i : ImageInfo) (a : Aspect) : Nat :=
  ((i.format.aspects.toList.takeWhile (· ≠ a)).map fun b => i.planeSize (i.planeTexel b)).sum

/-- Bytes of all planes. -/
def size (i : ImageInfo) : Nat :=
  (i.format.aspects.toList.map fun a => i.planeSize (i.planeTexel a)).sum

/-! ## Checked access -/

/-- The size of a texel of an aspect that the format has. -/
def texelSize (i : ImageInfo) (a : Aspect) : Except Fault Nat :=
  match i.format.plane? a with
  | some f => .ok f.blockSize
  | none => .error (.noAspect i.format a)

/-- Sides have 32 bits, so that levels from 32 on do not exist for any extent. -/
def checkLevel (level : Nat) : Except Fault Unit :=
  if level < 32 then .ok () else .error .numberOutOfRange

def levelExtent? (i : ImageInfo) (level : Nat) : Except Fault Extent := do
  checkLevel level
  return i.levelExtent level

def rowPitch? (i : ImageInfo) (a : Aspect) (level : Nat) : Except Fault Nat := do
  checkLevel level
  return i.rowPitch (← i.texelSize a) level

def slicePitch? (i : ImageInfo) (a : Aspect) (level : Nat) : Except Fault Nat := do
  checkLevel level
  return i.slicePitch (← i.texelSize a) level

def samplePitch? (i : ImageInfo) (a : Aspect) (level : Nat) : Except Fault Nat := do
  checkLevel level
  return i.samplePitch (← i.texelSize a) level

def layerPitch? (i : ImageInfo) (a : Aspect) : Except Fault Nat := do
  return i.layerPitch (← i.texelSize a)

/-- The offset of the first texel of a level of a layer. -/
def subresourceOffset (i : ImageInfo) (a : Aspect) (level layer : Nat) : Except Fault Nat := do
  if i.mipLevels ≤ level ∨ i.arrayLayers ≤ layer then throw .indexOutOfRange
  let texel ← i.texelSize a
  return i.planeOffset a + layer * i.layerPitch texel + i.levelOffset texel level

/-- The offset of the texel at a position, in its first sample. -/
def texelOffset (i : ImageInfo) (position : Extent) (a : Aspect) (level layer : Nat) :
    Except Fault Nat := do
  let start ← i.subresourceOffset a level layer
  let texel ← i.texelSize a
  return start + position.depth * i.slicePitch texel level +
    position.height * i.rowPitch texel level + position.width * texel

/-- The offset of a texel, which has to lie in the memory of the image or at its end. -/
def texelAddress (i : ImageInfo) (position : Extent) (a : Aspect) (level layer : Nat) :
    Except Fault Nat := do
  let offset ← i.texelOffset position a level layer
  if offset ≤ i.size then return offset else throw .accessOutOfRange

/-- Bytes from the first texel of a level of a layer to the end of the plane. -/
def sizeFromSubresource (i : ImageInfo) (a : Aspect) (level layer : Nat) : Except Fault Nat := do
  let texel ← i.texelSize a
  return i.planeOffset a + i.planeSize texel - (← i.subresourceOffset a level layer)

end ImageInfo

/-- An image of a device, with the number of the block that is its memory. -/
structure Image where
  device : Nat
  block : Nat
  info : ImageInfo
deriving DecidableEq, Repr

namespace Image

/-- The largest number of bytes that sizes are computed with. -/
def sizeLimit : Nat := 2 ^ (64 : Nat)

/-- A new image and its zeroed memory, which is to become block `block`. -/
def create (device block : Nat) (info : ImageInfo) : Except Failure (Image × Memory) := do
  info.check.mapError fun v => .invalid (v.error.within "create_info")
  if sizeLimit ≤ info.size then throw (.fault .numberOutOfRange)
  let memory ← (Memory.allocate info.size).mapError .exhausted
  return (⟨device, block, info⟩, memory)

end Image

end HostGpu
