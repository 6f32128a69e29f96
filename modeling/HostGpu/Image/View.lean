import HostGpu.Image.Basic
import HostGpu.Span

/-!
# Image views

A view shows a range of the mip levels and array layers of an image as an image of its own, perhaps
with another format of the same size. Levels and layers are counted from the first one of the view.
-/

namespace HostGpu

-- Powers mean the same whether or not algebra is in scope.
attribute [local instance (high)] instPowNat

/-- The parameters of a view. -/
structure ViewInfo where
  kind : ViewKind := .dim2
  /-- The format of the image if there is none. -/
  format : Option Format := none
  aspects : AspectSet := .empty
  mips : Span := ⟨0, 0⟩
  layers : Span := ⟨0, 0⟩
deriving DecidableEq, Repr

namespace ViewInfo

/-- A view of a whole image. -/
def ofImage (i : ImageInfo) : ViewInfo where
  kind :=
    match i.kind with
    | .dim1 => if i.arrayLayers = 1 then .dim1 else .dim1Array
    | .dim2 => if i.arrayLayers = 1 then .dim2 else .dim2Array
    | .dim3 => .dim3
  aspects := i.format.aspects
  mips := ⟨0, i.mipLevels⟩
  layers := ⟨0, i.arrayLayers⟩

/-- The rules that parameters can break. -/
inductive Violation where
  | aspects
  | mips
  | layers
  | format
  | kind
deriving DecidableEq, Repr

def Violation.error : Violation → ValidationError
  | aspects =>
    { context := "subresource_range.aspects"
      problem := "is empty, or contains aspects that the format of the image does not have"
      rules := ["VUID-VkImageViewCreateInfo-subresourceRange-09594"] }
  | mips =>
    { context := "subresource_range.mip_levels"
      problem := "is empty, or exceeds the mip levels of the image"
      rules := ["VUID-VkImageViewCreateInfo-subresourceRange-01718"] }
  | layers =>
    { context := "subresource_range.array_layers"
      problem := "is empty, or exceeds the array layers of the image"
      rules := ["VUID-VkImageViewCreateInfo-image-06724"] }
  | format =>
    { context := "format"
      problem := "is not compatible with the format of the image"
      rules := ["VUID-VkImageViewCreateInfo-image-01761"] }
  | kind =>
    { context := "view_type"
      problem := "is not compatible with the image type or the number of array layers"
      rules := ["VUID-VkImageViewCreateInfo-subResourceRange-01021"] }

/-- Whether a kind of view can show `count` layers of an image. -/
def kindFits (kind : ViewKind) (i : ImageInfo) (count : Nat) : Bool :=
  match kind with
  | .dim1 => i.kind = .dim1 ∧ count = 1
  | .dim1Array => i.kind = .dim1
  | .dim2 => i.kind = .dim2 ∧ count = 1
  | .dim2Array => i.kind = .dim2
  | .dim3 => i.kind = .dim3
  | .cube => i.cubeCompatible ∧ count = 6
  | .cubeArray => i.cubeCompatible ∧ count % 6 = 0

/-- The first rule that the parameters of a view of image `i` break. -/
def check (v : ViewInfo) (i : ImageInfo) : Except Violation Unit := do
  if v.aspects.isEmpty || !i.format.aspects.contains v.aspects then throw .aspects
  if v.mips.isEmpty ∨ i.mipLevels < v.mips.stop then throw .mips
  if v.layers.isEmpty ∨ i.arrayLayers < v.layers.stop then throw .layers
  if let some f := v.format then
    if f.blockSize ≠ i.format.blockSize ∨ f.aspects ≠ i.format.aspects then throw .format
  if !kindFits v.kind i v.layers.length then throw .kind

end ViewInfo

/-- What a device knows about a view. -/
structure ViewState where
  kind : ViewKind
  format : Format
  extent : Extent
  mipLevels : Nat
  arrayLayers : Nat
  samples : SampleCount
deriving DecidableEq, Repr

structure ImageView where
  id : Nat
  image : Image
  kind : ViewKind
  format : Format
  aspects : AspectSet
  mips : Span
  layers : Span
deriving DecidableEq, Repr

namespace ImageView

/-- A new view of an image. -/
def create (id : Nat) (image : Image) (info : ViewInfo) : Except ValidationError ImageView := do
  (info.check image.info).mapError fun v => v.error.within "create_info"
  return {
    id, image, kind := info.kind, format := info.format.getD image.info.format,
    aspects := info.aspects, mips := info.mips, layers := info.layers }

def levelCount (v : ImageView) : Nat := v.mips.length

def layerCount (v : ImageView) : Nat := v.layers.length

def samples (v : ImageView) : SampleCount := v.image.info.samples

/-- The first aspect of the view. -/
def primaryAspect (v : ImageView) : Aspect := v.aspects.toList.headD .color

/-- The format of the plane of the first aspect. -/
def primaryFormat (v : ImageView) : Format := (v.format.plane? v.primaryAspect).getD v.format

/-- The extent of a level of the view. -/
def levelExtent (v : ImageView) (level : Nat) : Extent :=
  v.image.info.levelExtent (v.mips.start + level)

def state (v : ImageView) : ViewState :=
  ⟨v.kind, v.format, v.levelExtent 0, v.levelCount, v.layerCount, v.samples⟩

/-- Levels and layers of an image are counted in 32 bits. -/
def shift (start index : Nat) : Except Fault Nat :=
  if start + index < 2 ^ (32 : Nat) then .ok (start + index) else .error .numberOutOfRange

def levelExtent? (v : ImageView) (level : Nat) : Except Fault Extent := do
  v.image.info.levelExtent? (← shift v.mips.start level)

def rowPitch? (v : ImageView) (a : Aspect) (level : Nat) : Except Fault Nat := do
  v.image.info.rowPitch? a (← shift v.mips.start level)

def slicePitch? (v : ImageView) (a : Aspect) (level : Nat) : Except Fault Nat := do
  v.image.info.slicePitch? a (← shift v.mips.start level)

def samplePitch? (v : ImageView) (a : Aspect) (level : Nat) : Except Fault Nat := do
  v.image.info.samplePitch? a (← shift v.mips.start level)

def layerPitch? (v : ImageView) (a : Aspect) : Except Fault Nat := v.image.info.layerPitch? a

/-- Bytes from the first texel of the view to the end of the plane. -/
def sizeInBytes? (v : ImageView) (a : Aspect) : Except Fault Nat :=
  v.image.info.sizeFromSubresource a v.mips.start v.layers.start

/-- The offset of a texel in the memory of the image. -/
def texelAddress (v : ImageView) (position : Extent) (a : Aspect) (level layer : Nat) :
    Except Fault Nat := do
  let level ← shift v.mips.start level
  let layer ← shift v.layers.start layer
  v.image.info.texelAddress position a level layer

/-! ## Unchecked geometry

For an aspect of the image and a level and layer of the view these agree with the checked forms. -/

/-- Bytes of a texel in the plane of an aspect. -/
def texelSize (v : ImageView) (a : Aspect) : Nat := v.image.info.planeTexel a

def rowPitch (v : ImageView) (a : Aspect) (level : Nat) : Nat :=
  v.image.info.rowPitch (v.texelSize a) (v.mips.start + level)

def slicePitch (v : ImageView) (a : Aspect) (level : Nat) : Nat :=
  v.image.info.slicePitch (v.texelSize a) (v.mips.start + level)

def samplePitch (v : ImageView) (a : Aspect) (level : Nat) : Nat :=
  v.image.info.samplePitch (v.texelSize a) (v.mips.start + level)

def layerPitch (v : ImageView) (a : Aspect) : Nat := v.image.info.layerPitch (v.texelSize a)

/-- The offset of the first texel of a level and layer of the view. -/
def offset (v : ImageView) (a : Aspect) (level layer : Nat) : Nat :=
  v.image.info.planeOffset a + (v.layers.start + layer) * v.layerPitch a +
    v.image.info.levelOffset (v.texelSize a) (v.mips.start + level)

/-- Bytes from the first texel of the view to the end of the plane. -/
def sizeInBytes (v : ImageView) (a : Aspect) : Nat :=
  v.image.info.planeOffset a + v.image.info.planeSize (v.texelSize a) - v.offset a 0 0

end ImageView

end HostGpu
