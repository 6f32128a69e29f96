import HostGpu.Execution.TexelPointer
import HostGpu.Shader.SamplingInstruction

/-!
# Reading and writing images

Image reads and writes convert between the texels in memory and the components of shader values. A
storage image says its format in its type; the format of subpass data comes from the routine, and
of depth beside stencil the type of the components selects one.
-/

namespace HostGpu.Execution

open Spirv Shader

namespace Environment

/-! ## Reads -/

/-- The format of the image that is read. -/
def readFormat (e : Environment) (image : Nat) (type : ImageType) : Except Fault Format := do
  if type.dimension = .subpassData then
    let index ← e.declarations.attachment image
    match e.attachmentFormats[index]? with
    | some format => return format
    | none => throw (.noAttachmentFormat index)
  else
    match type.format.format? with
    | some format => return format
    | none => throw .readWithoutFormat

/-- Whether the stencil aspect is read: it stands beside depth and the components are integers. -/
def readsStencil (e : Environment) (type : ImageType) (format : Format) : Except Fault Bool := do
  if format.aspects.depth && format.aspects.stencil then
    return (← e.declarations.type type.sampledType).op = .opTypeInt
  else return false

/-- The format of the plane that is read. -/
def planeFormat (format : Format) (stencil : Bool) : Format :=
  if stencil then .s8Uint else (format.plane? .depth).getD format

/-- What an image read loads. -/
structure TexelLoad where
  pointer : TexelPointer
  /-- The format of the plane that is read. -/
  format : Format
  /-- The sizes of the words that a texel is loaded by. -/
  sizes : List Nat

/-- The texels that an image read loads. -/
def imageLoad (e : Environment) (s : State) (i : Instruction) : Except Fault TexelLoad := do
  let image ← i.id 3
  let type ← e.shader.objectImageType image
  let coordinate ← e.operand s (← i.id 4)
  let sample ← (← ImageOperands.read i 5).sampleOnly
  let format ← e.readFormat image type
  let stencil ← e.readsStencil type format
  let format := planeFormat format stencil
  let texelSize := format.blockSize
  let rule := texelRule s.machine.device
  let pointer ← e.texelPointer s { image, type, coordinate, sample, texelSize, stencil, rule }
  return { pointer, format, sizes := ← TexelPointer.accessSizes texelSize }

/-- The packed texels that are loaded. -/
def loadTexels (e : Environment) (s : State) (l : TexelLoad) : Lanes PackedTexel :=
  PackedTexel.ofWords
    (l.pointer.loadWords s.machine.blocks e.active (texelRule s.machine.device) l.sizes)

/-- The components that an image read gives. -/
def imageRead (e : Environment) (s : State) (i : Instruction) : Except Fault (List WordLanes) := do
  let resultCount ← e.declarations.componentCount (← i.id 1)
  let load ← e.imageLoad s i
  let some layout := load.format.layout? | throw (.unreadableFormat load.format)
  let texels := (e.loadTexels s load).map layout.decode
  return (Texel.channels texels).take resultCount

/-! ## Writes -/

/-- What an image write stores. -/
structure TexelStore where
  pointer : TexelPointer
  /-- The sizes of the words that a texel is stored by. -/
  sizes : List Nat
  words : List WordLanes

/-- The texels that an image write stores. -/
def imageStore (e : Environment) (s : State) (i : Instruction) : Except Fault TexelStore := do
  let image ← i.id 1
  let type ← e.shader.objectImageType image
  let coordinate ← e.operand s (← i.id 2)
  let value ← e.operand s (← i.id 3)
  let sample ← (← ImageOperands.read i 4).sampleOnly
  let some format := type.format.format? | throw .writeWithoutFormat
  let some layout := format.writer? | throw (.unwritableFormat format)
  let texels := (Texel.ofChannels value.components).map layout.encode
  let texelSize := layout.size
  let rule := texelRule s.machine.device
  let pointer ← e.texelPointer s
    { image, type, coordinate, sample, texelSize, stencil := false, rule }
  let sizes ← TexelPointer.accessSizes texelSize
  return { pointer, sizes, words := PackedTexel.words texels }

/-- The state after an image write. -/
def imageWrite (e : Environment) (s : State) (i : Instruction) : Except Fault State := do
  let store ← e.imageStore s i
  let blocks := store.pointer.storeWords s.machine.blocks e.storing (texelRule s.machine.device)
    store.sizes store.words
  return { s with machine := { s.machine with blocks } }

/-! ## Texel pointers -/

/-- The pointer to a texel of the image that a pointer operand points to. -/
def imageTexelPointer (e : Environment) (s : State) (i : Instruction) :
    Except Fault TexelPointer := do
  let image ← i.id 3
  let type ← e.shader.imageType (← e.declarations.objectType image).elementId
  let coordinate ← e.operand s (← i.id 4)
  let sample ← i.id 5
  e.texelPointer s
    { image, type, coordinate, sample := some sample, texelSize := 4, stencil := false,
      rule := .nullify }

end Environment

end HostGpu.Execution
