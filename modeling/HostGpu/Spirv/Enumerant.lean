import HostGpu.Format.Basic

/-!
# SPIR-V enumerants

Image dimensionalities, image formats, storage classes, decorations and built-in variables, with
the numbers that stand for them in operand words. `ImageFormat.format?` is the texel format that an
image format of a shader means.
-/

namespace HostGpu.Spirv

/-- The dimensionality of an image type. -/
inductive Dimension where
  | dim1D
  | dim2D
  | dim3D
  | cube
  | rect
  | buffer
  | subpassData
deriving DecidableEq, Repr

instance : Catalogue Dimension where
  entries := [
    ⟨.dim1D, "Dim1D", 0⟩,
    ⟨.dim2D, "Dim2D", 1⟩,
    ⟨.dim3D, "Dim3D", 2⟩,
    ⟨.cube, "Cube", 3⟩,
    ⟨.rect, "Rect", 4⟩,
    ⟨.buffer, "Buffer", 5⟩,
    ⟨.subpassData, "SubpassData", 6⟩]

/-- The texel format that an image type declares. -/
inductive ImageFormat where
  | unknown
  | rgba32f
  | rgba16f
  | r32f
  | rgba8
  | rgba8Snorm
  | rg32f
  | rg16f
  | r11fG11fB10f
  | r16f
  | rgba16
  | rgb10A2
  | rg16
  | rg8
  | r16
  | r8
  | rgba16Snorm
  | rg16Snorm
  | rg8Snorm
  | r16Snorm
  | r8Snorm
  | rgba32i
  | rgba16i
  | rgba8i
  | r32i
  | rg32i
  | rg16i
  | rg8i
  | r16i
  | r8i
  | rgba32ui
  | rgba16ui
  | rgba8ui
  | r32ui
  | rgb10a2ui
  | rg32ui
  | rg16ui
  | rg8ui
  | r16ui
  | r8ui
  | r64ui
  | r64i
deriving DecidableEq, Repr

instance : Catalogue ImageFormat where
  entries := [
    ⟨.unknown, "Unknown", 0⟩,
    ⟨.rgba32f, "Rgba32f", 1⟩,
    ⟨.rgba16f, "Rgba16f", 2⟩,
    ⟨.r32f, "R32f", 3⟩,
    ⟨.rgba8, "Rgba8", 4⟩,
    ⟨.rgba8Snorm, "Rgba8Snorm", 5⟩,
    ⟨.rg32f, "Rg32f", 6⟩,
    ⟨.rg16f, "Rg16f", 7⟩,
    ⟨.r11fG11fB10f, "R11fG11fB10f", 8⟩,
    ⟨.r16f, "R16f", 9⟩,
    ⟨.rgba16, "Rgba16", 10⟩,
    ⟨.rgb10A2, "Rgb10A2", 11⟩,
    ⟨.rg16, "Rg16", 12⟩,
    ⟨.rg8, "Rg8", 13⟩,
    ⟨.r16, "R16", 14⟩,
    ⟨.r8, "R8", 15⟩,
    ⟨.rgba16Snorm, "Rgba16Snorm", 16⟩,
    ⟨.rg16Snorm, "Rg16Snorm", 17⟩,
    ⟨.rg8Snorm, "Rg8Snorm", 18⟩,
    ⟨.r16Snorm, "R16Snorm", 19⟩,
    ⟨.r8Snorm, "R8Snorm", 20⟩,
    ⟨.rgba32i, "Rgba32i", 21⟩,
    ⟨.rgba16i, "Rgba16i", 22⟩,
    ⟨.rgba8i, "Rgba8i", 23⟩,
    ⟨.r32i, "R32i", 24⟩,
    ⟨.rg32i, "Rg32i", 25⟩,
    ⟨.rg16i, "Rg16i", 26⟩,
    ⟨.rg8i, "Rg8i", 27⟩,
    ⟨.r16i, "R16i", 28⟩,
    ⟨.r8i, "R8i", 29⟩,
    ⟨.rgba32ui, "Rgba32ui", 30⟩,
    ⟨.rgba16ui, "Rgba16ui", 31⟩,
    ⟨.rgba8ui, "Rgba8ui", 32⟩,
    ⟨.r32ui, "R32ui", 33⟩,
    ⟨.rgb10a2ui, "Rgb10a2ui", 34⟩,
    ⟨.rg32ui, "Rg32ui", 35⟩,
    ⟨.rg16ui, "Rg16ui", 36⟩,
    ⟨.rg8ui, "Rg8ui", 37⟩,
    ⟨.r16ui, "R16ui", 38⟩,
    ⟨.r8ui, "R8ui", 39⟩,
    ⟨.r64ui, "R64ui", 40⟩,
    ⟨.r64i, "R64i", 41⟩]

/-- The texel format of an image format; none for the unknown one. -/
def ImageFormat.format? : ImageFormat → Option Format
  | .unknown => none
  | .rgba32f => some .r32g32b32a32Sfloat
  | .rgba16f => some .r16g16b16a16Sfloat
  | .r32f => some .r32Sfloat
  | .rgba8 => some .r8g8b8a8Unorm
  | .rgba8Snorm => some .r8g8b8a8Snorm
  | .rg32f => some .r32g32Sfloat
  | .rg16f => some .r16g16Sfloat
  | .r11fG11fB10f => some .b10g11r11UfloatPack32
  | .r16f => some .r16Sfloat
  | .rgba16 => some .r16g16b16a16Unorm
  | .rgb10A2 => some .a2b10g10r10UnormPack32
  | .rg16 => some .r16g16Unorm
  | .rg8 => some .r8g8Unorm
  | .r16 => some .r16Unorm
  | .r8 => some .r8Unorm
  | .rgba16Snorm => some .r16g16b16a16Snorm
  | .rg16Snorm => some .r16g16Snorm
  | .rg8Snorm => some .r8g8Snorm
  | .r16Snorm => some .r16Snorm
  | .r8Snorm => some .r8Snorm
  | .rgba32i => some .r32g32b32a32Sint
  | .rgba16i => some .r16g16b16a16Sint
  | .rgba8i => some .r8g8b8a8Sint
  | .r32i => some .r32Sint
  | .rg32i => some .r32g32Sint
  | .rg16i => some .r16g16Sint
  | .rg8i => some .r8g8Sint
  | .r16i => some .r16Sint
  | .r8i => some .r8Sint
  | .rgba32ui => some .r32g32b32a32Uint
  | .rgba16ui => some .r16g16b16a16Uint
  | .rgba8ui => some .r8g8b8a8Uint
  | .r32ui => some .r32Uint
  | .rgb10a2ui => some .a2b10g10r10UintPack32
  | .rg32ui => some .r32g32Uint
  | .rg16ui => some .r16g16Uint
  | .rg8ui => some .r8g8Uint
  | .r16ui => some .r16Uint
  | .r8ui => some .r8Uint
  | .r64ui => some .r64Uint
  | .r64i => some .r64Sint

/-- Where a variable lives. -/
inductive StorageClass where
  | uniformConstant
  | input
  | uniform
  | output
  | workgroup
  | crossWorkgroup
  | privateMemory
  | function
  | generic
  | pushConstant
  | atomicCounter
  | image
  | storageBuffer
deriving DecidableEq, Repr

instance : Catalogue StorageClass where
  entries := [
    ⟨.uniformConstant, "UniformConstant", 0⟩,
    ⟨.input, "Input", 1⟩,
    ⟨.uniform, "Uniform", 2⟩,
    ⟨.output, "Output", 3⟩,
    ⟨.workgroup, "Workgroup", 4⟩,
    ⟨.crossWorkgroup, "CrossWorkgroup", 5⟩,
    ⟨.privateMemory, "Private", 6⟩,
    ⟨.function, "Function", 7⟩,
    ⟨.generic, "Generic", 8⟩,
    ⟨.pushConstant, "PushConstant", 9⟩,
    ⟨.atomicCounter, "AtomicCounter", 10⟩,
    ⟨.image, "Image", 11⟩,
    ⟨.storageBuffer, "StorageBuffer", 12⟩]

/-- Whether variables of the class are resources that descriptors describe. -/
def StorageClass.isResource : StorageClass → Bool
  | .uniformConstant | .uniform | .storageBuffer => true
  | _ => false

/-- The decorations that are read. -/
inductive Decoration where
  | specId
  | block
  | builtIn
  | flat
  | nonWritable
  | nonReadable
  | location
  | component
  | binding
  | descriptorSet
  | offset
  | inputAttachmentIndex
deriving DecidableEq, Repr

instance : Catalogue Decoration where
  entries := [
    ⟨.specId, "SpecId", 1⟩,
    ⟨.block, "Block", 2⟩,
    ⟨.builtIn, "BuiltIn", 11⟩,
    ⟨.flat, "Flat", 14⟩,
    ⟨.nonWritable, "NonWritable", 24⟩,
    ⟨.nonReadable, "NonReadable", 25⟩,
    ⟨.location, "Location", 30⟩,
    ⟨.component, "Component", 31⟩,
    ⟨.binding, "Binding", 33⟩,
    ⟨.descriptorSet, "DescriptorSet", 34⟩,
    ⟨.offset, "Offset", 35⟩,
    ⟨.inputAttachmentIndex, "InputAttachmentIndex", 43⟩]

/-- Variables that the execution environment fills in. -/
inductive BuiltIn where
  | position
  | fragCoord
  | sampleId
  | globalInvocationId
  | localInvocationIndex
  | helperInvocation
  | viewIndex
deriving DecidableEq, Repr

instance : Catalogue BuiltIn where
  entries := [
    ⟨.position, "Position", 0⟩,
    ⟨.fragCoord, "FragCoord", 15⟩,
    ⟨.sampleId, "SampleId", 18⟩,
    ⟨.globalInvocationId, "GlobalInvocationId", 28⟩,
    ⟨.localInvocationIndex, "LocalInvocationIndex", 29⟩,
    ⟨.helperInvocation, "HelperInvocation", 4424⟩,
    ⟨.viewIndex, "ViewIndex", 4440⟩]

end HostGpu.Spirv
