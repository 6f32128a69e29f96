import HostGpu.Catalogue
import HostGpu.Format.Aspect

/-!
# Texel formats

A format fixes how many bytes a texel takes, how many bits each channel has and how the bits of the
colour, depth and stencil aspects are read. Formats with both a depth and a stencil aspect keep the
two in separate planes; `Format.plane?` is the format of the plane of one aspect.
-/

namespace HostGpu

/-- How the bits of a channel are read. -/
inductive NumericKind where
  | sfloat
  | ufloat
  | sint
  | uint
  | snorm
  | unorm
  | srgb
deriving DecidableEq, Repr

instance : Catalogue NumericKind where
  entries := [
    ⟨.sfloat, "SFLOAT", 0⟩, ⟨.ufloat, "UFLOAT", 1⟩, ⟨.sint, "SINT", 2⟩, ⟨.uint, "UINT", 3⟩,
    ⟨.snorm, "SNORM", 4⟩, ⟨.unorm, "UNORM", 5⟩, ⟨.srgb, "SRGB", 6⟩]

/-- The texel formats. A name lists the channels from the first byte on, or from the highest bit on
where it ends in the width of a packed word. -/
inductive Format where
  | undefined
  | r4g4b4a4UnormPack16
  | b4g4r4a4UnormPack16
  | a4r4g4b4UnormPack16
  | a4b4g4r4UnormPack16
  | r5g6b5UnormPack16
  | b5g6r5UnormPack16
  | r5g5b5a1UnormPack16
  | b5g5r5a1UnormPack16
  | a1r5g5b5UnormPack16
  | r8Unorm
  | r8Snorm
  | r8Uint
  | r8Sint
  | r8Srgb
  | r8g8Unorm
  | r8g8Snorm
  | r8g8Uint
  | r8g8Sint
  | r8g8b8a8Unorm
  | r8g8b8a8Snorm
  | r8g8b8a8Uint
  | r8g8b8a8Sint
  | r8g8b8a8Srgb
  | b8g8r8a8Unorm
  | b8g8r8a8Srgb
  | a8b8g8r8UnormPack32
  | a8b8g8r8SnormPack32
  | a8b8g8r8UintPack32
  | a8b8g8r8SintPack32
  | a8b8g8r8SrgbPack32
  | a2r10g10b10UnormPack32
  | a2r10g10b10UintPack32
  | a2b10g10r10UnormPack32
  | a2b10g10r10UintPack32
  | r16Unorm
  | r16Snorm
  | r16Uint
  | r16Sint
  | r16Sfloat
  | r16g16Unorm
  | r16g16Snorm
  | r16g16Uint
  | r16g16Sint
  | r16g16Sfloat
  | r16g16b16a16Unorm
  | r16g16b16a16Snorm
  | r16g16b16a16Uint
  | r16g16b16a16Sint
  | r16g16b16a16Sfloat
  | r32Uint
  | r32Sint
  | r32Sfloat
  | r32g32Uint
  | r32g32Sint
  | r32g32Sfloat
  | r32g32b32a32Uint
  | r32g32b32a32Sint
  | r32g32b32a32Sfloat
  | r64Uint
  | r64Sint
  | b10g11r11UfloatPack32
  | e5b9g9r9UfloatPack32
  | d16Unorm
  | x8D24UnormPack32
  | d32Sfloat
  | s8Uint
  | d24UnormS8Uint
  | d32SfloatS8Uint
deriving DecidableEq, Repr

instance : Catalogue Format where
  entries := [
    ⟨.undefined, "UNDEFINED", 0⟩,
    ⟨.r4g4b4a4UnormPack16, "R4G4B4A4_UNORM_PACK16", 2⟩,
    ⟨.b4g4r4a4UnormPack16, "B4G4R4A4_UNORM_PACK16", 3⟩,
    ⟨.a4r4g4b4UnormPack16, "A4R4G4B4_UNORM_PACK16", 1000340000⟩,
    ⟨.a4b4g4r4UnormPack16, "A4B4G4R4_UNORM_PACK16", 1000340001⟩,
    ⟨.r5g6b5UnormPack16, "R5G6B5_UNORM_PACK16", 4⟩,
    ⟨.b5g6r5UnormPack16, "B5G6R5_UNORM_PACK16", 5⟩,
    ⟨.r5g5b5a1UnormPack16, "R5G5B5A1_UNORM_PACK16", 6⟩,
    ⟨.b5g5r5a1UnormPack16, "B5G5R5A1_UNORM_PACK16", 7⟩,
    ⟨.a1r5g5b5UnormPack16, "A1R5G5B5_UNORM_PACK16", 8⟩,
    ⟨.r8Unorm, "R8_UNORM", 9⟩,
    ⟨.r8Snorm, "R8_SNORM", 10⟩,
    ⟨.r8Uint, "R8_UINT", 13⟩,
    ⟨.r8Sint, "R8_SINT", 14⟩,
    ⟨.r8Srgb, "R8_SRGB", 15⟩,
    ⟨.r8g8Unorm, "R8G8_UNORM", 16⟩,
    ⟨.r8g8Snorm, "R8G8_SNORM", 17⟩,
    ⟨.r8g8Uint, "R8G8_UINT", 20⟩,
    ⟨.r8g8Sint, "R8G8_SINT", 21⟩,
    ⟨.r8g8b8a8Unorm, "R8G8B8A8_UNORM", 37⟩,
    ⟨.r8g8b8a8Snorm, "R8G8B8A8_SNORM", 38⟩,
    ⟨.r8g8b8a8Uint, "R8G8B8A8_UINT", 41⟩,
    ⟨.r8g8b8a8Sint, "R8G8B8A8_SINT", 42⟩,
    ⟨.r8g8b8a8Srgb, "R8G8B8A8_SRGB", 43⟩,
    ⟨.b8g8r8a8Unorm, "B8G8R8A8_UNORM", 44⟩,
    ⟨.b8g8r8a8Srgb, "B8G8R8A8_SRGB", 50⟩,
    ⟨.a8b8g8r8UnormPack32, "A8B8G8R8_UNORM_PACK32", 51⟩,
    ⟨.a8b8g8r8SnormPack32, "A8B8G8R8_SNORM_PACK32", 52⟩,
    ⟨.a8b8g8r8UintPack32, "A8B8G8R8_UINT_PACK32", 55⟩,
    ⟨.a8b8g8r8SintPack32, "A8B8G8R8_SINT_PACK32", 56⟩,
    ⟨.a8b8g8r8SrgbPack32, "A8B8G8R8_SRGB_PACK32", 57⟩,
    ⟨.a2r10g10b10UnormPack32, "A2R10G10B10_UNORM_PACK32", 58⟩,
    ⟨.a2r10g10b10UintPack32, "A2R10G10B10_UINT_PACK32", 62⟩,
    ⟨.a2b10g10r10UnormPack32, "A2B10G10R10_UNORM_PACK32", 64⟩,
    ⟨.a2b10g10r10UintPack32, "A2B10G10R10_UINT_PACK32", 68⟩,
    ⟨.r16Unorm, "R16_UNORM", 70⟩,
    ⟨.r16Snorm, "R16_SNORM", 71⟩,
    ⟨.r16Uint, "R16_UINT", 74⟩,
    ⟨.r16Sint, "R16_SINT", 75⟩,
    ⟨.r16Sfloat, "R16_SFLOAT", 76⟩,
    ⟨.r16g16Unorm, "R16G16_UNORM", 77⟩,
    ⟨.r16g16Snorm, "R16G16_SNORM", 78⟩,
    ⟨.r16g16Uint, "R16G16_UINT", 81⟩,
    ⟨.r16g16Sint, "R16G16_SINT", 82⟩,
    ⟨.r16g16Sfloat, "R16G16_SFLOAT", 83⟩,
    ⟨.r16g16b16a16Unorm, "R16G16B16A16_UNORM", 91⟩,
    ⟨.r16g16b16a16Snorm, "R16G16B16A16_SNORM", 92⟩,
    ⟨.r16g16b16a16Uint, "R16G16B16A16_UINT", 95⟩,
    ⟨.r16g16b16a16Sint, "R16G16B16A16_SINT", 96⟩,
    ⟨.r16g16b16a16Sfloat, "R16G16B16A16_SFLOAT", 97⟩,
    ⟨.r32Uint, "R32_UINT", 98⟩,
    ⟨.r32Sint, "R32_SINT", 99⟩,
    ⟨.r32Sfloat, "R32_SFLOAT", 100⟩,
    ⟨.r32g32Uint, "R32G32_UINT", 101⟩,
    ⟨.r32g32Sint, "R32G32_SINT", 102⟩,
    ⟨.r32g32Sfloat, "R32G32_SFLOAT", 103⟩,
    ⟨.r32g32b32a32Uint, "R32G32B32A32_UINT", 107⟩,
    ⟨.r32g32b32a32Sint, "R32G32B32A32_SINT", 108⟩,
    ⟨.r32g32b32a32Sfloat, "R32G32B32A32_SFLOAT", 109⟩,
    ⟨.r64Uint, "R64_UINT", 110⟩,
    ⟨.r64Sint, "R64_SINT", 111⟩,
    ⟨.b10g11r11UfloatPack32, "B10G11R11_UFLOAT_PACK32", 122⟩,
    ⟨.e5b9g9r9UfloatPack32, "E5B9G9R9_UFLOAT_PACK32", 123⟩,
    ⟨.d16Unorm, "D16_UNORM", 124⟩,
    ⟨.x8D24UnormPack32, "X8_D24_UNORM_PACK32", 125⟩,
    ⟨.d32Sfloat, "D32_SFLOAT", 126⟩,
    ⟨.s8Uint, "S8_UINT", 127⟩,
    ⟨.d24UnormS8Uint, "D24_UNORM_S8_UINT", 129⟩,
    ⟨.d32SfloatS8Uint, "D32_SFLOAT_S8_UINT", 130⟩]

/-- What a format says about its texels. -/
structure FormatInfo where
  /-- Bytes of one texel, over all planes. -/
  blockSize : Nat
  /-- Bits of the channels; of depth and stencil for formats without colour. -/
  components : List Nat
  color : Option NumericKind
  depth : Option NumericKind
  stencil : Option NumericKind
deriving DecidableEq, Repr

namespace FormatInfo

/-- A colour format. -/
def ofColor (blockSize : Nat) (kind : NumericKind) (components : List Nat) : FormatInfo :=
  ⟨blockSize, components, some kind, none, none⟩

/-- A format with depth, stencil or both. -/
def ofDepthStencil (blockSize : Nat) (depth stencil : Option NumericKind) (components : List Nat) :
    FormatInfo :=
  ⟨blockSize, components, none, depth, stencil⟩

end FormatInfo

namespace Format

/-- The table of formats. -/
def info : Format → FormatInfo
  | .undefined => .ofDepthStencil 0 none none [0, 0, 0, 0]
  | .r4g4b4a4UnormPack16 => .ofColor 2 .unorm [4, 4, 4, 4]
  | .b4g4r4a4UnormPack16 => .ofColor 2 .unorm [4, 4, 4, 4]
  | .a4r4g4b4UnormPack16 => .ofColor 2 .unorm [4, 4, 4, 4]
  | .a4b4g4r4UnormPack16 => .ofColor 2 .unorm [4, 4, 4, 4]
  | .r5g6b5UnormPack16 => .ofColor 2 .unorm [5, 6, 5, 0]
  | .b5g6r5UnormPack16 => .ofColor 2 .unorm [5, 6, 5, 0]
  | .r5g5b5a1UnormPack16 => .ofColor 2 .unorm [5, 5, 5, 1]
  | .b5g5r5a1UnormPack16 => .ofColor 2 .unorm [5, 5, 5, 1]
  | .a1r5g5b5UnormPack16 => .ofColor 2 .unorm [5, 5, 5, 1]
  | .r8Unorm => .ofColor 1 .unorm [8, 0, 0, 0]
  | .r8Snorm => .ofColor 1 .snorm [8, 0, 0, 0]
  | .r8Uint => .ofColor 1 .uint [8, 0, 0, 0]
  | .r8Sint => .ofColor 1 .sint [8, 0, 0, 0]
  | .r8Srgb => .ofColor 1 .srgb [8, 0, 0, 0]
  | .r8g8Unorm => .ofColor 2 .unorm [8, 8, 0, 0]
  | .r8g8Snorm => .ofColor 2 .snorm [8, 8, 0, 0]
  | .r8g8Uint => .ofColor 2 .uint [8, 8, 0, 0]
  | .r8g8Sint => .ofColor 2 .sint [8, 8, 0, 0]
  | .r8g8b8a8Unorm => .ofColor 4 .unorm [8, 8, 8, 8]
  | .r8g8b8a8Snorm => .ofColor 4 .snorm [8, 8, 8, 8]
  | .r8g8b8a8Uint => .ofColor 4 .uint [8, 8, 8, 8]
  | .r8g8b8a8Sint => .ofColor 4 .sint [8, 8, 8, 8]
  | .r8g8b8a8Srgb => .ofColor 4 .srgb [8, 8, 8, 8]
  | .b8g8r8a8Unorm => .ofColor 4 .unorm [8, 8, 8, 8]
  | .b8g8r8a8Srgb => .ofColor 4 .srgb [8, 8, 8, 8]
  | .a8b8g8r8UnormPack32 => .ofColor 4 .unorm [8, 8, 8, 8]
  | .a8b8g8r8SnormPack32 => .ofColor 4 .snorm [8, 8, 8, 8]
  | .a8b8g8r8UintPack32 => .ofColor 4 .uint [8, 8, 8, 8]
  | .a8b8g8r8SintPack32 => .ofColor 4 .sint [8, 8, 8, 8]
  | .a8b8g8r8SrgbPack32 => .ofColor 4 .srgb [8, 8, 8, 8]
  | .a2r10g10b10UnormPack32 => .ofColor 4 .unorm [10, 10, 10, 2]
  | .a2r10g10b10UintPack32 => .ofColor 4 .uint [10, 10, 10, 2]
  | .a2b10g10r10UnormPack32 => .ofColor 4 .unorm [10, 10, 10, 2]
  | .a2b10g10r10UintPack32 => .ofColor 4 .uint [10, 10, 10, 2]
  | .r16Unorm => .ofColor 2 .unorm [16, 0, 0, 0]
  | .r16Snorm => .ofColor 2 .snorm [16, 0, 0, 0]
  | .r16Uint => .ofColor 2 .uint [16, 0, 0, 0]
  | .r16Sint => .ofColor 2 .sint [16, 0, 0, 0]
  | .r16Sfloat => .ofColor 2 .sfloat [16, 0, 0, 0]
  | .r16g16Unorm => .ofColor 4 .unorm [16, 16, 0, 0]
  | .r16g16Snorm => .ofColor 4 .snorm [16, 16, 0, 0]
  | .r16g16Uint => .ofColor 4 .uint [16, 16, 0, 0]
  | .r16g16Sint => .ofColor 4 .sint [16, 16, 0, 0]
  | .r16g16Sfloat => .ofColor 4 .sfloat [16, 16, 0, 0]
  | .r16g16b16a16Unorm => .ofColor 8 .unorm [16, 16, 16, 16]
  | .r16g16b16a16Snorm => .ofColor 8 .snorm [16, 16, 16, 16]
  | .r16g16b16a16Uint => .ofColor 8 .uint [16, 16, 16, 16]
  | .r16g16b16a16Sint => .ofColor 8 .sint [16, 16, 16, 16]
  | .r16g16b16a16Sfloat => .ofColor 8 .sfloat [16, 16, 16, 16]
  | .r32Uint => .ofColor 4 .uint [32, 0, 0, 0]
  | .r32Sint => .ofColor 4 .sint [32, 0, 0, 0]
  | .r32Sfloat => .ofColor 4 .sfloat [32, 0, 0, 0]
  | .r32g32Uint => .ofColor 8 .uint [32, 32, 0, 0]
  | .r32g32Sint => .ofColor 8 .sint [32, 32, 0, 0]
  | .r32g32Sfloat => .ofColor 8 .sfloat [32, 32, 0, 0]
  | .r32g32b32a32Uint => .ofColor 16 .uint [32, 32, 32, 32]
  | .r32g32b32a32Sint => .ofColor 16 .sint [32, 32, 32, 32]
  | .r32g32b32a32Sfloat => .ofColor 16 .sfloat [32, 32, 32, 32]
  | .r64Uint => .ofColor 8 .uint [64, 0, 0, 0]
  | .r64Sint => .ofColor 8 .sint [64, 0, 0, 0]
  | .b10g11r11UfloatPack32 => .ofColor 4 .ufloat [11, 11, 10, 0]
  | .e5b9g9r9UfloatPack32 => .ofColor 4 .ufloat [9, 9, 9, 0]
  | .d16Unorm => .ofDepthStencil 2 (some .unorm) none [16, 0, 0, 0]
  | .x8D24UnormPack32 => .ofDepthStencil 4 (some .unorm) none [24, 0, 0, 0]
  | .d32Sfloat => .ofDepthStencil 4 (some .sfloat) none [32, 0, 0, 0]
  | .s8Uint => .ofDepthStencil 1 none (some .uint) [0, 8, 0, 0]
  | .d24UnormS8Uint => .ofDepthStencil 4 (some .unorm) (some .uint) [24, 8, 0, 0]
  | .d32SfloatS8Uint => .ofDepthStencil 5 (some .sfloat) (some .uint) [32, 8, 0, 0]

/-- Bytes of one texel. -/
def blockSize (f : Format) : Nat := f.info.blockSize

/-- The aspects that the format has. -/
def aspects (f : Format) : AspectSet :=
  ⟨f.info.color.isSome, f.info.depth.isSome, f.info.stencil.isSome⟩

/-- The format of the plane that holds one aspect, if the format has this aspect. -/
def plane? (f : Format) (a : Aspect) : Option Format :=
  match f, a with
  | .d24UnormS8Uint, .depth => some .x8D24UnormPack32
  | .d32SfloatS8Uint, .depth => some .d32Sfloat
  | .d24UnormS8Uint, .stencil | .d32SfloatS8Uint, .stencil => some .s8Uint
  | f, a => if f.aspects.contains (.single a) then some f else none

def isSrgb (f : Format) : Bool := f.info.color == some .srgb

/-- Whether the colour, or else the depth, is a floating point number. -/
def isFloat (f : Format) : Bool :=
  match f.info.color.or f.info.depth with
  | some .sfloat | some .ufloat => true
  | _ => false

/-- Whether the colour, or else the stencil, is an integer and there is no depth. -/
def isInteger (f : Format) : Bool :=
  f.info.depth.isNone &&
    match f.info.color.or f.info.stencil with
    | some .uint | some .sint => true
    | _ => false

/-- A plane exists exactly for the aspects of the format. -/
theorem plane?_isSome (f : Format) (a : Aspect) :
    (f.plane? a).isSome = f.aspects.contains (.single a) := by
  cases f <;> cases a <;> rfl

end Format

end HostGpu
