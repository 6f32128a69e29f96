import HostGpu.Number.Single
import HostGpu.Refusal

/-!
# Samplers

A sampler says how textures are filtered, how coordinates outside of them are brought back and which
levels of detail may be used. `SamplerInfo.check` holds the rules that its parameters obey.
-/

namespace HostGpu

/-! ## Parameters -/

inductive Filter where
  | nearest
  | linear
deriving DecidableEq, Repr

instance : Catalogue Filter where
  entries := [⟨.nearest, "Nearest", 0⟩, ⟨.linear, "Linear", 1⟩]

/-- How the level of detail is chosen between two levels. -/
inductive MipmapMode where
  | nearest
  | linear
deriving DecidableEq, Repr

instance : Catalogue MipmapMode where
  entries := [⟨.nearest, "Nearest", 0⟩, ⟨.linear, "Linear", 1⟩]

/-- What becomes of coordinates outside of a texture. -/
inductive AddressMode where
  | repeated
  | mirroredRepeat
  | clampToEdge
  | clampToBorder
  | mirrorClampToEdge
deriving DecidableEq, Repr

instance : Catalogue AddressMode where
  entries := [
    ⟨.repeated, "Repeat", 0⟩, ⟨.mirroredRepeat, "MirroredRepeat", 1⟩,
    ⟨.clampToEdge, "ClampToEdge", 2⟩, ⟨.clampToBorder, "ClampToBorder", 3⟩,
    ⟨.mirrorClampToEdge, "MirrorClampToEdge", 4⟩]

/-- How a depth reference is compared. -/
inductive CompareOp where
  | never
  | less
  | equal
  | lessOrEqual
  | greater
  | notEqual
  | greaterOrEqual
  | always
deriving DecidableEq, Repr

instance : Catalogue CompareOp where
  entries := [
    ⟨.never, "Never", 0⟩, ⟨.less, "Less", 1⟩, ⟨.equal, "Equal", 2⟩,
    ⟨.lessOrEqual, "LessOrEqual", 3⟩, ⟨.greater, "Greater", 4⟩, ⟨.notEqual, "NotEqual", 5⟩,
    ⟨.greaterOrEqual, "GreaterOrEqual", 6⟩, ⟨.always, "Always", 7⟩]

/-- The parameters of a sampler. Levels of detail and the bias are single precision words. -/
structure SamplerInfo where
  magFilter : Filter := .nearest
  minFilter : Filter := .nearest
  mipmapMode : MipmapMode := .nearest
  addressU : AddressMode := .clampToEdge
  addressV : AddressMode := .clampToEdge
  addressW : AddressMode := .clampToEdge
  lodBias : UInt32 := 0
  compare : Option CompareOp := none
  minLod : UInt32 := 0
  maxLod : UInt32 := Single.ofInt 1000
  unnormalized : Bool := false
deriving DecidableEq, Repr

namespace SamplerInfo

/-- Repeats the texture and filters linearly. -/
def repeatLinear : SamplerInfo :=
  { magFilter := .linear, minFilter := .linear, mipmapMode := .linear,
    addressU := .repeated, addressV := .repeated, addressW := .repeated }

/-! ## Rules -/

/-- The rules that parameters can break. -/
inductive Violation where
  | notANumber
  | lodOrder
  | unnormalizedFilters
  | unnormalizedMipmaps
  | unnormalizedLod
deriving DecidableEq, Repr

def Violation.error : Violation → ValidationError
  | notANumber => { problem := "`min_lod`, `max_lod` or `mip_lod_bias` is NaN" }
  | lodOrder =>
    { problem := "`max_lod` is less than `min_lod`"
      rules := ["VUID-VkSamplerCreateInfo-maxLod-01973"] }
  | unnormalizedFilters =>
    { problem :=
        "`unnormalized_coordinates` is `true`, but `min_filter` and `mag_filter` are not equal"
      rules := ["VUID-VkSamplerCreateInfo-unnormalizedCoordinates-01072"] }
  | unnormalizedMipmaps =>
    { problem := "`unnormalized_coordinates` is `true`, but `mipmap_mode` is not " ++
        "`SamplerMipmapMode::Nearest`"
      rules := ["VUID-VkSamplerCreateInfo-unnormalizedCoordinates-01073"] }
  | unnormalizedLod =>
    { problem := "`unnormalized_coordinates` is `true`, but `min_lod` and `max_lod` are not " ++
        "both zero"
      rules := ["VUID-VkSamplerCreateInfo-unnormalizedCoordinates-01074"] }

/-- The first rule that the parameters break. -/
def check (i : SamplerInfo) : Except Violation Unit := do
  if Single.isNaN i.minLod || Single.isNaN i.maxLod || Single.isNaN i.lodBias then
    throw .notANumber
  if Single.lt i.maxLod i.minLod then throw .lodOrder
  if i.unnormalized then
    if i.minFilter ≠ i.magFilter then throw .unnormalizedFilters
    if i.mipmapMode ≠ .nearest then throw .unnormalizedMipmaps
    if !Single.isZero i.minLod || !Single.isZero i.maxLod then throw .unnormalizedLod

end SamplerInfo

/-- A sampler of a device. -/
structure Sampler where
  id : Nat
  device : Nat
  info : SamplerInfo
deriving DecidableEq, Repr

namespace Sampler

/-- The largest level of detail that a texture can be asked for. -/
def maxTextureLod : Nat := 13

/-- A level of detail brought into the range of textures. -/
def clampLod (lod : UInt32) : UInt32 := Single.clamp Single.zero (Single.ofInt maxTextureLod) lod

/-- The range of levels of detail that the sampler gives a texture. -/
def lodRange (s : Sampler) : UInt32 × UInt32 := (clampLod s.info.minLod, clampLod s.info.maxLod)

end Sampler

end HostGpu
