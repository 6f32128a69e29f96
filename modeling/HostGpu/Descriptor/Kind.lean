import HostGpu.Catalogue

/-!
# Kinds of descriptors

A descriptor is a record in the data of a descriptor set. Its kind decides which of the three
record layouts it has and so how many bytes it takes.
-/

namespace HostGpu

inductive DescriptorKind where
  | sampler
  | combinedImageSampler
  | sampledImage
  | storageImage
  | uniformTexelBuffer
  | storageTexelBuffer
  | uniformBuffer
  | storageBuffer
  | uniformBufferDynamic
  | storageBufferDynamic
  | inputAttachment
  | inlineUniformBlock
deriving DecidableEq, Repr

instance : Catalogue DescriptorKind where
  entries := [
    ⟨.sampler, "Sampler", 0⟩,
    ⟨.combinedImageSampler, "CombinedImageSampler", 1⟩,
    ⟨.sampledImage, "SampledImage", 2⟩,
    ⟨.storageImage, "StorageImage", 3⟩,
    ⟨.uniformTexelBuffer, "UniformTexelBuffer", 4⟩,
    ⟨.storageTexelBuffer, "StorageTexelBuffer", 5⟩,
    ⟨.uniformBuffer, "UniformBuffer", 6⟩,
    ⟨.storageBuffer, "StorageBuffer", 7⟩,
    ⟨.uniformBufferDynamic, "UniformBufferDynamic", 8⟩,
    ⟨.storageBufferDynamic, "StorageBufferDynamic", 9⟩,
    ⟨.inputAttachment, "InputAttachment", 10⟩,
    ⟨.inlineUniformBlock, "InlineUniformBlock", 1000138000⟩]

/-- The layouts of descriptor records. -/
inductive RecordKind where
  /-- A texture with a sampler. -/
  | sampled
  /-- One level of an image, addressed by texel. -/
  | storage
  /-- A range of a buffer. -/
  | buffer
deriving DecidableEq, Repr

namespace RecordKind

/-- Bytes of a record, a multiple of 16. -/
def size : RecordKind → Nat
  | sampled => 3952
  | storage => 80
  | buffer => 16

theorem sixteen_dvd_size (k : RecordKind) : 16 ∣ k.size := by
  cases k <;> decide

end RecordKind

namespace DescriptorKind

/-- The record layout of a kind; inline uniform blocks have none. -/
def record? : DescriptorKind → Option RecordKind
  | sampler | combinedImageSampler | sampledImage | uniformTexelBuffer => some .sampled
  | storageImage | storageTexelBuffer | inputAttachment => some .storage
  | uniformBuffer | storageBuffer | uniformBufferDynamic | storageBufferDynamic => some .buffer
  | inlineUniformBlock => none

/-- Whether descriptors of the kind take an offset when they are bound. -/
def isDynamic : DescriptorKind → Bool
  | uniformBufferDynamic | storageBufferDynamic => true
  | _ => false

/-- Whether descriptors of the kind hold a sampler that can be fixed by the layout. -/
def holdsSampler : DescriptorKind → Bool
  | sampler | combinedImageSampler => true
  | _ => false

end DescriptorKind

end HostGpu
