import HostGpu.Descriptor.Record
import HostGpu.Sampling.Signature
import HostGpu.Texel.Basic

/-!
# Sampling functions

Textures are not sampled by the shader interpreter itself but by functions that are built for a
signature, a sampler and a view. A sampling function is given the memory, a texture and sixteen
input vectors, and returns one texel for each lane. Events record, in order, who was asked for a
function and which functions were called.
-/

namespace HostGpu

/-- The memory of images and buffers, by the number of the block. -/
abbrev BlockTable := Std.TreeMap Nat Memory

/-- A place in the data of a descriptor set.  The number of a set is never given to another set, so
sets have different addresses even if one was dropped before the other was made.  An allocator may
place a new set where a dropped one was; where only bare pointers are compared, the two are then one
address, which is not so here. -/
structure DescriptorAddress where
  set : Nat
  offset : Nat
deriving DecidableEq, Repr

/-- The texture that a sampling function reads. -/
structure Texture where
  address : DescriptorAddress
  record : SampledRecord
deriving DecidableEq, Repr

/-- The number of input vectors. -/
def samplingInputCount : Nat := 16

abbrev SamplingFunction := BlockTable → Texture → List WordLanes → Lanes Texel

namespace SamplingFunction

/-- The function that returns four of its inputs, from a given one on. -/
def copyInputs (first : Nat) : SamplingFunction := fun _ _ inputs =>
  Texel.ofChannels (inputs.drop first)

end SamplingFunction

/-- What a builder of sampling functions is told. -/
structure SamplingRequest where
  key : SamplingKey
  /-- The parameters of the sampler, if it is alive. -/
  sampler : Option SamplerInfo
  /-- The state of the view, if it is alive. -/
  view : Option ViewState
deriving DecidableEq, Repr

/-- Who finds the sampling functions of a routine. -/
inductive Resolver where
  /-- The device of the shader. -/
  | device
  /-- A resolver of the routine's own. -/
  | own (find : SamplingKey → SamplingFunction)

inductive SamplingEvent where
  /-- The device was asked for a function. -/
  | askedDevice (key : SamplingKey)
  /-- The routine's own resolver was asked for a function. -/
  | askedOwn (key : SamplingKey)
  /-- The builder of the device made a function. -/
  | built (request : SamplingRequest)
  /-- A function was called. -/
  | called (function : SamplingFunction) (texture : Texture) (inputs : List WordLanes)

end HostGpu
