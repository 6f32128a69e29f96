import HostGpu.Number.HalfEven
import HostGpu.Number.BinaryFormat
import HostGpu.Number.Word
import HostGpu.Number.Single
import HostGpu.Number.Half
import HostGpu.Number.Power
import HostGpu.Format.Basic
import HostGpu.Lanes.Arithmetic
import HostGpu.Memory.LanePointer
import HostGpu.Texel.Basic
import HostGpu.Texel.Codec
import HostGpu.Texel.Address
import HostGpu.Spirv.Module
import HostGpu.Image.Kind
import HostGpu.Sampling.Signature
import HostGpu.Sampler
import HostGpu.Image.Extent
import HostGpu.Image.View
import HostGpu.Buffer.View
import HostGpu.Descriptor.Record
import HostGpu.Descriptor.Update
import HostGpu.Descriptor.Pool
import HostGpu.PipelineLayout
import HostGpu.Device
import HostGpu.Shader.Analysis
import HostGpu.Shader.Composite
import HostGpu.Session.Step
import HostGpu.Shader.SamplingInstruction
import HostGpu.Proofs.Execution.TexelSafety
import HostGpu.Proofs.Execution.SingleLane
import HostGpu.Proofs.Session.Routines
import HostGpu.Proofs.Session.Liveness
import HostGpu.Proofs.Descriptor.FixedSamplers
import HostGpu.Proofs.Session.Atomicity
import HostGpu.Proofs.Session.Copies
import HostGpu.Proofs.Session.LodRange
import HostGpu.Proofs.Session.Textures
import HostGpu.Proofs.Execution.Termination
import HostGpu.Proofs.Session.LastUse
import HostGpu.Proofs.Execution.Composite
import HostGpu.Proofs.Descriptor.Pool
import HostGpu.Proofs.Descriptor.PoolBudget
import HostGpu.Proofs.Execution.Ends
import HostGpu.Proofs.Shader.Objects
import HostGpu.Proofs.Execution.RecordReads
import HostGpu.Proofs.Execution.DescriptorPointers
import HostGpu.Proofs.Session.BoundSets
import HostGpu.Proofs.Session.RecordReads
import HostGpu.Proofs.Shader.Typing
import HostGpu.Proofs.Execution.IndexFaults
import HostGpu.Proofs.Execution.RowCounts
import HostGpu.Proofs.Execution.ComponentCounts
import HostGpu.Proofs.Span
import HostGpu.Proofs.Number.Bits
import HostGpu.Proofs.Descriptor.DataLayout
import HostGpu.Proofs.Texel.ExactChannels
import HostGpu.Proofs.Device
import HostGpu.Proofs.Store.Registry
import HostGpu.Proofs.Shader.SamplingWords
import HostGpu.Proofs.Execution.InputPositions
import HostGpu.Proofs.Execution.IdleLanes
import HostGpu.Proofs.Execution.IdleGroup
import HostGpu.Proofs.Descriptor.FirstFit
import HostGpu.Proofs.Descriptor.DynamicOffsets
import HostGpu.Proofs.Descriptor.WriteHistory
import HostGpu.Proofs.Execution.ImageQuery
import HostGpu.Proofs.Session.ImageQueries
import HostGpu.Proofs.Execution.LaneTexels
import HostGpu.Proofs.Session.TexelBounds
import HostGpu.Proofs.Texel.Subpass
import HostGpu.Proofs.Session.SubpassReads
import HostGpu.Proofs.Session.AtomicAlignment
import HostGpu.Proofs.Image.Memory
import HostGpu.Proofs.Memory.Addition
import HostGpu.Proofs.Session.AtomicSums
import HostGpu.Proofs.Number.BinaryFormat
import HostGpu.Proofs.Number.Half
import HostGpu.Proofs.Texel.FloatChannels
import HostGpu.Proofs.Number.Rounding
import HostGpu.Proofs.Texel.PackedFloats
import HostGpu.Proofs.Image.MipChain
import HostGpu.Proofs.Memory.StoreLoad
import HostGpu.Proofs.Shader.ImageOperands
import HostGpu.Proofs.Texel.AbsentChannels
