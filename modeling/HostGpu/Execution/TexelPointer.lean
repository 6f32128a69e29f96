import HostGpu.Execution.State
import HostGpu.Texel.Address
import HostGpu.Texel.Codec

/-!
# Access to texels

A texel pointer is computed from a storage record and coordinates, and every access through it is
checked against the size in the record. Texels of four bytes and more are accessed word by word.
-/

namespace HostGpu.Execution

open Spirv Shader

namespace TexelPointer

/-- The memory that a pointer points into. -/
def memory (p : TexelPointer) (blocks : BlockTable) : Memory :=
  (p.block.bind (blocks[·]?)).getD (.zeroed 0)

/-- Replaces the memory that a pointer points into. -/
def putMemory (p : TexelPointer) (blocks : BlockTable) (m : Memory) : BlockTable :=
  match p.block with
  | some block => if blocks.contains block then blocks.insert block m else blocks
  | none => blocks

/-- Moves every lane by the same number of bytes. -/
def advance (p : TexelPointer) (bytes : Nat) : TexelPointer :=
  { p with lanes := p.lanes.advance (.splat (UInt32.ofNat bytes)) }

def load (p : TexelPointer) (blocks : BlockTable) (n : Nat) (mask : WordLanes)
    (rule : BoundsRule) : WordLanes :=
  p.lanes.load (p.memory blocks) n mask rule

def store (p : TexelPointer) (blocks : BlockTable) (n : Nat) (value mask : WordLanes)
    (rule : BoundsRule) : BlockTable :=
  p.putMemory blocks (p.lanes.store (p.memory blocks) n value mask rule)

def atomicAdd (p : TexelPointer) (blocks : BlockTable) (value mask : WordLanes) :
    WordLanes × BlockTable :=
  let (previous, m) := p.lanes.atomicAdd (p.memory blocks) value mask
  (previous, p.putMemory blocks m)

/-! ## Whole texels -/

/-- The sizes of the words that a texel is accessed by. -/
def accessSizes : (texelSize : Nat) → Except Fault (List Nat)
  | 16 => .ok [4, 4, 4, 4]
  | 8 => .ok [4, 4]
  | 4 => .ok [4]
  | 2 => .ok [2]
  | 1 => .ok [1]
  | n => .error (.unsupportedTexelSize n)

/-- The words of texels. -/
def loadWords (p : TexelPointer) (blocks : BlockTable) (mask : WordLanes) (rule : BoundsRule) :
    (sizes : List Nat) → List WordLanes
  | [] => []
  | n :: rest => p.load blocks n mask rule :: (p.advance n).loadWords blocks mask rule rest

/-- Stores words of texels one after the other. -/
def storeWords (p : TexelPointer) (blocks : BlockTable) (mask : WordLanes) (rule : BoundsRule) :
    (sizes : List Nat) → List WordLanes → BlockTable
  | n :: sizes, w :: words =>
    (p.advance n).storeWords (p.store blocks n w mask rule) mask rule sizes words
  | _, _ => blocks

end TexelPointer

/-! ## Texels of storage records -/

/-- A plane of the texels that a storage record describes. -/
structure StoragePlane where
  pointer : Option Pointer
  size : UInt32
  layout : TexelLayout
deriving DecidableEq, Repr

namespace StoragePlane

/-- The plane of the stencil aspect beside depth, or else the only or first one. -/
def ofRecord (r : StorageRecord) (stencil : Bool) : StoragePlane where
  pointer := if stencil then r.stencilPointer else r.pointer
  size := if stencil then r.stencilSize else r.size
  layout := {
    width := r.width
    height := r.height
    depth := r.depth
    rowPitch := if stencil then r.stencilRowPitch else r.rowPitch
    slicePitch := if stencil then r.stencilSlicePitch else r.slicePitch
    samplePitch := if stencil then r.stencilSamplePitch else r.samplePitch
    sampleCount := r.sampleCount }

/-- The pointer to the first texel of a plane. -/
def start (p : StoragePlane) : TexelPointer where
  block := p.pointer.map (·.block)
  lanes := .start (p.pointer.elim 0 (·.offset)) (Word.signed p.size).toNat

end StoragePlane

/-- What an image instruction says about the texels it accesses. -/
structure TexelRequest where
  /-- The image operand. -/
  image : Nat
  type : ImageType
  coordinate : Operand
  /-- The sample operand. -/
  sample : Option Nat
  texelSize : Nat
  stencil : Bool
  rule : BoundsRule
deriving DecidableEq, Repr

namespace Environment

/-- The samples that an operand names; a constant zero is as good as none. -/
def samples (e : Environment) (s : State) : Option Nat → Except Fault (Option WordLanes)
  | none => .ok none
  | some id => do
    let sample ← e.operand s id
    if sample.isConstantZero then return none
    return some (← sample.component 0)

/-- The position of fragments that read subpass data. -/
def subpass? (e : Environment) (type : ImageType) : Option SubpassPosition :=
  if type.dimension = .subpassData then some ⟨e.windowX, e.windowY, e.viewIndex⟩ else none

/-- The pointer to the texels that an image instruction accesses. -/
def texelPointer (e : Environment) (s : State) (r : TexelRequest) : Except Fault TexelPointer := do
  let address ← s.descriptor r.image
  let plane := StoragePlane.ofRecord (e.storageRecord address) r.stencil
  let coordinates : TexelCoordinates := {
    components := r.coordinate.components
    arrayed := r.type.arrayed
    cube := r.type.dimension = .cube
    sample := ← e.samples s r.sample
    subpass := e.subpass? r.type }
  let offsets ← coordinates.offsets plane.layout (UInt32.ofNat r.texelSize) r.rule
  return { plane.start with lanes := plane.start.lanes.advance offsets }

end Environment

/-- What happens to texels outside of an image or its memory. -/
def texelRule (device : Device) : BoundsRule :=
  if device.robust then .nullify else .robustBuffer

end HostGpu.Execution
