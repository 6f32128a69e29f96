import HostGpu.Descriptor.Pool
import HostGpu.Descriptor.Update
import HostGpu.Execution.Run

/-!
# The store

The store holds everything that changes while its number stays the same: devices, blocks of memory
and descriptor sets. Images, views, samplers, buffers and layouts never change and are plain values
that carry their number. All numbers come from one sequence, so that no two things share one.
-/

namespace HostGpu

structure Store where
  /-- The number of the next thing. -/
  next : Nat := 1
  devices : Std.TreeMap Nat Device := ∅
  blocks : BlockTable := ∅
  sets : SetTable := ∅

namespace Store

/-- The store after a number was given out. -/
def advance (s : Store) : Store := { s with next := s.next + 1 }

/-! ## Devices -/

/-- A device, or one that knows nothing. -/
def device (s : Store) (id : Nat) : Device := s.devices[id]?.getD {}

/-- Changes a device. -/
def onDevice (s : Store) (id : Nat) (f : Device → Device) : Store :=
  { s with devices := s.devices.insert id (f (s.device id)) }

def addDevice (s : Store) (d : Device) : Nat × Store :=
  (s.next, { s.advance with devices := s.devices.insert s.next d })

/-! ## Memory -/

/-- A block of memory, or an empty one. -/
def memory (s : Store) (block : Nat) : Memory := s.blocks[block]?.getD (.zeroed 0)

def setMemory (s : Store) (block : Nat) (m : Memory) : Store :=
  { s with blocks := s.blocks.insert block m }

/-! ## New objects -/

/-- What makes something new gives it together with the store that holds it. -/
structure Made (α : Type) where
  value : α
  store : Store

def createImage (s : Store) (device : Nat) (info : ImageInfo) : Except Failure (Made Image) := do
  let (image, memory) ← Image.create device s.next info
  return ⟨image, s.advance.setMemory s.next memory⟩

/-- A new view, which is registered with the device of its image. -/
def createView (s : Store) (image : Image) (info : ViewInfo) :
    Except ValidationError (Made ImageView) := do
  let view ← ImageView.create s.next image info
  return ⟨view, s.advance.onDevice image.device (·.registerView view.id view.state)⟩

/-- A new sampler, which is registered with its device. -/
def createSampler (s : Store) (device : Nat) (info : SamplerInfo) :
    Except ValidationError (Made Sampler) := do
  info.check.mapError fun v => v.error.within "create_info"
  let sampler : Sampler := ⟨s.next, device, info⟩
  return ⟨sampler, s.advance.onDevice device (·.registerSampler sampler.id info)⟩

/-- A new buffer of zeros. -/
def createBuffer (s : Store) (device size : Nat) :
    Except (Refusal ResourceError) (Made Buffer) := do
  let (buffer, memory) ← Buffer.create device s.next size
  return ⟨buffer, s.advance.setMemory s.next memory⟩

/-- A new buffer with the given bytes. -/
def createBufferOfBytes (s : Store) (device : Nat) (data : List UInt8) :
    Except (Refusal ResourceError) (Made Buffer) := do
  let (buffer, memory) ← Buffer.ofBytes device s.next data
  return ⟨buffer, s.advance.setMemory s.next memory⟩

/-- A new buffer view, which is registered with the device of its buffer. -/
def createBufferView (s : Store) (buffer : Buffer) (format : Format) (range : Span) :
    Except ValidationError (Made BufferView) := do
  let view ← BufferView.create s.next buffer format range
  return ⟨view, s.advance.onDevice buffer.device (·.registerView view.id view.state)⟩

def createSetLayout (s : Store) (device : Nat) (bindings : List LayoutBinding) :
    Except Failure (Made SetLayout) := do
  return ⟨← SetLayout.create s.next device bindings, s.advance⟩

def createPipelineLayout (s : Store) (device : Nat) (setLayouts : List SetLayout) :
    Except Failure (Made PipelineLayout) := do
  return ⟨← PipelineLayout.create s.next device setLayouts, s.advance⟩

def createPool (s : Store) (device maxSets : Nat) (sizes : List (DescriptorKind × Nat)) :
    Except Failure (Made DescriptorPool) := do
  return ⟨← DescriptorPool.create s.next device maxSets sizes, s.advance⟩

/-! ## Descriptor sets -/

/-- Adds a set, whose number is given. -/
def addSet (s : Store) (set : DescriptorSet) : Made Nat :=
  ⟨s.next, { s.advance with sets := s.sets.insert s.next set }⟩

/-- A new set outside of pools. -/
def createSet (s : Store) (layout : SetLayout) : Except ResourceError (Made Nat) := do
  return s.addSet (← DescriptorSet.create layout)

/-- The source of a copy to a set. -/
def copySource (s : Store) (target source : Nat) : Option DescriptorSet :=
  if source = target then none else s.sets[source]?

/-- Updates a set in place. -/
def update (s : Store) (set : Nat) (writes : List DescriptorWrite) (copies : List DescriptorCopy) :
    Except (Interruption Store) Store :=
  match s.sets[set]? with
  | some d =>
    match d.updateInPlace writes copies with
    | .ok d' => .ok { s with sets := s.sets.insert set d' }
    | .error i => .error ⟨i.failure, { s with sets := s.sets.insert set i.state }⟩
  | none => .ok s

/-! ## Sampling and runs -/

/-- A sampling function that a device found, and what happened meanwhile. -/
def resolve (s : Store) (device : Nat) (key : SamplingKey) :
    Except Fault (List SamplingEvent × Store) := do
  let r ← (s.device device).resolve key
  let built := r.request.elim [] fun request => [SamplingEvent.built request]
  return (.askedDevice key :: built, s.onDevice device fun _ => r.device)

/-- The end of a run: its outcome, what happened, and what changed. -/
structure RunEnd where
  outcome : Except Fault Execution.InterfaceValues
  events : List SamplingEvent
  routine : Routine
  store : Store

/-- Runs a routine on the device of its shader. -/
def run (s : Store) (r : Routine) (inputs : Execution.InterfaceValues) : RunEnd :=
  let device := r.shader.device
  let result := r.run s.sets s.blocks (s.device device) inputs
  { outcome := result.outcome
    events := result.events
    routine := result.routine
    store := { s with blocks := result.blocks }.onDevice device fun _ => result.device }

end Store

end HostGpu
