import HostGpu.Failure
import HostGpu.Memory.Basic
import HostGpu.Span

/-!
# Buffers

A buffer is a block of memory without structure.
-/

namespace HostGpu

/-- A buffer of a device, with the number of the block that is its memory. -/
structure Buffer where
  device : Nat
  block : Nat
  size : Nat
deriving DecidableEq, Repr

namespace Buffer

/-- A buffer has at least one byte. -/
def emptyError : ValidationError where
  context := "create_info.size"
  problem := "is zero"
  rules := ["VUID-VkBufferCreateInfo-size-00912"]

/-- A new buffer and its zeroed memory, which is to become block `block`. -/
def create (device block size : Nat) : Except (Refusal ResourceError) (Buffer × Memory) := do
  if size = 0 then throw (.invalid emptyError)
  let memory ← (Memory.allocate size).mapError .error
  return (⟨device, block, size⟩, memory)

/-- A new buffer with the given bytes. -/
def ofBytes (device block : Nat) (data : List UInt8) :
    Except (Refusal ResourceError) (Buffer × Memory) := do
  let (buffer, memory) ← create device block data.length
  return (buffer, memory.storeBytes 0 data)

/-- A range of a buffer is not empty and lies in the buffer. -/
def rangeError : ValidationError where
  context := "range"
  problem := "is empty, or is not contained within the buffer"
  rules := [
    "VUID-VkDescriptorBufferInfo-offset-00340",
    "VUID-VkDescriptorBufferInfo-range-00341"]

def checkRange (b : Buffer) (range : Span) : Except ValidationError Unit :=
  if range.isEmpty ∨ b.size < range.stop then .error rangeError else .ok ()

end Buffer

end HostGpu
