import HostGpu.Buffer.Basic
import HostGpu.Image.View

/-!
# Buffer views

A buffer view shows a range of a buffer as a line of texels. Buffer views and image views take their
identifiers from one sequence.
-/

namespace HostGpu

structure BufferView where
  id : Nat
  buffer : Buffer
  format : Format
  range : Span
deriving DecidableEq, Repr

namespace BufferView

/-- Texel buffers hold colours. -/
def formatError : ValidationError where
  context := "format"
  problem := "is not a color format"
  rules := ["VUID-VkBufferViewCreateInfo-format-08778"]

/-- The range holds whole texels. -/
def multipleError : ValidationError where
  context := "range"
  problem := "is not a multiple of the block size of `format`"
  rules := ["VUID-VkBufferViewCreateInfo-range-00929"]

/-- The first rule that the parameters break. -/
def check (buffer : Buffer) (format : Format) (range : Span) : Except ValidationError Unit := do
  if !format.aspects.color then throw formatError
  buffer.checkRange range
  if range.length % format.blockSize ≠ 0 then throw multipleError

/-- A new view of a buffer. -/
def create (id : Nat) (buffer : Buffer) (format : Format) (range : Span) :
    Except ValidationError BufferView := do
  (check buffer format range).mapError (·.within "create_info")
  return ⟨id, buffer, format, range⟩

/-- The number of texels. -/
def elementCount (v : BufferView) : Nat := v.range.length / v.format.blockSize

def state (v : BufferView) : ViewState :=
  ⟨.dim1, v.format, ⟨v.elementCount, 1, 1⟩, 1, 1, .one⟩

end BufferView

end HostGpu
