import HostGpu.Buffer.View
import HostGpu.Descriptor.Data
import HostGpu.Sampler

/-!
# Descriptor records

There are three record layouts. A *buffer* record is a pointer with two sizes. A *storage* record
describes the first level of an image or a texel buffer by extent and pitches in bytes, with a
second plane for the stencil aspect beside depth. A *sampled* record is a texture of fifteen levels
with a range of levels of detail, a sampler and a view; writing a sampler and writing a view set
different parts of it. The functions named `write…` put parts of a record at a byte offset in the
data of a set, and the structures are read back by `read`.
-/

namespace HostGpu

/-- A natural number as a word, cut to 32 bits. -/
abbrev wordOf (n : Nat) : UInt32 := UInt32.ofNat n

/-! ## Buffer records -/

/-- A range of a buffer. -/
structure BufferRange where
  buffer : Buffer
  range : Span
deriving DecidableEq, Repr

namespace BufferRange

/-- The whole of a buffer. -/
def whole (b : Buffer) : BufferRange := ⟨b, ⟨0, b.size⟩⟩

end BufferRange

structure BufferRecord where
  pointer : Option Pointer
  /-- Bytes of the range. -/
  size : UInt32
  /-- Bytes up to the end of the buffer. -/
  robustnessSize : UInt32
deriving DecidableEq, Repr

namespace BufferRecord

def ofRange (r : BufferRange) : BufferRecord where
  pointer := some ⟨r.buffer.block, r.range.start⟩
  size := wordOf r.range.length
  robustnessSize := wordOf (r.buffer.size - r.range.start)

def cells (r : BufferRecord) : List Cell :=
  Cell.ofPointer r.pointer ++ [.word r.size, .word r.robustnessSize]

def read (d : SetData) (offset : Nat) : BufferRecord where
  pointer := d.pointer offset
  size := d.word (offset + 8)
  robustnessSize := d.word (offset + 12)

end BufferRecord

/-! ## Storage records -/

structure StorageRecord where
  pointer : Option Pointer
  width : UInt32
  height : UInt32
  depth : UInt32
  rowPitch : UInt32
  slicePitch : UInt32
  samplePitch : UInt32
  sampleCount : UInt32
  arrayLayers : UInt32
  size : UInt32
  stencilPointer : Option Pointer := none
  stencilRowPitch : UInt32 := 0
  stencilSlicePitch : UInt32 := 0
  stencilSamplePitch : UInt32 := 0
  stencilSize : UInt32 := 0
deriving DecidableEq, Repr

namespace StorageRecord

/-- Bytes from a slice of a view to the next, where a slice is a layer if there is more than one. -/
def sliceBytes (v : ImageView) (a : Aspect) : Nat :=
  if 1 < v.layerCount then v.layerPitch a else v.slicePitch a 0

/-- The record of the first level of a view. Depth counts slices or layers, cubes by the cube. -/
def ofView (v : ImageView) : StorageRecord :=
  let aspect := v.primaryAspect
  let extent := v.levelExtent 0
  let depth := if v.kind.isCube then v.layerCount / 6 else max extent.depth v.layerCount
  let record : StorageRecord := {
    pointer := some ⟨v.image.block, v.offset aspect 0 0⟩
    width := wordOf extent.width
    height := wordOf extent.height
    depth := wordOf depth
    rowPitch := wordOf (v.rowPitch aspect 0)
    slicePitch := wordOf (sliceBytes v aspect)
    samplePitch := wordOf (v.samplePitch aspect 0)
    sampleCount := wordOf v.samples.count
    arrayLayers := wordOf v.layerCount
    size := wordOf (v.sizeInBytes aspect) }
  if aspect = .depth ∧ v.format.aspects.stencil then
    { record with
      stencilPointer := some ⟨v.image.block, v.offset .stencil 0 0⟩
      stencilRowPitch := wordOf (v.rowPitch .stencil 0)
      stencilSlicePitch := wordOf (sliceBytes v .stencil)
      stencilSamplePitch := wordOf (v.samplePitch .stencil 0)
      stencilSize := wordOf (v.sizeInBytes .stencil) }
  else record

/-- The record of a texel buffer. -/
def ofBufferView (v : BufferView) : StorageRecord where
  pointer := some ⟨v.buffer.block, v.range.start⟩
  width := wordOf v.elementCount
  height := 1
  depth := 1
  rowPitch := 0
  slicePitch := 0
  samplePitch := 0
  sampleCount := 1
  arrayLayers := 1
  size := wordOf v.range.length

/-- All cells of the record, unused ones included. -/
def cells (r : StorageRecord) : List Cell :=
  Cell.ofPointer r.pointer ++
    [.word r.width, .word r.height, .word r.depth, .word r.rowPitch, .word r.slicePitch,
      .word r.samplePitch, .word r.sampleCount, .word r.arrayLayers, .word r.size, .zero] ++
    Cell.ofPointer r.stencilPointer ++
    [.word r.stencilRowPitch, .word r.stencilSlicePitch, .word r.stencilSamplePitch,
      .word r.stencilSize, .zero, .zero]

def read (d : SetData) (offset : Nat) : StorageRecord where
  pointer := d.pointer offset
  width := d.word (offset + 8)
  height := d.word (offset + 12)
  depth := d.word (offset + 16)
  rowPitch := d.word (offset + 20)
  slicePitch := d.word (offset + 24)
  samplePitch := d.word (offset + 28)
  sampleCount := d.word (offset + 32)
  arrayLayers := d.word (offset + 36)
  size := d.word (offset + 40)
  stencilPointer := d.pointer (offset + 48)
  stencilRowPitch := d.word (offset + 56)
  stencilSlicePitch := d.word (offset + 60)
  stencilSamplePitch := d.word (offset + 64)
  stencilSize := d.word (offset + 68)

end StorageRecord

/-! ## Sampled records -/

/-- The geometry of one level of a texture. Pitches are in texels. -/
structure LevelGeometry where
  extent : Extent
  pitch : Nat
  slice : Nat
  samplePitch : Nat
  sampleCount : Nat
  isFloat : Bool
deriving DecidableEq, Repr

/-- One level of a texture: where its faces start, and its geometry. -/
structure TextureLevel where
  /-- Six faces; all but the first are null unless the texture is a cube. -/
  faces : List (Option Pointer)
  geometry : LevelGeometry
deriving DecidableEq, Repr

namespace TextureLevel

/-- Bytes of a level in a record. -/
def bytes : Nat := 256

/-- Half a texel in units of two to the minus 16, as two copies of a 16-bit number in one word. -/
def halfTexel (side : Nat) : UInt32 :=
  let half := wordOf (0x8000 / side) &&& 0xFFFF
  half ||| Word.shiftLeft half 16

/-- A side scaled to units of two to the 16, as a floating point number. -/
def scaledSide (side : Nat) : UInt32 := Single.div (Single.ofInt side) (Single.ofInt 65536)

/-- The same word four times. -/
def four (w : UInt32) : List UInt32 := [w, w, w, w]

/-- Writes a level at an offset. The scaled sides are written for floating point formats only and
are left alone for others. -/
def write (l : TextureLevel) (d : SetData) (offset : Nat) : SetData :=
  let g := l.geometry
  let e := g.extent
  let d := d.write offset (l.faces.flatMap Cell.ofPointer)
  let d :=
    if g.isFloat then
      d.writeWords (offset + 48)
        (four (scaledSide e.width) ++ four (scaledSide e.height) ++ four (scaledSide e.depth))
    else d
  let pitch := wordOf g.pitch
  d.writeWords (offset + 96)
    ([halfTexel e.width, halfTexel e.width, halfTexel e.height, halfTexel e.height,
        halfTexel e.depth, halfTexel e.depth] ++
      four (wordOf e.width) ++ four (wordOf e.height) ++ four (wordOf e.depth) ++
      [1, pitch, 1, pitch] ++ four pitch ++ four (wordOf g.slice) ++
      four (wordOf g.samplePitch) ++ four (wordOf (g.sampleCount - 1)))

end TextureLevel

/-- One level as it is read from a record. -/
structure LevelRecord where
  faces : List (Option Pointer)
  floatWidth : List UInt32
  floatHeight : List UInt32
  floatDepth : List UInt32
  /-- Pairs of 16-bit numbers. -/
  halfU : List UInt32
  halfV : List UInt32
  halfW : List UInt32
  width : List UInt32
  height : List UInt32
  depth : List UInt32
  onePitch : List UInt32
  pitch : List UInt32
  slice : List UInt32
  samplePitch : List UInt32
  sampleMax : List UInt32
deriving DecidableEq, Repr

namespace LevelRecord

def read (d : SetData) (offset : Nat) : LevelRecord where
  faces := (List.range 6).map fun face => d.pointer (offset + 8 * face)
  floatWidth := d.words (offset + 48) 4
  floatHeight := d.words (offset + 64) 4
  floatDepth := d.words (offset + 80) 4
  halfU := d.words (offset + 96) 2
  halfV := d.words (offset + 104) 2
  halfW := d.words (offset + 112) 2
  width := d.words (offset + 120) 4
  height := d.words (offset + 136) 4
  depth := d.words (offset + 152) 4
  onePitch := d.words (offset + 168) 4
  pitch := d.words (offset + 184) 4
  slice := d.words (offset + 200) 4
  samplePitch := d.words (offset + 216) 4
  sampleMax := d.words (offset + 232) 4

end LevelRecord

/-- A sampled record without its levels, as it is read. -/
structure SampledRecord where
  widthHeightLod : List UInt32
  widthLod : List UInt32
  heightLod : List UInt32
  depthLod : List UInt32
  minLod : UInt32
  maxLod : UInt32
  sampler : UInt32
  view : UInt32
  width : UInt32
  height : UInt32
  depth : UInt32
  mipLevels : UInt32
  arrayLayers : UInt32
  sampleCount : UInt32
deriving DecidableEq, Repr

namespace SampledRecord

/-! Offsets of the parts in the record. -/

def lodOffset : Nat := 3840
def minLodOffset : Nat := 3904
def maxLodOffset : Nat := 3908
def samplerOffset : Nat := 3920
def viewOffset : Nat := 3924
def extentOffset : Nat := 3928

/-- Writes a sampler: its identifier and its range of levels of detail. -/
def writeSampler (s : Sampler) (d : SetData) (offset : Nat) : SetData :=
  let d := d.writeWords (offset + samplerOffset) [wordOf s.id]
  d.writeWords (offset + minLodOffset) [s.lodRange.1, s.lodRange.2]

/-- What writing a view sets, other than its identifier. -/
structure Contents where
  /-- All levels of the texture. -/
  levels : List TextureLevel
  /-- The extent of the first level. -/
  extent : Extent
  /-- Depth slices, layers or cubes. -/
  depth : Nat
  levelCount : Nat
  layerCount : Nat
  sampleCount : Nat
deriving DecidableEq, Repr

/-- The levels of a texture that shows a view; the ones past the end repeat the last one. -/
def levelOfView (v : ImageView) (index : Nat) : TextureLevel :=
  let aspect := v.primaryAspect
  let texel := v.primaryFormat.blockSize
  let level := min index (v.levelCount - 1)
  let face (f : Nat) : Option Pointer :=
    if f = 0 ∨ v.kind.isCube then some ⟨v.image.block, v.offset aspect level f⟩ else none
  { faces := (List.range 6).map face
    geometry := {
      extent := v.levelExtent level
      pitch := v.rowPitch aspect level / texel
      slice := v.slicePitch aspect level / texel
      samplePitch := v.samplePitch aspect level / texel
      sampleCount := v.samples.count
      isFloat := v.primaryFormat.isFloat } }

def ofView (v : ImageView) : Contents where
  levels := (List.range maxLevels).map (levelOfView v)
  extent := v.levelExtent 0
  depth :=
    match v.kind with
    | .dim3 => (v.levelExtent 0).depth
    | .cube | .cubeArray => v.layerCount / 6
    | _ => v.layerCount
  levelCount := v.levelCount
  layerCount := v.layerCount
  sampleCount := v.samples.count

/-- A texel buffer is a texture of one row, the same on all levels. -/
def ofBufferView (v : BufferView) : Contents where
  levels := List.replicate maxLevels {
    faces := some ⟨v.buffer.block, v.range.start⟩ :: List.replicate 5 none
    geometry := {
      extent := ⟨v.elementCount, 1, 1⟩
      pitch := v.elementCount
      slice := v.elementCount
      samplePitch := 0
      sampleCount := 1
      isFloat := v.format.isFloat } }
  extent := ⟨v.elementCount, 1, 1⟩
  depth := 1
  levelCount := 1
  layerCount := 1
  sampleCount := 1

/-- Writes levels from a given number on. -/
def writeLevels (d : SetData) (offset : Nat) : (index : Nat) → List TextureLevel → SetData
  | _, [] => d
  | index, l :: rest =>
    writeLevels (l.write d (offset + TextureLevel.bytes * index)) offset (index + 1) rest

/-- Writes a view: its identifier and everything but the sampler's part. -/
def writeView (id : Nat) (c : Contents) (d : SetData) (offset : Nat) : SetData :=
  let d := d.writeWords (offset + viewOffset) [wordOf id]
  let d := writeLevels d offset 0 c.levels
  let width := Single.ofInt c.extent.width
  let height := Single.ofInt c.extent.height
  let depth := Single.ofInt c.extent.depth
  let d := d.writeWords (offset + lodOffset)
    ([width, width, height, height] ++ TextureLevel.four width ++ TextureLevel.four height ++
      TextureLevel.four depth)
  d.writeWords (offset + extentOffset)
    [wordOf c.extent.width, wordOf c.extent.height, wordOf c.depth, wordOf c.levelCount,
      wordOf c.layerCount, wordOf c.sampleCount]

def read (d : SetData) (offset : Nat) : SampledRecord where
  widthHeightLod := d.words (offset + lodOffset) 4
  widthLod := d.words (offset + lodOffset + 16) 4
  heightLod := d.words (offset + lodOffset + 32) 4
  depthLod := d.words (offset + lodOffset + 48) 4
  minLod := d.word (offset + minLodOffset)
  maxLod := d.word (offset + maxLodOffset)
  sampler := d.word (offset + samplerOffset)
  view := d.word (offset + viewOffset)
  width := d.word (offset + extentOffset)
  height := d.word (offset + extentOffset + 4)
  depth := d.word (offset + extentOffset + 8)
  mipLevels := d.word (offset + extentOffset + 12)
  arrayLayers := d.word (offset + extentOffset + 16)
  sampleCount := d.word (offset + extentOffset + 20)

/-- A level of the texture. -/
def readLevel (d : SetData) (offset level : Nat) : LevelRecord :=
  LevelRecord.read d (offset + TextureLevel.bytes * level)

end SampledRecord

end HostGpu
