import HostGpu.Execution.TexelPointer
import HostGpu.Proofs.Image.Tiling
import HostGpu.Proofs.Image.View
import HostGpu.Proofs.Number.Word

/-!
# Views behind storage records

A storage record describes an image view or a buffer view (`StorageView`).  The record holds words;
`StorageView.Grid` is the same geometry in natural numbers.  For views of created images and buffers
all these numbers are at most the size of a block, so that none is cut when it becomes a word.
-/

namespace HostGpu

open Outcome

/-! ## Buffer views -/

theorem Format.plane?_color {f : Format} (h : f.aspects.color = true) :
    f.plane? .color = some f := by
  revert h
  cases f <;> intro h <;> first | rfl | cases h

namespace BufferView

/-- What the creation of a view of a created buffer guarantees. -/
structure Valid (v : BufferView) : Prop where
  size : v.buffer.size ≤ Memory.maxSize
  range : v.range.start < v.range.stop ∧ v.range.stop ≤ v.buffer.size
  color : v.format.aspects.color = true
  multiple : v.format.blockSize ∣ v.range.length

end BufferView

theorem Buffer.create_eq_ok {device block size : Nat} {buffer : Buffer} {memory : Memory} :
    create device block size = .ok (buffer, memory) ↔
      0 < size ∧ size ≤ Memory.maxSize ∧ buffer = ⟨device, block, size⟩ ∧
        memory = .zeroed size := by
  simp only [create, throw_eq_error, error_bind, ite_error_eq_ok, bind_eq_ok, mapError_eq_ok,
    Memory.allocate, pure_eq_ok, Except.ok.injEq, Nat.not_lt, Prod.mk.injEq]
  constructor
  · rintro ⟨h₁, m, ⟨h₂, rfl⟩, rfl, rfl⟩
    exact ⟨Nat.pos_of_ne_zero h₁, h₂, rfl, rfl⟩
  · rintro ⟨h₁, h₂, rfl, rfl⟩
    exact ⟨h₁.ne', _, ⟨h₂, rfl⟩, rfl, rfl⟩

namespace BufferView

/-- Every view of a created buffer is valid. -/
theorem valid_of_create {device block size id : Nat} {buffer : Buffer} {memory : Memory}
    {format : Format} {range : Span} {v : BufferView}
    (hbuffer : Buffer.create device block size = .ok (buffer, memory))
    (hview : create id buffer format range = .ok v) : v.Valid := by
  obtain ⟨-, hsize, rfl, -⟩ := Buffer.create_eq_ok.mp hbuffer
  simp only [create, check, Buffer.checkRange, bind_eq_ok, mapError_eq_ok, throw_eq_error,
    error_bind, ite_error_eq_ok, pure_eq_ok, Span.isEmpty_eq_true, not_or, Nat.not_le, Nat.not_lt,
    Bool.not_eq_true', Bool.not_eq_false, ne_eq, not_not] at hview
  obtain ⟨-, ⟨hcolor, -, ⟨hrange, -⟩, hmod⟩, rfl⟩ := hview
  exact ⟨hsize, hrange, hcolor, Nat.dvd_of_mod_eq_zero hmod.1⟩

namespace Valid

variable {v : BufferView}

theorem blockSize_mem (h : v.Valid) : v.format.blockSize ∈ texelSizes :=
  Format.blockSize_mem_texelSizes (Format.plane?_color h.color)

theorem elementCount_mul (h : v.Valid) : v.elementCount * v.format.blockSize = v.range.length :=
  Nat.div_mul_cancel h.multiple

theorem start_add_length (h : v.Valid) : v.range.start + v.range.length = v.range.stop :=
  Nat.add_sub_cancel' h.range.1.le

end Valid

end BufferView

/-! ## Storage views -/

/-- A view that a storage record describes. -/
inductive StorageView where
  | image (v : ImageView)
  | buffer (v : BufferView)
deriving DecidableEq, Repr

/-- A texel of the first level of a view, with the layer, or the face of a cube with the cubes
before it, and the sample. -/
structure TexelIndex where
  x : Int
  y : Int
  z : Int
  layer : Int
  sample : Int
deriving DecidableEq, Repr

namespace TexelIndex

def zero : TexelIndex := ⟨0, 0, 0, 0, 0⟩

end TexelIndex

namespace StorageView

/-- The record of the descriptor of a view. -/
def record : StorageView → StorageRecord
  | image v => .ofView v
  | buffer v => .ofBufferView v

/-- The block that a view shows. -/
def block : StorageView → Nat
  | image v => v.image.block
  | buffer v => v.buffer.block

/-- Bytes of the block that a view shows. -/
def blockBytes : StorageView → Nat
  | image v => v.image.info.size
  | buffer v => v.buffer.size

/-- Where the bytes of a view start in its block. -/
def start : StorageView → Nat
  | image v => v.offset v.primaryAspect 0 0
  | buffer v => v.range.start

/-- The bytes from the first texel of a view to the end of its plane or range. -/
def bytes : StorageView → Nat
  | image v => v.sizeInBytes v.primaryAspect
  | buffer v => v.range.length

/-- Bytes of a texel of the format of the first aspect. -/
def texelSize : StorageView → Nat
  | image v => v.primaryFormat.blockSize
  | buffer v => v.format.blockSize

def kind : StorageView → ViewKind
  | image v => v.kind
  | buffer _ => .dim1

/-- The extent of the first level. -/
def extent : StorageView → Extent
  | image v => v.levelExtent 0
  | buffer v => ⟨v.elementCount, 1, 1⟩

def layerCount : StorageView → Nat
  | image v => v.layerCount
  | buffer _ => 1

def sampleCount : StorageView → Nat
  | image v => v.samples.count
  | buffer _ => 1

/-- The place of a texel in the image that a view shows. -/
def place (v : ImageView) (t : TexelIndex) : TexelPlace where
  aspect := v.primaryAspect
  layer := v.layers.start + t.layer.toNat
  level := v.mips.start
  sample := t.sample.toNat
  position := ⟨t.x.toNat, t.y.toNat, t.z.toNat⟩

/-- Where a texel starts in the block: as the image computes it, or after the elements of the range
of a buffer before it. -/
def offset : StorageView → TexelIndex → Except Fault Nat
  | image v, t => (place v t).offset v.image.info
  | buffer v, t => .ok (v.range.start + t.x.toNat * v.format.blockSize)

/-- The aspect whose plane an access uses. -/
def usedAspect (v : ImageView) (stencil : Bool) : Aspect :=
  if stencil then .stencil else v.primaryAspect

/-- The bytes that may be accessed: from the first texel of a view to the end of the plane of the
aspect that is used, or the range of a buffer view. -/
def region : StorageView → Bool → Span
  | image v, stencil =>
    let a := usedAspect v stencil
    ⟨v.offset a 0 0, v.image.info.planeOffset a + v.image.info.planeSize (v.texelSize a)⟩
  | buffer v, _ => v.range

theorem region_start (v : StorageView) : (v.region false).start = v.start := by
  cases v <;> rfl

/-- The view was made from an image or a buffer that was made. -/
inductive Created : StorageView → Prop
  | image {device block id : Nat} {info : ImageInfo} {image : Image} {memory : Memory}
      {viewInfo : ViewInfo} {v : ImageView}
      (himage : Image.create device block info = .ok (image, memory))
      (hview : ImageView.create id image viewInfo = .ok v) : Created (.image v)
  | buffer {device block size id : Nat} {buffer : Buffer} {memory : Memory} {format : Format}
      {range : Span} {v : BufferView}
      (hbuffer : Buffer.create device block size = .ok (buffer, memory))
      (hview : BufferView.create id buffer format range = .ok v) : Created (.buffer v)

/-- What the creation of a view guarantees. -/
def Valid : StorageView → Prop
  | image v => v.Valid
  | buffer v => v.Valid

theorem Created.valid {v : StorageView} (h : v.Created) : v.Valid := by
  cases h with
  | image himage hview => exact ImageView.valid_of_create himage hview
  | buffer hbuffer hview => exact BufferView.valid_of_create hbuffer hview

/-! ## Geometry in natural numbers -/

/-- The geometry of a storage record before its numbers become words. -/
structure Grid where
  width : Nat
  height : Nat
  /-- Depth slices, layers or cubes. -/
  depth : Nat
  rowPitch : Nat
  slicePitch : Nat
  samplePitch : Nat
  sampleCount : Nat
deriving DecidableEq, Repr

namespace Grid

/-- The geometry as it stands in a record. -/
def layout (g : Grid) : TexelLayout where
  width := wordOf g.width
  height := wordOf g.height
  depth := wordOf g.depth
  rowPitch := wordOf g.rowPitch
  slicePitch := wordOf g.slicePitch
  samplePitch := wordOf g.samplePitch
  sampleCount := wordOf g.sampleCount

/-- All pitches are multiples of the size of a texel. -/
structure Multiple (g : Grid) (texel : Nat) : Prop where
  rowPitch : texel ∣ g.rowPitch
  slicePitch : texel ∣ g.slicePitch
  samplePitch : texel ∣ g.samplePitch

end Grid

/-- The geometry of a view. -/
def grid : StorageView → Grid
  | image v =>
    { width := (v.levelExtent 0).width
      height := (v.levelExtent 0).height
      depth := if v.kind.isCube then v.layerCount / 6 else max (v.levelExtent 0).depth v.layerCount
      rowPitch := v.rowPitch v.primaryAspect 0
      slicePitch := StorageRecord.sliceBytes v v.primaryAspect
      samplePitch := v.samplePitch v.primaryAspect 0
      sampleCount := v.samples.count }
  | buffer v => ⟨v.elementCount, 1, 1, 0, 0, 0, 1⟩

/-- The most bytes of a view, so that all numbers in its record are below `2 ^ 31`. -/
def maxBytes : Nat := Memory.maxSize

/-- The number of depth slices, layers or faces. -/
def slices (v : StorageView) : Nat :=
  if 2 < v.kind.dimensions then v.extent.depth else v.layerCount

theorem sampleCount_pos (v : StorageView) : 0 < v.sampleCount := by
  cases v with
  | image v => exact v.samples.count_pos
  | buffer v => exact Nat.one_pos

theorem grid_width (v : StorageView) : v.grid.width = v.extent.width := by
  cases v <;> rfl

theorem grid_height (v : StorageView) : v.grid.height = v.extent.height := by
  cases v <;> rfl

theorem grid_sampleCount (v : StorageView) : v.grid.sampleCount = v.sampleCount := by
  cases v <;> rfl

/-- The plane that shader code reads from the record of a view. -/
theorem ofRecord_record (v : StorageView) :
    Execution.StoragePlane.ofRecord v.record false =
      ⟨some ⟨v.block, v.start⟩, wordOf v.bytes, v.grid.layout⟩ := by
  cases v with
  | image v =>
    simp only [record, StorageRecord.ofView]
    split <;> rfl
  | buffer v => rfl

namespace Valid

variable {v : StorageView}

theorem texelSize_mem (h : v.Valid) : v.texelSize ∈ texelSizes := by
  cases v with
  | image v =>
    have hv : v.Valid := h
    rw [texelSize, hv.primaryFormat_blockSize]
    exact ImageView.texelSize_mem hv.primaryAspect_mem
  | buffer v => exact BufferView.Valid.blockSize_mem h

theorem blockBytes_le (h : v.Valid) : v.blockBytes ≤ Memory.maxSize := by
  cases v with
  | image v => exact ImageView.Valid.size h
  | buffer v => exact BufferView.Valid.size h

theorem start_add_bytes_le (h : v.Valid) : v.start + v.bytes ≤ v.blockBytes := by
  cases v with
  | image v =>
    have hv : v.Valid := h
    exact hv.sizeInBytes_le hv.primaryAspect_mem
  | buffer v =>
    have hv : v.Valid := h
    exact hv.start_add_length.trans_le hv.range.2

theorem bytes_le (h : v.Valid) : v.bytes ≤ maxBytes :=
  ((Nat.le_add_left _ _).trans h.start_add_bytes_le).trans h.blockBytes_le

theorem dvd_bytes (h : v.Valid) : v.texelSize ∣ v.bytes := by
  cases v with
  | image v =>
    have hv : v.Valid := h
    rw [texelSize, hv.primaryFormat_blockSize]
    exact hv.dvd_sizeInBytes
  | buffer v => exact BufferView.Valid.multiple h

theorem sampleCount_le (h : v.Valid) : v.sampleCount ≤ maxBytes := by
  cases v with
  | image v =>
    have hv : v.Valid := h
    have ha := hv.primaryAspect_mem
    have hpos := pos_of_mem_texelSizes (ImageInfo.planeTexel_mem ha)
    calc v.samples.count
      _ ≤ v.image.info.levelSize _ v.mips.start := v.image.info.samples_le_levelSize hpos _
      _ ≤ v.image.info.size := ImageInfo.levelSize_le_size hv.image ha hv.first_level_lt
      _ ≤ maxBytes := hv.size
  | buffer v => exact (by decide : 1 ≤ maxBytes)

theorem layerCount_le (h : v.Valid) : v.layerCount ≤ maxBytes := by
  cases v with
  | image v =>
    have hv : v.Valid := h
    calc v.layerCount
      _ ≤ v.image.info.arrayLayers := hv.layerCount_le
      _ ≤ v.image.info.size := ImageInfo.arrayLayers_le_size hv.image hv.primaryAspect_mem
      _ ≤ maxBytes := hv.size
  | buffer v => exact (by decide : 1 ≤ maxBytes)

theorem extent_le (h : v.Valid) :
    v.extent.width ≤ maxBytes ∧ v.extent.height ≤ maxBytes ∧ v.extent.depth ≤ maxBytes := by
  cases v with
  | image v =>
    have hv : v.Valid := h
    have ha := hv.primaryAspect_mem
    have hpos := pos_of_mem_texelSizes (ImageInfo.planeTexel_mem ha)
    have hsample := calc v.image.info.samplePitch _ v.mips.start
      _ ≤ v.image.info.levelSize _ v.mips.start := v.image.info.samplePitch_le_levelSize _ _
      _ ≤ v.image.info.size := ImageInfo.levelSize_le_size hv.image ha hv.first_level_lt
      _ ≤ maxBytes := hv.size
    have hslice := (v.image.info.slicePitch_le_samplePitch _ _).trans hsample
    have hrow := (v.image.info.rowPitch_le_slicePitch _ _).trans hslice
    refine ⟨?_, ?_, ?_⟩
    · exact (v.image.info.width_le_rowPitch hpos _).trans hrow
    · exact (v.image.info.height_le_slicePitch hpos _).trans hslice
    · exact (v.image.info.depth_le_samplePitch hpos _).trans hsample
  | buffer v =>
    have hone : 1 ≤ maxBytes := by decide
    exact ⟨(Nat.div_le_self _ _).trans h.bytes_le, hone, hone⟩

theorem slices_le (h : v.Valid) : v.slices ≤ maxBytes := by
  rw [slices]
  split
  · exact h.extent_le.2.2
  · exact h.layerCount_le

theorem grid_multiple (h : v.Valid) : v.grid.Multiple v.texelSize := by
  cases v with
  | image v =>
    have hv : v.Valid := h
    rw [texelSize, hv.primaryFormat_blockSize]
    refine ⟨v.image.info.dvd_rowPitch _ _, ?_, v.image.info.dvd_samplePitch _ _⟩
    simp only [grid, StorageRecord.sliceBytes]
    split
    · exact v.image.info.dvd_layerPitch _
    · exact v.image.info.dvd_slicePitch _ _
  | buffer v => exact ⟨Nat.dvd_zero _, Nat.dvd_zero _, Nat.dvd_zero _⟩

theorem extent_pos (h : v.Valid) :
    0 < v.extent.width ∧ 0 < v.extent.height ∧ 0 < v.extent.depth := by
  cases v with
  | image v => exact v.image.info.levelExtent_pos _
  | buffer v =>
    have hv : v.Valid := h
    have hlength : 0 < v.range.length := Nat.sub_pos_of_lt hv.range.1
    have hcount : 0 < v.elementCount * v.format.blockSize := hv.elementCount_mul ▸ hlength
    exact ⟨Nat.pos_of_mul_pos_right hcount, Nat.one_pos, Nat.one_pos⟩

theorem layerCount_pos (h : v.Valid) : 0 < v.layerCount := by
  cases v with
  | image v => exact ImageView.Valid.layerCount_pos h
  | buffer v => exact Nat.one_pos

/-- The slices that coordinates are checked against; a cube counts as six. -/
theorem sliceCount_eq (h : v.Valid) {p : TexelPosition} (hp : p.cube = v.kind.isCube) :
    p.sliceCount v.grid.layout = wordOf v.slices := by
  cases v with
  | image v =>
    have hv : v.Valid := h
    rw [TexelPosition.sliceCount, hp]
    by_cases hcube : v.kind.isCube = true
    · have hdims : ¬ 2 < v.kind.dimensions := by
        revert hcube
        cases v.kind <;> decide
      have hsix : v.layerCount / 6 * 6 = v.layerCount :=
        Nat.div_mul_cancel (hv.six_dvd_layerCount hcube)
      have hmul : wordOf (v.layerCount / 6) * 6 = wordOf v.layerCount := by
        conv => rhs; rw [← hsix, wordOf, UInt32.ofNat_mul]
        rfl
      simp only [kind, hcube, if_true, Grid.layout, grid, slices, hdims, if_false, layerCount, hmul]
    · have hslices : max (v.levelExtent 0).depth v.layerCount = (image v).slices :=
        hv.max_depth_layerCount
      simp only [kind, hcube, Bool.false_eq_true, if_false, Grid.layout, grid, hslices]
  | buffer v =>
    rw [TexelPosition.sliceCount, hp]
    rfl

/-! ## Regions -/

/-- The first texel of a view and the bytes after it are what a record states. -/
theorem start_ofRecord (h : v.Valid) :
    (Execution.StoragePlane.ofRecord v.record false).start =
      ⟨some v.block, .start v.start v.bytes⟩ := by
  have hmax : maxBytes = 2 ^ 30 := rfl
  have hbytes := h.bytes_le
  rw [ofRecord_record]
  simp only [Execution.StoragePlane.start, Option.map_some, Option.elim_some]
  rw [Word.signed_ofNat_toNat (by omega)]

theorem start_add_bytes (h : v.Valid) : v.start + v.bytes = (v.region false).stop := by
  cases v with
  | image v =>
    have hv : v.Valid := h
    exact hv.offset_add_sizeInBytes
  | buffer v =>
    have hv : v.Valid := h
    exact hv.start_add_length

/-- The bytes from the first texel of a plane to the limit are those of its region, or else there is
no such plane. -/
theorem start_ofRecord_region (h : v.Valid) (stencil : Bool) :
    (Execution.StoragePlane.ofRecord v.record stencil).start.lanes.limit = 0 ∨
      ∃ limit, (Execution.StoragePlane.ofRecord v.record stencil).start =
          ⟨some v.block, .start (v.region stencil).start limit⟩ ∧
        (v.region stencil).start + limit = (v.region stencil).stop ∧
        (v.region stencil).stop ≤ v.blockBytes := by
  cases stencil with
  | false =>
    have hend := h.start_add_bytes
    refine .inr ⟨v.bytes, ?_, ?_, hend.symm.trans_le h.start_add_bytes_le⟩
    · rw [h.start_ofRecord, region_start]
    · rw [region_start, hend]
  | true =>
    cases v with
    | buffer v => exact .inl rfl
    | image v =>
      have hv : v.Valid := h
      simp only [record, StorageRecord.ofView]
      split
      · rename_i hboth
        have hmem : Aspect.stencil ∈ v.image.info.format.aspects.toList := by
          rw [AspectSet.mem_toList, ← hv.formatAspects]
          simp [AspectSet.contains, AspectSet.single, hboth.2]
        have hend := hv.offset_add_sizeInBytes (a := .stencil)
        have hle := hv.sizeInBytes_le hmem
        have hlimit : v.sizeInBytes .stencil < 2 ^ 31 := by
          have hsize : v.image.info.size ≤ 2 ^ 30 := hv.size
          omega
        refine .inr ⟨v.sizeInBytes .stencil, ?_, hend, hend.symm.trans_le hle⟩
        simp only [Execution.StoragePlane.start, Execution.StoragePlane.ofRecord, if_true,
          Option.map_some, Option.elim_some, wordOf, Word.signed_ofNat_toNat hlimit]
        rfl
      · exact .inl rfl

end Valid

end StorageView

end HostGpu
