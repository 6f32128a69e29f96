import HostGpu.Descriptor.Set
import Mathlib.Data.List.GetD

/-!
# Reading and writing records

A storage record reads back as it was written, and depends on its twenty cells only.  Every record
is written within the bytes of its kind: sampled records in several parts, which leave gaps.
-/

namespace HostGpu

namespace SetData

/-! ## Cells -/

/-- Two states of the data of a set differ at most in `size` bytes from an offset on. -/
def WritesOnly (d d' : SetData) (offset size : Nat) : Prop :=
  ∀ i, 4 * i < offset ∨ offset + size ≤ 4 * i → d'.cell i = d.cell i

namespace WritesOnly

variable {d d' d'' : SetData} {offset size offset' size' : Nat}

theorem refl (d : SetData) (offset size : Nat) : d.WritesOnly d offset size := fun _ _ => rfl

theorem trans (h : d.WritesOnly d' offset size) (h' : d'.WritesOnly d'' offset size) :
    d.WritesOnly d'' offset size := fun i hi => (h' i hi).trans (h i hi)

theorem mono (h : d.WritesOnly d' offset size) (hle : offset' ≤ offset)
    (hend : offset + size ≤ offset' + size') : d.WritesOnly d' offset' size' :=
  fun i hi => h i (by omega)

end WritesOnly

/-- The cells that are written. -/
theorem cell_write (d : SetData) (offset : Nat) {cells : List Cell} {j : Nat} {c : Cell}
    (h : cells[j]? = some c) : (d.write offset cells).cell (offset / 4 + j) = c := by
  rw [write, cell_setCells, if_pos (Nat.le_add_right _ _), Nat.add_sub_cancel_left, h,
    Option.getD_some]

theorem writesOnly_write (d : SetData) {offset : Nat} (h : 4 ∣ offset) (cells : List Cell) :
    d.WritesOnly (d.write offset cells) offset (4 * cells.length) := by
  intro i hi
  rw [write, cell_setCells]
  split
  · rw [List.getElem?_eq_none (by omega), Option.getD_none]
  · rfl

/-- A part of a record is written within the bytes of the record. -/
theorem writesOnly_writeWords (d : SetData) {offset part : Nat} (h : 4 ∣ offset) (hpart : 4 ∣ part)
    {words : List UInt32} (count : Nat) (hcount : words.length = count) {size : Nat}
    (hend : part + 4 * count ≤ size) :
    d.WritesOnly (d.writeWords (offset + part) words) offset size := by
  refine (writesOnly_write d (Nat.dvd_add h hpart) _).mono (Nat.le_add_right _ _) ?_
  rw [List.length_map, hcount]
  omega

/-- What a cell holds after a write depends on what it held before, and on no other cell. -/
theorem cell_write_congr {d d' : SetData} {i : Nat} (h : d'.cell i = d.cell i) (offset : Nat)
    (cells : List Cell) : (d'.write offset cells).cell i = (d.write offset cells).cell i := by
  rw [write, write, cell_setCells, cell_setCells, h]

variable {d d' : SetData} {o o' j : Nat}

/-- A word depends on its cell. -/
theorem word_congr (h : d'.cell (o' / 4 + j) = d.cell (o / 4 + j)) :
    d'.word (o' + 4 * j) = d.word (o + 4 * j) := by
  rw [word, word, Nat.add_mul_div_left _ _ (by decide), Nat.add_mul_div_left _ _ (by decide), h]

/-- A pointer depends on its two cells. -/
theorem pointer_congr (h : d'.cell (o' / 4 + j) = d.cell (o / 4 + j))
    (hnext : d'.cell (o' / 4 + (j + 1)) = d.cell (o / 4 + (j + 1))) :
    d'.pointer (o' + 4 * j) = d.pointer (o + 4 * j) := by
  rw [pointer, pointer, Nat.add_mul_div_left _ _ (by decide), Nat.add_mul_div_left _ _ (by decide),
    h, Nat.add_assoc, Nat.add_assoc, hnext]

/-- The word of a cell that holds one. -/
theorem word_of_cell {w : UInt32} (h : d.cell (o / 4 + j) = .word w) : d.word (o + 4 * j) = w := by
  rw [word, Nat.add_mul_div_left _ _ (by decide), h, Cell.toWord]

/-- The pointer of two cells. -/
theorem pointer_of_cells {c c' : Cell} (h : d.cell (o / 4 + j) = c)
    (hnext : d.cell (o / 4 + (j + 1)) = c') : d.pointer (o + 4 * j) = c.toPointer c' := by
  rw [pointer, Nat.add_mul_div_left _ _ (by decide), h, Nat.add_assoc, hnext]

/-- The cells of a range are read in order. -/
theorem getElem?_cells (d : SetData) {offset size j : Nat} (h : j < size / 4) :
    (d.cells offset size)[j]? = some (d.cell (offset / 4 + j)) := by
  simp [cells, h]

end SetData

/-! ## Pointers -/

namespace Cell

theorem length_ofPointer (p : Option Pointer) : (ofPointer p).length = 2 := by
  cases p <;> rfl

end Cell

/-! ## Storage records -/

namespace StorageRecord

/-- The record of a descriptor that was never written. -/
def null : StorageRecord where
  pointer := none
  width := 0
  height := 0
  depth := 0
  rowPitch := 0
  slicePitch := 0
  samplePitch := 0
  sampleCount := 0
  arrayLayers := 0
  size := 0

/-- A record depends on its cells. -/
theorem read_congr {d d' : SetData} {o o' : Nat}
    (h : ∀ j < 20, d'.cell (o' / 4 + j) = d.cell (o / 4 + j)) : read d' o' = read d o := by
  have hword (j : Nat) (hj : j < 20) : d'.word (o' + 4 * j) = d.word (o + 4 * j) :=
    SetData.word_congr (h j hj)
  have hpointer (j : Nat) (hj : j + 1 < 20) : d'.pointer (o' + 4 * j) = d.pointer (o + 4 * j) :=
    SetData.pointer_congr (h j (by omega)) (h (j + 1) hj)
  rw [read, read]
  congr 1
  · exact hpointer 0 (by decide)
  · exact hword 2 (by decide)
  · exact hword 3 (by decide)
  · exact hword 4 (by decide)
  · exact hword 5 (by decide)
  · exact hword 6 (by decide)
  · exact hword 7 (by decide)
  · exact hword 8 (by decide)
  · exact hword 9 (by decide)
  · exact hword 10 (by decide)
  · exact hpointer 12 (by decide)
  · exact hword 14 (by decide)
  · exact hword 15 (by decide)
  · exact hword 16 (by decide)
  · exact hword 17 (by decide)

/-- Zero cells are the null record. -/
theorem read_eq_null {d : SetData} {o : Nat} (h : ∀ j < 20, d.cell (o / 4 + j) = .zero) :
    read d o = null := by
  have hzero : read (.zeroed 0) 0 = null := rfl
  rw [← hzero]
  refine read_congr ?_
  intro j hj
  rw [h j hj, SetData.cell_zeroed]

theorem length_cells (r : StorageRecord) : r.cells.length = 20 := by
  simp [cells, Cell.length_ofPointer]

/-- The record in two pointer cells and words. -/
theorem toPointer_ofPointer (p : Option Pointer) :
    ∃ c c', Cell.ofPointer p = [c, c'] ∧ c.toPointer c' = p := by
  cases p with
  | none => exact ⟨_, _, rfl, rfl⟩
  | some p => exact ⟨_, _, rfl, Cell.toPointer_halves p⟩

/-- **A record reads back as it was written.** -/
theorem read_write (d : SetData) (o : Nat) (r : StorageRecord) :
    read (d.write o r.cells) o = r := by
  obtain ⟨c, c', hcells, hpointer⟩ := toPointer_ofPointer r.pointer
  obtain ⟨k, k', hstencil, hstencilPointer⟩ := toPointer_ofPointer r.stencilPointer
  have hlist : r.cells = [c, c', .word r.width, .word r.height, .word r.depth, .word r.rowPitch,
      .word r.slicePitch, .word r.samplePitch, .word r.sampleCount, .word r.arrayLayers,
      .word r.size, .zero, k, k', .word r.stencilRowPitch, .word r.stencilSlicePitch,
      .word r.stencilSamplePitch, .word r.stencilSize, .zero, .zero] := by
    rw [cells, hcells, hstencil]
    rfl
  have hword (j : Nat) {w : UInt32} (h : r.cells[j]? = some (.word w)) :
      (d.write o r.cells).word (o + 4 * j) = w := SetData.word_of_cell (SetData.cell_write d o h)
  have hpair (j : Nat) {c c' : Cell} (h : r.cells[j]? = some c)
      (h' : r.cells[j + 1]? = some c') :
      (d.write o r.cells).pointer (o + 4 * j) = c.toPointer c' :=
    SetData.pointer_of_cells (SetData.cell_write d o h) (SetData.cell_write d o h')
  generalize hd : d.write o r.cells = d' at hword hpair
  rw [hlist] at hword hpair
  have hread : read d' o = { r with
      pointer := c.toPointer c', stencilPointer := k.toPointer k' } := by
    rw [read]
    congr 1
    · exact hpair 0 rfl rfl
    · exact hword 2 rfl
    · exact hword 3 rfl
    · exact hword 4 rfl
    · exact hword 5 rfl
    · exact hword 6 rfl
    · exact hword 7 rfl
    · exact hword 8 rfl
    · exact hword 9 rfl
    · exact hword 10 rfl
    · exact hpair 12 rfl rfl
    · exact hword 14 rfl
    · exact hword 15 rfl
    · exact hword 16 rfl
    · exact hword 17 rfl
  rw [hread, hpointer, hstencilPointer]

end StorageRecord

/-! ## Buffer and sampled records -/

theorem BufferRecord.length_cells (r : BufferRecord) : r.cells.length = 4 := by
  simp [cells, Cell.length_ofPointer]

theorem BufferRecord.pointer_read_write (d : SetData) (o : Nat) (r : BufferRecord) :
    (read (d.write o r.cells) o).pointer = r.pointer := by
  obtain ⟨c, c', hcells, hpointer⟩ := StorageRecord.toPointer_ofPointer r.pointer
  have hlist : r.cells = [c, c', .word r.size, .word r.robustnessSize] := by rw [cells, hcells]; rfl
  have hfirst : (d.write o r.cells).cell (o / 4 + 0) = c := SetData.cell_write d o (hlist ▸ rfl)
  have hsecond : (d.write o r.cells).cell (o / 4 + 1) = c' := SetData.cell_write d o (hlist ▸ rfl)
  rw [← hpointer]
  exact SetData.pointer_of_cells hfirst hsecond

namespace TextureLevel

theorem length_faces (l : TextureLevel) :
    (l.faces.flatMap Cell.ofPointer).length = 2 * l.faces.length := by
  induction l.faces with
  | nil => rfl
  | cons p rest ih =>
    rw [List.flatMap_cons, List.length_append, ih, Cell.length_ofPointer, List.length_cons]
    omega

theorem writesOnly_write (l : TextureLevel) (d : SetData) {offset : Nat} (h : 4 ∣ offset)
    (hfaces : l.faces.length ≤ 6) : d.WritesOnly (l.write d offset) offset bytes := by
  have hpointers : d.WritesOnly (d.write offset (l.faces.flatMap Cell.ofPointer)) offset bytes := by
    refine (SetData.writesOnly_write d h _).mono (Nat.le_refl _) ?_
    rw [length_faces, bytes]
    omega
  refine hpointers.trans ?_
  rw [write]
  split
  · exact (SetData.writesOnly_writeWords _ h (by decide) 12 rfl (by decide)).trans
      (SetData.writesOnly_writeWords _ h (by decide) 38 rfl (by decide))
  · exact SetData.writesOnly_writeWords _ h (by decide) 38 rfl (by decide)

end TextureLevel

namespace SampledRecord

theorem writesOnly_writeSampler (s : Sampler) (d : SetData) {offset : Nat} (h : 4 ∣ offset) :
    d.WritesOnly (writeSampler s d offset) offset RecordKind.sampled.size :=
  (SetData.writesOnly_writeWords d h (by decide) 1 rfl (by decide)).trans
    (SetData.writesOnly_writeWords _ h (by decide) 2 rfl (by decide))

theorem cell_writeSampler_congr (s : Sampler) {d d' : SetData} {offset i : Nat}
    (h : d'.cell i = d.cell i) :
    (writeSampler s d' offset).cell i = (writeSampler s d offset).cell i :=
  SetData.cell_write_congr (SetData.cell_write_congr h _ _) _ _

/-- Contents have no more levels than a record and no more faces than a level. -/
structure Contents.Fits (c : Contents) : Prop where
  levels : c.levels.length ≤ maxLevels
  faces : ∀ l ∈ c.levels, l.faces.length ≤ 6

theorem fits_ofView (v : ImageView) : (ofView v).Fits := by
  refine ⟨by simp [ofView], ?_⟩
  intro l hl
  obtain ⟨index, -, rfl⟩ := List.mem_map.mp hl
  simp [levelOfView]

theorem fits_ofBufferView (v : BufferView) : (ofBufferView v).Fits := by
  refine ⟨by simp [ofBufferView], ?_⟩
  intro l hl
  rw [List.eq_of_mem_replicate hl]
  exact Nat.le_refl 6

theorem writesOnly_writeLevels (d : SetData) {offset : Nat} (h : 4 ∣ offset) (index : Nat)
    {levels : List TextureLevel} (hfaces : ∀ l ∈ levels, l.faces.length ≤ 6) :
    d.WritesOnly (writeLevels d offset index levels) (offset + TextureLevel.bytes * index)
      (TextureLevel.bytes * levels.length) := by
  induction levels generalizing d index with
  | nil => exact .refl d _ _
  | cons l rest ih =>
    rw [List.forall_mem_cons] at hfaces
    have hplace : 4 ∣ offset + TextureLevel.bytes * index :=
      Nat.dvd_add h (Nat.dvd_mul_right_of_dvd (by decide) _)
    rw [List.length_cons, Nat.mul_succ]
    refine ((l.writesOnly_write d hplace hfaces.1).mono (Nat.le_refl _) (by omega)).trans ?_
    refine (ih _ (index + 1) hfaces.2).mono ?_ ?_ <;> rw [Nat.mul_succ] <;> omega

/-- The levels of contents that fit end before the other parts of a record. -/
theorem Contents.Fits.writesOnly {c : Contents} (hc : c.Fits) (d : SetData) {offset : Nat}
    (h : 4 ∣ offset) : d.WritesOnly (writeLevels d offset 0 c.levels) offset lodOffset := by
  have hroom := Nat.mul_le_mul_left TextureLevel.bytes hc.levels
  have hmax : TextureLevel.bytes * maxLevels = lodOffset := rfl
  exact (writesOnly_writeLevels d h 0 hc.faces).mono (Nat.le_add_right _ _) (by omega)

/-- A view is written within the bytes of a sampled record. -/
theorem writesOnly_writeView (id : Nat) {c : Contents} (hc : c.Fits) (d : SetData) {offset : Nat}
    (h : 4 ∣ offset) :
    d.WritesOnly (writeView id c d offset) offset RecordKind.sampled.size := by
  have hid : d.WritesOnly (d.writeWords (offset + viewOffset) [wordOf id]) offset
      RecordKind.sampled.size :=
    SetData.writesOnly_writeWords d h (by decide) 1 rfl (by decide)
  have hlevels := (hc.writesOnly (d.writeWords (offset + viewOffset) [wordOf id]) h).mono
    (Nat.le_refl _) (by rw [lodOffset, RecordKind.size]; omega :
      offset + lodOffset ≤ offset + RecordKind.sampled.size)
  refine (hid.trans hlevels).trans ?_
  exact (SetData.writesOnly_writeWords _ h (by decide) 16 rfl (by decide)).trans
    (SetData.writesOnly_writeWords _ h (by decide) 6 rfl (by decide))

/-! ### What sampled records hold -/

variable {d d' : SetData} {o o' : Nat}

theorem read_view (d : SetData) (o : Nat) : (read d o).view = d.word (o + 4 * 981) := rfl

theorem read_sampler (d : SetData) (o : Nat) : (read d o).sampler = d.word (o + 4 * 980) := rfl

theorem read_minLod (d : SetData) (o : Nat) : (read d o).minLod = d.word (o + 4 * 976) := rfl

theorem read_maxLod (d : SetData) (o : Nat) : (read d o).maxLod = d.word (o + 4 * 977) := rfl

/-- Writing a view puts its identifier between the levels of detail and the extent, and leaves the
other cells there alone. -/
theorem cell_writeView (id : Nat) {c : Contents} (hc : c.Fits) (d : SetData) (h : 4 ∣ o) {j : Nat}
    (hle : 976 ≤ j) (hlt : j < 982) :
    (writeView id c d o).cell (o / 4 + j) =
      (d.writeWords (o + viewOffset) [wordOf id]).cell (o / 4 + j) := by
  have hlod : lodOffset = 3840 := rfl
  have hextent : extentOffset = 3928 := rfl
  have hlods (d' : SetData) (words : List UInt32) (hwords : words.length = 16) :
      (d'.writeWords (o + lodOffset) words).cell (o / 4 + j) = d'.cell (o / 4 + j) := by
    refine SetData.writesOnly_write d' (Nat.dvd_add h (by decide)) _ _ (.inr ?_)
    rw [List.length_map, hwords]
    omega
  have hextents (d' : SetData) (words : List UInt32) :
      (d'.writeWords (o + extentOffset) words).cell (o / 4 + j) = d'.cell (o / 4 + j) :=
    SetData.writesOnly_write d' (Nat.dvd_add h (by decide)) _ _ (.inl (by omega))
  rw [writeView, hextents, hlods _ _ rfl]
  exact hc.writesOnly _ h _ (.inr (by omega))

theorem view_writeView (id : Nat) {c : Contents} (hc : c.Fits) (d : SetData) (h : 4 ∣ o) :
    (read (writeView id c d o) o).view = wordOf id := by
  rw [read_view]
  refine SetData.word_of_cell ?_
  have hplace : o / 4 + 981 = (o + viewOffset) / 4 + 0 := by rw [viewOffset]; omega
  rw [cell_writeView id hc d h (by decide) (by decide), hplace]
  exact SetData.cell_write d _ rfl

/-- The words between the levels of detail and the identifier of the view. -/
theorem word_writeView (id : Nat) {c : Contents} (hc : c.Fits) (d : SetData) (h : 4 ∣ o) {j : Nat}
    (hle : 976 ≤ j) (hlt : j < 981) :
    (writeView id c d o).word (o + 4 * j) = d.word (o + 4 * j) := by
  refine SetData.word_congr ?_
  rw [cell_writeView id hc d h hle (by omega)]
  exact SetData.writesOnly_write d (Nat.dvd_add h (by decide)) _ _
    (.inl (by rw [viewOffset]; omega))

theorem sampler_writeView (id : Nat) {c : Contents} (hc : c.Fits) (d : SetData) (h : 4 ∣ o) :
    (read (writeView id c d o) o).sampler = (read d o).sampler := by
  rw [read_sampler, read_sampler, word_writeView id hc d h (by decide) (by decide)]

/-- Writing a sampler changes three cells. -/
theorem cell_writeSampler (x : Sampler) (d : SetData) (h : 4 ∣ o) {j : Nat}
    (hj : j < 976 ∨ 980 < j) :
    (writeSampler x d o).cell (o / 4 + j) = d.cell (o / 4 + j) := by
  have hpart (d' : SetData) {part : Nat} (hpart : 4 ∣ part) (words : List UInt32)
      (hout : 4 * j < part ∨ part + 4 * words.length ≤ 4 * j) :
      (d'.writeWords (o + part) words).cell (o / 4 + j) = d'.cell (o / 4 + j) := by
    refine SetData.writesOnly_write d' (Nat.dvd_add h hpart) _ _ ?_
    rw [List.length_map]
    omega
  rw [writeSampler, hpart _ (by decide) _ (by rw [minLodOffset]; simp; omega),
    hpart _ (by decide) _ (by rw [samplerOffset]; simp; omega)]

theorem view_writeSampler (x : Sampler) (d : SetData) (h : 4 ∣ o) :
    (read (writeSampler x d o) o).view = (read d o).view := by
  rw [read_view, read_view]
  exact SetData.word_congr (cell_writeSampler x d h (.inr (by decide)))

theorem sampler_writeSampler (x : Sampler) (d : SetData) (h : 4 ∣ o) :
    (read (writeSampler x d o) o).sampler = wordOf x.id := by
  rw [read_sampler]
  refine SetData.word_of_cell ?_
  have hplace : o / 4 + 980 = (o + samplerOffset) / 4 + 0 := by rw [samplerOffset]; omega
  have hlater := SetData.writesOnly_write (d.writeWords (o + samplerOffset) [wordOf x.id])
    (Nat.dvd_add h (by decide : 4 ∣ minLodOffset)) ([x.lodRange.1, x.lodRange.2].map .word)
    (o / 4 + 980) (.inr (by rw [minLodOffset]; simp; omega))
  rw [writeSampler]
  refine hlater.trans ?_
  rw [hplace]
  exact SetData.cell_write d _ rfl

/-! ### The sampler's part -/

/-- A record holds a sampler: its identifier and its range of levels of detail. -/
def Holds (r : SampledRecord) (x : Sampler) : Prop :=
  r.sampler = wordOf x.id ∧ r.minLod = x.lodRange.1 ∧ r.maxLod = x.lodRange.2

theorem view_congr (h : ∀ j < 988, d'.cell (o' / 4 + j) = d.cell (o / 4 + j)) :
    (read d' o').view = (read d o).view := by
  rw [read_view, read_view]
  exact SetData.word_congr (h 981 (by decide))

theorem sampler_congr (h : ∀ j < 988, d'.cell (o' / 4 + j) = d.cell (o / 4 + j)) :
    (read d' o').sampler = (read d o).sampler := by
  rw [read_sampler, read_sampler]
  exact SetData.word_congr (h 980 (by decide))

theorem holds_congr {x : Sampler} (h : ∀ j < 988, d'.cell (o' / 4 + j) = d.cell (o / 4 + j)) :
    (read d' o').Holds x ↔ (read d o).Holds x := by
  have hword (j : Nat) (hj : j < 988) : d'.word (o' + 4 * j) = d.word (o + 4 * j) :=
    SetData.word_congr (h j hj)
  rw [Holds, Holds, read_sampler, read_minLod, read_maxLod, read_sampler, read_minLod, read_maxLod,
    hword 980 (by decide), hword 976 (by decide), hword 977 (by decide)]

theorem lodRange_writeView (id : Nat) {c : Contents} (hc : c.Fits) (d : SetData) (h : 4 ∣ o) :
    (read (writeView id c d o) o).minLod = (read d o).minLod ∧
      (read (writeView id c d o) o).maxLod = (read d o).maxLod := by
  rw [read_minLod, read_maxLod, read_minLod, read_maxLod,
    word_writeView id hc d h (by decide) (by decide),
    word_writeView id hc d h (by decide) (by decide)]
  exact ⟨rfl, rfl⟩

/-- Writing a view does not change the sampler. -/
theorem holds_writeView (id : Nat) {c : Contents} (hc : c.Fits) (d : SetData) (h : 4 ∣ o)
    {x : Sampler} : (read (writeView id c d o) o).Holds x ↔ (read d o).Holds x := by
  obtain ⟨hmin, hmax⟩ := lodRange_writeView id hc d h
  rw [Holds, Holds, sampler_writeView id hc d h, hmin, hmax]

theorem holds_writeSampler (x : Sampler) (d : SetData) (h : 4 ∣ o) :
    (read (writeSampler x d o) o).Holds x := by
  refine ⟨sampler_writeSampler x d h, ?_, ?_⟩
  · rw [read_minLod]
    refine SetData.word_of_cell ?_
    have hplace : o / 4 + 976 = (o + minLodOffset) / 4 + 0 := by rw [minLodOffset]; omega
    rw [writeSampler, hplace]
    exact SetData.cell_write _ _ rfl
  · rw [read_maxLod]
    refine SetData.word_of_cell ?_
    have hplace : o / 4 + 977 = (o + minLodOffset) / 4 + 1 := by rw [minLodOffset]; omega
    rw [writeSampler, hplace]
    exact SetData.cell_write _ _ rfl

end SampledRecord

end HostGpu
