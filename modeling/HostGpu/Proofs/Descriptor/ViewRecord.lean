import HostGpu.Proofs.Descriptor.Texture

/-!
# Records of views read back

What is written for a view beside the levels of its texture reads back as it was written, and the
sampler's part of the record is left alone (`SampledRecord.read_writeView`).  Buffer records read
back whole.
-/

namespace HostGpu

/-- **A buffer record reads back as it was written.** -/
theorem BufferRecord.read_write (d : SetData) (o : Nat) (r : BufferRecord) :
    read (d.write o r.cells) o = r := by
  obtain ⟨c, c', hcells, -⟩ := StorageRecord.toPointer_ofPointer r.pointer
  have hlist : r.cells = [c, c', .word r.size, .word r.robustnessSize] := by rw [cells, hcells]; rfl
  have hword (j : Nat) {w : UInt32} (h : r.cells[j]? = some (.word w)) :
      (d.write o r.cells).word (o + 4 * j) = w := SetData.word_of_cell (SetData.cell_write d o h)
  have hsize : (d.write o r.cells).word (o + 8) = r.size := hword 2 (hlist ▸ rfl)
  have hrobustness : (d.write o r.cells).word (o + 12) = r.robustnessSize := hword 3 (hlist ▸ rfl)
  have hpointer : (d.write o r.cells).pointer o = r.pointer := pointer_read_write d o r
  rw [read, hsize, hrobustness, hpointer]

/-- A buffer record depends on its cells. -/
theorem BufferRecord.read_congr {d d' : SetData} {o o' : Nat}
    (h : ∀ j < 4, d'.cell (o' / 4 + j) = d.cell (o / 4 + j)) : read d' o' = read d o := by
  have hpointer : d'.pointer o' = d.pointer o :=
    SetData.pointer_congr (h 0 (by decide)) (h 1 (by decide))
  have hsize : d'.word (o' + 8) = d.word (o + 8) := SetData.word_congr (h 2 (by decide))
  have hrobustness : d'.word (o' + 12) = d.word (o + 12) := SetData.word_congr (h 3 (by decide))
  rw [read, read, hpointer, hsize, hrobustness]

namespace SampledRecord

open TextureLevel

/-- A sampled record depends on its cells. -/
theorem read_congr {d d' : SetData} {o o' : Nat}
    (h : ∀ j < 988, d'.cell (o' / 4 + j) = d.cell (o / 4 + j)) : read d' o' = read d o := by
  have hword (j : Nat) (hj : j < 988) : d'.word (o' + 4 * j) = d.word (o + 4 * j) :=
    SetData.word_congr (h j hj)
  have hwords (i : Nat) (hi : i + 4 ≤ 988) : d'.words (o' + 4 * i) 4 = d.words (o + 4 * i) 4 :=
    SetData.words_congr fun j hj => by
      rw [Nat.add_mul_div_left _ _ (by decide), Nat.add_mul_div_left _ _ (by decide),
        Nat.add_assoc, Nat.add_assoc]
      exact h _ (by omega)
  rw [read, read, SampledRecord.mk.injEq]
  refine ⟨?_, ?_, ?_, ?_, ?_, ?_, ?_, ?_, ?_, ?_, ?_, ?_, ?_, ?_⟩
  · exact hwords 960 (by decide)
  · exact hwords 964 (by decide)
  · exact hwords 968 (by decide)
  · exact hwords 972 (by decide)
  · exact hword 976 (by decide)
  · exact hword 977 (by decide)
  · exact hword 980 (by decide)
  · exact hword 981 (by decide)
  · exact hword 982 (by decide)
  · exact hword 983 (by decide)
  · exact hword 984 (by decide)
  · exact hword 985 (by decide)
  · exact hword 986 (by decide)
  · exact hword 987 (by decide)

/-- What a record reads as after a view was written over another one. -/
def ofContents (id : Nat) (c : Contents) (old : SampledRecord) : SampledRecord :=
  let width := Single.ofInt c.extent.width
  let height := Single.ofInt c.extent.height
  let depth := Single.ofInt c.extent.depth
  { old with
    widthHeightLod := [width, width, height, height]
    widthLod := four width
    heightLod := four height
    depthLod := four depth
    view := wordOf id
    width := wordOf c.extent.width
    height := wordOf c.extent.height
    depth := wordOf c.depth
    mipLevels := wordOf c.levelCount
    arrayLayers := wordOf c.layerCount
    sampleCount := wordOf c.sampleCount }

/-- The words of the extent for levels of detail. -/
def lodWords (e : Extent) : List UInt32 :=
  let width := Single.ofInt e.width
  let height := Single.ofInt e.height
  [width, width, height, height] ++ four width ++ four height ++ four (Single.ofInt e.depth)

/-- The words of the extent and the counts. -/
def extentWords (c : Contents) : List UInt32 :=
  [wordOf c.extent.width, wordOf c.extent.height, wordOf c.depth, wordOf c.levelCount,
    wordOf c.layerCount, wordOf c.sampleCount]

variable {o : Nat}

theorem writeView_eq (id : Nat) (c : Contents) (d : SetData) (o : Nat) : writeView id c d o =
    ((writeLevels (d.writeWords (o + viewOffset) [wordOf id]) o 0 c.levels).writeWords
      (o + lodOffset) (lodWords c.extent)).writeWords (o + extentOffset) (extentWords c) := rfl

/-- The extent and the counts of a view. -/
theorem word_extent (id : Nat) (c : Contents) (d : SetData) (o : Nat) {j : Nat} {w : UInt32}
    (hw : (extentWords c)[j]? = some w) :
    (writeView id c d o).word (o + extentOffset + 4 * j) = w := by
  rw [writeView_eq]
  refine SetData.word_of_cell (SetData.cell_write _ _ ?_)
  rw [List.getElem?_map, hw, Option.map_some]

/-- The extent of a view for levels of detail. -/
theorem words_lod (id : Nat) (c : Contents) (d : SetData) (h : 4 ∣ o) {i : Nat} (hi : i + 4 ≤ 16) :
    (writeView id c d o).words (o + lodOffset + 4 * i) 4 = ((lodWords c.extent).drop i).take 4 := by
  rw [writeView_eq]
  generalize writeLevels _ _ _ _ = d'
  have hlength : i + 4 ≤ (lodWords c.extent).length := hi
  rw [← SetData.words_writeWords d' (o + lodOffset) hlength]
  refine SetData.words_congr fun j hj => ?_
  refine SetData.writesOnly_write _ (Nat.dvd_add h (by decide)) _ _ (.inl ?_)
  rw [lodOffset, extentOffset]
  omega

/-- **A view reads back as it was written.** -/
theorem read_writeView (id : Nat) {c : Contents} (hc : c.Fits) (d : SetData) (h : 4 ∣ o) :
    read (writeView id c d o) o = ofContents id c (read d o) := by
  obtain ⟨hmin, hmax⟩ := lodRange_writeView id hc d h
  have hsampler := sampler_writeView id hc d h
  have hview := view_writeView id hc d h
  have hextent (j : Nat) {w : UInt32} (hw : (extentWords c)[j]? = some w) :=
    word_extent id c d o hw
  have hlod (i : Nat) (hi : i + 4 ≤ 16) := words_lod id c d h hi
  generalize writeView id c d o = d' at *
  rw [ofContents]
  generalize read d o = old at *
  rw [read, SampledRecord.mk.injEq]
  refine ⟨hlod 0 (by decide), ?_, ?_, ?_, hmin, hmax, hsampler, hview, ?_, ?_, ?_, ?_, ?_, ?_⟩
  · exact hlod 4 (by decide)
  · exact hlod 8 (by decide)
  · exact hlod 12 (by decide)
  · exact hextent 0 rfl
  · exact hextent 1 rfl
  · exact hextent 2 rfl
  · exact hextent 3 rfl
  · exact hextent 4 rfl
  · exact hextent 5 rfl

end SampledRecord

end HostGpu
