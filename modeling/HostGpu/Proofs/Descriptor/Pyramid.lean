import HostGpu.Proofs.Descriptor.Texture
import HostGpu.Proofs.Descriptor.Update
import HostGpu.Proofs.Image.Tiling
import HostGpu.Proofs.Image.View

/-!
# The pyramid of a texture

A texture has for each level the first texel and the distances between texels, rows, slices and
samples.  For a view that is no cube they find every texel of a level in its first layer, and every
texel of a volume.  From a layer to the next, however, they step by one slice of the level, and that
is the distance of layers only in images with one level and one sample
(`ImageView.Valid.layer_found_iff`).  The descriptor of a view has these levels for as long as it
keeps the view (`DescriptorSet.ShowsPyramid`).
-/

namespace HostGpu

open Outcome

/-! ## Slices and layers -/

theorem SampleCount.count_eq_one {s : SampleCount} : s.count = 1 ↔ s = .one := by
  cases s <;> decide

/-- A level without depth has layers at the distance of slices if nothing else is in a layer. -/
theorem ImageInfo.slicePitch_eq_layerPitch {i : ImageInfo} {texel level : Nat} (htexel : 0 < texel)
    (hlevel : level < i.mipLevels) (hdepth : (i.levelExtent level).depth = 1) :
    i.slicePitch texel level = i.layerPitch texel ↔ i.mipLevels = 1 ∧ i.samples = .one := by
  have hsample : i.samplePitch texel level = i.slicePitch texel level := by
    rw [samplePitch, hdepth, Nat.one_mul]
  have hslice : 0 < i.slicePitch texel level := hsample ▸ i.samplePitch_pos htexel level
  have hsize : i.levelSize texel level = i.samples.count * i.slicePitch texel level := by
    rw [levelSize, hsample]
  constructor
  · intro heq
    have hend := i.levelOffset_add_le texel hlevel
    have hle := Nat.le_mul_of_pos_left (i.slicePitch texel level) i.samples.count_pos
    -- the layer ends with this level, and starts with it
    have hfirst : level = 0 := by
      by_contra hne
      have hbefore := (i.levelSize_pos htexel 0).trans_le
        (i.levelOffset_mono texel (Nat.one_le_iff_ne_zero.mpr hne))
      omega
    have hlast : i.mipLevels = level + 1 := by
      by_contra hne
      have hafter := i.levelOffset_add_le texel (by omega : level + 1 < i.mipLevels)
      have hpos := i.levelSize_pos htexel (level + 1)
      rw [levelOffset_succ] at hafter
      omega
    refine ⟨by omega, SampleCount.count_eq_one.mp ?_⟩
    have hone : i.samples.count * i.slicePitch texel level = 1 * i.slicePitch texel level := by
      omega
    exact Nat.eq_of_mul_eq_mul_right hslice hone
  · rintro ⟨hmips, hsamples⟩
    obtain rfl : level = 0 := by omega
    rw [layerPitch, hmips, levelOffset_succ, hsize, hsamples, SampleCount.count, Nat.one_mul]
    exact (Nat.zero_add _).symm

/-! ## Texels of views -/

namespace ImageView

/-- The number of slices of a level: depth slices of a volume, layers of any other view. -/
def slices (v : ImageView) (level : Nat) : Nat :=
  if v.kind = .dim3 then (v.levelExtent level).depth else v.layerCount

/-- The offset of a texel in a slice. -/
def texelInSlice (v : ImageView) (a : Aspect) (level x y w : Nat) : Except Fault Nat :=
  if v.kind = .dim3 then v.texelAddress ⟨x, y, w⟩ a level 0 else v.texelAddress ⟨x, y, 0⟩ a level w

namespace Valid

variable {v : ImageView} {a : Aspect} {level layer : Nat}

theorem shift_level (h : v.Valid) (hlevel : level < v.levelCount) :
    shift v.mips.start level = .ok (v.mips.start + level) := by
  have hlt := h.level_lt hlevel
  have hle := h.image.levels_le_maxLevels
  have hmax : maxLevels = 15 := rfl
  exact if_pos (by omega)

theorem shift_layer (h : v.Valid) (ha : a ∈ v.image.info.format.aspects.toList)
    (hlayer : layer < v.layerCount) :
    shift v.layers.start layer = .ok (v.layers.start + layer) := by
  have hlt := h.layer_lt hlayer
  have hle := (ImageInfo.arrayLayers_le_size h.image ha).trans h.size
  have hmax : Memory.maxSize < 2 ^ 32 := by decide
  exact if_pos (by omega)

/-- The address of a texel of a view. -/
theorem texelAddress_eq (h : v.Valid) (ha : a ∈ v.image.info.format.aspects.toList)
    (hlevel : level < v.levelCount) (hlayer : layer < v.layerCount) {p : Extent}
    (hx : p.width < (v.levelExtent level).width) (hy : p.height < (v.levelExtent level).height)
    (hz : p.depth < (v.levelExtent level).depth) :
    v.texelAddress p a level layer = .ok (v.offset a level layer + p.depth * v.slicePitch a level +
      p.height * v.rowPitch a level + p.width * v.texelSize a) := by
  have hin : TexelPlace.In ⟨a, v.layers.start + layer, v.mips.start + level, 0, p⟩ v.image.info :=
    ⟨ha, h.layer_lt hlayer, h.level_lt hlevel, v.image.info.samples.count_pos, hx, hy, hz⟩
  have hfits := v.image.info.memory_tiles.fits _ hin
  simp only [TexelPlace.inMemory, TexelPlace.inPlane, TexelPlace.inLayer, TexelPlace.inLevel,
    TexelPlace.inSample, TexelPlace.inSlice, TexelPlace.inRow, TexelPlace.texel] at hfits
  rw [texelAddress, h.shift_level hlevel, h.shift_layer ha hlayer, ok_bind, ok_bind,
    ImageInfo.texelAddress, ImageInfo.texelOffset_eq ha (h.level_lt hlevel) (h.layer_lt hlayer),
    ok_bind]
  exact if_pos (by omega)

theorem samplePitch?_eq (h : v.Valid) (ha : a ∈ v.image.info.format.aspects.toList)
    (hlevel : level < v.levelCount) : v.samplePitch? a level = .ok (v.samplePitch a level) := by
  rw [samplePitch?, h.shift_level hlevel]
  exact ImageInfo.samplePitch?_eq h.image ha (h.level_lt hlevel)

/-- The address of a texel in a slice: slices of volumes follow each other in a layer, others are
layers. -/
theorem texelInSlice_eq (h : v.Valid) (ha : a ∈ v.image.info.format.aspects.toList)
    (hlevel : level < v.levelCount) {x y w : Nat} (hx : x < (v.levelExtent level).width)
    (hy : y < (v.levelExtent level).height) (hw : w < v.slices level) :
    v.texelInSlice a level x y w = .ok (v.offset a level 0 +
      w * (if v.kind = .dim3 then v.slicePitch a level else v.layerPitch a) +
      y * v.rowPitch a level + x * v.texelSize a) := by
  rw [slices] at hw
  rw [texelInSlice]
  split at hw
  · rename_i hk
    rw [if_pos hk, if_pos hk, h.texelAddress_eq ha hlevel h.layerCount_pos hx hy hw]
  · rename_i hk
    rw [if_neg hk, if_neg hk,
      h.texelAddress_eq ha hlevel hw hx hy (v.image.info.levelExtent_pos _).2.2]
    refine congrArg Except.ok ?_
    simp only [offset, Nat.add_mul, Nat.zero_mul]
    omega

end Valid

end ImageView

/-! ## Texels of levels -/

namespace LevelRecord

/-- The number of texels from the first one of a level to a sample of a texel, by one of the four
copies that the record has of its numbers. -/
def texels (r : LevelRecord) (copy x y w s : Nat) : Nat :=
  x + y * (r.pitch.getD copy 0).toNat + w * (r.slice.getD copy 0).toNat +
    s * (r.samplePitch.getD copy 0).toNat

/-- A level shows another one: it reads as it does after this one was written over it. -/
def Shows (r : LevelRecord) (l : TextureLevel) : Prop := r = ofLevel l r

theorem shows_ofLevel (l : TextureLevel) (old : LevelRecord) : (ofLevel l old).Shows l := by
  simp only [Shows, ofLevel]
  split <;> rfl

/-- Levels that show the same differ in their scaled sides at most, and these are the same for
floating point formats. -/
theorem Shows.unique {r r' : LevelRecord} {l : TextureLevel} (h : r.Shows l) (h' : r'.Shows l) :
    r = { r' with
      floatWidth := r.floatWidth, floatHeight := r.floatHeight, floatDepth := r.floatDepth } ∧
    (l.geometry.isFloat = true → r = r') := by
  rw [Shows] at h h'
  constructor
  · rw [h, h']
    simp only [ofLevel]
  · intro hfloat
    rw [h, h']
    simp only [ofLevel, hfloat, if_true]

end LevelRecord

theorem TextureLevel.getD_four {copy : Nat} (hcopy : copy < 4) (w : UInt32) :
    (four w).getD copy 0 = w := by
  match copy, hcopy with
  | 0, _ | 1, _ | 2, _ | 3, _ => rfl

namespace ImageView.Valid

open LevelRecord

variable {v : ImageView} {level : Nat} {r : LevelRecord}

/-- The numbers of a level fit a word. -/
theorem samplePitch_lt (h : v.Valid) (hlevel : level < v.levelCount) :
    v.samplePitch v.primaryAspect level < 2 ^ 32 := by
  have ha := h.primaryAspect_mem
  have hle := v.image.info.samplePitch_le_levelSize (v.texelSize v.primaryAspect)
    (v.mips.start + level)
  have hsize := ImageInfo.levelSize_le_size h.image ha (h.level_lt hlevel)
  have hmax : Memory.maxSize < 2 ^ 32 := by decide
  have hbound := h.size
  rw [samplePitch]
  exact (hle.trans (hsize.trans hbound)).trans_lt hmax

/-- The texels that a level counts, in bytes. -/
theorem texels_mul (h : v.Valid) (hlevel : level < v.levelCount)
    (hr : r.Shows (SampledRecord.levelOfView v level)) {copy : Nat} (hcopy : copy < 4)
    (x y w s : Nat) : r.texels copy x y w s * v.primaryFormat.blockSize =
      x * v.texelSize v.primaryAspect + y * v.rowPitch v.primaryAspect level +
        w * v.slicePitch v.primaryAspect level + s * v.samplePitch v.primaryAspect level := by
  have hmin : min level (v.levelCount - 1) = level := by omega
  have hnumber {n : Nat} (hdvd : v.texelSize v.primaryAspect ∣ n)
      (hn : n ≤ v.samplePitch v.primaryAspect level) :
      (wordOf (n / v.texelSize v.primaryAspect)).toNat * v.texelSize v.primaryAspect = n := by
    have hlt := (Nat.div_le_self n (v.texelSize v.primaryAspect)).trans_lt
      (hn.trans_lt (h.samplePitch_lt hlevel))
    rw [UInt32.toNat_ofNat_of_lt' hlt, Nat.div_mul_cancel hdvd]
  have hslices := v.image.info.slicePitch_le_samplePitch (v.texelSize v.primaryAspect)
    (v.mips.start + level)
  have hrows := (v.image.info.rowPitch_le_slicePitch (v.texelSize v.primaryAspect)
    (v.mips.start + level)).trans hslices
  have hpitch := hnumber (v.image.info.dvd_rowPitch _ _) hrows
  have hslice := hnumber (v.image.info.dvd_slicePitch _ _) hslices
  have hsample := hnumber (v.image.info.dvd_samplePitch _ _) (Nat.le_refl _)
  rw [hr, texels, ofLevel, SampledRecord.levelOfView, h.primaryFormat_blockSize]
  simp only [hmin, TextureLevel.getD_four hcopy, Nat.add_mul, Nat.mul_assoc]
  rw [rowPitch, slicePitch, samplePitch, hpitch, hslice, hsample]

/-- **A level finds its texels**: those of a volume, those of the first layer of any other view, and
those of all layers exactly if the image has no more than one level and one sample. -/
theorem layer_found_iff (h : v.Valid) (hlevel : level < v.levelCount)
    (hr : r.Shows (SampledRecord.levelOfView v level)) {copy : Nat} (hcopy : copy < 4) {x y w : Nat}
    (hx : x < (v.levelExtent level).width) (hy : y < (v.levelExtent level).height)
    (hw : w < v.slices level) (s : Nat) :
    ∃ first offset pitch, r.faces[0]? = some (some ⟨v.image.block, first⟩) ∧
      v.texelInSlice v.primaryAspect level x y w = .ok offset ∧
      v.samplePitch? v.primaryAspect level = .ok pitch ∧
      (first + r.texels copy x y w s * v.primaryFormat.blockSize = offset + s * pitch ↔
        v.kind = .dim3 ∨ w = 0 ∨ v.image.info.mipLevels = 1 ∧ v.image.info.samples = .one) := by
  have ha := h.primaryAspect_mem
  have hmin : min level (v.levelCount - 1) = level := by omega
  have hface : r.faces[0]? =
      some (some ⟨v.image.block, v.offset v.primaryAspect level 0⟩) := by
    rw [hr, ofLevel, SampledRecord.levelOfView, hmin]
    simp
  refine ⟨_, _, _, hface, h.texelInSlice_eq ha hlevel hx hy hw, h.samplePitch?_eq ha hlevel, ?_⟩
  rw [h.texels_mul hlevel hr hcopy]
  split
  case isTrue hk =>
    simp only [hk, true_or, iff_true]
    omega
  case isFalse hk =>
    have hflat : v.kind.dimensions ≤ 2 := by
      cases hkind : v.kind <;> first | exact absurd hkind hk | decide
    have hpitches := ImageInfo.slicePitch_eq_layerPitch
      (pos_of_mem_texelSizes (texelSize_mem ha)) (h.level_lt hlevel) (h.depth_eq_one hflat level)
    rw [← hpitches]
    simp only [hk, false_or]
    constructor
    · intro heq
      rcases Nat.eq_zero_or_pos w with hw | hw
      · exact .inl hw
      · refine .inr (Nat.eq_of_mul_eq_mul_left hw ?_)
        simp only [slicePitch, layerPitch] at heq
        omega
    · rintro (rfl | heq)
      · omega
      · have hbytes : w * v.slicePitch v.primaryAspect level = w * v.layerPitch v.primaryAspect :=
          congrArg (w * ·) heq
        omega

end ImageView.Valid

/-! ## Levels of descriptors -/

namespace DescriptorSet

/-- The levels of a sampled record show those of the view that is kept with it. -/
def ShowsPyramid : DescriptorProperty := fun b d o kept => b.kind.record? = some .sampled →
  ∀ v, .view v ∈ kept.getD [] → ∀ level < maxLevels,
    (SampledRecord.readLevel d o level).Shows (SampledRecord.levelOfView v level)

theorem local_showsPyramid : DescriptorProperty.Local ShowsPyramid := by
  intro b d d' o o' kept hcells h hkind v hv level hlevel
  have hmax : maxLevels = 15 := rfl
  have hstride : b.stride = 3952 := LayoutBinding.stride_of_record? hkind
  rw [SampledRecord.readLevel_congr fun j hj => hcells (64 * level + j) (by omega)]
  exact h hkind v hv level hlevel

/-- Writing a view writes its levels, and nothing else that is written comes with a view. -/
theorem showsPyramid_write {b : LayoutBinding} {e : WriteElement} (he : e.Fits b) (d : SetData)
    {o : Nat} (ho : 4 ∣ o) : ShowsPyramid b (e.write b.kind d o) o (some e.resources) := by
  intro hkind v hv level hlevel
  obtain ⟨d', hwrite⟩ := he.exists_writeView hkind hv d o
  have hl : (SampledRecord.ofView v).levels[level]? = some (SampledRecord.levelOfView v level) := by
    simp [SampledRecord.ofView, hlevel]
  rw [hwrite, SampledRecord.readLevel_writeView v.id (SampledRecord.full_ofView v) d' ho hl]
  exact LevelRecord.shows_ofLevel _ _

variable {s s' : DescriptorSet}

theorem showsPyramid_of_create {layout : SetLayout} (hfit : ∀ b ∈ layout.bindings, b.SamplersFit)
    {place : Option PoolPlace} (h : create layout place = .ok s) : s.Each ShowsPyramid :=
  each_of_create local_showsPyramid hfit (fun _ _ _ _ _ hv => absurd hv List.not_mem_nil)
    (fun _ _ _ _ _ _ _ _ _ hv => absurd hv List.not_mem_nil) h

/-- **Updates** keep the levels of descriptors those of their views. -/
theorem showsPyramid_update {writes : List DescriptorWrite} {copies : List DescriptorCopy}
    (h : s.Each ShowsPyramid) (hupdate : s.update writes copies = .ok s')
    (hsources : ∀ c ∈ copies, ∀ source, c.source = some source → source.Each ShowsPyramid) :
    s'.Each ShowsPyramid := by
  refine Each.update local_showsPyramid h hupdate ?_ hsources ?_
  · exact fun w _ b e _ he d o _ ho _ => showsPyramid_write he d ho
  · exact fun c _ b b' _ _ hkinds d o kept hshows hkind => hshows (hkinds ▸ hkind)

end DescriptorSet

end HostGpu
