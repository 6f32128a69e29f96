import HostGpu.Proofs.Image.Planes
import HostGpu.Proofs.Tiling

/-!
# The texels of an image tile its memory

A sample of a texel is named by its aspect, array layer, mip level, number and position
(`TexelPlace`).  The bytes of all of them are pairwise disjoint and together are the memory of the
image, no byte is left over: `texels_tile_memory`.  The proof goes through the levels of the layout
from inside, a row of texels, the rows of a slice, the slices of a sample, the samples of a level,
the levels of a layer, the layers of a plane and the planes, with one tiling for each.
-/

namespace HostGpu

/-- A sample of a texel of an image. -/
@[ext] structure TexelPlace where
  aspect : Aspect
  layer : Nat
  level : Nat
  sample : Nat
  position : Extent
deriving DecidableEq, Repr

namespace TexelPlace

/-- The place exists in an image. -/
structure In (t : TexelPlace) (i : ImageInfo) : Prop where
  aspect : t.aspect ∈ i.format.aspects.toList
  layer : t.layer < i.arrayLayers
  level : t.level < i.mipLevels
  sample : t.sample < i.samples.count
  width : t.position.width < (i.levelExtent t.level).width
  height : t.position.height < (i.levelExtent t.level).height
  depth : t.position.depth < (i.levelExtent t.level).depth

/-- Where the bytes of a sample of a texel start: samples follow each other by the sample pitch. -/
def offset (t : TexelPlace) (i : ImageInfo) : Except Fault Nat := do
  return (← i.texelOffset t.position t.aspect t.level t.layer) +
    t.sample * (← i.samplePitch? t.aspect t.level)

/-- The bytes of a sample of a texel. -/
def bytes (t : TexelPlace) (i : ImageInfo) : Set Nat :=
  {b | ∃ o n, t.offset i = .ok o ∧ i.texelSize t.aspect = .ok n ∧ b ∈ Set.Ico o (o + n)}

/-! ## Offsets inside the parts of the layout -/

variable (i : ImageInfo) (t : TexelPlace)

/-- Bytes of a texel. -/
def texel : Nat := i.planeTexel t.aspect

/-- The offset of a texel in its row. -/
def inRow : Nat := t.position.width * t.texel i

/-- The offset in a depth slice. -/
def inSlice : Nat := t.position.height * i.rowPitch (t.texel i) t.level + t.inRow i

/-- The offset in a sample. -/
def inSample : Nat := t.position.depth * i.slicePitch (t.texel i) t.level + t.inSlice i

/-- The offset in a level. -/
def inLevel : Nat := t.sample * i.samplePitch (t.texel i) t.level + t.inSample i

/-- The offset in a layer. -/
def inLayer : Nat := i.levelOffset (t.texel i) t.level + t.inLevel i

/-- The offset in a plane. -/
def inPlane : Nat := t.layer * i.layerPitch (t.texel i) + t.inLayer i

/-- The offset in the memory of the image. -/
def inMemory : Nat := i.planeOffset t.aspect + t.inPlane i

variable {i t}

theorem offset_eq (hv : i.Valid) (h : t.In i) : t.offset i = .ok (t.inMemory i) := by
  simp only [offset, ImageInfo.texelOffset_eq h.aspect h.level h.layer,
    ImageInfo.samplePitch?_eq hv h.aspect h.level, Outcome.ok_bind]
  refine congrArg Except.ok ?_
  simp only [inMemory, inPlane, inLayer, inLevel, inSample, inSlice, inRow, texel]
  omega

theorem bytes_eq (hv : i.Valid) (h : t.In i) :
    t.bytes i = Set.Ico (t.inMemory i) (t.inMemory i + t.texel i) := by
  ext b
  constructor
  · rintro ⟨o, n, ho, hn, hb⟩
    rw [offset_eq hv h, Except.ok.injEq] at ho
    rw [ImageInfo.texelSize_eq h.aspect, Except.ok.injEq] at hn
    subst ho hn
    exact hb
  · intro hb
    exact ⟨_, _, offset_eq hv h, ImageInfo.texelSize_eq h.aspect, hb⟩

end TexelPlace

/-! ## From a row to the memory -/

namespace ImageInfo

open TexelPlace

variable (i : ImageInfo)

theorem row_tiles (a : Aspect) (layer level sample z y : Nat) :
    Tiles (i.rowPitch (i.planeTexel a) level)
      (fun t => ∃ x < (i.levelExtent level).width, t = ⟨a, layer, level, sample, ⟨x, y, z⟩⟩)
      (inRow i) (texel i) := by
  have hone (x : Nat) : Tiles (i.planeTexel a)
      (· = (⟨a, layer, level, sample, ⟨x, y, z⟩⟩ : TexelPlace)) (fun _ => 0) (texel i) :=
    Tiles.single _ rfl rfl
  refine Tiles.uniform _ (fun x _ => hone x) ?_
  rintro x - t rfl
  rfl

theorem slice_tiles (a : Aspect) (layer level sample z : Nat) :
    Tiles (i.slicePitch (i.planeTexel a) level)
      (fun t => ∃ y < (i.levelExtent level).height, ∃ x < (i.levelExtent level).width,
        t = ⟨a, layer, level, sample, ⟨x, y, z⟩⟩)
      (inSlice i) (texel i) := by
  refine Tiles.uniform _ (fun y _ => i.row_tiles a layer level sample z y) ?_
  rintro y - t ⟨x, -, rfl⟩
  rfl

theorem sample_tiles (a : Aspect) (layer level sample : Nat) :
    Tiles (i.samplePitch (i.planeTexel a) level)
      (fun t => ∃ z < (i.levelExtent level).depth, ∃ y < (i.levelExtent level).height,
        ∃ x < (i.levelExtent level).width, t = ⟨a, layer, level, sample, ⟨x, y, z⟩⟩)
      (inSample i) (texel i) := by
  refine Tiles.uniform _ (fun z _ => i.slice_tiles a layer level sample z) ?_
  rintro z - t ⟨y, -, x, -, rfl⟩
  rfl

theorem level_tiles (a : Aspect) (layer level : Nat) :
    Tiles (i.levelSize (i.planeTexel a) level)
      (fun t => ∃ sample < i.samples.count, ∃ z < (i.levelExtent level).depth,
        ∃ y < (i.levelExtent level).height, ∃ x < (i.levelExtent level).width,
          t = ⟨a, layer, level, sample, ⟨x, y, z⟩⟩)
      (inLevel i) (texel i) := by
  refine Tiles.uniform _ (fun sample _ => i.sample_tiles a layer level sample) ?_
  rintro sample - t ⟨z, -, y, -, x, -, rfl⟩
  rfl

/-- Levels shrink, so their offsets are sums of different sizes. -/
theorem layer_tiles (a : Aspect) (layer : Nat) :
    Tiles (i.layerPitch (i.planeTexel a))
      (fun t => ∃ level < i.mipLevels, ∃ sample < i.samples.count,
        ∃ z < (i.levelExtent level).depth, ∃ y < (i.levelExtent level).height,
          ∃ x < (i.levelExtent level).width, t = ⟨a, layer, level, sample, ⟨x, y, z⟩⟩)
      (inLayer i) (texel i) := by
  refine Tiles.range _ (fun level _ => i.level_tiles a layer level) ?_
  rintro level - t ⟨sample, -, z, -, y, -, x, -, rfl⟩
  rfl

theorem plane_tiles (a : Aspect) :
    Tiles (i.planeSize (i.planeTexel a))
      (fun t => ∃ layer < i.arrayLayers, ∃ level < i.mipLevels, ∃ sample < i.samples.count,
        ∃ z < (i.levelExtent level).depth, ∃ y < (i.levelExtent level).height,
          ∃ x < (i.levelExtent level).width, t = ⟨a, layer, level, sample, ⟨x, y, z⟩⟩)
      (inPlane i) (texel i) := by
  refine Tiles.uniform _ (fun layer _ => i.layer_tiles a layer) ?_
  rintro layer - t ⟨level, -, sample, -, z, -, y, -, x, -, rfl⟩
  rfl

/-- The samples of all texels tile the memory of an image. -/
theorem memory_tiles : Tiles i.size (·.In i) (inMemory i) (texel i) := by
  have hstart : ∀ a ∈ i.format.aspects.toList, ∀ t : TexelPlace,
      (∃ layer < i.arrayLayers, ∃ level < i.mipLevels, ∃ sample < i.samples.count,
        ∃ z < (i.levelExtent level).depth, ∃ y < (i.levelExtent level).height,
          ∃ x < (i.levelExtent level).width, t = ⟨a, layer, level, sample, ⟨x, y, z⟩⟩) →
      t.inMemory i = i.planeOffset a + t.inPlane i := by
    rintro a - t ⟨layer, -, level, -, sample, -, z, -, y, -, x, -, rfl⟩
    rfl
  have h := Tiles.list _ (AspectSet.nodup_toList _) (fun a _ => i.plane_tiles a) hstart
  refine h.congr ?_ (fun _ _ => rfl)
  rintro ⟨a, layer, level, sample, ⟨x, y, z⟩⟩
  constructor
  · rintro ⟨ha, hk, hl, hs, hx, hy, hz⟩
    exact ⟨a, ha, layer, hk, level, hl, sample, hs, z, hz, y, hy, x, hx, rfl⟩
  · rintro ⟨_, ha, _, hk, _, hl, _, hs, _, hz, _, hy, _, hx, heq⟩
    cases heq
    exact ⟨ha, hk, hl, hs, hx, hy, hz⟩

end ImageInfo

/-- Different places of an image are at different offsets. -/
theorem TexelPlace.offset_injective {i : ImageInfo} (hv : i.Valid) {t u : TexelPlace}
    (ht : t.In i) (hu : u.In i) (h : t.offset i = u.offset i) : t = u := by
  rw [offset_eq hv ht, offset_eq hv hu, Except.ok.injEq] at h
  by_contra hne
  have hpos := pos_of_mem_texelSizes (ImageInfo.planeTexel_mem ht.aspect)
  have hpos' := pos_of_mem_texelSizes (ImageInfo.planeTexel_mem hu.aspect)
  have hdisjoint := i.memory_tiles.pairwiseDisjoint ht hu hne
  have hmem : u.inMemory i ∈ Set.Ico (t.inMemory i) (t.inMemory i + t.texel i) :=
    ⟨h.le, h ▸ Nat.lt_add_of_pos_right hpos⟩
  exact Set.disjoint_left.mp hdisjoint hmem ⟨Nat.le_refl _, Nat.lt_add_of_pos_right hpos'⟩

/-- **The texels of a created image tile its memory.**  Every sample of every texel has an offset
and a size of at least a byte, the byte ranges of different ones are disjoint, and together they are
all bytes of the memory. -/
theorem texels_tile_memory {device block : Nat} {info : ImageInfo} {image : Image}
    {memory : Memory} (h : Image.create device block info = .ok (image, memory)) :
    (∀ t : TexelPlace, t.In image.info →
      ∃ o n, t.offset image.info = .ok o ∧ image.info.texelSize t.aspect = .ok n ∧ 0 < n) ∧
    {t : TexelPlace | t.In image.info}.PairwiseDisjoint (·.bytes image.info) ∧
    ⋃ t ∈ {t : TexelPlace | t.In image.info}, t.bytes image.info = Set.Iio memory.size := by
  obtain ⟨hv, -, rfl, rfl⟩ := Image.create_eq_ok.mp h
  have htiles := info.memory_tiles
  refine ⟨?_, ?_, ?_⟩
  · intro t ht
    exact ⟨_, _, TexelPlace.offset_eq hv ht, ImageInfo.texelSize_eq ht.aspect,
      pos_of_mem_texelSizes (ImageInfo.planeTexel_mem ht.aspect)⟩
  · intro t ht u hu htu
    have hdisj := htiles.pairwiseDisjoint ht hu htu
    simpa only [Function.onFun, TexelPlace.bytes_eq hv ht, TexelPlace.bytes_eq hv hu] using hdisj
  · refine (Set.iUnion₂_congr ?_).trans htiles.iUnion_eq
    intro t ht
    exact TexelPlace.bytes_eq hv ht

/-- An image with a depth and a stencil plane of two layers, the second level smaller by a factor
that does not divide its sides. -/
theorem texels_tile_depth_stencil_memory :
    ∃ image memory, Image.create 0 0 {
        format := .d32SfloatS8Uint, extent := ⟨3, 2, 1⟩, mipLevels := 2, arrayLayers := 2 } =
          .ok (image, memory) ∧ memory.size = 70 ∧
      {t : TexelPlace | t.In image.info}.PairwiseDisjoint (·.bytes image.info) ∧
      ⋃ t ∈ {t : TexelPlace | t.In image.info}, t.bytes image.info = Set.Iio memory.size := by
  have h : Image.create 0 0 {
      format := .d32SfloatS8Uint, extent := ⟨3, 2, 1⟩, mipLevels := 2, arrayLayers := 2 } =
        .ok (_, _) := rfl
  exact ⟨_, _, h, rfl, (texels_tile_memory h).2⟩

end HostGpu
