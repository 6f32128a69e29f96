import HostGpu.Proofs.Texel.ExactOffset

/-!
# Texels that fragments read

A fragment reads subpass data at coordinates that are counted from its position, and the view that
it is rendered for selects a layer.  Column, row and sample are tested against the view, in words
(`StorageView.Valid.isOutside_eq_false`), but the layer is not: a lane whose column, row and sample
are those of a texel has an offset, whatever its layer is.  For a layer of the view this is the
distance from the first texel of the plane of the aspect that is read
(`TexelCoordinates.IsFragment.signed_resolved`).
-/

namespace HostGpu

open StorageView Execution

/-! ## Planes of aspects -/

theorem Format.color_of_depth {f : Format} (h : f.aspects.depth = true) :
    f.aspects.color = false := by
  revert h
  cases f <;> decide

namespace ImageView

/-- The geometry of the plane of an aspect, as a record states it. -/
def planeGrid (v : ImageView) (a : Aspect) : Grid where
  width := (v.levelExtent 0).width
  height := (v.levelExtent 0).height
  depth := if v.kind.isCube then v.layerCount / 6 else max (v.levelExtent 0).depth v.layerCount
  rowPitch := v.rowPitch a 0
  slicePitch := StorageRecord.sliceBytes v a
  samplePitch := v.samplePitch a 0
  sampleCount := v.samples.count

/-- The plane of an aspect, from the first texel of the view on. -/
def plane (v : ImageView) (a : Aspect) : StoragePlane where
  pointer := some ⟨v.image.block, v.offset a 0 0⟩
  size := wordOf (v.sizeInBytes a)
  layout := (v.planeGrid a).layout

/-- The plane that is read is in the record of the view: that of the first aspect always is, that of
stencil only beside depth. -/
def Records (v : ImageView) (stencil : Bool) : Prop :=
  stencil = true → v.primaryAspect = .depth ∧ v.format.aspects.stencil = true

variable {v : ImageView} {stencil : Bool}

theorem ofRecord_record (h : v.Records stencil) :
    StoragePlane.ofRecord (StorageView.image v).record stencil =
      v.plane (usedAspect v stencil) := by
  cases stencil with
  | false => exact StorageView.ofRecord_record (StorageView.image v)
  | true =>
    simp only [record, StorageRecord.ofView, if_pos (h rfl)]
    rfl

/-- The aspect whose plane is read is one of the image. -/
theorem Valid.usedAspect_mem (hv : v.Valid) (h : v.Records stencil) :
    usedAspect v stencil ∈ v.image.info.format.aspects.toList := by
  cases stencil with
  | false => exact hv.primaryAspect_mem
  | true =>
    rw [AspectSet.mem_toList, ← hv.formatAspects]
    simp [usedAspect, AspectSet.contains, AspectSet.single, (h rfl).2]

/-- The texels of that plane: a stencil beside depth has one byte. -/
theorem Valid.planeTexel_eq (hv : v.Valid) (h : v.Records stencil) :
    (StorageView.image v).planeTexel stencil = v.texelSize (usedAspect v stencil) := by
  cases stencil with
  | false => exact hv.primaryFormat_blockSize
  | true =>
    have hdepth : v.image.info.format.aspects.depth = true := by
      have hmem := hv.primaryAspect_mem
      rw [(h rfl).1, AspectSet.mem_toList] at hmem
      simpa [AspectSet.contains, AspectSet.single] using hmem
    have hstencil : v.image.info.format.aspects.stencil = true := hv.formatAspects ▸ (h rfl).2
    obtain ⟨f, hf, hsize⟩ := ImageInfo.exists_plane (hv.usedAspect_mem h)
    have hblock := Format.plane?_blockSize v.image.info.format .stencil
    change v.image.info.format.plane? .stencil = some f at hf
    rw [hf, if_pos (by simp [AspectSet.contains, AspectSet.single, hstencil])] at hblock
    simp only [Option.map_some, hdepth, hstencil, Bool.and_self, if_true, reduceCtorEq, if_false,
      Option.some.injEq] at hblock
    show 1 = v.image.info.planeTexel (usedAspect v true)
    rw [hsize, hblock]

/-- The extent and the number of samples in a record do not depend on the plane. -/
theorem isOutside_ofRecord (p : TexelPosition) (v : ImageView) (stencil : Bool) :
    p.isOutside (StoragePlane.ofRecord (StorageView.image v).record stencil).layout =
      p.isOutside (StorageView.image v).grid.layout := by
  rw [record, StorageRecord.ofView]
  split <;> rfl

theorem depth_ofRecord (v : ImageView) (stencil : Bool) :
    (StoragePlane.ofRecord (StorageView.image v).record stencil).layout.depth =
      wordOf (StorageView.image v).grid.depth := by
  rw [record, StorageRecord.ofView]
  split <;> rfl

end ImageView

/-! ## Texels of positions -/

/-- The texel of the first layer that a position names, in words. -/
def TexelPosition.texel (p : TexelPosition) : TexelIndex where
  x := Word.signed p.u
  y := if 1 < p.dimensions then Word.signed p.v else 0
  z := 0
  layer := 0
  sample := p.sample.elim 0 Word.signed

/-- The texel of the first layer that the coordinates of a lane name, in integers. -/
def TexelCoordinates.exactTexel (c : TexelCoordinates) (l : Lane) : TexelIndex where
  x := c.exactColumn l
  y := if 1 < c.dimensions then c.exactRow l else 0
  z := 0
  layer := 0
  sample := c.exactSample l

/-- The texel at the same place in another slice or layer of a view. -/
def TexelIndex.inSlice (t : TexelIndex) (v : ImageView) (n : Nat) : TexelIndex :=
  if 2 < v.kind.dimensions then { t with z := n } else { t with layer := n }

namespace TexelCoordinates

variable (c : TexelCoordinates) (l : Lane)

theorem signed_position_u : Word.signed (c.position l).u = (c.exactColumn l).bmod (2 ^ 32) := by
  rw [← ofInt_exactColumn, Word.signed_ofInt]

theorem signed_position_v : Word.signed (c.position l).v = (c.exactRow l).bmod (2 ^ 32) := by
  rw [← ofInt_exactRow, Word.signed_ofInt]

theorem sample_texel_position : (c.position l).texel.sample = c.exactSample l := by
  show (c.sample.map (·.get l)).elim 0 Word.signed = c.exactSample l
  cases hs : c.sample <;> simp [exactSample, hs]

variable {c l}

/-- The sum of a coordinate and a position is below what a word can be read as without sign. -/
theorem signed_add_elim_lt (w : UInt32) (p : Option SubpassPosition)
    (axis : SubpassPosition → UInt32) :
    Word.signed w + p.elim 0 (fun s => Word.signed (axis s)) < 2 ^ 32 := by
  have hcoordinate := (Word.signed_bounds w).2
  cases p with
  | none =>
    rw [Option.elim_none]
    omega
  | some s =>
    have hposition := (Word.signed_bounds (axis s)).2
    rw [Option.elim_some]
    omega

/-- A texel of a view that coordinates name in integers is the one that they name in words. -/
theorem texel_position_eq {v : StorageView} (hv : v.Valid) (hin : (c.exactTexel l).In v) :
    (c.position l).texel = c.exactTexel l := by
  have hmax : maxBytes = 2 ^ 30 := rfl
  obtain ⟨hwidth, hheight, -⟩ := hv.extent_le
  have hx := hin.x
  have hy := hin.y
  have hdimensions : (c.position l).dimensions = c.dimensions := rfl
  have hsample : (c.position l).sample.elim 0 Word.signed = c.exactSample l :=
    c.sample_texel_position l
  simp only [exactTexel] at hx hy
  simp only [TexelPosition.texel, exactTexel, hdimensions, signed_position_u, signed_position_v,
    hsample, TexelIndex.mk.injEq, and_true]
  refine ⟨Word.bmod_eq_self (by omega) (by omega), ?_⟩
  split
  · rename_i hplanar
    rw [if_pos hplanar] at hy
    exact Word.bmod_eq_self (by omega) (by omega)
  · rfl

/-- Sums that are not below all words name the same texel of a view in words as in integers. -/
theorem texel_position_in {v : StorageView} (hv : v.Valid) (hcolumn : -2 ^ 31 ≤ c.exactColumn l)
    (hrow : -2 ^ 31 ≤ c.exactRow l) : (c.position l).texel.In v ↔ (c.exactTexel l).In v := by
  have hmax : maxBytes = 2 ^ 30 := rfl
  obtain ⟨hwidth, hheight, -⟩ := hv.extent_le
  have hx := Word.bmod_mem_range (n := v.extent.width) (by omega) hcolumn
    (signed_add_elim_lt ..)
  have hy := Word.bmod_mem_range (n := v.extent.height) (by omega) hrow
    (signed_add_elim_lt ..)
  have hsample : (c.position l).texel.sample = (c.exactTexel l).sample := c.sample_texel_position l
  rw [← signed_position_u] at hx
  rw [← signed_position_v] at hy
  have hdimensions : (c.position l).dimensions = c.dimensions := rfl
  have hrows : (0 ≤ (c.position l).texel.y ∧ (c.position l).texel.y < v.extent.height) ↔
      0 ≤ (c.exactTexel l).y ∧ (c.exactTexel l).y < v.extent.height := by
    simp only [TexelPosition.texel, exactTexel, hdimensions]
    split
    · exact hy
    · exact Iff.rfl
  constructor
  · intro h
    have hs := h.sample
    rw [hsample] at hs
    exact ⟨hx.mp h.x, hrows.mp h.y, h.z, h.layer, hs⟩
  · intro h
    have hs := h.sample
    rw [← hsample] at hs
    exact ⟨hx.mpr h.x, hrows.mpr h.y, h.z, h.layer, hs⟩

end TexelCoordinates

namespace StorageView.Valid

variable {v : StorageView} (hv : v.Valid) {p : TexelPosition}
include hv

/-- The row of a position is tested if there is one. -/
theorem row_in_iff : (1 < p.dimensions → decide (wordOf v.extent.height ≤ p.v) = false) ↔
    0 ≤ p.texel.y ∧ p.texel.y < v.extent.height := by
  have hpos := hv.extent_pos
  rw [wordOf_le_eq_false hv.extent_le.2.1, TexelPosition.texel]
  split
  · rename_i hplanar
    exact forall_prop_of_true hplanar
  · rename_i hline
    exact iff_of_true (fun h => absurd h hline) ⟨le_refl _, Int.ofNat_lt.mpr hpos.2.1⟩

/-- The sample of a position is tested if there is one. -/
theorem sample_in_iff : p.sample.elim false (wordOf v.sampleCount ≤ ·) = false ↔
    0 ≤ p.texel.sample ∧ p.texel.sample < v.sampleCount := by
  cases hs : p.sample with
  | none => simpa [TexelPosition.texel, hs] using v.sampleCount_pos
  | some n =>
    simp only [TexelPosition.texel, hs, Option.elim_some]
    exact wordOf_le_eq_false hv.sampleCount_le n

/-- What passes the tests is a texel of the view; positions without depth and layers of their own
are tested for nothing else. -/
theorem isOutside_eq_false : p.isOutside v.grid.layout = false ↔ p.texel.In v ∧
    (p.sliced = true → decide (p.sliceCount v.grid.layout ≤ p.w) = false) := by
  have hpos := hv.extent_pos
  have hlayers := hv.layerCount_pos
  have hwidth := wordOf_le_eq_false hv.extent_le.1 p.u
  have hrow := hv.row_in_iff (p := p)
  have hsample := hv.sample_in_iff (p := p)
  have hcount : v.grid.layout.width = wordOf v.extent.width ∧
      v.grid.layout.height = wordOf v.extent.height ∧
      v.grid.layout.sampleCount = wordOf v.sampleCount := by
    simp only [Grid.layout, grid_width, grid_height, grid_sampleCount, and_self]
  simp only [TexelPosition.isOutside, hcount, Bool.or_eq_false_iff, Bool.and_eq_false_imp,
    decide_eq_true_eq]
  constructor
  · rintro ⟨⟨⟨hu, hy⟩, hw⟩, hs⟩
    have hz : 0 ≤ p.texel.z ∧ p.texel.z < v.extent.depth := ⟨le_refl _, Int.ofNat_lt.mpr hpos.2.2⟩
    have hlayer : 0 ≤ p.texel.layer ∧ p.texel.layer < v.layerCount :=
      ⟨le_refl _, Int.ofNat_lt.mpr hlayers⟩
    exact ⟨⟨hwidth.mp hu, hrow.mp hy, hz, hlayer, hsample.mp hs⟩, hw⟩
  · rintro ⟨ht, hw⟩
    exact ⟨⟨⟨hwidth.mpr ht.x, hrow.mpr ht.y⟩, hw⟩, hsample.mpr ht.sample⟩

end StorageView.Valid

namespace ImageView.Valid

variable {v : ImageView} (hv : v.Valid)
include hv

/-- A view of depth, with stencil or without, is one of an image that has depth. -/
theorem depth_of_aspects (hdepth : v.aspects.depth = true) :
    v.image.info.format.aspects.depth = true := by
  have hmem : Aspect.depth ∈ v.aspects.toList := by
    rw [AspectSet.mem_toList]
    simpa [AspectSet.contains, AspectSet.single] using hdepth
  have hformat := hv.aspect_mem hmem
  rw [AspectSet.mem_toList] at hformat
  simpa [AspectSet.contains, AspectSet.single] using hformat

/-- Depth is the first aspect of such a view, since no image has depth and colour. -/
theorem primaryAspect_eq_depth (hdepth : v.aspects.depth = true) : v.primaryAspect = .depth := by
  have hcolor := Format.color_of_depth (hv.depth_of_aspects hdepth)
  have hcontained := hv.contained
  rw [ImageView.primaryAspect]
  revert hdepth hcolor hcontained
  generalize v.image.info.format.aspects = s
  generalize v.aspects = t
  revert s t
  rintro ⟨_ | _, _ | _, _ | _⟩ ⟨_ | _, _ | _, _ | _⟩ <;> decide

theorem depth_pos : 0 < (StorageView.image v).grid.depth := by
  have hlayers := hv.layerCount_pos
  simp only [grid]
  split
  · rename_i hcube
    have hsix := Nat.le_of_dvd hlayers (hv.six_dvd_layerCount hcube)
    exact Nat.div_pos hsix (by decide)
  · omega

/-- The depth in a record is not cut. -/
theorem depth_lt : (StorageView.image v).grid.depth < 2 ^ 32 := by
  have hmax : maxBytes = 2 ^ 30 := rfl
  have hdepth := (StorageView.Valid.extent_le (v := .image v) hv).2.2
  have hlayers := StorageView.Valid.layerCount_le (v := .image v) hv
  have hcubes := Nat.div_le_self v.layerCount 6
  simp only [extent, StorageView.layerCount] at hdepth hlayers
  simp only [grid]
  split <;> omega

/-- A slice or layer below the depth in the record is one of the view. -/
theorem inSlice_in {t : TexelIndex} (ht : t.In (.image v)) {n : Nat}
    (hn : n < (StorageView.image v).grid.depth) : (t.inSlice v n).In (.image v) := by
  have hslices := hv.max_depth_layerCount
  have hcubes := Nat.div_le_self v.layerCount 6
  have hpos : (0 : Int) ≤ n := Int.natCast_nonneg n
  simp only [grid] at hn
  rw [TexelIndex.inSlice]
  by_cases hvolume : 2 < v.kind.dimensions
  · have hflat : v.kind.isCube = false := by
      revert hvolume
      cases v.kind <;> decide
    rw [if_pos hvolume] at hslices ⊢
    rw [if_neg (by simp [hflat]), hslices] at hn
    exact ⟨ht.x, ht.y, ⟨hpos, Int.ofNat_lt.mpr hn⟩, ht.layer, ht.sample⟩
  · rw [if_neg hvolume] at hslices ⊢
    have hlt : n < v.layerCount := by
      split at hn <;> omega
    exact ⟨ht.x, ht.y, ht.z, ⟨hpos, Int.ofNat_lt.mpr hlt⟩, ht.sample⟩

end ImageView.Valid

/-! ## Coordinates of fragments -/

namespace TexelCoordinates

/-- Two coordinates of fragments that are rendered for the view of a subpass, with no layer of their
own. -/
structure IsFragment (c : TexelCoordinates) (view : UInt32) : Prop where
  count : c.components.length = 2
  arrayed : c.arrayed = false
  subpass : c.subpass.map (·.view) = some view

namespace IsFragment

variable {c : TexelCoordinates} {view : UInt32} (h : c.IsFragment view) {v : ImageView} {l : Lane}
include h

theorem dimensions_eq : c.dimensions = 2 := by
  rw [dimensions, h.count, h.arrayed]
  rfl

theorem sliced_eq : (c.position l).sliced = false := by
  simp [position, h.dimensions_eq, h.arrayed]

/-- The sum over the coordinates of a texel of the view is its distance. -/
theorem total_eq (a : Aspect) (hin : (c.position l).texel.In (.image v)) :
    (c.position l).total (v.planeGrid a) (v.texelSize a) =
      v.distance a ((c.position l).texel.inSlice v view.toNat) := by
  have hplanar : 1 < (c.position l).dimensions := by
    show 1 < c.dimensions
    rw [h.dimensions_eq]
    exact Nat.one_lt_two
  have hview : (c.position l).view = some view := h.subpass
  have hx := Word.toNat_signed hin.x.1
  have hy : (c.position l).texel.y.toNat = (c.position l).v.toNat := by
    have hrow := hin.y.1
    simp only [TexelPosition.texel, if_pos hplanar] at hrow ⊢
    exact Word.toNat_signed hrow
  have hsample : (c.position l).sample.elim 0 (·.toNat * v.samplePitch a 0) =
      (c.position l).texel.sample.toNat * v.samplePitch a 0 := by
    have hs := hin.sample.1
    cases hsome : (c.position l).sample with
    | none => simp [TexelPosition.texel, hsome]
    | some n =>
      simp only [TexelPosition.texel, hsome, Option.elim_some] at hs
      simp [TexelPosition.texel, hsome, Word.toNat_signed hs]
  have hslice : ((c.position l).texel.inSlice v view.toNat).z.toNat +
      ((c.position l).texel.inSlice v view.toNat).layer.toNat = view.toNat := by
    rw [TexelIndex.inSlice]
    split <;> simp [TexelPosition.texel]
  have hplace : ((c.position l).texel.inSlice v view.toNat).x = (c.position l).texel.x ∧
      ((c.position l).texel.inSlice v view.toNat).y = (c.position l).texel.y ∧
      ((c.position l).texel.inSlice v view.toNat).sample = (c.position l).texel.sample := by
    rw [TexelIndex.inSlice]
    split <;> exact ⟨rfl, rfl, rfl⟩
  rw [ImageView.distance, hslice, hplace.1, hplace.2.1, hplace.2.2, hy, ← hsample]
  rw [TexelPosition.total, if_pos hplanar, h.sliced_eq, hview, Option.elim_some]
  simp only [ImageView.planeGrid, Bool.false_eq_true, if_false, Nat.add_zero]
  rw [← hx]
  rfl

/-- **A fragment finds its texel**: if column, row and sample are those of a texel and the view is a
layer, the offset is the distance of that texel in that layer, under every rule. -/
theorem signed_resolved (hv : v.Valid) {a : Aspect} (ha : a ∈ v.image.info.format.aspects.toList)
    (hin : (c.position l).texel.In (.image v))
    (hview : view.toNat < (StorageView.image v).grid.depth)
    (rule : BoundsRule) :
    Word.signed ((c.resolved (v.plane a).layout (v.texelSize a) rule).get l) =
      v.distance a ((c.position l).texel.inSlice v view.toNat) := by
  have hmax : Memory.maxSize = 2 ^ 30 := rfl
  have hsize := hv.size
  have hend := hv.distance_add_texelSize_le ha (hv.inSlice_in hin hview)
  have hbytes := hv.sizeInBytes_le ha
  have hinside : (c.position l).isOutside (v.planeGrid a).layout = false := by
    show (c.position l).isOutside (StorageView.image v).grid.layout = false
    rw [StorageView.Valid.isOutside_eq_false (v := .image v) hv, h.sliced_eq]
    exact ⟨hin, fun hfalse => by cases hfalse⟩
  rw [resolved, Lanes.get_ofFn, TexelPosition.resolve, if_neg]
  · rw [ImageView.plane, TexelPosition.offset_layout, h.total_eq a hin, wordOf,
      Word.signed_ofNat (by omega)]
  · rintro ⟨-, houtside⟩
    rw [ImageView.plane, hinside] at houtside
    cases houtside

end IsFragment

end TexelCoordinates

/-! ## Texels of planes of aspects -/

/-- A texel of a view lies in the plane of an aspect, where the image says that it is. -/
theorem ImageView.Valid.covers_plane {v : ImageView} (hv : v.Valid) {a : Aspect}
    (ha : a ∈ v.image.info.format.aspects.toList) {t : TexelIndex} (ht : t.In (.image v)) :
    ∃ o, (placeIn v a t).offset v.image.info = .ok o ∧
      v.offset a 0 0 + v.distance a t = o ∧
      (v.plane a).Holds (v.texelSize a) (v.distance a t) ∧
      ∀ block j, (v.plane a).Covers (v.texelSize a) (v.distance a t) block j ↔
        block = v.image.block ∧ o ≤ j ∧ j < o + v.texelSize a := by
  have hmax : Memory.maxSize = 2 ^ 30 := rfl
  have hsize := hv.size
  have hend := hv.distance_add_texelSize_le ha ht
  have hbytes := hv.sizeInBytes_le ha
  have hholds : (v.plane a).Holds (v.texelSize a) (v.distance a t) := by
    refine ⟨Int.natCast_nonneg _, ?_⟩
    rw [plane, wordOf, Word.signed_ofNat (by omega)]
    exact_mod_cast hend
  refine ⟨_, hv.offset_placeIn ha ht, rfl, hholds, fun block j => ?_⟩
  constructor
  · rintro ⟨-, first, hfirst, hle, hlt⟩
    obtain ⟨rfl, rfl⟩ := Pointer.mk.inj (Option.some.inj hfirst)
    exact ⟨rfl, by omega, by omega⟩
  · rintro ⟨rfl, hle, hlt⟩
    exact ⟨hholds, _, rfl, by omega, by omega⟩

end HostGpu
