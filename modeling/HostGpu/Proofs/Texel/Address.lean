import HostGpu.Proofs.Texel.StorageView

/-!
# Addresses of texels

The offset of a texel is a wrapping sum over the pitches in a storage record.  Whatever the
coordinates are it is a multiple of the size of a texel (`TexelPosition.dvd_offset`).  For
coordinates in the bounds of the view nothing wraps, and the sum is the distance from the first
texel of the view to the place that the image itself computes; all other lanes get an offset that no
access is in bounds at: `offsets_locate_texels`.
-/

namespace HostGpu

open StorageView

/-! ## Wrapped sums -/

namespace TexelPosition

variable (p : TexelPosition) (g : Grid) (texel : Nat)

/-- The sum of the coordinates times their pitches, not wrapped. -/
def total : Nat :=
  p.u.toNat * texel + (if 1 < p.dimensions then p.v.toNat * g.rowPitch else 0) +
    (if p.sliced then p.w.toNat * g.slicePitch else 0) +
    p.view.elim 0 (·.toNat * g.slicePitch) + p.sample.elim 0 (·.toNat * g.samplePitch)

/-- The offset is the word of the sum. -/
theorem offset_layout : p.offset g.layout (wordOf texel) = wordOf (p.total g texel) := by
  have hmul (w : UInt32) (n : Nat) : w * wordOf n = wordOf (w.toNat * n) := by
    rw [wordOf, wordOf, UInt32.ofNat_mul, UInt32.ofNat_toNat]
  have hite (c : Prop) [Decidable c] (w : UInt32) (n : Nat) :
      (if c then w * wordOf n else 0) = wordOf (if c then w.toNat * n else 0) := by
    split
    · exact hmul w n
    · rfl
  have helim (o : Option UInt32) (n : Nat) :
      o.elim 0 (· * wordOf n) = wordOf (o.elim 0 (·.toNat * n)) := by
    cases o with
    | none => rfl
    | some w => exact hmul w n
  simp only [offset, Grid.layout, total, UInt32.ofNat_add]
  rw [hmul, hite, hite, helim, helim]

variable {g texel}

theorem dvd_total (h : g.Multiple texel) : texel ∣ p.total g texel := by
  have hite {c : Prop} [Decidable c] {m : Nat} (hm : texel ∣ m) : texel ∣ if c then m else 0 := by
    split
    · exact hm
    · exact Nat.dvd_zero _
  have helim (o : Option UInt32) {n : Nat} (hn : texel ∣ n) :
      texel ∣ o.elim 0 (·.toNat * n) := by
    cases o with
    | none => exact Nat.dvd_zero _
    | some w => exact hn.mul_left _
  refine Nat.dvd_add (Nat.dvd_add (Nat.dvd_add (Nat.dvd_add ?_ ?_) ?_) ?_) ?_
  · exact Nat.dvd_mul_left _ _
  · exact hite (h.rowPitch.mul_left _)
  · exact hite (h.slicePitch.mul_left _)
  · exact helim _ h.slicePitch
  · exact helim _ h.samplePitch

/-- Texel sizes divide the number of words, so that wrapping does not move an offset off the grid
of texels. -/
theorem dvd_offset (h : g.Multiple texel) (ht : texel ∈ texelSizes) :
    (texel : Int) ∣ Word.signed (p.offset g.layout (wordOf texel)) := by
  have hword := dvd_of_mem_texelSizes ht
  rw [offset_layout]
  exact Word.dvd_signed hword ((Word.dvd_toNat_ofNat hword).mpr (p.dvd_total h))

end TexelPosition

/-! ## Coordinates and views -/

namespace TexelCoordinates

/-- The image type that the coordinates are for matches a kind of view. -/
structure Matches (c : TexelCoordinates) (kind : ViewKind) : Prop where
  arrayed : c.arrayed = kind.isArrayed
  cube : c.cube = kind.isCube
  count : c.components.length = kind.coordinateCount
  subpass : c.subpass = none

/-- The texel that the coordinates of a lane name, read as signed numbers. -/
def texel (c : TexelCoordinates) (kind : ViewKind) (l : Lane) : TexelIndex where
  x := Word.signed (c.component l 0)
  y := if 1 < kind.dimensions then Word.signed (c.component l 1) else 0
  z := if 2 < kind.dimensions then Word.signed (c.component l 2) else 0
  layer := if kind.isLayered then Word.signed (c.component l kind.dimensions) else 0
  sample := c.sample.elim 0 fun s => Word.signed (s.get l)

namespace Matches

variable {c : TexelCoordinates} {kind : ViewKind} (h : c.Matches kind) (l : Lane)
include h

theorem isEmpty_eq_false : c.components.isEmpty = false := by
  have hcount := h.count
  rw [List.isEmpty_eq_false_iff_exists_mem]
  refine List.exists_mem_of_length_pos ?_
  rw [hcount]
  cases kind <;> decide

theorem one_lt_dimensions : 1 < c.dimensions ↔ 1 < kind.dimensions := by
  rw [dimensions, h.count, h.arrayed]
  cases kind <;> decide

/-- Depth and layers are not used together, and either is the last coordinate. -/
theorem position_eq : c.position l = {
    u := c.component l 0
    v := c.component l 1
    w := if 2 < kind.dimensions || kind.isLayered then
        c.component l (kind.coordinateCount - 1) else 0
    dimensions := c.dimensions
    sliced := 2 < kind.dimensions || kind.isLayered
    cube := kind.isCube
    sample := c.sample.map (·.get l)
    view := none } := by
  have hd : c.dimensions = kind.coordinateCount - if kind.isArrayed then 1 else 0 := by
    rw [dimensions, h.count, h.arrayed]
  simp only [position, h.subpass, h.cube, h.arrayed, hd, Option.elim_none, Option.map_none]
  cases kind <;>
    simp [ViewKind.coordinateCount, ViewKind.dimensions, ViewKind.isLayered, ViewKind.isArrayed,
      ViewKind.isCube]

end Matches

end TexelCoordinates

/-! ## Bounds -/

/-- The texel is one of the texels of a view. -/
structure TexelIndex.In (t : TexelIndex) (v : StorageView) : Prop where
  x : 0 ≤ t.x ∧ t.x < v.extent.width
  y : 0 ≤ t.y ∧ t.y < v.extent.height
  z : 0 ≤ t.z ∧ t.z < v.extent.depth
  layer : 0 ≤ t.layer ∧ t.layer < v.layerCount
  sample : 0 ≤ t.sample ∧ t.sample < v.sampleCount

/-- One test without sign checks both bounds of a signed number. -/
theorem wordOf_le_eq_false {n : Nat} (h : n ≤ maxBytes) (w : UInt32) :
    decide (wordOf n ≤ w) = false ↔ 0 ≤ Word.signed w ∧ Word.signed w < n := by
  have hmax : maxBytes = 2 ^ 30 := rfl
  rw [decide_eq_false_iff_not, Word.ofNat_le_iff (by omega), Nat.not_le,
    Word.signed_mem_range (by omega)]

namespace TexelCoordinates.Matches

variable {v : StorageView} {c : TexelCoordinates}

theorem rows_inside (hv : v.Valid) (h : c.Matches v.kind) (l : Lane) :
    (1 < c.dimensions → decide (wordOf v.extent.height ≤ c.component l 1) = false) ↔
      0 ≤ (c.texel v.kind l).y ∧ (c.texel v.kind l).y < v.extent.height := by
  have hpos := hv.extent_pos
  rw [h.one_lt_dimensions, wordOf_le_eq_false hv.extent_le.2.1]
  simp only [texel]
  split <;> omega

theorem samples_inside (hv : v.Valid) (l : Lane) :
    (c.sample.map (·.get l)).elim false (wordOf v.sampleCount ≤ ·) = false ↔
      0 ≤ (c.texel v.kind l).sample ∧ (c.texel v.kind l).sample < v.sampleCount := by
  cases hs : c.sample with
  | none => simpa [texel, hs] using v.sampleCount_pos
  | some s =>
    simp only [texel, hs, Option.map_some, Option.elim_some]
    exact wordOf_le_eq_false hv.sampleCount_le _

/-- The last coordinate is checked against the depth of a volume and else against the layers. -/
theorem slices_inside (hv : v.Valid) (h : c.Matches v.kind) (l : Lane) :
    ((c.position l).sliced = true → decide (wordOf v.slices ≤ (c.position l).w) = false) ↔
      (0 ≤ (c.texel v.kind l).z ∧ (c.texel v.kind l).z < v.extent.depth) ∧
        0 ≤ (c.texel v.kind l).layer ∧ (c.texel v.kind l).layer < v.layerCount := by
  have hpos := hv.extent_pos
  have hlayers := hv.layerCount_pos
  have hslices := wordOf_le_eq_false hv.slices_le (c.component l (v.kind.coordinateCount - 1))
  rw [h.position_eq]
  rcases v.kind.last_coordinate with ⟨hd, hk, hlast⟩ | ⟨hd, hk, hlast⟩ | ⟨hd, hk, hlast⟩
  · have hvolume : 2 < v.kind.dimensions := by omega
    have hdepth : v.slices = v.extent.depth := if_pos hvolume
    rw [hdepth, hlast] at hslices
    simp only [texel, hvolume, hk, decide_true, Bool.true_or, if_true, forall_const, hdepth,
      hlast, hslices, Bool.false_eq_true, if_false, Nat.add_one_sub_one]
    omega
  · have hflat : ¬ 2 < v.kind.dimensions := by omega
    have hcount : v.slices = v.layerCount := if_neg hflat
    rw [hcount, hlast, Nat.add_one_sub_one] at hslices
    simp only [texel, hflat, hk, decide_false, Bool.false_or, if_true, forall_const, hcount,
      hlast, hslices, if_false, Nat.add_one_sub_one]
    omega
  · have hflat : ¬ 2 < v.kind.dimensions := by omega
    simp only [texel, hflat, hk, decide_false, Bool.false_or, Bool.false_eq_true, if_false,
      false_implies, true_iff]
    omega

/-- Under the rule that checks coordinates exactly the texels of the view pass. -/
theorem isOutside_eq_false (hv : v.Valid) (h : c.Matches v.kind) (l : Lane) :
    (c.position l).isOutside v.grid.layout = false ↔ (c.texel v.kind l).In v := by
  have hcube : (c.position l).cube = v.kind.isCube := h.cube
  have hu : (c.position l).u = c.component l 0 := by rw [h.position_eq]
  have hv' : (c.position l).v = c.component l 1 := by rw [h.position_eq]
  have hwidth := wordOf_le_eq_false hv.extent_le.1 (c.component l 0)
  have hrows := h.rows_inside hv l
  have hslices := h.slices_inside hv l
  have hsamples := samples_inside (c := c) hv l
  simp only [TexelPosition.isOutside, hv.sliceCount_eq hcube, hu, hv']
  simp only [Grid.layout, grid_width, grid_height, grid_sampleCount, Bool.or_eq_false_iff,
    Bool.and_eq_false_imp, decide_eq_true_eq]
  constructor
  · rintro ⟨⟨⟨hx, hy⟩, hw⟩, hs⟩
    exact ⟨hwidth.mp hx, hrows.mp hy, (hslices.mp hw).1, (hslices.mp hw).2, hsamples.mp hs⟩
  · rintro ⟨hx, hy, hz, hlayer, hs⟩
    exact ⟨⟨⟨hwidth.mpr hx, hrows.mpr hy⟩, hslices.mpr ⟨hz, hlayer⟩⟩, hsamples.mpr hs⟩

end TexelCoordinates.Matches

/-! ## Distances from the first texel -/

/-- The place of a texel of a view in the plane of an aspect. -/
def StorageView.placeIn (v : ImageView) (a : Aspect) (t : TexelIndex) : TexelPlace :=
  { place v t with aspect := a }

/-- Bytes from the first texel of a view to a texel, in the plane of an aspect. -/
def ImageView.distance (v : ImageView) (a : Aspect) (t : TexelIndex) : Nat :=
  t.x.toNat * v.texelSize a + t.y.toNat * v.rowPitch a 0 +
    (t.z.toNat + t.layer.toNat) * StorageRecord.sliceBytes v a + t.sample.toNat * v.samplePitch a 0

namespace ImageView.Valid

variable {v : ImageView} {a : Aspect} {t : TexelIndex}

/-- A texel of the view is a texel of the image. -/
theorem placeIn_in (h : v.Valid) (ha : a ∈ v.image.info.format.aspects.toList)
    (ht : t.In (.image v)) : (placeIn v a t).In v.image.info where
  aspect := ha
  layer := h.layer_lt ((Int.toNat_lt ht.layer.1).mpr ht.layer.2)
  level := h.first_level_lt
  sample := (Int.toNat_lt ht.sample.1).mpr ht.sample.2
  width := (Int.toNat_lt ht.x.1).mpr ht.x.2
  height := (Int.toNat_lt ht.y.1).mpr ht.y.2
  depth := (Int.toNat_lt ht.z.1).mpr ht.z.2

/-- Only one of depth and layers is used, and the slice pitch is the pitch of that one. -/
theorem slice_distance (h : v.Valid) (a : Aspect) (ht : t.In (.image v)) :
    t.z.toNat * v.slicePitch a 0 + t.layer.toNat * v.layerPitch a =
      (t.z.toNat + t.layer.toNat) * StorageRecord.sliceBytes v a := by
  have hz := (Int.toNat_lt ht.z.1).mpr ht.z.2
  have hlayer := (Int.toNat_lt ht.layer.1).mpr ht.layer.2
  simp only [StorageView.extent, StorageView.layerCount] at hz hlayer
  by_cases hcount : 1 < v.layerCount
  · have hflat : v.kind.dimensions ≤ 2 := by
      by_contra hvolume
      have hk : v.kind.isLayered = false := by
        revert hvolume
        cases v.kind <;> decide
      have hone := h.layerCount_eq_one hk
      omega
    rw [h.depth_eq_one hflat] at hz
    have hzero : t.z.toNat = 0 := by omega
    rw [hzero, Nat.zero_mul, Nat.zero_add, Nat.zero_add, StorageRecord.sliceBytes, if_pos hcount]
  · have hzero : t.layer.toNat = 0 := by omega
    rw [hzero, Nat.zero_mul, Nat.add_zero, Nat.add_zero, StorageRecord.sliceBytes, if_neg hcount]

theorem inMemory_placeIn (h : v.Valid) (a : Aspect) (ht : t.In (.image v)) :
    (placeIn v a t).inMemory v.image.info = v.offset a 0 0 + v.distance a t := by
  have hslice := h.slice_distance a ht
  simp only [distance, ← hslice]
  simp only [TexelPlace.inMemory, TexelPlace.inPlane, TexelPlace.inLayer, TexelPlace.inLevel,
    TexelPlace.inSample, TexelPlace.inSlice, TexelPlace.inRow, TexelPlace.texel, placeIn, place,
    offset, rowPitch, slicePitch, samplePitch, layerPitch, texelSize, Nat.add_mul, Nat.add_zero]
  omega

/-- What the image computes for a texel is its distance from the first texel. -/
theorem offset_placeIn (h : v.Valid) (ha : a ∈ v.image.info.format.aspects.toList)
    (ht : t.In (.image v)) :
    (placeIn v a t).offset v.image.info = .ok (v.offset a 0 0 + v.distance a t) := by
  rw [TexelPlace.offset_eq h.image (h.placeIn_in ha ht), h.inMemory_placeIn a ht]

/-- A texel of the view ends before the end of its plane. -/
theorem distance_add_texelSize_le (h : v.Valid) (ha : a ∈ v.image.info.format.aspects.toList)
    (ht : t.In (.image v)) : v.distance a t + v.texelSize a ≤ v.sizeInBytes a := by
  have hplace := h.placeIn_in ha ht
  have hfits := (v.image.info.plane_tiles a).fits (placeIn v a t)
    ⟨_, hplace.layer, _, hplace.level, _, hplace.sample, _, hplace.depth, _, hplace.height, _,
      hplace.width, rfl⟩
  refine Nat.le_of_add_le_add_left (a := v.offset a 0 0) ?_
  rw [h.offset_add_sizeInBytes, ← Nat.add_assoc, ← h.inMemory_placeIn a ht]
  calc (placeIn v a t).inMemory v.image.info + v.texelSize a
    _ = v.image.info.planeOffset a +
        ((placeIn v a t).inPlane v.image.info + (placeIn v a t).texel v.image.info) :=
      Nat.add_assoc _ _ _
    _ ≤ _ := Nat.add_le_add_left hfits _

end ImageView.Valid

namespace StorageView

/-- Bytes from the first texel of a view to a texel. -/
def distance (v : StorageView) (t : TexelIndex) : Nat :=
  t.x.toNat * v.texelSize + t.y.toNat * v.grid.rowPitch +
    (t.z.toNat + t.layer.toNat) * v.grid.slicePitch + t.sample.toNat * v.grid.samplePitch

variable {v : StorageView} {t : TexelIndex}

theorem distance_image {v : ImageView} (h : v.Valid) (t : TexelIndex) :
    (image v).distance t = v.distance v.primaryAspect t := by
  simp only [distance, ImageView.distance, grid, texelSize, h.primaryFormat_blockSize]

/-- What the image or buffer computes for a texel is its distance from the first texel. -/
theorem offset_eq (h : v.Valid) (ht : t.In v) : v.offset t = .ok (v.start + v.distance t) := by
  cases v with
  | image v =>
    have hv : v.Valid := h
    rw [distance_image hv]
    exact hv.offset_placeIn hv.primaryAspect_mem ht
  | buffer v => simp [offset, start, distance, grid, texelSize]

theorem distance_add_le (h : v.Valid) (ht : t.In v) : v.distance t + v.texelSize ≤ v.bytes := by
  cases v with
  | image v =>
    have hv : v.Valid := h
    rw [distance_image hv, texelSize, hv.primaryFormat_blockSize]
    exact hv.distance_add_texelSize_le hv.primaryAspect_mem ht
  | buffer v =>
    have hv : v.Valid := h
    have hx : t.x.toNat + 1 ≤ v.elementCount := (Int.toNat_lt ht.x.1).mpr ht.x.2
    have hmul := Nat.mul_le_mul_right v.format.blockSize hx
    rw [hv.elementCount_mul, Nat.add_mul, Nat.one_mul] at hmul
    simpa [distance, grid, texelSize, bytes] using hmul

/-- Texels of a view are in different places of the image. -/
theorem place_injective {v : ImageView} {t u : TexelIndex} (ht : t.In (.image v))
    (hu : u.In (.image v)) (h : place v t = place v u) : t = u := by
  simp only [place, TexelPlace.mk.injEq, Extent.mk.injEq] at h
  have hx := ht.x.1
  have hy := ht.y.1
  have hz := ht.z.1
  have hlayer := ht.layer.1
  have hsample := ht.sample.1
  have hx' := hu.x.1
  have hy' := hu.y.1
  have hz' := hu.z.1
  have hlayer' := hu.layer.1
  have hsample' := hu.sample.1
  cases t
  cases u
  simp only [TexelIndex.mk.injEq] at *
  omega

/-- Different texels of a view start at different places. -/
theorem offset_injective {u : TexelIndex} (hv : v.Valid) (ht : t.In v)
    (hu : u.In v) (h : v.offset t = v.offset u) : t = u := by
  cases v with
  | image v =>
    have hvalid : v.Valid := hv
    have ha := hvalid.primaryAspect_mem
    have hin := hvalid.placeIn_in ha ht
    have hin' := hvalid.placeIn_in ha hu
    exact place_injective ht hu (TexelPlace.offset_injective hvalid.image hin hin' h)
  | buffer v =>
    have hpos := pos_of_mem_texelSizes (BufferView.Valid.blockSize_mem hv)
    have hx : t.x.toNat = u.x.toNat :=
      Nat.eq_of_mul_eq_mul_right hpos (Nat.add_left_cancel (Except.ok.inj h))
    obtain ⟨hx₁, hy, hz, hl, hs⟩ := ht
    obtain ⟨hx₁', hy', hz', hl', hs'⟩ := hu
    simp only [extent, layerCount, sampleCount] at hy hz hl hs hy' hz' hl' hs'
    cases t
    cases u
    simp only [TexelIndex.mk.injEq] at *
    omega

end StorageView

namespace TexelCoordinates.Matches

variable {v : StorageView} {c : TexelCoordinates}

/-- The last coordinate counts slices, whether it is a depth or a layer. -/
theorem slice_eq (h : c.Matches v.kind) (l : Lane) (hin : (c.texel v.kind l).In v) :
    (if (c.position l).sliced then (c.position l).w.toNat * v.grid.slicePitch else 0) =
      ((c.texel v.kind l).z.toNat + (c.texel v.kind l).layer.toNat) * v.grid.slicePitch := by
  have hz := hin.z.1
  have hlayer := hin.layer.1
  rw [h.position_eq]
  rcases v.kind.last_coordinate with ⟨hd, hk, hlast⟩ | ⟨hd, hk, hlast⟩ | ⟨hd, hk, hlast⟩
  · have hvolume : 2 < v.kind.dimensions := by omega
    simp only [texel, hvolume, if_true] at hz
    simp [texel, hvolume, hk, hlast, Word.toNat_signed hz]
  · have hflat : ¬ 2 < v.kind.dimensions := by omega
    simp only [texel, hk, if_true] at hlayer
    simp [texel, hflat, hk, hlast, Word.toNat_signed hlayer]
  · have hflat : ¬ 2 < v.kind.dimensions := by omega
    simp [texel, hflat, hk]

/-- The sum over the coordinates of a texel of the view is its distance. -/
theorem total_eq (h : c.Matches v.kind) (l : Lane) (hin : (c.texel v.kind l).In v) :
    (c.position l).total v.grid v.texelSize = v.distance (c.texel v.kind l) := by
  have hx : (c.texel v.kind l).x.toNat = (c.component l 0).toNat := Word.toNat_signed hin.x.1
  have hrow : (if 1 < c.dimensions then (c.component l 1).toNat * v.grid.rowPitch else 0) =
      (c.texel v.kind l).y.toNat * v.grid.rowPitch := by
    have hy := hin.y.1
    simp only [texel, h.one_lt_dimensions] at hy ⊢
    split
    · rename_i hplanar
      rw [if_pos hplanar] at hy
      rw [Word.toNat_signed hy]
    · rw [Int.toNat_zero, Nat.zero_mul]
  have hsample : (c.sample.map (·.get l)).elim 0 (·.toNat * v.grid.samplePitch) =
      (c.texel v.kind l).sample.toNat * v.grid.samplePitch := by
    have hs := hin.sample.1
    cases hsome : c.sample with
    | none => simp [texel, hsome]
    | some s =>
      simp only [texel, hsome, Option.elim_some] at hs
      simp [texel, hsome, Word.toNat_signed hs]
  have hslice := h.slice_eq l hin
  rw [StorageView.distance, hx, ← hrow, ← hslice, ← hsample]
  simp [TexelPosition.total, h.position_eq]

end TexelCoordinates.Matches

/-! ## Offsets of texels -/

theorem TexelIndex.zero_in {v : StorageView} (hv : v.Valid) : TexelIndex.zero.In v := by
  obtain ⟨hx, hy, hz⟩ := hv.extent_pos
  have hlayer := hv.layerCount_pos
  have hsample := v.sampleCount_pos
  constructor <;> simp only [zero] <;> omega

theorem LanePointer.distance_advance_start (base limit : Nat) (offsets : WordLanes) (l : Lane) :
    ((start base limit).advance offsets).distance l = Word.signed (offsets.get l) := by
  simp [distance, advance, start, Lanes.add]

/-- Lanes outside get an offset that no access is in bounds at. -/
theorem LanePointer.laneInBounds_outside {p : LanePointer} {n : Nat} {l : Lane} (hn : 0 < n)
    (hlimit : p.limit ≤ maxBytes) (h : p.distance l = Word.signed outOfBoundsOffset) :
    p.laneInBounds n l = false := by
  have houtside : Word.signed outOfBoundsOffset = 2 ^ 31 - 17 := by decide
  have hmax : maxBytes = 2 ^ 30 := rfl
  rw [laneInBounds, h, houtside]
  simp only [Bool.and_eq_false_imp, decide_eq_false_iff_not, decide_eq_true_eq]
  omega

namespace TexelCoordinates.Matches

variable {v : StorageView} {c : TexelCoordinates}

theorem offsets_eq (h : c.Matches v.kind) (layout : TexelLayout) (texelSize : UInt32)
    (rule : BoundsRule) :
    c.offsets layout texelSize rule =
      .ok (.ofFn fun l => (c.position l).resolve layout texelSize rule) := by
  simp [offsets, h.isEmpty_eq_false]

/-- Coordinates of a texel of the view give its distance under every rule. -/
theorem signed_resolve (hv : v.Valid) (h : c.Matches v.kind) (l : Lane)
    (hin : (c.texel v.kind l).In v) (rule : BoundsRule) :
    Word.signed ((c.position l).resolve v.grid.layout (wordOf v.texelSize) rule) =
      v.distance (c.texel v.kind l) := by
  have hmax : maxBytes = 2 ^ 30 := rfl
  have hbytes := hv.bytes_le
  have hend := distance_add_le hv hin
  have hinside := (h.isOutside_eq_false hv l).mpr hin
  rw [TexelPosition.resolve, hinside, if_neg (by simp), TexelPosition.offset_layout,
    h.total_eq l hin, Word.signed_ofNat (by omega)]

end TexelCoordinates.Matches

open Execution (StoragePlane)

/-- **Texels are found where their image says they are.**  The offsets for coordinates that match a
view of a created image or buffer are computed in words that wrap.  In a lane whose coordinates are
in the bounds of the view they are nevertheless, under every rule, the distance from the first texel
of the view to the place that the image itself gives the texel, and the texel ends before the end
that the record states.  If some bound fails, the rule that checks coordinates gives the lane the
offset that no access is in bounds at. -/
theorem offsets_locate_texels {v : StorageView} (hv : v.Created) {c : TexelCoordinates}
    (hc : c.Matches v.kind) (l : Lane) :
    ((c.texel v.kind l).In v → ∀ rule, ∃ offsets first place,
      c.offsets (StoragePlane.ofRecord v.record false).layout (wordOf v.texelSize) rule =
        .ok offsets ∧
      (StoragePlane.ofRecord v.record false).pointer = some ⟨v.block, first⟩ ∧
      v.offset .zero = .ok first ∧ v.offset (c.texel v.kind l) = .ok place ∧
      0 ≤ Word.signed (offsets.get l) ∧ first + Word.signed (offsets.get l) = place ∧
      Word.signed (offsets.get l) + v.texelSize ≤
        Word.signed (StoragePlane.ofRecord v.record false).size) ∧
    (¬ (c.texel v.kind l).In v → ∃ offsets,
      c.offsets (StoragePlane.ofRecord v.record false).layout (wordOf v.texelSize) .nullify =
        .ok offsets ∧
      offsets.get l = outOfBoundsOffset ∧
      ∀ n, 1 ≤ n → n ≤ 16 →
        ((StoragePlane.ofRecord v.record false).start.lanes.advance offsets).laneInBounds n l =
          false) := by
  have hvalid := hv.valid
  have hmax : maxBytes = 2 ^ 30 := rfl
  have hbytes := hvalid.bytes_le
  constructor
  · intro hin rule
    have hfirst := offset_eq hvalid (TexelIndex.zero_in hvalid)
    have hzero : v.distance .zero = 0 := by simp [distance, TexelIndex.zero]
    rw [hzero, Nat.add_zero] at hfirst
    have hsigned := hc.signed_resolve hvalid l hin rule
    have hend := distance_add_le hvalid hin
    refine ⟨_, v.start, _, hc.offsets_eq _ _ _, ?_, hfirst, offset_eq hvalid hin, ?_, ?_, ?_⟩
    · rw [ofRecord_record]
    · rw [ofRecord_record, Lanes.get_ofFn, hsigned]
      exact Int.natCast_nonneg _
    · rw [ofRecord_record, Lanes.get_ofFn, hsigned, Int.natCast_add]
    · rw [ofRecord_record, Lanes.get_ofFn, hsigned, Word.signed_ofNat (by omega)]
      exact_mod_cast hend
  · intro hout
    have houtside : (c.position l).isOutside v.grid.layout = true := by
      rw [← Bool.not_eq_false, hc.isOutside_eq_false hvalid l]
      exact hout
    have hget : (c.position l).resolve v.grid.layout (wordOf v.texelSize) .nullify =
        outOfBoundsOffset := if_pos ⟨rfl, houtside⟩
    refine ⟨_, hc.offsets_eq _ _ _, ?_, ?_⟩
    · rw [ofRecord_record, Lanes.get_ofFn, hget]
    · intro n hn _
      rw [hvalid.start_ofRecord]
      refine LanePointer.laneInBounds_outside hn hbytes ?_
      rw [LanePointer.distance_advance_start, ofRecord_record, Lanes.get_ofFn, hget]

/-- The second level of the second cube of an image of two cubes: a texel of the last face, and a
face too many in another lane. -/
theorem offsets_locate_cube_face :
    ∃ (v : StorageView) (c : TexelCoordinates), v.Created ∧ c.Matches v.kind ∧
      (∃ offsets first, c.offsets (StoragePlane.ofRecord v.record false).layout 2 .nullify =
          .ok offsets ∧
        v.offset .zero = .ok first ∧ first + Word.signed (offsets.get 0) = 1998) ∧
      ∃ offsets, c.offsets (StoragePlane.ofRecord v.record false).layout 2 .nullify =
          .ok offsets ∧
        offsets.get 1 = outOfBoundsOffset := by
  have hi : Image.create 0 1 {
      format := .r8g8Unorm, extent := ⟨8, 8, 1⟩, mipLevels := 3, arrayLayers := 12,
      cubeCompatible := true } = .ok (_, _) := rfl
  have hv := @StorageView.Created.image _ _ 2 _ _ _ {
      kind := .cube, aspects := .single .color, mips := ⟨1, 3⟩, layers := ⟨6, 12⟩ } _ hi rfl
  have hc : TexelCoordinates.Matches {
      components := [⟨3, 3, 0, 0⟩, ⟨2, 2, 0, 0⟩, ⟨5, 6, 0, 0⟩]
      arrayed := false, cube := true, sample := none, subpass := none } .cube :=
    ⟨rfl, rfl, rfl, rfl⟩
  refine ⟨_, _, hv, hc, ?_, ?_⟩
  · obtain ⟨offsets, first, place, h, -, hfirst, hplace, -, hsum, -⟩ :=
      (offsets_locate_texels hv hc 0).1 ⟨by decide, by decide, by decide, by decide, by decide⟩
        .nullify
    have h1998 : place = 1998 := Except.ok.inj (hplace.symm.trans rfl)
    exact ⟨offsets, first, h, hfirst, by rw [hsum, h1998]; rfl⟩
  · obtain ⟨offsets, h, hget, -⟩ := (offsets_locate_texels hv hc 1).2 (fun h => by
      have hlayer := h.layer.2
      revert hlayer
      decide)
    exact ⟨offsets, h, hget⟩

end HostGpu
