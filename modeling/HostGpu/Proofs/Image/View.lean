import HostGpu.Image.View
import HostGpu.Proofs.Image.Planes

/-!
# Views of created images

A view that passed its check shows levels, layers and aspects that its image has, in a format whose
planes have texels of the same sizes (`ImageView.Valid`).  The unchecked geometry of such a view is
what the checked functions of the image give, and all its numbers are small: from the first texel of
the view on there are no more bytes than a block can have.
-/

namespace HostGpu

open Outcome

/-! ## Kinds of views -/

namespace ViewKind

/-- The number of coordinates within a layer. -/
def dimensions : ViewKind → Nat
  | dim1 | dim1Array => 1
  | dim2 | dim2Array | cube | cubeArray => 2
  | dim3 => 3

/-- Whether the last coordinate is a layer, or a face of a cube. -/
def isLayered (k : ViewKind) : Bool := k.isArrayed || k.isCube

/-- The number of coordinates of a texel. -/
def coordinateCount (k : ViewKind) : Nat := k.dimensions + if k.isLayered then 1 else 0

/-- The last coordinate of a volume is its depth, that of a layered kind the layer. -/
theorem last_coordinate (k : ViewKind) :
    (k.dimensions = 3 ∧ k.isLayered = false ∧ k.coordinateCount = 3) ∨
      (k.dimensions ≤ 2 ∧ k.isLayered = true ∧ k.coordinateCount = k.dimensions + 1) ∨
      (k.dimensions ≤ 2 ∧ k.isLayered = false ∧ k.coordinateCount = k.dimensions) := by
  cases k <;> decide

end ViewKind

/-! ## Views of images -/

/-- The texel sizes of the planes follow from the size of a texel and the aspects. -/
theorem Format.plane?_blockSize (f : Format) (a : Aspect) :
    (f.plane? a).map (·.blockSize) =
      if f.aspects.contains (.single a) then
        some (if f.aspects.depth && f.aspects.stencil then if a = .depth then 4 else 1
          else f.blockSize)
      else none := by
  cases f <;> cases a <;> rfl

theorem Span.isEmpty_eq_true {s : Span} : s.isEmpty = true ↔ s.stop ≤ s.start := by
  simp [isEmpty]

namespace ViewInfo

variable {v : ViewInfo} {i : ImageInfo}

/-- The parameters obey all rules of views of an image. -/
structure Valid (v : ViewInfo) (i : ImageInfo) : Prop where
  aspects : v.aspects.isEmpty = false
  contained : i.format.aspects.contains v.aspects = true
  mips : v.mips.start < v.mips.stop ∧ v.mips.stop ≤ i.mipLevels
  layers : v.layers.start < v.layers.stop ∧ v.layers.stop ≤ i.arrayLayers
  format : ∀ f ∈ v.format, f.blockSize = i.format.blockSize ∧ f.aspects = i.format.aspects
  kind : kindFits v.kind i v.layers.length = true

theorem check_eq_ok {u : Unit} : v.check i = .ok u ↔ v.Valid i := by
  unfold check
  simp only [throw_eq_error, error_bind, ite_error_eq_ok, Span.isEmpty_eq_true, Bool.or_eq_true,
    Bool.not_eq_true', not_or, Bool.not_eq_true, Bool.not_eq_false, Nat.not_lt, Nat.not_le]
  cases hf : v.format with
  | none =>
    simp only [ite_error_eq_ok, pure_eq_ok, Bool.not_eq_false, and_true]
    constructor
    · rintro ⟨⟨h₁, h₂⟩, h₃, h₄, h₅⟩
      exact ⟨h₁, h₂, h₃, h₄, by simp [hf], h₅⟩
    · intro h
      exact ⟨⟨h.aspects, h.contained⟩, h.mips, h.layers, h.kind⟩
  | some f =>
    simp only [ite_error_eq_ok, pure_eq_ok, Bool.not_eq_false, and_true,
      not_or, not_not, ne_eq]
    constructor
    · rintro ⟨⟨h₁, h₂⟩, h₃, h₄, h₅, h₆⟩
      exact ⟨h₁, h₂, h₃, h₄, by simpa [hf] using h₅, h₆⟩
    · intro h
      exact ⟨⟨h.aspects, h.contained⟩, h.mips, h.layers, h.format f hf, h.kind⟩

end ViewInfo

namespace ImageView

/-- What the creation of a view of a created image guarantees. -/
structure Valid (v : ImageView) : Prop where
  image : v.image.info.Valid
  size : v.image.info.size ≤ Memory.maxSize
  aspects : v.aspects.isEmpty = false
  contained : v.image.info.format.aspects.contains v.aspects = true
  mips : v.mips.start < v.mips.stop ∧ v.mips.stop ≤ v.image.info.mipLevels
  layers : v.layers.start < v.layers.stop ∧ v.layers.stop ≤ v.image.info.arrayLayers
  blockSize : v.format.blockSize = v.image.info.format.blockSize
  formatAspects : v.format.aspects = v.image.info.format.aspects
  kind : ViewInfo.kindFits v.kind v.image.info v.layerCount = true

/-- Every view of a created image is valid. -/
theorem valid_of_create {device block id : Nat} {info : ImageInfo} {image : Image}
    {memory : Memory} {viewInfo : ViewInfo} {v : ImageView}
    (himage : Image.create device block info = .ok (image, memory))
    (hview : create id image viewInfo = .ok v) : v.Valid := by
  obtain ⟨hi, hsize, rfl, -⟩ := Image.create_eq_ok.mp himage
  simp only [create, bind_eq_ok, mapError_eq_ok, ViewInfo.check_eq_ok, pure_eq_ok] at hview
  obtain ⟨-, hv, rfl⟩ := hview
  have hformat : (viewInfo.format.getD info.format).blockSize = info.format.blockSize ∧
      (viewInfo.format.getD info.format).aspects = info.format.aspects := by
    cases hf : viewInfo.format with
    | none => exact ⟨rfl, rfl⟩
    | some f => exact hv.format f hf
  exact ⟨hi, hsize, hv.aspects, hv.contained, hv.mips, hv.layers, hformat.1, hformat.2, hv.kind⟩

variable {v : ImageView} {a : Aspect}

theorem texelSize_mem (ha : a ∈ v.image.info.format.aspects.toList) : v.texelSize a ∈ texelSizes :=
  ImageInfo.planeTexel_mem ha

/-- The first texel of a view starts at a multiple of the texels of its plane. -/
theorem dvd_offset (ha : a ∈ v.image.info.format.aspects.toList) :
    v.texelSize a ∣ v.offset a 0 0 := by
  have hplane : v.texelSize a ∣ v.image.info.planeOffset a := ImageInfo.dvd_planeOffset ha
  exact Nat.dvd_add (Nat.dvd_add hplane ((v.image.info.dvd_layerPitch _).mul_left _))
    (v.image.info.dvd_levelOffset _ _)

namespace Valid

/-! ## Aspects and texels -/

theorem aspect_mem (h : v.Valid) (ha : a ∈ v.aspects.toList) :
    a ∈ v.image.info.format.aspects.toList := by
  have hc := h.contained
  rw [AspectSet.mem_toList] at ha ⊢
  revert ha hc
  generalize v.image.info.format.aspects = s
  generalize v.aspects = t
  revert s t a
  rintro a ⟨_ | _, _ | _, _ | _⟩ ⟨_ | _, _ | _, _ | _⟩ <;> cases a <;> decide

theorem primaryAspect_mem (h : v.Valid) : v.primaryAspect ∈ v.image.info.format.aspects.toList := by
  refine h.aspect_mem ?_
  have hne := h.aspects
  rw [primaryAspect]
  revert hne
  generalize v.aspects = t
  revert t
  rintro ⟨_ | _, _ | _, _ | _⟩ <;> decide

theorem texelSize_eq_blockSize (h : v.Valid) (ha : a ∈ v.image.info.format.aspects.toList)
    {f : Format} (hf : v.format.plane? a = some f) : v.texelSize a = f.blockSize := by
  obtain ⟨g, hg, hsize⟩ := ImageInfo.exists_plane ha
  have h₁ := Format.plane?_blockSize v.format a
  have h₂ := Format.plane?_blockSize v.image.info.format a
  rw [hf, h.blockSize, h.formatAspects, ← h₂, hg] at h₁
  simp only [Option.map_some, Option.some.injEq] at h₁
  rw [texelSize, hsize, h₁]

/-- The texels of the first plane are those of the primary format. -/
theorem primaryFormat_blockSize (h : v.Valid) :
    v.primaryFormat.blockSize = v.texelSize v.primaryAspect := by
  have ha := h.primaryAspect_mem
  have hs : (v.format.plane? v.primaryAspect).isSome := by
    rw [Format.plane?_isSome, h.formatAspects]
    exact (AspectSet.mem_toList _ _).mp ha
  obtain ⟨f, hf⟩ := Option.isSome_iff_exists.mp hs
  rw [h.texelSize_eq_blockSize ha hf, primaryFormat, hf, Option.getD_some]

/-! ## The first texel -/

theorem first_level_lt (h : v.Valid) : v.mips.start < v.image.info.mipLevels :=
  h.mips.1.trans_le h.mips.2

theorem layer_lt (h : v.Valid) {layer : Nat} (hl : layer < v.layerCount) :
    v.layers.start + layer < v.image.info.arrayLayers := by
  have hc : v.layerCount = v.layers.stop - v.layers.start := rfl
  have hs := h.layers.2
  omega

theorem layerCount_pos (h : v.Valid) : 0 < v.layerCount := Nat.sub_pos_of_lt h.layers.1

theorem layerCount_le (h : v.Valid) : v.layerCount ≤ v.image.info.arrayLayers :=
  (Nat.sub_le _ _).trans h.layers.2

/-- The first texel of a view is that of its first level and layer in the image. -/
theorem subresourceOffset_eq (h : v.Valid) (ha : a ∈ v.image.info.format.aspects.toList) :
    v.image.info.subresourceOffset a v.mips.start v.layers.start = .ok (v.offset a 0 0) :=
  ImageInfo.subresourceOffset_eq ha h.first_level_lt (h.layers.1.trans_le h.layers.2)

/-- The first texel of a view and all that follow it lie in the plane. -/
theorem offset_add_sizeInBytes (h : v.Valid) :
    v.offset a 0 0 + v.sizeInBytes a =
      v.image.info.planeOffset a + v.image.info.planeSize (v.texelSize a) := by
  have hlevel := v.image.info.levelOffset_add_le (v.texelSize a) h.first_level_lt
  have hlayer : v.layers.start + 1 ≤ v.image.info.arrayLayers := h.layers.1.trans_le h.layers.2
  have hplane := Nat.mul_le_mul_right (v.image.info.layerPitch (v.texelSize a)) hlayer
  rw [Nat.add_mul, Nat.one_mul] at hplane
  have hle : v.offset a 0 0 ≤
      v.image.info.planeOffset a + v.image.info.planeSize (v.texelSize a) := by
    simp only [offset, layerPitch, Nat.add_zero, ImageInfo.planeSize]
    omega
  exact Nat.add_sub_cancel' hle

theorem sizeInBytes_le (h : v.Valid) (ha : a ∈ v.image.info.format.aspects.toList) :
    v.offset a 0 0 + v.sizeInBytes a ≤ v.image.info.size := by
  rw [h.offset_add_sizeInBytes]
  exact ImageInfo.planeOffset_add_le ha

theorem level_lt (h : v.Valid) {level : Nat} (hl : level < v.levelCount) :
    v.mips.start + level < v.image.info.mipLevels := by
  have hc : v.levelCount = v.mips.stop - v.mips.start := rfl
  have hs := h.mips.2
  omega

theorem levelCount_pos (h : v.Valid) : 0 < v.levelCount := Nat.sub_pos_of_lt h.mips.1

/-- The first texel of every level and layer of a view lies in the memory of the image. -/
theorem offset_lt (h : v.Valid) (ha : a ∈ v.image.info.format.aspects.toList) {level layer : Nat}
    (hlevel : level < v.levelCount) (hlayer : layer < v.layerCount) :
    v.offset a level layer < v.image.info.size := by
  have hend := v.image.info.levelOffset_add_le (v.texelSize a) (h.level_lt hlevel)
  have hpos := v.image.info.levelSize_pos (pos_of_mem_texelSizes (texelSize_mem ha))
    (v.mips.start + level)
  have hplane := Nat.mul_le_mul_right (v.image.info.layerPitch (v.texelSize a))
    (Nat.succ_le_of_lt (h.layer_lt hlayer))
  rw [Nat.succ_mul] at hplane
  calc v.offset a level layer
    _ < v.image.info.planeOffset a + v.image.info.planeSize (v.texelSize a) := by
      simp only [offset, layerPitch, ImageInfo.planeSize]
      omega
    _ ≤ v.image.info.size := ImageInfo.planeOffset_add_le ha

theorem dvd_sizeInBytes (h : v.Valid) : v.texelSize a ∣ v.sizeInBytes a := by
  have hsum := h.offset_add_sizeInBytes (a := a)
  have hoffset : v.offset a 0 0 = v.image.info.planeOffset a +
      (v.layers.start * v.image.info.layerPitch (v.texelSize a) +
        v.image.info.levelOffset (v.texelSize a) v.mips.start) := by
    simp only [offset, layerPitch, Nat.add_zero, Nat.add_assoc]
  rw [hoffset, Nat.add_assoc, Nat.add_left_cancel_iff] at hsum
  refine (Nat.dvd_add_right ?_).mp (hsum ▸ v.image.info.dvd_planeSize _)
  exact Nat.dvd_add ((v.image.info.dvd_layerPitch _).mul_left _) (v.image.info.dvd_levelOffset _ _)

/-! ## Depth and layers -/

/-- Only volumes have more than one depth slice. -/
theorem depth_eq_one (h : v.Valid) (hk : v.kind.dimensions ≤ 2) (level : Nat) :
    (v.levelExtent level).depth = 1 := by
  have hone : v.image.info.extent.depth = 1 := by
    have hfits := h.kind
    cases hkind : v.kind <;>
      simp only [hkind, ViewInfo.kindFits, decide_eq_true_eq, ViewKind.dimensions] at hfits hk
    · exact (h.image.line hfits.1).2
    · exact h.image.plane hfits.1
    · omega
    · exact h.image.plane (h.image.cube hfits.1).1
    · exact (h.image.line hfits).2
    · exact h.image.plane hfits
    · exact h.image.plane (h.image.cube hfits.1).1
  have hshift : 1 >>> (v.mips.start + level) ≤ 1 := Nat.shiftRight_le _ _
  simp only [levelExtent, ImageInfo.levelExtent, Extent.level, Extent.map, hone]
  omega

/-- Only layered kinds of views show more than one layer. -/
theorem layerCount_eq_one (h : v.Valid) (hk : v.kind.isLayered = false) : v.layerCount = 1 := by
  have hfits := h.kind
  have hpos := h.layerCount_pos
  have hle := h.layerCount_le
  cases hkind : v.kind <;>
    simp only [hkind, ViewInfo.kindFits, decide_eq_true_eq, ViewKind.isLayered, ViewKind.isArrayed,
      ViewKind.isCube, Bool.or_false, Bool.or_true, Bool.true_eq_false] at hfits hk
  · exact hfits.2
  · exact hfits.2
  · have hlayers := h.image.volume hfits
    omega

theorem six_dvd_layerCount (h : v.Valid) (hk : v.kind.isCube = true) : 6 ∣ v.layerCount := by
  have hfits := h.kind
  cases hkind : v.kind <;>
    simp only [hkind, ViewInfo.kindFits, decide_eq_true_eq, ViewKind.isCube,
      Bool.false_eq_true] at hfits hk
  · exact ⟨1, hfits.2⟩
  · exact Nat.dvd_of_mod_eq_zero hfits.2

/-- Depth slices and layers are not counted together. -/
theorem max_depth_layerCount (h : v.Valid) : max (v.levelExtent 0).depth v.layerCount =
    if 2 < v.kind.dimensions then (v.levelExtent 0).depth else v.layerCount := by
  have hdepth := (v.image.info.levelExtent_pos (v.mips.start + 0)).2.2
  have hlayers := h.layerCount_pos
  by_cases hdims : 2 < v.kind.dimensions
  · have hone : v.layerCount = 1 := by
      refine h.layerCount_eq_one ?_
      revert hdims
      cases v.kind <;> decide
    rw [if_pos hdims, hone]
    exact Nat.max_eq_left hdepth
  · rw [if_neg hdims, h.depth_eq_one (by omega)]
    exact Nat.max_eq_right hlayers

end Valid

end ImageView

end HostGpu
