import HostGpu.Image.Basic
import HostGpu.Proofs.Outcome
import Mathlib.Algebra.Order.BigOperators.Group.List
import Mathlib.Algebra.Order.Ring.Nat
import Mathlib.Data.List.Nodup
import Mathlib.Data.List.TakeWhile

/-!
# Planes of created images

What the creation of an image guarantees: the parameters obey all rules (`ImageInfo.Valid`), the
memory is as large as the planes together and not larger than a block may be.  From it follow the
facts that addressing rests on.  Every level has a texel on each side, a texel of a plane has one,
two, four, eight or sixteen bytes, and all pitches are multiples of it.
-/

namespace HostGpu

open Outcome

/-! ## Rules -/

namespace ImageInfo

/-- The parameters obey all rules of images. -/
structure Valid (i : ImageInfo) : Prop where
  format : i.format ≠ .undefined
  extent : ∀ n ∈ i.extent.toList, 0 < n
  line : i.kind = .dim1 → i.extent.height = 1 ∧ i.extent.depth = 1
  plane : i.kind = .dim2 → i.extent.depth = 1
  volume : i.kind = .dim3 → i.arrayLayers = 1
  levels_pos : 0 < i.mipLevels
  levels_le : i.mipLevels ≤ i.levelLimit
  layers_pos : 0 < i.arrayLayers
  sampled : i.samples ≠ .one → i.kind = .dim2 ∧ i.mipLevels = 1
  cube : i.cubeCompatible = true →
    i.kind = .dim2 ∧ i.extent.width = i.extent.height ∧ 6 ≤ i.arrayLayers

/-- The check passes exactly the parameters that obey the rules. -/
theorem check_eq_ok {i : ImageInfo} {u : Unit} : i.check = .ok u ↔ i.Valid := by
  unfold check
  simp only [throw_eq_error, error_bind, ite_error_eq_ok, pure_eq_ok, List.contains_iff_mem,
    and_true, not_and, not_or, not_not, Nat.not_lt, ne_eq]
  constructor
  · rintro ⟨h₁, h₂, h₃, h₄, h₅, ⟨h₆, h₇⟩, h₈, h₉, h₁₀⟩
    exact {
      format := h₁
      extent := fun n hn => Nat.pos_of_ne_zero (fun h0 => h₂ (h0 ▸ hn))
      line := h₃
      plane := h₄
      volume := h₅
      levels_pos := Nat.pos_of_ne_zero h₆
      levels_le := h₇
      layers_pos := Nat.pos_of_ne_zero h₈
      sampled := h₉
      cube := h₁₀ }
  · intro h
    exact ⟨h.format, fun h0 => Nat.lt_irrefl 0 (h.extent 0 h0), h.line, h.plane, h.volume,
      ⟨h.levels_pos.ne', h.levels_le⟩, h.layers_pos.ne', h.sampled, h.cube⟩

/-- An image has at most fifteen levels. -/
theorem Valid.levels_le_maxLevels {i : ImageInfo} (h : i.Valid) : i.mipLevels ≤ maxLevels :=
  h.levels_le.trans (Nat.min_le_right _ _)

end ImageInfo

/-- What creating an image gives, and when. -/
theorem Image.create_eq_ok {device block : Nat} {info : ImageInfo} {image : Image}
    {memory : Memory} :
    Image.create device block info = .ok (image, memory) ↔
      info.Valid ∧ info.size ≤ Memory.maxSize ∧ image = ⟨device, block, info⟩ ∧
        memory = .zeroed info.size := by
  have hmax : Memory.maxSize < sizeLimit := by decide
  simp only [Image.create, bind_eq_ok, mapError_eq_ok, ImageInfo.check_eq_ok, throw_eq_error,
    error_bind, ite_error_eq_ok, Memory.allocate, pure_eq_ok, Nat.not_le, Nat.not_lt,
    Prod.mk.injEq, Except.ok.injEq]
  constructor
  · rintro ⟨-, hv, -, m, ⟨hle, rfl⟩, rfl, rfl⟩
    exact ⟨hv, hle, rfl, rfl⟩
  · rintro ⟨hv, hle, rfl, rfl⟩
    exact ⟨(), hv, by omega, _, ⟨hle, rfl⟩, rfl, rfl⟩

/-! ## Texels of planes -/

/-- The sizes of texels that can be accessed: from a byte to four words. -/
def texelSizes : List Nat := [1, 2, 4, 8, 16]

theorem pos_of_mem_texelSizes {n : Nat} (h : n ∈ texelSizes) : 0 < n := by
  revert n
  decide

theorem le_of_mem_texelSizes {n : Nat} (h : n ∈ texelSizes) : n ≤ 16 := by
  revert n
  decide

/-- The number of words is a multiple of the sizes of texels. -/
theorem dvd_of_mem_texelSizes {n : Nat} (h : n ∈ texelSizes) : n ∣ 2 ^ 32 := by
  revert n
  decide

theorem Format.blockSize_mem_texelSizes {f p : Format} {a : Aspect} (h : f.plane? a = some p) :
    p.blockSize ∈ texelSizes := by
  cases f <;> cases a <;> cases h <;> decide

/-- Only stencil has a plane before its own, and it has texels of one byte. -/
theorem Format.first_or_bytes {f : Format} {a : Aspect} (h : a ∈ f.aspects.toList) :
    f.aspects.toList.takeWhile (· ≠ a) = [] ∨ (f.plane? a).elim 0 (·.blockSize) = 1 := by
  revert h
  cases f <;> cases a <;> decide

theorem AspectSet.nodup_toList (s : AspectSet) : s.toList.Nodup :=
  List.Nodup.filter _ (by decide)

namespace ImageInfo

variable {i : ImageInfo} {a : Aspect}

/-- An aspect of an image has a plane of texels. -/
theorem exists_plane (h : a ∈ i.format.aspects.toList) :
    ∃ f, i.format.plane? a = some f ∧ i.planeTexel a = f.blockSize := by
  have hs : (i.format.plane? a).isSome := by
    rw [Format.plane?_isSome]
    exact (AspectSet.mem_toList _ _).mp h
  obtain ⟨f, hf⟩ := Option.isSome_iff_exists.mp hs
  exact ⟨f, hf, by simp [planeTexel, hf]⟩

theorem texelSize_eq (h : a ∈ i.format.aspects.toList) : i.texelSize a = .ok (i.planeTexel a) := by
  obtain ⟨f, hf, hn⟩ := exists_plane h
  simp [texelSize, hf, hn]

theorem planeTexel_mem (h : a ∈ i.format.aspects.toList) : i.planeTexel a ∈ texelSizes := by
  obtain ⟨f, hf, hn⟩ := exists_plane h
  rw [hn]
  exact Format.blockSize_mem_texelSizes hf

/-! ## Pitches -/

theorem dvd_rowPitch (i : ImageInfo) (texel level : Nat) : texel ∣ i.rowPitch texel level :=
  Nat.dvd_mul_left _ _

theorem dvd_slicePitch (i : ImageInfo) (texel level : Nat) : texel ∣ i.slicePitch texel level :=
  (i.dvd_rowPitch texel level).mul_left _

theorem dvd_samplePitch (i : ImageInfo) (texel level : Nat) : texel ∣ i.samplePitch texel level :=
  (i.dvd_slicePitch texel level).mul_left _

theorem dvd_levelOffset (i : ImageInfo) (texel level : Nat) :
    texel ∣ i.levelOffset texel level := by
  induction level with
  | zero => exact Nat.dvd_zero texel
  | succ n ih =>
    rw [levelOffset, List.range_succ, List.map_append, List.sum_append]
    exact Nat.dvd_add ih (by simpa [levelSize] using (i.dvd_samplePitch texel n).mul_left _)

theorem dvd_layerPitch (i : ImageInfo) (texel : Nat) : texel ∣ i.layerPitch texel :=
  i.dvd_levelOffset texel _

theorem dvd_planeSize (i : ImageInfo) (texel : Nat) : texel ∣ i.planeSize texel :=
  (i.dvd_layerPitch texel).mul_left _

theorem levelExtent_pos (i : ImageInfo) (level : Nat) :
    0 < (i.levelExtent level).width ∧ 0 < (i.levelExtent level).height ∧
      0 < (i.levelExtent level).depth := by
  have h := i.extent.level_pos level
  simpa [Extent.toList, levelExtent] using h

theorem levelOffset_succ (i : ImageInfo) (texel level : Nat) :
    i.levelOffset texel (level + 1) = i.levelOffset texel level + i.levelSize texel level := by
  simp [levelOffset, List.range_succ]

theorem levelOffset_mono (i : ImageInfo) (texel : Nat) {l m : Nat} (h : l ≤ m) :
    i.levelOffset texel l ≤ i.levelOffset texel m := by
  induction m with
  | zero => rw [Nat.le_zero.mp h]
  | succ m ih =>
    rw [levelOffset_succ]
    rcases Nat.le_succ_iff.mp h with h | rfl
    · exact (ih h).trans (Nat.le_add_right _ _)
    · rw [levelOffset_succ]

/-- A level of a layer ends before the next layer starts. -/
theorem levelOffset_add_le (i : ImageInfo) (texel : Nat) {level : Nat} (h : level < i.mipLevels) :
    i.levelOffset texel level + i.levelSize texel level ≤ i.layerPitch texel := by
  rw [← levelOffset_succ]
  exact i.levelOffset_mono texel h

/-- The plane of an aspect starts at a multiple of its texels: it is the first one, or it has texels
of one byte. -/
theorem dvd_planeOffset (h : a ∈ i.format.aspects.toList) : i.planeTexel a ∣ i.planeOffset a := by
  rcases Format.first_or_bytes h with hfirst | hone
  · rw [planeOffset, hfirst]
    exact Nat.dvd_zero _
  · rw [planeTexel, hone]
    exact Nat.one_dvd _

/-- A plane ends before the end of the memory. -/
theorem planeOffset_add_le (h : a ∈ i.format.aspects.toList) :
    i.planeOffset a + i.planeSize (i.planeTexel a) ≤ i.size := by
  have hsplit := List.takeWhile_append_dropWhile (p := (· ≠ a)) (l := i.format.aspects.toList)
  have hmem : a ∈ i.format.aspects.toList.dropWhile (· ≠ a) := by
    rw [← hsplit] at h
    rcases List.mem_append.mp h with h | h
    · exact absurd (List.mem_takeWhile_imp h) (by simp)
    · exact h
  have hle : i.planeSize (i.planeTexel a) ≤ ((i.format.aspects.toList.dropWhile (· ≠ a)).map
      fun b => i.planeSize (i.planeTexel b)).sum :=
    List.single_le_sum (by simp) _ (List.mem_map_of_mem (f := fun b => _) hmem)
  rw [size, planeOffset]
  conv => rhs; rw [← hsplit, List.map_append, List.sum_append]
  exact Nat.add_le_add_left hle _

/-! ## Sizes

Every side, count and pitch of a level is at most the size of the level, and that at most the size
of the memory. -/

theorem rowPitch_le_slicePitch (i : ImageInfo) (texel level : Nat) :
    i.rowPitch texel level ≤ i.slicePitch texel level :=
  Nat.le_mul_of_pos_left _ (i.levelExtent_pos level).2.1

theorem slicePitch_le_samplePitch (i : ImageInfo) (texel level : Nat) :
    i.slicePitch texel level ≤ i.samplePitch texel level :=
  Nat.le_mul_of_pos_left _ (i.levelExtent_pos level).2.2

theorem samplePitch_le_levelSize (i : ImageInfo) (texel level : Nat) :
    i.samplePitch texel level ≤ i.levelSize texel level :=
  Nat.le_mul_of_pos_left _ i.samples.count_pos

theorem rowPitch_pos (i : ImageInfo) {texel : Nat} (h : 0 < texel) (level : Nat) :
    0 < i.rowPitch texel level :=
  Nat.mul_pos (i.levelExtent_pos level).1 h

theorem width_le_rowPitch (i : ImageInfo) {texel : Nat} (h : 0 < texel) (level : Nat) :
    (i.levelExtent level).width ≤ i.rowPitch texel level :=
  Nat.le_mul_of_pos_right _ h

theorem height_le_slicePitch (i : ImageInfo) {texel : Nat} (h : 0 < texel) (level : Nat) :
    (i.levelExtent level).height ≤ i.slicePitch texel level :=
  Nat.le_mul_of_pos_right _ (i.rowPitch_pos h level)

theorem depth_le_samplePitch (i : ImageInfo) {texel : Nat} (h : 0 < texel) (level : Nat) :
    (i.levelExtent level).depth ≤ i.samplePitch texel level :=
  Nat.le_mul_of_pos_right _ ((i.rowPitch_pos h level).trans_le (i.rowPitch_le_slicePitch _ _))

theorem samplePitch_pos (i : ImageInfo) {texel : Nat} (h : 0 < texel) (level : Nat) :
    0 < i.samplePitch texel level :=
  (i.levelExtent_pos level).2.2.trans_le (i.depth_le_samplePitch h level)

theorem samples_le_levelSize (i : ImageInfo) {texel : Nat} (h : 0 < texel) (level : Nat) :
    i.samples.count ≤ i.levelSize texel level :=
  Nat.le_mul_of_pos_right _ (i.samplePitch_pos h level)

theorem levelSize_pos (i : ImageInfo) {texel : Nat} (h : 0 < texel) (level : Nat) :
    0 < i.levelSize texel level :=
  i.samples.count_pos.trans_le (i.samples_le_levelSize h level)

theorem levelSize_le_layerPitch (i : ImageInfo) (texel : Nat) {level : Nat}
    (hl : level < i.mipLevels) : i.levelSize texel level ≤ i.layerPitch texel :=
  (Nat.le_add_left _ _).trans (i.levelOffset_add_le texel hl)

theorem layerPitch_le_size (hv : i.Valid) (ha : a ∈ i.format.aspects.toList) :
    i.layerPitch (i.planeTexel a) ≤ i.size :=
  calc i.layerPitch (i.planeTexel a)
    _ ≤ i.planeSize (i.planeTexel a) := Nat.le_mul_of_pos_left _ hv.layers_pos
    _ ≤ i.planeOffset a + i.planeSize (i.planeTexel a) := Nat.le_add_left _ _
    _ ≤ i.size := planeOffset_add_le ha

theorem levelSize_le_size (hv : i.Valid) (ha : a ∈ i.format.aspects.toList) {level : Nat}
    (hl : level < i.mipLevels) : i.levelSize (i.planeTexel a) level ≤ i.size :=
  (i.levelSize_le_layerPitch _ hl).trans (layerPitch_le_size hv ha)

theorem arrayLayers_le_size (hv : i.Valid) (ha : a ∈ i.format.aspects.toList) :
    i.arrayLayers ≤ i.size := by
  have htexel := pos_of_mem_texelSizes (planeTexel_mem ha)
  have hpitch : 0 < i.layerPitch (i.planeTexel a) :=
    (i.levelSize_pos htexel 0).trans_le (i.levelSize_le_layerPitch _ hv.levels_pos)
  calc i.arrayLayers
    _ ≤ i.planeSize (i.planeTexel a) := Nat.le_mul_of_pos_right _ hpitch
    _ ≤ i.planeOffset a + i.planeSize (i.planeTexel a) := Nat.le_add_left _ _
    _ ≤ i.size := planeOffset_add_le ha

/-! ## Checked access -/

theorem checkLevel_eq (hv : i.Valid) {level : Nat} (h : level < i.mipLevels) :
    checkLevel level = .ok () := by
  have hle := hv.levels_le_maxLevels
  have hmax : maxLevels = 15 := rfl
  exact if_pos (by omega)

variable {level layer : Nat}

theorem subresourceOffset_eq (ha : a ∈ i.format.aspects.toList) (hl : level < i.mipLevels)
    (hk : layer < i.arrayLayers) :
    i.subresourceOffset a level layer = .ok (i.planeOffset a +
      layer * i.layerPitch (i.planeTexel a) + i.levelOffset (i.planeTexel a) level) := by
  have hcond : ¬ (i.mipLevels ≤ level ∨ i.arrayLayers ≤ layer) := by omega
  simp only [subresourceOffset, hcond, if_false, texelSize_eq ha, ok_bind]
  rfl

theorem texelOffset_eq (ha : a ∈ i.format.aspects.toList) (hl : level < i.mipLevels)
    (hk : layer < i.arrayLayers) (p : Extent) :
    i.texelOffset p a level layer = .ok (i.planeOffset a +
      layer * i.layerPitch (i.planeTexel a) + i.levelOffset (i.planeTexel a) level +
      p.depth * i.slicePitch (i.planeTexel a) level +
      p.height * i.rowPitch (i.planeTexel a) level + p.width * i.planeTexel a) := by
  simp only [texelOffset, subresourceOffset_eq ha hl hk, texelSize_eq ha, ok_bind]
  rfl

theorem samplePitch?_eq (hv : i.Valid) (ha : a ∈ i.format.aspects.toList)
    (hl : level < i.mipLevels) :
    i.samplePitch? a level = .ok (i.samplePitch (i.planeTexel a) level) := by
  simp only [samplePitch?, checkLevel_eq hv hl, texelSize_eq ha, ok_bind]
  rfl

end ImageInfo

end HostGpu
