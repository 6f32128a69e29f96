import HostGpu.Proofs.Image.Planes
import Mathlib.Algebra.BigOperators.Group.Finset.Basic
import Mathlib.Tactic.Ring

/-!
# The memory of new images

An image gets one zeroed byte for each byte of each sample of all its levels, layers and aspects
(`ImageInfo.byteCount`).  The size is computed by products and sums in words of 64 bits, each of
which faults if it does not fit, and is compared with the largest size of a block only at the end
(`ImageInfo.checkedSize`).  As all factors are positive, some step does not fit exactly if the whole
size does not.  So parameters that obey all rules are refused for lack of memory only as long as
their size fits in 64 bits: `Image.new_images_are_zeroed_or_refused`.
-/

namespace HostGpu

open Outcome

/-! ## Arithmetic in 64 bits -/

/-- A number that has to fit in 64 bits. -/
def checked (n : Nat) : Except Fault Nat :=
  if n < Image.sizeLimit then .ok n else .error .numberOutOfRange

/-- The sum of terms that may not fit, taken in order; each partial sum has to fit. -/
def checkedSum {α : Type} (term : α → Except Fault Nat) : (start : Nat) → List α → Except Fault Nat
  | start, [] => .ok start
  | start, x :: xs => do checkedSum term (← checked (start + (← term x))) xs

theorem checked_of_lt {n : Nat} (h : n < Image.sizeLimit) : checked n = .ok n := if_pos h

theorem checked_of_le {n : Nat} (h : Image.sizeLimit ≤ n) :
    checked n = .error .numberOutOfRange := if_neg (Nat.not_lt.mpr h)

/-- A number that is part of a larger one need not be checked before it. -/
theorem checked_bind {f : Nat → Nat} {n : Nat} (h : n ≤ f n) :
    (checked n >>= fun m => checked (f m)) = checked (f n) := by
  by_cases hn : n < Image.sizeLimit
  · rw [checked_of_lt hn, ok_bind]
  · rw [checked_of_le (by omega), checked_of_le (by omega), error_bind]

/-- The partial sums fit if the whole sum does. -/
theorem checkedSum_eq {α : Type} {term : α → Except Fault Nat} {size : α → Nat} {xs : List α}
    (h : ∀ x ∈ xs, term x = checked (size x)) {start : Nat} (hstart : start < Image.sizeLimit) :
    checkedSum term start xs = checked (start + (xs.map size).sum) := by
  induction xs generalizing start with
  | nil => exact (checked_of_lt hstart).symm
  | cons x xs ih =>
    rw [List.forall_mem_cons] at h
    have hstep : (term x >>= fun n => checked (start + n)) = checked (start + size x) := by
      rw [h.1, checked_bind (Nat.le_add_left _ _)]
    have hsum : checkedSum term start (x :: xs) =
        (term x >>= fun n => checked (start + n)) >>= fun sum => checkedSum term sum xs :=
      (bind_assoc _ _ _).symm
    rw [hsum, hstep, List.map_cons, List.sum_cons, ← Nat.add_assoc]
    by_cases hfits : start + size x < Image.sizeLimit
    · rw [checked_of_lt hfits, ok_bind, ih h.2 hfits]
    · rw [checked_of_le (by omega), checked_of_le (by omega), error_bind]

namespace ImageInfo

/-! ## Bytes of images -/

/-- The bytes of all samples of all levels, layers and aspects. -/
def byteCount (i : ImageInfo) : Nat :=
  (i.format.aspects.toList.map fun a =>
    ∑ _layer ∈ Finset.range i.arrayLayers, ∑ level ∈ Finset.range i.mipLevels,
      ∑ _sample ∈ Finset.range i.samples.count,
        (i.levelExtent level).texels * i.planeTexel a).sum

/-- The planes together have the bytes of all samples. -/
theorem byteCount_eq_size (i : ImageInfo) : i.byteCount = i.size := by
  have hlevel (texel level : Nat) : ∑ _sample ∈ Finset.range i.samples.count,
      (i.levelExtent level).texels * texel = i.levelSize texel level := by
    rw [Finset.sum_const_nat fun _ _ => rfl, Finset.card_range, levelSize, samplePitch, slicePitch,
      rowPitch, Extent.texels]
    ring
  have hplane (texel : Nat) : ∑ _layer ∈ Finset.range i.arrayLayers,
      ∑ level ∈ Finset.range i.mipLevels, i.levelSize texel level = i.planeSize texel := by
    rw [Finset.sum_const_nat fun _ _ => rfl, Finset.card_range]
    rfl
  simp only [byteCount, hlevel, hplane, size]

/-! ## The size as it is computed -/

/-- The size of a level of one layer, from its rows on. -/
def checkedLevelSize (i : ImageInfo) (texel level : Nat) : Except Fault Nat := do
  let row ← checked ((i.levelExtent level).width * texel)
  let slice ← checked ((i.levelExtent level).height * row)
  let sample ← checked ((i.levelExtent level).depth * slice)
  checked (i.samples.count * sample)

/-- The size of a plane: the levels of one layer are added up, and there are several layers. -/
def checkedPlaneSize (i : ImageInfo) (texel : Nat) : Except Fault Nat := do
  let layer ← checkedSum (i.checkedLevelSize texel) 0 (List.range i.mipLevels)
  checked (i.arrayLayers * layer)

/-- The size of all planes. -/
def checkedSize (i : ImageInfo) : Except Fault Nat :=
  checkedSum (fun a => i.checkedPlaneSize (i.planeTexel a)) 0 i.format.aspects.toList

theorem checkedLevelSize_eq (i : ImageInfo) (texel level : Nat) :
    i.checkedLevelSize texel level = checked (i.levelSize texel level) := by
  have hslice := checked_bind (f := ((i.levelExtent level).height * ·))
    (i.rowPitch_le_slicePitch texel level)
  have hsample := checked_bind (f := ((i.levelExtent level).depth * ·))
    (i.slicePitch_le_samplePitch texel level)
  have hlevel := checked_bind (f := (i.samples.count * ·)) (i.samplePitch_le_levelSize texel level)
  calc i.checkedLevelSize texel level
    _ = ((checked (i.rowPitch texel level) >>= fun row =>
          checked ((i.levelExtent level).height * row)) >>= fun slice =>
          checked ((i.levelExtent level).depth * slice)) >>= fun sample =>
          checked (i.samples.count * sample) := by
      rw [bind_assoc, bind_assoc]
      rfl
    _ = checked (i.levelSize texel level) := by
      rw [hslice]
      exact (congrArg (· >>= _) hsample).trans hlevel

variable {i : ImageInfo} (hv : i.Valid)
include hv

theorem Valid.checkedPlaneSize_eq (texel : Nat) :
    i.checkedPlaneSize texel = checked (i.planeSize texel) := by
  have hlayer : checkedSum (i.checkedLevelSize texel) 0 (List.range i.mipLevels) =
      checked (i.layerPitch texel) :=
    (checkedSum_eq (fun level _ => i.checkedLevelSize_eq texel level) (by decide)).trans
      (congrArg checked (Nat.zero_add _))
  rw [checkedPlaneSize, hlayer]
  exact checked_bind (f := (i.arrayLayers * ·)) (Nat.le_mul_of_pos_left _ hv.layers_pos)

/-- **Some step does not fit exactly if the whole size does not.** -/
theorem Valid.checkedSize_eq : i.checkedSize = checked i.size :=
  (checkedSum_eq (fun a _ => hv.checkedPlaneSize_eq (i.planeTexel a)) (by decide)).trans
    (congrArg checked (Nat.zero_add _))

end ImageInfo

/-! ## New images -/

/-- The bytes of a block of zeros. -/
theorem Memory.bytes_zeroed (size : Nat) : (zeroed size).bytes = List.replicate size 0 := by
  rw [bytes, loadBytes]
  simp only [byte_zeroed, List.map_const', List.length_range]
  rfl

namespace Image

variable {device block : Nat} {i : ImageInfo}

/-- Parameters that break a rule are refused for it. -/
theorem create_of_violation {v : ImageInfo.Violation} (h : i.check = .error v) :
    create device block i = .error (.invalid (v.error.within "create_info")) := by
  rw [create, h]
  rfl

/-- What is made of parameters that obey all rules. -/
theorem create_of_valid (hv : i.Valid) : create device block i =
    if sizeLimit ≤ i.size then .error (.fault .numberOutOfRange)
    else if Memory.maxSize < i.size then .error (.exhausted .outOfDeviceMemory)
    else .ok (⟨device, block, i⟩, .zeroed i.size) := by
  have hcheck : i.check = .ok () := ImageInfo.check_eq_ok.mpr hv
  by_cases hlimit : sizeLimit ≤ i.size
  · rw [create, hcheck, if_pos hlimit, if_pos hlimit]
    rfl
  · by_cases hmax : Memory.maxSize < i.size
    · rw [create, hcheck, Memory.allocate, if_neg hlimit, if_neg hlimit, if_pos hmax, if_pos hmax]
      rfl
    · rw [create, hcheck, Memory.allocate, if_neg hlimit, if_neg hlimit, if_neg hmax, if_neg hmax]
      rfl

/-- **New images have zeroed memory, or are refused.**  Parameters that break a rule are refused for
the first one that they break.  If the parameters obey all rules and their bytes are counted in 64
bits, they are refused for lack of memory if the bytes are more than the largest block has, and else
the image is made and its memory is as many zeros.  They fault exactly if the number of bytes does
not fit in 64 bits; that is when some step does not fit of the computation of their size. -/
theorem new_images_are_zeroed_or_refused (device block : Nat) (i : ImageInfo) :
    (∀ v, i.check = .error v →
      create device block i = .error (.invalid (v.error.within "create_info"))) ∧
    (i.check = .ok () →
      (i.byteCount < 2 ^ 64 → Memory.maxSize < i.byteCount →
        create device block i = .error (.exhausted .outOfDeviceMemory)) ∧
      (i.byteCount ≤ Memory.maxSize → ∃ memory,
        create device block i = .ok (⟨device, block, i⟩, memory) ∧
          memory.bytes = List.replicate i.byteCount 0) ∧
      ((∃ f, create device block i = .error (.fault f)) ↔ 2 ^ 64 ≤ i.byteCount) ∧
      i.checkedSize = checked i.byteCount) := by
  have hsizeLimit : 2 ^ 64 = sizeLimit := rfl
  have hmaxSize : Memory.maxSize < sizeLimit := by decide
  refine ⟨fun v => create_of_violation, fun hcheck => ?_⟩
  have hv := ImageInfo.check_eq_ok.mp hcheck
  rw [create_of_valid hv, hv.checkedSize_eq, i.byteCount_eq_size, hsizeLimit]
  refine ⟨fun hlimit hmax => ?_, fun hmax => ?_, ⟨?_, fun hlimit => ?_⟩, rfl⟩
  · rw [if_neg (Nat.not_le.mpr hlimit), if_pos hmax]
  · rw [if_neg (by omega), if_neg (Nat.not_lt.mpr hmax)]
    exact ⟨_, rfl, Memory.bytes_zeroed _⟩
  · rintro ⟨f, hfault⟩
    by_contra hlimit
    rw [if_neg hlimit] at hfault
    split at hfault <;> cases hfault
  · exact ⟨_, if_pos hlimit⟩

/-! ### Large squares -/

/-- A square image of bytes or words. -/
def square (format : Format) (side : Nat) : ImageInfo := { format, extent := ⟨side, side, 1⟩ }

/-- A square without texels is refused for its extent, one of `2 ^ 62` bytes for lack of memory, and
one of four bytes is made. -/
theorem square_of_bytes_is_refused :
    create 0 0 (square .r8Unorm 0) =
      .error (.invalid (ImageInfo.Violation.emptyExtent.error.within "create_info")) ∧
    (square .r8Unorm (2 ^ 31)).byteCount = 2 ^ 62 ∧
    create 0 0 (square .r8Unorm (2 ^ 31)) = .error (.exhausted .outOfDeviceMemory) ∧
    ∃ memory, create 0 0 (square .r8Unorm 2) = .ok (⟨0, 0, square .r8Unorm 2⟩, memory) ∧
      memory.bytes = [0, 0, 0, 0] := by
  have hlarge : (square .r8Unorm (2 ^ 31)).byteCount = 2 ^ 62 := by decide +kernel
  have hsmall : (square .r8Unorm 2).byteCount = 4 := by decide +kernel
  obtain ⟨hempty, -⟩ := new_images_are_zeroed_or_refused 0 0 (square .r8Unorm 0)
  obtain ⟨-, hrefused⟩ := new_images_are_zeroed_or_refused 0 0 (square .r8Unorm (2 ^ 31))
  obtain ⟨-, hmade⟩ := new_images_are_zeroed_or_refused 0 0 (square .r8Unorm 2)
  refine ⟨hempty _ (by decide +kernel), hlarge, (hrefused (by decide +kernel)).1 ?_ ?_, ?_⟩
  · rw [hlarge]
    decide
  · rw [hlarge]
    decide
  · obtain ⟨memory, hcreate, hbytes⟩ := (hmade (by decide +kernel)).2.1 (by rw [hsmall]; decide)
    exact ⟨memory, hcreate, hbytes.trans (by rw [hsmall]; rfl)⟩

/-- The same square of words has `2 ^ 64` bytes; it obeys all rules, and faults. -/
theorem square_of_words_faults : ¬ ∀ (device block : Nat) (i : ImageInfo), i.check = .ok () →
    Memory.maxSize < i.byteCount →
    create device block i = .error (.exhausted .outOfDeviceMemory) := by
  intro hclaim
  have hfault : create 0 0 (square .r8g8b8a8Unorm (2 ^ 31)) =
      .error (.fault .numberOutOfRange) := by rfl
  have hrefused := hclaim 0 0 (square .r8g8b8a8Unorm (2 ^ 31)) (by decide +kernel)
    (by decide +kernel)
  rw [hfault] at hrefused
  cases hrefused

end Image

end HostGpu
