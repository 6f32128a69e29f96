import HostGpu.Proofs.Image.Planes
import Mathlib.Data.Nat.Log
import Mathlib.Logic.Function.Iterate

/-!
# The full chain of mip levels

Every level of the chain halves the one before, where a side of one texel stays one
(`Extent.halve`), so that a level of a level is a level of the first extent.  The number of levels
is computed from the bits of all sides together: it is the least `n` such that every side is below
`2 ^ n` (`Extent.maxMipLevels_le_iff`).  A level is a single texel exactly if every side is below
the next power of two (`Extent.level_eq_single`), so that the number of levels is the length of the
chain down to its first single texel.
-/

namespace HostGpu

/-! ## Extents -/

namespace Extent

/-- The extent of one texel. -/
def single : Extent := ⟨1, 1, 1⟩

/-- The longest side. -/
def longest (e : Extent) : Nat := max e.width (max e.height e.depth)

/-- The extent of the next level: half of every side, but one texel at least. -/
def halve (e : Extent) : Extent := e.map fun n => max (n / 2) 1

variable {e : Extent}

theorem halve_eq (e : Extent) : e.halve = e.level 1 := by
  simp only [halve, level, Nat.shiftRight_one]

theorem forall_lt_iff {n : Nat} : (∀ side ∈ e.toList, side < n) ↔ e.longest < n := by
  simp [toList, longest]

theorem longest_pos (h : ∀ side ∈ e.toList, 0 < side) : 0 < e.longest :=
  lt_max_of_lt_left (h e.width (by simp [toList]))

/-- All sides together have as many bits as the longest one. -/
theorem or_lt_two_pow_iff {n : Nat} :
    e.width ||| e.height ||| e.depth < 2 ^ n ↔ e.longest < 2 ^ n := by
  rw [longest, max_lt_iff, max_lt_iff]
  constructor
  · intro h
    have hplane : e.width ||| e.height < 2 ^ n := Nat.left_le_or.trans_lt h
    exact ⟨Nat.left_le_or.trans_lt hplane, Nat.right_le_or.trans_lt hplane,
      Nat.right_le_or.trans_lt h⟩
  · rintro ⟨hwidth, hheight, hdepth⟩
    exact Nat.or_lt_two_pow (Nat.or_lt_two_pow hwidth hheight) hdepth

/-- The number of levels is the number of bits of the longest side. -/
theorem maxMipLevels_le_iff {n : Nat} : e.maxMipLevels ≤ n ↔ e.longest < 2 ^ n := by
  rw [← or_lt_two_pow_iff, maxMipLevels]
  by_cases hsides : e.width ||| e.height ||| e.depth = 0
  · simp [hsides]
  · simp only [if_neg hsides, Nat.add_one_le_iff, Nat.log2_lt hsides]

/-- The logarithm of the longest side, and one more for the first level. -/
theorem maxMipLevels_eq_log (h : 0 < e.longest) : e.maxMipLevels = Nat.log 2 e.longest + 1 := by
  refine eq_of_forall_ge_iff fun n => ?_
  rw [maxMipLevels_le_iff, Nat.add_one_le_iff, Nat.log_lt_iff_lt_pow (by decide) h.ne']

/-- For sides of 32 bits the number of levels is what leading zeros leave of them. -/
theorem maxMipLevels_eq_clz (w h d : UInt32) :
    maxMipLevels ⟨w.toNat, h.toNat, d.toNat⟩ = 32 - (w ||| h ||| d).toBitVec.clz.toNat := by
  have hbits (n : Nat) : maxMipLevels ⟨w.toNat, h.toNat, d.toNat⟩ ≤ n ↔
      (w ||| h ||| d).toBitVec.toNat < 2 ^ n := by
    rw [maxMipLevels_le_iff, ← or_lt_two_pow_iff, UInt32.toNat_toBitVec, UInt32.toNat_or,
      UInt32.toNat_or]
  refine Nat.le_antisymm ((hbits _).mpr BitVec.toNat_lt_two_pow_sub_clz) ?_
  by_cases hzero : (w ||| h ||| d).toBitVec = 0#32
  · rw [hzero]
    exact Nat.zero_le _
  · -- The first bit after the leading zeros is a one, so fewer bits do not suffice.
    have hlow := BitVec.two_pow_sub_clz_le_toNat_of_ne_zero (by decide) hzero
    have hmore := mt (hbits _).mp (Nat.not_lt.mpr hlow)
    omega

/-! ## Levels -/

/-- A level of a level is a level of the first extent, although sides stop at one in between. -/
theorem level_level (e : Extent) (b l : Nat) : (e.level b).level l = e.level (b + l) := by
  have hside (n : Nat) : max ((max (n >>> b) 1) >>> l) 1 = max (n >>> (b + l)) 1 := by
    rw [Nat.shiftRight_add]
    rcases Nat.eq_zero_or_pos (n >>> b) with hzero | hpos
    · have hone : 1 >>> l ≤ 1 := Nat.shiftRight_le 1 l
      rw [hzero, Nat.zero_shiftRight, Nat.max_eq_right (Nat.zero_le 1)]
      omega
    · rw [Nat.max_eq_left hpos]
  simp only [level, map, hside]

/-- The first level of an extent without empty sides is the extent, and every other one halves the
level before. -/
theorem level_eq_iterate (h : ∀ side ∈ e.toList, 0 < side) (l : Nat) :
    e.level l = halve^[l] e := by
  induction l with
  | zero => exact e.level_zero h
  | succ l ih =>
    rw [Function.iterate_succ_apply', ← ih, halve_eq, level_level]

/-- A level is a single texel if one more halving would leave nothing of any side. -/
theorem level_eq_single {l : Nat} : e.level l = single ↔ e.longest < 2 ^ (l + 1) := by
  have hside (n : Nat) : max (n >>> l) 1 = 1 ↔ n < 2 ^ (l + 1) := by
    rw [Nat.pow_succ, Nat.shiftRight_eq_div_pow, Nat.mul_comm, ← Nat.div_lt_iff_lt_mul
      (Nat.two_pow_pos l)]
    omega
  rw [← forall_lt_iff]
  simp [level, map, single, toList, hside]

end Extent

/-! ## Images -/

/-- **The number of levels is the length of the full chain.**  For every extent without empty sides
it is one more than the rounded-down binary logarithm of the longest side, and for sides of 32 bits
it is what the leading zeros of the sides, combined bit by bit, leave of the 32 bits.  Level `l` of
every image is its extent halved `l` times, and is a single texel exactly from the last level of the
chain on. -/
theorem ImageInfo.mip_chain_ends_at_max_levels :
    (∀ e : Extent, (∀ side ∈ e.toList, 0 < side) →
      e.maxMipLevels = Nat.log 2 (max e.width (max e.height e.depth)) + 1) ∧
    (∀ w h d : UInt32, Extent.maxMipLevels ⟨w.toNat, h.toNat, d.toNat⟩ =
      32 - (w ||| h ||| d).toBitVec.clz.toNat) ∧
    ∀ i : ImageInfo, i.check = .ok () → ∀ l < 32, ∃ e, i.levelExtent? l = .ok e ∧
      e = Extent.halve^[l] i.extent ∧ (e = ⟨1, 1, 1⟩ ↔ i.extent.maxMipLevels - 1 ≤ l) := by
  refine ⟨fun e hpos => e.maxMipLevels_eq_log (Extent.longest_pos hpos),
    Extent.maxMipLevels_eq_clz, ?_⟩
  intro i hcheck l hl
  have hpos := (check_eq_ok.mp hcheck).extent
  have hlevel : i.levelExtent? l = .ok (i.extent.level l) := by
    rw [levelExtent?, checkLevel, if_pos hl]
    rfl
  have hsingle : i.extent.level l = ⟨1, 1, 1⟩ ↔ i.extent.maxMipLevels ≤ l + 1 :=
    Extent.level_eq_single.trans Extent.maxMipLevels_le_iff.symm
  refine ⟨_, hlevel, Extent.level_eq_iterate hpos l, hsingle.trans ?_⟩
  omega

/-- A plane of 300 by 2 texels has nine levels, the last but one of which is two texels wide. -/
theorem ImageInfo.nine_levels_of_plane :
    let i : ImageInfo := { format := .r8Unorm, extent := ⟨300, 2, 1⟩ }
    i.check = .ok () ∧ i.extent.maxMipLevels = 9 ∧ i.levelExtent? 7 = .ok ⟨2, 1, 1⟩ ∧
      i.levelExtent? 8 = .ok ⟨1, 1, 1⟩ := by
  intro i
  obtain ⟨hlog, -, hlevels⟩ := mip_chain_ends_at_max_levels
  have hcheck : i.check = .ok () := check_eq_ok.mpr (by constructor <;> decide)
  have hmost : i.extent.maxMipLevels = 9 := (hlog i.extent (by decide)).trans (by decide)
  obtain ⟨e₇, h₇, heq₇, -⟩ := hlevels i hcheck 7 (by decide)
  obtain ⟨e₈, h₈, -, hsingle⟩ := hlevels i hcheck 8 (by decide)
  refine ⟨hcheck, hmost, h₇.trans (congrArg Except.ok (heq₇.trans (by decide))), ?_⟩
  rw [h₈, hsingle.mpr (by omega)]

end HostGpu
