import HostGpu.Proofs.Number.BinaryFormat
import Mathlib.Algebra.Order.Field.Basic
import Mathlib.Algebra.Order.Field.Rat
import Mathlib.Data.Rat.Cast.Order
import Mathlib.Tactic.Linarith

/-!
# Rounding to the numbers of a format

A finite code stands for a rational number.  A conversion goes to the nearest number
(`BinaryFormat.convert_eq`) and so passes no number of the format (`BinaryFormat.le_convert`,
`BinaryFormat.convert_le`).  If fraction bits are cut afterwards, the result is the greatest number
of the shorter format that is not above the one that was converted, unless the conversion went to
the next number of the shorter format (`BinaryFormat.Extends.convert_div`).
-/

namespace HostGpu

-- Powers mean the same whether or not algebra is in scope.
attribute [local instance (high)] instPowNat

namespace BinaryFormat

variable {e f g : BinaryFormat} {c d k : Nat}

/-! ## Numbers -/

/-- The number that a finite code stands for. -/
def value (f : BinaryFormat) (c : Nat) : ℚ := f.units c / 2 ^ f.scale

/-- The number between those of a code and the next one. -/
def midpoint (f : BinaryFormat) (c : Nat) : ℚ := (f.value c + f.value (c + 1)) / 2

theorem value_le_value_iff :
    f.value k ≤ g.value c ↔ f.units k * 2 ^ g.scale ≤ g.units c * 2 ^ f.scale := by
  rw [value, value, div_le_div_iff₀ (by positivity) (by positivity)]
  exact_mod_cast Iff.rfl

theorem value_lt_value_iff :
    f.value k < g.value c ↔ f.units k * 2 ^ g.scale < g.units c * 2 ^ f.scale := by
  rw [← not_le, value_le_value_iff, Nat.not_le]

theorem value_strictMono (f : BinaryFormat) : StrictMono f.value := by
  intro c c' h
  rw [value_lt_value_iff]
  exact Nat.mul_lt_mul_of_pos_right (f.units_strictMono h) (Nat.two_pow_pos _)

theorem value_eq_value (h : f.units k * 2 ^ g.scale = g.units c * 2 ^ f.scale) :
    f.value k = g.value c :=
  le_antisymm (value_le_value_iff.mpr h.le) (value_le_value_iff.mpr h.ge)

/-- A number lies between those of two codes that follow each other. -/
theorem exists_value_between (f g : BinaryFormat) (k : Nat) :
    ∃ c, g.value c ≤ f.value k ∧ f.value k < g.value (c + 1) := by
  obtain ⟨c, hle, hlt⟩ : ∃ c, g.units c * 2 ^ f.scale ≤ f.units k * 2 ^ g.scale ∧
      f.units k * 2 ^ g.scale < g.units (c + 1) * 2 ^ f.scale :=
    g.exists_between (Nat.two_pow_pos f.scale)
  exact ⟨c, value_le_value_iff.mpr hle, value_lt_value_iff.mpr hlt⟩

/-- **Conversion goes to the nearest number,** at a midpoint to the one with the even code. -/
theorem convert_eq (hg : 0 < g.fractionBits) (hle : g.value c ≤ f.value k)
    (hlt : f.value k < g.value (c + 1)) : f.convert g k = min
      (if f.value k < g.midpoint c then c else if g.midpoint c < f.value k then c + 1
        else c + c % 2) g.infinity := by
  have hmid : g.midpoint c = (g.units c + g.units (c + 1) : ℚ) / (2 * 2 ^ g.scale) := by
    rw [midpoint, value, value, ← add_div, div_div, mul_comm]
  have hlow : f.value k < g.midpoint c ↔ 2 * (f.units k * 2 ^ g.scale) <
      (g.units c + g.units (c + 1)) * 2 ^ f.scale := by
    rw [hmid, value, div_lt_div_iff₀ (by positivity) (by positivity), mul_left_comm]
    exact_mod_cast Iff.rfl
  have hhigh : g.midpoint c < f.value k ↔ (g.units c + g.units (c + 1)) * 2 ^ f.scale <
      2 * (f.units k * 2 ^ g.scale) := by
    rw [hmid, value, div_lt_div_iff₀ (by positivity) (by positivity), mul_left_comm (f.units k : ℚ)]
    exact_mod_cast Iff.rfl
  simp only [hlow, hhigh]
  exact ofRatio_eq hg (Nat.two_pow_pos _) (value_le_value_iff.mp hle) (value_lt_value_iff.mp hlt)

theorem value_lt_midpoint (f : BinaryFormat) (c : Nat) : f.value c < f.midpoint c := by
  have hstep := f.value_strictMono (Nat.lt_succ_self c)
  rw [midpoint]
  linarith

theorem midpoint_lt_value (f : BinaryFormat) (c : Nat) : f.midpoint c < f.value (c + 1) := by
  have hstep := f.value_strictMono (Nat.lt_succ_self c)
  rw [midpoint]
  linarith

/-- Conversion does not go below a number of the format. -/
theorem le_convert (hg : 0 < g.fractionBits) (hc : c ≤ g.infinity) (h : g.value c ≤ f.value k) :
    c ≤ f.convert g k := by
  obtain ⟨n, hle, hlt⟩ := exists_value_between f g k
  have hcn : c < n + 1 := g.value_strictMono.lt_iff_lt.mp (h.trans_lt hlt)
  rw [convert_eq hg hle hlt]
  refine Nat.le_min.mpr ⟨?_, hc⟩
  split_ifs <;> omega

/-- Conversion does not go above a number of the format. -/
theorem convert_le (hg : 0 < g.fractionBits) (h : f.value k ≤ g.value c) : f.convert g k ≤ c := by
  obtain ⟨n, hle, hlt⟩ := exists_value_between f g k
  have hnc : n ≤ c := g.value_strictMono.le_iff_le.mp (hle.trans h)
  rw [convert_eq hg hle hlt]
  refine (Nat.min_le_left _ _).trans ?_
  by_cases heq : n = c
  · subst heq
    rw [if_pos (h.trans_lt (g.value_lt_midpoint n))]
  · split_ifs <;> omega

/-- **Conversion stays below an even code below the midpoint before it.** -/
theorem convert_lt_succ_iff (hg : 0 < g.fractionBits) (hodd : c % 2 = 1) (hc : c < g.infinity) :
    f.convert g k < c + 1 ↔ f.value k < g.midpoint c := by
  by_cases hlow : f.value k ≤ g.value c
  · exact iff_of_true (Nat.lt_succ_of_le (convert_le hg hlow))
      (hlow.trans_lt (g.value_lt_midpoint c))
  · by_cases hhigh : g.value (c + 1) ≤ f.value k
    · exact iff_of_false (Nat.not_lt.mpr (le_convert hg hc hhigh))
        ((g.midpoint_lt_value c).trans_le hhigh).not_gt
    · rw [convert_eq hg (le_of_not_ge hlow) (lt_of_not_ge hhigh), hodd, ite_self]
      split_ifs with hmid
      · exact iff_of_true (by omega) hmid
      · exact iff_of_false (by omega) hmid

/-- The code of the greatest finite number that is not above a number. -/
structure IsFloor (f : BinaryFormat) (x : ℚ) (c : Nat) : Prop where
  finite : c < f.infinity
  le : f.value c ≤ x
  greatest : ∀ c' < f.infinity, f.value c' ≤ x → c' ≤ c

theorem IsFloor.unique {x : ℚ} {c' : Nat} (h : f.IsFloor x c) (h' : f.IsFloor x c') : c = c' :=
  Nat.le_antisymm (h'.greatest c h.finite h.le) (h.greatest c' h'.finite h'.le)

theorem isFloor_of_lt_next {x : ℚ} (hc : c < f.infinity) (hle : f.value c ≤ x)
    (hlt : x < f.value (c + 1)) : f.IsFloor x c where
  finite := hc
  le := hle
  greatest _ _ hle' := Nat.le_of_lt_succ (f.value_strictMono.lt_iff_lt.mp (hle'.trans_lt hlt))

@[simp] theorem value_zero (f : BinaryFormat) : f.value 0 = 0 := by
  simp [value]

/-- No number that is not negative is below all numbers of a format. -/
theorem exists_isFloor {x : ℚ} (hx : 0 ≤ x) (hf : 0 < f.infinity) : ∃ c, f.IsFloor x c := by
  have hzero : f.value 0 ≤ x := by simpa using hx
  refine ⟨Nat.findGreatest (fun c => f.value c ≤ x) (f.infinity - 1), ?_, ?_, ?_⟩
  · have hle := Nat.findGreatest_le (P := fun c => f.value c ≤ x) (f.infinity - 1)
    omega
  · exact Nat.findGreatest_spec (P := fun c => f.value c ≤ x) (Nat.zero_le _) hzero
  · intro c' hc' hle
    exact Nat.le_findGreatest (by omega) hle

/-! ## Cutting fraction bits -/

namespace Extends

variable (h : f.Extends g d)
include h

theorem value_eq (c : Nat) : f.value (c * 2 ^ d) = g.value c := by
  refine value_eq_value ?_
  rw [h.units_eq, h.scale_eq, Nat.pow_add]
  ring

/-- **Rounding and then cutting bits.**  A number is converted to the format with more fraction
bits, and these are cut.  What is left is the greatest number of the shorter format that is not
above, or the next one if the number is not below the midpoint between this next one and the number
before it in the format with more bits. -/
theorem convert_div (hd : 0 < d) (hf : 0 < f.fractionBits) (hfloor : g.IsFloor (e.value k) c) :
    e.convert f k / 2 ^ d =
      if e.value k < f.midpoint ((c + 1) * 2 ^ d - 1) then c else c + 1 := by
  have hpos := Nat.two_pow_pos d
  have hnext : (c + 1) * 2 ^ d = c * 2 ^ d + 2 ^ d := by ring
  have hlast : (c + 1) * 2 ^ d - 1 + 1 = (c + 1) * 2 ^ d := by omega
  have htop : (c + 1) * 2 ^ d ≤ f.infinity := by
    rw [← h.infinity_eq]
    exact Nat.mul_le_mul_right _ hfloor.finite
  have hodd : ((c + 1) * 2 ^ d - 1) % 2 = 1 := by
    have heven : 2 ∣ (c + 1) * 2 ^ d := dvd_mul_of_dvd_right (dvd_pow_self 2 hd.ne') _
    omega
  have hlow : c * 2 ^ d ≤ e.convert f k :=
    le_convert hf (by omega) ((h.value_eq c).trans_le hfloor.le)
  have hhigh : e.convert f k ≤ (c + 1) * 2 ^ d := by
    by_cases hfinite : c + 1 < g.infinity
    · refine convert_le hf (le_of_not_ge fun hge => ?_)
      have hle := hfloor.greatest (c + 1) hfinite ((h.value_eq (c + 1)).ge.trans hge)
      omega
    · -- the next code is infinity, and no code is larger
      have hinfinity : g.infinity = c + 1 := Nat.le_antisymm (Nat.not_lt.mp hfinite) hfloor.finite
      rw [← hinfinity, h.infinity_eq]
      exact ofRatio_le_infinity f _ _
  have hround := convert_lt_succ_iff (f := e) (k := k) hf hodd (by omega)
  rw [hlast] at hround
  simp only [← hround]
  split_ifs with hless
  · exact Nat.div_eq_of_lt_le hlow hless
  · rw [Nat.le_antisymm hhigh (Nat.not_lt.mp hless)]
    exact Nat.mul_div_cancel _ hpos

end Extends

end BinaryFormat

end HostGpu
