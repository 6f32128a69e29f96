import HostGpu.Number.BinaryFormat
import Mathlib.Algebra.Order.Ring.Nat
import Mathlib.Order.WellFounded
import Mathlib.Tactic.Ring

/-!
# Codes and numbers of a binary format

Codes are ordered as the numbers that they stand for (`BinaryFormat.units_strictMono`), so that a
quotient lies between the numbers of one code and of the next.  `BinaryFormat.ofRatio` gives the
first of these below their midpoint and the second one above it, and the even one at the midpoint
(`BinaryFormat.ofRatio_eq`); a number of the format is not changed.  A conversion to a format that
has the number is therefore exact (`BinaryFormat.convert_of_same`), and formats that widen another
one have all its numbers (`BinaryFormat.Widens`).
-/

namespace HostGpu

-- Powers mean the same whether or not algebra is in scope.
attribute [local instance (high)] instPowNat

/-- Rounding between two integers goes by their midpoint. -/
theorem roundHalfEven_eq {num den q : Nat} (hle : q * den ≤ num) (hlt : num < (q + 1) * den) :
    roundHalfEven num den =
      if 2 * num < (2 * q + 1) * den then q
      else if (2 * q + 1) * den < 2 * num then q + 1
      else q + q % 2 := by
  have hnext : (q + 1) * den = q * den + den := by ring
  have hmid : (2 * q + 1) * den = 2 * (q * den) + den := by ring
  have hdiv : num / den = q := Nat.div_eq_of_lt_le hle hlt
  have hmod : num % den = num - q * den := by
    rw [Nat.mod_eq_sub_mul_div, hdiv, Nat.mul_comm]
  rw [roundHalfEven, hdiv, hmod, hmid]
  have hlow : 2 * (num - q * den) < den ↔ 2 * num < 2 * (q * den) + den := by omega
  have hhigh : den < 2 * (num - q * den) ↔ 2 * (q * den) + den < 2 * num := by omega
  simp only [hlow, hhigh]

namespace BinaryFormat

variable {f g : BinaryFormat} {c s m : Nat}

/-! ## Codes in order -/

/-- Every doubling of the step between numbers raises the code by one fraction field. -/
theorem units_step (hm : m ≤ 2 * 2 ^ f.fractionBits) (h : s = 0 ∨ 2 ^ f.fractionBits ≤ m) :
    f.units (s * 2 ^ f.fractionBits + m) = m * 2 ^ s := by
  have hpos : 0 < 2 ^ f.fractionBits := Nat.two_pow_pos _
  rw [units]
  generalize 2 ^ f.fractionBits = fraction at *
  by_cases hsmall : m < fraction
  · obtain rfl : s = 0 := by omega
    simp [Nat.div_eq_of_lt hsmall, Nat.mod_eq_of_lt hsmall]
  · by_cases hlast : m = 2 * fraction
    · have hcode : s * fraction + m = (s + 2) * fraction := by
        rw [hlast]
        ring
      rw [hcode, Nat.mul_div_cancel _ hpos, Nat.mul_mod_left, if_neg (by omega), hlast,
        Nat.add_sub_assoc (by decide), Nat.pow_succ]
      ring
    · obtain ⟨t, rfl⟩ : ∃ t, m = fraction + t := ⟨m - fraction, by omega⟩
      have ht : t < fraction := by omega
      have hcode : s * fraction + (fraction + t) = t + (s + 1) * fraction := by ring
      rw [hcode, Nat.add_mul_div_right _ _ hpos, Nat.add_mul_mod_self_right,
        Nat.div_eq_of_lt ht, Nat.mod_eq_of_lt ht, if_neg (by omega), Nat.zero_add,
        Nat.add_sub_cancel]

/-- Every code is a number of steps above that of a number with this step. -/
theorem exists_step (f : BinaryFormat) (c : Nat) : ∃ s m, c = s * 2 ^ f.fractionBits + m ∧
    m < 2 * 2 ^ f.fractionBits ∧ (s = 0 ∨ 2 ^ f.fractionBits ≤ m) := by
  have hpos : 0 < 2 ^ f.fractionBits := Nat.two_pow_pos _
  generalize 2 ^ f.fractionBits = fraction at *
  have hmod := Nat.mod_lt c hpos
  have hcode := Nat.div_add_mod' c fraction
  cases he : c / fraction with
  | zero => exact ⟨0, c, by omega, by rw [he] at hcode; omega, .inl rfl⟩
  | succ s =>
    rw [he, Nat.add_mul] at hcode
    exact ⟨s, fraction + c % fraction, by omega, by omega, .inr (by omega)⟩

/-- The next code stands for the number one step above. -/
theorem units_step_succ (hm : m < 2 * 2 ^ f.fractionBits) (h : s = 0 ∨ 2 ^ f.fractionBits ≤ m) :
    f.units (s * 2 ^ f.fractionBits + m + 1) = (m + 1) * 2 ^ s := by
  rw [Nat.add_assoc]
  exact units_step hm (h.imp_right fun h => by omega)

/-- **Codes are ordered as their numbers.** -/
theorem units_strictMono (f : BinaryFormat) : StrictMono f.units := by
  refine strictMono_nat_of_lt_succ fun c => ?_
  obtain ⟨s, m, rfl, hm, h⟩ := f.exists_step c
  rw [units_step hm.le h, units_step_succ hm h]
  exact Nat.mul_lt_mul_of_pos_right (Nat.lt_succ_self m) (Nat.two_pow_pos s)

@[simp] theorem units_zero (f : BinaryFormat) : f.units 0 = 0 := by
  simp [units]

/-- Every quotient lies between the numbers of two codes that follow each other. -/
theorem exists_between (f : BinaryFormat) {num den : Nat} (hden : 0 < den) :
    ∃ c, f.units c * den ≤ num ∧ num < f.units (c + 1) * den := by
  have hlarge : ∃ c, num < f.units (c + 1) * den := by
    refine ⟨num, ?_⟩
    calc num < num + 1 := Nat.lt_succ_self num
      _ ≤ f.units (num + 1) := f.units_strictMono.le_apply
      _ ≤ f.units (num + 1) * den := Nat.le_mul_of_pos_right _ hden
  refine ⟨Nat.find hlarge, ?_, Nat.find_spec hlarge⟩
  cases hfind : Nat.find hlarge with
  | zero => simp
  | succ c => exact Nat.not_lt.mp (Nat.find_min hlarge (hfind ▸ Nat.lt_succ_self c))

/-! ## Rounding -/

/-- Numbers with a given step are rounded to multiples of it. -/
theorem log2_sub_fractionBits {num den : Nat} (hden : 0 < den)
    (hm : m < 2 * 2 ^ f.fractionBits) (h : s = 0 ∨ 2 ^ f.fractionBits ≤ m)
    (hle : m * 2 ^ s * den ≤ num) (hlt : num < (m + 1) * 2 ^ s * den) :
    (num / den).log2 - f.fractionBits = s := by
  have hlow : m * 2 ^ s ≤ num / den := (Nat.le_div_iff_mul_le hden).mpr hle
  have hhigh : num / den < (m + 1) * 2 ^ s := (Nat.div_lt_iff_lt_mul hden).mpr hlt
  have hbound : num / den < 2 ^ (f.fractionBits + s + 1) :=
    calc num / den
      _ < (m + 1) * 2 ^ s := hhigh
      _ ≤ 2 * 2 ^ f.fractionBits * 2 ^ s := Nat.mul_le_mul_right _ hm
      _ = 2 ^ (f.fractionBits + s + 1) := by rw [Nat.pow_succ, Nat.pow_add]; ring
  by_cases hzero : num / den = 0
  · have hs : s = 0 := by
      by_contra hs
      have hm' : 0 < m := (Nat.two_pow_pos _).trans_le (h.resolve_left hs)
      have hpos := Nat.mul_pos hm' (Nat.two_pow_pos s)
      omega
    rw [hzero, hs]
    exact Nat.zero_sub _
  · have hlog := (Nat.log2_lt hzero).mpr hbound
    rcases h with rfl | hfraction
    · omega
    · have hfull : 2 ^ (f.fractionBits + s) ≤ num / den := by
        rw [Nat.pow_add]
        exact (Nat.mul_le_mul_right _ hfraction).trans hlow
      have hlog' := (Nat.le_log2 hzero).mpr hfull
      omega

/-- **The nearest code.**  A quotient between two numbers that follow each other is rounded to the
first one below their midpoint and to the second one above it; at the midpoint to the one with the
even code. -/
theorem ofRatio_eq (hf : 0 < f.fractionBits) {num den : Nat} (hden : 0 < den)
    (hle : f.units c * den ≤ num) (hlt : num < f.units (c + 1) * den) :
    f.ofRatio num den = min
      (if 2 * num < (f.units c + f.units (c + 1)) * den then c
        else if (f.units c + f.units (c + 1)) * den < 2 * num then c + 1
        else c + c % 2) f.infinity := by
  obtain ⟨s, m, rfl, hm, h⟩ := f.exists_step c
  rw [units_step hm.le h] at hle ⊢
  rw [units_step_succ hm h] at hlt ⊢
  have hmid : (m * 2 ^ s + (m + 1) * 2 ^ s) * den = (2 * m + 1) * (den * 2 ^ s) := by ring
  have hle' : m * (den * 2 ^ s) ≤ num := by
    rwa [Nat.mul_comm den, ← Nat.mul_assoc]
  have hlt' : num < (m + 1) * (den * 2 ^ s) := by
    rwa [Nat.mul_comm den, ← Nat.mul_assoc]
  have hround := roundHalfEven_eq hle' hlt'
  have heven : s * 2 ^ f.fractionBits % 2 = 0 := by
    obtain ⟨k, hk⟩ := Nat.exists_eq_succ_of_ne_zero hf.ne'
    rw [hk, Nat.pow_succ, ← Nat.mul_assoc]
    exact Nat.mul_mod_left _ 2
  rw [ofRatio, log2_sub_fractionBits hden hm h hle hlt, hround, hmid]
  congr 1
  split
  · rfl
  · split
    · rfl
    · omega

/-- A number of the format is not changed. -/
theorem ofRatio_units {den : Nat} (hden : 0 < den) (hc : c ≤ f.infinity) :
    f.ofRatio (f.units c * den) den = c := by
  obtain ⟨s, m, rfl, hm, h⟩ := f.exists_step c
  rw [units_step hm.le h]
  have hlt : m * 2 ^ s * den < (m + 1) * 2 ^ s * den :=
    Nat.mul_lt_mul_of_pos_right
      (Nat.mul_lt_mul_of_pos_right (Nat.lt_succ_self m) (Nat.two_pow_pos s)) hden
  have hden' : 0 < den * 2 ^ s := Nat.mul_pos hden (Nat.two_pow_pos s)
  have hnum : m * 2 ^ s * den = m * (den * 2 ^ s) := by ring
  rw [ofRatio, log2_sub_fractionBits hden hm h (Nat.le_refl _) hlt, hnum,
    roundHalfEven_mul _ _ hden']
  exact Nat.min_eq_left hc

/-! ## Conversions -/

/-- A number that the other format has is converted to it. -/
theorem convert_of_same {c' : Nat} (h : f.units c * 2 ^ g.scale = g.units c' * 2 ^ f.scale)
    (hc' : c' ≤ g.infinity) : f.convert g c = c' := by
  rw [convert, h]
  exact ofRatio_units (Nat.two_pow_pos _) hc'

/-- A few fraction bits at any place above the smallest one are a number of the format. -/
theorem exists_units (hm : m < 2 * 2 ^ f.fractionBits) (k : Nat) :
    ∃ c, f.units c = m * 2 ^ k := by
  induction k generalizing m with
  | zero => exact ⟨0 * 2 ^ f.fractionBits + m, units_step hm.le (.inl rfl)⟩
  | succ k ih =>
    by_cases hfull : 2 ^ f.fractionBits ≤ m
    · exact ⟨(k + 1) * 2 ^ f.fractionBits + m, units_step hm.le (.inr hfull)⟩
    · -- the fraction field has room for one more bit
      obtain ⟨c, hc⟩ := ih (m := 2 * m) (by omega)
      refine ⟨c, hc.trans ?_⟩
      rw [Nat.pow_succ]
      ring

/-- The other format has at least as many fraction bits, and numbers at least as small and as
large. -/
structure Widens (f g : BinaryFormat) : Prop where
  fraction : f.fractionBits ≤ g.fractionBits
  scale : f.scale ≤ g.scale
  top : f.units f.infinity * 2 ^ g.scale ≤ g.units g.infinity * 2 ^ f.scale

/-- A wider format has every number. -/
theorem Widens.exists_same (h : f.Widens g) (hc : c < f.infinity) :
    ∃ c' < g.infinity, f.units c * 2 ^ g.scale = g.units c' * 2 ^ f.scale := by
  obtain ⟨s, m, rfl, hm, hs⟩ := f.exists_step c
  have hunits := units_step hm.le hs
  have hwide : m < 2 * 2 ^ g.fractionBits :=
    hm.trans_le (Nat.mul_le_mul_left 2 (Nat.pow_le_pow_right (by decide) h.fraction))
  obtain ⟨c', hc'⟩ := g.exists_units hwide (s + (g.scale - f.scale))
  have hscale : 2 ^ g.scale = 2 ^ (g.scale - f.scale) * 2 ^ f.scale := by
    rw [← Nat.pow_add, Nat.sub_add_cancel h.scale]
  have hsame : f.units (s * 2 ^ f.fractionBits + m) * 2 ^ g.scale = g.units c' * 2 ^ f.scale := by
    rw [hunits, hc', Nat.pow_add, hscale]
    ring
  refine ⟨c', ?_, hsame⟩
  have hlt : g.units c' * 2 ^ f.scale < g.units g.infinity * 2 ^ f.scale :=
    calc g.units c' * 2 ^ f.scale
      _ = f.units (s * 2 ^ f.fractionBits + m) * 2 ^ g.scale := hsame.symm
      _ < f.units f.infinity * 2 ^ g.scale :=
        Nat.mul_lt_mul_of_pos_right (f.units_strictMono hc) (Nat.two_pow_pos _)
      _ ≤ _ := h.top
  exact g.units_strictMono.lt_iff_lt.mp (Nat.lt_of_mul_lt_mul_right hlt)

/-- Widening is exact, and narrowing back gives the number again. -/
theorem Widens.convert (h : f.Widens g) (hc : c < f.infinity) :
    f.convert g c < g.infinity ∧
      f.units c * 2 ^ g.scale = g.units (f.convert g c) * 2 ^ f.scale ∧
      g.convert f (f.convert g c) = c := by
  obtain ⟨c', hc', hsame⟩ := h.exists_same hc
  obtain rfl : f.convert g c = c' := convert_of_same hsame hc'.le
  exact ⟨hc', hsame, convert_of_same hsame.symm hc.le⟩

/-! ## Fewer fraction bits -/

/-- A format with `d` more fraction bits and the same exponents. -/
structure Extends (f g : BinaryFormat) (d : Nat) : Prop where
  exponent : f.exponentBits = g.exponentBits
  fraction : f.fractionBits = g.fractionBits + d

namespace Extends

variable {d : Nat} (h : f.Extends g d)
include h

theorem two_pow_eq : 2 ^ f.fractionBits = 2 ^ g.fractionBits * 2 ^ d := by
  rw [h.fraction, Nat.pow_add]

theorem infinity_eq : g.infinity * 2 ^ d = f.infinity := by
  rw [infinity, infinity, h.two_pow_eq, h.exponent, Nat.mul_assoc]

theorem scale_eq : f.scale = g.scale + d := by
  rw [scale, scale, h.exponent, h.fraction, Nat.add_assoc]

/-- Zeros in the new fraction bits do not change the number. -/
theorem units_eq (c : Nat) : f.units (c * 2 ^ d) = g.units c * 2 ^ d := by
  obtain ⟨s, m, rfl, hm, hs⟩ := g.exists_step c
  have hcode : (s * 2 ^ g.fractionBits + m) * 2 ^ d = s * 2 ^ f.fractionBits + m * 2 ^ d := by
    rw [h.two_pow_eq]
    ring
  have hm' : m * 2 ^ d ≤ 2 * 2 ^ f.fractionBits := by
    rw [h.two_pow_eq, ← Nat.mul_assoc]
    exact Nat.mul_le_mul_right _ hm.le
  have hs' : s = 0 ∨ 2 ^ f.fractionBits ≤ m * 2 ^ d := by
    rw [h.two_pow_eq]
    exact hs.imp_right (Nat.mul_le_mul_right _)
  rw [hcode, units_step hm' hs', units_step hm.le hs]
  ring

end Extends

end BinaryFormat

end HostGpu
