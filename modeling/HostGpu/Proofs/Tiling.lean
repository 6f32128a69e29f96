import Mathlib.Algebra.GroupWithZero.Nat
import Mathlib.Data.Set.Pairwise.Basic
import Mathlib.Data.Set.Lattice
import Mathlib.Order.CompletePartialOrder
import Mathlib.Order.Interval.Set.Basic

/-!
# Ranges that fit together

`Tiles total P start size` says that the ranges from `start i` on, `size i` long, of all `i` with `P
i` lie below `total` and that every number below `total` is in exactly one of them.  Memory that is
laid out in nested arrays is tiled by its innermost elements: `Tiles.append` puts two tilings one
after the other, and from it `Tiles.range` (elements of a numbered array, whose sizes may differ)
and `Tiles.list` (parts that are named by the elements of a list) follow by induction.  Each of them
turns a tiling of the parts into one of the whole, so that a layout with several levels needs one
application for each level.
-/

namespace HostGpu

/-- The ranges `start i` to `start i + size i` of the `i` with `P i` fit together without gaps and
without overlaps to the numbers below `total`. -/
structure Tiles {ι : Type} (total : Nat) (P : ι → Prop) (start size : ι → Nat) : Prop where
  fits : ∀ i, P i → start i + size i ≤ total
  covers : ∀ b, b < total → ∃! i, P i ∧ start i ≤ b ∧ b < start i + size i

namespace Tiles

variable {ι : Type} {P Q : ι → Prop} {start inner size : ι → Nat}

/-- One range that starts at zero. -/
theorem single (i : ι) {total : Nat} (hsize : size i = total) (hstart : start i = 0) :
    Tiles total (· = i) start size where
  fits := by
    rintro j rfl
    omega
  covers := by
    intro b hb
    refine ⟨i, ⟨rfl, by omega, by omega⟩, ?_⟩
    rintro j ⟨hj, -⟩
    exact hj

/-- Nothing tiles nothing. -/
theorem nothing (h : ∀ i, ¬ P i) : Tiles 0 P start size where
  fits i hi := absurd hi (h i)
  covers b hb := absurd hb (Nat.not_lt_zero b)

/-- The same ranges, described in another way. -/
theorem congr {total : Nat} (h : Tiles total P inner size) (hP : ∀ i, Q i ↔ P i)
    (hs : ∀ i, P i → start i = inner i) : Tiles total Q start size where
  fits := by
    intro i hi
    have hp := (hP i).mp hi
    rw [hs i hp]
    exact h.fits i hp
  covers := by
    intro b hb
    obtain ⟨i, ⟨hp, h₁, h₂⟩, huniq⟩ := h.covers b hb
    refine ⟨i, ⟨(hP i).mpr hp, by rw [hs i hp]; exact h₁, by rw [hs i hp]; exact h₂⟩, ?_⟩
    rintro j ⟨hq, hj₁, hj₂⟩
    have hpj := (hP j).mp hq
    rw [hs j hpj] at hj₁ hj₂
    exact huniq j ⟨hpj, hj₁, hj₂⟩

/-- One tiling after another. -/
theorem append {t u : Nat} (h₁ : Tiles t P start size) (h₂ : Tiles u Q inner size)
    (hs : ∀ i, Q i → start i = t + inner i) :
    Tiles (t + u) (fun i => P i ∨ Q i) start size where
  fits := by
    rintro i (hp | hq)
    · have := h₁.fits i hp
      omega
    · have := h₂.fits i hq
      have := hs i hq
      omega
  covers := by
    intro b hb
    by_cases hbt : b < t
    · obtain ⟨i, ⟨hp, hi⟩, huniq⟩ := h₁.covers b hbt
      refine ⟨i, ⟨.inl hp, hi⟩, ?_⟩
      rintro j ⟨hj | hj, hjb⟩
      · exact huniq j ⟨hj, hjb⟩
      · have := hs j hj
        omega
    · obtain ⟨i, ⟨hq, hi⟩, huniq⟩ := h₂.covers (b - t) (by omega)
      have hsi := hs i hq
      refine ⟨i, ⟨.inr hq, by omega, by omega⟩, ?_⟩
      rintro j ⟨hj | hj, hjb⟩
      · have := h₁.fits j hj
        omega
      · have hsj := hs j hj
        exact huniq j ⟨hj, by omega, by omega⟩

/-- The elements of an array, each tiled by itself; element `k` is `f k` long. -/
theorem range {f : Nat → Nat} {R : Nat → ι → Prop} (n : Nat)
    (h : ∀ k < n, Tiles (f k) (R k) inner size)
    (hs : ∀ k < n, ∀ i, R k i → start i = ((List.range k).map f).sum + inner i) :
    Tiles ((List.range n).map f).sum (fun i => ∃ k < n, R k i) start size := by
  induction n with
  | zero => exact nothing (by rintro i ⟨k, hk, -⟩; omega)
  | succ n ih =>
    have hbefore := ih (fun k hk => h k (by omega)) (fun k hk => hs k (by omega))
    rw [List.range_succ, List.map_append, List.sum_append, List.map_singleton, List.sum_singleton]
    refine (hbefore.append (h n (by omega)) (hs n (by omega))).congr ?_ (fun _ _ => rfl)
    intro i
    constructor
    · rintro ⟨k, hk, hi⟩
      rcases Nat.lt_succ_iff_lt_or_eq.mp hk with hk' | rfl
      · exact .inl ⟨k, hk', hi⟩
      · exact .inr hi
    · rintro (⟨k, hk, hi⟩ | hi)
      · exact ⟨k, by omega, hi⟩
      · exact ⟨n, by omega, hi⟩

/-- The elements of an array of equal length, each tiled by itself. -/
theorem uniform {pitch : Nat} {R : Nat → ι → Prop} (n : Nat)
    (h : ∀ k < n, Tiles pitch (R k) inner size)
    (hs : ∀ k < n, ∀ i, R k i → start i = k * pitch + inner i) :
    Tiles (n * pitch) (fun i => ∃ k < n, R k i) start size := by
  have hsum (k : Nat) : ((List.range k).map fun _ => pitch).sum = k * pitch := by
    induction k with
    | zero => simp
    | succ k ih => rw [List.range_succ, List.map_append, List.sum_append, ih, Nat.succ_mul]; rfl
  rw [← hsum n]
  exact range n h (fun k hk i hi => by rw [hsum k]; exact hs k hk i hi)

/-- The parts named by the elements of a list, each tiled by itself. -/
theorem list {α : Type} [DecidableEq α] {f : α → Nat} {R : α → ι → Prop} (l : List α)
    (hl : l.Nodup) (h : ∀ a ∈ l, Tiles (f a) (R a) inner size)
    (hs : ∀ a ∈ l, ∀ i, R a i → start i = ((l.takeWhile (· ≠ a)).map f).sum + inner i) :
    Tiles (l.map f).sum (fun i => ∃ a ∈ l, R a i) start size := by
  induction l generalizing start with
  | nil => exact nothing (by rintro i ⟨a, ha, -⟩; cases ha)
  | cons c rest ih =>
    rw [List.nodup_cons] at hl
    have hc : Tiles (f c) (R c) start size := by
      refine (h c (by simp)).congr (fun _ => Iff.rfl) ?_
      intro i hi
      rw [hs c (by simp) i hi]
      simp
    have hafter (a : α) (ha : a ∈ rest) (i : ι) (hi : R a i) :
        start i = f c + (((rest.takeWhile (· ≠ a)).map f).sum + inner i) := by
      have hne : c ≠ a := by
        rintro rfl
        exact hl.1 ha
      rw [hs a (by simp [ha]) i hi]
      simp only [ne_eq, hne, not_false_eq_true, decide_true, List.takeWhile_cons_of_pos,
        List.map_cons, List.sum_cons]
      omega
    have hrest : Tiles (rest.map f).sum (fun i => ∃ a ∈ rest, R a i) (fun i => start i - f c)
        size := by
      refine ih hl.2 (fun a ha => h a (by simp [ha])) ?_
      intro a ha i hi
      have := hafter a ha i hi
      omega
    rw [List.map_cons, List.sum_cons]
    refine (hc.append hrest ?_).congr ?_ (fun _ _ => rfl)
    · rintro i ⟨a, ha, hi⟩
      have := hafter a ha i hi
      omega
    · intro i
      simp only [List.mem_cons, exists_eq_or_imp]

/-- Different ranges of a tiling have nothing in common. -/
theorem pairwiseDisjoint {total : Nat} (h : Tiles total P start size) :
    {i | P i}.PairwiseDisjoint fun i => Set.Ico (start i) (start i + size i) := by
  intro i hi j hj hij
  refine Set.disjoint_left.mpr ?_
  rintro b ⟨hi₁, hi₂⟩ ⟨hj₁, hj₂⟩
  have hfit := h.fits i hi
  obtain ⟨k, -, huniq⟩ := h.covers b (by omega)
  exact hij ((huniq i ⟨hi, hi₁, hi₂⟩).trans (huniq j ⟨hj, hj₁, hj₂⟩).symm)

/-- Together the ranges of a tiling are everything below the total. -/
theorem iUnion_eq {total : Nat} (h : Tiles total P start size) :
    ⋃ i ∈ {i | P i}, Set.Ico (start i) (start i + size i) = Set.Iio total := by
  ext b
  simp only [Set.mem_iUnion, Set.mem_ofPred_eq, Set.mem_Ico, Set.mem_Iio]
  constructor
  · rintro ⟨i, hi, -, hb⟩
    have := h.fits i hi
    omega
  · intro hb
    obtain ⟨i, ⟨hi, hib⟩, -⟩ := h.covers b hb
    exact ⟨i, hi, hib⟩

end Tiles

end HostGpu
