import HostGpu.Proofs.Memory.Footprint
import Mathlib.Algebra.BigOperators.Group.Finset.Piecewise
import Mathlib.Data.Fintype.Basic

/-!
# Sums of additions

Lanes add to words one after the other, so that each finds what the lanes below it left there.  If
words do not overlap in part, what a lane finds is the word of the block and the values of the lower
lanes that add to the same word (`LanePointer.Added`).  A lane keeps this
(`LanePointer.Added.addLane`), so that after all lanes every word has grown by the values of all
lanes that add to it, whichever of them share a word.
-/

namespace HostGpu

open scoped BigOperators

/-! ## Words in memory -/

namespace Memory

variable {m : Memory} {o o' : Nat}

/-- A word that was stored in the block is loaded again. -/
theorem loadWord_storeWord (h : o + 4 ≤ m.size) (w : UInt32) :
    (m.storeWord o 4 w).loadWord o 4 = w := by
  rw [← UInt32.toNat_inj, toNat_loadWord (w := w) (Nat.le_refl 4)]
  · exact Nat.mod_eq_of_lt w.toNat_lt
  · intro k hk
    rw [byte_storeWord, if_pos ⟨by omega, by omega, by omega⟩, Nat.add_sub_cancel_left]

/-- A store leaves the words before and after it. -/
theorem loadWord_storeWord_of_apart (h : o + 4 ≤ o' ∨ o' + 4 ≤ o) (w : UInt32) :
    (m.storeWord o' 4 w).loadWord o 4 = m.loadWord o 4 := by
  refine loadWord_congr fun k hk => ?_
  rw [byte_storeWord, if_neg (by omega)]

end Memory

/-- The lanes up to one are those below it and the lane itself. -/
theorem Lane.take_succ (l : Lane) : all.take (l.val + 1) = all.take l.val ++ [l] := by
  revert l
  decide

namespace LanePointer

variable (p : LanePointer) (value mask : WordLanes)

/-! ## Lanes that share a word -/

/-- Whether a lane makes its addition, and makes it to the word at an offset of the block. -/
def addsAt (o : Nat) (l : Lane) : Bool := p.makes 4 mask l && p.place l = o

/-- The sum of the values that lanes below a number add to the word at an offset, not wrapped. -/
def sumBelow (k o : Nat) : Nat :=
  ∑ l : Lane with l.val < k ∧ p.addsAt mask o l, (value.get l).toNat

variable {p value mask} {m : Memory} {o : Nat} {l : Lane}

theorem addsAt_iff : p.addsAt mask o l = true ↔ p.makes 4 mask l = true ∧ p.place l = o := by
  simp [addsAt]

theorem sumBelow_zero (o : Nat) : p.sumBelow value mask 0 o = 0 := by
  simp [sumBelow]

/-- The next lane adds its own value, if it adds to the word. -/
theorem sumBelow_succ (l : Lane) (o : Nat) : p.sumBelow value mask (l.val + 1) o =
    p.sumBelow value mask l.val o + if p.addsAt mask o l then (value.get l).toNat else 0 := by
  have hsplit (j : Lane) : (if j.val < l.val + 1 ∧ p.addsAt mask o j then (value.get j).toNat
      else 0) = (if j.val < l.val ∧ p.addsAt mask o j then (value.get j).toNat else 0) +
      if j = l then (if p.addsAt mask o l then (value.get l).toNat else 0) else 0 := by
    by_cases hj : j = l
    · subst hj
      simp
    · have hval : j.val ≠ l.val := fun h => hj (Fin.ext h)
      have hlt : j.val < l.val + 1 ↔ j.val < l.val := by omega
      simp [hj, hlt]
  simp only [sumBelow, Finset.sum_filter, hsplit, Finset.sum_add_distrib, Finset.sum_ite_eq',
    Finset.mem_univ, if_true]

/-- All lanes are below four. -/
theorem sumBelow_four (o : Nat) : p.sumBelow value mask 4 o =
    ∑ l : Lane with p.addsAt mask o l, (value.get l).toNat := by
  simp [sumBelow]

/-! ## Additions in lane order -/

/-- What the additions of the lanes below a number come to: every word on the grid of the pointer
has grown by their values, each of these lanes that makes its addition has found what the lanes
below it left there, and the other lanes have found nothing. -/
structure Added (p : LanePointer) (m : Memory) (value mask : WordLanes) (k : Nat)
    (after : WordLanes × Memory) : Prop where
  size : after.2.size = m.size
  word : ∀ o, o % 4 = p.base % 4 → (after.2.loadWord o 4).toNat =
    ((m.loadWord o 4).toNat + p.sumBelow value mask k o) % 2 ^ 32
  found : ∀ l : Lane, l.val < k → p.makes 4 mask l = true → (after.1.get l).toNat =
    ((m.loadWord (p.place l) 4).toNat + p.sumBelow value mask l.val (p.place l)) % 2 ^ 32
  zero : ∀ l : Lane, ¬ (l.val < k ∧ p.makes 4 mask l = true) → after.1.get l = 0

/-- The words of lanes are on the grid of the pointer. -/
def OnGrid (p : LanePointer) : Prop :=
  ∀ l, p.laneInBounds 4 l = true → p.place l % 4 = p.base % 4

theorem onGrid_of_dvd (h : ∀ l, p.laneInBounds 4 l = true → (4 : Int) ∣ p.distance l) :
    p.OnGrid := by
  intro l hl
  have hd := h l hl
  have hpos := (laneInBounds_iff.mp hl).1
  rw [place]
  omega

theorem added_zero (p : LanePointer) (m : Memory) (value mask : WordLanes) :
    p.Added m value mask 0 (.splat 0, m) where
  size := rfl
  word o _ := by
    rw [sumBelow_zero, Nat.add_zero]
    exact (Nat.mod_eq_of_lt (m.loadWord o 4).toNat_lt).symm
  found l hl := absurd hl (Nat.not_lt_zero l.val)
  zero l _ := Lanes.get_splat 0 l

variable (hgrid : p.OnGrid) (hm : p.base + p.limit ≤ m.size)
include hgrid hm

/-- One more lane adds.  If it makes its addition, its word is the only one on the grid that it
changes. -/
theorem Added.addLane {before : WordLanes × Memory} (h : p.Added m value mask l.val before) :
    p.Added m value mask (l.val + 1) (p.addLane (mask.and (p.inBounds 4)) value before l) := by
  obtain ⟨previous, m'⟩ := before
  rw [addLane_eq]
  by_cases hmakes : p.makes 4 mask l = true
  · have hin := (makes_iff.mp hmakes).2
    have hbounds := laneInBounds_iff.mp hin
    have hroom : p.place l + 4 ≤ m'.size := by
      rw [place, h.size]
      omega
    have hold := h.word (p.place l) (hgrid l hin)
    rw [if_pos hmakes]
    refine ⟨?_, fun o ho => ?_, fun j hj hmakesj => ?_, fun j hj => ?_⟩
    · rw [Memory.size_storeWord, h.size]
    · by_cases hplace : p.place l = o
      · subst hplace
        have hadds : p.addsAt mask (p.place l) l = true := addsAt_iff.mpr ⟨hmakes, rfl⟩
        rw [Memory.loadWord_storeWord hroom, UInt32.toNat_add, hold, sumBelow_succ, if_pos hadds,
          Nat.mod_add_mod, Nat.add_assoc]
      · have hadds : ¬ p.addsAt mask o l = true := fun hadds => hplace (addsAt_iff.mp hadds).2
        have hapart : o + 4 ≤ p.place l ∨ p.place l + 4 ≤ o := by
          have hlane := hgrid l hin
          omega
        rw [Memory.loadWord_storeWord_of_apart hapart, h.word o ho, sumBelow_succ, if_neg hadds,
          Nat.add_zero]
    · rw [Lanes.get_set]
      by_cases hjl : j = l
      · subst hjl
        rw [if_pos rfl, hold]
      · have hval : j.val ≠ l.val := fun h => hjl (Fin.ext h)
        rw [if_neg hjl]
        exact h.found j (by omega) hmakesj
    · rw [Lanes.get_set, if_neg]
      · exact h.zero j fun hlower => hj ⟨by omega, hlower.2⟩
      · rintro rfl
        exact hj ⟨Nat.lt_succ_self _, hmakes⟩
  · have hadds (o : Nat) : ¬ p.addsAt mask o l = true := fun hadds =>
      hmakes (addsAt_iff.mp hadds).1
    have hlower (j : Lane) (hmakesj : p.makes 4 mask j = true) (hj : j.val < l.val + 1) :
        j.val < l.val := by
      have hval : j.val ≠ l.val := fun h => hmakes (Fin.ext h ▸ hmakesj)
      omega
    rw [if_neg hmakes]
    refine ⟨h.size, fun o ho => ?_, fun j hj hmakesj => ?_, fun j hj => ?_⟩
    · rw [h.word o ho, sumBelow_succ, if_neg (hadds o), Nat.add_zero]
    · exact h.found j (hlower j hmakesj hj) hmakesj
    · exact h.zero j fun hlt => hj ⟨by omega, hlt.2⟩

/-- **After all lanes every word has grown by what was added to it**, and each lane has found what
the lanes below it left.  The induction is on the number of lanes that have added. -/
theorem atomicAdd_added : p.Added m value mask 4 (p.atomicAdd m value mask) := by
  suffices h : ∀ k ≤ 4, p.Added m value mask k
      ((Lane.all.take k).foldl (p.addLane (mask.and (p.inBounds 4)) value) (.splat 0, m)) from
    h 4 (Nat.le_refl 4)
  intro k
  induction k with
  | zero => exact fun _ => added_zero p m value mask
  | succ k ih =>
    intro hk
    have htake : Lane.all.take (k + 1) = Lane.all.take k ++ [⟨k, hk⟩] := Lane.take_succ ⟨k, hk⟩
    rw [htake, List.foldl_append]
    exact Added.addLane (l := ⟨k, hk⟩) hgrid hm (ih (by omega))

end LanePointer

end HostGpu
