import HostGpu.Proofs.Memory.Access
import Mathlib.Data.Set.Basic

/-!
# Footprints of lane accesses

The bytes that the lanes of an access touch, by their offset in the block.  Under the rules that
check bounds they lie between the base and the limit of the pointer.  What is loaded depends on the
touched bytes only, and stores and additions change no others.
-/

namespace HostGpu

namespace LanePointer

/-- The bytes that accesses of `n` bytes touch in the lanes that are on.  Offsets before the block
would be negative. -/
def touched (p : LanePointer) (n : Nat) (enabled : WordLanes) : Set Int :=
  {i | ∃ l, enabled.get l ≠ 0 ∧ p.address l ≤ i ∧ i < p.address l + n}

/-- Nothing is in bounds of a pointer with no bytes before its limit. -/
theorem makes_eq_false {p : LanePointer} {n : Nat} (hlimit : p.limit = 0) (hn : 0 < n)
    (mask : WordLanes) (l : Lane) : p.makes n mask l = false := by
  rw [← Bool.not_eq_true]
  intro h
  have hbounds := laneInBounds_iff.mp (makes_iff.mp h).2
  omega

variable {p : LanePointer} {n : Nat} {mask : WordLanes} {rule : BoundsRule}
  (hrule : rule ≠ .unchecked)
include hrule

/-- **Checked accesses stay between the base and the limit.** -/
theorem touched_bounds {i : Int} (h : i ∈ p.touched n (p.accessMask n mask rule)) :
    p.base ≤ i ∧ i < p.base + p.limit := by
  obtain ⟨l, hon, hle, hlt⟩ := h
  have hmakes := (get_accessMask_ne_zero hrule).mp hon
  have hbounds := laneInBounds_iff.mp (makes_iff.mp hmakes).2
  rw [address] at hle hlt
  omega

/-- The bytes of a lane that makes its access are touched. -/
theorem touched_of_makes {l : Lane} (h : p.makes n mask l = true) {i : Nat}
    (hle : p.place l ≤ i) (hlt : i < p.place l + n) :
    (i : Int) ∈ p.touched n (p.accessMask n mask rule) := by
  refine ⟨l, (get_accessMask_ne_zero hrule).mpr h, ?_⟩
  rw [address_eq (makes_iff.mp h).2]
  omega

/-! ## Loads -/

/-- A load depends on the bytes that it touches. -/
theorem load_congr {m m' : Memory}
    (h : ∀ i : Nat, (i : Int) ∈ p.touched n (p.accessMask n mask rule) → m.byte i = m'.byte i) :
    p.load m n mask rule = p.load m' n mask rule := by
  refine Lanes.ext_get ?_
  intro l
  rw [get_load hrule, get_load hrule]
  by_cases hmakes : p.makes n mask l = true
  · rw [if_pos hmakes, if_pos hmakes]
    refine Memory.loadWord_congr ?_
    intro k hk
    exact h _ (touched_of_makes hrule hmakes (by omega) (by omega))
  · rw [if_neg hmakes, if_neg hmakes]

/-- Nothing is loaded through a pointer with no bytes before its limit. -/
theorem load_eq_zero (hlimit : p.limit = 0) (hn : 0 < n) (m : Memory) :
    p.load m n mask rule = .splat 0 := by
  refine Lanes.ext_get ?_
  intro l
  rw [get_load hrule, makes_eq_false hlimit hn, Lanes.get_splat]
  rfl

/-! ## Stores -/

theorem byte_storeLane_of_not_touched {m : Memory} {value : WordLanes} {l : Lane} {i : Nat}
    (h : (i : Int) ∉ p.touched n (p.accessMask n mask rule)) :
    (p.storeLane n (p.accessMask n mask rule) value m l).byte i = m.byte i := by
  rw [storeLane_eq hrule]
  by_cases hmakes : p.makes n mask l = true
  · rw [if_pos hmakes, Memory.byte_storeWord, if_neg]
    rintro ⟨hle, hlt, -⟩
    exact h (touched_of_makes hrule hmakes hle hlt)
  · rw [if_neg hmakes]

/-- A store changes only bytes that it touches. -/
theorem byte_store_of_not_touched {m : Memory} {value : WordLanes} {i : Nat}
    (h : (i : Int) ∉ p.touched n (p.accessMask n mask rule)) :
    (p.store m n value mask rule).byte i = m.byte i := by
  rw [store]
  induction Lane.all generalizing m with
  | nil => rfl
  | cons l ls ih => rw [List.foldl_cons, ih, byte_storeLane_of_not_touched hrule h]

omit hrule

/-! ## Additions -/

/-- The addition of a lane that makes its access. -/
theorem addLane_eq (p : LanePointer) (value mask previous : WordLanes) (m : Memory) (l : Lane) :
    p.addLane (mask.and (p.inBounds 4)) value (previous, m) l =
      if p.makes 4 mask l then
        (previous.set l (m.loadWord (p.place l) 4),
          m.storeWord (p.place l) 4 (m.loadWord (p.place l) 4 + value.get l))
      else (previous, m) := by
  have hrule : BoundsRule.nullify ≠ .unchecked := by decide
  have hskips : (mask.and (p.inBounds 4)).get l = 0 ∨ p.address l < 0 ↔
      ¬ p.makes 4 mask l = true := skips_iff hrule
  rw [addLane]
  by_cases h : p.makes 4 mask l = true
  · rw [if_neg (by rw [hskips]; exact not_not.mpr h), if_pos h, address_eq (makes_iff.mp h).2]
    rfl
  · rw [if_pos (hskips.mpr h), if_neg h]

variable {p : LanePointer} {value mask : WordLanes}

theorem size_addLane (before : WordLanes × Memory) (l : Lane) :
    (p.addLane (mask.and (p.inBounds 4)) value before l).2.size = before.2.size := by
  rw [addLane_eq]
  split
  · exact Memory.size_storeWord ..
  · rfl

@[simp] theorem size_atomicAdd (m : Memory) : (p.atomicAdd m value mask).2.size = m.size := by
  suffices h : ∀ (ls : List Lane) (before : WordLanes × Memory),
      (ls.foldl (p.addLane (mask.and (p.inBounds 4)) value) before).2.size = before.2.size from
    h Lane.all (.splat 0, m)
  intro ls
  induction ls with
  | nil => exact fun _ => rfl
  | cons l ls ih =>
    intro before
    rw [List.foldl_cons, ih, size_addLane]

theorem byte_addLane_of_not_touched {before : WordLanes × Memory} {l : Lane} {i : Nat}
    (h : (i : Int) ∉ p.touched 4 (p.accessMask 4 mask .nullify)) :
    (p.addLane (mask.and (p.inBounds 4)) value before l).2.byte i = before.2.byte i := by
  rw [addLane_eq]
  by_cases hmakes : p.makes 4 mask l = true
  · rw [if_pos hmakes, Memory.byte_storeWord, if_neg]
    rintro ⟨hle, hlt, -⟩
    exact h (touched_of_makes (by decide) hmakes hle hlt)
  · rw [if_neg hmakes]

/-- An addition changes only bytes that it touches. -/
theorem byte_atomicAdd_of_not_touched {m : Memory} {i : Nat}
    (h : (i : Int) ∉ p.touched 4 (p.accessMask 4 mask .nullify)) :
    (p.atomicAdd m value mask).2.byte i = m.byte i := by
  suffices hfold : ∀ (ls : List Lane) (before : WordLanes × Memory),
      (ls.foldl (p.addLane (mask.and (p.inBounds 4)) value) before).2.byte i = before.2.byte i from
    hfold Lane.all (.splat 0, m)
  intro ls
  induction ls with
  | nil => exact fun _ => rfl
  | cons l ls ih =>
    intro before
    rw [List.foldl_cons, ih, byte_addLane_of_not_touched h]

/-- What an addition finds depends on the bytes that it touches.  The lanes follow each other, so
the induction keeps that the two memories agree on these bytes. -/
theorem atomicAdd_congr {m m' : Memory} (hsize : m.size = m'.size)
    (h : ∀ i : Nat, (i : Int) ∈ p.touched 4 (p.accessMask 4 mask .nullify) →
      m.byte i = m'.byte i) : (p.atomicAdd m value mask).1 = (p.atomicAdd m' value mask).1 := by
  rw [atomicAdd, atomicAdd]
  generalize (Lanes.splat 0 : WordLanes) = previous
  induction Lane.all generalizing previous m m' with
  | nil => rfl
  | cons l ls ih =>
    rw [List.foldl_cons, List.foldl_cons, addLane_eq, addLane_eq]
    by_cases hmakes : p.makes 4 mask l = true
    · have hload : m.loadWord (p.place l) 4 = m'.loadWord (p.place l) 4 :=
        Memory.loadWord_congr fun k hk =>
          h _ (touched_of_makes (by decide) hmakes (by omega) (by omega))
      rw [if_pos hmakes, if_pos hmakes, hload]
      refine ih ?_ (fun i hi => ?_) _
      · rw [Memory.size_storeWord, Memory.size_storeWord, hsize]
      · rw [Memory.byte_storeWord, Memory.byte_storeWord, hsize, h i hi]
    · rw [if_neg hmakes, if_neg hmakes]
      exact ih hsize h _

/-- Nothing is added through a pointer with no bytes before its limit. -/
theorem atomicAdd_eq_zero (hlimit : p.limit = 0) (m : Memory) :
    p.atomicAdd m value mask = (.splat 0, m) := by
  rw [atomicAdd]
  induction Lane.all with
  | nil => rfl
  | cons l ls ih =>
    rw [List.foldl_cons, addLane_eq, makes_eq_false hlimit (by decide)]
    exact ih

end LanePointer

end HostGpu
