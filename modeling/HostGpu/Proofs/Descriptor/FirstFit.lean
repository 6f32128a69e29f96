import HostGpu.Proofs.Descriptor.PoolBudget
import Mathlib.Order.Interval.Set.Nat

/-!
# First fit

A pool looks for a free range between the ranges in use, one after the other, and explains a
failure by the bytes it has counted.  Here both get their meaning from the sets in use alone: a
range is free if it lies in the pool and no set in use has a byte of it
(`DescriptorPool.Usage.Free`).  Whatever was called before, sets are allocated at the lowest free
offset, and an allocation is refused for the first of these reasons that there is: too many sets,
too few free bytes, no free range, a set larger than memory can be
(`DescriptorPool.Usage.allocates_at_lowest_free`).
-/

namespace HostGpu

open Outcome

namespace DescriptorPool

/-! ## The gaps between ranges -/

/-- An offset, not below `start`, with `size` bytes before the limit that no range has. -/
def Gap (limit size start : Nat) (ranges : List PoolRange) (offset : Nat) : Prop :=
  start ≤ offset ∧ offset + size ≤ limit ∧
    ∀ r ∈ ranges, offset + size ≤ r.offset ∨ r.offset + r.size ≤ offset

variable {limit size start offset : Nat} {ranges : List PoolRange} {r : PoolRange}

/-- A gap is below the first range, or is a gap between those after it. -/
theorem Ascending.gap_cons (h : Ascending limit start (r :: ranges)) :
    Gap limit size start (r :: ranges) offset ↔
      (start ≤ offset ∧ offset + size ≤ r.offset) ∨
        Gap limit size (r.offset + r.size) ranges offset := by
  have hlimit := h.2.2.start_le
  have hstart := h.1
  constructor
  · rintro ⟨hle, hroom, hapart⟩
    rcases hapart r List.mem_cons_self with hbelow | habove
    · exact .inl ⟨hle, hbelow⟩
    · exact .inr ⟨habove, hroom, fun s hs => hapart s (List.mem_cons_of_mem r hs)⟩
  · rintro (⟨hle, hbelow⟩ | ⟨habove, hroom, hapart⟩)
    · refine ⟨hle, by omega, fun s hs => .inl ?_⟩
      rcases List.mem_cons.mp hs with rfl | hs
      · exact hbelow
      · have := (h.2.2.bounds hs).1
        omega
    · refine ⟨by omega, hroom, fun s hs => ?_⟩
      rcases List.mem_cons.mp hs with rfl | hs
      · exact .inr habove
      · exact hapart s hs

/-- **First fit** finds the lowest gap, and fails only where there is none. -/
theorem Ascending.findFree_spec (h : Ascending limit start ranges) {found : Option Nat}
    (hfind : findFree limit size start ranges = .ok found) :
    (∀ o, found = some o → IsLeast {offset | Gap limit size start ranges offset} o) ∧
      (found = none → ∀ o, ¬ Gap limit size start ranges o) := by
  induction ranges generalizing start with
  | nil =>
    have hlimit : start ≤ limit := h
    rw [findFree, difference_of_le hlimit, ok_bind, pure_eq_ok] at hfind
    split at hfind <;> cases hfind
    · refine ⟨?_, fun hnone => absurd hnone (Option.some_ne_none _)⟩
      rintro o ⟨⟩
      exact ⟨⟨Nat.le_refl _, by omega, List.forall_mem_nil _⟩, fun o ho => ho.1⟩
    · refine ⟨fun o hsome => absurd hsome.symm (Option.some_ne_none o), ?_⟩
      rintro - o ⟨hle, hroom, -⟩
      omega
  | cons s rest ih =>
    have hstart := h.1
    rw [findFree, difference_of_le hstart, ok_bind] at hfind
    split at hfind
    · -- the gap below the first range is long enough
      cases hfind
      refine ⟨?_, fun hnone => absurd hnone (Option.some_ne_none _)⟩
      rintro o ⟨⟩
      exact ⟨h.gap_cons.mpr (.inl ⟨Nat.le_refl _, by omega⟩), fun o ho => ho.1⟩
    · have hlater := ih h.2.2 hfind
      have hgaps : ∀ o, Gap limit size start (s :: rest) o ↔
          Gap limit size (s.offset + s.size) rest o := fun o =>
        h.gap_cons.trans (or_iff_right fun hbelow => by omega)
      simpa only [hgaps] using hlater

namespace Usage

variable {u : Usage}

/-! ## Any calls keep a pool tidy -/

/-- What is freed is whatever is allocated at the place of a set. -/
theorem make_free_congr {d d' : DescriptorSet} (h : d.place = d'.place) :
    u.make (.free d) = u.make (.free d') := by
  simp only [make, run_free, placeOf, h]

/-- Freeing what is not in use changes nothing. -/
theorem Tidy.free_absent (h : u.Tidy) {d : DescriptorSet} {offset : Nat}
    (hd : d.place = some ⟨u.pool.id, offset⟩) (habsent : ∀ d' ∈ u.sets, d'.place ≠ d.place) :
    u.make (.free d) = (.ok (), u) := by
  have hnone : u.pool.ranges.find? (·.offset = offset) = none := by
    refine List.find?_eq_none.mpr fun r hr hoffset => ?_
    obtain ⟨d', hd', rfl⟩ := List.mem_map.mp (h.ranges.mem_iff.mp hr)
    rw [decide_eq_true_eq] at hoffset
    exact habsent d' hd' (by rw [h.placed d' hd', hd, hoffset])
  have hsets : u.sets.filter (·.place ≠ d.place) = u.sets :=
    List.filter_eq_self.mpr fun d' hd' => by simpa using habsent d' hd'
  rw [make, run_free, placeOf, hd]
  dsimp only
  rw [if_pos rfl]
  dsimp only
  rw [hnone]
  dsimp only
  rw [← hd, hsets]

/-- **Any call** keeps a pool tidy, also one that frees a set a second time. -/
theorem Tidy.make (h : u.Tidy) (c : Request) : (u.make c).2.Tidy := by
  cases c with
  | allocate layout => exact (h.step (c := .allocate layout) trivial).2
  | reset => exact (h.step (c := .reset) trivial).2
  | free d =>
    by_cases hown : ∃ place, d.place = some place ∧ place.pool = u.pool.id
    · obtain ⟨⟨_, offset⟩, hd, rfl⟩ := hown
      by_cases hheld : ∃ d' ∈ u.sets, d'.place = d.place
      · obtain ⟨d', hd', hplace⟩ := hheld
        rw [← make_free_congr hplace]
        exact (h.step (c := .free d') fun _ => ⟨d', hd', rfl, rfl⟩).2
      · push Not at hheld
        rw [h.free_absent hd hheld]
        exact h
    · rw [Tidy.free_refused hown]
      exact h

theorem Tidy.run_all (h : u.Tidy) (requests : List Request) : (u.run requests).Tidy := by
  induction requests generalizing u with
  | nil => exact h
  | cons c rest ih => exact ih (h.make c)

/-! ## What the sets in use leave free -/

/-- A range lies in the pool and no set in use has a byte of it. -/
def Free (u : Usage) (r : PoolRange) : Prop :=
  r.bytes ⊆ Set.Ico 0 u.pool.size ∧ ∀ d ∈ u.sets, r.Apart d.poolRange

/-- The bytes of the pool that no set in use has. -/
def freeBytes (u : Usage) : Set Nat :=
  {i ∈ Set.Ico 0 u.pool.size | ∀ d ∈ u.sets, i ∉ d.poolRange.bytes}

/-- Free ranges are the gaps between the ranges that the pool knows. -/
theorem Tidy.free_iff_gap (h : u.Tidy) (hsize : 0 < size) :
    u.Free ⟨offset, size⟩ ↔ Gap u.pool.size size 0 u.pool.ranges offset := by
  have hbytes : (⟨offset, size⟩ : PoolRange).bytes ⊆ Set.Ico 0 u.pool.size ↔
      offset + size ≤ u.pool.size := by
    rw [PoolRange.bytes, Set.Ico_subset_Ico_iff (by simp only; omega)]
    exact and_iff_right (Nat.zero_le _)
  have hapart : ∀ r ∈ u.pool.ranges, PoolRange.Apart ⟨offset, size⟩ r ↔
      offset + size ≤ r.offset ∨ r.offset + r.size ≤ offset := fun r hr => by
    have hpos := (h.ascending.bounds hr).2.1
    rw [PoolRange.Apart, PoolRange.bytes, PoolRange.bytes, Set.Ico_disjoint_Ico]
    simp only
    omega
  rw [Free, Gap, hbytes, and_iff_right (Nat.zero_le _)]
  refine and_congr_right fun _ => ⟨fun hsets r hr => ?_, fun hgap d hd => ?_⟩
  · obtain ⟨d, hd, rfl⟩ := List.mem_map.mp (h.ranges.mem_iff.mp hr)
    exact (hapart _ hr).mp (hsets d hd)
  · exact (hapart _ (h.mem_ranges hd)).mpr (hgap _ (h.mem_ranges hd))

/-- Ranges apart in a pool leave it the bytes that they do not add up to. -/
theorem ncard_free_add_sum {ranges : List PoolRange} (hapart : ranges.Pairwise PoolRange.Apart)
    (hinside : ∀ r ∈ ranges, r.bytes ⊆ Set.Ico 0 limit) :
    {i ∈ Set.Ico 0 limit | ∀ r ∈ ranges, i ∉ r.bytes}.ncard + (ranges.map (·.size)).sum =
      limit := by
  induction ranges with
  | nil =>
    have hall : {i ∈ Set.Ico 0 limit | ∀ r ∈ ([] : List PoolRange), i ∉ r.bytes} =
        Set.Ico 0 limit := Set.sep_eq_self_iff_mem_true.mpr fun i _ => nofun
    rw [hall, Set.ncard_Ico_nat]
    rfl
  | cons r rest ih =>
    obtain ⟨hr, hrest⟩ := List.pairwise_cons.mp hapart
    have hfirst : r.bytes ⊆ {i ∈ Set.Ico 0 limit | ∀ s ∈ rest, i ∉ s.bytes} := fun i hi =>
      ⟨hinside r List.mem_cons_self hi, fun s hs => Set.disjoint_left.mp (hr s hs) hi⟩
    have hsplit : {i ∈ Set.Ico 0 limit | ∀ s ∈ r :: rest, i ∉ s.bytes} =
        {i ∈ Set.Ico 0 limit | ∀ s ∈ rest, i ∉ s.bytes} \ r.bytes := by
      ext i
      simp only [List.forall_mem_cons, Set.mem_ofPred_eq, Set.mem_sdiff]
      tauto
    have hbytes : r.bytes.ncard = r.size := by
      rw [PoolRange.bytes, Set.ncard_Ico_nat, Nat.add_sub_cancel_left]
    have hdiff := Set.ncard_sdiff_add_ncard_of_subset hfirst
      ((Set.finite_Ico 0 limit).subset (Set.sep_subset _ _))
    have := ih hrest fun s hs => hinside s (List.mem_cons_of_mem r hs)
    rw [hsplit, List.map_cons, List.sum_cons]
    omega

/-- The pool counts right what is free. -/
theorem Tidy.ncard_freeBytes (h : u.Tidy) :
    u.freeBytes.ncard = u.pool.size - u.pool.allocatedBytes := by
  have hapart : (u.sets.map (·.poolRange)).Pairwise PoolRange.Apart := List.pairwise_map.mpr h.apart
  have hinside : ∀ r ∈ u.sets.map (·.poolRange), r.bytes ⊆ Set.Ico 0 u.pool.size := fun r hr => by
    have hbounds := h.ascending.bounds (h.ranges.mem_iff.mpr hr)
    exact Set.Ico_subset_Ico (Nat.zero_le _) hbounds.2.2
  have hsum := ncard_free_add_sum hapart hinside
  simp only [List.forall_mem_map, ← (h.ranges.map (·.size)).sum_eq, ← h.bytes] at hsum
  rw [freeBytes]
  omega

/-! ## Allocation -/

/-- What an allocation answers and leaves, and what the sets in use were like. -/
inductive Allocation (u : Usage) (layout : SetLayout) :
    Except Failure DescriptorSet → DescriptorPool → Prop
  | outOfPoolMemory (hroom : u.pool.maxSets ≤ u.sets.length ∨
      u.freeBytes.ncard < layout.allocationSize) :
    Allocation u layout (.error (.exhausted .outOfPoolMemory)) u.pool
  | fragmentedPool (hcount : u.sets.length < u.pool.maxSets)
      (hbytes : layout.allocationSize ≤ u.freeBytes.ncard)
      (hnone : ∀ o, ¬ u.Free ⟨o, layout.allocationSize⟩) :
    Allocation u layout (.error (.exhausted .fragmentedPool)) u.pool
  | outOfDeviceMemory (o : Nat) (hcount : u.sets.length < u.pool.maxSets)
      (hfree : u.Free ⟨o, layout.allocationSize⟩)
      (hlarge : Memory.maxSize < layout.allocationSize) :
    Allocation u layout (.error (.exhausted .outOfDeviceMemory)) u.pool
  | allocated (d : DescriptorSet) (o : Nat) (hcount : u.sets.length < u.pool.maxSets)
      (hleast : IsLeast {o | u.Free ⟨o, layout.allocationSize⟩} o)
      (hsmall : layout.allocationSize ≤ Memory.maxSize) (hlayout : d.layout = layout)
      (hplace : d.place = some ⟨u.pool.id, o⟩) :
    Allocation u layout (.ok d) (u.pool.occupy ⟨o, layout.allocationSize⟩)

/-- A free range is made of free bytes. -/
theorem Free.le_ncard (h : u.Free ⟨offset, size⟩) : size ≤ u.freeBytes.ncard := by
  have hsubset : PoolRange.bytes ⟨offset, size⟩ ⊆ u.freeBytes := fun i hi =>
    ⟨h.1 hi, fun d hd => Set.disjoint_left.mp (h.2 d hd) hi⟩
  have hle := Set.ncard_le_ncard hsubset ((Set.finite_Ico _ _).subset (Set.sep_subset _ _))
  rwa [PoolRange.bytes, Set.ncard_Ico_nat, Nat.add_sub_cancel_left] at hle

/-- **An allocation** in a tidy pool is one of these. -/
theorem Tidy.allocation (h : u.Tidy) {layout : SetLayout}
    (hdevice : layout.device = u.pool.device) :
    Allocation u layout ((allocate layout).run u.pool).1 ((allocate layout).run u.pool).2 := by
  have hlength : u.pool.ranges.length = u.sets.length := by
    rw [h.ranges.length_eq, List.length_map]
  have hfree : ∀ o, u.Free ⟨o, layout.allocationSize⟩ ↔
      Gap u.pool.size layout.allocationSize 0 u.pool.ranges o := fun o =>
    h.free_iff_gap (allocationSize_pos layout)
  obtain ⟨found, hfind⟩ := h.ascending.exists_findFree layout.allocationSize
  obtain ⟨hsome, hnone⟩ := h.ascending.findFree_spec hfind
  simp only [← hfree] at hsome hnone
  rw [run_allocate]
  by_cases hcount : u.pool.maxSets ≤ u.sets.length
  · rw [placeFor, if_neg (not_not.mpr hdevice.symm), hlength, if_pos hcount]
    exact .outOfPoolMemory (.inl hcount)
  rw [Nat.not_le] at hcount
  cases found with
  | none =>
    rw [placeFor, if_neg (not_not.mpr hdevice.symm), if_neg (by omega), hfind, shortage,
      difference_of_le h.total_le, ← h.ncard_freeBytes]
    by_cases hbytes : layout.allocationSize ≤ u.freeBytes.ncard
    · simp only [ok_bind, if_pos hbytes]
      exact .fragmentedPool hcount hbytes (hnone rfl)
    · simp only [ok_bind, if_neg hbytes]
      exact .outOfPoolMemory (.inr (Nat.not_le.mp hbytes))
  | some o =>
    have hleast := hsome o rfl
    rw [placeFor_eq_ok.mpr ⟨hdevice.symm, by omega, hfind⟩]
    dsimp only
    by_cases hsmall : layout.allocationSize ≤ Memory.maxSize
    · obtain ⟨d, hcreate⟩ := exists_create hsmall (some ⟨u.pool.id, o⟩)
      obtain ⟨hlayout, hplace⟩ := layout_place_of_create hcreate
      rw [hcreate]
      exact .allocated d o hcount hleast hsmall hlayout hplace
    · rw [Nat.not_le] at hsmall
      have hcreate : DescriptorSet.create layout (some ⟨u.pool.id, o⟩) =
          .error .outOfDeviceMemory := by
        rw [DescriptorSet.create, Memory.allocate, if_pos hsmall]
        rfl
      rw [hcreate]
      exact .outOfDeviceMemory o hcount hleast.1 hsmall

namespace Allocation

variable {layout : SetLayout} {answer : Except Failure DescriptorSet} {q : DescriptorPool}
  (h : Allocation u layout answer q)
include h

/-- An allocation succeeds exactly where the pool has room for one more set in a range, and memory
for it. -/
theorem exists_ok_iff : (∃ d, answer = .ok d) ↔
    u.sets.length < u.pool.maxSets ∧ (∃ o, u.Free ⟨o, layout.allocationSize⟩) ∧
      layout.allocationSize ≤ Memory.maxSize := by
  constructor
  · rintro ⟨d, rfl⟩
    cases h with
    | allocated _ o hcount hleast hsmall => exact ⟨hcount, ⟨o, hleast.1⟩, hsmall⟩
  · rintro ⟨hcount, ⟨o, hfree⟩, hsmall⟩
    have hle := hfree.le_ncard
    cases h with
    | outOfPoolMemory hroom => omega
    | fragmentedPool _ _ hnone => exact absurd hfree (hnone o)
    | outOfDeviceMemory _ _ _ hlarge => omega
    | allocated d => exact ⟨d, rfl⟩

/-- Without room or bytes, the pool is out of memory. -/
theorem of_full (hroom : u.pool.maxSets ≤ u.sets.length ∨
    u.freeBytes.ncard < layout.allocationSize) :
    answer = .error (.exhausted .outOfPoolMemory) ∧ q = u.pool := by
  cases h with
  | outOfPoolMemory => exact ⟨rfl, rfl⟩
  | fragmentedPool hcount hbytes => omega
  | outOfDeviceMemory o hcount hfree =>
    have hle := hfree.le_ncard
    omega
  | allocated d o hcount hleast =>
    have hle := Free.le_ncard hleast.1
    omega

/-- With both, but no free range, it is fragmented. -/
theorem of_fragmented (hcount : u.sets.length < u.pool.maxSets)
    (hbytes : layout.allocationSize ≤ u.freeBytes.ncard)
    (hnone : ∀ o, ¬ u.Free ⟨o, layout.allocationSize⟩) :
    answer = .error (.exhausted .fragmentedPool) ∧ q = u.pool := by
  cases h with
  | outOfPoolMemory hroom => omega
  | fragmentedPool => exact ⟨rfl, rfl⟩
  | outOfDeviceMemory o _ hfree => exact absurd hfree (hnone o)
  | allocated d o _ hleast => exact absurd hleast.1 (hnone o)

/-- With a free range for a set that is too large, the device is out of memory. -/
theorem of_large (hcount : u.sets.length < u.pool.maxSets)
    (hfree : ∃ o, u.Free ⟨o, layout.allocationSize⟩)
    (hlarge : Memory.maxSize < layout.allocationSize) :
    answer = .error (.exhausted .outOfDeviceMemory) ∧ q = u.pool := by
  obtain ⟨o, hfree⟩ := hfree
  have hle := hfree.le_ncard
  cases h with
  | outOfPoolMemory hroom => omega
  | fragmentedPool _ _ hnone => exact absurd hfree (hnone o)
  | outOfDeviceMemory => exact ⟨rfl, rfl⟩
  | allocated d o _ _ hsmall => omega

end Allocation

namespace Fragments

/-- A layout with an array of uniform buffers. -/
def buffers (count : Nat) : SetLayout := ⟨1, 0, [{ number := 0, kind := .uniformBuffer, count }]⟩

/-- A pool with room for three sets of one buffer. -/
def small : DescriptorPool := ⟨2, 0, 3, [(.uniformBuffer, 3)], 96, [], 0⟩

/-- The set that the pool gives at an offset. -/
def setAt (offset : Nat) : DescriptorSet :=
  { layout := buffers 1, data := .zeroed 16, place := some ⟨2, offset⟩ }

/-- Three sets fill the pool, and the first and the last one are freed. -/
def requests : List Request :=
  .replicate 3 (.allocate (buffers 1)) ++ [.free (setAt 0), .free (setAt 64)]

theorem created : create 2 0 3 [(.uniformBuffer, 3)] = .ok small := by decide

end Fragments

end Usage
end DescriptorPool
end HostGpu
