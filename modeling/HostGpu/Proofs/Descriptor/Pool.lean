import HostGpu.Descriptor.Pool
import HostGpu.Proofs.Outcome
import Mathlib.Algebra.BigOperators.Group.List.Basic
import Mathlib.Algebra.Ring.Nat
import Mathlib.Order.CompletePartialOrder
import Mathlib.Order.Interval.Set.Disjoint

/-!
# Sets in their pool

The ranges of a pool ascend without overlap from zero to its size (`DescriptorPool.Ascending`).
First fit keeps them so, and removing a range does.  Calls to a pool that free only sets in use
therefore keep the ranges of these sets apart and inside the pool, never take a number from a
smaller one, and change nothing when they fail (`DescriptorPool.Usage.sets_keep_apart`).
-/

namespace HostGpu

open Outcome

namespace DescriptorPool

/-! ## The calls, case by case -/

/-- What an allocation gives and leaves. -/
theorem run_allocate (p : DescriptorPool) (layout : SetLayout) :
    (allocate layout).run p =
      match p.placeFor layout with
      | .error e => (.error e, p)
      | .ok offset =>
        match DescriptorSet.create layout (some ⟨p.id, offset⟩) with
        | .error e => (.error (.exhausted e), p)
        | .ok d => (.ok d, p.occupy ⟨offset, layout.allocationSize⟩) := by
  rw [allocate, get_bind, lift_bind]
  cases p.placeFor layout with
  | error e => rfl
  | ok offset =>
    dsimp only
    rw [lift_bind]
    cases DescriptorSet.create layout (some ⟨p.id, offset⟩) <;> rfl

/-- What freeing a set gives and leaves. -/
theorem run_free (p : DescriptorPool) (d : DescriptorSet) :
    (free d).run p =
      match p.placeOf d with
      | .error e => (.error e, p)
      | .ok place =>
        match p.ranges.find? (·.offset = place.offset) with
        | none => (.ok (), p)
        | some r =>
          match difference p.allocatedBytes r.size with
          | .error e => (.error e, p.vacate place.offset)
          | .ok allocatedBytes => (.ok (), { p.vacate place.offset with allocatedBytes }) := by
  rw [free, get_bind, lift_bind]
  cases p.placeOf d with
  | error e => rfl
  | ok place =>
    dsimp only
    cases p.ranges.find? (·.offset = place.offset) with
    | none => rfl
    | some r =>
      dsimp only
      rw [modify_bind, lift_bind]
      cases difference p.allocatedBytes r.size <;> rfl

/-- Calls leave alone what a pool was created with. -/
theorem cleared_allocate (p : DescriptorPool) (layout : SetLayout) :
    ((allocate layout).run p).2.cleared = p.cleared := by
  rw [run_allocate]
  cases p.placeFor layout with
  | error e => rfl
  | ok offset =>
    dsimp only
    cases DescriptorSet.create layout (some ⟨p.id, offset⟩) <;> rfl

theorem cleared_free (p : DescriptorPool) (d : DescriptorSet) :
    ((free d).run p).2.cleared = p.cleared := by
  rw [run_free]
  cases p.placeOf d with
  | error e => rfl
  | ok place =>
    dsimp only
    cases p.ranges.find? (·.offset = place.offset) with
    | none => rfl
    | some r =>
      dsimp only
      cases difference p.allocatedBytes r.size <;> rfl

/-! ## Differences that cannot fail -/

theorem difference_of_le {a b : Nat} (h : b ≤ a) : difference a b = .ok (a - b) := if_pos h

/-- Ranges follow each other from an offset up to a limit without overlap, and none is empty. -/
def Ascending (limit : Nat) : Nat → List PoolRange → Prop
  | start, [] => start ≤ limit
  | start, r :: rest => start ≤ r.offset ∧ 0 < r.size ∧ Ascending limit (r.offset + r.size) rest

variable {limit start size offset : Nat} {ranges : List PoolRange} {r : PoolRange}

namespace Ascending

theorem start_le (h : Ascending limit start ranges) : start ≤ limit := by
  induction ranges generalizing start with
  | nil => exact h
  | cons s rest ih =>
    have := ih h.2.2
    have := h.1
    omega

theorem mono {start' : Nat} (h : Ascending limit start' ranges) (hstart : start ≤ start') :
    Ascending limit start ranges := by
  cases ranges with
  | nil => exact Nat.le_trans hstart h
  | cons s rest => exact ⟨Nat.le_trans hstart h.1, h.2⟩

/-- Every range lies between the start and the limit. -/
theorem bounds (h : Ascending limit start ranges) (hr : r ∈ ranges) :
    start ≤ r.offset ∧ 0 < r.size ∧ r.offset + r.size ≤ limit := by
  induction ranges generalizing start with
  | nil => cases hr
  | cons s rest ih =>
    rcases List.mem_cons.mp hr with rfl | hr
    · exact ⟨h.1, h.2.1, h.2.2.start_le⟩
    · have := ih h.2.2 hr
      have := h.1
      omega

/-- Ranges lie apart, the earlier one below the later one. -/
theorem pairwise (h : Ascending limit start ranges) :
    ranges.Pairwise fun a b => a.offset + a.size ≤ b.offset := by
  induction ranges generalizing start with
  | nil => exact .nil
  | cons s rest ih => exact .cons (fun b hb => (h.2.2.bounds hb).1) (ih h.2.2)

theorem total_le (h : Ascending limit start ranges) :
    start + (ranges.map (·.size)).sum ≤ limit := by
  induction ranges generalizing start with
  | nil => exact h
  | cons s rest ih =>
    have := ih h.2.2
    have := h.1
    rw [List.map_cons, List.sum_cons]
    omega

/-- The range that starts at the offset of a range is this one. -/
theorem find?_eq (h : Ascending limit start ranges) (hr : r ∈ ranges) :
    ranges.find? (·.offset = r.offset) = some r := by
  induction ranges generalizing start with
  | nil => cases hr
  | cons s rest ih =>
    rcases List.mem_cons.mp hr with rfl | hr
    · simp
    · have hlater := h.2.2.bounds hr
      have hsize := h.2.1
      rw [List.find?_cons_of_neg (by simp only [decide_eq_true_eq]; omega)]
      exact ih h.2.2 hr

theorem eraseP (h : Ascending limit start ranges) (drop : PoolRange → Bool) :
    Ascending limit start (ranges.eraseP drop) := by
  induction ranges generalizing start with
  | nil => exact h
  | cons s rest ih =>
    rw [List.eraseP_cons]
    cases drop s with
    | true => exact h.2.2.mono (Nat.le_trans h.1 (Nat.le_add_right _ _))
    | false => exact ⟨h.1, h.2.1, ih h.2.2⟩

/-- First fit takes no number from a smaller one. -/
theorem exists_findFree (h : Ascending limit start ranges) (size : Nat) :
    ∃ found, findFree limit size start ranges = .ok found := by
  induction ranges generalizing start with
  | nil =>
    have hlimit : start ≤ limit := h
    exact ⟨_, by rw [findFree, difference_of_le hlimit]; rfl⟩
  | cons s rest ih =>
    rw [findFree, difference_of_le h.1, ok_bind]
    split
    · exact ⟨_, rfl⟩
    · exact ih h.2.2

/-- **First fit** finds a place between the ranges in use, where the new range is put. -/
theorem insertRange (h : Ascending limit start ranges) (hsize : 0 < size)
    (hfind : findFree limit size start ranges = .ok (some offset)) :
    start ≤ offset ∧ Ascending limit start (insertRange ⟨offset, size⟩ ranges) ∧
      (DescriptorPool.insertRange ⟨offset, size⟩ ranges).Perm (⟨offset, size⟩ :: ranges) := by
  induction ranges generalizing start with
  | nil =>
    have hlimit : start ≤ limit := h
    rw [findFree, difference_of_le hlimit, ok_bind, pure_eq_ok] at hfind
    split at hfind
    · cases hfind
      exact ⟨Nat.le_refl _, ⟨Nat.le_refl _, hsize, by show offset + size ≤ limit; omega⟩, .refl _⟩
    · cases hfind
  | cons s rest ih =>
    have hstart := h.1
    have hpos := h.2.1
    rw [findFree, difference_of_le hstart, ok_bind] at hfind
    rw [DescriptorPool.insertRange]
    split at hfind
    · -- the gap before the first range is long enough
      cases hfind
      rw [if_pos (by show offset < s.offset; omega)]
      exact ⟨Nat.le_refl _, ⟨Nat.le_refl _, hsize, by show offset + size ≤ s.offset; omega, h.2⟩,
        .refl _⟩
    · obtain ⟨hle, hascending, hperm⟩ := ih h.2.2 hfind
      rw [if_neg (by show ¬ offset < s.offset; omega), if_neg (by show ¬ offset = s.offset; omega)]
      exact ⟨by omega, ⟨hstart, hpos, hascending⟩, (hperm.cons s).trans (.swap _ _ _)⟩

end Ascending

/-- There is a place for a set where first fit finds one. -/
theorem placeFor_eq_ok {p : DescriptorPool} {layout : SetLayout} :
    p.placeFor layout = .ok offset ↔ p.device = layout.device ∧ p.ranges.length < p.maxSets ∧
      findFree p.size layout.allocationSize 0 p.ranges = .ok (some offset) := by
  simp only [placeFor, throw_eq_error, error_bind, ite_error_eq_ok, not_not, Nat.not_le,
    bind_eq_ok]
  refine and_congr Iff.rfl (and_congr Iff.rfl ⟨?_, fun h => ⟨_, h, rfl⟩⟩)
  rintro ⟨found, hfound, hoffset⟩
  cases found with
  | some o =>
    cases hoffset
    exact hfound
  | none =>
    obtain ⟨_, -, h⟩ := bind_eq_ok.mp hoffset
    cases h

/-- The range that is found at an offset is the one that is removed. -/
theorem perm_eraseP_of_find? {drop : PoolRange → Bool} (h : ranges.find? drop = some r) :
    ranges.Perm (r :: ranges.eraseP drop) := by
  induction ranges with
  | nil => cases h
  | cons s rest ih =>
    rw [List.eraseP_cons]
    rw [List.find?_cons] at h
    cases hs : drop s with
    | true =>
      rw [hs] at h
      cases h
      exact .refl _
    | false =>
      rw [hs] at h
      exact ((ih h).cons s).trans (.swap _ _ _)

/-- Where no two entries have one key, a key removes one entry. -/
theorem perm_filter_ne {α β : Type} [DecidableEq β] {f : α → β} {list : List α} {a : α}
    (h : (list.map f).Nodup) (ha : a ∈ list) : list.Perm (a :: list.filter (f · ≠ f a)) := by
  induction list with
  | nil => cases ha
  | cons b rest ih =>
    obtain ⟨hb, hrest⟩ := List.nodup_cons.mp h
    by_cases hkey : f b = f a
    · have hrest' : ∀ c ∈ rest, f c ≠ f a := fun c hc heq =>
        hb (hkey.trans heq.symm ▸ List.mem_map_of_mem hc)
      obtain rfl : a = b := by
        rcases List.mem_cons.mp ha with rfl | ha
        · rfl
        · exact absurd rfl (hrest' a ha)
      rw [List.filter_cons_of_neg (by simp), List.filter_eq_self.mpr (by simpa using hrest')]
    · have ha : a ∈ rest := by
        rcases List.mem_cons.mp ha with rfl | ha
        · exact absurd rfl hkey
        · exact ha
      rw [List.filter_cons_of_pos (by simpa using hkey)]
      exact ((ih hrest ha).cons b).trans (.swap _ _ _)

end DescriptorPool

/-! ## Pools and the sets in use -/

/-- The bytes of a range. -/
def PoolRange.bytes (r : PoolRange) : Set Nat := Set.Ico r.offset (r.offset + r.size)

/-- Two ranges have no byte in common. -/
def PoolRange.Apart (a b : PoolRange) : Prop := Disjoint a.bytes b.bytes

/-- The range of a set in its pool. -/
def DescriptorSet.poolRange (d : DescriptorSet) : PoolRange :=
  ⟨d.place.elim 0 (·.offset), d.layout.allocationSize⟩

theorem DescriptorSet.poolRange_eq {d : DescriptorSet} {place : PoolPlace}
    (h : d.place = some place) : d.poolRange = ⟨place.offset, d.layout.allocationSize⟩ := by
  rw [poolRange, h]
  rfl

namespace DescriptorPool

/-- A call to a pool. -/
inductive Request where
  | allocate (layout : SetLayout)
  | free (set : DescriptorSet)
  | reset

/-- A pool and the sets in use, which were allocated since the pool was reset last and not freed. -/
structure Usage where
  pool : DescriptorPool
  sets : List DescriptorSet := []

namespace Usage

/-- What a call answers, and the pool and the sets in use after it. -/
def make (u : Usage) : Request → Except Failure Unit × Usage
  | .allocate layout =>
    match (allocate layout).run u.pool with
    | (.ok d, pool) => (.ok (), ⟨pool, d :: u.sets⟩)
    | (.error e, pool) => (.error e, ⟨pool, u.sets⟩)
  | .free d =>
    match (free d).run u.pool with
    | (.ok (), pool) => (.ok (), ⟨pool, u.sets.filter (·.place ≠ d.place)⟩)
    | (.error e, pool) => (.error e, ⟨pool, u.sets⟩)
  | .reset => (.ok (), ⟨(reset.run u.pool).2, []⟩)

/-- The pool and the sets in use after calls. -/
def run (u : Usage) (requests : List Request) : Usage := requests.foldl (fun u c => (u.make c).2) u

/-- A set is in use, whatever has been written to it since it was allocated. -/
def Holds (u : Usage) (d : DescriptorSet) : Prop :=
  ∃ d' ∈ u.sets, d'.place = d.place ∧ d'.layout = d.layout

/-- Of its own sets, a pool is asked to free only those in use. -/
def Allows (u : Usage) : Request → Prop
  | .free d => (∃ place, d.place = some place ∧ place.pool = u.pool.id) → u.Holds d
  | _ => True

/-- All calls are allowed when they are made. -/
def AllowsAll (u : Usage) : List Request → Prop
  | [] => True
  | c :: rest => u.Allows c ∧ (u.make c).2.AllowsAll rest

/-- The pool knows exactly the ranges of the sets in use, in ascending order, and what they add up
to. -/
structure Tidy (u : Usage) : Prop where
  ascending : Ascending u.pool.size 0 u.pool.ranges
  placed : ∀ d ∈ u.sets, d.place = some ⟨u.pool.id, d.poolRange.offset⟩
  ranges : u.pool.ranges.Perm (u.sets.map DescriptorSet.poolRange)
  bytes : u.pool.allocatedBytes = (u.pool.ranges.map (·.size)).sum
  count : u.pool.ranges.length ≤ u.pool.maxSets

variable {u : Usage}

theorem allocationSize_pos (layout : SetLayout) : 0 < layout.allocationSize := by
  rw [SetLayout.allocationSize, SetLayout.headerSize]
  omega

/-- A new set has the layout and the place that it is made for. -/
theorem layout_place_of_create {layout : SetLayout} {place : Option PoolPlace} {d : DescriptorSet}
    (h : DescriptorSet.create layout place = .ok d) : d.layout = layout ∧ d.place = place := by
  simp only [DescriptorSet.create, bind_eq_ok, pure_eq_ok] at h
  obtain ⟨-, -, rfl⟩ := h
  exact ⟨rfl, rfl⟩

namespace Tidy

/-- The ranges of sets in use lie apart. -/
theorem apart (h : u.Tidy) : u.sets.Pairwise fun a b => a.poolRange.Apart b.poolRange := by
  have hranges : u.pool.ranges.Pairwise PoolRange.Apart :=
    h.ascending.pairwise.imp fun hab => Set.Ico_disjoint_Ico.mpr (by omega)
  exact List.pairwise_map.mp ((h.ranges.pairwise_iff fun hab => hab.symm).mp hranges)

theorem mem_ranges (h : u.Tidy) {d : DescriptorSet} (hd : d ∈ u.sets) :
    d.poolRange ∈ u.pool.ranges := h.ranges.mem_iff.mpr (List.mem_map_of_mem hd)

theorem total_le (h : u.Tidy) : u.pool.allocatedBytes ≤ u.pool.size := by
  have := h.ascending.total_le
  rw [h.bytes]
  omega

/-- No two sets in use have one place. -/
theorem nodup_places (h : u.Tidy) : (u.sets.map (·.place)).Nodup := by
  refine List.pairwise_map.mpr (h.apart.imp fun {a b} hab hplace => ?_)
  have hoffset : b.poolRange.offset = a.poolRange.offset := by
    rw [DescriptorSet.poolRange, DescriptorSet.poolRange, hplace]
  have hfirst : ∀ d : DescriptorSet, d.poolRange.offset ∈ d.poolRange.bytes := fun d =>
    ⟨Nat.le_refl _, Nat.lt_add_of_pos_right (allocationSize_pos d.layout)⟩
  exact Set.disjoint_left.mp hab (hfirst a) (hoffset ▸ hfirst b)

theorem start (p : DescriptorPool) : Usage.Tidy ⟨p.cleared, []⟩ where
  ascending := Nat.zero_le _
  placed := fun _ hd => nomatch hd
  ranges := .refl _
  bytes := rfl
  count := Nat.zero_le _

/-- **A set is allocated** in the lowest free range. -/
theorem occupy (h : u.Tidy) {d : DescriptorSet} {offset : Nat}
    (hcount : u.pool.ranges.length < u.pool.maxSets)
    (hfind : findFree u.pool.size d.layout.allocationSize 0 u.pool.ranges = .ok (some offset))
    (hplace : d.place = some ⟨u.pool.id, offset⟩) :
    Usage.Tidy ⟨u.pool.occupy d.poolRange, d :: u.sets⟩ := by
  have hrange := DescriptorSet.poolRange_eq hplace
  obtain ⟨-, hascending, hperm⟩ := h.ascending.insertRange (allocationSize_pos d.layout) hfind
  rw [← hrange] at hascending hperm
  refine ⟨hascending, ?_, hperm.trans (h.ranges.cons _), ?_, ?_⟩
  · intro d' hd'
    rcases List.mem_cons.mp hd' with rfl | hd'
    · rw [hplace, hrange]
      rfl
    · exact h.placed d' hd'
  · have hsum := (hperm.map (·.size)).sum_eq
    rw [List.map_cons, List.sum_cons, ← h.bytes] at hsum
    exact (Nat.add_comm _ _).trans hsum.symm
  · show (insertRange d.poolRange u.pool.ranges).length ≤ _
    rw [hperm.length_eq]
    exact hcount

/-- Where there is no place for a set, the request is refused. -/
theorem refused_of_placeFor (h : u.Tidy) {layout : SetLayout} {e : Failure}
    (hplace : u.pool.placeFor layout = .error e) : ∃ r, e = .refused r := by
  obtain ⟨found, hfind⟩ := h.ascending.exists_findFree layout.allocationSize
  rw [placeFor, hfind] at hplace
  simp only [throw_eq_error, error_bind, ok_bind] at hplace
  split at hplace
  · exact ⟨_, (Except.error.inj hplace).symm⟩
  split at hplace
  · exact ⟨_, (Except.error.inj hplace).symm⟩
  cases found with
  | some offset => cases hplace
  | none =>
    simp only [shortage, difference_of_le h.total_le, ok_bind] at hplace
    exact ⟨_, (Except.error.inj hplace).symm⟩

/-- **An allocation** is refused without a change, or adds a set with a range of its own. -/
theorem allocate_cases (h : u.Tidy) (layout : SetLayout) :
    (∃ r, u.make (.allocate layout) = (.error (.refused r), u)) ∨
      ∃ d : DescriptorSet, d.layout = layout ∧
        u.make (.allocate layout) = (.ok (), ⟨u.pool.occupy d.poolRange, d :: u.sets⟩) ∧
        Usage.Tidy ⟨u.pool.occupy d.poolRange, d :: u.sets⟩ := by
  rw [make, run_allocate]
  cases hplace : u.pool.placeFor layout with
  | error e =>
    obtain ⟨r, rfl⟩ := h.refused_of_placeFor hplace
    exact .inl ⟨r, rfl⟩
  | ok offset =>
    dsimp only
    cases hcreate : DescriptorSet.create layout (some ⟨u.pool.id, offset⟩) with
    | error e => exact .inl ⟨.error e, rfl⟩
    | ok d =>
      obtain ⟨rfl, hd⟩ := layout_place_of_create hcreate
      obtain ⟨-, hcount, hfind⟩ := placeFor_eq_ok.mp hplace
      refine .inr ⟨d, rfl, ?_, h.occupy hcount hfind hd⟩
      rw [DescriptorSet.poolRange_eq hd]

/-- **Freeing** a set in use removes its range and nothing else. -/
theorem free_held (h : u.Tidy) {d : DescriptorSet} (hd : u.Holds d) :
    ∃ u' : Usage, u.make (.free d) = (.ok (), u') ∧ u'.Tidy ∧
      u'.pool.cleared = u.pool.cleared ∧ u.pool.ranges.Perm (d.poolRange :: u'.pool.ranges) ∧
      ∃ d' : DescriptorSet, d'.place = d.place ∧ d'.layout = d.layout ∧
        u.sets.Perm (d' :: u'.sets) := by
  obtain ⟨d', hmem, hplace, hlayout⟩ := hd
  have hrange : d'.poolRange = d.poolRange := by
    rw [DescriptorSet.poolRange, DescriptorSet.poolRange, hplace, hlayout]
  have hd : d.place = some ⟨u.pool.id, d.poolRange.offset⟩ := by
    rw [← hplace, ← hrange]
    exact h.placed d' hmem
  have hfind := h.ascending.find?_eq (hrange ▸ h.mem_ranges hmem)
  have hranges := perm_eraseP_of_find? hfind
  have hsets := perm_filter_ne h.nodup_places hmem
  rw [hplace] at hsets
  have hsum : u.pool.allocatedBytes =
      d.poolRange.size + ((u.pool.vacate d.poolRange.offset).ranges.map (·.size)).sum := by
    have hsum := (hranges.map (·.size)).sum_eq
    rwa [← h.bytes] at hsum
  refine ⟨⟨{ u.pool.vacate d.poolRange.offset with
      allocatedBytes := u.pool.allocatedBytes - d.poolRange.size },
    u.sets.filter (·.place ≠ d.place)⟩, ?_, ?_, rfl, hranges, d', hplace, hlayout, hsets⟩
  · rw [make, run_free, placeOf, hd]
    dsimp only
    rw [if_pos rfl]
    dsimp only
    rw [hfind]
    dsimp only
    rw [difference_of_le (by omega)]
  · refine ⟨h.ascending.eraseP _, fun d hd => h.placed d (List.mem_filter.mp hd).1, ?_, ?_, ?_⟩
    · have hboth := hranges.symm.trans (h.ranges.trans (hsets.map _))
      rw [List.map_cons, hrange] at hboth
      exact hboth.cons_inv
    · exact Nat.sub_eq_of_eq_add (hsum.trans (Nat.add_comm _ _))
    · exact Nat.le_trans (List.length_eraseP_le) h.count

/-- A set of another pool, or of none, is refused. -/
theorem free_refused {d : DescriptorSet}
    (hd : ¬ ∃ place, d.place = some place ∧ place.pool = u.pool.id) :
    u.make (.free d) = (.error (.invalid freeError), u) := by
  have hplace : u.pool.placeOf d = .error (.invalid freeError) := by
    rw [placeOf]
    split
    · rename_i place hplace
      exact if_neg fun hpool => hd ⟨place, hplace, hpool⟩
    · rfl
  rw [make, run_free, hplace]

end Tidy

/-- What an allowed call does: it is refused and changes nothing, or it is answered. -/
inductive Step (u : Usage) : Request → Except Failure Unit → Usage → Prop
  | refused (c : Request) (r : Refusal ResourceError) : Step u c (.error (.refused r)) u
  | allocated (d : DescriptorSet) :
    Step u (.allocate d.layout) (.ok ()) ⟨u.pool.occupy d.poolRange, d :: u.sets⟩
  | freed {d d' : DescriptorSet} {u' : Usage} (hplace : d'.place = d.place)
    (hlayout : d'.layout = d.layout) (hsets : u.sets.Perm (d' :: u'.sets))
    (hranges : u.pool.ranges.Perm (d.poolRange :: u'.pool.ranges))
    (hpool : u'.pool.cleared = u.pool.cleared) : Step u (.free d) (.ok ()) u'
  | reset : Step u .reset (.ok ()) ⟨u.pool.cleared, []⟩

/-- **An allowed call** keeps a pool tidy. -/
theorem Tidy.step (h : u.Tidy) {c : Request} (hallows : u.Allows c) :
    u.Step c (u.make c).1 (u.make c).2 ∧ (u.make c).2.Tidy := by
  cases c with
  | allocate layout =>
    rcases h.allocate_cases layout with ⟨r, hmake⟩ | ⟨d, rfl, hmake, htidy⟩ <;> rw [hmake]
    · exact ⟨.refused _ r, h⟩
    · exact ⟨.allocated d, htidy⟩
  | free d =>
    by_cases hown : ∃ place, d.place = some place ∧ place.pool = u.pool.id
    · obtain ⟨u', hmake, htidy, hpool, hranges, d', hplace, hlayout, hsets⟩ :=
        h.free_held (hallows hown)
      rw [hmake]
      exact ⟨.freed hplace hlayout hsets hranges hpool, htidy⟩
    · rw [Tidy.free_refused hown]
      exact ⟨.refused _ _, h⟩
  | reset => exact ⟨.reset, .start u.pool⟩

theorem cleared_make (u : Usage) (c : Request) : (u.make c).2.pool.cleared = u.pool.cleared := by
  cases c with
  | allocate layout =>
    have hrun := u.pool.cleared_allocate layout
    rw [make]
    rcases heq : (allocate layout).run u.pool with ⟨_ | _, pool⟩ <;> (rw [heq] at hrun; exact hrun)
  | free d =>
    have hrun := u.pool.cleared_free d
    rw [make]
    rcases heq : (free d).run u.pool with ⟨_ | _, pool⟩ <;> (rw [heq] at hrun; exact hrun)
  | reset => rfl

theorem cleared_run (u : Usage) (requests : List Request) :
    (u.run requests).pool.cleared = u.pool.cleared := by
  induction requests generalizing u with
  | nil => rfl
  | cons c rest ih => exact (ih (u.make c).2).trans (u.cleared_make c)

/-- Allowed calls, one after the other, keep a pool tidy. -/
theorem Tidy.run (h : u.Tidy) {requests : List Request} (hallowed : u.AllowsAll requests) :
    (u.run requests).Tidy := by
  induction requests generalizing u with
  | nil => exact h
  | cons c rest ih => exact ih (h.step hallowed.1).2 hallowed.2

/-- A new pool has nothing in use. -/
theorem cleared_of_create {id device maxSets : Nat} {sizes : List (DescriptorKind × Nat)}
    {p : DescriptorPool} (h : create id device maxSets sizes = .ok p) :
    p = ⟨id, device, maxSets, sizes, totalSize maxSets sizes, [], 0⟩ := by
  simp only [create, throw_eq_error, error_bind, bind_eq_ok, mapError_eq_ok, ite_error_eq_ok,
    pure_eq_ok] at h
  obtain ⟨-, -, -, rfl⟩ := h
  rfl

/-- **Sets keep apart in their pool.**  After any calls to a new pool that free, of its own sets,
only those in use: the sets in use have disjoint ranges inside the pool, each as long as its layout
asks for, and the pool knows exactly these ranges and their total length; there are no more than the
pool has room for.  The next such call never takes a number from a smaller one; when it fails it
changes nothing; and freeing a set in use removes the range of this set and no other. -/
theorem sets_keep_apart {id device maxSets : Nat} {sizes : List (DescriptorKind × Nat)}
    {p : DescriptorPool} (hcreate : create id device maxSets sizes = .ok p)
    {requests : List Request} (hallowed : AllowsAll ⟨p, []⟩ requests) {u : Usage}
    (hu : run ⟨p, []⟩ requests = u) :
    u.pool.cleared = p ∧
      (∀ d ∈ u.sets, d.place = some ⟨p.id, d.poolRange.offset⟩ ∧
        d.poolRange.size = d.layout.allocationSize ∧ d.poolRange.bytes ⊆ Set.Ico 0 p.size) ∧
      u.sets.Pairwise (fun a b => a.poolRange.Apart b.poolRange) ∧
      u.pool.ranges.Perm (u.sets.map (·.poolRange)) ∧
      u.pool.allocatedBytes = (u.sets.map (·.layout.allocationSize)).sum ∧
      u.sets.length ≤ p.maxSets ∧
      ∀ c, u.Allows c → ∀ answer u', u.make c = (answer, u') →
        (∀ f, answer ≠ .error (.fault f)) ∧ (∀ e, answer = .error e → u' = u) ∧
        (∀ layout, c = .allocate layout → answer = .ok () →
          ∃ d, d.layout = layout ∧ u'.sets = d :: u.sets) ∧
        ∀ d, c = .free d → u.Holds d → answer = .ok () ∧
          u.pool.ranges.Perm (d.poolRange :: u'.pool.ranges) ∧
          ∃ d', d'.place = d.place ∧ d'.layout = d.layout ∧ u.sets.Perm (d' :: u'.sets) := by
  have hnew := cleared_of_create hcreate
  have hstart : Tidy ⟨p, []⟩ := by
    have := Tidy.start p
    rwa [hnew] at this ⊢
  have hkept : u.pool.cleared = p := by
    rw [← hu, cleared_run, hnew]
    rfl
  have h : u.Tidy := hu ▸ hstart.run hallowed
  have hid : u.pool.id = p.id := by rw [← hkept]; rfl
  have hsize : u.pool.size = p.size := by rw [← hkept]; rfl
  have hmax : u.pool.maxSets = p.maxSets := by rw [← hkept]; rfl
  refine ⟨hkept, fun d hd => ⟨hid ▸ h.placed d hd, rfl, fun i hi => ?_⟩, h.apart, h.ranges, ?_, ?_,
    fun c hallows answer u' hmake => ?_⟩
  · have hbounds := h.ascending.bounds (h.mem_ranges hd)
    exact ⟨Nat.zero_le i, Nat.lt_of_lt_of_le hi.2 (hsize ▸ hbounds.2.2)⟩
  · rw [h.bytes, (h.ranges.map (·.size)).sum_eq, List.map_map]
    rfl
  · have hcount := h.count
    rwa [h.ranges.length_eq, List.length_map, hmax] at hcount
  · have hstep := (h.step hallows).1
    rw [hmake] at hstep
    refine ⟨?_, ?_, ?_, ?_⟩
    · rintro f rfl
      cases hstep
    · rintro e rfl
      cases hstep
      rfl
    · rintro layout rfl rfl
      cases hstep with
      | allocated d => exact ⟨d, rfl, rfl⟩
    · rintro d rfl hd
      obtain ⟨u'', hfree, -, -, hranges, hsets⟩ := h.free_held hd
      obtain ⟨rfl, rfl⟩ := Prod.mk.inj (hmake.symm.trans hfree)
      exact ⟨rfl, hranges, hsets⟩

namespace Reuse

/-- A layout with one uniform buffer. -/
def layout : SetLayout := ⟨1, 0, [{ number := 0, kind := .uniformBuffer }]⟩

/-- A pool with room for two sets of the layout. -/
def small : DescriptorPool := ⟨2, 0, 2, [(.uniformBuffer, 2)], 64, [], 0⟩

/-- The first set that the pool gives. -/
def first : DescriptorSet := { layout, data := .zeroed 16, place := some ⟨2, 0⟩ }

/-- Two sets are allocated, the first one is freed, and a third one is allocated. -/
def requests : List Request := [.allocate layout, .allocate layout, .free first, .allocate layout]

theorem created : create 2 0 2 [(.uniformBuffer, 2)] = .ok small := by decide

theorem allowed : AllowsAll ⟨small, []⟩ requests :=
  ⟨trivial, trivial, fun _ => ⟨first, .tail _ (.head _), rfl, rfl⟩, trivial, trivial⟩

end Reuse

open Reuse in
/-- The third set takes the range of the first one, apart from the second one. -/
theorem freed_range_is_reused :
    create 2 0 2 [(.uniformBuffer, 2)] = .ok small ∧ AllowsAll ⟨small, []⟩ requests ∧
      (run ⟨small, []⟩ requests).sets.map (·.poolRange) = [⟨0, 32⟩, ⟨32, 32⟩] ∧
      (run ⟨small, []⟩ requests).sets.Pairwise (fun a b => a.poolRange.Apart b.poolRange) ∧
      (run ⟨small, []⟩ requests).pool.allocatedBytes = 64 := by
  obtain ⟨-, -, hapart, -, hbytes, -⟩ := sets_keep_apart created allowed rfl
  exact ⟨created, allowed, rfl, hapart, hbytes⟩

end Usage
end DescriptorPool
end HostGpu
