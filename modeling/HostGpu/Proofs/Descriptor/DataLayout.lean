import HostGpu.Proofs.Descriptor.Layout
import HostGpu.Proofs.Span

/-!
# The records of a set fill its data

Bindings of a created layout have different numbers, so that a record is found where its binding was
declared.  From there on everything is said by `Span.Follow`: spans that follow each other from one
place to another are in order and cover every place between.  The records of an array follow each
other, so do the arrays of a layout, and a run of array elements is an array of its own:
`SetLayout.records_fill_data`.
-/

namespace HostGpu

open Outcome

/-! ## Arrays of records -/

namespace Span

/-- Records of equal size, one after the other. -/
def array (start stride count : Nat) : List Span :=
  (List.range count).map fun i => ⟨start + stride * i, start + stride * i + stride⟩

theorem follow_array (start stride count : Nat) :
    Follow start (start + stride * count) (array start stride count) := by
  induction count with
  | zero => exact rfl
  | succ count ih =>
    rw [array, List.range_succ, List.map_append]
    refine ih.append ⟨rfl, Nat.le_add_right _ _, ?_⟩
    exact Nat.add_assoc _ _ _

end Span

namespace SetLayout

/-! ## Created layouts -/

/-- Bindings that pass have other numbers than those before, and than each other. -/
theorem nodup_of_checkFrom {before bindings : List LayoutBinding}
    (h : checkFrom before bindings = .ok ()) :
    (bindings.map (·.number)).Nodup ∧ ∀ b ∈ bindings, ∀ c ∈ before, c.number ≠ b.number := by
  induction bindings generalizing before with
  | nil => exact ⟨List.nodup_nil, fun b hb => absurd hb List.not_mem_nil⟩
  | cons b rest ih =>
    simp only [checkFrom, bind_eq_ok, throw_eq_error, error_bind, ite_error_eq_ok] at h
    obtain ⟨-, -, hfirst, hrest⟩ := h
    obtain ⟨hnodup, hother⟩ := ih hrest
    have hb : ∀ c ∈ before, c.number ≠ b.number := by simpa using hfirst
    rw [List.map_cons, List.nodup_cons, List.forall_mem_cons]
    refine ⟨⟨fun hmem => ?_, hnodup⟩, hb, fun c hc d hd => ?_⟩
    · obtain ⟨c, hc, hnumber⟩ := List.mem_map.mp hmem
      exact hother c hc b (by simp) hnumber.symm
    · exact hother c hc d (List.mem_append_left _ hd)

variable {l : SetLayout} {b : LayoutBinding}

/-- A binding is found by its number where it was declared. -/
theorem bindingOffset_of_getElem? (hnodup : (l.bindings.map (·.number)).Nodup) {index : Nat}
    (hb : l.bindings[index]? = some b) : l.find? b.number = some b ∧
      ∀ element, l.bindingOffset b.number element = .ok (l.start index + b.stride * element) := by
  have hsome : (l.find? b.number).isSome = true := by
    rw [find?, List.find?_isSome]
    exact ⟨b, List.mem_of_getElem? hb, by simp⟩
  obtain ⟨b', hfind⟩ := Option.isSome_iff_exists.mp hsome
  obtain ⟨index', hb', hnumber, hoffset⟩ := exists_bindingOffset hfind
  have hindex : index' = index := by
    refine (List.getElem?_inj ?_ hnodup).mp ?_
    · rw [List.length_map]
      exact (List.getElem?_eq_some_iff.mp hb').1
    · rw [List.getElem?_map, List.getElem?_map, hb, hb', Option.map_some, Option.map_some, hnumber]
  subst hindex
  obtain rfl : b' = b := Option.some.inj (hb'.symm.trans hb)
  exact ⟨hfind, hoffset⟩

/-! ## Records in order -/

/-- The array elements of bindings, in the order of declaration and then of the arrays. -/
def elementsOf (bindings : List LayoutBinding) : List ElementKey :=
  bindings.flatMap fun b => (List.range b.count).map (⟨b.number, ·⟩)

/-- The bytes of the record of an array element. -/
def recordSpan (l : SetLayout) (k : ElementKey) : Except Fault Span := do
  let start ← l.bindingOffset k.binding k.element
  return ⟨start, start + (← l.bindingStride k.binding)⟩

theorem recordSpan_eq {number element o : Nat} (hfind : l.find? number = some b)
    (hoffset : l.bindingOffset number element = .ok o) :
    l.recordSpan ⟨number, element⟩ = .ok ⟨o, o + b.stride⟩ := by
  have hbinding : l.binding number = .ok b := binding_eq_ok.mpr hfind
  simp only [recordSpan, bindingStride, hoffset, hbinding, ok_bind]
  rfl

/-- The records of the bindings from a place in the declaration on follow each other up to the end
of the data. -/
theorem exists_spans (hnodup : (l.bindings.map (·.number)).Nodup) (index : Nat) :
    ∃ spans, List.Forall₂ (fun k s => l.recordSpan k = .ok s)
        (elementsOf (l.bindings.drop index)) spans ∧
      Span.Follow (l.start index) l.dataSize spans ∧ ∀ s ∈ spans, 16 ∣ s.start := by
  -- from the last binding back to the first
  induction hrest : l.bindings.drop index generalizing index with
  | nil =>
    refine ⟨[], .nil, ?_, fun s hs => absurd hs List.not_mem_nil⟩
    rw [Span.Follow, start, dataSize, List.take_of_length_le (List.drop_eq_nil_iff.mp hrest)]
  | cons b rest ih =>
    have hb : l.bindings[index]? = some b := by
      rw [← List.head?_drop, hrest, List.head?_cons]
    have htail : l.bindings.drop (index + 1) = rest := by
      rw [← List.tail_drop, hrest, List.tail_cons]
    obtain ⟨spans, hspans, hfollow, hdvd⟩ := ih (index + 1) htail
    obtain ⟨hfind, hoffset⟩ := bindingOffset_of_getElem? hnodup hb
    refine ⟨Span.array (l.start index) b.stride b.count ++ spans, ?_, ?_, ?_⟩
    · refine List.rel_append ?_ hspans
      rw [Span.array, List.forall₂_map_left_iff, List.forall₂_map_right_iff, List.forall₂_same]
      exact fun i _ => recordSpan_eq hfind (hoffset i)
    · refine (Span.follow_array _ _ _).append ?_
      rwa [start_succ hb, LayoutBinding.size, Nat.mul_comm] at hfollow
    · rw [List.forall_mem_append]
      refine ⟨?_, hdvd⟩
      simp only [Span.array, List.mem_map, forall_exists_index, and_imp, forall_apply_eq_imp_iff₂]
      exact fun i _ => (l.sixteen_dvd_start index).add (b.sixteen_dvd_stride.mul_right i)

/-- The range of a run of array elements is made of their records. -/
theorem dataRange_of_getElem? (hnodup : (l.bindings.map (·.number)).Nodup) {index : Nat}
    (hb : l.bindings[index]? = some b) {first count : Nat} (hbound : first + count ≤ b.count) :
    ∃ range, l.dataRange b.number first count = .ok range ∧
      l.bindingOffset b.number first = .ok range.start ∧
      ∀ o, o ∈ range ↔ ∃ i < count, ∃ s, l.recordSpan ⟨b.number, first + i⟩ = .ok s ∧ o ∈ s := by
  obtain ⟨hfind, hoffset⟩ := bindingOffset_of_getElem? hnodup hb
  have hrun : l.Run b.number first count b (l.start index + b.stride * first) :=
    ⟨hfind, hbound, hoffset first⟩
  have hspan (i : Nat) : l.recordSpan ⟨b.number, first + i⟩ =
      .ok ⟨l.start index + b.stride * first + b.stride * i,
        l.start index + b.stride * first + b.stride * i + b.stride⟩ := by
    rw [recordSpan_eq hfind (hoffset (first + i)), Nat.mul_add, ← Nat.add_assoc]
  refine ⟨_, hrun.dataRange, hoffset first, fun o => ?_⟩
  rw [Span.mem_iff, ← (Span.follow_array _ _ _).exists_mem_iff]
  simp only [Span.array, List.mem_map, List.mem_range, exists_exists_and_eq_and, hspan,
    Except.ok.injEq, exists_eq_left']

/-- **The records of a set fill its data.**  In the order of declaration and then of the arrays they
start at multiples of 16, a record ends before all later ones start, and together they are all bytes
of the data, after which only the header has room in a set.  The range of a run of array elements is
made of their records. -/
theorem records_fill_data {id device : Nat} {bindings : List LayoutBinding}
    (h : create id device bindings = .ok l) :
    (∃ spans, List.Forall₂ (fun k s => l.recordSpan k = .ok s) (elementsOf bindings) spans ∧
      (∀ s ∈ spans, 16 ∣ s.start) ∧ spans.Pairwise (fun s t => s.stop ≤ t.start) ∧
      (∀ o, o < l.dataSize ↔ ∃ s ∈ spans, o ∈ s) ∧
      l.allocationSize = headerSize + (spans.map (·.length)).sum) ∧
    ∀ b ∈ bindings, ∀ first count, first + count ≤ b.count →
      ∃ range, l.dataRange b.number first count = .ok range ∧
        l.bindingOffset b.number first = .ok range.start ∧
        ∀ o, o ∈ range ↔ ∃ i < count, ∃ s, l.recordSpan ⟨b.number, first + i⟩ = .ok s ∧ o ∈ s := by
  simp only [create, bind_eq_ok, mapError_eq_ok, throw_eq_error, error_bind, ite_error_eq_ok,
    pure_eq_ok] at h
  obtain ⟨⟨⟩, hcheck, -, rfl⟩ := h
  obtain ⟨hnodup, -⟩ := nodup_of_checkFrom hcheck
  constructor
  · obtain ⟨spans, hspans, hfollow, hdvd⟩ := exists_spans (l := ⟨id, device, bindings⟩) hnodup 0
    refine ⟨spans, hspans, hdvd, hfollow.pairwise, fun o => ?_, ?_⟩
    · rw [hfollow.exists_mem_iff]
      simp [start]
    · have hsum := hfollow.sum_length
      simp only [start, List.take_zero, List.map_nil, List.sum_nil, Nat.zero_add] at hsum
      rw [hsum, allocationSize]
  · intro b hb first count hbound
    obtain ⟨index, hindex⟩ := List.mem_iff_getElem?.mp hb
    exact dataRange_of_getElem? (l := ⟨id, device, bindings⟩) hnodup hindex hbound

/-- Bindings with numbers out of order, one of them without descriptors, and with all three sizes of
records. -/
def mixedBindings : List LayoutBinding := [
  { number := 5, kind := .storageBuffer, count := 2 },
  { number := 1, kind := .sampler, count := 0 },
  { number := 3, kind := .storageImage },
  { number := 0, kind := .combinedImageSampler }]

/-- The records of the two buffers, of the image and of the texture take 4064 bytes. -/
theorem mixed_records_fill_data : ∃ l, create 1 1 mixedBindings = .ok l ∧
    (∃ spans, List.Forall₂ (fun k s => l.recordSpan k = .ok s) (elementsOf mixedBindings) spans ∧
      spans.Pairwise (fun s t => s.stop ≤ t.start) ∧ (∀ o, o < 4064 ↔ ∃ s ∈ spans, o ∈ s)) ∧
    ∃ range, l.dataRange 5 0 2 = .ok range ∧
      ∀ o, o ∈ range ↔ ∃ i < 2, ∃ s, l.recordSpan ⟨5, 0 + i⟩ = .ok s ∧ o ∈ s := by
  have hcreate : create 1 1 mixedBindings = .ok _ := rfl
  obtain ⟨⟨spans, hspans, -, hpairwise, hcovers, -⟩, hranges⟩ := records_fill_data hcreate
  obtain ⟨range, hrange, -, hmem⟩ := hranges _ List.mem_cons_self 0 2 (Nat.le_refl 2)
  exact ⟨_, hcreate, ⟨spans, hspans, hpairwise, hcovers⟩, range, hrange, hmem⟩

end SetLayout

end HostGpu
