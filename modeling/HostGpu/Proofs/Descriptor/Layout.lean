import HostGpu.Descriptor.Set
import HostGpu.Proofs.Outcome
import Mathlib.Algebra.BigOperators.Ring.List
import Mathlib.Algebra.Ring.Nat

/-!
# Places of descriptors

The records of a set lie one after the other in the order of declaration.  `SetLayout.Element` is an
array element of a binding with the place of its record; the records of two elements never overlap.
-/

namespace HostGpu

open Outcome

namespace LayoutBinding

theorem sixteen_dvd_stride (b : LayoutBinding) : 16 ∣ b.stride := by
  rw [stride]
  cases b.kind.record? with
  | none => exact Nat.dvd_zero 16
  | some k => exact k.sixteen_dvd_size

theorem sixteen_dvd_bytes (b : LayoutBinding) : 16 ∣ b.size := b.sixteen_dvd_stride.mul_left _

/-- A binding has an immutable sampler for each element, or does not use any. -/
def SamplersFit (b : LayoutBinding) : Prop :=
  b.usesImmutableSamplers = true → b.immutableSamplers.length = b.count

theorem samplersFit_of_check {b : LayoutBinding} (h : b.check = .ok ()) : b.SamplersFit := by
  intro huses
  simp only [usesImmutableSamplers, Bool.and_eq_true, Bool.not_eq_true'] at huses
  simp only [check, huses.2, throw_eq_error, error_bind, ite_error_eq_ok, Bool.false_eq_true,
    if_false, pure_eq_ok, not_not, ne_eq] at h
  exact h.2.1.symm

end LayoutBinding

namespace SetLayout

/-! ## Created layouts -/

theorem samplersFit_of_checkFrom {before bindings : List LayoutBinding}
    (h : checkFrom before bindings = .ok ()) : ∀ b ∈ bindings, b.SamplersFit := by
  induction bindings generalizing before with
  | nil => exact fun b hb => absurd hb List.not_mem_nil
  | cons b rest ih =>
    simp only [checkFrom, bind_eq_ok, mapError_eq_ok, throw_eq_error, error_bind,
      ite_error_eq_ok] at h
    obtain ⟨⟨⟩, hb, -, hrest⟩ := h
    rw [List.forall_mem_cons]
    exact ⟨LayoutBinding.samplersFit_of_check hb, ih hrest⟩

theorem samplersFit_of_create {id device : Nat} {bindings : List LayoutBinding} {l : SetLayout}
    (h : create id device bindings = .ok l) : ∀ b ∈ l.bindings, b.SamplersFit := by
  simp only [create, bind_eq_ok, mapError_eq_ok, throw_eq_error, error_bind, ite_error_eq_ok,
    pure_eq_ok] at h
  obtain ⟨⟨⟩, hcheck, -, rfl⟩ := h
  exact samplersFit_of_checkFrom hcheck

/-! ## Places of bindings -/

variable {l : SetLayout}

theorem start_succ {index : Nat} {b : LayoutBinding} (h : l.bindings[index]? = some b) :
    l.start (index + 1) = l.start index + b.size := by
  rw [start, start, List.take_add_one, h, List.map_append, List.sum_append]
  simp

theorem start_mono {index index' : Nat} (h : index ≤ index') : l.start index ≤ l.start index' := by
  obtain ⟨d, rfl⟩ := Nat.exists_eq_add_of_le h
  rw [start, start, List.take_add, List.map_append, List.sum_append]
  exact Nat.le_add_right _ _

theorem sixteen_dvd_start (l : SetLayout) (index : Nat) : 16 ∣ l.start index := by
  refine List.dvd_sum ?_
  intro n hn
  obtain ⟨b, -, rfl⟩ := List.mem_map.mp hn
  exact b.sixteen_dvd_bytes

theorem binding_eq_ok {number : Nat} {b : LayoutBinding} :
    l.binding number = .ok b ↔ l.find? number = some b := by
  rw [binding]
  cases l.find? number with
  | none => exact ⟨nofun, nofun⟩
  | some b' => simp

/-- An array element of a binding, and where its record starts. -/
structure Element (l : SetLayout) (k : ElementKey) (b : LayoutBinding) (offset : Nat) : Prop where
  binding : l.find? k.binding = some b
  element : k.element < b.count
  offset : l.bindingOffset k.binding k.element = .ok offset

/-- Where the record of an element starts, for a binding that exists. -/
theorem exists_bindingOffset {number : Nat} {b : LayoutBinding} (h : l.find? number = some b) :
    ∃ index, l.bindings[index]? = some b ∧ b.number = number ∧
      ∀ element, l.bindingOffset number element = .ok (l.start index + b.stride * element) := by
  have hnumber : b.number = number := by
    have hfound := List.find?_some h
    simpa using hfound
  rw [find?, List.find?_eq_bind_findIdx?_getElem?, Option.bind_eq_some_iff] at h
  obtain ⟨index, hindex, hb⟩ := h
  refine ⟨index, hb, hnumber, ?_⟩
  intro element
  have hfind : l.find? number = some b := by
    rw [find?, List.find?_eq_bind_findIdx?_getElem?, hindex]
    exact hb
  simp only [bindingOffset, bindingIndex, bindingStride, binding, hindex, hfind, ok_bind]
  rfl

theorem exists_find_of_bindingOffset {number element o : Nat}
    (h : l.bindingOffset number element = .ok o) : ∃ b, l.find? number = some b := by
  simp only [bindingOffset, bindingStride, bind_eq_ok, pure_eq_ok] at h
  obtain ⟨_, -, _, ⟨b, hb, -⟩, -⟩ := h
  exact ⟨b, binding_eq_ok.mp hb⟩

namespace Element

variable {k : ElementKey} {b : LayoutBinding} {o : Nat}

/-- The records of the first binding lie at the start. -/
theorem first {rest : List LayoutBinding} (hl : l.bindings = b :: rest) (hcount : 0 < b.count) :
    l.Element ⟨b.number, 0⟩ b 0 := by
  have hfind : l.find? b.number = some b := by simp [find?, hl]
  refine ⟨hfind, hcount, ?_⟩
  simp [bindingOffset, bindingIndex, bindingStride, SetLayout.binding, hfind, hl,
    List.findIdx?_cons, ok_bind, start]

/-- The record of an element lies between the start of its binding and that of the next one. -/
theorem located (h : l.Element k b o) : ∃ index, l.bindings[index]? = some b ∧
    b.number = k.binding ∧ o = l.start index + b.stride * k.element ∧
    o + b.stride ≤ l.start (index + 1) := by
  obtain ⟨index, hb, hnumber, hoffset⟩ := exists_bindingOffset h.binding
  have ho : o = l.start index + b.stride * k.element :=
    Except.ok.inj (h.offset.symm.trans (hoffset k.element))
  refine ⟨index, hb, hnumber, ho, ?_⟩
  have hroom := Nat.mul_le_mul_right b.stride (Nat.succ_le_of_lt h.element)
  rw [start_succ hb, ho, LayoutBinding.size, Nat.mul_comm b.stride, Nat.add_assoc,
    ← Nat.succ_mul]
  omega

end Element

/-! ## Runs of elements -/

/-- Consecutive array elements of a binding, and where the first record starts. -/
structure Run (l : SetLayout) (number first count : Nat) (b : LayoutBinding) (offset : Nat) :
    Prop where
  binding : l.find? number = some b
  bound : first + count ≤ b.count
  offset : l.bindingOffset number first = .ok offset

namespace Run

variable {number first count : Nat} {k : ElementKey} {b b' : LayoutBinding} {o o' : Nat}

/-- The records of a run lie one after the other. -/
theorem elementAt (h : l.Run number first count b o) {i : Nat} (hi : i < count) :
    l.Element ⟨number, first + i⟩ b (o + b.stride * i) := by
  obtain ⟨index, -, -, hoffset⟩ := exists_bindingOffset h.binding
  refine ⟨h.binding, Nat.lt_of_lt_of_le (Nat.add_lt_add_left hi first) h.bound, ?_⟩
  have ho := Except.ok.inj (h.offset.symm.trans (hoffset first))
  rw [hoffset, ho, Nat.mul_add, Nat.add_assoc]

theorem sixteen_dvd (h : l.Run number first count b o) : 16 ∣ o := by
  obtain ⟨index, -, -, hoffset⟩ := exists_bindingOffset h.binding
  rw [Except.ok.inj (h.offset.symm.trans (hoffset first))]
  exact Nat.dvd_add (l.sixteen_dvd_start index) (b.sixteen_dvd_stride.mul_right first)

/-- A run without its first element. -/
theorem tail (h : l.Run number first (count + 1) b o) :
    l.Run number (first + 1) count b (o + b.stride) := by
  obtain ⟨index, -, -, hoffset⟩ := exists_bindingOffset h.binding
  refine ⟨h.binding, by have hbound := h.bound; omega, ?_⟩
  have ho := Except.ok.inj (h.offset.symm.trans (hoffset first))
  rw [hoffset, ho, Nat.mul_succ, Nat.add_assoc]

/-- **The records of a run do not overlap the record of an element outside of it.** -/
theorem disjoint (h : l.Run number first count b o) (h' : l.Element k b' o')
    (hout : k.binding = number → k.element < first ∨ first + count ≤ k.element) :
    o' + b'.stride ≤ o ∨ o + b.stride * count ≤ o' := by
  obtain ⟨index, hb, hnumber, hoffset⟩ := exists_bindingOffset h.binding
  obtain ⟨index', hb', hnumber', ho', hend'⟩ := h'.located
  have ho := Except.ok.inj (h.offset.symm.trans (hoffset first))
  have hend : o + b.stride * count ≤ l.start (index + 1) := by
    have hroom := Nat.mul_le_mul_left b.stride h.bound
    rw [start_succ hb, LayoutBinding.size, Nat.mul_comm b.count, ho, Nat.add_assoc, ← Nat.mul_add]
    exact Nat.add_le_add_left hroom _
  rcases Nat.lt_trichotomy index' index with hlt | rfl | hlt
  · have hmono : l.start (index' + 1) ≤ l.start index := start_mono hlt
    have hstart := Nat.le_add_right (l.start index) (b.stride * first)
    exact .inl (by omega)
  · -- both lie in one binding, the one with the smaller numbers of elements first
    obtain rfl : b = b' := Option.some.inj (hb.symm.trans hb')
    rcases hout (hnumber'.symm.trans hnumber) with hlt | hle
    · have hroom := Nat.mul_le_mul_left b.stride (Nat.succ_le_of_lt hlt)
      rw [Nat.mul_succ] at hroom
      exact .inl (by omega)
    · have hroom := Nat.mul_le_mul_left b.stride hle
      rw [Nat.mul_add] at hroom
      exact .inr (by omega)
  · have hmono : l.start (index + 1) ≤ l.start index' := start_mono hlt
    have hstart := Nat.le_add_right (l.start index') (b'.stride * k.element)
    exact .inr (by omega)

/-- The records of a run lie in the data. -/
theorem le_dataSize (h : l.Run number first count b o) : o + b.stride * count ≤ l.dataSize := by
  obtain ⟨index, hb, -, hoffset⟩ := exists_bindingOffset h.binding
  have ho := Except.ok.inj (h.offset.symm.trans (hoffset first))
  have hindex : index + 1 ≤ l.bindings.length := (List.getElem?_eq_some_iff.mp hb).1
  have hmono := l.start_mono hindex
  have hall : l.start l.bindings.length = l.dataSize := by rw [start, List.take_length, dataSize]
  have hroom := Nat.mul_le_mul_left b.stride h.bound
  rw [start_succ hb, hall, LayoutBinding.size] at hmono
  rw [Nat.mul_add, Nat.mul_comm b.stride b.count] at hroom
  omega

/-- The range of a run is not a fault. -/
theorem dataRange (h : l.Run number first count b o) :
    l.dataRange number first count = .ok ⟨o, o + b.stride * count⟩ := by
  have hstride : l.bindingStride number = .ok b.stride := by
    rw [bindingStride, SetLayout.binding, h.binding]
    rfl
  rw [SetLayout.dataRange, h.offset, hstride]
  exact if_pos h.le_dataSize

end Run

/-- There is a place for elements that a binding has. -/
theorem exists_run {number first count : Nat} {b : LayoutBinding} (hb : l.find? number = some b)
    (hbound : first + count ≤ b.count) : ∃ o, l.Run number first count b o := by
  obtain ⟨index, -, -, hoffset⟩ := exists_bindingOffset hb
  exact ⟨_, hb, hbound, hoffset first⟩

/-- An element is a run of one. -/
theorem Element.run {k : ElementKey} {b : LayoutBinding} {o : Nat} (h : l.Element k b o) :
    l.Run k.binding k.element 1 b o := ⟨h.binding, h.element, h.offset⟩

theorem Element.sixteen_dvd {k : ElementKey} {b : LayoutBinding} {o : Nat}
    (h : l.Element k b o) : 16 ∣ o := h.run.sixteen_dvd

/-- Records of different elements do not overlap. -/
theorem Element.disjoint {k k' : ElementKey} {b b' : LayoutBinding} {o o' : Nat}
    (h : l.Element k b o) (h' : l.Element k' b' o') (hne : k ≠ k') :
    o' + b'.stride ≤ o ∨ o + b.stride ≤ o' := by
  rw [← Nat.mul_one b.stride]
  refine h.run.disjoint h' ?_
  intro hbinding
  have helement : k.element ≠ k'.element := fun heq =>
    hne (by cases k; cases k'; simp_all)
  omega

end SetLayout

end HostGpu
