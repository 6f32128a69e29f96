import HostGpu.PipelineLayout
import HostGpu.Proofs.Descriptor.DataLayout
import Mathlib.Algebra.Order.BigOperators.Group.List
import Mathlib.Algebra.Order.Group.Nat
import Mathlib.Algebra.Order.Sub.Basic
import Mathlib.Data.Prod.Lex
import Mathlib.Data.Set.Function

/-!
# Dynamic offsets

The dynamic descriptors of a pipeline layout are numbered through all sets, in the order of the
sets, then of declaration, then of array elements: `PipelineLayout.dynamic_elements_are_numbered`.
Both levels are one fact about parts whose items are numbered one after the other (`Numbered`): the
parts of a pipeline layout are its sets, and those of a set layout are its bindings, of which the
ones that are not dynamic have no items.
-/

namespace HostGpu

open Outcome

/-! ## Items numbered through parts -/

/-- The number of an item of a part, where parts have so many items and items are numbered one after
the other. -/
def Numbered (counts : List Nat) (part item n : Nat) : Prop :=
  ∃ count, counts[part]? = some count ∧ item < count ∧ n = (counts.take part).sum + item

namespace Numbered

variable {counts : List Nat} {part item n part' item' n' : Nat}

/-- An item comes before all later parts. -/
theorem lt_take (h : Numbered counts part item n) {stop : Nat} (hstop : part < stop) :
    n < (counts.take stop).sum := by
  obtain ⟨count, hcount, hitem, rfl⟩ := h
  obtain ⟨d, rfl⟩ := Nat.exists_eq_add_of_le (Nat.succ_le_of_lt hstop)
  rw [List.take_add, List.sum_append, List.take_add_one, hcount, List.sum_append,
    Option.toList_some, List.sum_singleton]
  omega

theorem take_le (h : Numbered counts part item n) : (counts.take part).sum ≤ n := by
  obtain ⟨count, -, -, rfl⟩ := h
  exact Nat.le_add_right _ _

theorem unique (h : Numbered counts part item n) (h' : Numbered counts part item n') : n = n' := by
  obtain ⟨-, -, -, rfl⟩ := h
  obtain ⟨-, -, -, rfl⟩ := h'
  rfl

theorem lt_sum (h : Numbered counts part item n) : n < counts.sum := by
  obtain ⟨count, hcount, -⟩ := id h
  have hlt := h.lt_take (List.getElem?_eq_some_iff.mp hcount).1
  rwa [List.take_length] at hlt

/-- Numbers are in the order of parts, then of items. -/
theorem lt_iff (h : Numbered counts part item n) (h' : Numbered counts part' item' n') :
    n < n' ↔ part < part' ∨ part = part' ∧ item < item' := by
  rcases Nat.lt_trichotomy part part' with hlt | rfl | hgt
  · have := h.lt_take hlt
    have := h'.take_le
    omega
  · obtain ⟨count, -, -, rfl⟩ := h
    obtain ⟨count', -, -, rfl⟩ := h'
    omega
  · have := h'.lt_take hgt
    have := h.take_le
    omega

end Numbered

/-- Each number is that of an item. -/
theorem exists_numbered {counts : List Nat} {n : Nat} (h : n < counts.sum) :
    ∃ part item, Numbered counts part item n := by
  induction counts generalizing n with
  | nil => exact absurd h (Nat.not_lt_zero n)
  | cons count rest ih =>
    rw [List.sum_cons] at h
    by_cases hfirst : n < count
    · exact ⟨0, n, count, rfl, hfirst, (Nat.zero_add n).symm⟩
    · obtain ⟨part, item, count', hcount, hitem, hn⟩ := ih (n := n - count) (by omega)
      refine ⟨part + 1, item, count', hcount, hitem, ?_⟩
      rw [List.take_succ_cons, List.sum_cons]
      omega

/-! ## Dynamic elements of a set layout -/

namespace SetLayout

/-- The numbers of dynamic descriptors of each binding. -/
def dynamicCounts (bindings : List LayoutBinding) : List Nat :=
  bindings.map fun b => if b.kind.isDynamic then b.count else 0

theorem dynamicTotal_eq (bindings : List LayoutBinding) :
    dynamicTotal bindings = (dynamicCounts bindings).sum := by
  induction bindings with
  | nil => rfl
  | cons b rest ih =>
    rw [dynamicCounts, List.map_cons, List.sum_cons, ← dynamicCounts, ← ih, dynamicTotal,
      List.filter_cons]
    split
    · rw [List.map_cons, List.sum_cons, dynamicTotal]
    · rw [Nat.zero_add, dynamicTotal]

theorem dynamicTotal_take (bindings : List LayoutBinding) (index : Nat) :
    dynamicTotal (bindings.take index) = ((dynamicCounts bindings).take index).sum := by
  rw [dynamicTotal_eq, dynamicCounts, dynamicCounts, List.map_take]

variable {l : SetLayout} {number position : Nat} {b : LayoutBinding}

theorem exists_bindingIndex (hb : l.binding number = .ok b) :
    ∃ position, l.bindingIndex number = .ok position := by
  obtain ⟨index, -, -, hoffset⟩ := exists_bindingOffset (binding_eq_ok.mp hb)
  obtain ⟨position, hposition, -⟩ := bind_eq_ok.mp (hoffset 0)
  exact ⟨position, hposition⟩

/-- A binding is at its place in the declaration. -/
theorem getElem?_of_bindingIndex (hposition : l.bindingIndex number = .ok position)
    (hb : l.binding number = .ok b) : l.bindings[position]? = some b ∧ b.number = number := by
  rw [binding_eq_ok, find?] at hb
  have hnumber : b.number = number := by simpa using List.find?_some hb
  refine ⟨?_, hnumber⟩
  rw [List.find?_eq_bind_findIdx?_getElem?] at hb
  rw [bindingIndex] at hposition
  cases hindex : l.bindings.findIdx? (·.number = number) with
  | none =>
    rw [hindex] at hposition
    cases hposition
  | some index =>
    rw [hindex] at hposition hb
    cases hposition
    exact hb

/-- The place of a binding is found by its number. -/
theorem bindingIndex_of_getElem? (hnodup : (l.bindings.map (·.number)).Nodup)
    (hb : l.bindings[position]? = some b) :
    l.bindingIndex b.number = .ok position ∧ l.binding b.number = .ok b := by
  have hbinding := binding_eq_ok.mpr (bindingOffset_of_getElem? hnodup hb).1
  refine ⟨?_, hbinding⟩
  obtain ⟨index, hindex⟩ := exists_bindingIndex hbinding
  obtain ⟨hb', -⟩ := getElem?_of_bindingIndex hindex hbinding
  have hlength : index < (l.bindings.map (·.number)).length := by
    rw [List.length_map]
    exact (List.getElem?_eq_some_iff.mp hb').1
  have hsame : index = position := (List.getElem?_inj hlength hnodup).mp (by
    rw [List.getElem?_map, List.getElem?_map, hb, hb'])
  rw [hindex, hsame]

theorem nodup_of_create {id device : Nat} {bindings : List LayoutBinding}
    (h : create id device bindings = .ok l) : (l.bindings.map (·.number)).Nodup := by
  simp only [create, bind_eq_ok, mapError_eq_ok, throw_eq_error, error_bind, ite_error_eq_ok,
    pure_eq_ok] at h
  obtain ⟨⟨⟩, hcheck, -, rfl⟩ := h
  exact (nodup_of_checkFrom hcheck).1

/-- Where the numbers of a dynamic binding start, as long as they fit 32 bits. -/
theorem dynamicOffset_eq (hposition : l.bindingIndex number = .ok position)
    (hb : l.binding number = .ok b) (hdynamic : b.kind.isDynamic = true)
    (hfits : dynamicTotal l.bindings < 2 ^ 32) :
    l.dynamicOffset number = .ok ((dynamicCounts l.bindings).take position).sum := by
  have hle : dynamicTotal (l.bindings.take position) ≤ dynamicTotal l.bindings := by
    have hsplit := congrArg List.sum (List.take_append_drop position (dynamicCounts l.bindings))
    rw [List.sum_append] at hsplit
    rw [dynamicTotal_take, dynamicTotal_eq]
    omega
  simp only [dynamicOffset, isBindingDynamic, hposition, hb, ok_bind, hdynamic]
  rw [← dynamicTotal_take]
  exact if_pos (Nat.lt_of_le_of_lt hle hfits)

/-- Bindings that are not dynamic have no numbers. -/
theorem dynamicOffset_static (hb : l.binding number = .ok b) (hstatic : b.kind.isDynamic = false) :
    l.dynamicOffset number = .error (.staticBinding number) := by
  obtain ⟨position, hposition⟩ := exists_bindingIndex hb
  simp only [dynamicOffset, isBindingDynamic, hposition, hb, ok_bind, hstatic]
  rfl

end SetLayout

/-! ## Dynamic elements of a pipeline layout -/

namespace PipelineLayout

variable {p : PipelineLayout}

theorem getElem?_of_setLayout {set : Nat} {l : SetLayout} (h : p.setLayout set = .ok l) :
    p.setLayouts[set]? = some l := by
  rw [setLayout] at h
  split at h <;> cases h
  assumption

/-- The numbers of dynamic descriptors of each set. -/
def dynamicCounts (p : PipelineLayout) : List Nat :=
  p.setLayouts.map fun l => SetLayout.dynamicTotal l.bindings

/-- An array element of a dynamic binding, with the place of the binding in its declaration. -/
structure DynamicElement (p : PipelineLayout) where
  set : Nat
  number : Nat
  element : Nat
  layout : SetLayout
  binding : LayoutBinding
  position : Nat
  layout_eq : p.setLayout set = .ok layout
  binding_eq : layout.binding number = .ok binding
  position_eq : layout.bindingIndex number = .ok position
  dynamic : binding.kind.isDynamic = true
  element_lt : element < binding.count

namespace DynamicElement

/-- Elements in the order of sets, then of declaration, then of arrays. -/
def key (x : p.DynamicElement) : Nat ×ₗ Nat ×ₗ Nat := toLex (x.set, toLex (x.position, x.element))

/-- The number of an element through all sets. -/
def index (x : p.DynamicElement) : Except Fault Nat := do
  return (← p.dynamicOffsetIndex x.set x.number) + x.element

theorem key_injective : Function.Injective (key (p := p)) := by
  rintro ⟨set, number, element, l, b, position, hl, hb, hposition, _, _⟩
    ⟨set', number', element', l', b', position', hl', hb', hposition', _, _⟩ h
  obtain ⟨rfl, h⟩ := Prod.mk.inj h
  obtain ⟨rfl, rfl⟩ := Prod.mk.inj h
  obtain rfl : l = l' := Except.ok.inj (hl.symm.trans hl')
  obtain ⟨hget, rfl⟩ := SetLayout.getElem?_of_bindingIndex hposition hb
  obtain ⟨hget', rfl⟩ := SetLayout.getElem?_of_bindingIndex hposition' hb'
  obtain rfl : b = b' := Option.some.inj (hget.symm.trans hget')
  rfl

/-- **An element has a number**, in its set and through all sets. -/
theorem exists_index (hfits : p.dynamicCount < 2 ^ 32) (x : p.DynamicElement) :
    ∃ n m, x.index = .ok n ∧
      Numbered (SetLayout.dynamicCounts x.layout.bindings) x.position x.element m ∧
      Numbered p.dynamicCounts x.set m n := by
  obtain ⟨hget, -⟩ := SetLayout.getElem?_of_bindingIndex x.position_eq x.binding_eq
  have hset : p.dynamicCounts[x.set]? = some (SetLayout.dynamicTotal x.layout.bindings) := by
    rw [dynamicCounts, List.getElem?_map, getElem?_of_setLayout x.layout_eq, Option.map_some]
  have hinner : Numbered (SetLayout.dynamicCounts x.layout.bindings) x.position x.element
      (((SetLayout.dynamicCounts x.layout.bindings).take x.position).sum + x.element) := by
    refine ⟨x.binding.count, ?_, x.element_lt, rfl⟩
    rw [SetLayout.dynamicCounts, List.getElem?_map, hget, Option.map_some, if_pos x.dynamic]
  have hroom : SetLayout.dynamicTotal x.layout.bindings ≤ p.dynamicCount :=
    List.le_sum_of_mem (List.mem_of_getElem? hset)
  have hindex : x.index = .ok ((p.dynamicCounts.take x.set).sum +
      (((SetLayout.dynamicCounts x.layout.bindings).take x.position).sum + x.element)) := by
    simp only [index, dynamicOffsetIndex, x.layout_eq, ok_bind,
      SetLayout.dynamicOffset_eq x.position_eq x.binding_eq x.dynamic (by omega)]
    rw [dynamicTotal, List.map_take, ← dynamicCounts, ← Nat.add_assoc]
    rfl
  exact ⟨_, _, hindex, hinner, _, hset, SetLayout.dynamicTotal_eq _ ▸ hinner.lt_sum, rfl⟩

/-- Numbers are in the order of sets, then of declaration, then of arrays. -/
theorem index_lt_iff (hfits : p.dynamicCount < 2 ^ 32) {x y : p.DynamicElement} {i j : Nat}
    (hi : x.index = .ok i) (hj : y.index = .ok j) : i < j ↔ x.key < y.key := by
  obtain ⟨n, m, hn, hinner, houter⟩ := x.exists_index hfits
  obtain ⟨n', m', hn', hinner', houter'⟩ := y.exists_index hfits
  obtain rfl : n = i := Except.ok.inj (hn.symm.trans hi)
  obtain rfl : n' = j := Except.ok.inj (hn'.symm.trans hj)
  rw [houter.lt_iff houter', key, key, Prod.Lex.toLex_lt_toLex, Prod.Lex.toLex_lt_toLex]
  refine or_congr_right (and_congr_right fun hset => ?_)
  have hlayout : x.layout = y.layout :=
    Except.ok.inj (x.layout_eq.symm.trans (hset ▸ y.layout_eq))
  rw [hlayout] at hinner
  exact hinner.lt_iff hinner'

/-- Each number is that of an element. -/
theorem exists_index_eq (hfits : p.dynamicCount < 2 ^ 32)
    (hnodup : ∀ l ∈ p.setLayouts, (l.bindings.map (·.number)).Nodup) {n : Nat}
    (hn : n < p.dynamicCount) : ∃ x : p.DynamicElement, x.index = .ok n := by
  have hsum : n < p.dynamicCounts.sum := hn
  obtain ⟨set, m, houter⟩ := exists_numbered hsum
  have hset := houter
  obtain ⟨total, htotal, hm, -⟩ := hset
  rw [dynamicCounts, List.getElem?_map, Option.map_eq_some_iff] at htotal
  obtain ⟨l, hl, rfl⟩ := htotal
  rw [SetLayout.dynamicTotal_eq] at hm
  obtain ⟨position, element, hinner⟩ := exists_numbered hm
  have hplace := hinner
  obtain ⟨count, hcount, helement, -⟩ := hplace
  rw [SetLayout.dynamicCounts, List.getElem?_map, Option.map_eq_some_iff] at hcount
  obtain ⟨b, hb, rfl⟩ := hcount
  have hdynamic : b.kind.isDynamic = true := by
    by_contra hstatic
    rw [if_neg hstatic] at helement
    omega
  rw [if_pos hdynamic] at helement
  obtain ⟨hposition, hbinding⟩ :=
    SetLayout.bindingIndex_of_getElem? (hnodup l (List.mem_of_getElem? hl)) hb
  let x : p.DynamicElement :=
    ⟨set, b.number, element, l, b, position, by rw [setLayout, hl], hbinding, hposition, hdynamic,
      helement⟩
  obtain ⟨n', m', hn', hinner', houter'⟩ := x.exists_index hfits
  obtain rfl : m' = m := hinner'.unique hinner
  obtain rfl : n' = n := houter'.unique houter
  exact ⟨x, hn'⟩

end DynamicElement

theorem dynamicCount_lt_of_create {id device : Nat} {setLayouts : List SetLayout}
    (h : create id device setLayouts = .ok p) :
    p.setLayouts = setLayouts ∧ p.dynamicCount < 2 ^ 32 := by
  simp only [create, bind_eq_ok, mapError_eq_ok, pure_eq_ok, SetLayout.checkCount,
    ite_ok_error] at h
  obtain ⟨-, -, -, ⟨hlt, -⟩, rfl⟩ := h
  exact ⟨rfl, hlt⟩

/-- **Dynamic elements are numbered through all sets.**  In a pipeline layout made of set layouts,
the index of the first dynamic offset of a dynamic binding plus the number of an array element takes
each number below the count of dynamic descriptors once.  It grows with the number of the set, then
with the place of the binding in its declaration, then with the array element.  Bindings that are
not dynamic have no index. -/
theorem dynamic_elements_are_numbered {id device : Nat} {setLayouts : List SetLayout}
    (hcreate : create id device setLayouts = .ok p)
    (hlayouts : ∀ l ∈ setLayouts, ∃ id device bindings,
      SetLayout.create id device bindings = .ok l) :
    Set.BijOn DynamicElement.index (Set.univ : Set p.DynamicElement)
        (Except.ok '' Set.Iio p.dynamicCount) ∧
      (∀ (x y : p.DynamicElement) (i j : Nat), x.index = .ok i → y.index = .ok j →
        (i < j ↔ x.key < y.key)) ∧
      ∀ set number l b, p.setLayout set = .ok l → l.binding number = .ok b →
        b.kind.isDynamic = false →
        p.dynamicOffsetIndex set number = .error (.staticBinding number) := by
  obtain ⟨rfl, hfits⟩ := dynamicCount_lt_of_create hcreate
  have hnodup : ∀ l ∈ p.setLayouts, (l.bindings.map (·.number)).Nodup := fun l hl => by
    obtain ⟨_, _, _, hl⟩ := hlayouts l hl
    exact SetLayout.nodup_of_create hl
  refine ⟨⟨?mapsTo, ?injective, ?surjective⟩,
    fun x y i j hi hj => DynamicElement.index_lt_iff hfits hi hj, ?static⟩
  case mapsTo =>
    intro x _
    obtain ⟨n, m, hn, -, houter⟩ := x.exists_index hfits
    exact ⟨n, houter.lt_sum, hn.symm⟩
  case injective =>
    intro x _ y _ hxy
    obtain ⟨n, m, hn, -⟩ := x.exists_index hfits
    have hn' : y.index = .ok n := hxy.symm.trans hn
    have hlt := DynamicElement.index_lt_iff hfits hn hn'
    have hgt := DynamicElement.index_lt_iff hfits hn' hn
    rw [iff_false_left (Nat.lt_irrefl n)] at hlt hgt
    exact DynamicElement.key_injective (le_antisymm (not_lt.mp hgt) (not_lt.mp hlt))
  case surjective =>
    rintro _ ⟨n, hn, rfl⟩
    obtain ⟨x, hx⟩ := DynamicElement.exists_index_eq hfits hnodup hn
    exact ⟨x, trivial, hx⟩
  case static =>
    intro set number l b hl hb hstatic
    simp only [dynamicOffsetIndex, hl, ok_bind, SetLayout.dynamicOffset_static hb hstatic,
      error_bind]

namespace Rooms

/-- Dynamic buffers under unsorted numbers, with a binding between them that is not dynamic and an
array without elements. -/
def mixed : SetLayout := ⟨1, 0, [
  { number := 7, kind := .storageBufferDynamic, count := 2 },
  { number := 4, kind := .uniformBuffer, count := 3 },
  { number := 0, kind := .uniformBufferDynamic, count := 0 },
  { number := 2, kind := .uniformBufferDynamic }]⟩

/-- A layout without bindings. -/
def empty : SetLayout := ⟨2, 0, []⟩

/-- One layout is used for two sets. -/
def pipeline : PipelineLayout := ⟨3, 0, [mixed, empty, mixed]⟩

theorem created : create 3 0 [mixed, empty, mixed] = .ok pipeline := rfl

theorem layouts_created : ∀ l ∈ [mixed, empty, mixed], ∃ id device bindings,
    SetLayout.create id device bindings = .ok l := by
  have hmixed : SetLayout.create 1 0 mixed.bindings = .ok mixed := rfl
  have hempty : SetLayout.create 2 0 [] = .ok empty := rfl
  simp only [List.forall_mem_cons]
  exact ⟨⟨_, _, _, hmixed⟩, ⟨_, _, _, hempty⟩, ⟨_, _, _, hmixed⟩, nofun⟩

end Rooms

open Rooms in
/-- Six numbers are taken, and the last binding of the first set comes before the first of the third
set. -/
theorem repeated_layout_is_numbered_twice :
    create 3 0 [mixed, empty, mixed] = .ok pipeline ∧
      Set.BijOn DynamicElement.index (Set.univ : Set pipeline.DynamicElement)
        (Except.ok '' Set.Iio 6) ∧
      pipeline.dynamicOffsetIndex 0 2 = .ok 2 ∧ pipeline.dynamicOffsetIndex 2 7 = .ok 3 ∧
      pipeline.dynamicOffsetIndex 0 4 = .error (.staticBinding 4) := by
  obtain ⟨hbij, -, hstatic⟩ := dynamic_elements_are_numbered created layouts_created
  exact ⟨created, hbij, rfl, rfl, hstatic 0 4 mixed _ rfl rfl rfl⟩

end PipelineLayout
end HostGpu
