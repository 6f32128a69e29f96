import HostGpu.Descriptor.Update
import HostGpu.Proofs.Descriptor.Layout
import HostGpu.Proofs.Descriptor.Record
import Mathlib.Data.List.Induction

/-!
# Properties of descriptors

A property of a descriptor is about its record and the resources that are kept with it.  A write
replaces the record and the resources of elements together, and a copy moves both from one element
to another; elements that neither names are left alone (`DescriptorSet.At`).  If new sets have a
property, writes establish it and copies carry it over, then all elements of all sets have it
(`DescriptorSet.Each`).
-/

namespace HostGpu

open Outcome

/-! ## Resources of elements -/

namespace ResourceTable

/-- All resources of a table. -/
def all (t : ResourceTable) : List Resource := t.flatMap (·.2)

variable {t : ResourceTable} {k j : ElementKey} {r : Resource}

theorem mem_all_of_find? {resources : List Resource} (h : t.find? k = some resources)
    (hr : r ∈ resources) : r ∈ t.all := by
  simp only [find?, Option.map_eq_some_iff] at h
  obtain ⟨entry, hentry, rfl⟩ := h
  exact List.mem_flatMap.mpr ⟨entry, List.mem_of_find?_eq_some hentry, hr⟩

theorem mem_all_of_mem_getD (h : r ∈ (t.find? k).getD []) : r ∈ t.all := by
  cases hfind : t.find? k with
  | none =>
    rw [hfind] at h
    cases h
  | some resources =>
    rw [hfind] at h
    exact mem_all_of_find? hfind h

theorem mem_all_erase (h : r ∈ (t.erase k).all) : r ∈ t.all := by
  obtain ⟨entry, hentry, hr⟩ := List.mem_flatMap.mp h
  exact List.mem_flatMap.mpr ⟨entry, (List.mem_filter.mp hentry).1, hr⟩

theorem mem_all_insert {list : List Resource} (h : r ∈ (t.insert k list).all) :
    r ∈ list ∨ r ∈ t.all := by
  rw [insert, all, List.flatMap_cons, List.mem_append] at h
  exact h.imp_right mem_all_erase

theorem find?_insert (t : ResourceTable) (k j : ElementKey) (list : List Resource) :
    (t.insert k list).find? j = if k = j then some list else t.find? j :=
  t.find?_set k j (some list)

end ResourceTable

/-! ## Bindings -/

namespace LayoutBinding

variable {b : LayoutBinding}

theorem stride_of_record? {kind : RecordKind} (h : b.kind.record? = some kind) :
    b.stride = kind.size := by
  rw [stride, h, Option.elim_some]

theorem kind_of_usesImmutableSamplers (h : b.usesImmutableSamplers = true) :
    b.kind = .sampler ∨ b.kind = .combinedImageSampler := by
  simp only [usesImmutableSamplers, Bool.and_eq_true] at h
  cases hkind : b.kind <;> simp [hkind, DescriptorKind.holdsSampler] at h ⊢

end LayoutBinding

/-! ## Properties of elements -/

/-- A property of an element of a binding: of the record at an offset and of the resources that are
kept with it, if any are. -/
abbrev DescriptorProperty := LayoutBinding → SetData → Nat → Option (List Resource) → Prop

/-- A property that depends on no more of the data than the cells of the record. -/
def DescriptorProperty.Local (Q : DescriptorProperty) : Prop :=
  ∀ (b : LayoutBinding) (d d' : SetData) (o o' : Nat) (kept : Option (List Resource)),
    (∀ j < b.stride / 4, d'.cell (o' / 4 + j) = d.cell (o / 4 + j)) → Q b d o kept → Q b d' o' kept

namespace DescriptorSet

/-- An element of a set has a property. -/
def At (Q : DescriptorProperty) (s : DescriptorSet) (k : ElementKey) : Prop :=
  ∀ b o, s.layout.Element k b o → Q b s.data o (s.resources.find? k)

/-- All elements of a set have a property. -/
def Each (Q : DescriptorProperty) (s : DescriptorSet) : Prop :=
  ∀ k b o, s.layout.Element k b o → Q b s.data o (s.resources.find? k)

/-- Cells of a record outside of the written bytes stay as they are. -/
theorem cells_of_writesOnly {d d' : SetData} {lo size o stride : Nat}
    (h : d.WritesOnly d' lo size) (ho : 4 ∣ o) (hout : o + stride ≤ lo ∨ lo + size ≤ o) :
    ∀ j < stride / 4, d'.cell (o / 4 + j) = d.cell (o / 4 + j) :=
  fun _ hj => h _ (by omega)

variable {Q : DescriptorProperty} {s : DescriptorSet} {k : ElementKey}

/-- The set after an element was replaced. -/
def replace (s : DescriptorSet) (k : ElementKey) (d : SetData) (list : List Resource) :
    DescriptorSet :=
  { s with data := d, resources := s.resources.insert k list }

/-- **Replacing an element** leaves others as they are, and it may be replaced by one that has the
property. -/
theorem At.replace (hQ : Q.Local) (h : s.At Q k) {k' : ElementKey} {b : LayoutBinding}
    {offset : Nat} (helement : s.layout.Element k' b offset) {d : SetData} {list : List Resource}
    (hwrites : s.data.WritesOnly d offset b.stride)
    (hnew : k = k' → Q b s.data offset (s.resources.find? k) → Q b d offset (some list)) :
    (s.replace k' d list).At Q k := by
  intro b' offset' helement'
  rw [DescriptorSet.replace, ResourceTable.find?_insert]
  by_cases hk : k' = k
  · subst hk
    obtain rfl : b = b' := Option.some.inj (helement.binding.symm.trans helement'.binding)
    obtain rfl : offset = offset' := Except.ok.inj (helement.offset.symm.trans helement'.offset)
    rw [if_pos rfl]
    exact hnew rfl (h b offset helement')
  · have hfour : 4 ∣ offset' := (by decide : 4 ∣ 16).trans helement'.sixteen_dvd
    rw [if_neg hk]
    exact hQ b' s.data d offset' offset' _
      (cells_of_writesOnly hwrites hfour (helement.disjoint helement' hk))
      (h b' offset' helement')

/-! ## New sets -/

theorem writesOnly_writeSamplers (d : SetData) {offset : Nat} (ho : 4 ∣ offset)
    (samplers : List Sampler) :
    d.WritesOnly (writeSamplers RecordKind.sampled.size d offset samplers) offset
      (RecordKind.sampled.size * samplers.length) := by
  induction samplers generalizing d offset with
  | nil => exact .refl d _ _
  | cons x rest ih =>
    have hfirst := SampledRecord.writesOnly_writeSampler x d ho
    have hrest := ih (SampledRecord.writeSampler x d offset)
      (Nat.dvd_add ho (by decide : 4 ∣ RecordKind.sampled.size))
    rw [List.length_cons, Nat.mul_succ]
    exact (hfirst.mono (Nat.le_refl _) (by omega)).trans (hrest.mono (by omega) (by omega))

/-- The cells of a record among those of consecutive samplers. -/
theorem cell_writeSamplers {samplers : List Sampler} {e : Nat} {x : Sampler}
    (hx : samplers[e]? = some x) (d : SetData) {offset i : Nat} (ho : 4 ∣ offset)
    (hle : offset + RecordKind.sampled.size * e ≤ 4 * i)
    (hlt : 4 * i < offset + RecordKind.sampled.size * e + RecordKind.sampled.size) :
    (writeSamplers RecordKind.sampled.size d offset samplers).cell i =
      (SampledRecord.writeSampler x d (offset + RecordKind.sampled.size * e)).cell i := by
  induction samplers generalizing d offset e with
  | nil => cases hx
  | cons y rest ih =>
    have hnext : 4 ∣ offset + RecordKind.sampled.size :=
      Nat.dvd_add ho (by decide : 4 ∣ RecordKind.sampled.size)
    rw [writeSamplers]
    cases e with
    | zero =>
      cases hx
      exact writesOnly_writeSamplers _ hnext rest i (.inl hlt)
    | succ e =>
      rw [Nat.mul_succ] at hle hlt
      have hplace : offset + RecordKind.sampled.size + RecordKind.sampled.size * e =
          offset + RecordKind.sampled.size * (e + 1) := by rw [Nat.mul_succ]; omega
      have hbefore := SampledRecord.writesOnly_writeSampler y d ho i (.inr (by omega))
      rw [ih hx _ hnext (by omega) (by omega), hplace]
      exact SampledRecord.cell_writeSampler_congr x hbefore

theorem stride_of_usesImmutableSamplers {b : LayoutBinding} (h : b.usesImmutableSamplers = true) :
    b.stride = RecordKind.sampled.size := by
  refine LayoutBinding.stride_of_record? ?_
  rcases LayoutBinding.kind_of_usesImmutableSamplers h with hkind | hkind <;> (rw [hkind]; rfl)

/-- The samplers of a binding are written within its records. -/
theorem writesOnly_binding {b : LayoutBinding} (hfit : b.SamplersFit)
    (huses : b.usesImmutableSamplers = true) (d : SetData) {offset : Nat} (ho : 4 ∣ offset) :
    d.WritesOnly (writeSamplers b.stride d offset b.immutableSamplers) offset b.size := by
  rw [LayoutBinding.size, stride_of_usesImmutableSamplers huses, ← hfit huses, Nat.mul_comm]
  exact writesOnly_writeSamplers d ho _

/-- The data with the immutable sampler of an element, if there is one, written at an offset. -/
def writeFixed (b : LayoutBinding) (element : Nat) (d : SetData) (offset : Nat) : SetData :=
  if b.usesImmutableSamplers then
    b.immutableSamplers[element]?.elim d fun x => SampledRecord.writeSampler x d offset
  else d

theorem cell_writeFixed_congr (b : LayoutBinding) (element : Nat) {d d' : SetData} (offset : Nat)
    {i : Nat} (h : d'.cell i = d.cell i) :
    (writeFixed b element d' offset).cell i = (writeFixed b element d offset).cell i := by
  rw [writeFixed, writeFixed]
  split
  · cases b.immutableSamplers[element]? with
    | none => exact h
    | some x => exact SampledRecord.cell_writeSampler_congr x h
  · exact h

/-- Cells before the first binding stay as they are. -/
theorem cell_writeImmutable_of_lt {bindings : List LayoutBinding}
    (hfit : ∀ b ∈ bindings, b.SamplersFit) (d : SetData) {offset i : Nat} (ho : 4 ∣ offset)
    (hi : 4 * i < offset) : (writeImmutable d offset bindings).cell i = d.cell i := by
  induction bindings generalizing d offset with
  | nil => rfl
  | cons c rest ih =>
    rw [List.forall_mem_cons] at hfit
    have hnext : 4 ∣ offset + c.size :=
      Nat.dvd_add ho ((by decide : 4 ∣ 16).trans c.sixteen_dvd_bytes)
    rw [writeImmutable, ih hfit.2 _ hnext (by omega)]
    split
    · rename_i hc
      exact writesOnly_binding hfit.1 hc d ho i (.inl hi)
    · rfl

/-- The cells of an element are those of its immutable sampler, and otherwise stay as they are. -/
theorem cell_writeImmutable {bindings : List LayoutBinding} (hfit : ∀ b ∈ bindings, b.SamplersFit)
    {index : Nat} {b : LayoutBinding} (hb : bindings[index]? = some b) {element : Nat}
    (helement : element < b.count) (d : SetData) {offset i : Nat} (ho : 4 ∣ offset)
    (hle : offset + ((bindings.take index).map (·.size)).sum + b.stride * element ≤ 4 * i)
    (hlt : 4 * i <
      offset + ((bindings.take index).map (·.size)).sum + b.stride * element + b.stride) :
    (writeImmutable d offset bindings).cell i = (writeFixed b element d
      (offset + ((bindings.take index).map (·.size)).sum + b.stride * element)).cell i := by
  induction bindings generalizing d offset index with
  | nil => cases hb
  | cons c rest ih =>
    rw [List.forall_mem_cons] at hfit
    have hnext : 4 ∣ offset + c.size :=
      Nat.dvd_add ho ((by decide : 4 ∣ 16).trans c.sixteen_dvd_bytes)
    rw [writeImmutable]
    cases index with
    | zero =>
      -- the first binding, whose cells later bindings do not change
      cases hb
      simp only [List.take_zero, List.map_nil, List.sum_nil, Nat.add_zero] at hle hlt ⊢
      have hroom := Nat.mul_le_mul_right b.stride (Nat.succ_le_of_lt helement)
      rw [Nat.succ_mul, Nat.mul_comm element] at hroom
      rw [cell_writeImmutable_of_lt hfit.2 _ hnext (by rw [LayoutBinding.size]; omega), writeFixed]
      split
      · rename_i huses
        have hstride := stride_of_usesImmutableSamplers huses
        have hcount : element < b.immutableSamplers.length := by rw [hfit.1 huses]; exact helement
        rw [hstride] at hle hlt ⊢
        rw [List.getElem?_eq_getElem hcount]
        exact cell_writeSamplers (List.getElem?_eq_getElem hcount) d ho hle hlt
      · rfl
    | succ index =>
      rw [List.getElem?_cons_succ] at hb
      rw [List.take_succ_cons, List.map_cons, List.sum_cons, ← Nat.add_assoc] at hle hlt ⊢
      rw [ih hfit.2 hb _ hnext hle hlt]
      refine cell_writeFixed_congr b element _ ?_
      split
      · rename_i hc
        exact writesOnly_binding hfit.1 hc d ho i (.inr (by omega))
      · rfl

/-- **New sets** hold zeros and the immutable samplers of their layout, and keep nothing. -/
theorem at_of_create (hQ : Q.Local) {layout : SetLayout}
    (hfit : ∀ b ∈ layout.bindings, b.SamplersFit)
    (hzero : ∀ b o, b.usesImmutableSamplers = false → Q b (.zeroed 0) o none)
    (hfixed : ∀ b ∈ layout.bindings, ∀ o, b.usesImmutableSamplers = true → 4 ∣ o →
      ∀ x, b.immutableSamplers[k.element]? = some x →
        Q b (SampledRecord.writeSampler x (.zeroed 0) o) o none)
    {place : Option PoolPlace} (h : create layout place = .ok s) : s.At Q k := by
  simp only [create, bind_eq_ok, pure_eq_ok] at h
  obtain ⟨-, -, rfl⟩ := h
  intro b o helement
  obtain ⟨index, hb, -, ho, -⟩ := helement.located
  have hfour : 4 ∣ o := (by decide : 4 ∣ 16).trans helement.sixteen_dvd
  have hcells : ∀ j < b.stride / 4,
      (writeImmutable (.zeroed layout.dataSize) 0 layout.bindings).cell (o / 4 + j) =
        (writeFixed b k.element (.zeroed 0) o).cell (o / 4 + j) := by
    intro j hj
    have ho : o = ((layout.bindings.take index).map (·.size)).sum + b.stride * k.element := ho
    rw [cell_writeImmutable hfit hb helement.element _ (Nat.dvd_zero 4) (by omega) (by omega),
      Nat.zero_add, ← ho]
    exact cell_writeFixed_congr b _ o (by rw [SetData.cell_zeroed, SetData.cell_zeroed])
  refine hQ b _ _ o o _ hcells ?_
  rw [writeFixed]
  split
  · rename_i huses
    have hcount : k.element < b.immutableSamplers.length := by
      rw [hfit b (List.mem_of_getElem? hb) huses]
      exact helement.element
    rw [List.getElem?_eq_getElem hcount]
    exact hfixed b (List.mem_of_getElem? hb) o huses hfour _ (List.getElem?_eq_getElem hcount)
  · rename_i huses
    exact hzero b o (Bool.eq_false_iff.mpr huses)

theorem each_of_create (hQ : Q.Local) {layout : SetLayout}
    (hfit : ∀ b ∈ layout.bindings, b.SamplersFit)
    (hzero : ∀ b o, b.usesImmutableSamplers = false → Q b (.zeroed 0) o none)
    (hfixed : ∀ b ∈ layout.bindings, ∀ o, b.usesImmutableSamplers = true → 4 ∣ o →
      ∀ x ∈ b.immutableSamplers, Q b (SampledRecord.writeSampler x (.zeroed 0) o) o none)
    {place : Option PoolPlace} (h : create layout place = .ok s) : s.Each Q :=
  fun _ => at_of_create hQ hfit hzero
    (fun b hb o huses ho x hx => hfixed b hb o huses ho x (List.mem_of_getElem? hx)) h

end DescriptorSet

/-! ## Writes -/

/-- What may be written to an element of a binding. -/
inductive WriteElement.Fits (b : LayoutBinding) : WriteElement → Prop
  | buffer {r : BufferRange} (hkind : b.kind.record? = some .buffer)
      (hrange : r.buffer.checkRange r.range = .ok ()) : Fits b (.buffer r)
  | storageTexels {v : BufferView} (hkind : b.kind = .storageTexelBuffer) : Fits b (.bufferView v)
  | uniformTexels {v : BufferView} (hkind : b.kind = .uniformTexelBuffer) : Fits b (.bufferView v)
  | storageImage {v : ImageView} (hkind : b.kind = .storageImage ∨ b.kind = .inputAttachment) :
      Fits b (.view v)
  | sampledImage {v : ImageView} (hkind : b.kind = .sampledImage ∨
      b.kind = .combinedImageSampler ∧ b.usesImmutableSamplers = true) : Fits b (.view v)
  | viewSampler {v : ImageView} {x : Sampler} (hkind : b.kind = .combinedImageSampler)
      (hown : b.usesImmutableSamplers = false) : Fits b (.viewSampler v x)
  | sampler {x : Sampler} (hkind : b.kind = .sampler) (hown : b.usesImmutableSamplers = false) :
      Fits b (.sampler x)

/-- Views are written to sampled records where sampled images fit. -/
theorem WriteElement.write_sampledImage {b : LayoutBinding} (hkind : b.kind = .sampledImage ∨
    b.kind = .combinedImageSampler ∧ b.usesImmutableSamplers = true) (v : ImageView) (d : SetData)
    (o : Nat) : (view v).write b.kind d o =
      SampledRecord.writeView v.id (SampledRecord.ofView v) d o := by
  rcases hkind with hkind | ⟨hkind, -⟩ <;> (rw [hkind]; rfl)

theorem WriteElement.write_uniformTexels {b : LayoutBinding} (hkind : b.kind = .uniformTexelBuffer)
    (v : BufferView) (d : SetData) (o : Nat) : (bufferView v).write b.kind d o =
      SampledRecord.writeView v.id (SampledRecord.ofBufferView v) d o := by
  rw [hkind]
  rfl

/-- A view that is written to a sampled record is what is written last. -/
theorem WriteElement.Fits.exists_writeView {b : LayoutBinding} {e : WriteElement} (h : e.Fits b)
    (hrecord : b.kind.record? = some .sampled) {v : ImageView} (hv : .view v ∈ e.resources)
    (d : SetData) (o : Nat) :
    ∃ d', e.write b.kind d o = SampledRecord.writeView v.id (SampledRecord.ofView v) d' o := by
  cases h with
  | @sampledImage v' hkind =>
    obtain rfl : v = v' := by simpa [WriteElement.resources] using hv
    exact ⟨d, write_sampledImage hkind v d o⟩
  | @viewSampler v' x hkind hown =>
    obtain rfl : v = v' := by simpa [WriteElement.resources] using hv
    exact ⟨SampledRecord.writeSampler x d o, by rw [hkind]; rfl⟩
  | storageImage hkind => rcases hkind with hkind | hkind <;> (rw [hkind] at hrecord; cases hrecord)
  | buffer | storageTexels | uniformTexels | sampler => simp [WriteElement.resources] at hv

/-- An element is written within the bytes of its record. -/
theorem WriteElement.Fits.writesOnly {b : LayoutBinding} {e : WriteElement} (h : e.Fits b)
    (d : SetData) {o : Nat} (ho : 4 ∣ o) : d.WritesOnly (e.write b.kind d o) o b.stride := by
  rw [LayoutBinding.stride]
  cases h with
  | @buffer r hkind hrange =>
    rw [hkind]
    have hwrites := SetData.writesOnly_write d ho (BufferRecord.ofRange r).cells
    rwa [BufferRecord.length_cells] at hwrites
  | @storageTexels v hkind =>
    rw [hkind, WriteElement.write, if_pos rfl]
    have hwrites := SetData.writesOnly_write d ho (StorageRecord.ofBufferView v).cells
    rwa [StorageRecord.length_cells] at hwrites
  | @uniformTexels v hkind =>
    rw [write_uniformTexels hkind, hkind, DescriptorKind.record?, Option.elim_some]
    exact SampledRecord.writesOnly_writeView _ (SampledRecord.fits_ofBufferView v) d ho
  | @storageImage v hkind =>
    have hwrites := SetData.writesOnly_write d ho (StorageRecord.ofView v).cells
    rw [StorageRecord.length_cells] at hwrites
    rw [WriteElement.write, if_pos hkind]
    rcases hkind with hkind | hkind <;> rwa [hkind]
  | @sampledImage v hkind =>
    have hwrites := SampledRecord.writesOnly_writeView v.id (SampledRecord.fits_ofView v) d ho
    rw [write_sampledImage hkind]
    rcases hkind with hkind | ⟨hkind, -⟩ <;> rwa [hkind, DescriptorKind.record?, Option.elim_some]
  | @viewSampler v x hkind hown =>
    rw [hkind, WriteElement.write, DescriptorKind.record?, Option.elim_some]
    exact (SampledRecord.writesOnly_writeSampler x d ho).trans
      (SampledRecord.writesOnly_writeView _ (SampledRecord.fits_ofView v) _ ho)
  | @sampler x hkind hown =>
    rw [hkind, WriteElement.write, DescriptorKind.record?, Option.elim_some]
    exact SampledRecord.writesOnly_writeSampler x d ho

namespace DescriptorWrite

variable {Q : DescriptorProperty} {w : DescriptorWrite} {s : DescriptorSet}

/-- The elements that a write replaces. -/
def Targets (w : DescriptorWrite) (k : ElementKey) : Prop :=
  k.binding = w.binding ∧ w.first ≤ k.element ∧ k.element < w.first + w.elements.length

/-! ### Element by element -/

variable {b : LayoutBinding} {offset first : Nat} {list : List WriteElement}

theorem applyFrom_cons (b : LayoutBinding) (offset first : Nat) (s : DescriptorSet)
    (e : WriteElement) (rest : List WriteElement) :
    applyFrom b offset first s (e :: rest) = applyFrom b (offset + b.stride) (first + 1)
      (s.replace ⟨b.number, first⟩ (e.write b.kind s.data offset) e.resources) rest := rfl

theorem layout_applyFrom : (applyFrom b offset first s list).layout = s.layout := by
  induction list generalizing offset first s with
  | nil => rfl
  | cons e rest ih => rw [applyFrom_cons, ih, DescriptorSet.replace]

theorem find?_applyFrom {k : ElementKey}
    (hk : k.binding = b.number → k.element < first ∨ first + list.length ≤ k.element) :
    (applyFrom b offset first s list).resources.find? k = s.resources.find? k := by
  induction list generalizing offset first s with
  | nil => rfl
  | cons e rest ih =>
    rw [List.length_cons] at hk
    rw [applyFrom_cons, ih fun h => by have := hk h; omega, DescriptorSet.replace,
      ResourceTable.find?_insert, if_neg]
    rintro rfl
    have := hk rfl
    simp only at this
    omega

theorem mem_all_applyFrom {r : Resource} (h : r ∈ (applyFrom b offset first s list).resources.all) :
    r ∈ s.resources.all ∨ ∃ e ∈ list, r ∈ e.resources := by
  induction list generalizing offset first s with
  | nil => exact .inl h
  | cons e rest ih =>
    rcases ih h with h | ⟨e', he', hr⟩
    · rcases ResourceTable.mem_all_insert h with hr | hr
      · exact .inr ⟨e, List.mem_cons_self, hr⟩
      · exact .inl hr
    · exact .inr ⟨e', List.mem_cons_of_mem _ he', hr⟩

/-- Elements that fit a binding are written to it one by one. -/
theorem at_applyFrom {k : ElementKey} (hQ : Q.Local) (hfits : ∀ e ∈ list, e.Fits b)
    (hnew : ∀ i e, list[i]? = some e → k = ⟨b.number, first + i⟩ → ∀ d o kept, 4 ∣ o →
      Q b d o kept → Q b (e.write b.kind d o) o (some e.resources))
    (h : s.At Q k) (hrun : s.layout.Run b.number first list.length b offset) :
    (applyFrom b offset first s list).At Q k := by
  induction list generalizing offset first s with
  | nil => exact h
  | cons e rest ih =>
    rw [List.forall_mem_cons] at hfits
    have helement : s.layout.Element ⟨b.number, first⟩ b offset :=
      hrun.elementAt (i := 0) (Nat.succ_pos rest.length)
    have hfour : 4 ∣ offset := (by decide : 4 ∣ 16).trans helement.sixteen_dvd
    refine ih hfits.2 (fun i e he hk => ?_)
      (h.replace hQ helement (hfits.1.writesOnly s.data hfour)
        fun hk => hnew 0 e rfl hk s.data offset _ hfour) hrun.tail
    exact hnew (i + 1) e he (by rw [hk, Nat.add_right_comm, Nat.add_assoc])

/-! ### Whole writes -/

/-- What a write does, if it does anything. -/
theorem apply_cases (w : DescriptorWrite) (s : DescriptorSet) :
    w.apply s = s ∨ ∃ b range, s.layout.find? w.binding = some b ∧ b.number = w.binding ∧
      s.layout.dataRange w.binding w.first w.elements.length = .ok range ∧
      w.apply s = applyFrom b range.start w.first s w.elements.toList := by
  rw [apply]
  split
  · rename_i b range hb hrange
    have hnumber := List.find?_some hb
    exact .inr ⟨b, range, hb, by simpa using hnumber, hrange, rfl⟩
  · exact .inl rfl

theorem layout_apply (w : DescriptorWrite) (s : DescriptorSet) : (w.apply s).layout = s.layout := by
  rcases w.apply_cases s with h | ⟨b, range, -, -, -, h⟩
  · rw [h]
  · rw [h, layout_applyFrom]

/-- Other elements keep their resources. -/
theorem find?_apply {k : ElementKey} (hk : ¬ w.Targets k) :
    (w.apply s).resources.find? k = s.resources.find? k := by
  rcases w.apply_cases s with h | ⟨b, range, -, hnumber, -, h⟩
  · rw [h]
  · rw [h, find?_applyFrom fun hbinding => ?_]
    simp only [Targets, hbinding.trans hnumber, true_and, not_and, not_lt] at hk
    exact (Nat.lt_or_ge k.element w.first).imp_right hk

theorem mem_all_apply {r : Resource} (h : r ∈ (w.apply s).resources.all) :
    r ∈ s.resources.all ∨ ∃ e ∈ w.elements.toList, r ∈ e.resources := by
  rcases w.apply_cases s with heq | ⟨b, range, -, -, -, heq⟩
  · rw [heq] at h
    exact .inl h
  · rw [heq] at h
    exact mem_all_applyFrom h

theorem checkRanges_eq_ok {ranges : List BufferRange} {index : Nat} :
    checkRanges index ranges = .ok () ↔ ∀ r ∈ ranges, r.buffer.checkRange r.range = .ok () := by
  induction ranges generalizing index with
  | nil => simp [checkRanges]
  | cons r rest ih => simp [checkRanges, bind_eq_ok, mapError_eq_ok, ih, Unique.exists_iff]

/-- What it means that a write passes its check. -/
theorem check_eq_ok {layout : SetLayout} : w.check layout = .ok () ↔
    ∃ b, layout.find? w.binding = some b ∧ w.elements.fits b = true ∧
      w.first + w.elements.length ≤ b.count ∧
      ∀ r, .buffer r ∈ w.elements.toList → r.buffer.checkRange r.range = .ok () := by
  rw [check]
  cases layout.find? w.binding with
  | none => simp [throw_eq_error]
  | some b =>
    simp only [throw_eq_error, error_bind, ite_error_eq_ok, Bool.not_eq_true', not_lt,
      Bool.not_eq_false, Option.some.injEq, exists_eq_left']
    cases w.elements <;> simp [WriteElements.toList, checkRanges_eq_ok, pure_eq_ok]

/-- What a write that passes its check fits. -/
theorem exists_of_check {layout : SetLayout} (h : w.check layout = .ok ()) :
    ∃ b, layout.find? w.binding = some b ∧ w.first + w.elements.length ≤ b.count ∧
      ∀ e ∈ w.elements.toList, e.Fits b := by
  obtain ⟨b, hb, hfits, hbound, hranges⟩ := check_eq_ok.mp h
  refine ⟨b, hb, hbound, fun e he => ?_⟩
  cases helements : w.elements with
  | buffers ranges =>
    rw [helements] at hfits he hranges
    obtain ⟨r, hr, rfl⟩ := List.mem_map.mp he
    refine .buffer ?_ (hranges r he)
    cases hkind : b.kind <;>
      simp only [WriteElements.fits, hkind, Bool.false_eq_true] at hfits <;> rfl
  | bufferViews views =>
    rw [helements] at hfits he
    obtain ⟨v, -, rfl⟩ := List.mem_map.mp he
    cases hkind : b.kind <;> simp only [WriteElements.fits, hkind, Bool.false_eq_true] at hfits
    case uniformTexelBuffer => exact .uniformTexels hkind
    case storageTexelBuffer => exact .storageTexels hkind
  | views views =>
    rw [helements] at hfits he
    obtain ⟨v, -, rfl⟩ := List.mem_map.mp he
    cases hkind : b.kind <;> simp only [WriteElements.fits, hkind, Bool.false_eq_true] at hfits
    case storageImage => exact .storageImage (.inl hkind)
    case inputAttachment => exact .storageImage (.inr hkind)
    case sampledImage => exact .sampledImage (.inl hkind)
    case combinedImageSampler => exact .sampledImage (.inr ⟨hkind, hfits⟩)
  | viewSamplers pairs =>
    rw [helements] at hfits he
    obtain ⟨⟨v, x⟩, -, rfl⟩ := List.mem_map.mp he
    cases hkind : b.kind <;> simp only [WriteElements.fits, hkind, Bool.false_eq_true] at hfits
    exact .viewSampler hkind (by simpa using hfits)
  | samplers samplers =>
    rw [helements] at hfits he
    obtain ⟨x, -, rfl⟩ := List.mem_map.mp he
    cases hkind : b.kind <;> simp only [WriteElements.fits, hkind, Bool.false_eq_true] at hfits
    exact .sampler hkind (by simpa using hfits)

/-- What a write that passes its check does. -/
theorem exists_apply_of_check (hcheck : w.check s.layout = .ok ()) :
    ∃ b offset, s.layout.Run w.binding w.first w.elements.length b offset ∧
      b.number = w.binding ∧ (∀ e ∈ w.elements.toList, e.Fits b) ∧
      w.apply s = applyFrom b offset w.first s w.elements.toList := by
  obtain ⟨b, hb, hbound, hfits⟩ := exists_of_check hcheck
  obtain ⟨offset, hrun⟩ := SetLayout.exists_run hb hbound
  have hnumber : b.number = w.binding := by simpa using List.find?_some hb
  refine ⟨b, offset, hrun, hnumber, hfits, ?_⟩
  rw [apply, hb, hrun.dataRange]

/-- **Checked writes** establish a property of the elements that they replace, and leave others as
they are. -/
theorem at_apply {k : ElementKey} (hQ : Q.Local) (hcheck : w.check s.layout = .ok ())
    (hnew : w.Targets k → ∀ b, ∀ e ∈ w.elements.toList, e.Fits b → ∀ d o kept, 4 ∣ o →
      Q b d o kept → Q b (e.write b.kind d o) o (some e.resources))
    (h : s.At Q k) : (w.apply s).At Q k := by
  obtain ⟨b, offset, hrun, hnumber, hfits, happly⟩ := exists_apply_of_check hcheck
  rw [← hnumber] at hrun
  rw [happly]
  refine at_applyFrom hQ hfits (fun i e he hk => ?_) h hrun
  obtain ⟨hi, -⟩ := List.getElem?_eq_some_iff.mp he
  have hmem := List.mem_of_getElem? he
  refine hnew ?_ b e hmem (hfits e hmem)
  subst hk
  exact ⟨hnumber, Nat.le_add_right _ _, Nat.add_lt_add_left hi _⟩

theorem each_apply (hQ : Q.Local) (hcheck : w.check s.layout = .ok ())
    (hnew : ∀ b, ∀ e ∈ w.elements.toList, e.Fits b → ∀ d o kept, 4 ∣ o → Q b d o kept →
      Q b (e.write b.kind d o) o (some e.resources)) (h : s.Each Q) : (w.apply s).Each Q :=
  fun k => at_apply hQ hcheck (fun _ => hnew) (h k)

end DescriptorWrite

/-! ## Copies -/

/-- The cells of a range depend on no others. -/
theorem SetData.cells_congr {d d' : SetData} {o o' size : Nat}
    (h : ∀ j < size / 4, d'.cell (o' / 4 + j) = d.cell (o / 4 + j)) :
    d'.cells o' size = d.cells o size :=
  List.map_congr_left fun j hj => h j (List.mem_range.mp hj)

theorem SetData.length_cells (d : SetData) (offset size : Nat) :
    (d.cells offset size).length = size / 4 := by
  rw [SetData.cells, List.length_map, List.length_range]

namespace DescriptorCopy

variable {Q : DescriptorProperty} {c : DescriptorCopy} {s : DescriptorSet}

/-- The elements that a copy replaces. -/
def Targets (c : DescriptorCopy) (k : ElementKey) : Prop :=
  k.binding = c.dstBinding ∧ c.dstFirst ≤ k.element ∧ k.element < c.dstFirst + c.count

/-! ### Resources -/

variable {binding first : Nat} {t : ResourceTable} {list : List (Option (List Resource))}

theorem find?_setResources (k : ElementKey) : (setResources binding first t list).find? k =
    if k.binding = binding ∧ first ≤ k.element then (list[k.element - first]?).getD (t.find? k)
    else t.find? k := by
  induction list generalizing first t with
  | nil => simp [setResources]
  | cons r rest ih =>
    rw [setResources, ih, ResourceTable.find?_set]
    by_cases hk : (⟨binding, first⟩ : ElementKey) = k
    · subst hk
      simp
    · rw [if_neg hk]
      by_cases hin : k.binding = binding ∧ first ≤ k.element
      · have hne : first ≠ k.element := fun heq => hk (by cases k; simp_all)
        have hnext : k.element - first = k.element - (first + 1) + 1 := by omega
        rw [if_pos hin, if_pos ⟨hin.1, by omega⟩, hnext, List.getElem?_cons_succ]
      · rw [if_neg hin, if_neg fun h => hin ⟨h.1, by omega⟩]

theorem mem_all_setResources {r : Resource} (h : r ∈ (setResources binding first t list).all) :
    r ∈ t.all ∨ ∃ resources, some resources ∈ list ∧ r ∈ resources := by
  induction list generalizing first t with
  | nil => exact .inl h
  | cons o rest ih =>
    rcases ih h with h | ⟨resources, hmem, hr⟩
    · cases o with
      | none => exact .inl (ResourceTable.mem_all_erase h)
      | some resources =>
        rcases ResourceTable.mem_all_insert h with h | h
        · exact .inr ⟨resources, List.mem_cons_self, h⟩
        · exact .inl h
    · exact .inr ⟨resources, List.mem_cons_of_mem _ hmem, hr⟩

/-! ### Whole copies -/

/-- The resources that a copy moves. -/
def moved (c : DescriptorCopy) (source : DescriptorSet) : List (Option (List Resource)) :=
  (List.range c.count).map fun i => source.resources.find? ⟨c.srcBinding, c.srcFirst + i⟩

/-- What a copy does, if it does anything. -/
theorem apply_cases (c : DescriptorCopy) (s : DescriptorSet) :
    c.apply s = s ∨ ∃ src dst,
      (c.source.getD s).layout.dataRange c.srcBinding c.srcFirst c.count = .ok src ∧
      s.layout.dataRange c.dstBinding c.dstFirst c.count = .ok dst ∧
      c.apply s = { s with
        data := s.data.write dst.start ((c.source.getD s).data.cells src.start src.length)
        resources :=
          setResources c.dstBinding c.dstFirst s.resources (c.moved (c.source.getD s)) } := by
  simp only [apply]
  split
  · rename_i src dst hsrc hdst
    exact .inr ⟨src, dst, hsrc, hdst, rfl⟩
  · exact .inl rfl

theorem layout_apply (c : DescriptorCopy) (s : DescriptorSet) : (c.apply s).layout = s.layout := by
  rcases c.apply_cases s with h | ⟨src, dst, -, -, h⟩
  · rw [h]
  · rw [h]

/-- Other elements keep their resources. -/
theorem find?_apply {k : ElementKey} (hk : ¬ c.Targets k) :
    (c.apply s).resources.find? k = s.resources.find? k := by
  rcases c.apply_cases s with h | ⟨src, dst, -, -, h⟩
  · rw [h]
  · simp only [h, find?_setResources]
    split
    · rename_i hin
      rw [List.getElem?_eq_none, Option.getD_none]
      simp only [Targets, hin.1, hin.2, true_and, not_lt] at hk
      simp only [moved, List.length_map, List.length_range]
      omega
    · rfl

theorem mem_all_apply {r : Resource} (h : r ∈ (c.apply s).resources.all) :
    r ∈ s.resources.all ∨ r ∈ (c.source.getD s).resources.all := by
  rcases c.apply_cases s with heq | ⟨src, dst, -, -, heq⟩
  · rw [heq] at h
    exact .inl h
  · rw [heq] at h
    refine (mem_all_setResources h).imp_right ?_
    rintro ⟨resources, hmem, hr⟩
    obtain ⟨i, -, hfind⟩ := List.mem_map.mp hmem
    exact ResourceTable.mem_all_of_find? hfind hr

/-- The bindings of a copy that passes its check. -/
theorem exists_of_check (h : c.check s.layout = .ok ()) :
    ∃ src dst, (c.source.getD s).layout.find? c.srcBinding = some src ∧
      c.srcFirst + c.count ≤ src.count ∧ s.layout.find? c.dstBinding = some dst ∧
      c.dstFirst + c.count ≤ dst.count ∧ src.kind = dst.kind := by
  have hsource : c.source.elim s.layout (·.layout) = (c.source.getD s).layout := by
    cases c.source <;> rfl
  rw [check, hsource] at h
  cases hsrc : (c.source.getD s).layout.find? c.srcBinding with
  | none =>
    simp only [hsrc] at h
    cases h
  | some src =>
    cases hdst : s.layout.find? c.dstBinding with
    | none =>
      simp only [hsrc, hdst, throw_eq_error, error_bind, ite_error_eq_ok] at h
      cases h.2
    | some dst =>
      simp only [hsrc, hdst, throw_eq_error, error_bind, ite_error_eq_ok, not_lt, ne_eq,
        not_not] at h
      exact ⟨src, dst, rfl, h.1, rfl, h.2.1, h.2.2.1⟩

/-- Nothing is copied to bindings of immutable samplers alone. -/
theorem kind_ne_sampler_of_check (h : c.check s.layout = .ok ()) {dst : LayoutBinding}
    (hdst : s.layout.find? c.dstBinding = some dst) (hfixed : dst.usesImmutableSamplers = true) :
    dst.kind ≠ .sampler := by
  rw [check] at h
  cases hsrc : (c.source.elim s.layout (·.layout)).find? c.srcBinding with
  | none =>
    simp only [hsrc] at h
    cases h
  | some src =>
    simp only [hsrc, hdst, throw_eq_error, error_bind, ite_error_eq_ok, hfixed, true_and] at h
    exact h.2.2.2.1

/-- The cells of a moved record are those of the record in the source. -/
theorem cell_moved (d d' : SetData) {src dst bytes stride i j : Nat} (hstride : 4 ∣ stride)
    (hroom : stride * (i + 1) ≤ bytes) (hj : j < stride / 4) :
    (d.write dst (d'.cells src bytes)).cell ((dst + stride * i) / 4 + j) =
      d'.cell ((src + stride * i) / 4 + j) := by
  obtain ⟨n, rfl⟩ := hstride
  have hplace (o : Nat) : (o + 4 * n * i) / 4 + j = o / 4 + (n * i + j) := by
    rw [Nat.mul_assoc, Nat.add_mul_div_left _ _ (by decide), Nat.add_assoc]
  rw [Nat.mul_succ, Nat.mul_assoc] at hroom
  have hcell : (d'.cells src bytes)[n * i + j]? = some (d'.cell (src / 4 + (n * i + j))) :=
    d'.getElem?_cells (by omega)
  rw [hplace, hplace, SetData.cell_write d dst hcell]

/-- The element that a copy moves to another one. -/
def origin (c : DescriptorCopy) (k : ElementKey) : ElementKey :=
  ⟨c.srcBinding, c.srcFirst + (k.element - c.dstFirst)⟩

/-- What a copy that passes its check does. -/
theorem exists_apply_of_check (hcheck : c.check s.layout = .ok ()) :
    ∃ b b' src dst, (c.source.getD s).layout.Run c.srcBinding c.srcFirst c.count b src ∧
      s.layout.Run c.dstBinding c.dstFirst c.count b' dst ∧ b.kind = b'.kind ∧
      b.stride = b'.stride ∧
      c.apply s = { s with
        data := s.data.write dst ((c.source.getD s).data.cells src (b.stride * c.count))
        resources :=
          setResources c.dstBinding c.dstFirst s.resources (c.moved (c.source.getD s)) } := by
  obtain ⟨b, b', hb, hbound, hb', hbound', hkinds⟩ := exists_of_check hcheck
  obtain ⟨src, hsrc⟩ := SetLayout.exists_run hb hbound
  obtain ⟨dst, hdst⟩ := SetLayout.exists_run hb' hbound'
  have hstrides : b.stride = b'.stride := by rw [LayoutBinding.stride, LayoutBinding.stride, hkinds]
  refine ⟨b, b', src, dst, hsrc, hdst, hkinds, hstrides, ?_⟩
  simp only [apply, hsrc.dataRange, hdst.dataRange, Span.length, Nat.add_sub_cancel_left]
  rfl

variable {k : ElementKey} {b' : LayoutBinding} {o' : Nat}

/-- Elements that a copy names hold what the source holds. -/
theorem exists_moved (hcheck : c.check s.layout = .ok ()) (helement : s.layout.Element k b' o')
    (hk : c.Targets k) :
    ∃ b o, (c.source.getD s).layout.Element (c.origin k) b o ∧ b.kind = b'.kind ∧
      (∀ j < b'.stride / 4,
        (c.apply s).data.cell (o' / 4 + j) = (c.source.getD s).data.cell (o / 4 + j)) ∧
      (c.apply s).resources.find? k = (c.source.getD s).resources.find? (c.origin k) := by
  obtain ⟨b, b'', src, dst, hsrc, hdst, hkinds, hstrides, happly⟩ := exists_apply_of_check hcheck
  obtain ⟨i, hi⟩ := Nat.exists_eq_add_of_le hk.2.1
  have hcount : i < c.count := by
    have hlt := hk.2.2
    omega
  obtain rfl : k = ⟨c.dstBinding, c.dstFirst + i⟩ := by
    cases k
    simp_all [Targets]
  have hplace := hdst.elementAt hcount
  obtain rfl : b'' = b' := Option.some.inj (hplace.binding.symm.trans helement.binding)
  obtain rfl := Except.ok.inj (hplace.offset.symm.trans helement.offset)
  rw [origin, Nat.add_sub_cancel_left]
  refine ⟨b, _, hsrc.elementAt hcount, hkinds, fun j hj => ?_, ?_⟩
  · have hfour : 4 ∣ b''.stride := (by decide : 4 ∣ 16).trans b''.sixteen_dvd_stride
    rw [happly, hstrides]
    exact cell_moved s.data _ hfour (Nat.mul_le_mul_left _ (Nat.succ_le_of_lt hcount)) hj
  · rw [happly]
    simp [find?_setResources, moved, hcount]

/-- The cells of elements that a copy does not name stay as they are. -/
theorem cell_apply (hcheck : c.check s.layout = .ok ()) (helement : s.layout.Element k b' o')
    (hk : ¬ c.Targets k) :
    ∀ j < b'.stride / 4, (c.apply s).data.cell (o' / 4 + j) = s.data.cell (o' / 4 + j) := by
  obtain ⟨b, b'', src, dst, -, hdst, -, hstrides, happly⟩ := exists_apply_of_check hcheck
  have ho : 4 ∣ o' := (by decide : 4 ∣ 16).trans helement.sixteen_dvd
  have hdvd : 4 ∣ dst := (by decide : 4 ∣ 16).trans hdst.sixteen_dvd
  have hapart := hdst.disjoint helement fun hbinding => by
    simp only [Targets, hbinding, true_and, not_and, not_lt] at hk
    exact (Nat.lt_or_ge k.element c.dstFirst).imp_right hk
  rw [happly]
  refine DescriptorSet.cells_of_writesOnly (s.data.writesOnly_write hdvd _) ho ?_
  have hcells := Nat.mul_div_le (b.stride * c.count) 4
  rw [SetData.length_cells]
  rw [hstrides] at hcells ⊢
  omega

/-- **Checked copies** give an element the property if what is moved there has it, and leave others
as they are. -/
theorem at_apply (hQ : Q.Local) (hcheck : c.check s.layout = .ok ()) (h : s.At Q k)
    (hmoved : c.Targets k → ∀ b b' o, (c.source.getD s).layout.Element (c.origin k) b o →
      s.layout.find? c.dstBinding = some b' → b.kind = b'.kind →
      Q b' (c.source.getD s).data o ((c.source.getD s).resources.find? (c.origin k))) :
    (c.apply s).At Q k := by
  intro b' o' helement
  rw [layout_apply] at helement
  by_cases hk : c.Targets k
  · obtain ⟨b, o, horigin, hkinds, hcells, hfind⟩ := exists_moved hcheck helement hk
    have hb' : s.layout.find? c.dstBinding = some b' := hk.1 ▸ helement.binding
    rw [hfind]
    exact hQ b' _ _ _ _ _ hcells (hmoved hk b b' o horigin hb' hkinds)
  · rw [find?_apply hk]
    exact hQ b' _ _ _ _ _ (cell_apply hcheck helement hk) (h b' o' helement)

/-- Copies carry a property over, if it does not depend on what differs between the two bindings. -/
theorem each_apply (hQ : Q.Local) (hcheck : c.check s.layout = .ok ()) (h : s.Each Q)
    (hsource : ∀ source, c.source = some source → source.Each Q)
    (hcarry : ∀ b b', (c.source.getD s).layout.find? c.srcBinding = some b →
      s.layout.find? c.dstBinding = some b' → b.kind = b'.kind →
      ∀ d o kept, Q b d o kept → Q b' d o kept) : (c.apply s).Each Q := by
  have heach : (c.source.getD s).Each Q := by
    cases hc : c.source with
    | none => exact h
    | some source => exact hsource source hc
  intro k
  refine at_apply hQ hcheck (h k) fun _ b b' o helement hb' hkinds => ?_
  exact hcarry b b' helement.binding hb' hkinds _ _ _ (heach _ b o helement)

end DescriptorCopy

/-! ## Updates -/

namespace DescriptorSet

variable {Q : DescriptorProperty} {s s' : DescriptorSet} {writes : List DescriptorWrite}
  {copies : List DescriptorCopy}

theorem checkWrites_eq_ok {layout : SetLayout} {index : Nat} :
    checkWrites layout index writes = .ok () ↔ ∀ w ∈ writes, w.check layout = .ok () := by
  induction writes generalizing index with
  | nil => simp [checkWrites]
  | cons w rest ih => simp [checkWrites, bind_eq_ok, mapError_eq_ok, ih, Unique.exists_iff]

theorem checkCopies_eq_ok {layout : SetLayout} {index : Nat} :
    checkCopies layout index copies = .ok () ↔ ∀ c ∈ copies, c.check layout = .ok () := by
  induction copies generalizing index with
  | nil => simp [checkCopies]
  | cons c rest ih => simp [checkCopies, bind_eq_ok, mapError_eq_ok, ih, Unique.exists_iff]

/-- What every write and every copy of an update keeps, the update keeps. -/
theorem applyUpdate_induction {P : DescriptorSet → Prop} (h : P s)
    (hwrites : ∀ w ∈ writes, ∀ s, P s → P (w.apply s))
    (hcopies : ∀ c ∈ copies, ∀ s, P s → P (c.apply s)) : P (s.applyUpdate writes copies) := by
  rw [applyUpdate]
  refine List.foldlRecOn copies _ (List.foldlRecOn writes _ h ?_) ?_
  · exact fun s hs w hw => hwrites w hw s hs
  · exact fun s hs c hc => hcopies c hc s hs

theorem layout_applyUpdate : (s.applyUpdate writes copies).layout = s.layout :=
  applyUpdate_induction (P := fun t => t.layout = s.layout) rfl
    (fun w _ t h => (w.layout_apply t).trans h) fun c _ t h => (c.layout_apply t).trans h

/-- What it means that an update passes its checks. -/
theorem checkUpdate_eq_ok : s.checkUpdate writes copies = .ok () ↔
    (∀ w ∈ writes, w.check s.layout = .ok ()) ∧ ∀ c ∈ copies, c.check s.layout = .ok () := by
  simp only [checkUpdate, bind_eq_ok, Unique.exists_iff]
  exact and_congr checkWrites_eq_ok checkCopies_eq_ok

/-- An update succeeds if all its writes and copies pass their checks, and is made then. -/
theorem update_eq_ok : s.update writes copies = .ok s' ↔
    (∀ w ∈ writes, w.check s.layout = .ok ()) ∧ (∀ c ∈ copies, c.check s.layout = .ok ()) ∧
      s.applyUpdate writes copies = s' := by
  simp only [update, bind_eq_ok, pure_eq_ok, Unique.exists_iff]
  exact (and_congr_left' checkUpdate_eq_ok).trans and_assoc

/-- **An update gives an element a property** that writes to it establish and that is moved there by
copies.  A copy finds the set as the writes and the copies before it left it. -/
theorem At.update {k : ElementKey} (hQ : Q.Local) (h : s.At Q k)
    (hupdate : s.update writes copies = .ok s')
    (hnew : ∀ w ∈ writes, w.Targets k → ∀ b, ∀ e ∈ w.elements.toList, e.Fits b → ∀ d o kept,
      4 ∣ o → Q b d o kept → Q b (e.write b.kind d o) o (some e.resources))
    (hmoved : ∀ before c after, copies = before ++ c :: after → c.Targets k →
      ∀ t, s.applyUpdate writes before = t → ∀ b b' o,
        (c.source.getD t).layout.Element (c.origin k) b o →
        s.layout.find? c.dstBinding = some b' → b.kind = b'.kind →
        Q b' (c.source.getD t).data o ((c.source.getD t).resources.find? (c.origin k))) :
    s'.At Q k := by
  obtain ⟨hwrites, hcopies, rfl⟩ := update_eq_ok.mp hupdate
  clear hupdate
  -- on the last copy
  induction copies using List.reverseRecOn with
  | nil =>
    have hlayout (t : DescriptorSet) (ht : t.layout = s.layout) {w : DescriptorWrite}
        (hw : w ∈ writes) : w.check t.layout = .ok () := ht ▸ hwrites w hw
    refine (applyUpdate_induction (P := fun t => t.At Q k ∧ t.layout = s.layout) ⟨h, rfl⟩ ?_
      fun _ hc => absurd hc List.not_mem_nil).1
    rintro w hw t ⟨hat, ht⟩
    exact ⟨w.at_apply hQ (hlayout t ht hw) (hnew w hw) hat, (w.layout_apply t).trans ht⟩
  | append_singleton copies c ih =>
    have hbefore := ih (fun before c' after heq => hmoved before c' (after ++ [c]) (by simp [heq]))
      fun c' hc' => hcopies c' (List.mem_append_left _ hc')
    have hlast : s.applyUpdate writes (copies ++ [c]) = c.apply (s.applyUpdate writes copies) := by
      rw [applyUpdate, List.foldl_append]
      rfl
    have hcheck := hcopies c (List.mem_append_right _ List.mem_cons_self)
    rw [hlast]
    refine c.at_apply hQ (by rwa [layout_applyUpdate]) hbefore fun hk b b' o helement hb' => ?_
    rw [layout_applyUpdate] at hb'
    exact hmoved copies c [] rfl hk _ rfl b b' o helement hb'

/-- **Updates** keep a property that writes establish and copies carry over. -/
theorem Each.update (hQ : Q.Local) (h : s.Each Q) (hupdate : s.update writes copies = .ok s')
    (hnew : ∀ w ∈ writes, ∀ b, ∀ e ∈ w.elements.toList, e.Fits b → ∀ d o kept, 4 ∣ o →
      Q b d o kept → Q b (e.write b.kind d o) o (some e.resources))
    (hsources : ∀ c ∈ copies, ∀ source, c.source = some source → source.Each Q)
    (hcarry : ∀ c ∈ copies, ∀ b b',
      (c.source.elim s.layout (·.layout)).find? c.srcBinding = some b →
      s.layout.find? c.dstBinding = some b' → b.kind = b'.kind →
      ∀ d o kept, Q b d o kept → Q b' d o kept) : s'.Each Q := by
  obtain ⟨hwrites, hcopies, rfl⟩ := update_eq_ok.mp hupdate
  have hboth : (s.applyUpdate writes copies).Each Q ∧
      (s.applyUpdate writes copies).layout = s.layout := by
    refine applyUpdate_induction (P := fun t => t.Each Q ∧ t.layout = s.layout) ⟨h, rfl⟩ ?_ ?_
    · rintro w hw t ⟨heach, hlayout⟩
      have hcheck : w.check t.layout = .ok () := hlayout ▸ hwrites w hw
      exact ⟨w.each_apply hQ hcheck (hnew w hw) heach, (w.layout_apply t).trans hlayout⟩
    · rintro c hc t ⟨heach, hlayout⟩
      have hcheck : c.check t.layout = .ok () := hlayout ▸ hcopies c hc
      have hsource : (c.source.getD t).layout = c.source.elim s.layout (·.layout) := by
        rw [← hlayout]
        cases c.source <;> rfl
      refine ⟨c.each_apply hQ hcheck heach (hsources c hc) ?_, (c.layout_apply t).trans hlayout⟩
      rw [hsource, hlayout]
      exact hcarry c hc
  exact hboth.1

/-- The record has given cells, and given resources are kept with it. -/
def Unchanged (cells : List Cell) (resources : Option (List Resource)) : DescriptorProperty :=
  fun b d o kept => d.cells o b.stride = cells ∧ kept = resources

theorem local_unchanged {cells : List Cell} {resources : Option (List Resource)} :
    (Unchanged cells resources).Local := by
  rintro b d d' o o' kept hcells ⟨rfl, hkept⟩
  exact ⟨SetData.cells_congr hcells, hkept⟩

/-- **Elements that no write and no copy names** keep their record and their resources. -/
theorem unchanged_update (hupdate : s.update writes copies = .ok s') {k : ElementKey}
    {b : LayoutBinding} {o : Nat} (helement : s.layout.Element k b o)
    (hwrites : ∀ w ∈ writes, ¬ w.Targets k) (hcopies : ∀ c ∈ copies, ¬ c.Targets k) :
    s'.data.cells o b.stride = s.data.cells o b.stride ∧
      s'.resources.find? k = s.resources.find? k := by
  have hat : s.At (Unchanged (s.data.cells o b.stride) (s.resources.find? k)) k := by
    intro b' o' helement'
    obtain rfl : b = b' := Option.some.inj (helement.binding.symm.trans helement'.binding)
    obtain rfl : o = o' := Except.ok.inj (helement.offset.symm.trans helement'.offset)
    exact ⟨rfl, rfl⟩
  refine hat.update local_unchanged hupdate (fun w hw hk => absurd hk (hwrites w hw)) ?_ b o ?_
  · rintro before c after rfl hk
    exact absurd hk (hcopies c (List.mem_append_right _ List.mem_cons_self))
  · obtain ⟨-, -, rfl⟩ := update_eq_ok.mp hupdate
    rwa [layout_applyUpdate]

/-- Elements that no write and no copy names keep their resources. -/
theorem find?_update (hupdate : s.update writes copies = .ok s') {k : ElementKey}
    (hwrites : ∀ w ∈ writes, ¬ w.Targets k) (hcopies : ∀ c ∈ copies, ¬ c.Targets k) :
    s'.resources.find? k = s.resources.find? k := by
  obtain ⟨-, -, rfl⟩ := update_eq_ok.mp hupdate
  refine applyUpdate_induction (P := fun t => t.resources.find? k = s.resources.find? k) rfl ?_ ?_
  · exact fun w hw t ht => (DescriptorWrite.find?_apply (hwrites w hw)).trans ht
  · exact fun c hc t ht => (DescriptorCopy.find?_apply (hcopies c hc)).trans ht

/-- What a set keeps after an update it kept before, or it was written, or the source of a copy
keeps it. -/
theorem forall_kept_update {P : Resource → Prop} (h : ∀ r ∈ s.resources.all, P r)
    (hupdate : s.update writes copies = .ok s')
    (hnew : ∀ w ∈ writes, ∀ e ∈ w.elements.toList, ∀ r ∈ e.resources, P r)
    (hsources : ∀ c ∈ copies, ∀ source, c.source = some source →
      ∀ r ∈ source.resources.all, P r) : ∀ r ∈ s'.resources.all, P r := by
  obtain ⟨-, -, rfl⟩ := update_eq_ok.mp hupdate
  refine applyUpdate_induction (P := fun t => ∀ r ∈ t.resources.all, P r) h ?_ ?_
  · intro w hw t ht r hr
    rcases DescriptorWrite.mem_all_apply hr with hr | ⟨e, he, hr⟩
    · exact ht r hr
    · exact hnew w hw e he r hr
  · intro c hc t ht r hr
    rcases DescriptorCopy.mem_all_apply hr with hr | hr
    · exact ht r hr
    · cases hsource : c.source with
      | none =>
        rw [hsource] at hr
        exact ht r hr
      | some source =>
        rw [hsource] at hr
        exact hsources c hc source hsource r hr

end DescriptorSet

end HostGpu
