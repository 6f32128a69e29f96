import HostGpu.Proofs.Descriptor.Update

/-!
# Ranges of levels of detail

The record of a descriptor holds a sampler by its identifier and its range of levels of detail.
Both are written together and copied together, so that a record that names a sampler has the range
of this sampler.  Descriptors of sampled images are never given one (`DescriptorSet.HasLodRange`).
-/

namespace HostGpu.DescriptorSet

open SampledRecord

/-- The sampler's part of a record: a sampler that it names is one that has a property, and comes
with its range; sampled images have the empty range at zero. -/
structure HasLodRange (P : Sampler → Prop) (b : LayoutBinding) (d : SetData) (o : Nat)
    (_ : Option (List Resource)) : Prop where
  named : b.kind.record? = some .sampled → (read d o).sampler ≠ 0 → ∃ x, P x ∧ (read d o).Holds x
  plain : b.kind = .sampledImage → (read d o).minLod = 0 ∧ (read d o).maxLod = 0

variable {P : Sampler → Prop} {b : LayoutBinding} {d : SetData} {o : Nat}
  {kept : Option (List Resource)}

theorem local_hasLodRange : DescriptorProperty.Local (HasLodRange P) := by
  intro b d d' o o' kept hcells h
  refine ⟨fun hkind => ?_, fun hkind => ?_⟩
  · rw [LayoutBinding.stride_of_record? hkind] at hcells
    rw [sampler_congr hcells]
    intro hne
    obtain ⟨x, hx, hholds⟩ := h.named hkind hne
    exact ⟨x, hx, (holds_congr hcells).mpr hholds⟩
  · have hrecord : b.kind.record? = some .sampled := by rw [hkind]; rfl
    rw [LayoutBinding.stride_of_record? hrecord] at hcells
    rw [read_minLod, read_maxLod, SetData.word_congr (hcells 976 (by decide)),
      SetData.word_congr (hcells 977 (by decide))]
    exact h.plain hkind

theorem hasLodRange_zeroed (b : LayoutBinding) (o size : Nat) :
    HasLodRange P b (.zeroed size) o kept := by
  have hzero (j : Nat) : (SetData.zeroed size).word (o + 4 * j) = 0 :=
    SetData.word_of_cell (SetData.cell_zeroed size _)
  refine ⟨fun _ hne => absurd (hzero 980) hne, fun _ => ⟨hzero 976, hzero 977⟩⟩

/-- Where samplers can be written, a record has the range of the one that is written. -/
theorem hasLodRange_writeSampler (hkind : b.kind ≠ .sampledImage) {x : Sampler} (hx : P x)
    (d : SetData) (ho : 4 ∣ o) (kept : Option (List Resource)) :
    HasLodRange P b (writeSampler x d o) o kept :=
  ⟨fun _ _ => ⟨x, hx, holds_writeSampler x d ho⟩, fun h => absurd h hkind⟩

/-- Writing a view does not touch the sampler's part. -/
theorem hasLodRange_writeView (id : Nat) {c : Contents} (hc : c.Fits) (ho : 4 ∣ o)
    {kept' : Option (List Resource)} (h : HasLodRange P b d o kept) :
    HasLodRange P b (writeView id c d o) o kept' := by
  obtain ⟨hmin, hmax⟩ := lodRange_writeView id hc d ho
  refine ⟨fun hkind hne => ?_, fun hkind => ?_⟩
  · rw [sampler_writeView id hc d ho] at hne
    obtain ⟨x, hx, hholds⟩ := h.named hkind hne
    exact ⟨x, hx, (holds_writeView id hc d ho).mpr hholds⟩
  · rw [hmin, hmax]
    exact h.plain hkind

/-- A binding for other records has neither. -/
theorem hasLodRange_of_record?_ne (h : b.kind.record? ≠ some .sampled) :
    HasLodRange P b d o kept :=
  ⟨fun hkind => absurd hkind h, fun hkind => absurd (by rw [hkind]; rfl) h⟩

/-- **Writes** give records the ranges of samplers with the property. -/
theorem hasLodRange_write {e : WriteElement} (he : e.Fits b)
    (hnew : ∀ x, .sampler x ∈ e.resources → P x) (ho : 4 ∣ o) (h : HasLodRange P b d o kept) :
    HasLodRange P b (e.write b.kind d o) o (some e.resources) := by
  cases he with
  | buffer hb => exact hasLodRange_of_record?_ne (by rw [hb]; decide)
  | storageTexels hb => exact hasLodRange_of_record?_ne (by rw [hb]; decide)
  | storageImage hb =>
    exact hasLodRange_of_record?_ne (by rcases hb with hb | hb <;> (rw [hb]; decide))
  | @uniformTexels v hb =>
    rw [WriteElement.write_uniformTexels hb]
    exact hasLodRange_writeView _ (fits_ofBufferView v) ho h
  | @sampledImage v hb =>
    rw [WriteElement.write_sampledImage hb]
    exact hasLodRange_writeView _ (fits_ofView v) ho h
  | @viewSampler v x hb =>
    have hx : P x := hnew x (List.mem_cons_of_mem _ (List.mem_singleton_self _))
    exact hasLodRange_writeView _ (fits_ofView v) ho
      (hasLodRange_writeSampler (by rw [hb]; decide) hx d ho kept)
  | @sampler x hb =>
    exact hasLodRange_writeSampler (by rw [hb]; decide) (hnew x (List.mem_singleton_self _)) d ho _

variable {s s' : DescriptorSet}

/-- **New sets** have the ranges of the immutable samplers of their layout. -/
theorem hasLodRange_of_create {layout : SetLayout} (hfit : ∀ b ∈ layout.bindings, b.SamplersFit)
    (hfixed : ∀ b ∈ layout.bindings, ∀ x ∈ b.immutableSamplers, P x) {place : Option PoolPlace}
    (h : create layout place = .ok s) : s.Each (HasLodRange P) := by
  refine each_of_create local_hasLodRange hfit (fun b o _ => hasLodRange_zeroed b o 0) ?_ h
  intro b hb o huses ho x hx
  refine hasLodRange_writeSampler ?_ (hfixed b hb x hx) _ ho none
  rcases LayoutBinding.kind_of_usesImmutableSamplers huses with hkind | hkind <;>
    (rw [hkind]; decide)

end HostGpu.DescriptorSet
