import HostGpu.Proofs.Descriptor.InPlace
import HostGpu.Proofs.Texel.StorageView

/-!
# What descriptors of storage images hold

The record of every storage image, storage texel buffer and input attachment of a set is that of the
view that the set keeps for it, and the null record where it keeps none
(`DescriptorSet.Consistent`). This holds of new sets, and updates keep it up.
-/

namespace HostGpu

open Outcome

/-- The resource that a descriptor of a view keeps. -/
def StorageView.resource : StorageView → Resource
  | image v => .view v
  | buffer v => .bufferView v

theorem StorageView.resource_injective : Function.Injective StorageView.resource := by
  intro v w h
  cases v <;> cases w <;> cases h <;> rfl

namespace DescriptorSet

/-- The record at a place is that of the view that an element keeps, or else the null record. -/
def Shows (s : DescriptorSet) (k : ElementKey) (offset : Nat) : Prop :=
  (s.resources.find? k = none ∧ StorageRecord.read s.data offset = .null) ∨
    ∃ v : StorageView, s.resources.find? k = some [v.resource] ∧
      StorageRecord.read s.data offset = v.record

/-- The record of every element with a storage record is that of the view that it keeps. -/
def Consistent (s : DescriptorSet) : Prop :=
  ∀ k b offset, s.layout.Element k b offset → b.kind.record? = some .storage → s.Shows k offset

/-- The same of one element: its record is that of the view that is kept with it. -/
def ShowsKept : DescriptorProperty := fun b d o kept => b.kind.record? = some .storage →
  (kept = none ∧ StorageRecord.read d o = .null) ∨
    ∃ v : StorageView, kept = some [v.resource] ∧ StorageRecord.read d o = v.record

variable {s s' : DescriptorSet}

theorem local_showsKept : DescriptorProperty.Local ShowsKept := by
  intro b d d' o o' kept hcells h hkind
  rw [LayoutBinding.stride_of_record? hkind] at hcells
  rw [StorageRecord.read_congr hcells]
  exact h hkind

/-- **New sets are consistent**: their storage records are null and they keep nothing. -/
theorem consistent_of_create {layout : SetLayout} (hfit : ∀ b ∈ layout.bindings, b.SamplersFit)
    {place : Option PoolPlace} (h : create layout place = .ok s) :
    s.Consistent ∧ s.layout = layout ∧ s.resources = [] := by
  refine ⟨each_of_create local_showsKept hfit (fun b o _ _ => .inl ⟨rfl, ?_⟩) ?_ h, ?_⟩
  · exact StorageRecord.read_eq_null fun _ _ => SetData.cell_zeroed _ _
  · intro b _ o huses _ x _ hkind
    have hstride := stride_of_usesImmutableSamplers huses
    rw [LayoutBinding.stride_of_record? hkind] at hstride
    cases hstride
  · simp only [create, bind_eq_ok, pure_eq_ok] at h
    obtain ⟨-, -, rfl⟩ := h
    exact ⟨rfl, rfl⟩

/-- Writes make a record that of the view that is kept with it. -/
theorem showsKept_write {b : LayoutBinding} {e : WriteElement} (he : e.Fits b) (d : SetData)
    (o : Nat) : ShowsKept b (e.write b.kind d o) o (some e.resources) := by
  intro hkind
  right
  cases he with
  | @storageTexels v hb =>
    refine ⟨.buffer v, rfl, ?_⟩
    rw [WriteElement.write, if_pos hb]
    exact StorageRecord.read_write d o _
  | @storageImage v hb =>
    refine ⟨.image v, rfl, ?_⟩
    rw [WriteElement.write, if_pos hb]
    exact StorageRecord.read_write d o _
  | buffer hb => cases hb.symm.trans hkind
  | sampledImage hb =>
    rcases hb with hb | ⟨hb, -⟩ <;> (rw [hb] at hkind; cases hkind)
  | uniformTexels hb | viewSampler hb | sampler hb =>
    rw [hb] at hkind
    cases hkind

/-- The records are those of the views that the set keeps, and `P` holds of all that it keeps. -/
structure Sound (P : Resource → Prop) (s : DescriptorSet) : Prop where
  formed : s.Formed
  consistent : s.Consistent
  kept : ∀ r ∈ s.resources.all, P r

/-- **Updates keep sets consistent.** -/
theorem sound_update {P : Resource → Prop} {writes : List DescriptorWrite}
    {copies : List DescriptorCopy} (h : s.Sound P) (hupdate : s.update writes copies = .ok s')
    (hkept : ∀ w ∈ writes, ∀ e ∈ w.elements.toList, ∀ r ∈ e.resources, P r)
    (hsources : ∀ c ∈ copies, ∀ source, c.source = some source → source.Sound P) :
    s'.Sound P := by
  refine ⟨?_, Each.update local_showsKept h.consistent hupdate ?_ ?_ ?_, ?_⟩
  · obtain ⟨-, -, rfl⟩ := update_eq_ok.mp hupdate
    exact (formedAs_applyUpdate h.formed _ _).1
  · exact fun w _ b e _ he d o kept _ _ => showsKept_write he d o
  · exact fun c hc source hsource => (hsources c hc source hsource).consistent
  · intro c _ b b' _ _ hkinds d o kept hshows hkind
    exact hshows (hkinds ▸ hkind)
  · exact forall_kept_update h.kept hupdate hkept
      fun c hc source hsource => (hsources c hc source hsource).kept

end DescriptorSet

end HostGpu
