import HostGpu.Proofs.Descriptor.Set
import HostGpu.Proofs.Descriptor.Texture
import HostGpu.Store.Lifetime

/-!
# What descriptors refer to

The record of a descriptor refers to memory by pointers, and to a view and a sampler by their
identifiers.  Memory and views are those of the resources that the set keeps for the element
(`DescriptorSet.ViewKept`).  So are samplers, unless the binding has immutable ones, which the
layout keeps (`DescriptorSet.SamplerKept`).  The view and the sampler that the set keeps are named
by the record (`DescriptorSet.NamesKept`).  A copy moves records and what the set keeps, but not
what the layout keeps: it carries the second property over between bindings with the same immutable
samplers, and the others always.
-/

namespace HostGpu

open Outcome

/-! ## Pointers of records -/

/-- All pointers of a record of some kind. -/
def RecordKind.pointers : RecordKind → SetData → Nat → List (Option Pointer)
  | buffer, d, o => [(BufferRecord.read d o).pointer]
  | storage, d, o => [(StorageRecord.read d o).pointer, (StorageRecord.read d o).stencilPointer]
  | sampled, d, o =>
    (List.range maxLevels).flatMap fun level => (SampledRecord.readLevel d o level).faces

namespace RecordKind

variable {d d' : SetData} {o o' : Nat}

theorem pointers_congr {kind : RecordKind}
    (h : ∀ j < kind.size / 4, d'.cell (o' / 4 + j) = d.cell (o / 4 + j)) :
    kind.pointers d' o' = kind.pointers d o := by
  cases kind with
  | buffer =>
    have hpointer : (BufferRecord.read d' o').pointer = (BufferRecord.read d o).pointer :=
      SetData.pointer_congr (h 0 (by decide)) (h 1 (by decide))
    rw [pointers, pointers, hpointer]
  | storage => rw [pointers, pointers, StorageRecord.read_congr h]
  | sampled =>
    have hmax : maxLevels = 15 := rfl
    have hsize : RecordKind.sampled.size / 4 = 988 := rfl
    refine List.flatMap_congr fun level hlevel => ?_
    have hlt := List.mem_range.mp hlevel
    exact congrArg LevelRecord.faces
      (SampledRecord.readLevel_congr fun j hj => h (64 * level + j) (by omega))

theorem pointers_writeSampler (x : Sampler) (d : SetData) (h : 4 ∣ o) :
    sampled.pointers (SampledRecord.writeSampler x d o) o = sampled.pointers d o :=
  List.flatMap_congr fun _ hlevel =>
    congrArg (·.faces) (SampledRecord.readLevel_writeSampler x d h (List.mem_range.mp hlevel))

/-- Zeros hold no pointer. -/
theorem some_notMem_pointers_zeroed (kind : RecordKind) (o size : Nat) (p : Pointer) :
    some p ∉ kind.pointers (.zeroed size) o := by
  have hnone (n : Nat) : (SetData.zeroed size).pointer n = none := by
    rw [SetData.pointer, SetData.cell_zeroed, SetData.cell_zeroed]
    rfl
  intro h
  cases kind with
  | buffer => simp [pointers, BufferRecord.read, hnone] at h
  | storage => simp [pointers, StorageRecord.read, hnone] at h
  | sampled => simp [pointers, SampledRecord.faces_readLevel, hnone] at h

end RecordKind

/-! ## Memory of resources -/

/-- Bytes of the memory that a resource keeps. -/
def Resource.bytes : Resource → Nat
  | buffer b => b.size
  | bufferView v => v.buffer.size
  | view v => v.image.info.size
  | sampler _ => 0

/-- A place in the memory that a resource keeps. -/
def Resource.Contains (x : Resource) (p : Pointer) : Prop :=
  x.block? = some p.block ∧ p.offset < x.bytes

/-- The views that a resource is made of obey all rules. -/
def Resource.Valid : Resource → Prop
  | bufferView v => v.Valid
  | view v => v.Valid
  | buffer _ | sampler _ => True

theorem StorageRecord.contains_ofView {v : ImageView} (h : v.Valid) {p : Pointer}
    (hp : (ofView v).pointer = some p ∨ (ofView v).stencilPointer = some p) :
    (Resource.view v).Contains p := by
  have hinside (a : Aspect) (ha : a ∈ v.image.info.format.aspects.toList) :
      (Resource.view v).Contains ⟨v.image.block, v.offset a 0 0⟩ :=
    ⟨rfl, h.offset_lt ha h.levelCount_pos h.layerCount_pos⟩
  simp only [ofView] at hp
  split at hp
  case isTrue hboth =>
    rcases hp with hp | hp
    · exact Option.some.inj hp ▸ hinside _ h.primaryAspect_mem
    · refine Option.some.inj hp ▸ hinside _ ?_
      rw [AspectSet.mem_toList, ← h.formatAspects]
      simp [AspectSet.contains, AspectSet.single, hboth.2]
  case isFalse =>
    rcases hp with hp | hp
    · exact Option.some.inj hp ▸ hinside _ h.primaryAspect_mem
    · cases hp

theorem BufferView.Valid.contains {v : BufferView} (h : v.Valid) :
    (Resource.bufferView v).Contains ⟨v.buffer.block, v.range.start⟩ :=
  ⟨rfl, h.range.1.trans_le h.range.2⟩

/-- The faces of a texture that shows a view lie in the memory of the image. -/
theorem SampledRecord.contains_ofView {v : ImageView} (h : v.Valid) {l : TextureLevel}
    (hl : l ∈ (ofView v).levels) {p : Pointer} (hp : some p ∈ l.faces) :
    (Resource.view v).Contains p := by
  obtain ⟨index, -, rfl⟩ := List.mem_map.mp hl
  obtain ⟨face, hface, hp⟩ := List.mem_map.mp hp
  rw [Option.ite_none_right_eq_some] at hp
  obtain ⟨hcube, hp⟩ := hp
  have hlevel : min index (v.levelCount - 1) < v.levelCount := by
    have hpos := h.levelCount_pos
    omega
  have hlayer : face < v.layerCount := by
    rcases hcube with rfl | hcube
    · exact h.layerCount_pos
    · have hsix := Nat.le_of_dvd h.layerCount_pos (h.six_dvd_layerCount hcube)
      exact (List.mem_range.mp hface).trans_le hsix
  rw [← Option.some.inj hp]
  exact ⟨rfl, h.offset_lt h.primaryAspect_mem hlevel hlayer⟩

theorem SampledRecord.contains_ofBufferView {v : BufferView} (h : v.Valid) {l : TextureLevel}
    (hl : l ∈ (ofBufferView v).levels) {p : Pointer} (hp : some p ∈ l.faces) :
    (Resource.bufferView v).Contains p := by
  rw [List.eq_of_mem_replicate hl] at hp
  simp only [List.mem_cons, Option.some.injEq, List.mem_replicate, reduceCtorEq, and_false,
    or_false] at hp
  rw [hp]
  exact h.contains

namespace DescriptorSet

/-! ## Views and memory -/

/-- What a record points into, and the view that it names, are kept with it.  Records of samplers
have neither. -/
structure ViewKept (b : LayoutBinding) (d : SetData) (o : Nat) (kept : Option (List Resource)) :
    Prop where
  pointers : ∀ kind, b.kind.record? = some kind → ∀ p, some p ∈ kind.pointers d o →
    b.kind ≠ .sampler ∧ ∃ x ∈ kept.getD [], x.Contains p
  view : b.kind.record? = some .sampled → (SampledRecord.read d o).view ≠ 0 →
    b.kind ≠ .sampler ∧
      ∃ x ∈ kept.getD [], ∃ id, x.viewId? = some id ∧ (SampledRecord.read d o).view = wordOf id

theorem local_viewKept : DescriptorProperty.Local ViewKept := by
  intro b d d' o o' kept hcells h
  refine ⟨fun kind hkind p hp => ?_, fun hkind => ?_⟩
  · rw [LayoutBinding.stride_of_record? hkind] at hcells
    rw [RecordKind.pointers_congr hcells] at hp
    exact h.pointers kind hkind p hp
  · rw [LayoutBinding.stride_of_record? hkind] at hcells
    rw [SampledRecord.view_congr hcells]
    exact h.view hkind

/-- New records refer to no view and point nowhere. -/
theorem viewKept_zeroed (b : LayoutBinding) (o size : Nat) : ViewKept b (.zeroed size) o none := by
  refine ⟨fun kind _ p hp => absurd hp (kind.some_notMem_pointers_zeroed o size p), fun _ h => ?_⟩
  rw [SampledRecord.read_view] at h
  exact absurd (SetData.word_of_cell (SetData.cell_zeroed size _)) h

theorem viewKept_writeSampler {b : LayoutBinding} (x : Sampler) {d : SetData} {o : Nat}
    (ho : 4 ∣ o) (hkind : b.kind.record? = some .sampled) {kept : Option (List Resource)}
    (h : ViewKept b d o kept) : ViewKept b (SampledRecord.writeSampler x d o) o kept := by
  refine ⟨fun kind hkind' p hp => ?_, fun _ => ?_⟩
  · cases hkind.symm.trans hkind'
    rw [RecordKind.pointers_writeSampler x d ho] at hp
    exact h.pointers _ hkind p hp
  · rw [SampledRecord.view_writeSampler x d ho]
    exact h.view hkind

/-- A view whose contents lie in the memory of a resource is kept by it. -/
theorem viewKept_writeView {b : LayoutBinding} (hkind : b.kind.record? = some .sampled)
    (hsampler : b.kind ≠ .sampler) {id : Nat} {c : SampledRecord.Contents} (hc : c.Full)
    {x : Resource} (hid : x.viewId? = some id)
    (hinside : ∀ l ∈ c.levels, ∀ p, some p ∈ l.faces → x.Contains p) (d : SetData) {o : Nat}
    (ho : 4 ∣ o) {kept : List Resource} (hx : x ∈ kept) :
    ViewKept b (SampledRecord.writeView id c d o) o (some kept) := by
  refine ⟨fun kind hkind' p hp => ?_, fun _ _ => ?_⟩
  · cases hkind.symm.trans hkind'
    obtain ⟨level, hlevel, hp⟩ := List.mem_flatMap.mp hp
    obtain ⟨l, hl, hp⟩ :=
      SampledRecord.mem_faces_writeView id hc d ho (List.mem_range.mp hlevel) hp
    exact ⟨hsampler, x, hx, hinside l hl p hp⟩
  · exact ⟨hsampler, x, hx, id, hid, SampledRecord.view_writeView id hc.fits d ho⟩

/-- Storage records name no view. -/
theorem viewKept_storage {b : LayoutBinding} (hkind : b.kind.record? = some .storage) (d : SetData)
    (o : Nat) {r : StorageRecord} {x : Resource}
    (hinside : ∀ p, r.pointer = some p ∨ r.stencilPointer = some p → x.Contains p) :
    ViewKept b (d.write o r.cells) o (some [x]) := by
  refine ⟨fun kind hkind' p hp => ?_, fun hsampled => by cases hkind.symm.trans hsampled⟩
  cases hkind.symm.trans hkind'
  simp only [RecordKind.pointers, StorageRecord.read_write, List.mem_cons, List.not_mem_nil,
    or_false] at hp
  refine ⟨fun hb => ?_, x, List.mem_singleton_self x, hinside p (hp.imp Eq.symm Eq.symm)⟩
  rw [hb] at hkind
  cases hkind

/-- **Writes** keep the view whose record they write, and its memory. -/
theorem viewKept_write {b : LayoutBinding} {e : WriteElement} (he : e.Fits b)
    (hvalid : ∀ x ∈ e.resources, x.Valid) (d : SetData) {o : Nat} (ho : 4 ∣ o)
    {kept : Option (List Resource)} (h : ViewKept b d o kept) :
    ViewKept b (e.write b.kind d o) o (some e.resources) := by
  cases he with
  | @buffer r hb hrange =>
    refine ⟨fun kind hkind p hp => ?_, fun hkind => by cases hb.symm.trans hkind⟩
    cases hb.symm.trans hkind
    have hp : some p = (BufferRecord.ofRange r).pointer := by
      rw [← BufferRecord.pointer_read_write d o]
      exact List.mem_singleton.mp hp
    cases hp
    have hsampler : b.kind ≠ .sampler := by
      intro hsampler
      rw [hsampler] at hb
      cases hb
    simp only [Buffer.checkRange, ite_error_eq_ok, Span.isEmpty_eq_true, not_or, Nat.not_le,
      Nat.not_lt] at hrange
    exact ⟨hsampler, _, List.mem_singleton_self _, rfl, hrange.1.1.trans_le hrange.1.2⟩
  | @storageTexels v hb =>
    rw [WriteElement.write, if_pos hb]
    refine viewKept_storage (by rw [hb]; rfl) d o fun p hp => ?_
    have hinside := BufferView.Valid.contains (hvalid _ (List.mem_singleton_self _))
    rcases hp with hp | hp <;> cases hp
    exact hinside
  | @uniformTexels v hb =>
    rw [WriteElement.write_uniformTexels hb]
    exact viewKept_writeView (by rw [hb]; rfl) (by rw [hb]; decide)
      (SampledRecord.full_ofBufferView v) rfl (fun l hl p hp =>
        SampledRecord.contains_ofBufferView (hvalid _ (List.mem_singleton_self _)) hl hp) d ho
      (List.mem_singleton_self _)
  | @storageImage v hb =>
    rw [WriteElement.write, if_pos hb]
    refine viewKept_storage (by rcases hb with hb | hb <;> (rw [hb]; rfl)) d o fun p hp => ?_
    exact StorageRecord.contains_ofView (hvalid _ (List.mem_singleton_self _)) hp
  | @sampledImage v hb =>
    have hkind : b.kind.record? = some .sampled ∧ b.kind ≠ .sampler := by
      rcases hb with hb | ⟨hb, -⟩ <;> (rw [hb]; decide)
    rw [WriteElement.write_sampledImage hb]
    exact viewKept_writeView hkind.1 hkind.2 (SampledRecord.full_ofView v) rfl (fun l hl p hp =>
      SampledRecord.contains_ofView (hvalid _ (List.mem_singleton_self _)) hl hp) d ho
      (List.mem_singleton_self _)
  | @viewSampler v x hb hown =>
    exact viewKept_writeView (by rw [hb]; rfl) (by rw [hb]; decide) (SampledRecord.full_ofView v)
      rfl (fun l hl p hp => SampledRecord.contains_ofView (hvalid _ List.mem_cons_self) hl hp) _ ho
      List.mem_cons_self
  | @sampler x hb hown =>
    -- nothing is kept any more, but there was nothing to keep
    have hkind : b.kind.record? = some .sampled := by rw [hb]; rfl
    obtain ⟨hpointers, hview⟩ := viewKept_writeSampler x ho hkind h
    refine ⟨fun kind hkind' p hp => ?_, fun _ hne => ?_⟩
    · exact absurd hb (hpointers kind hkind' p hp).1
    · exact absurd hb (hview hkind hne).1

/-! ## Samplers -/

/-- The sampler that a record names is an immutable one of the binding or else kept with the record.
Records of images without a sampler name none. -/
def SamplerKept : DescriptorProperty := fun b d o kept =>
  b.kind.record? = some .sampled → (SampledRecord.read d o).sampler ≠ 0 →
    b.kind.holdsSampler = true ∧ ∃ y : Sampler, (SampledRecord.read d o).sampler = wordOf y.id ∧
      if b.usesImmutableSamplers then y ∈ b.immutableSamplers else .sampler y ∈ kept.getD []

theorem local_samplerKept : DescriptorProperty.Local SamplerKept := by
  intro b d d' o o' kept hcells h hkind
  rw [LayoutBinding.stride_of_record? hkind] at hcells
  rw [SampledRecord.sampler_congr hcells]
  exact h hkind

theorem samplerKept_zeroed (b : LayoutBinding) (o size : Nat) :
    SamplerKept b (.zeroed size) o none := by
  intro _ h
  rw [SampledRecord.read_sampler] at h
  exact absurd (SetData.word_of_cell (SetData.cell_zeroed size _)) h

/-- The immutable samplers of a new set are those of the layout. -/
theorem samplerKept_writeFixed {b : LayoutBinding} (huses : b.usesImmutableSamplers = true)
    {x : Sampler} (hx : x ∈ b.immutableSamplers) (d : SetData) {o : Nat} (ho : 4 ∣ o) :
    SamplerKept b (SampledRecord.writeSampler x d o) o none := by
  intro _ _
  refine ⟨?_, x, SampledRecord.sampler_writeSampler x d ho, ?_⟩
  · rw [LayoutBinding.usesImmutableSamplers, Bool.and_eq_true] at huses
    exact huses.1
  · rw [if_pos huses]
    exact hx

/-- **Writes** keep the sampler that they write, and write none where the binding has its own. -/
theorem samplerKept_write {b : LayoutBinding} {e : WriteElement} (he : e.Fits b) (d : SetData)
    {o : Nat} (ho : 4 ∣ o) {kept : Option (List Resource)} (h : SamplerKept b d o kept) :
    SamplerKept b (e.write b.kind d o) o (some e.resources) := by
  intro hkind
  cases he with
  | buffer hb => cases hb.symm.trans hkind
  | storageTexels hb =>
    rw [hb] at hkind
    cases hkind
  | storageImage hb =>
    rcases hb with hb | hb <;> (rw [hb] at hkind; cases hkind)
  | @uniformTexels v hb =>
    rw [WriteElement.write_uniformTexels hb,
      SampledRecord.sampler_writeView _ (SampledRecord.fits_ofBufferView v) d ho]
    intro hne
    obtain ⟨hholds, -⟩ := h hkind hne
    rw [hb] at hholds
    cases hholds
  | @sampledImage v hb =>
    rw [WriteElement.write_sampledImage hb,
      SampledRecord.sampler_writeView _ (SampledRecord.fits_ofView v) d ho]
    intro hne
    obtain ⟨hholds, y, hy, hmem⟩ := h hkind hne
    rcases hb with hb | ⟨hb, huses⟩
    · rw [hb] at hholds
      cases hholds
    · rw [if_pos huses] at hmem
      exact ⟨hholds, y, hy, by rwa [if_pos huses]⟩
  | @viewSampler v x hb hown =>
    intro _
    refine ⟨by rw [hb]; rfl, x, ?_, ?_⟩
    · rw [WriteElement.write, SampledRecord.sampler_writeView _ (SampledRecord.fits_ofView v) _ ho]
      exact SampledRecord.sampler_writeSampler x d ho
    · rw [if_neg (by rw [hown]; decide)]
      exact List.mem_cons_of_mem _ (List.mem_singleton_self _)
  | @sampler x hb hown =>
    intro _
    refine ⟨by rw [hb]; rfl, x, SampledRecord.sampler_writeSampler x d ho, ?_⟩
    rw [if_neg (by rw [hown]; decide)]
    exact List.mem_singleton_self _

/-! ## What is kept -/

/-- A record names the view and the sampler that are kept with it. -/
def NamesKept : DescriptorProperty := fun b d o kept =>
  b.kind.record? = some .sampled → ∀ x ∈ kept.getD [],
    (∀ id, x.viewId? = some id → (SampledRecord.read d o).view = wordOf id) ∧
    ∀ y, x = .sampler y → (SampledRecord.read d o).Holds y

theorem local_namesKept : DescriptorProperty.Local NamesKept := by
  intro b d d' o o' kept hcells h hkind x hx
  rw [LayoutBinding.stride_of_record? hkind] at hcells
  rw [SampledRecord.view_congr hcells]
  refine ⟨(h hkind x hx).1, fun y hy => ?_⟩
  exact (SampledRecord.holds_congr hcells).mpr ((h hkind x hx).2 y hy)

/-- **Writes** name what they keep. -/
theorem namesKept_write {b : LayoutBinding} {e : WriteElement} (he : e.Fits b) (d : SetData)
    {o : Nat} (ho : 4 ∣ o) : NamesKept b (e.write b.kind d o) o (some e.resources) := by
  intro hkind x hx
  cases he with
  | buffer hb => cases hb.symm.trans hkind
  | storageTexels hb =>
    rw [hb] at hkind
    cases hkind
  | storageImage hb => rcases hb with hb | hb <;> (rw [hb] at hkind; cases hkind)
  | @uniformTexels v hb =>
    rw [WriteElement.write_uniformTexels hb]
    obtain rfl := List.mem_singleton.mp hx
    refine ⟨?_, fun _ hy => by cases hy⟩
    rintro _ ⟨⟩
    exact SampledRecord.view_writeView _ (SampledRecord.fits_ofBufferView v) d ho
  | @sampledImage v hb =>
    rw [WriteElement.write_sampledImage hb]
    obtain rfl := List.mem_singleton.mp hx
    refine ⟨?_, fun _ hy => by cases hy⟩
    rintro _ ⟨⟩
    exact SampledRecord.view_writeView _ (SampledRecord.fits_ofView v) d ho
  | @viewSampler v y hb hown =>
    have hview := SampledRecord.view_writeView v.id (SampledRecord.fits_ofView v)
      (SampledRecord.writeSampler y d o) ho
    have hholds := (SampledRecord.holds_writeView v.id (SampledRecord.fits_ofView v) _ ho).mpr
      (SampledRecord.holds_writeSampler y d ho)
    rcases List.mem_cons.mp hx with rfl | hx
    · refine ⟨?_, fun _ hy => by cases hy⟩
      rintro _ ⟨⟩
      exact hview
    · obtain rfl := List.mem_singleton.mp hx
      refine ⟨fun _ hid => (by cases hid), ?_⟩
      rintro _ ⟨⟩
      exact hholds
  | @sampler y hb hown =>
    obtain rfl := List.mem_singleton.mp hx
    refine ⟨fun _ hid => (by cases hid), ?_⟩
    rintro _ ⟨⟩
    exact SampledRecord.holds_writeSampler y d ho

/-! ## Sets -/

variable {s s' : DescriptorSet}

/-- New sets keep what they refer to. -/
theorem kept_of_create {layout : SetLayout} (hfit : ∀ b ∈ layout.bindings, b.SamplersFit)
    {place : Option PoolPlace} (h : create layout place = .ok s) :
    s.Each ViewKept ∧ s.Each SamplerKept := by
  constructor
  · refine each_of_create local_viewKept hfit (fun b o _ => viewKept_zeroed b o 0) ?_ h
    intro b _ o huses ho x _
    refine viewKept_writeSampler x ho ?_ (viewKept_zeroed b o 0)
    rcases LayoutBinding.kind_of_usesImmutableSamplers huses with hkind | hkind <;>
      (rw [hkind]; rfl)
  · exact each_of_create local_samplerKept hfit (fun b o _ => samplerKept_zeroed b o 0)
      (fun b _ o huses ho x hx => samplerKept_writeFixed huses hx _ ho) h

/-- New sets keep nothing that they could name. -/
theorem namesKept_of_create {layout : SetLayout} (hfit : ∀ b ∈ layout.bindings, b.SamplersFit)
    {place : Option PoolPlace} (h : create layout place = .ok s) : s.Each NamesKept :=
  each_of_create local_namesKept hfit (fun _ _ _ _ _ hx => absurd hx List.not_mem_nil)
    (fun _ _ _ _ _ _ _ _ _ hx => absurd hx List.not_mem_nil) h

variable {writes : List DescriptorWrite} {copies : List DescriptorCopy}

/-- **Updates** name what they keep. -/
theorem namesKept_update (h : s.Each NamesKept) (hupdate : s.update writes copies = .ok s')
    (hsources : ∀ c ∈ copies, ∀ source, c.source = some source → source.Each NamesKept) :
    s'.Each NamesKept := by
  refine h.update local_namesKept hupdate ?_ hsources ?_
  · exact fun w _ b e _ hfits d o kept ho _ => namesKept_write hfits d ho
  · exact fun c _ b b' _ _ hkinds d o kept hnames hkind => hnames (hkinds ▸ hkind)

/-- **Updates** keep views and memory. -/
theorem viewKept_update (h : s.Each ViewKept) (hupdate : s.update writes copies = .ok s')
    (hvalid : ∀ w ∈ writes, ∀ e ∈ w.elements.toList, ∀ x ∈ e.resources, x.Valid)
    (hsources : ∀ c ∈ copies, ∀ source, c.source = some source → source.Each ViewKept) :
    s'.Each ViewKept := by
  refine h.update local_viewKept hupdate ?_ hsources ?_
  · exact fun w hw b e he hfits d o kept ho hkept =>
      viewKept_write hfits (hvalid w hw e he) d ho hkept
  · rintro c _ b b' _ _ hkinds d o kept ⟨hpointers, hview⟩
    rw [hkinds] at hpointers hview
    exact ⟨hpointers, hview⟩

/-- Updates keep samplers if they do not copy between bindings with different immutable samplers. -/
theorem samplerKept_update (h : s.Each SamplerKept) (hupdate : s.update writes copies = .ok s')
    (hsources : ∀ c ∈ copies, ∀ source, c.source = some source → source.Each SamplerKept)
    (hsame : ∀ c ∈ copies, ∀ b b',
      (c.source.elim s.layout (·.layout)).find? c.srcBinding = some b →
      s.layout.find? c.dstBinding = some b' →
      b.usesImmutableSamplers = true ∨ b'.usesImmutableSamplers = true →
      b.immutableSamplers = b'.immutableSamplers) : s'.Each SamplerKept := by
  refine h.update local_samplerKept hupdate ?_ hsources ?_
  · exact fun w _ b e _ hfits d o kept ho hkept => samplerKept_write hfits d ho hkept
  · intro c hc b b' hb hb' hkinds d o kept hkept hkind hne
    obtain ⟨hholds, y, hy, hmem⟩ := hkept (hkinds ▸ hkind) hne
    refine ⟨hkinds ▸ hholds, y, hy, ?_⟩
    -- the record of an immutable sampler has nothing kept with it that the copy could take along
    by_cases huses : b.usesImmutableSamplers = true ∨ b'.usesImmutableSamplers = true
    · have hlists := hsame c hc b b' hb hb' huses
      have hboth : b.usesImmutableSamplers = b'.usesImmutableSamplers := by
        rw [LayoutBinding.usesImmutableSamplers, LayoutBinding.usesImmutableSamplers, hkinds,
          hlists]
      rwa [hboth, hlists] at hmem
    · rw [not_or] at huses
      rw [if_neg huses.1] at hmem
      rwa [if_neg huses.2]

end DescriptorSet

end HostGpu
