import HostGpu.Proofs.Descriptor.Update
import HostGpu.Proofs.Descriptor.ViewRecord
import HostGpu.Proofs.Image.MipChain
import HostGpu.Proofs.Texel.StorageView

/-!
# Extents of views in descriptors

Both kinds of image records have three sides.  The last one is the depth of a volume, the number of
cubes, or the number of layers, so that it says nothing without the kind of the view
(`ImageView.sidesInRecord`).  Storage records have these sides as soon as they describe a view, and
sampled records for as long as the view is kept with them (`DescriptorSet.ShowsView`).
-/

namespace HostGpu

namespace ImageView

variable {v : ImageView}

theorem levelExtent_eq (v : ImageView) (level : Nat) :
    v.levelExtent level = (v.levelExtent 0).level level :=
  (Extent.level_level _ _ _).symm

/-! ## Sides -/

/-- The sides of a level, one for each coordinate within a layer. -/
def sides (v : ImageView) (level : Nat) : List Nat :=
  (v.levelExtent level).toList.take v.kind.dimensions

/-- The length of an array: its number of layers, or of cubes.  Other views have none. -/
def arrayLength (v : ImageView) : List Nat :=
  if v.kind.isArrayed then [if v.kind.isCube then v.layerCount / 6 else v.layerCount] else []

/-- The three sides that descriptors have. -/
def sidesInRecord (v : ImageView) : List Nat :=
  [(v.levelExtent 0).width, (v.levelExtent 0).height,
    if v.kind.isCube then v.layerCount / 6
    else if 2 < v.kind.dimensions then (v.levelExtent 0).depth else v.layerCount]

theorem sides_eq (v : ImageView) (level : Nat) :
    v.sides level = (v.sides 0).map fun n => max (n >>> level) 1 := by
  rw [sides, sides, List.map_take, levelExtent_eq v level]
  rfl

theorem one_le_of_mem_sides {level n : Nat} (h : n ∈ v.sides level) : 1 ≤ n :=
  Extent.level_pos _ _ n (List.mem_of_mem_take h)

/-- The sides of the first level stand first. -/
theorem take_sidesInRecord (v : ImageView) :
    v.sidesInRecord.take v.kind.dimensions = v.sides 0 := by
  rw [sides, sidesInRecord, Extent.toList]
  cases v.kind <;> rfl

/-- The length of an array stands last. -/
theorem drop_sidesInRecord (v : ImageView) :
    (v.sidesInRecord.drop 2).take (if v.kind.isArrayed then 1 else 0) = v.arrayLength := by
  rw [arrayLength, sidesInRecord]
  cases v.kind <;> rfl

namespace Valid

theorem arrayCount_le (h : v.Valid) : v.layerCount ≤ StorageView.maxBytes :=
  StorageView.Valid.layerCount_le (v := .image v) h

/-- Sides are read the same with and without sign. -/
theorem sidesInRecord_lt (h : v.Valid) : ∀ n ∈ v.sidesInRecord, n < 2 ^ 31 := by
  have hmax : StorageView.maxBytes = 2 ^ 30 := rfl
  obtain ⟨hwidth, hheight, hdepth⟩ := StorageView.Valid.extent_le (v := .image v) h
  have hlayers := h.arrayCount_le
  have hcubes := Nat.div_le_self v.layerCount 6
  simp only [StorageView.extent] at hwidth hheight hdepth
  simp only [sidesInRecord, List.mem_cons, List.not_mem_nil, or_false, forall_eq_or_imp, forall_eq]
  refine ⟨by omega, by omega, ?_⟩
  split
  · omega
  · split <;> omega

theorem sides_lt (h : v.Valid) (level : Nat) : ∀ n ∈ v.sides level, n < 2 ^ 31 := by
  intro n hn
  rw [v.sides_eq] at hn
  obtain ⟨side, hside, rfl⟩ := List.mem_map.mp hn
  rw [← v.take_sidesInRecord] at hside
  have hlt := h.sidesInRecord_lt side (List.mem_of_mem_take hside)
  have hle : side >>> level ≤ side := Nat.shiftRight_le _ _
  omega

end Valid

end ImageView

/-! ## Records -/

namespace StorageRecord

/-- The sides and the samples of a storage record are those of its view. -/
theorem extent_ofView {v : ImageView} (h : v.Valid) :
    [(ofView v).width, (ofView v).height, (ofView v).depth] = v.sidesInRecord.map wordOf ∧
      (ofView v).sampleCount = wordOf v.samples.count := by
  have hdepth := h.max_depth_layerCount
  simp only [ofView, ImageView.sidesInRecord, hdepth]
  split <;> exact ⟨rfl, rfl⟩

end StorageRecord

namespace SampledRecord

/-- A record shows a view: it reads as it does after the view was written over it. -/
def Shows (r : SampledRecord) (v : ImageView) : Prop := r = ofContents v.id (ofView v) r

theorem shows_ofContents (v : ImageView) (old : SampledRecord) :
    (ofContents v.id (ofView v) old).Shows v := rfl

/-- The sides and the counts of a record that shows a view. -/
theorem Shows.extent {r : SampledRecord} {v : ImageView} (h : r.Shows v) :
    [r.width, r.height, r.depth] = v.sidesInRecord.map wordOf ∧
      r.mipLevels = wordOf v.levelCount ∧ r.sampleCount = wordOf v.samples.count := by
  rw [h]
  refine ⟨?_, rfl, rfl⟩
  simp only [ofContents, ofView, ImageView.sidesInRecord]
  cases v.kind <;> rfl

end SampledRecord

/-! ## Descriptors -/

namespace DescriptorSet

open SampledRecord

/-- The sampled record of a descriptor shows the view that is kept with it. -/
def ShowsView : DescriptorProperty := fun b d o kept => b.kind.record? = some .sampled →
  ∀ v, .view v ∈ kept.getD [] → (read d o).Shows v

theorem local_showsView : DescriptorProperty.Local ShowsView := by
  intro b d d' o o' kept hcells h hkind v hv
  rw [LayoutBinding.stride_of_record? hkind] at hcells
  rw [read_congr hcells]
  exact h hkind v hv

/-- Writing a view writes all that shows it, and nothing else that is written comes with a view. -/
theorem showsView_write {b : LayoutBinding} {e : WriteElement} (he : e.Fits b) (d : SetData)
    {o : Nat} (ho : 4 ∣ o) : ShowsView b (e.write b.kind d o) o (some e.resources) := by
  intro hkind v hv
  obtain ⟨d', hwrite⟩ := he.exists_writeView hkind hv d o
  rw [hwrite, read_writeView v.id (full_ofView v).fits d' ho]
  exact shows_ofContents v _

variable {s s' : DescriptorSet}

theorem showsView_of_create {layout : SetLayout} (hfit : ∀ b ∈ layout.bindings, b.SamplersFit)
    {place : Option PoolPlace} (h : create layout place = .ok s) : s.Each ShowsView :=
  each_of_create local_showsView hfit (fun _ _ _ _ _ hv => absurd hv List.not_mem_nil)
    (fun _ _ _ _ _ _ _ _ _ hv => absurd hv List.not_mem_nil) h

/-- **Updates** keep sampled records those of their views. -/
theorem showsView_update {writes : List DescriptorWrite} {copies : List DescriptorCopy}
    (h : s.Each ShowsView) (hupdate : s.update writes copies = .ok s')
    (hsources : ∀ c ∈ copies, ∀ source, c.source = some source → source.Each ShowsView) :
    s'.Each ShowsView := by
  refine Each.update local_showsView h hupdate ?_ hsources ?_
  · exact fun w _ b e _ he d o _ ho _ => showsView_write he d ho
  · exact fun c _ b b' _ _ hkinds d o kept hshows hkind => hshows (hkinds ▸ hkind)

end DescriptorSet

end HostGpu
