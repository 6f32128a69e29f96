import HostGpu.Proofs.Descriptor.FixedSamplers
import HostGpu.Proofs.Descriptor.ViewRecord

/-!
# Writes and what was there before

What a write sets in a record is the same whatever the record held: as after the same write to a
record of zeros.  There is one exception.  The scaled sides of a texture's levels are only meant for
floating point formats, and a view of any other format leaves those of an earlier view where they
are (`DescriptorSet.writes_forget_history`).
-/

namespace HostGpu

open Outcome

/-! ## The part of a record that is written -/

namespace LevelRecord

/-- A level without its scaled sides. -/
def withoutSides (r : LevelRecord) : LevelRecord :=
  { r with floatWidth := [], floatHeight := [], floatDepth := [] }

/-- The scaled sides of a level. -/
def sides (r : LevelRecord) : List UInt32 := r.floatWidth ++ r.floatHeight ++ r.floatDepth

theorem withoutSides_ofLevel (l : TextureLevel) (old old' : LevelRecord) :
    (ofLevel l old).withoutSides = (ofLevel l old').withoutSides := rfl

theorem ofLevel_of_isFloat {l : TextureLevel} (h : l.geometry.isFloat = true)
    (old old' : LevelRecord) : ofLevel l old = ofLevel l old' := by
  simp only [ofLevel, h, if_true]

theorem sides_ofLevel_of_isFloat {l : TextureLevel} (h : l.geometry.isFloat = true)
    (old : LevelRecord) : (ofLevel l old).sides = l.sides := by
  simp only [ofLevel, sides, h, if_true, TextureLevel.sides]

theorem sides_ofLevel {l : TextureLevel} (h : l.geometry.isFloat = false) (old : LevelRecord) :
    (ofLevel l old).sides = old.sides := by
  simp [ofLevel, sides, h]

end LevelRecord

/-- A sampled record without its sampler and the range that comes with it. -/
def SampledRecord.withoutSampler (r : SampledRecord) : SampledRecord :=
  { r with sampler := 0, minLod := 0, maxLod := 0 }

/-- What a record holds in the places that are written for an element. -/
inductive RecordPart where
  | buffer (record : BufferRecord)
  | storage (record : StorageRecord)
  | sampler (sampler minLod maxLod : UInt32)
  | texture (record : SampledRecord) (levels : List LevelRecord)
deriving DecidableEq, Repr

namespace RecordPart

/-- The levels of a texture. -/
def readLevels (d : SetData) (offset : Nat) : List LevelRecord :=
  (List.range maxLevels).map (SampledRecord.readLevel d offset)

/-- A texture but for the sampler and its range. -/
def readView (d : SetData) (offset : Nat) : RecordPart :=
  .texture (SampledRecord.read d offset).withoutSampler (readLevels d offset)

theorem readLevels_congr {d d' : SetData} {o o' : Nat}
    (h : ∀ j < 988, d'.cell (o' / 4 + j) = d.cell (o / 4 + j)) :
    readLevels d' o' = readLevels d o := by
  have hmax : maxLevels = 15 := rfl
  refine List.map_congr_left fun level hlevel => SampledRecord.readLevel_congr fun j hj => h _ ?_
  have := List.mem_range.mp hlevel
  omega

theorem readView_congr {d d' : SetData} {o o' : Nat}
    (h : ∀ j < 988, d'.cell (o' / 4 + j) = d.cell (o / 4 + j)) :
    readView d' o' = readView d o := by
  rw [readView, readView, SampledRecord.read_congr h, readLevels_congr h]

/-- A part but for scaled sides. -/
def withoutSides : RecordPart → RecordPart
  | texture record levels => .texture record (levels.map LevelRecord.withoutSides)
  | part => part

end RecordPart

namespace WriteElement

/-- The part of a record that is written for an element of a binding of a given kind. -/
def part (e : WriteElement) (kind : DescriptorKind) (d : SetData) (offset : Nat) : RecordPart :=
  match e with
  | buffer _ => .buffer (BufferRecord.read d offset)
  | bufferView _ =>
    if kind = .storageTexelBuffer then .storage (StorageRecord.read d offset)
    else .readView d offset
  | view _ =>
    if kind = .storageImage ∨ kind = .inputAttachment then .storage (StorageRecord.read d offset)
    else .readView d offset
  | viewSampler _ _ => .texture (SampledRecord.read d offset) (RecordPart.readLevels d offset)
  | sampler _ =>
    let r := SampledRecord.read d offset
    .sampler r.sampler r.minLod r.maxLod

/-- Whether a texture is written that has no scaled sides. -/
def leavesSides (e : WriteElement) (kind : DescriptorKind) : Bool :=
  match e with
  | bufferView v => kind ≠ .storageTexelBuffer && !v.format.isFloat
  | view v => !(kind = .storageImage || kind = .inputAttachment) && !v.primaryFormat.isFloat
  | viewSampler v _ => !v.primaryFormat.isFloat
  | buffer _ | sampler _ => false

end WriteElement

namespace SampledRecord

variable {o : Nat} {c : Contents}

/-- What the levels of a view leave of the levels before them. -/
theorem map_readLevels_writeView {α : Type} (id : Nat) (hc : c.Full) (h : 4 ∣ o)
    {f : LevelRecord → α}
    (hf : ∀ l ∈ c.levels, ∀ old old', f (.ofLevel l old) = f (.ofLevel l old')) (d d' : SetData) :
    (RecordPart.readLevels (writeView id c d o) o).map f =
      (RecordPart.readLevels (writeView id c d' o) o).map f := by
  rw [RecordPart.readLevels, RecordPart.readLevels, List.map_map, List.map_map]
  refine List.map_congr_left fun level hlevel => ?_
  have hlt : level < c.levels.length := hc.levels ▸ List.mem_range.mp hlevel
  have hl := List.getElem?_eq_getElem hlt
  rw [Function.comp_apply, Function.comp_apply, readLevel_writeView id hc d h hl,
    readLevel_writeView id hc d' h hl]
  exact hf _ (List.mem_of_getElem? hl) _ _

theorem cell_writeLevels_congr (o : Nat) {index : Nat} {levels : List TextureLevel}
    {d d' : SetData} {j : Nat} (h : d'.cell j = d.cell j) :
    (writeLevels d' o index levels).cell j = (writeLevels d o index levels).cell j := by
  induction levels generalizing d d' index with
  | nil => exact h
  | cons l rest ih =>
    refine ih ?_
    rw [TextureLevel.write_eq, TextureLevel.write_eq]
    refine SetData.cell_write_congr ?_ _ _
    rw [TextureLevel.writeSides, TextureLevel.writeSides]
    split
    · exact SetData.cell_write_congr (SetData.cell_write_congr h _ _) _ _
    · exact SetData.cell_write_congr h _ _

theorem cell_writeView_congr (id : Nat) (c : Contents) {d d' : SetData} {j : Nat}
    (h : d'.cell j = d.cell j) :
    (writeView id c d' o).cell j = (writeView id c d o).cell j := by
  rw [writeView_eq, writeView_eq]
  refine SetData.cell_write_congr (SetData.cell_write_congr ?_ _ _) _ _
  exact cell_writeLevels_congr o (SetData.cell_write_congr h _ _)

/-- Contents whose levels all have scaled sides, or all have none. -/
def Contents.AllFloat (c : Contents) (isFloat : Bool) : Prop :=
  ∀ l ∈ c.levels, l.geometry.isFloat = isFloat

theorem allFloat_ofView (v : ImageView) : (ofView v).AllFloat v.primaryFormat.isFloat := by
  intro l hl
  obtain ⟨index, -, rfl⟩ := List.mem_map.mp hl
  rfl

theorem allFloat_ofBufferView (v : BufferView) : (ofBufferView v).AllFloat v.format.isFloat := by
  intro l hl
  rw [List.eq_of_mem_replicate hl]

/-- Records differ after a view was written in the sampler's part alone. -/
theorem ofContents_congr (id : Nat) (c : Contents) {r r' : SampledRecord}
    (hmin : r.minLod = r'.minLod) (hmax : r.maxLod = r'.maxLod) (hsampler : r.sampler = r'.sampler) :
    ofContents id c r = ofContents id c r' := by
  simp only [ofContents, hmin, hmax, hsampler]

theorem ofContents_writeSampler (id : Nat) (c : Contents) (x : Sampler) (h : 4 ∣ o)
    (d d' : SetData) : ofContents id c (read (writeSampler x d o) o) =
      ofContents id c (read (writeSampler x d' o) o) := by
  obtain ⟨hsampler, hmin, hmax⟩ := holds_writeSampler x d h
  obtain ⟨hsampler', hmin', hmax'⟩ := holds_writeSampler x d' h
  exact ofContents_congr id c (hmin.trans hmin'.symm) (hmax.trans hmax'.symm)
    (hsampler.trans hsampler'.symm)

theorem readLevels_writeView (id : Nat) (hc : c.Full) (hfloat : c.AllFloat true) (h : 4 ∣ o)
    (d d' : SetData) : RecordPart.readLevels (writeView id c d o) o =
      RecordPart.readLevels (writeView id c d' o) o := by
  have hlevels := map_readLevels_writeView (f := fun l => l) id hc h
    (fun l hl => LevelRecord.ofLevel_of_isFloat (hfloat l hl)) d d'
  rwa [List.map_id', List.map_id'] at hlevels

/-- Levels without scaled sides leave those that were there. -/
theorem sides_writeView (id : Nat) (hc : c.Full) (hfloat : c.AllFloat false) (h : 4 ∣ o)
    (d : SetData) {level : Nat} (hlevel : level < maxLevels) :
    (readLevel (writeView id c d o) o level).sides = (readLevel d o level).sides := by
  have hl := List.getElem?_eq_getElem (hc.levels ▸ hlevel : level < c.levels.length)
  rw [readLevel_writeView id hc d h hl]
  exact LevelRecord.sides_ofLevel (hfloat _ (List.mem_of_getElem? hl)) _

end SampledRecord

/-! ## One element -/

namespace WriteElement

open SampledRecord

/-- What a write of an element makes of two records is the same in the part that it sets, scaled
sides aside; these are the same as well, or are left as they were. -/
structure Forgets (e : WriteElement) (kind : DescriptorKind) (o : Nat) : Prop where
  alike : ∀ d d', (e.part kind (e.write kind d o) o).withoutSides =
    (e.part kind (e.write kind d' o) o).withoutSides
  whole : e.leavesSides kind = false → ∀ d d',
    e.part kind (e.write kind d o) o = e.part kind (e.write kind d' o) o
  left : e.leavesSides kind = true → ∀ d, ∀ level < maxLevels,
    (readLevel (e.write kind d o) o level).sides = (readLevel d o level).sides

variable {b : LayoutBinding} {e : WriteElement} {o : Nat}

/-- Other parts than textures have no scaled sides. -/
theorem Forgets.of_eq (hleaves : e.leavesSides b.kind = false)
    (h : ∀ d d', e.part b.kind (e.write b.kind d o) o = e.part b.kind (e.write b.kind d' o) o) :
    e.Forgets b.kind o where
  alike d d' := congrArg RecordPart.withoutSides (h d d')
  whole _ := h
  left htrue := absurd (htrue.symm.trans hleaves) (by decide)

/-- A view is written to a texture that was made ready for it, and what is read of the texture
beside its levels does not depend on what was there. -/
theorem Forgets.of_view {id : Nat} {c : Contents} {isFloat : Bool}
    {f : SampledRecord → SampledRecord} {g : SetData → SetData} (ho : 4 ∣ o) (hc : c.Full)
    (hfloat : c.AllFloat isFloat) (hleaves : e.leavesSides b.kind = !isFloat)
    (hpart : ∀ d, e.part b.kind d o = .texture (f (read d o)) (RecordPart.readLevels d o))
    (hwrite : ∀ d, e.write b.kind d o = writeView id c (g d) o)
    (hrecord : ∀ d d', f (ofContents id c (read (g d) o)) =
      f (ofContents id c (read (g d') o)))
    (hsides : ∀ d, ∀ level < maxLevels,
      (readLevel (g d) o level).sides = (readLevel d o level).sides) :
    e.Forgets b.kind o := by
  have hparts (d : SetData) : e.part b.kind (e.write b.kind d o) o =
      .texture (f (ofContents id c (read (g d) o)))
        (RecordPart.readLevels (writeView id c (g d) o) o) := by
    rw [hwrite, hpart, read_writeView id hc.fits _ ho]
  refine ⟨fun d d' => ?_, fun h d d' => ?_, fun h d level hlevel => ?_⟩
  · have hlevels := map_readLevels_writeView id hc ho
      (fun l _ => LevelRecord.withoutSides_ofLevel l) (g d) (g d')
    rw [hparts, hparts, RecordPart.withoutSides, RecordPart.withoutSides, hlevels, hrecord d d']
  · obtain rfl : isFloat = true := by simpa [h] using hleaves.symm
    rw [hparts, hparts, readLevels_writeView id hc hfloat ho (g d) (g d'), hrecord d d']
  · obtain rfl : isFloat = false := by simpa [h] using hleaves.symm
    rw [hwrite, sides_writeView id hc hfloat ho _ hlevel]
    exact hsides d level hlevel

/-- **An element that fits a binding** is written over anything alike. -/
theorem Fits.forgets (he : e.Fits b) (ho : 4 ∣ o) : e.Forgets b.kind o := by
  cases he with
  | @buffer r hb =>
    refine .of_eq rfl fun d d' => ?_
    simp only [part, write, BufferRecord.read_write]
  | @storageTexels v hb =>
    refine .of_eq (by rw [hb]; rfl) fun d d' => ?_
    simp only [part, write, hb, if_true, StorageRecord.read_write]
  | @storageImage v hb =>
    refine .of_eq (by rcases hb with hb | hb <;> (rw [hb]; rfl)) fun d d' => ?_
    simp only [part, write, hb, if_true, StorageRecord.read_write]
  | @sampler x hb =>
    refine .of_eq rfl fun d d' => ?_
    obtain ⟨hsampler, hmin, hmax⟩ := holds_writeSampler x d ho
    obtain ⟨hsampler', hmin', hmax'⟩ := holds_writeSampler x d' ho
    simp only [part, write, hsampler, hmin, hmax, hsampler', hmin', hmax']
  | @uniformTexels v hb =>
    exact .of_view (f := withoutSampler) ho (full_ofBufferView v) (allFloat_ofBufferView v)
      (by rw [hb]; rfl) (fun d => by rw [hb]; rfl) (write_uniformTexels hb v · o) (fun _ _ => rfl)
      fun _ _ _ => rfl
  | @sampledImage v hb =>
    have hplain : ¬ (b.kind = .storageImage ∨ b.kind = .inputAttachment) := by
      rcases hb with hb | ⟨hb, -⟩ <;> (rw [hb]; decide)
    exact .of_view (f := withoutSampler) ho (full_ofView v) (allFloat_ofView v)
      (by simp [leavesSides, not_or.mp hplain]) (fun d => if_neg hplain)
      (write_sampledImage hb v · o) (fun _ _ => rfl) fun _ _ _ => rfl
  | @viewSampler v x hb hown =>
    exact .of_view (f := id) ho (full_ofView v) (allFloat_ofView v) rfl (fun d => rfl)
      (fun d => rfl) (fun d d' => ofContents_writeSampler _ _ x ho d d')
      fun d level hlevel => by rw [readLevel_writeSampler x d ho hlevel]

/-! ## Elements in their set -/

/-- What a cell holds after a write depends on what it held before, and on no other cell. -/
theorem cell_write_congr (e : WriteElement) (kind : DescriptorKind) {d d' : SetData} {j : Nat}
    (h : d'.cell j = d.cell j) (o : Nat) :
    (e.write kind d' o).cell j = (e.write kind d o).cell j := by
  cases e with
  | buffer r => exact SetData.cell_write_congr h _ _
  | sampler x => exact cell_writeSampler_congr x h
  | viewSampler v x => exact cell_writeView_congr _ _ (cell_writeSampler_congr x h)
  | bufferView v =>
    rw [write, write]
    split
    · exact SetData.cell_write_congr h _ _
    · exact cell_writeView_congr _ _ h
  | view v =>
    rw [write, write]
    split
    · exact SetData.cell_write_congr h _ _
    · exact cell_writeView_congr _ _ h

end WriteElement

namespace DescriptorWrite

variable {s : DescriptorSet} {b : LayoutBinding} {offset first i : Nat} {list : List WriteElement}
  {e : WriteElement}

/-- Elements are written within the bytes of their records. -/
theorem writesOnly_applyFrom (hfits : ∀ e ∈ list, e.Fits b) (ho : 4 ∣ offset) :
    s.data.WritesOnly (applyFrom b offset first s list).data offset (b.stride * list.length) := by
  induction list generalizing offset first s with
  | nil => exact .refl _ _ _
  | cons e rest ih =>
    rw [List.forall_mem_cons] at hfits
    have hnext : 4 ∣ offset + b.stride :=
      Nat.dvd_add ho ((by decide : 4 ∣ 16).trans b.sixteen_dvd_stride)
    rw [List.length_cons, Nat.mul_succ, applyFrom_cons]
    exact ((hfits.1.writesOnly s.data ho).mono (Nat.le_refl _) (by omega)).trans
      ((ih hfits.2 hnext).mono (by omega) (by omega))

/-- The record of an element is what writing it makes of the record before. -/
theorem cell_applyFrom (hfits : ∀ e ∈ list, e.Fits b) (ho : 4 ∣ offset) (he : list[i]? = some e)
    {j : Nat} (hj : j < b.stride / 4) :
    (applyFrom b offset first s list).data.cell ((offset + b.stride * i) / 4 + j) =
      (e.write b.kind s.data (offset + b.stride * i)).cell ((offset + b.stride * i) / 4 + j) := by
  induction list generalizing offset first s i with
  | nil => cases he
  | cons e' rest ih =>
    rw [List.forall_mem_cons] at hfits
    have hstride : 4 ∣ b.stride := (by decide : 4 ∣ 16).trans b.sixteen_dvd_stride
    have hnext : 4 ∣ offset + b.stride := Nat.dvd_add ho hstride
    rw [applyFrom_cons]
    cases i with
    | zero =>
      -- the elements after it are written behind it
      cases he
      rw [Nat.mul_zero, Nat.add_zero]
      exact writesOnly_applyFrom hfits.2 hnext _ (.inl (by omega))
    | succ i =>
      -- the element before it is written in front of it
      have hplace : offset + b.stride * (i + 1) = offset + b.stride + b.stride * i := by
        rw [Nat.mul_succ]
        omega
      rw [hplace, ih hfits.2 hnext he]
      refine e.cell_write_congr b.kind ?_ _
      have hmul : 4 ∣ b.stride * i := hstride.mul_right i
      exact hfits.1.writesOnly s.data ho _ (.inr (by omega))

/-- **A checked write** makes of the record of an element what writing this element makes of it. -/
theorem cell_apply {w : DescriptorWrite} (hcheck : w.check s.layout = .ok ())
    (he : w.elements.toList[i]? = some e) {o : Nat}
    (helement : s.layout.Element ⟨w.binding, w.first + i⟩ b o) :
    e.Fits b ∧ ∀ j < b.stride / 4,
      (w.apply s).data.cell (o / 4 + j) = (e.write b.kind s.data o).cell (o / 4 + j) := by
  obtain ⟨b', offset, hrun, -, hfits, happly⟩ := exists_apply_of_check hcheck
  have hplace := hrun.elementAt (List.getElem?_eq_some_iff.mp he).1
  obtain rfl : b' = b := Option.some.inj (hplace.binding.symm.trans helement.binding)
  obtain rfl := Except.ok.inj (hplace.offset.symm.trans helement.offset)
  refine ⟨hfits e (List.mem_of_getElem? he), fun j hj => ?_⟩
  rw [happly]
  exact cell_applyFrom hfits ((by decide : 4 ∣ 16).trans hrun.sixteen_dvd) he hj

end DescriptorWrite

namespace WriteElement

variable {b : LayoutBinding} {e : WriteElement} {o : Nat} {d d' : SetData}

/-- What is written for an element lies in its record. -/
theorem Fits.part_congr (he : e.Fits b)
    (h : ∀ j < b.stride / 4, d'.cell (o / 4 + j) = d.cell (o / 4 + j)) :
    e.part b.kind d' o = e.part b.kind d o := by
  rw [he.stride_eq] at h
  have hbuffer (hkind : e.recordKind b.kind = .buffer) :
      ∀ j < 4, d'.cell (o / 4 + j) = d.cell (o / 4 + j) := by
    rw [hkind] at h
    exact h
  have hstorage (hkind : e.recordKind b.kind = .storage) :
      ∀ j < 20, d'.cell (o / 4 + j) = d.cell (o / 4 + j) := by
    rw [hkind] at h
    exact h
  have hsampled (hkind : e.recordKind b.kind = .sampled) :
      ∀ j < 988, d'.cell (o / 4 + j) = d.cell (o / 4 + j) := by
    rw [hkind] at h
    exact h
  cases e with
  | buffer r => exact congrArg RecordPart.buffer (BufferRecord.read_congr (hbuffer rfl))
  | bufferView v =>
    rw [part, part]
    split
    · rename_i hb
      exact congrArg RecordPart.storage (StorageRecord.read_congr (hstorage (if_pos hb)))
    · rename_i hb
      exact RecordPart.readView_congr (hsampled (if_neg hb))
  | view v =>
    rw [part, part]
    split
    · rename_i hb
      exact congrArg RecordPart.storage (StorageRecord.read_congr (hstorage (if_pos hb)))
    · rename_i hb
      exact RecordPart.readView_congr (hsampled (if_neg hb))
  | viewSampler v x =>
    rw [part, part, SampledRecord.read_congr (hsampled rfl),
      RecordPart.readLevels_congr (hsampled rfl)]
  | sampler x => rw [part, part, SampledRecord.read_congr (hsampled rfl)]

theorem recordKind_of_leavesSides {kind : DescriptorKind} (h : e.leavesSides kind = true) :
    e.recordKind kind = .sampled := by
  cases e with
  | buffer r => cases h
  | viewSampler v x => rfl
  | sampler x => rfl
  | bufferView v =>
    simp only [leavesSides, Bool.and_eq_true, decide_eq_true_eq] at h
    exact if_neg h.1
  | view v =>
    simp only [leavesSides, Bool.and_eq_true, Bool.not_eq_true', Bool.or_eq_false_iff,
      decide_eq_false_iff_not] at h
    exact if_neg (not_or.mpr h.1)

end WriteElement

namespace DescriptorWrite

open SampledRecord

variable {s : DescriptorSet} {w : DescriptorWrite} {i : Nat} {e : WriteElement} {b : LayoutBinding}
  {o : Nat}

theorem part_apply (hcheck : w.check s.layout = .ok ()) (he : w.elements.toList[i]? = some e)
    (helement : s.layout.Element ⟨w.binding, w.first + i⟩ b o) :
    e.part b.kind (w.apply s).data o = e.part b.kind (e.write b.kind s.data o) o := by
  obtain ⟨hfits, hcells⟩ := cell_apply hcheck he helement
  exact hfits.part_congr hcells

/-- The levels of a texture are what writing the view makes of them. -/
theorem readLevel_apply (hcheck : w.check s.layout = .ok ()) (he : w.elements.toList[i]? = some e)
    (helement : s.layout.Element ⟨w.binding, w.first + i⟩ b o)
    (hkind : e.recordKind b.kind = .sampled) {level : Nat} (hlevel : level < maxLevels) :
    readLevel (w.apply s).data o level = readLevel (e.write b.kind s.data o) o level := by
  obtain ⟨hfits, hcells⟩ := cell_apply hcheck he helement
  have hmax : maxLevels = 15 := rfl
  rw [hfits.stride_eq, hkind] at hcells
  refine readLevel_congr fun j hj => hcells _ ?_
  show 64 * level + j < 988
  omega

/-- A view without scaled sides leaves those that were there. -/
theorem sides_apply (hcheck : w.check s.layout = .ok ()) (he : w.elements.toList[i]? = some e)
    (helement : s.layout.Element ⟨w.binding, w.first + i⟩ b o)
    (hleaves : e.leavesSides b.kind = true) {level : Nat} (hlevel : level < maxLevels) :
    (readLevel (w.apply s).data o level).sides = (readLevel s.data o level).sides := by
  have ho : 4 ∣ o := (by decide : 4 ∣ 16).trans helement.sixteen_dvd
  have hkind := WriteElement.recordKind_of_leavesSides hleaves
  rw [readLevel_apply hcheck he helement hkind hlevel]
  exact ((cell_apply hcheck he helement).1.forgets ho).left hleaves s.data level hlevel

end DescriptorWrite

/-! ## Sets with a history -/

namespace DescriptorSet

open SampledRecord

variable {s₀ s s' : DescriptorSet} {list : List (List DescriptorWrite × List DescriptorCopy)}

/-- **Writes forget what was there before.**  After any updates of a set, with writes and copies,
and then a write: for each element that it writes, the part of the record that it sets is what the
same element makes of a record of zeros, scaled sides of levels aside.  These are the same as well,
unless a view of a format without floating point numbers is written to a texture: then they are what
they were before the write. -/
theorem writes_forget_history {layout : SetLayout} {place : Option PoolPlace}
    (hcreate : create layout place = .ok s₀) (hupdates : s₀.updates list = .ok s)
    {w : DescriptorWrite} (hwrite : s.updateInPlace [w] [] = .ok s') {i : Nat} {e : WriteElement}
    (he : w.elements.toList[i]? = some e) {b : LayoutBinding} {o : Nat}
    (helement : layout.Element ⟨w.binding, w.first + i⟩ b o) :
    let fresh := e.write b.kind (.zeroed layout.dataSize) o
    (e.part b.kind s'.data o).withoutSides = (e.part b.kind fresh o).withoutSides ∧
      (e.leavesSides b.kind = false → e.part b.kind s'.data o = e.part b.kind fresh o) ∧
      (e.leavesSides b.kind = true → ∀ level < maxLevels,
        (readLevel s'.data o level).sides = (readLevel s.data o level).sides) := by
  intro fresh
  obtain ⟨hs, hsame⟩ := formedAs_updates (formed_of_create hcreate) hupdates
  rw [← layout_of_create hcreate, ← hsame] at helement
  obtain ⟨hchecks, -, rfl⟩ := update_eq_ok.mp ((updateInPlace_eq_ok hs).mp hwrite)
  have hcheck := hchecks w List.mem_cons_self
  have ho : 4 ∣ o := (by decide : 4 ∣ 16).trans helement.sixteen_dvd
  have hforgets := (DescriptorWrite.cell_apply hcheck he helement).1.forgets ho
  have hpart : e.part b.kind (w.apply s).data o = e.part b.kind (e.write b.kind s.data o) o :=
    DescriptorWrite.part_apply hcheck he helement
  refine ⟨?_, fun hleaves => ?_, fun hleaves level hlevel => ?_⟩
  · exact hpart ▸ hforgets.alike _ _
  · exact hpart ▸ hforgets.whole hleaves _ _
  · exact DescriptorWrite.sides_apply hcheck he helement hleaves hlevel

/-! ### Two views of different formats -/

namespace TwoFormats

/-- A view of a row of four texels. -/
def view (id : Nat) (format : Format) : ImageView where
  id := id
  image := { device := 1, block := id, info := { kind := .dim1, format, extent := ⟨4, 1, 1⟩ } }
  kind := .dim1
  format := format
  aspects := .single .color
  mips := ⟨0, 1⟩
  layers := ⟨0, 1⟩

def layout : SetLayout := ⟨3, 1, [{ number := 0, kind := .sampledImage }]⟩

/-- A new set. -/
def made : DescriptorSet := { layout, data := .zeroed layout.dataSize }

def write (v : ImageView) : DescriptorWrite := { binding := 0, elements := .views [v] }

/-- A view with floating point numbers. -/
def real : ImageView := view 6 .r32Sfloat

/-- A view without. -/
def plain : ImageView := view 7 .r8Unorm

/-- The set after the first view was written, and after the second one was written over it. -/
def before : DescriptorSet := (write real).apply made

def after : DescriptorSet := (write plain).apply before

theorem made_created : create layout = .ok made := rfl

theorem check_write : (write real).check layout = .ok () ∧ (write plain).check layout = .ok () := by
  decide

theorem updates_before : made.updates [([write real], [])] = .ok before := by
  rw [updates, List.foldlM_cons, updateInPlace_write (formed_of_create made_created) check_write.1]
  rfl

theorem updateInPlace_after : before.updateInPlace [write plain] [] = .ok after :=
  updateInPlace_write (formedAs_updates (formed_of_create made_created) updates_before).1
    check_write.2

theorem element : layout.Element ⟨0, 0⟩ { number := 0, kind := .sampledImage } 0 :=
  ⟨rfl, Nat.one_pos, rfl⟩

/-- The view is all that is written. -/
theorem getElem?_write (v : ImageView) : (write v).elements.toList[0]? = some (.view v) := rfl

/-- The second view leaves the scaled sides of the first one. -/
theorem sides_after : (readLevel after.data 0 0).sides = (levelOfView real 0).sides := by
  have hlevels : (ofView real).levels[0]? = some (levelOfView real 0) := rfl
  have hplace : made.layout.Element ⟨0, 0⟩ { number := 0, kind := .sampledImage } 0 := element
  have hread := DescriptorWrite.readLevel_apply check_write.1 (getElem?_write real) hplace rfl
    (by decide : 0 < maxLevels)
  rw [WriteElement.write_sampledImage (.inl rfl),
    readLevel_writeView _ (full_ofView real) _ (by decide) hlevels] at hread
  have hsides : (readLevel after.data 0 0).sides = (readLevel before.data 0 0).sides :=
    DescriptorWrite.sides_apply check_write.2 (getElem?_write plain) element rfl (by decide)
  rw [hsides, before, hread]
  exact LevelRecord.sides_ofLevel_of_isFloat rfl _

/-- In a record of zeros they are zero. -/
theorem sides_fresh (size : Nat) :
    (readLevel ((WriteElement.view plain).write .sampledImage (.zeroed size) 0) 0 0).sides =
      .replicate 12 0 := by
  have hleft := sides_writeView plain.id (full_ofView plain) (allFloat_ofView plain)
    (by decide : 4 ∣ 0) (.zeroed size) (by decide : 0 < maxLevels)
  exact hleft

end TwoFormats

open TwoFormats in
/-- The view that is written last has another part than in a record of zeros. -/
theorem stale_sides_stay : ¬ ∀ (layout : SetLayout) (place : Option PoolPlace)
    (s₀ s s' : DescriptorSet) (list : List (List DescriptorWrite × List DescriptorCopy))
    (w : DescriptorWrite) (i : Nat) (e : WriteElement) (b : LayoutBinding) (o : Nat),
    create layout place = .ok s₀ → s₀.updates list = .ok s → s.updateInPlace [w] [] = .ok s' →
    w.elements.toList[i]? = some e → layout.Element ⟨w.binding, w.first + i⟩ b o →
    e.part b.kind s'.data o = e.part b.kind (e.write b.kind (.zeroed layout.dataSize) o) o := by
  intro hclaim
  have hpart := hclaim _ _ _ _ _ _ _ _ _ _ _ made_created updates_before updateInPlace_after
    (getElem?_write plain) element
  have hlevels := congrArg (fun p : RecordPart => match p with
    | .texture _ levels => levels.head?.elim [] LevelRecord.sides
    | _ => []) hpart
  have hsides : (levelOfView real 0).sides = .replicate 12 0 :=
    sides_after.symm.trans (Eq.trans hlevels (sides_fresh _))
  exact absurd hsides (by decide +kernel)

open TwoFormats in
/-- The second view is written like to a record of zeros, but for the scaled sides of the first
one. -/
theorem second_view_is_written :
    create TwoFormats.layout = .ok made ∧ made.updates [([write real], [])] = .ok before ∧
      before.updateInPlace [write plain] [] = .ok after ∧
      ((WriteElement.view plain).part .sampledImage after.data 0).withoutSides =
        ((WriteElement.view plain).part .sampledImage
          ((WriteElement.view plain).write .sampledImage (.zeroed 3952) 0) 0).withoutSides ∧
      (readLevel after.data 0 0).sides = (readLevel before.data 0 0).sides := by
  obtain ⟨halike, -, hleft⟩ := writes_forget_history made_created updates_before
    updateInPlace_after (getElem?_write plain) element
  exact ⟨made_created, updates_before, updateInPlace_after, halike, hleft rfl 0 (by decide)⟩

end DescriptorSet

end HostGpu
