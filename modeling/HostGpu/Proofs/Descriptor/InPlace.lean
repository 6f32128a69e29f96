import HostGpu.Proofs.Descriptor.Update

/-!
# Updates in place

An update tests every place in the data of a set before it uses it, and a test that fails would
leave the set half updated.  After a successful check none fails: an update either breaks a rule,
and then nothing has changed, or it comes to its end with the set that `DescriptorSet.update` gives
(`DescriptorSet.updateInPlace_eq`).  Writing the elements of all writes one by one, each as an
update of its own, makes no difference (`DescriptorSet.updates_singly`).
-/

namespace HostGpu

open Outcome

/-! ## Sizes -/

namespace SampledRecord

theorem size_writeSampler (x : Sampler) (d : SetData) (offset : Nat) :
    (writeSampler x d offset).size = d.size := by
  simp [writeSampler, SetData.writeWords]

theorem size_writeLevels (d : SetData) (offset index : Nat) (levels : List TextureLevel) :
    (writeLevels d offset index levels).size = d.size := by
  induction levels generalizing d index with
  | nil => rfl
  | cons l rest ih =>
    rw [writeLevels, ih, TextureLevel.write]
    split <;> simp [SetData.writeWords]

theorem size_writeView (id : Nat) (c : Contents) (d : SetData) (offset : Nat) :
    (writeView id c d offset).size = d.size := by
  simp [writeView, SetData.writeWords, size_writeLevels]

end SampledRecord

theorem WriteElement.size_write (e : WriteElement) (kind : DescriptorKind) (d : SetData)
    (offset : Nat) : (e.write kind d offset).size = d.size := by
  cases e with
  | buffer r => exact SetData.size_write d offset _
  | bufferView v =>
    rw [write]
    split
    · exact SetData.size_write d offset _
    · exact SampledRecord.size_writeView _ _ d offset
  | view v =>
    rw [write]
    split
    · exact SetData.size_write d offset _
    · exact SampledRecord.size_writeView _ _ d offset
  | viewSampler v x =>
    rw [write, SampledRecord.size_writeView, SampledRecord.size_writeSampler]
  | sampler x => exact SampledRecord.size_writeSampler x d offset

/-! ## Places in the data -/

/-- The numbers of consecutive records. -/
theorem Span.steps_records {stride : Nat} (h : 0 < stride) (o count : Nat) :
    (⟨o, o + stride * count⟩ : Span).steps stride = List.range' o count stride := by
  have hcount : (stride * count + stride - 1) / stride = count := by
    rw [Nat.add_sub_assoc h, Nat.mul_add_div h, Nat.div_eq_of_lt (Nat.sub_one_lt_of_lt h),
      Nat.add_zero]
  rw [steps, length, Nat.add_sub_cancel_left, hcount]

namespace DescriptorSet

variable {s s' : DescriptorSet}

/-- The data of a set has the size that its layout gives. -/
def Formed (s : DescriptorSet) : Prop := s.data.size = s.layout.dataSize

theorem formed_of_create {layout : SetLayout} {place : Option PoolPlace}
    (h : create layout place = .ok s) : s.Formed := by
  have hsamplers (d : SetData) (stride offset : Nat) (list : List Sampler) :
      (writeSamplers stride d offset list).size = d.size := by
    induction list generalizing d offset with
    | nil => rfl
    | cons x rest ih => rw [writeSamplers, ih, SampledRecord.size_writeSampler]
  have himmutable (d : SetData) (offset : Nat) (bindings : List LayoutBinding) :
      (writeImmutable d offset bindings).size = d.size := by
    induction bindings generalizing d offset with
    | nil => rfl
    | cons b rest ih =>
      rw [writeImmutable, ih]
      split
      · exact hsamplers _ _ _ _
      · rfl
  simp only [create, bind_eq_ok, pure_eq_ok] at h
  obtain ⟨-, -, rfl⟩ := h
  exact himmutable _ _ _

theorem layout_of_create {layout : SetLayout} {place : Option PoolPlace}
    (h : create layout place = .ok s) : s.layout = layout := by
  simp only [create, bind_eq_ok, pure_eq_ok] at h
  obtain ⟨-, -, rfl⟩ := h
  rfl

/-- The place of an element passes the test for records that are no larger. -/
theorem Formed.recordOffset (h : s.Formed) {k : ElementKey} {b : LayoutBinding} {o : Nat}
    (helement : s.layout.Element k b o) {kind : RecordKind} (hkind : kind.size ≤ b.stride) :
    s.recordOffset kind o = .ok o := by
  have hroom := helement.run.le_dataSize
  rw [Nat.mul_one, ← h] at hroom
  exact if_pos ⟨by omega, Nat.mod_eq_zero_of_dvd helement.sixteen_dvd⟩

theorem require_ok {α : Type} (s : DescriptorSet) (a : α) : s.require (.ok a) = .ok a := rfl

end DescriptorSet

/-! ## Writes -/

/-- Elements are written with the record layout of their binding. -/
theorem WriteElement.Fits.record?_eq {b : LayoutBinding} {e : WriteElement} (h : e.Fits b) :
    b.kind.record? = some (e.recordKind b.kind) := by
  cases h with
  | buffer hkind => exact hkind
  | storageTexels hkind | uniformTexels hkind | viewSampler hkind | sampler hkind =>
    rw [hkind]
    rfl
  | storageImage hkind => rcases hkind with hkind | hkind <;> (rw [hkind]; rfl)
  | sampledImage hkind => rcases hkind with hkind | ⟨hkind, -⟩ <;> (rw [hkind]; rfl)

theorem WriteElement.Fits.stride_eq {b : LayoutBinding} {e : WriteElement} (h : e.Fits b) :
    b.stride = (e.recordKind b.kind).size :=
  LayoutBinding.stride_of_record? h.record?_eq

/-- Nothing fits inline uniform blocks. -/
theorem WriteElements.stride_pos {e : WriteElements} {b : LayoutBinding} (h : e.fits b = true) :
    0 < b.stride := by
  rw [LayoutBinding.stride]
  cases hkind : b.kind with
  | inlineUniformBlock => cases e <;> simp [fits, hkind] at h
  | _ => decide

namespace DescriptorWrite

variable {w : DescriptorWrite} {s t : DescriptorSet} {b : LayoutBinding} {offset first : Nat}
  {list : List WriteElement}

/-! ### Records and resources apart -/

/-- Writes change the data and the resources of a set. -/
theorem applyFrom_eq : applyFrom b offset first s list = { s with
    data := (applyFrom b offset first s list).data
    resources := (applyFrom b offset first s list).resources } := by
  induction list generalizing offset first s with
  | nil => rfl
  | cons e rest ih => exact ih

theorem size_applyFrom : (applyFrom b offset first s list).data.size = s.data.size := by
  induction list generalizing offset first s with
  | nil => rfl
  | cons e rest ih => rw [applyFrom_cons, ih, DescriptorSet.replace, WriteElement.size_write]

/-- What is written to the data does not depend on the resources. -/
theorem data_applyFrom_resources (b : LayoutBinding) (offset first : Nat) (s : DescriptorSet)
    (list : List WriteElement) (r : ResourceTable) :
    (applyFrom b offset first { s with resources := r } list).data =
      (applyFrom b offset first s list).data := by
  induction list generalizing offset first s r with
  | nil => rfl
  | cons e rest ih =>
    have hnext := ih (offset + b.stride) (first + 1)
      { s with data := e.write b.kind s.data offset }
    exact (hnext (r.insert _ _)).trans (hnext (s.resources.insert _ _)).symm

/-- What resources are kept does not depend on the data. -/
theorem resources_applyFrom_data (b : LayoutBinding) (offset first : Nat) (s : DescriptorSet)
    (list : List WriteElement) (d : SetData) :
    (applyFrom b offset first { s with data := d } list).resources =
      (applyFrom b offset first s list).resources := by
  induction list generalizing offset first s d with
  | nil => rfl
  | cons e rest ih =>
    have hnext := ih (offset + b.stride) (first + 1)
      { s with resources := s.resources.insert ⟨b.number, first⟩ e.resources }
    exact (hnext (e.write b.kind d offset)).trans (hnext (e.write b.kind s.data offset)).symm

/-- **The places of records pass their tests.** -/
theorem performRecords_eq (hs : s.Formed) (hfits : ∀ e ∈ list, e.Fits b)
    (hrun : s.layout.Run b.number first list.length b offset) :
    performRecords b.kind s ((List.range' offset list.length b.stride).zip list) =
      .ok { s with data := (applyFrom b offset first s list).data } := by
  induction list generalizing offset first s with
  | nil => rfl
  | cons e rest ih =>
    rw [List.forall_mem_cons] at hfits
    have helement : s.layout.Element ⟨b.number, first⟩ b offset :=
      hrun.elementAt (i := 0) (Nat.succ_pos rest.length)
    have hplace := hs.recordOffset helement hfits.1.stride_eq.ge
    have hnext : ({ s with data := e.write b.kind s.data offset } : DescriptorSet).Formed :=
      (e.size_write b.kind s.data offset).trans hs
    have hdata := data_applyFrom_resources b (offset + b.stride) (first + 1)
      { s with data := e.write b.kind s.data offset } rest
      (s.resources.insert ⟨b.number, first⟩ e.resources)
    rw [List.length_cons, List.range'_succ, List.zip_cons_cons, performRecords, hplace,
      DescriptorSet.require_ok, ok_bind, ih hnext hfits.2 hrun.tail, ← hdata]
    rfl

/-- The elements of a write are there when their resources are kept. -/
theorem performResources_eq (offset : Nat) {index : Nat} (hnumber : b.number = w.binding)
    (hlist : w.elements.toList.drop index = list) :
    w.performResources s (List.range' index list.length) =
      .ok { s with resources := (applyFrom b offset (w.first + index) s list).resources } := by
  induction list generalizing offset index s with
  | nil => rfl
  | cons e rest ih =>
    have he : w.elements.toList[index]? = some e := by
      rw [← List.head?_drop, hlist, List.head?_cons]
    have hrest : w.elements.toList.drop (index + 1) = rest := by
      rw [← List.tail_drop, hlist, List.tail_cons]
    have hresources := resources_applyFrom_data b (offset + b.stride) (w.first + index + 1)
      { s with resources := s.resources.insert ⟨w.binding, w.first + index⟩ e.resources } rest
      (e.write b.kind s.data offset)
    rw [List.length_cons, List.range'_succ, performResources, he]
    dsimp only
    rw [ih (offset + b.stride) hrest, ← Nat.add_assoc, ← hresources, applyFrom_cons,
      hnumber]
    rfl

/-! ### Whole writes -/

/-- **A write that passes its check meets no fault.** -/
theorem perform_eq (hs : s.Formed) (hcheck : w.check s.layout = .ok ()) :
    w.perform s = .ok (w.apply s) := by
  obtain ⟨b, offset, hrun, hnumber, hfits, happly⟩ := exists_apply_of_check hcheck
  have hstride : 0 < b.stride := by
    obtain ⟨b', hb', hkind, -⟩ := check_eq_ok.mp hcheck
    obtain rfl : b = b' := Option.some.inj (hrun.binding.symm.trans hb')
    exact WriteElements.stride_pos hkind
  have hbinding : s.layout.binding w.binding = .ok b := by rw [SetLayout.binding, hrun.binding]
  have hrun' : s.layout.Run b.number w.first w.elements.toList.length b offset := hnumber ▸ hrun
  have hrecords := performRecords_eq hs hfits hrun'
  rw [perform, hbinding, hrun.dataRange, DescriptorSet.require_ok, DescriptorSet.require_ok,
    ok_bind, ok_bind, if_neg hstride.ne', Span.steps_records hstride, WriteElements.length,
    List.range_eq_range']
  refine (congrArg (· >>= _) hrecords).trans ?_
  rw [ok_bind, performResources_eq offset hnumber List.drop_zero, happly,
    Nat.add_zero, resources_applyFrom_data]
  have hresult : applyFrom b offset w.first s w.elements.toList = _ := applyFrom_eq
  exact congrArg Except.ok hresult.symm

theorem formed_apply (hs : s.Formed) : (w.apply s).Formed := by
  rcases w.apply_cases s with h | ⟨b, range, -, -, -, h⟩
  · rwa [h]
  · rw [h, DescriptorSet.Formed, layout_applyFrom, size_applyFrom]
    exact hs

theorem place_apply (w : DescriptorWrite) (s : DescriptorSet) : (w.apply s).place = s.place := by
  rcases w.apply_cases s with h | ⟨b, range, -, -, -, h⟩
  · rw [h]
  · rw [h, applyFrom_eq]

end DescriptorWrite

/-! ## Copies -/

namespace DescriptorCopy

variable {c : DescriptorCopy} {s : DescriptorSet}

/-- **A copy that passes its check meets no fault.** -/
theorem perform_eq (hcheck : c.check s.layout = .ok ()) : c.perform s = .ok (c.apply s) := by
  obtain ⟨b, b', src, dst, hsrc, hdst, -, hstrides, happly⟩ := exists_apply_of_check hcheck
  simp only [happly, perform, hsrc.dataRange, hdst.dataRange, DescriptorSet.require_ok, ok_bind,
    Span.length, Nat.add_sub_cancel_left, hstrides, ne_eq, not_true_eq_false, if_false]
  rfl

theorem formed_apply (hs : s.Formed) : (c.apply s).Formed := by
  rcases c.apply_cases s with h | ⟨src, dst, -, -, h⟩
  · rwa [h]
  · rw [h, DescriptorSet.Formed, SetData.size_write]
    exact hs

theorem place_apply (c : DescriptorCopy) (s : DescriptorSet) : (c.apply s).place = s.place := by
  rcases c.apply_cases s with h | ⟨src, dst, -, -, h⟩
  · rw [h]
  · rw [h]

end DescriptorCopy

/-! ## Updates -/

namespace DescriptorSet

variable {s s' : DescriptorSet} {writes : List DescriptorWrite} {copies : List DescriptorCopy}

/-- Steps that meet no fault where an invariant holds, and that keep it, meet none one after the
other. -/
theorem foldlM_eq_ok {α : Type} (perform : α → DescriptorSet → Updating DescriptorSet)
    (apply : α → DescriptorSet → DescriptorSet) {I : DescriptorSet → Prop} {list : List α}
    (hstep : ∀ a ∈ list, ∀ t, I t → perform a t = .ok (apply a t) ∧ I (apply a t)) (hs : I s) :
    list.foldlM (fun t a => perform a t) s = .ok (list.foldl (fun t a => apply a t) s) ∧
      I (list.foldl (fun t a => apply a t) s) := by
  induction list generalizing s with
  | nil => exact ⟨rfl, hs⟩
  | cons a rest ih =>
    rw [List.forall_mem_cons] at hstep
    obtain ⟨hfirst, hnext⟩ := hstep.1 s hs
    rw [List.foldlM_cons, hfirst, ok_bind, List.foldl_cons]
    exact ih hstep.2 hnext

/-- A set with its layout and data of its size; both stay through writes and copies. -/
def FormedAs (layout : SetLayout) (s : DescriptorSet) : Prop := s.Formed ∧ s.layout = layout

theorem FormedAs.apply_write {layout : SetLayout} (h : s.FormedAs layout) (w : DescriptorWrite) :
    (w.apply s).FormedAs layout :=
  ⟨w.formed_apply h.1, (w.layout_apply s).trans h.2⟩

theorem FormedAs.apply_copy {layout : SetLayout} (h : s.FormedAs layout) (c : DescriptorCopy) :
    (c.apply s).FormedAs layout :=
  ⟨c.formed_apply h.1, (c.layout_apply s).trans h.2⟩

theorem formedAs_applyUpdate (hs : s.Formed) (writes : List DescriptorWrite)
    (copies : List DescriptorCopy) : (s.applyUpdate writes copies).FormedAs s.layout :=
  applyUpdate_induction ⟨hs, rfl⟩ (fun w _ _ h => h.apply_write w) fun c _ _ h => h.apply_copy c

theorem performUpdate_eq (hs : s.Formed) (hwrites : ∀ w ∈ writes, w.check s.layout = .ok ())
    (hcopies : ∀ c ∈ copies, c.check s.layout = .ok ()) :
    s.performUpdate writes copies = .ok (s.applyUpdate writes copies) := by
  obtain ⟨hfirst, hformed⟩ := foldlM_eq_ok (I := FormedAs s.layout) DescriptorWrite.perform
    DescriptorWrite.apply
    (fun w hw t ht => ⟨w.perform_eq ht.1 (ht.2 ▸ hwrites w hw), ht.apply_write w⟩) ⟨hs, rfl⟩
  obtain ⟨hrest, -⟩ := foldlM_eq_ok (I := FormedAs s.layout) DescriptorCopy.perform
    DescriptorCopy.apply
    (fun c hc t ht => ⟨c.perform_eq (ht.2 ▸ hcopies c hc), ht.apply_copy c⟩) hformed
  rw [performUpdate, hfirst, ok_bind]
  exact hrest

/-- **An update in place** changes nothing or comes to its end. -/
theorem updateInPlace_eq (hs : s.Formed) (writes : List DescriptorWrite)
    (copies : List DescriptorCopy) : s.updateInPlace writes copies =
      (s.update writes copies).mapError fun e => ⟨.invalid e, s⟩ := by
  rw [updateInPlace, update]
  cases hcheck : s.checkUpdate writes copies with
  | error e => rfl
  | ok =>
    have hupdate : s.update writes copies = .ok (s.applyUpdate writes copies) := by
      rw [update, hcheck]
      rfl
    obtain ⟨hwrites, hcopies, -⟩ := update_eq_ok.mp hupdate
    exact performUpdate_eq hs hwrites hcopies

theorem updateInPlace_eq_ok (hs : s.Formed) :
    s.updateInPlace writes copies = .ok s' ↔ s.update writes copies = .ok s' := by
  rw [updateInPlace_eq hs, mapError_eq_ok]

/-- An update in place that does not come to its end breaks a rule, and leaves the set as it is. -/
theorem updateInPlace_eq_error (hs : s.Formed) {i : Interruption DescriptorSet} :
    s.updateInPlace writes copies = .error i ↔
      ∃ e, s.checkUpdate writes copies = .error e ∧ i = ⟨.invalid e, s⟩ := by
  rw [updateInPlace_eq hs, update]
  cases s.checkUpdate writes copies with
  | error e => simp [Except.mapError, eq_comm]
  | ok => simp [ok_bind, pure, Except.pure, Except.mapError]

end DescriptorSet

/-! ## One element at a time -/

/-- An element by itself. -/
def WriteElement.alone : WriteElement → WriteElements
  | buffer r => .buffers [r]
  | bufferView v => .bufferViews [v]
  | view v => .views [v]
  | viewSampler v x => .viewSamplers [(v, x)]
  | sampler x => .samplers [x]

@[simp] theorem WriteElement.toList_alone (e : WriteElement) : e.alone.toList = [e] := by
  cases e <;> rfl

/-- An element fits by itself what it fits among others. -/
theorem WriteElements.fits_alone {list : WriteElements} {e : WriteElement} (h : e ∈ list.toList)
    (b : LayoutBinding) : e.alone.fits b = list.fits b := by
  cases list <;> obtain ⟨x, -, rfl⟩ := List.mem_map.mp h <;> unfold fits <;> cases b.kind <;> rfl

namespace DescriptorWrite

variable {w : DescriptorWrite} {s : DescriptorSet} {b : LayoutBinding} {binding first : Nat}
  {list : List WriteElement}

/-- Writes of the elements of a list, one by one. -/
def singlesFrom (binding first : Nat) : List WriteElement → List DescriptorWrite
  | [] => []
  | e :: rest => ⟨binding, first, e.alone⟩ :: singlesFrom binding (first + 1) rest

/-- Writes of the elements of a write, one by one. -/
def singles (w : DescriptorWrite) : List DescriptorWrite :=
  singlesFrom w.binding w.first w.elements.toList

theorem mem_singlesFrom {x : DescriptorWrite} (h : x ∈ singlesFrom binding first list) :
    ∃ e ∈ list, ∃ i < first + list.length, x = ⟨binding, i, e.alone⟩ := by
  induction list generalizing first with
  | nil => cases h
  | cons e rest ih =>
    rw [List.length_cons]
    rcases List.mem_cons.mp h with rfl | h
    · exact ⟨e, List.mem_cons_self, first, by omega, rfl⟩
    · obtain ⟨e', he', i, hi, rfl⟩ := ih h
      exact ⟨e', List.mem_cons_of_mem _ he', i, by omega, rfl⟩

theorem forall_check_singles {layout : SetLayout} (hcheck : w.check layout = .ok ()) :
    ∀ x ∈ w.singles, x.check layout = .ok () := by
  intro x hx
  obtain ⟨b, hb, hfits, hbound, hranges⟩ := check_eq_ok.mp hcheck
  obtain ⟨e, he, i, hi, rfl⟩ := mem_singlesFrom hx
  refine check_eq_ok.mpr ⟨b, hb, ?_, ?_, ?_⟩
  · rw [WriteElements.fits_alone he, hfits]
  · rw [WriteElements.length, WriteElement.toList_alone]
    exact Nat.le_trans hi hbound
  · intro r hr
    rw [WriteElement.toList_alone, List.mem_singleton] at hr
    exact hranges r (hr ▸ he)

theorem foldl_singlesFrom {offset : Nat}
    (hrun : s.layout.Run binding first list.length b offset) :
    (singlesFrom binding first list).foldl (fun t x => x.apply t) s =
      applyFrom b offset first s list := by
  induction list generalizing offset first s with
  | nil => rfl
  | cons e rest ih =>
    have hbound : first + 1 ≤ b.count := by
      have hle := hrun.bound
      rw [List.length_cons] at hle
      omega
    have hone : s.layout.Run binding first 1 b offset := ⟨hrun.binding, hbound, hrun.offset⟩
    have hfirst : (⟨binding, first, e.alone⟩ : DescriptorWrite).apply s =
        s.replace ⟨b.number, first⟩ (e.write b.kind s.data offset) e.resources := by
      simp only [apply, WriteElements.length, WriteElement.toList_alone, List.length_singleton,
        hone.binding, hone.dataRange]
      rfl
    rw [singlesFrom, List.foldl_cons, hfirst, applyFrom_cons]
    exact ih hrun.tail

/-- Writing the elements one by one is writing all of them. -/
theorem foldl_singles (hcheck : w.check s.layout = .ok ()) :
    w.singles.foldl (fun t x => x.apply t) s = w.apply s := by
  obtain ⟨b, offset, hrun, -, -, happly⟩ := exists_apply_of_check hcheck
  rw [singles, foldl_singlesFrom hrun, happly]

end DescriptorWrite

namespace DescriptorSet

variable {s s' : DescriptorSet} {writes : List DescriptorWrite} {copies : List DescriptorCopy}

/-- Updates one after the other, up to the first that fails. -/
def updates (s : DescriptorSet) (list : List (List DescriptorWrite × List DescriptorCopy)) :
    Updating DescriptorSet :=
  list.foldlM (fun s u => s.updateInPlace u.1 u.2) s

/-- Every element of every write, and then every copy, as an update of its own. -/
def singly (writes : List DescriptorWrite) (copies : List DescriptorCopy) :
    List (List DescriptorWrite × List DescriptorCopy) :=
  (writes.flatMap (·.singles)).map (fun w => ([w], [])) ++ copies.map fun c => ([], [c])

theorem updateInPlace_write (hs : s.Formed) {w : DescriptorWrite}
    (hcheck : w.check s.layout = .ok ()) : s.updateInPlace [w] [] = .ok (w.apply s) := by
  rw [updateInPlace_eq hs, update, checkUpdate, checkWrites, hcheck]
  rfl

theorem updateInPlace_copy (hs : s.Formed) {c : DescriptorCopy}
    (hcheck : c.check s.layout = .ok ()) : s.updateInPlace [] [c] = .ok (c.apply s) := by
  rw [updateInPlace_eq hs, update, checkUpdate, checkCopies, hcheck]
  rfl

theorem foldl_flatMap_singles (hwrites : ∀ w ∈ writes, w.check s.layout = .ok ()) :
    (writes.flatMap (·.singles)).foldl (fun t w => w.apply t) s =
      writes.foldl (fun t w => w.apply t) s := by
  induction writes generalizing s with
  | nil => rfl
  | cons w rest ih =>
    rw [List.forall_mem_cons] at hwrites
    rw [List.flatMap_cons, List.foldl_append, DescriptorWrite.foldl_singles hwrites.1,
      List.foldl_cons]
    exact ih (by rw [w.layout_apply]; exact hwrites.2)

/-- **Updates may be made one element at a time**: each of these updates succeeds, and together
they leave the same set. -/
theorem updates_singly (hs : s.Formed) (hupdate : s.updateInPlace writes copies = .ok s') :
    s.updates (singly writes copies) = .ok s' := by
  obtain ⟨hwrites, hcopies, rfl⟩ :=
    update_eq_ok.mp ((updateInPlace_eq_ok hs).mp hupdate)
  have hsingles : ∀ w ∈ writes.flatMap (·.singles), w.check s.layout = .ok () := by
    intro x hx
    obtain ⟨w, hw, hx⟩ := List.mem_flatMap.mp hx
    exact DescriptorWrite.forall_check_singles (hwrites w hw) x hx
  obtain ⟨hfirst, hformed⟩ := foldlM_eq_ok (I := FormedAs s.layout)
    (fun w t => t.updateInPlace [w] []) DescriptorWrite.apply
    (fun w hw t ht => ⟨updateInPlace_write ht.1 (ht.2 ▸ hsingles w hw), ht.apply_write w⟩) ⟨hs, rfl⟩
  obtain ⟨hrest, -⟩ := foldlM_eq_ok (I := FormedAs s.layout)
    (fun c t => t.updateInPlace [] [c]) DescriptorCopy.apply
    (fun c hc t ht => ⟨updateInPlace_copy ht.1 (ht.2 ▸ hcopies c hc), ht.apply_copy c⟩) hformed
  rw [updates, singly, List.foldlM_append, List.foldlM_map, hfirst, ok_bind, List.foldlM_map,
    hrest, foldl_flatMap_singles hwrites, applyUpdate]

end DescriptorSet

end HostGpu
