import HostGpu.Proofs.Descriptor.InPlace

/-!
# Samplers that a layout fixes

A new set holds the immutable samplers of its layout.  No write changes them: where a binding has
its own samplers, only views can be written.  No copy goes to a binding of samplers alone.  A copy
to a binding of combined image samplers, however, moves whole records, so that the sampler of the
source takes the place of the immutable one (`DescriptorSet.fixed_samplers_stay`).
-/

namespace HostGpu

open Outcome

/-- The record of an element of a set holds its immutable sampler. -/
def HoldsFixed (element : Nat) : DescriptorProperty := fun b d o _ =>
  b.usesImmutableSamplers = true → ∀ x, b.immutableSamplers[element]? = some x →
    (SampledRecord.read d o).Holds x

theorem local_holdsFixed (element : Nat) : (HoldsFixed element).Local := by
  intro b d d' o o' kept hcells h huses x hx
  rw [DescriptorSet.stride_of_usesImmutableSamplers huses] at hcells
  exact (SampledRecord.holds_congr hcells).mpr (h huses x hx)

/-- **Writes** leave immutable samplers alone: all that fits their bindings are views. -/
theorem holdsFixed_write {element : Nat} {b : LayoutBinding} {e : WriteElement} (he : e.Fits b)
    (d : SetData) {o : Nat} (ho : 4 ∣ o) {kept : Option (List Resource)}
    (h : HoldsFixed element b d o kept) :
    HoldsFixed element b (e.write b.kind d o) o (some e.resources) := by
  intro huses x hx
  have hkinds := LayoutBinding.kind_of_usesImmutableSamplers huses
  cases he with
  | buffer hb => rcases hkinds with hk | hk <;> (rw [hk] at hb; cases hb)
  | storageTexels hb | uniformTexels hb => rcases hkinds with hk | hk <;> cases hk.symm.trans hb
  | storageImage hb =>
    rcases hkinds with hk | hk <;> rcases hb with hb | hb <;> cases hk.symm.trans hb
  | @sampledImage v hb =>
    rw [WriteElement.write_sampledImage hb,
      SampledRecord.holds_writeView _ (SampledRecord.fits_ofView v) d ho]
    exact h huses x hx
  | viewSampler hb hown | sampler hb hown => cases huses.symm.trans hown

namespace DescriptorCopy

/-- What a copy to a set brings to an element holds a given sampler. -/
def Brings (c : DescriptorCopy) (t : DescriptorSet) (k : ElementKey) (x : Sampler) : Prop :=
  ∀ b o, (c.source.getD t).layout.Element (c.origin k) b o →
    (SampledRecord.read (c.source.getD t).data o).Holds x

end DescriptorCopy

namespace DescriptorSet

variable {s s' t : DescriptorSet} {k : ElementKey}
  {list : List (List DescriptorWrite × List DescriptorCopy)}

/-! ## One update -/

theorem holdsFixed_of_create {layout : SetLayout} (hfit : ∀ b ∈ layout.bindings, b.SamplersFit)
    {place : Option PoolPlace} (h : create layout place = .ok s) :
    s.At (HoldsFixed k.element) k := by
  refine at_of_create (local_holdsFixed _) hfit (fun b o hfixed huses => ?_) ?_ h
  · cases hfixed.symm.trans huses
  · intro b _ o _ ho x hx _ y hy
    obtain rfl : x = y := Option.some.inj (hx.symm.trans hy)
    exact SampledRecord.holds_writeSampler x _ ho

/-- **An update** leaves the immutable sampler of an element in place, unless a copy to a binding of
combined image samplers brings another one. -/
theorem holdsFixed_update {writes : List DescriptorWrite} {copies : List DescriptorCopy}
    (h : s.At (HoldsFixed k.element) k) (hupdate : s.update writes copies = .ok s')
    (hbrings : ∀ before c after, copies = before ++ c :: after → c.Targets k → ∀ b x,
      s.layout.find? k.binding = some b → b.kind = .combinedImageSampler →
      b.immutableSamplers[k.element]? = some x → c.Brings (s.applyUpdate writes before) k x) :
    s'.At (HoldsFixed k.element) k := by
  refine h.update (local_holdsFixed _) hupdate ?_ ?_
  · exact fun w _ _ b e _ he d o kept ho hkept => holdsFixed_write he d ho hkept
  · rintro before c after rfl hk t rfl b b' o helement hb' hkinds huses x hx
    obtain ⟨-, hcopies, -⟩ := update_eq_ok.mp hupdate
    have hcheck := hcopies c (List.mem_append_right _ List.mem_cons_self)
    have hcombined : b'.kind = .combinedImageSampler :=
      (LayoutBinding.kind_of_usesImmutableSamplers huses).resolve_left
        (DescriptorCopy.kind_ne_sampler_of_check hcheck hb' huses)
    rw [← hk.1] at hb'
    exact hbrings before c after rfl hk b' x hb' hcombined hx b o helement

/-! ## Sequences of updates -/

theorem updates_append_eq_ok {u : List DescriptorWrite × List DescriptorCopy} :
    s.updates (list ++ [u]) = .ok s' ↔
      ∃ t, s.updates list = .ok t ∧ t.updateInPlace u.1 u.2 = .ok s' := by
  rw [updates, List.foldlM_append, bind_eq_ok]
  refine exists_congr fun t => and_congr Iff.rfl ?_
  rw [List.foldlM_cons, bind_eq_ok]
  constructor
  · rintro ⟨a, ha, hlast⟩
    exact ha.trans hlast
  · intro h
    exact ⟨s', h, rfl⟩

/-- A copy of a sequence of updates is made to a set, which is what all that comes before the copy
made of the first set. -/
def MadeTo (s : DescriptorSet) (list : List (List DescriptorWrite × List DescriptorCopy))
    (c : DescriptorCopy) (t : DescriptorSet) : Prop :=
  ∃ before writes copies rest after, list = before ++ (writes, copies ++ c :: rest) :: after ∧
    s.updates (before ++ [(writes, copies)]) = .ok t

theorem MadeTo.append {c : DescriptorCopy} (h : s.MadeTo list c t)
    (u : List DescriptorWrite × List DescriptorCopy) : s.MadeTo (list ++ [u]) c t := by
  obtain ⟨before, writes, copies, rest, after, rfl, ht⟩ := h
  exact ⟨before, writes, copies, rest, after ++ [u], by simp, ht⟩

/-- Sets stay formed and keep their layout. -/
theorem formedAs_updates (hs : s.Formed) (h : s.updates list = .ok s') :
    s'.FormedAs s.layout := by
  induction list using List.reverseRecOn generalizing s' with
  | nil =>
    cases h
    exact ⟨hs, rfl⟩
  | append_singleton list u ih =>
    obtain ⟨t, ht, hlast⟩ := updates_append_eq_ok.mp h
    obtain ⟨hformed, hlayout⟩ := ih ht
    obtain ⟨-, -, rfl⟩ := update_eq_ok.mp ((updateInPlace_eq_ok hformed).mp hlast)
    rw [← hlayout]
    exact formedAs_applyUpdate hformed _ _

/-- The immutable sampler of an element, along a sequence of updates. -/
theorem holdsFixed_updates (hs : s.Formed) (h : s.At (HoldsFixed k.element) k)
    (hupdates : s.updates list = .ok s')
    (hbrings : ∀ c t, s.MadeTo list c t → c.Targets k → ∀ b x,
      s.layout.find? k.binding = some b → b.kind = .combinedImageSampler →
      b.immutableSamplers[k.element]? = some x → c.Brings t k x) :
    s'.At (HoldsFixed k.element) k := by
  -- on the last update
  induction list using List.reverseRecOn generalizing s' with
  | nil =>
    cases hupdates
    exact h
  | append_singleton list u ih =>
    obtain ⟨t, ht, hlast⟩ := updates_append_eq_ok.mp hupdates
    obtain ⟨hformed, hlayout⟩ := formedAs_updates hs ht
    have hupdate := (updateInPlace_eq_ok hformed).mp hlast
    refine holdsFixed_update (ih ht fun c t hmade => hbrings c t (hmade.append u)) hupdate ?_
    intro before c after hcopies hk b x hb
    -- the copies before this one make an update of their own
    obtain ⟨hchecks, hchecks', -⟩ := update_eq_ok.mp hupdate
    have hbefore : t.update u.1 before = .ok (t.applyUpdate u.1 before) :=
      update_eq_ok.mpr ⟨hchecks, fun c' hc' =>
        hchecks' c' (hcopies ▸ List.mem_append_left _ hc'), rfl⟩
    refine hbrings c _ ⟨list, u.1, before, after, [], ?_, ?_⟩ hk b x (hlayout ▸ hb)
    · rw [← hcopies]
    · exact updates_append_eq_ok.mpr ⟨t, ht, (updateInPlace_eq_ok hformed).mpr hbefore⟩

/-- **Immutable samplers stay in place** through any sequence of updates of a set: for good where a
binding has samplers alone, and in combined image samplers for as long as the copies that are made
to the element bring records that hold its sampler. -/
theorem fixed_samplers_stay {id device : Nat} {bindings : List LayoutBinding} {layout : SetLayout}
    (hlayout : SetLayout.create id device bindings = .ok layout) {place : Option PoolPlace}
    (hcreate : create layout place = .ok s) (hupdates : s.updates list = .ok s')
    {b : LayoutBinding} {o : Nat} (helement : layout.Element k b o)
    (hfixed : b.usesImmutableSamplers = true) :
    ∃ x, b.immutableSamplers[k.element]? = some x ∧
      ((b.kind = .combinedImageSampler → ∀ c t, s.MadeTo list c t → c.Targets k →
          c.Brings t k x) →
        (SampledRecord.read s'.data o).Holds x) := by
  have hfit := SetLayout.samplersFit_of_create hlayout
  have hcount : k.element < b.immutableSamplers.length := by
    rw [hfit b (List.mem_of_find?_eq_some helement.binding) hfixed]
    exact helement.element
  have hs : s.layout = layout := by
    simp only [create, bind_eq_ok, pure_eq_ok] at hcreate
    obtain ⟨-, -, rfl⟩ := hcreate
    rfl
  have hx : b.immutableSamplers[k.element]? = some b.immutableSamplers[k.element] :=
    List.getElem?_eq_getElem hcount
  have hformed := formed_of_create hcreate
  refine ⟨_, hx, fun hbrings => ?_⟩
  refine holdsFixed_updates hformed (holdsFixed_of_create hfit hcreate) hupdates ?_ b o ?_ hfixed
    _ hx
  · intro c t hmade hk b' y hb' hcombined hy
    obtain rfl : b = b' := Option.some.inj (helement.binding.symm.trans (hs ▸ hb'))
    obtain rfl := Option.some.inj (hx.symm.trans hy)
    exact hbrings hcombined c t hmade hk
  · rwa [(formedAs_updates hformed hupdates).2, hs]

/-! ### A view and two copies -/

namespace FixedSampler

def sampler : Sampler := { id := 2, device := 1, info := {} }

def view : ImageView where
  id := 6
  image := {
    device := 1, block := 5
    info := { kind := .dim1, format := .r8Unorm, extent := ⟨4, 1, 1⟩ } }
  kind := .dim1
  format := .r8Unorm
  aspects := .single .color
  mips := ⟨0, 1⟩
  layers := ⟨0, 1⟩

/-- A layout with a sampler of its own, and one without. -/
def fixed : SetLayout :=
  ⟨3, 1, [{ number := 0, kind := .combinedImageSampler, immutableSamplers := [sampler] }]⟩

def free : SetLayout := ⟨4, 1, [{ number := 0, kind := .combinedImageSampler }]⟩

/-- A new set. -/
def made (l : SetLayout) : DescriptorSet :=
  { layout := l, data := writeImmutable (.zeroed l.dataSize) 0 l.bindings }

theorem fixed_created : SetLayout.create 3 1 fixed.bindings = .ok fixed := rfl

theorem made_created : create fixed = .ok (made fixed) := rfl

/-- A record is copied from a new set of a layout. -/
def copyOf (l : SetLayout) : DescriptorCopy := { source := some (made l) }

/-- A view is written, and a record is copied from a set with the same sampler. -/
def viewAndCopy : List (List DescriptorWrite × List DescriptorCopy) :=
  [([{ binding := 0, elements := .views [view] }], []), ([], [copyOf fixed])]

def kept : DescriptorSet := ((made fixed).updates viewAndCopy).toOption.get (by decide +kernel)

/-- The set after a copy from one without a sampler of its own. -/
def replaced : DescriptorSet := (copyOf free).apply (made fixed)

theorem check_copy : (copyOf free).check (made fixed).layout = .ok () := by decide +kernel

theorem updates_replaced : (made fixed).updates [([], [copyOf free])] = .ok replaced := by
  rw [updates, List.foldlM_cons, updateInPlace_copy (formed_of_create made_created) check_copy]
  rfl

theorem sampler_replaced : (SampledRecord.read replaced.data 0).sampler = 0 := by
  obtain ⟨b, o, horigin, -, hcells, -⟩ := DescriptorCopy.exists_moved check_copy
    (.first rfl Nat.one_pos) ⟨rfl, Nat.le_refl 0, Nat.one_pos⟩
  have hplace : free.bindingOffset 0 0 = .ok 0 := rfl
  obtain rfl : 0 = o := Except.ok.inj (hplace.symm.trans horigin.offset)
  rw [SampledRecord.read_sampler]
  exact SetData.word_of_cell ((hcells 980 (by decide)).trans (SetData.cell_zeroed _ _))

/-- A set of the layout with its own sampler brings this sampler. -/
theorem brings_sampler {c : DescriptorCopy} {t : DescriptorSet}
    (h : (made fixed).MadeTo viewAndCopy c t) :
    c.Brings t ⟨0, 0⟩ sampler := by
  obtain ⟨before, writes, copies, rest, after, hlist, -⟩ := h
  have hmem : c ∈ viewAndCopy.flatMap (·.2) := by simp [hlist]
  obtain rfl : c = copyOf fixed := by simpa [viewAndCopy] using hmem
  have hholds : (made fixed).At (HoldsFixed 0) ⟨0, 0⟩ :=
    holdsFixed_of_create (SetLayout.samplersFit_of_create fixed_created) made_created
  intro b o helement
  have hb : b = fixed.bindings.head (by decide) := by
    have hbinding := helement.binding
    exact (Option.some.inj hbinding).symm
  subst hb
  exact hholds _ o helement rfl sampler rfl

end FixedSampler

open FixedSampler in
/-- A view and a copy from a set of the same layout leave the sampler in place. -/
theorem sampler_stays : (made fixed).updates viewAndCopy = .ok kept ∧
    (SampledRecord.read kept.data 0).Holds sampler := by
  have hupdates : (made fixed).updates viewAndCopy = .ok kept := eq_ok_get _
  obtain ⟨x, hx, hholds⟩ := fixed_samplers_stay fixed_created made_created hupdates
    (.first rfl Nat.one_pos) rfl
  cases hx
  exact ⟨hupdates, hholds fun _ _ _ hmade _ => brings_sampler hmade⟩

open FixedSampler in
/-- A copy from a set whose layout has no immutable samplers puts the null sampler in its place. -/
theorem copy_replaces_sampler : ¬ ∀ (id device : Nat) (bindings : List LayoutBinding)
    (layout : SetLayout) (place : Option PoolPlace) (s s' : DescriptorSet)
    (list : List (List DescriptorWrite × List DescriptorCopy)) (k : ElementKey) (b : LayoutBinding)
    (o : Nat), SetLayout.create id device bindings = .ok layout → create layout place = .ok s →
    s.updates list = .ok s' → layout.Element k b o → b.usesImmutableSamplers = true →
    ∃ x, b.immutableSamplers[k.element]? = some x ∧ (SampledRecord.read s'.data o).Holds x := by
  intro hclaim
  obtain ⟨x, hx, hsampler, -⟩ := hclaim _ _ _ _ _ _ replaced _ _ _ _ fixed_created made_created
    updates_replaced (.first rfl Nat.one_pos) rfl
  cases hx
  exact absurd (hsampler.symm.trans sampler_replaced) (by decide)

end DescriptorSet

end HostGpu
