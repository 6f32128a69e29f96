import HostGpu.Proofs.Execution.LaneLocal.Texels

/-!
# Sampling lane by lane

What a sampling function is called with agrees in both runs, and so does what it gives if it works
lane by lane itself.  Which function is called depends on no lane: the descriptor, the sampler and
the view are the same, and so are the functions that machines keep.
-/

namespace HostGpu.Execution

open Lanes Outcome Spirv Shader

variable {on : Lane → Prop} {P : SamplingFunction → Prop}

/-! ## Inputs -/

namespace Environment

theorem projected_alike (variant : SamplingVariant) {r r' : List WordLanes}
    (h : RowsAgree on r r') :
    Alike (fun c c' => RowsAgree on c.1 c'.1 ∧ Option.Rel (Lanes.AgreeOn on) c.2 c'.2)
      (projected variant r) (projected variant r') := by
  have hlast := RowsAgree.getLast? h
  rw [projected, projected]
  split
  · generalize r.getLast? = q at hlast ⊢
    generalize r'.getLast? = q' at hlast ⊢
    cases hlast with
    | none => exact .error _
    | some hq =>
      exact .ok ⟨List.rel_map (fun _ _ hv => hv.zipWith hq _) (RowsAgree.dropLast h), .some hq⟩
  · exact .ok ⟨h, .none⟩

variable (e : Environment) (x y mask : WordLanes) {s s' : State} (hs : s.AgreeOn on P s')
include hs

theorem optionalComponents_alike (id : Option Nat) :
    Alike (RowsAgree on) (e.optionalComponents s id)
      ((e.moved x y mask).optionalComponents s' id) := by
  cases id with
  | none => exact .ok .nil
  | some id => exact (operand_alike e x y mask hs id).bind fun _ _ h => .ok h.components

theorem optionalFirst_alike (id : Option Nat) :
    Alike (RowsAgree on) (e.optionalFirst s id) ((e.moved x y mask).optionalFirst s' id) := by
  cases id with
  | none => exact .ok .nil
  | some id =>
    exact (operand_alike e x y mask hs id).bind fun _ _ h => (h.component 0).bind fun _ _ hv =>
      .ok (.cons hv .nil)

variable (i : SamplingInstruction)

theorem methodInputs_alike :
    Alike (RowsAgree on) (e.methodInputs s i) ((e.moved x y mask).methodInputs s' i) := by
  rw [methodInputs, methodInputs]
  cases i.operands.lod.or i.operands.bias with
  | some id => exact optionalFirst_alike e x y mask hs (some id)
  | none =>
    cases i.operands.gradient with
    | none => exact .ok (RowsAgree.refl _)
    | some gradient =>
      exact (operand_alike e x y mask hs gradient.1).bind fun _ _ hdx =>
        (operand_alike e x y mask hs gradient.2).bind fun _ _ hdy =>
          .ok (List.rel_append hdx.components hdy.components)

theorem givenInputs_alike :
    Alike (RowsAgree on) (e.givenInputs s i) ((e.moved x y mask).givenInputs s' i) := by
  refine (operand_alike e x y mask hs i.coordinate).bind fun _ _ hcoordinate => ?_
  refine (projected_alike _ hcoordinate.components).bind fun c c' hc => ?_
  obtain ⟨hcoordinates, hdivisor⟩ := hc
  refine (optionalFirst_alike e x y mask hs i.dref).bind fun dref dref' hdref => ?_
  refine (methodInputs_alike e x y mask hs i).bind fun _ _ hmethod => ?_
  refine (optionalComponents_alike e x y mask hs i.operands.constOffset).bind fun _ _ hoffset => ?_
  refine (optionalFirst_alike e x y mask hs i.operands.sample).bind fun _ _ hsample => ?_
  have hdivided : RowsAgree on (dref.map fun d => c.2.elim d d.divFloat)
      (dref'.map fun d => c'.2.elim d d.divFloat) := by
    refine List.rel_map (fun d d' hd => ?_) hdref
    generalize c.2 = q at hdivisor ⊢
    generalize c'.2 = q' at hdivisor ⊢
    cases hdivisor with
    | none => exact hd
    | some hq => exact hd.zipWith hq _
  exact .ok (List.rel_append (List.rel_append (List.rel_append (List.rel_append hcoordinates
    hdivided) hmethod) hoffset) hsample)

theorem samplingInputs_alike :
    Alike (RowsAgree on) (e.samplingInputs s i) ((e.moved x y mask).samplingInputs s' i) := by
  refine (givenInputs_alike e x y mask hs i).bind fun given given' hgiven => ?_
  dsimp only
  rw [hgiven.length_eq]
  split
  · exact .error _
  · exact .ok (List.rel_append hgiven (RowsAgree.refl _))

theorem samplerOf_eq (sampledImage : Nat) (image : DescriptorAddress) :
    (e.moved x y mask).samplerOf s' sampledImage image = e.samplerOf s sampledImage image := by
  simp only [samplerOf, hs.descriptor]
  rfl

end Environment

/-! ## Functions -/

/-- A sampling function computes the lanes that count from the same lanes of its inputs. -/
def LaneLocal (on : Lane → Prop) (f : SamplingFunction) : Prop :=
  ∀ (blocks : BlockTable) (texture : Texture) (inputs inputs' : List WordLanes),
    RowsAgree on inputs inputs' → (f blocks texture inputs).AgreeOn on (f blocks texture inputs')

/-- Inputs are passed on lane by lane. -/
theorem laneLocal_copyInputs (first : Nat) : LaneLocal on (.copyInputs first) :=
  fun _ _ _ _ hinputs => ofChannels_agree (List.forall₂_drop first hinputs)

/-- A device that has a function built or kept finds functions like those of its machine. -/
theorem Machine.Keeps.resolve {m : Machine} (hm : m.Keeps P) {key : SamplingKey}
    {r : Device.Resolution} (h : m.device.resolve key = .ok r) :
    P r.function ∧ ({ m with device := r.device } : Machine).Keeps P := by
  rw [Device.resolve] at h
  cases hfunction : m.device.function? key with
  | some f =>
    rw [hfunction] at h
    cases h
    rw [Device.function?, Option.map_eq_some_iff] at hfunction
    obtain ⟨entry, hentry, rfl⟩ := hfunction
    exact ⟨hm.kept entry (List.mem_of_find?_eq_some hentry), hm⟩
  | none =>
    rw [hfunction] at h
    cases hbuilder : m.device.builder with
    | none => rw [hbuilder] at h; cases h
    | some build =>
      rw [hbuilder] at h
      cases h
      have hbuilt := hm.built build hbuilder (m.device.request key)
      refine ⟨hbuilt, fun build' h => hm.built build' (hbuilder.trans h), fun entry hentry => ?_,
        hm.cached⟩
      rcases List.mem_append.mp hentry with hentry | hentry
      · exact hm.kept entry hentry
      · rw [List.mem_singleton.mp hentry]
        exact hbuilt

namespace EndsAlike

variable {s s' : State} (hs : s.AgreeOn on P s')
include hs

theorem note {event event' : SamplingEvent} (h : event.AgreeOn on event') :
    EndsAlike (State.AgreeOn on P) Eq ((modify (·.note event) : Run Unit).run s)
      ((modify (·.note event') : Run Unit).run s') := by
  obtain ⟨hm, hvalues, hstorages⟩ := hs
  exact ⟨.ok rfl, ⟨hm.blocks, hm.device, hm.cache, .cons h hm.events,
    ⟨hm.keeps.built, hm.keeps.kept, hm.keeps.cached⟩⟩, hvalues, hstorages⟩

/-- Asking a resolver gives both runs one function. -/
theorem ask {resolver : Resolver} (hresolver : Supplies P resolver) (key : SamplingKey) :
    EndsAlike (State.AgreeOn on P) (fun f f' => f = f' ∧ P f) ((Execution.ask resolver key).run s)
      ((Execution.ask resolver key).run s') := by
  cases resolver with
  | own find =>
    exact (note hs (.same _)).bind fun _ _ t t' _ _ ht => .pure ht ⟨rfl, hresolver key⟩
  | device =>
    refine (note hs (.same _)).bind fun _ _ t t' _ _ ht => ?_
    have hresolve : Alike (fun r r' => r = r' ∧ t.machine.device.resolve key = .ok r)
        (t.machine.device.resolve key) (t'.machine.device.resolve key) := by
      rw [← ht.machine.device]
      cases t.machine.device.resolve key with
      | error fault => exact .error fault
      | ok r => exact .ok ⟨rfl, rfl⟩
    refine .inspect_bind ht hresolve fun r r' _ hr => ?_
    obtain ⟨rfl, hr⟩ := hr
    obtain ⟨hfunction, hkeeps⟩ := ht.machine.keeps.resolve hr
    have hdevice : EndsAlike (State.AgreeOn on P) Eq
        ((modify fun s => { s with machine := { s.machine with device := r.device } } :
          Run Unit).run t)
        ((modify fun s => { s with machine := { s.machine with device := r.device } } :
          Run Unit).run t') :=
      ⟨.ok rfl, ⟨ht.machine.blocks, rfl, ht.machine.cache, ht.machine.events, hkeeps⟩, ht.values,
        ht.storages⟩
    refine hdevice.bind fun _ _ u u' _ _ hu => ?_
    cases r.request with
    | none => exact .pure hu ⟨rfl, hfunction⟩
    | some request =>
      exact (note hu (.same _)).bind fun _ _ _ _ _ _ hv => .pure hv ⟨rfl, hfunction⟩

variable {e : Environment} {x y mask : WordLanes} (h : e.AgreeOn on P x y mask)
include h

/-- A call site finds one function in both runs. -/
theorem findFunction (i : SamplingInstruction) (image : DescriptorAddress) (sampler : Nat) :
    EndsAlike (State.AgreeOn on P) (fun f f' => f = f' ∧ P f)
      ((Execution.findFunction e i image sampler).run s)
      ((Execution.findFunction (e.moved x y mask) i image sampler).run s') := by
  refine .get_bind ?_
  rw [← hs.machine.cache]
  cases hhit : s.machine.cache[i.callSite]?.bind (·.hit? image sampler) with
  | some f =>
    obtain ⟨entry, hentry, hf⟩ := Option.bind_eq_some_iff.mp hhit
    rw [CallSiteEntry.hit?, Option.ite_none_right_eq_some] at hf
    exact .pure hs ⟨rfl, hs.machine.keeps.cached entry (List.mem_of_getElem? hentry) f hf.2⟩
  | none =>
    refine (ask hs h.supplies _).bind fun f f' t t' _ hf ht => ?_
    obtain ⟨rfl, hf⟩ := hf
    have hcache : EndsAlike (State.AgreeOn on P) Eq
        ((modify fun s => { s with machine := { s.machine with
          cache := s.machine.cache.set i.callSite ⟨some image, sampler, some f⟩ } } :
          Run Unit).run t)
        ((modify fun s => { s with machine := { s.machine with
          cache := s.machine.cache.set i.callSite ⟨some image, sampler, some f⟩ } } :
          Run Unit).run t') := by
      obtain ⟨hm, hvalues, hstorages⟩ := ht
      refine ⟨.ok rfl, ⟨hm.blocks, hm.device, ?_, hm.events, hm.keeps.built, hm.keeps.kept, ?_⟩,
        hvalues, hstorages⟩
      · exact congrArg (List.set · i.callSite _) hm.cache
      · intro entry hentry f' hf'
        rcases List.mem_or_eq_of_mem_set hentry with hentry | rfl
        · exact hm.keeps.cached entry hentry f' hf'
        · cases hf'
          exact hf
    exact hcache.bind fun _ _ _ _ _ _ hu => .pure hu ⟨rfl, hf⟩

/-- Functions that work lane by lane give texels that agree. -/
theorem sampleTexels (hP : ∀ f, P f → LaneLocal on f) (i : SamplingInstruction) :
    EndsAlike (State.AgreeOn on P) (Lanes.AgreeOn on) ((Execution.sampleTexels e i).run s)
      ((Execution.sampleTexels (e.moved x y mask) i).run s') := by
  have himage : Alike Eq (s.descriptor i.sampledImage) (s'.descriptor i.sampledImage) := by
    rw [hs.descriptor]
    exact .same _ fun _ => rfl
  refine .inspect_bind hs himage fun image _ _ heq => ?_
  subst heq
  have hsampler : Alike Eq (e.samplerOf s i.sampledImage image)
      ((e.moved x y mask).samplerOf s' i.sampledImage image) := by
    rw [Environment.samplerOf_eq e x y mask hs]
    exact .same _ fun _ => rfl
  refine .inspect_bind hs hsampler fun sampler _ _ heq => ?_
  subst heq
  refine (findFunction hs h i image sampler).bind fun f _ t t' _ hf ht => ?_
  obtain ⟨rfl, hf⟩ := hf
  refine .inspect_bind ht (Environment.samplingInputs_alike e x y mask ht i)
    fun inputs inputs' _ hinputs => ?_
  refine (note ht (.called f _ hinputs)).bind fun _ _ u u' _ _ hu => ?_
  refine .get_bind (.pure hu ?_)
  rw [← hu.machine.blocks]
  exact hP f hf _ _ _ _ hinputs

/-- Sampling instructions give components that agree: some lane is active in both runs, so both
sample. -/
theorem executeSampling (hP : ∀ f, P f → LaneLocal on f) (i : Instruction) (op : Opcode) :
    EndsAlike (State.AgreeOn on P) Eq ((Execution.executeSampling e i op).run s)
      ((Execution.executeSampling (e.moved x y mask) i op).run s') := by
  have hactive : e.active.anyOn = true := (anyOn_eq_true_iff _).mpr ⟨_, h.active _ h.lead⟩
  have hmask : mask.anyOn = true := (anyOn_eq_true_iff _).mpr ⟨_, h.moved _ h.lead⟩
  refine .lift_bind_same hs fun i _ => .lift_bind_same hs fun count _ => ?_
  rw [hactive, Environment.moved_active, hmask]
  refine (sampleTexels hs h hP i).bind fun texels texels' t t' _ htexels ht => ?_
  exact .defineComponents ht i.result (List.forall₂_take _ (channels_agree htexels))

end EndsAlike

end HostGpu.Execution
