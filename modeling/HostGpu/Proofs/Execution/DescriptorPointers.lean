import HostGpu.Proofs.Descriptor.Layout
import HostGpu.Proofs.Execution.Ends
import HostGpu.Proofs.Shader.Objects

/-!
# Where descriptor pointers point

A descriptor pointer starts at the first record of the binding that a variable names.  Loads pass it
on, and so do instructions that join and split images and samplers; only access chains move it, each
by an index that is checked for itself (`DescriptorFrom`).  So as long as access chains start from
variables and no binding is empty, every descriptor pointer points to the record of an element of
the binding that the analysis attached to its object, and the record has the layout that the type of
the object calls for (`located_of_visits`).
-/

namespace HostGpu

open Outcome Spirv

/-! ## Objects that refer to records -/

namespace Shader

/-- The layout of the records that images refer to, by the declaration of their type: they are
either sampled or read and written texel by texel. -/
def imageRecord? (i : Instruction) : Option RecordKind :=
  match i.id 7 with
  | .ok 1 => some .sampled
  | .ok 2 => some .storage
  | _ => none

/-- The layout of the records that values of a type refer to, by at most `fuel` declarations. -/
def recordFrom (s : Shader) : (fuel : Nat) → (type : Nat) → Option RecordKind
  | 0, _ => none
  | fuel + 1, id => do
    let type ← s.declarations.types[id]?
    match type.op with
    | .opTypePointer | .opTypeArray | .opTypeRuntimeArray | .opTypeSampledImage =>
      s.recordFrom fuel type.elementId
    | .opTypeSampler => some .sampled
    | .opTypeStruct => some .buffer
    | .opTypeImage => imageRecord? (← (s.definition type.offset).toOption)
    | _ => none

/-- The layout of the records that an object refers to, by its type. -/
def objectRecord? (s : Shader) (id : Nat) : Option RecordKind := do
  s.recordFrom (s.declarations.types.size + 1) (← s.declarations.objects[id]?).type

/-- An object is a variable. -/
def isVariable (s : Shader) (id : Nat) : Bool :=
  s.declarations.objects[id]?.any fun info => info.kind matches .variable _

/-- Whether the operation is an access chain. -/
def isChain : Opcode → Bool
  | .opAccessChain | .opInBoundsAccessChain => true
  | _ => false

/-- The word of the operand whose record an operation reads, or joins to that of an image, and the
layout that it reads it with. -/
def recordOperand? : Opcode → Option (Nat × RecordKind)
  | .opImageRead | .opImageTexelPointer => some (3, .storage)
  | .opImageWrite => some (1, .storage)
  | .opSampledImage => some (4, .sampled)
  | op => if op.isSampling then some (3, .sampled) else none

/-- Objects refer to records as their types say: every object is declared once, after the one that
it is made from, and refers to records of the same layout as that one; and operands have the layout
that the operation reads. -/
structure KeepsRecords (s : Shader) : Prop where
  once : ObjectsOnce s.module.instructions
  first : SourcesFirst [] s.module.instructions
  forwarded : ∀ i ∈ s.module.instructions, ∀ id ∈ declaredObject? i, ∀ source ∈ source? i,
    s.declarations.slots[source]?.isSome → s.objectRecord? id = s.objectRecord? source
  operands : ∀ i ∈ s.module.instructions, ∀ p ∈ i.op?.bind recordOperand?,
    ∀ id ∈ (i.words[p.1]?).map (·.toNat), s.objectRecord? id = some p.2

instance (s : Shader) : Decidable s.KeepsRecords :=
  decidable_of_iff (ObjectsOnce s.module.instructions ∧ SourcesFirst [] s.module.instructions ∧
    (∀ i ∈ s.module.instructions, ∀ id ∈ declaredObject? i, ∀ source ∈ source? i,
      s.declarations.slots[source]?.isSome → s.objectRecord? id = s.objectRecord? source) ∧
    ∀ i ∈ s.module.instructions, ∀ p ∈ i.op?.bind recordOperand?,
      ∀ id ∈ (i.words[p.1]?).map (·.toNat), s.objectRecord? id = some p.2)
    ⟨fun ⟨once, first, forwarded, operands⟩ => ⟨once, first, forwarded, operands⟩,
      fun h => ⟨h.once, h.first, h.forwarded, h.operands⟩⟩

/-- Access chains into descriptors start from variables. -/
def ChainsStartAtVariables (s : Shader) : Prop :=
  ∀ i ∈ s.module.instructions, i.op?.any isChain = true → ∀ base ∈ source? i,
    s.declarations.slots[base]?.isSome → s.isVariable base = true

instance (s : Shader) : Decidable s.ChainsStartAtVariables :=
  inferInstanceAs (Decidable (∀ i ∈ s.module.instructions, _ → ∀ base ∈ source? i, _ → _))

end Shader

namespace PipelineLayout

/-- The binding that an object refers to. -/
def binding? (layout : PipelineLayout) (slot : Shader.DescriptorSlot) : Option LayoutBinding :=
  layout.setLayouts[slot.set]?.bind (·.find? slot.binding)

/-- Every binding has descriptors of the type that the variable calls for. -/
def Suits (layout : PipelineLayout) (s : Shader) : Prop :=
  ∀ id ∈ s.declarations.globals, ∀ slot ∈ s.declarations.slots[id]?, ∀ b ∈ layout.binding? slot,
    b.kind.record? = s.objectRecord? id

/-- No binding that a variable refers to is empty. -/
def Fills (layout : PipelineLayout) (s : Shader) : Prop :=
  ∀ id ∈ s.declarations.globals, ∀ slot ∈ s.declarations.slots[id]?, ∀ b ∈ layout.binding? slot,
    0 < b.count

instance (layout : PipelineLayout) (s : Shader) : Decidable (layout.Suits s) :=
  inferInstanceAs (Decidable (∀ id ∈ s.declarations.globals, ∀ slot ∈ s.declarations.slots[id]?,
    ∀ b ∈ layout.binding? slot, _))

instance (layout : PipelineLayout) (s : Shader) : Decidable (layout.Fills s) :=
  inferInstanceAs (Decidable (∀ id ∈ s.declarations.globals, ∀ slot ∈ s.declarations.slots[id]?,
    ∀ b ∈ layout.binding? slot, _))

end PipelineLayout

namespace Execution

open Shader

variable {e : Environment} {i : Instruction} {s s' : State} {id : Nat} {a : DescriptorAddress}
  {inputs : InterfaceValues} {machine : Machine} {offset : Nat}

/-! ## One instruction -/

/-- Where a descriptor pointer comes from that an object is after an instruction. -/
inductive DescriptorFrom (e : Environment) (s : State) (i : Instruction) (id : Nat)
    (a : DescriptorAddress) : Prop
  /-- It was there. -/
  | kept (h : s.values[id]? = some (.pointer (.descriptor a)))
  /-- It is the one of another object. -/
  | passed {op : Opcode} {source : Nat} (hop : i.op? = some op) (hforwards : forwards op = true)
      (hid : i.id 2 = .ok id) (hsource : i.id 3 = .ok source)
      (h : s.values[source]? = some (.pointer (.descriptor a)))
  /-- An index leads to it. -/
  | indexed {op : Opcode} {base : Nat} {first : DescriptorAddress} (hop : i.op? = some op)
      (hchain : isChain op = true) (hid : i.id 2 = .ok id) (hbase : i.id 3 = .ok base)
      (h : s.values[base]? = some (.pointer (.descriptor first)))
      (hindex : indexedDescriptor e s i base first = .ok a)

/-- All descriptor pointers of a state come from somewhere. -/
def Traces (e : Environment) (s : State) (i : Instruction) (s' : State) : Prop :=
  ∀ (id : Nat) (a : DescriptorAddress), s'.values[id]? = some (.pointer (.descriptor a)) →
    DescriptorFrom e s i id a

theorem Traces.of_values (h : s'.values = s.values) : Traces e s i s' :=
  fun _ _ hv => .kept (h ▸ hv)

theorem Traces.withValue {v : Value} (h : Traces e s i s')
    (hv : ∀ a, v = .pointer (.descriptor a) → DescriptorFrom e s i id a) :
    Traces e s i (s'.withValue id v) := by
  intro id' a ha
  rw [State.getElem?_withValue] at ha
  split at ha
  case isTrue heq => exact heq ▸ hv a (Option.some.inj ha)
  case isFalse => exact h id' a ha

theorem traces_define {v : Value}
    (hv : ∀ a, v = .pointer (.descriptor a) → DescriptorFrom e s i id a) :
    Leaves (Traces e s i) (define id v) s :=
  ends_define trivial fun _ => (Traces.of_values rfl).withValue hv

theorem traces_compute (f : State → Except Fault (List WordLanes)) :
    Leaves (Traces e s i) (compute i f) s :=
  leaves_compute fun _ _ => (Traces.of_values rfl).withValue nofun

theorem storedState_values {value : Operand} {target : Target}
    (h : storedState e s value target = .ok s') : s'.values = s.values := by
  cases target with
  | descriptor address => cases h
  | «variable» id offsets =>
    simp only [storedState, bind_eq_ok, pure_eq_ok] at h
    obtain ⟨_, -, rfl⟩ := h
    rfl
  | texel p =>
    simp only [storedState, bind_eq_ok, pure_eq_ok] at h
    obtain ⟨_, -, rfl⟩ := h
    rfl

theorem traces_executeStore : Leaves (Traces e s i) (executeStore e i) s := by
  refine leaves_inspect_bind fun s' hs' => ends_set ?_
  simp only [bind_eq_ok] at hs'
  obtain ⟨_, -, _, -, _, -, _, -, hs'⟩ := hs'
  exact .of_values (storedState_values hs')

theorem traces_imageWrite :
    Leaves (Traces e s i) (do set (← inspect fun s => e.imageWrite s i)) s := by
  refine leaves_inspect_bind fun s' hs' => ends_set ?_
  simp only [Environment.imageWrite, bind_eq_ok, pure_eq_ok] at hs'
  obtain ⟨_, -, rfl⟩ := hs'
  exact .of_values rfl

theorem traces_executeAtomicAdd : Leaves (Traces e s i) (executeAtomicAdd e i) s := by
  refine leaves_lift_bind fun id _ => ?_
  refine leaves_inspect_bind fun p hp => ?_
  obtain ⟨previous, s'⟩ := p
  simp only [bind_eq_ok] at hp
  obtain ⟨_, -, _, -, _, -, _, -, _, -, hp⟩ := hp
  have hs' : Ends (fun _ => Traces e s i) (fun _ => True) (set s') s :=
    ends_set (.of_values (atomicAdd_values hp))
  exact hs'.bind fun _ _ hs' => ends_define trivial fun _ => hs'.withValue nofun

theorem traces_executeSampling (op : Opcode) :
    Leaves (Traces e s i) (executeSampling e i op) s := by
  refine leaves_lift_bind fun site _ => ?_
  refine leaves_lift_bind fun count _ => ?_
  have hdefine (texels : Lanes Texel) (s' : State) (hs' : s.SameButMachine s') :
      Ends (fun _ => Traces e s i) (fun _ => True)
        (defineComponents site.result ((Texel.channels texels).take count)) s' := by
    obtain ⟨machine, rfl⟩ := hs'
    have hsame : Traces e s i { s with machine } := .of_values rfl
    exact ends_define trivial fun _ => hsame.withValue nofun
  split
  · refine (ends_sampleTexels trivial (.any fun _ => trivial) (fun _ _ => .any fun _ => trivial)
      (.any fun _ => trivial)).bind fun texels s' hs' => hdefine texels s' hs'
  · exact hdefine _ s ⟨s.machine, rfl⟩

theorem traces_executeLoad (hop : i.op? = some .opLoad) :
    Leaves (Traces e s i) (executeLoad e i) s := by
  refine leaves_lift_bind fun type _ => ?_
  refine leaves_lift_bind fun id hid => ?_
  refine leaves_lift_bind fun source hsource => ?_
  refine leaves_inspect_bind fun v hv => ?_
  refine traces_define ?_
  rintro a rfl
  obtain ⟨target, htarget, hv⟩ := bind_eq_ok.mp hv
  cases target with
  | descriptor address =>
    simp only [loadedValue, ite_ok_error] at hv
    cases hv.2
    exact .passed hop rfl hid hsource (State.target_eq_ok.mp htarget)
  | «variable» _ _ =>
    simp only [loadedValue, bind_eq_ok, pure_eq_ok] at hv
    obtain ⟨_, -, ⟨⟩⟩ := hv
  | texel _ => cases hv

theorem traces_executeAccessChain {op : Opcode} (hop : i.op? = some op)
    (hchain : isChain op = true) : Leaves (Traces e s i) (executeAccessChain e i) s := by
  refine leaves_lift_bind fun id hid => ?_
  refine leaves_lift_bind fun base hbase => ?_
  refine leaves_inspect_bind fun t ht => ?_
  refine traces_define ?_
  rintro a ⟨⟩
  obtain ⟨target, htarget, ht⟩ := bind_eq_ok.mp ht
  cases target with
  | descriptor first =>
    simp only [chainTarget, bind_eq_ok, pure_eq_ok, Target.descriptor.injEq] at ht
    obtain ⟨a', ha', rfl⟩ := ht
    exact .indexed hop hchain hid hbase (State.target_eq_ok.mp htarget) ha'
  | «variable» _ _ =>
    simp only [chainTarget, bind_eq_ok, pure_eq_ok] at ht
    obtain ⟨_, -, _, -, _, -, ⟨⟩⟩ := ht
  | texel _ => cases ht

theorem traces_forward {op : Opcode} (hop : i.op? = some op) (hforwards : forwards op = true) :
    Leaves (Traces e s i) (do
      let target ← inspect fun s => do s.target (← i.id 3)
      definePointer (← liftM (i.id 2)) target) s := by
  refine leaves_inspect_bind fun t ht => ?_
  refine leaves_lift_bind fun id hid => ?_
  refine traces_define ?_
  rintro a ⟨⟩
  obtain ⟨source, hsource, ht⟩ := bind_eq_ok.mp ht
  exact .passed hop hforwards hid hsource (State.target_eq_ok.mp ht)

/-- **Where the descriptor pointers come from** that there are after an instruction. -/
theorem traces_step (e : Environment) (i : Instruction) (s : State) :
    Leaves (Traces e s i) (step e i) s := by
  have hsame : Traces e s i s := .of_values rfl
  refine ends_step hsame trivial (.any fun _ => trivial) fun op hop => ?_
  unfold execute
  split
  case h_1 | h_2 | h_3 | h_4 | h_5 => exact ends_pure hsame
  case h_6 =>
    refine leaves_lift_bind fun id _ => ?_
    refine leaves_lift_bind fun storage _ => ?_
    have hsame : Traces e s i (s.setStorage id storage) := .of_values rfl
    exact ends_createVariable trivial fun _ => hsame.withValue nofun
  case h_8 => exact traces_executeLoad hop
  case h_9 => exact traces_executeStore
  case h_10 | h_11 => exact traces_executeAccessChain hop rfl
  case h_15 =>
    exact leaves_lift_bind fun _ _ => traces_compute _
  case h_20 => exact traces_imageWrite
  case h_21 =>
    refine leaves_inspect_bind fun p _ => ?_
    refine leaves_lift_bind fun id _ => ?_
    exact ends_define trivial fun _ => hsame.withValue nofun
  case h_22 | h_23 => exact traces_forward hop rfl
  case h_24 => exact traces_executeAtomicAdd
  case h_25 =>
    split
    · exact traces_compute _
    · exact traces_compute _
    · split
      · exact traces_executeSampling op
      · exact ends_throw trivial
  all_goals exact traces_compute _

/-! ## Whole runs -/

/-- A descriptor pointer of an object points to the record of an element of the binding that the
object refers to, in the set that is bound there. -/
structure Located (e : Environment) (id : Nat) (a : DescriptorAddress) (slot : DescriptorSlot)
    (l : SetLayout) (b : LayoutBinding) (k : Nat) : Prop where
  attached : e.declarations.slots[id]? = some slot
  bound : e.bound[slot.set]? = some (some a.set)
  layout : e.layout.setLayouts[slot.set]? = some l
  element : l.Element ⟨slot.binding, k⟩ b a.offset
  record : b.kind.record? = e.shader.objectRecord? id
  first : e.shader.isVariable id = true → k = 0

/-- All descriptor pointers of a state do. -/
def AllLocated (e : Environment) (s : State) : Prop :=
  ∀ (id : Nat) (a : DescriptorAddress), s.values[id]? = some (.pointer (.descriptor a)) →
    ∃ slot l b k, Located e id a slot l b k

theorem setLayout_eq_ok {p : PipelineLayout} {set : Nat} {l : SetLayout} :
    p.setLayout set = .ok l ↔ p.setLayouts[set]? = some l := by
  rw [PipelineLayout.setLayout]
  cases p.setLayouts[set]? with
  | none => exact ⟨nofun, nofun⟩
  | some l' => simp

theorem AllLocated.withValue {v : Value} (h : AllLocated e s)
    (hv : ∀ a, v = .pointer (.descriptor a) → ∃ slot l b k, Located e id a slot l b k) :
    AllLocated e (s.withValue id v) := by
  intro id' a ha
  rw [State.getElem?_withValue] at ha
  split at ha
  case isTrue heq => exact heq ▸ hv a (Option.some.inj ha)
  case isFalse => exact h id' a ha

section

variable (hsuits : e.layout.Suits e.shader) (hfills : e.layout.Fills e.shader)
include hsuits hfills

/-- A variable starts at the first record of its binding. -/
theorem located_bindingAddress {slot : DescriptorSlot} (hid : id ∈ e.declarations.globals)
    (hslot : e.declarations.slots[id]? = some slot)
    (ha : e.bindingAddress slot.set slot.binding = .ok a) :
    ∃ l b, Located e id a slot l b 0 := by
  simp only [Environment.bindingAddress] at ha
  split at ha
  case h_1 number hnumber =>
    simp only [PipelineLayout.bindingOffset, bind_eq_ok, pure_eq_ok] at ha
    obtain ⟨o, ⟨l, hl, ho⟩, rfl⟩ := ha
    rw [setLayout_eq_ok] at hl
    obtain ⟨b, hb⟩ := SetLayout.exists_find_of_bindingOffset ho
    have hbinding : b ∈ e.layout.binding? slot := by
      rw [PipelineLayout.binding?, hl]
      exact hb
    refine ⟨l, b, hslot, Option.join_eq_some_iff.mp hnumber, hl, ⟨hb, ?_, ho⟩, ?_, fun _ => rfl⟩
    · exact hfills id hid slot hslot b hbinding
    · exact hsuits id hid slot hslot b hbinding
  case h_2 => cases ha

theorem located_initGlobal (hid : id ∈ e.declarations.globals) (hs : AllLocated e s) :
    Leaves (AllLocated e) (e.initGlobal inputs id) s := by
  refine leaves_lift_bind fun info _ => ?_
  split
  case h_1 storageClass _ =>
    split
    case isTrue =>
      split
      case h_1 slot hslot =>
        refine leaves_lift_bind fun a ha => ends_define trivial fun _ => hs.withValue ?_
        rintro _ ⟨⟩
        obtain ⟨l, b, hlocated⟩ := located_bindingAddress hsuits hfills hid hslot ha
        exact ⟨slot, l, b, 0, hlocated⟩
      case h_2 => exact ends_pure hs
    case isFalse =>
      have hcreate (storage : List WordLanes) :
          Leaves (AllLocated e) (createVariable id storage) s :=
        ends_createVariable trivial fun _ =>
          AllLocated.withValue (s := s.setStorage id storage) hs nofun
      refine leaves_lift_bind fun storage _ => ?_
      dsimp only
      split
      · exact leaves_lift_bind fun storage _ => hcreate storage
      · exact hcreate storage
  case h_2 => exact ends_pure hs

end

/-- From the first record of a binding, an index leads to the record of an element. -/
theorem exists_element_of_indexed {base : Nat} {first : DescriptorAddress} {slot : DescriptorSlot}
    {l : SetLayout} {b : LayoutBinding} (h : Located e base first slot l b 0)
    (hindex : indexedDescriptor e s i base first = .ok a) :
    ∃ index, l.Element ⟨slot.binding, index⟩ b a.offset ∧ a.set = first.set := by
  simp only [indexedDescriptor, throw_eq_error, error_bind, ite_error_eq_ok, bind_eq_ok,
    pure_eq_ok] at hindex
  obtain ⟨-, slot', hslot, l', hl, b', hb, _, -, index, -, hlt, rfl⟩ := hindex
  obtain rfl : slot = slot' :=
    Option.some.inj (h.attached.symm.trans (Declarations.slot_eq_ok.mp hslot))
  obtain rfl : l = l' := Option.some.inj (h.layout.symm.trans (setLayout_eq_ok.mp hl))
  obtain rfl : b = b' :=
    Option.some.inj (h.element.binding.symm.trans (SetLayout.binding_eq_ok.mp hb))
  refine ⟨index, ⟨h.element.binding, Nat.lt_of_not_le hlt, ?_⟩, rfl⟩
  obtain ⟨_, -, -, hoffset⟩ := SetLayout.exists_bindingOffset h.element.binding
  have hfirst := Except.ok.inj (h.element.offset.symm.trans (hoffset 0))
  dsimp only at hfirst ⊢
  rw [hoffset, hfirst, Nat.mul_zero, Nat.add_zero]

section

variable (he : e.shader.IsAnalysed) (hkeeps : e.shader.KeepsRecords)
include he hkeeps

/-- An object that is made from another one is no variable, and refers to the same binding. -/
theorem Located.forward {op : Opcode} {source k k' : Nat} {a' : DescriptorAddress}
    {slot : DescriptorSlot} {l : SetLayout} {b : LayoutBinding}
    (hi : i ∈ e.shader.module.instructions) (hop : i.op? = some op) (hforwards : forwards op = true)
    (hid : i.id 2 = .ok id) (hsource : i.id 3 = .ok source) (h : Located e source a slot l b k)
    (hset : a'.set = a.set) (helement : l.Element ⟨slot.binding, k'⟩ b a'.offset) :
    Located e id a' slot l b k' := by
  have hdeclares := declaresObject_of_forwards hforwards
  have hattached : e.declarations.slots[id]? = some slot :=
    (he.slot_eq hkeeps.once hi hkeeps.first hop hforwards hid hsource).trans h.attached
  have hrecord := hkeeps.forwarded i hi id (declaredObject?_eq hop hdeclares hid) source
    (source?_eq hop hforwards hsource) (Option.isSome_of_eq_some h.attached)
  refine ⟨hattached, hset ▸ h.bound, h.layout, helement, h.record.trans hrecord.symm, ?_⟩
  intro hvariable
  -- a result is no variable
  obtain ⟨info, hinfo, -, d, hkind⟩ := he.exists_object hkeeps.once hi hop hdeclares hid
  rw [isVariable, hinfo, Option.any_some] at hvariable
  rcases hkind.of_forwards hforwards with hresult | hresult <;> rw [hresult] at hvariable <;>
    cases hvariable

theorem located_step (hchains : e.shader.ChainsStartAtVariables)
    (hi : i ∈ e.shader.module.instructions) (hs : AllLocated e s) :
    Leaves (AllLocated e) (step e i) s := by
  refine (traces_step e i s).mono fun _ s' htraces id a ha => ?_
  cases htraces id a ha with
  | kept h => exact hs id a h
  | passed hop hforwards hid hsource h =>
    obtain ⟨slot, l, b, k, hlocated⟩ := hs _ _ h
    exact ⟨slot, l, b, k,
      hlocated.forward he hkeeps hi hop hforwards hid hsource rfl hlocated.element⟩
  | @indexed op base first hop hchain hid hbase h hindex =>
    obtain ⟨slot, l, b, k, hlocated⟩ := hs _ _ h
    have hforwards : forwards op = true := by
      cases op <;> first | rfl | cases hchain
    have hvariable : e.shader.isVariable base = true :=
      hchains i hi (by rw [hop]; exact hchain) base (source?_eq hop hforwards hbase)
        (Option.isSome_of_eq_some hlocated.attached)
    obtain rfl := hlocated.first hvariable
    obtain ⟨index, helement, hset⟩ := exists_element_of_indexed hlocated hindex
    exact ⟨slot, l, b, index,
      hlocated.forward he hkeeps hi hop hforwards hid hbase hset helement⟩

/-- **Descriptor pointers stay** on the bindings of their objects. -/
theorem located_of_visits (hchains : e.shader.ChainsStartAtVariables)
    (hsuits : e.layout.Suits e.shader) (hfills : e.layout.Fills e.shader)
    (hs : Visits e inputs machine s offset) : AllLocated e s :=
  hs.induction he (fun _ hid _ => located_initGlobal hsuits hfills hid)
    (fun _ _ h => by simp at h) fun _ hi _ => located_step he hkeeps hchains hi

end

end Execution

end HostGpu
