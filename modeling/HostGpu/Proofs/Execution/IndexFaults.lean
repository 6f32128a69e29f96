import HostGpu.Proofs.Execution.Ends
import HostGpu.Proofs.Shader.Typing

/-!
# Faults because of an index

Components, coordinates and constants are looked up by index, and an index that is out of range is a
fault.  What only looks up declarations, values of identifiers and descriptors never faults so
(`NoIndexFault`), as long as the declarations come from an analysis: then every type and every
object is defined by an instruction of the module (`noIndexFault_definition`).
-/

namespace HostGpu

open Outcome Spirv

/-- Whether a fault says that there is no component of some index. -/
def Fault.isIndex : Fault → Bool
  | .indexOutOfRange | .emptyCoordinates => true
  | _ => false

/-- Whatever a computation ends with has a property, and it has no fault because of an index. -/
abbrev InRange {α : Type} (P : α → Prop) (x : Except Fault α) : Prop :=
  Results P (fun fault => fault.isIndex = false) x

/-- A computation has no fault because of an index. -/
abbrev NoIndexFault {α : Type} (x : Except Fault α) : Prop := InRange (fun _ => True) x

theorem inRange_mapM {α β : Type} {f : α → Except Fault β} {list : List α}
    (h : ∀ a ∈ list, NoIndexFault (f a)) :
    InRange (fun row => row.length = list.length) (list.mapM f) := by
  induction list with
  | nil => exact rfl
  | cons a list ih =>
    rw [List.forall_mem_cons] at h
    rw [List.mapM_cons]
    exact h.1.bind fun _ _ _ => (ih h.2).bind fun row _ hrow => congrArg (· + 1) hrow

namespace Shader

variable {s : Shader} {d : Declarations} {i : Instruction}

/-! ## Declarations -/

theorem noIndexFault_word (i : Instruction) (index : Nat) : NoIndexFault (i.word index) := by
  unfold Instruction.word
  split <;> trivial

theorem noIndexFault_id (i : Instruction) (index : Nat) : NoIndexFault (i.id index) :=
  (noIndexFault_word i index).bind fun _ _ _ => trivial

theorem noIndexFault_type (d : Declarations) (id : Nat) : NoIndexFault (d.type id) := by
  unfold Declarations.type
  split <;> trivial

theorem noIndexFault_object (d : Declarations) (id : Nat) : NoIndexFault (d.object id) := by
  unfold Declarations.object
  split <;> trivial

theorem noIndexFault_slot (d : Declarations) (id : Nat) : NoIndexFault (d.slot id) := by
  unfold Declarations.slot
  split <;> trivial

theorem noIndexFault_objectType (d : Declarations) (id : Nat) : NoIndexFault (d.objectType id) :=
  (noIndexFault_object d id).bind fun _ _ _ => noIndexFault_type d _

theorem noIndexFault_componentCount (d : Declarations) (id : Nat) :
    NoIndexFault (d.componentCount id) :=
  (noIndexFault_type d id).bind fun _ _ _ => trivial

theorem noIndexFault_constant (d : Declarations) (id : Nat) : NoIndexFault (d.constant id) := by
  refine (noIndexFault_object d id).bind fun info _ _ => ?_
  cases info.kind <;> trivial

theorem noIndexFault_callSite (d : Declarations) (offset : Nat) :
    NoIndexFault (d.callSite offset) := by
  unfold Declarations.callSite
  split <;> trivial

theorem noIndexFault_attachment (d : Declarations) (id : Nat) : NoIndexFault (d.attachment id) := by
  refine (noIndexFault_slot d id).bind fun slot _ _ => ?_
  cases slot.attachment <;> trivial

theorem noIndexFault_pastMembers (d : Declarations) (offset : WordLanes) (ids : List UInt32) :
    NoIndexFault (pastMembers d offset ids) := by
  induction ids generalizing offset with
  | nil => trivial
  | cons id rest ih => exact (noIndexFault_componentCount d _).bind fun _ _ _ => ih _

theorem noIndexFault_member (index : ChainIndex) : NoIndexFault index.member := by
  cases index with
  | literal index =>
    rw [ChainIndex.member]
    split <;> trivial
  | lanes _ => rfl

/-! ### Operands of image instructions -/

theorem noIndexFault_take (i : Instruction) (mask bit : UInt32) (index : Nat) :
    NoIndexFault (ImageOperands.take i mask bit index) := by
  unfold ImageOperands.take
  split
  · trivial
  · exact (noIndexFault_id i index).bind fun _ _ _ => trivial

theorem noIndexFault_checkBits (mask allowed : UInt32) :
    NoIndexFault (ImageOperands.checkBits mask allowed) := by
  unfold ImageOperands.checkBits
  dsimp only
  split <;> trivial

theorem noIndexFault_read (i : Instruction) (index : Nat) :
    NoIndexFault (ImageOperands.read i index) := by
  unfold ImageOperands.read
  split
  · trivial
  refine (noIndexFault_word i index).bind fun _ _ _ => ?_
  refine (noIndexFault_take i _ _ _).bind fun _ _ _ => ?_
  refine (noIndexFault_take i _ _ _).bind fun _ _ _ => ?_
  refine (noIndexFault_take i _ _ _).bind fun _ _ _ => ?_
  refine (noIndexFault_take i _ _ _).bind fun _ _ _ => ?_
  refine (noIndexFault_take i _ _ _).bind fun _ _ _ => ?_
  refine (noIndexFault_take i _ _ _).bind fun _ _ _ => ?_
  exact (noIndexFault_checkBits _ _).bind fun _ _ _ => trivial

/-- A sample that is read alone is the one that was announced. -/
theorem inRange_sampleOnly (o : ImageOperands) : InRange (· = o.sample) o.sampleOnly :=
  (noIndexFault_checkBits _ _).bind fun _ _ _ => rfl

theorem noIndexFault_readOperands (i : Instruction) (op : Opcode) :
    NoIndexFault (SamplingInstruction.readOperands i op) := by
  unfold SamplingInstruction.readOperands
  split
  · split <;> trivial
  · split <;> exact noIndexFault_read i _

theorem noIndexFault_classify (op : Opcode) (o : ImageOperands) : NoIndexFault (classify op o) := by
  unfold classify
  split <;> trivial

theorem noIndexFault_imageDeclaration (i : Instruction) :
    NoIndexFault (ImageType.ofInstruction i) := by
  refine (noIndexFault_id i 2).bind fun _ _ _ => ?_
  refine (noIndexFault_id i 3).bind fun number _ _ => ?_
  split
  · refine (noIndexFault_word i 5).bind fun _ _ _ => ?_
    refine (noIndexFault_word i 6).bind fun _ _ _ => ?_
    refine (noIndexFault_id i 8).bind fun _ _ _ => ?_
    split <;> trivial
  · rfl

/-! ## Definitions -/

section

variable (hs : s.IsAnalysed)
include hs

/-- An object is defined. -/
theorem noIndexFault_definition {id : Nat} {info : ObjectInfo}
    (h : s.declarations.object id = .ok info) : NoIndexFault (s.definition info.offset) := by
  obtain ⟨i, -, hi, -⟩ := hs.exists_definition (Declarations.object_eq_ok.mp h)
  exact .of_eq hi trivial

variable (htyped : s.IsTyped)
include htyped

/-- A type is defined. -/
theorem noIndexFault_typeDefinition {id : Nat} {type : TypeInfo}
    (h : s.declarations.type id = .ok type) : NoIndexFault (s.definition type.offset) := by
  obtain ⟨i, _, hi, -⟩ := exists_declares hs htyped.types (Declarations.type_eq_ok.mp h)
  exact .of_eq hi trivial

theorem noIndexFault_imageType (id : Nat) : NoIndexFault (s.imageType id) := by
  unfold imageType
  generalize s.declarations.types.size + 1 = fuel
  induction fuel generalizing id with
  | zero => exact (rfl : Fault.cyclicType.isIndex = false)
  | succ fuel ih =>
    refine (noIndexFault_type _ id).bind fun type htype _ => ?_
    split
    · exact ih _
    · exact (noIndexFault_typeDefinition hs htyped htype).bind fun i _ _ =>
        noIndexFault_imageDeclaration i
    · rfl

theorem noIndexFault_objectImageType (id : Nat) : NoIndexFault (s.objectImageType id) :=
  (noIndexFault_object _ id).bind fun _ _ _ => noIndexFault_imageType hs htyped _

/-- A constant of one component has a first value. -/
theorem noIndexFault_scalar {id : Nat} (h : s.declarations.objectCount id = .ok 1) :
    NoIndexFault (s.declarations.scalar id) := by
  refine (noIndexFault_constant _ id).bind fun values hvalues _ => ?_
  cases values with
  | cons _ _ => trivial
  | nil => cases h.symm.trans (constant_count hs htyped hvalues)

theorem noIndexFault_ofInstruction {op : Opcode} (h : s.SamplingTyped i op) :
    NoIndexFault (SamplingInstruction.ofInstruction s.declarations i op) := by
  refine (noIndexFault_readOperands i op).bind fun operands _ _ => ?_
  refine (noIndexFault_classify op operands).bind fun _ _ _ => ?_
  dsimp only
  split
  case' isTrue hgather =>
    refine (noIndexFault_id i 5).bind fun a ha _ => ?_
    have hnumber : s.declarations.objectCount a = .ok 1 := operandCount_eq ha ▸ h.gather hgather
    refine (noIndexFault_scalar hs htyped hnumber).bind fun component _ _ => ?_
  case' isFalse => rw [pure_bind]
  all_goals
    refine (noIndexFault_callSite _ i.offset).bind fun _ _ _ => ?_
    refine (noIndexFault_id i 1).bind fun _ _ _ => ?_
    refine (noIndexFault_id i 2).bind fun _ _ _ => ?_
    refine (noIndexFault_id i 3).bind fun _ _ _ => ?_
    refine (noIndexFault_id i 4).bind fun _ _ _ => ?_
    split
    · rw [bind_map_left]
      exact (noIndexFault_id i 5).bind fun _ _ _ => trivial
    · trivial

theorem noIndexFault_walkStep (part : Part) (index : ChainIndex) :
    NoIndexFault (s.walkStep part index) := by
  refine (noIndexFault_type _ _).bind fun type htype _ => ?_
  split
  case h_1 =>
    refine (noIndexFault_member index).bind fun member _ _ => ?_
    refine (noIndexFault_typeDefinition hs htyped htype).bind fun i _ _ => ?_
    refine (noIndexFault_pastMembers _ _ _).bind fun _ _ _ => ?_
    exact (noIndexFault_id i _).bind fun _ _ _ => trivial
  case h_6 => rfl
  all_goals exact (noIndexFault_componentCount _ _).bind fun _ _ _ => trivial

theorem noIndexFault_walk (part : Part) (indices : List ChainIndex) :
    NoIndexFault (s.walk part indices) := by
  induction indices generalizing part with
  | nil => trivial
  | cons index rest ih => exact (noIndexFault_walkStep hs htyped part index).bind fun _ _ _ => ih _

end

end Shader

/-! ## Layouts and states -/

theorem noIndexFault_setLayout (p : PipelineLayout) (set : Nat) :
    NoIndexFault (p.setLayout set) := by
  unfold PipelineLayout.setLayout
  split <;> trivial

theorem noIndexFault_binding (l : SetLayout) (number : Nat) : NoIndexFault (l.binding number) := by
  unfold SetLayout.binding
  split <;> trivial

theorem noIndexFault_bindingOffset (p : PipelineLayout) (set binding : Nat) :
    NoIndexFault (p.bindingOffset set binding) := by
  refine (noIndexFault_setLayout p set).bind fun l _ _ => ?_
  have hindex : NoIndexFault (l.bindingIndex binding) := by
    unfold SetLayout.bindingIndex
    split <;> trivial
  have hstride : NoIndexFault (l.bindingStride binding) :=
    (noIndexFault_binding l binding).bind fun _ _ _ => trivial
  exact hindex.bind fun _ _ _ => hstride.bind fun _ _ _ => trivial

namespace Execution

open Shader

variable {e : Environment} {i : Instruction} {s : State}

theorem noIndexFault_components (s : State) (id : Nat) : NoIndexFault (s.components id) := by
  unfold State.components
  split <;> trivial

theorem noIndexFault_target (s : State) (id : Nat) : NoIndexFault (s.target id) := by
  unfold State.target
  split <;> trivial

theorem noIndexFault_descriptor (s : State) (id : Nat) : NoIndexFault (s.descriptor id) := by
  refine (noIndexFault_target s id).bind fun target _ _ => ?_
  cases target <;> trivial

theorem noIndexFault_storage (s : State) (id : Nat) : NoIndexFault (s.storage id) := by
  unfold State.storage
  split <;> trivial

theorem noIndexFault_bindingAddress (e : Environment) (set binding : Nat) :
    NoIndexFault (e.bindingAddress set binding) := by
  unfold Environment.bindingAddress
  split
  · exact (noIndexFault_bindingOffset _ _ _).bind fun _ _ _ => trivial
  · rfl

theorem noIndexFault_descriptorKind (e : Environment) (id : Nat) :
    NoIndexFault (e.descriptorKind id) := by
  refine (noIndexFault_slot _ id).bind fun slot _ _ => ?_
  refine (noIndexFault_setLayout _ _).bind fun l _ _ => ?_
  exact (noIndexFault_binding l _).bind fun _ _ _ => trivial

theorem noIndexFault_imageRecord (e : Environment) (s : State) (image : Nat) :
    NoIndexFault (e.imageRecord s image) := by
  refine (noIndexFault_descriptor s image).bind fun _ _ _ => ?_
  refine (noIndexFault_descriptorKind e image).bind fun _ _ _ => ?_
  split <;> trivial

theorem noIndexFault_queryLevels (e : Environment) (s : State) (i : Instruction) :
    NoIndexFault (e.queryLevels s i) := by
  refine (noIndexFault_id i 3).bind fun image _ _ => ?_
  refine (noIndexFault_descriptor s image).bind fun _ _ _ => ?_
  refine (noIndexFault_descriptorKind e image).bind fun _ _ _ => ?_
  split <;> trivial

theorem noIndexFault_readFormat (e : Environment) (image : Nat) (type : ImageType) :
    NoIndexFault (e.readFormat image type) := by
  unfold Environment.readFormat
  split
  · refine (noIndexFault_attachment _ image).bind fun _ _ _ => ?_
    split <;> trivial
  · split <;> trivial

theorem noIndexFault_readsStencil (e : Environment) (type : ImageType) (format : Format) :
    NoIndexFault (e.readsStencil type format) := by
  unfold Environment.readsStencil
  split
  · exact (noIndexFault_type _ _).bind fun _ _ _ => trivial
  · trivial

theorem noIndexFault_projected (variant : SamplingVariant) (components : List WordLanes) :
    NoIndexFault (Environment.projected variant components) := by
  unfold Environment.projected
  split
  · split <;> trivial
  · trivial

theorem noIndexFault_accessSizes (size : Nat) : NoIndexFault (TexelPointer.accessSizes size) := by
  unfold TexelPointer.accessSizes
  split <;> trivial

section

variable (he : e.shader.IsAnalysed)
include he

theorem noIndexFault_samplerOf (sampledImage : Nat) (image : DescriptorAddress) :
    NoIndexFault (e.samplerOf s sampledImage image) := by
  refine (noIndexFault_object _ sampledImage).bind fun object hobject _ => ?_
  refine (noIndexFault_type _ _).bind fun _ _ _ => ?_
  split
  · refine (noIndexFault_definition he hobject).bind fun i _ _ => ?_
    split
    · refine (noIndexFault_id i 4).bind fun id _ _ => ?_
      exact (noIndexFault_descriptor s id).bind fun _ _ _ => trivial
    · trivial
  · trivial

theorem noIndexFault_initialStorage (id : Nat) : NoIndexFault (e.initialStorage id) := by
  refine (noIndexFault_object _ id).bind fun object hobject _ => ?_
  refine (noIndexFault_type _ _).bind fun _ _ _ => ?_
  refine (noIndexFault_componentCount _ _).bind fun _ _ _ => ?_
  refine (noIndexFault_definition he hobject).bind fun i _ _ => ?_
  split
  · trivial
  · refine (noIndexFault_id i 4).bind fun _ _ _ => ?_
    exact (noIndexFault_constant _ _).bind fun _ _ _ => trivial

theorem noIndexFault_querySamples (htyped : e.shader.IsTyped) (i : Instruction) :
    NoIndexFault (e.querySamples s i) := by
  refine (noIndexFault_id i 3).bind fun image _ _ => ?_
  refine (noIndexFault_objectImageType he htyped image).bind fun _ _ _ => ?_
  split
  · rfl
  refine (noIndexFault_descriptor s image).bind fun _ _ _ => ?_
  refine (noIndexFault_descriptorKind e image).bind fun _ _ _ => ?_
  split <;> trivial

end

end Execution

end HostGpu
