import HostGpu.Proofs.Shader.Composite
import HostGpu.Proofs.Shader.Objects
import HostGpu.Shader.SamplingInstruction

/-!
# Typed modules

In a typed module over scalars of 32 bits, the operands of every instruction have as many components
as the operation asks for, by their types (`Shader.Typed`).  Nothing of this is checked when a
module is analysed.  The values of a constant come from literals, from the count of its type or from
the values of other constants; in a typed module they are as many as the type has components
(`constant_count`).  A result has the type that its instruction names (`objectCount_result`).
-/

namespace HostGpu

open Outcome Spirv

/-- The number of coordinates within one layer. -/
def Spirv.Dimension.axes : Dimension → Nat
  | .dim1D | .buffer => 1
  | .dim2D | .cube | .rect | .subpassData => 2
  | .dim3D => 3

/-- Whether a built-in variable is filled in with one number. -/
def Spirv.BuiltIn.isNumber : BuiltIn → Bool
  | .viewIndex | .helperInvocation | .localInvocationIndex => true
  | _ => false

namespace Shader

variable {s : Shader} {i : Instruction} {op : Opcode} {id : Nat}

/-! ## Component counts of objects -/

namespace Declarations

variable (d : Declarations)

/-- The number of components of an object, by its type. -/
def objectCount (id : Nat) : Except Fault Nat := do d.componentCount (← d.object id).type

/-- The type of what an object points to. -/
def pointee (id : Nat) : Except Fault Nat := do return (← d.objectType id).elementId

/-- The number of components of what an object points to. -/
def pointeeCount (id : Nat) : Except Fault Nat := do d.componentCount (← d.pointee id)

/-- The number of components of the type that an instruction names. -/
def resultCount (i : Instruction) : Except Fault Nat := do d.componentCount (← i.id 1)

/-- The number of components of an operand. -/
def operandCount (i : Instruction) (index : Nat) : Except Fault Nat := do
  d.objectCount (← i.id index)

/-- The number of components of objects together. -/
def totalCount (d : Declarations) : List UInt32 → Except Fault Nat
  | [] => .ok 0
  | id :: rest => do return (← d.objectCount id.toNat) + (← d.totalCount rest)

end Declarations

theorem objectCount_eq {d : Declarations} {info : ObjectInfo} (h : d.objects[id]? = some info) :
    d.objectCount id = d.componentCount info.type := by
  rw [Declarations.objectCount, Declarations.object_eq_ok.mpr h, ok_bind]

theorem pointee_eq {d : Declarations} {type : TypeInfo} (h : d.objectType id = .ok type) :
    d.pointee id = .ok type.elementId := by
  rw [Declarations.pointee, h, ok_bind]
  rfl

theorem pointeeCount_eq {d : Declarations} {type : TypeInfo} (h : d.objectType id = .ok type) :
    d.pointeeCount id = d.componentCount type.elementId := by
  rw [Declarations.pointeeCount, pointee_eq h, ok_bind]

theorem operandCount_eq {d : Declarations} {index : Nat} (h : i.id index = .ok id) :
    d.operandCount i index = d.objectCount id := by
  rw [Declarations.operandCount, h, ok_bind]

/-! ## Typed instructions -/

/-- The operands of which a sampling instruction takes one number. -/
def SamplingInstruction.numbers (i : SamplingInstruction) : List Nat :=
  i.dref.toList ++ i.operands.lod.toList ++ i.operands.bias.toList ++ i.operands.sample.toList

/-- A sampling instruction gives up to four components, and takes single numbers. -/
structure SamplingTyped (s : Shader) (i : Instruction) (op : Opcode) : Prop where
  result : Yields (· ≤ 4) (s.declarations.resultCount i)
  numbers : Yields (fun site => ∀ id ∈ site.numbers, s.declarations.objectCount id = .ok 1)
    (SamplingInstruction.ofInstruction s.declarations i op)
  gather : op = .opImageGather → s.declarations.operandCount i 5 = .ok 1

/-- The operands of an image instruction that names a texel: coordinates, and a number for the
sample. -/
structure TexelTyped (s : Shader) (i : Instruction) (coordinate operands : Nat) : Prop where
  coordinate : Yields (0 < ·) (s.declarations.operandCount i coordinate)
  sample : Yields (fun o => ∀ id ∈ o.sample, s.declarations.objectCount id = .ok 1)
    (ImageOperands.read i operands)

/-- An instruction is typed: its operands have as many components as the operation asks for. -/
def Typed (s : Shader) (i : Instruction) (op : Opcode) : Prop :=
  let d := s.declarations
  match op with
  | .opConstant => (i.words.drop 3).length = 1 ∧ d.resultCount i = .ok 1
  | .opConstantTrue | .opConstantFalse | .opImageQueryLevels | .opImageQuerySamples =>
    d.resultCount i = .ok 1
  | .opConstantComposite | .opCompositeConstruct =>
    d.totalCount (i.words.drop 3) = d.resultCount i
  | .opLoad => (do d.pointee (← i.id 3)) = i.id 1
  | .opStore => d.operandCount i 2 = (do d.pointeeCount (← i.id 1))
  | .opAccessChain | .opInBoundsAccessChain =>
    ∀ index ∈ i.words.drop 4, d.objectCount index.toNat = .ok 1
  | .opCompositeExtract =>
    Yields (fun composite => Yields (s.Reaches composite.type (i.words.drop 4)) (i.id 1))
      (do d.object (← i.id 3))
  | .opVectorShuffle => d.resultCount i = .ok (i.words.drop 5).length ∧
    Yields (fun total => ∀ selector ∈ i.words.drop 5,
        selector = 0xFFFFFFFF ∨ selector.toNat < total)
      (do return (← d.operandCount i 3) + (← d.operandCount i 4))
  | .opIAdd | .opISub | .opIMul | .opFAdd | .opFSub | .opFMul =>
    d.operandCount i 3 = d.resultCount i ∧ d.operandCount i 4 = d.resultCount i
  | .opConvertFToU | .opConvertFToS | .opConvertSToF | .opConvertUToF | .opBitcast =>
    d.operandCount i 3 = d.resultCount i
  | .opImageQuerySize | .opImageQuerySizeLod =>
    Yields (fun image : ImageType =>
        d.resultCount i = .ok (image.dimension.axes + if image.arrayed then 1 else 0))
      (do s.objectImageType (← i.id 3)) ∧
    (op = .opImageQuerySizeLod → d.operandCount i 4 = .ok 1)
  | .opImageRead => Yields (· ≤ 4) (d.resultCount i) ∧ s.TexelTyped i 4 5
  | .opImageWrite => s.TexelTyped i 2 4
  | .opImageTexelPointer =>
    (do return (← d.type (← i.id 1)).op) = .ok .opTypePointer ∧
    (do d.componentCount (← d.type (← i.id 1)).elementId) = .ok 1 ∧
    Yields (0 < ·) (d.operandCount i 4) ∧ d.operandCount i 5 = .ok 1
  | .opAtomicIAdd => d.resultCount i = .ok 1 ∧ d.operandCount i 6 = .ok 1
  -- Images are no pointers to texels.
  | .opSampledImage | .opImage =>
    Yields (fun type : TypeInfo => type.op ≠ .opTypePointer) (do d.objectType (← i.id 3))
  | op => op.isSampling = true → s.SamplingTyped i op

/-- A module is typed. Every type and every object is declared once. -/
structure IsTyped (s : Shader) : Prop where
  types : DeclareOnce s.module.instructions
  objects : ObjectsOnce s.module.instructions
  instructions : ∀ i ∈ s.module.instructions, ∀ op ∈ i.op?, s.Typed i op
  numbers : ∀ id ∈ s.declarations.globals,
    ∀ b ∈ (s.declarations.decorations[id]?).bind (·.builtIn), b.isNumber = true →
      s.declarations.pointeeCount id = .ok 1

theorem Typed.sampling (h : s.Typed i op) (hsampling : op.isSampling = true) :
    s.SamplingTyped i op := by
  cases op <;> first | exact h hsampling | cases hsampling

/-! ### Decidability -/

-- A list of words is gone through, whether or not words are known to be finitely many.
attribute [local instance (high)] List.decidableBAll

instance (list : List Instruction) : Decidable (DeclareOnce list) :=
  inferInstanceAs (Decidable (List.Nodup _))

theorem reaches_nil {T S : Nat} : s.Reaches T [] S ↔ T = S := by
  constructor
  · rintro ⟨⟩
    rfl
  · rintro rfl
    exact .here T

theorem reaches_cons {T S : Nat} {k : UInt32} {path : List UInt32} : s.Reaches T (k :: path) S ↔
    ∃ M ∈ (s.parts T).toOption.bind (·[k.toNat]?), s.Reaches M path S := by
  simp only [Option.mem_def, Option.bind_eq_some_iff, toOption_eq_some]
  constructor
  · rintro (_ | ⟨hparts, hM, hrest⟩)
    exact ⟨_, ⟨_, hparts, hM⟩, hrest⟩
  · rintro ⟨M, ⟨list, hparts, hM⟩, hrest⟩
    exact .into hparts hM hrest

instance decidableReaches (s : Shader) (T : Nat) (path : List UInt32) (S : Nat) :
    Decidable (s.Reaches T path S) :=
  match path with
  | [] => decidable_of_iff _ reaches_nil.symm
  | _ :: rest =>
    have := fun M => decidableReaches s M rest S
    decidable_of_iff _ reaches_cons.symm

instance : Decidable (s.SamplingTyped i op) :=
  decidable_of_iff (Yields (· ≤ 4) (s.declarations.resultCount i) ∧
    Yields (fun site => ∀ id ∈ site.numbers, s.declarations.objectCount id = .ok 1)
      (SamplingInstruction.ofInstruction s.declarations i op) ∧
    (op = .opImageGather → s.declarations.operandCount i 5 = .ok 1))
    ⟨fun ⟨h₁, h₂, h₃⟩ => ⟨h₁, h₂, h₃⟩, fun ⟨h₁, h₂, h₃⟩ => ⟨h₁, h₂, h₃⟩⟩

instance {coordinate operands : Nat} : Decidable (s.TexelTyped i coordinate operands) :=
  decidable_of_iff (Yields (0 < ·) (s.declarations.operandCount i coordinate) ∧
    Yields (fun o => ∀ id ∈ o.sample, s.declarations.objectCount id = .ok 1)
      (ImageOperands.read i operands))
    ⟨fun ⟨h₁, h₂⟩ => ⟨h₁, h₂⟩, fun ⟨h₁, h₂⟩ => ⟨h₁, h₂⟩⟩

instance : Decidable (s.Typed i op) := by
  unfold Typed
  split <;> infer_instance

instance : Decidable s.IsTyped :=
  decidable_of_iff (DeclareOnce s.module.instructions ∧ ObjectsOnce s.module.instructions ∧
    (∀ i ∈ s.module.instructions, ∀ op ∈ i.op?, s.Typed i op) ∧
    ∀ id ∈ s.declarations.globals,
      ∀ b ∈ (s.declarations.decorations[id]?).bind (·.builtIn), b.isNumber = true →
        s.declarations.pointeeCount id = .ok 1)
    ⟨fun ⟨h₁, h₂, h₃, h₄⟩ => ⟨h₁, h₂, h₃, h₄⟩, fun ⟨h₁, h₂, h₃, h₄⟩ => ⟨h₁, h₂, h₃, h₄⟩⟩

/-! ## Results -/

/-- A result has the components of the type that its instruction names. -/
theorem objectCount_result (hs : s.IsAnalysed) (htyped : s.IsTyped) (hi : i ∈ s.module.instructions)
    (hop : i.op? = some op) (hdeclares : declaresObject op = true) (hid : i.id 2 = .ok id) :
    s.declarations.objectCount id = s.declarations.resultCount i := by
  obtain ⟨info, hinfo, htype, -⟩ := hs.exists_object htyped.objects hi hop hdeclares hid
  rw [objectCount_eq hinfo, Declarations.resultCount, htype, ok_bind]

/-! ## Constants -/

theorem constant_eq_ok {d : Declarations} {values : List UInt32} :
    d.constant id = .ok values ↔
      ∃ info, d.objects[id]? = some info ∧ info.kind = .constant values := by
  simp only [Declarations.constant, bind_eq_ok, Declarations.object_eq_ok]
  refine exists_congr fun info => and_congr_right fun _ => ?_
  cases info.kind <;> simp [pure_eq_ok]

section

variable {d₀ : Declarations} {values : List UInt32}
  (hconstants : ∀ id values, d₀.constant id = .ok values →
    s.declarations.objectCount id = .ok values.length)
include hconstants

/-- Constants in a row. -/
theorem totalCount_of_constants {ids : List UInt32} (h : d₀.constants ids = .ok values) :
    s.declarations.totalCount ids = .ok values.length := by
  induction ids generalizing values with
  | nil =>
    cases h
    rfl
  | cons id rest ih =>
    simp only [Declarations.constants, bind_eq_ok, pure_eq_ok] at h
    obtain ⟨first, hfirst, others, hothers, rfl⟩ := h
    rw [Declarations.totalCount, hconstants _ _ hfirst, ok_bind, ih hothers, List.length_append]
    rfl

/-- A constant that an instruction declares, where the types and constants that are known have the
components that they have in the end. -/
theorem constant_count_of_kindOf (h : d₀.KindOf i op (.constant values)) (htyped : s.Typed i op)
    (htypes : ∀ type count, d₀.componentCount type = .ok count →
      s.declarations.componentCount type = .ok count) :
    s.declarations.resultCount i = .ok values.length := by
  cases h with
  | literal => exact htyped.1 ▸ htyped.2
  | on | off => exact htyped
  | null htype hcount =>
    rw [Declarations.resultCount, htype, ok_bind, List.length_replicate]
    exact htypes _ _ hcount
  | composite hvalues => exact htyped.symm.trans (totalCount_of_constants hconstants hvalues)
  | result _ hkind => rcases hkind with hkind | hkind <;> cases hkind

end

section

variable (hs : s.IsAnalysed) (htyped : s.IsTyped)
include hs htyped

/-- The constants that are known before an instruction. -/
theorem constant_count_of_analysed {before after : List Instruction} {a₀ : Analysis}
    {values : List UInt32} (hlist : s.module.instructions = before ++ after)
    (ha₀ : analysed before = .ok a₀) (h : a₀.declarations.constant id = .ok values) :
    s.declarations.objectCount id = .ok values.length := by
  induction before using List.reverseRecOn generalizing after a₀ id values with
  | nil =>
    cases ha₀
    obtain ⟨info, hinfo, -⟩ := constant_eq_ok.mp h
    simp at hinfo
  | append_singleton before i ih =>
    rw [List.append_assoc, List.singleton_append] at hlist
    obtain ⟨a₁, ha₁, hstep⟩ := analysed_append_singleton.mp ha₀
    obtain ⟨info, hinfo, hvalues⟩ := constant_eq_ok.mp h
    have hearlier (hinfo : a₁.declarations.objects[id]? = some info) :
        s.declarations.objectCount id = .ok values.length :=
      ih hlist ha₁ (constant_eq_ok.mpr ⟨info, hinfo, hvalues⟩)
    cases Analysis.objectStep hstep with
    | nothing _ hobjects => exact hearlier (hobjects ▸ hinfo)
    | @object id' info' hdeclares hobjects =>
      rw [hobjects, Std.TreeMap.getElem?_insert] at hinfo
      split at hinfo
      case isFalse => exact hearlier hinfo
      case isTrue heq =>
        obtain rfl := Std.LawfulEqOrd.eq_of_compare heq
        obtain rfl := Option.some.inj hinfo
        obtain ⟨op, hop, hdeclaresObject, hkind⟩ := hdeclares.kind
        have hi : i ∈ s.module.instructions :=
          hlist ▸ List.mem_append_right _ List.mem_cons_self
        rw [objectCount_result hs htyped hi hop hdeclaresObject hdeclares.id]
        refine constant_count_of_kindOf (fun _ _ => ih hlist ha₁) (hvalues ▸ hkind)
          (htyped.instructions i hi op hop) fun type count hcount => ?_
        -- types are declared once, so that they are the same in the end
        obtain ⟨words, hm, hmodule⟩ := hs
        obtain ⟨-, -, a, ha, hdeclarations, -⟩ := ofModule_eq_ok hmodule
        obtain ⟨known, hknown, rfl⟩ := componentCount_eq_ok.mp hcount
        refine componentCount_eq_ok.mpr ⟨known, ?_, rfl⟩
        rw [hdeclarations]
        exact type_of_analysed (hlist ▸ htyped.types) ha₁ (hlist ▸ ha) hknown

/-- **A constant has as many values as its type has components.** -/
theorem constant_count {values : List UInt32} (h : s.declarations.constant id = .ok values) :
    s.declarations.objectCount id = .ok values.length := by
  obtain ⟨words, hm, hmodule⟩ := hs
  obtain ⟨-, -, a, ha, hdeclarations, -⟩ := ofModule_eq_ok hmodule
  exact constant_count_of_analysed ⟨words, hm, hmodule⟩ htyped (List.append_nil _).symm ha
    (hdeclarations ▸ h)

end

end Shader

end HostGpu
