import HostGpu.Shader.Basic

/-!
# Analysis of shader modules

`Shader.ofModule` reads the instructions of a module once and in order, and notes what each of them
declares. Component counts have 32 bits. An object that is made from one that refers to descriptors,
by a load, an access chain or by joining and splitting images and samplers, refers to the same
descriptors.
-/

namespace HostGpu.Shader

-- Powers mean the same whether or not algebra is in scope.
attribute [local instance (high)] instPowNat

open Spirv

/-! ## Component counts -/

/-- A component count, which has to fit 32 bits. -/
def checkedCount (n : Nat) : Except Fault Nat :=
  if n < 2 ^ (32 : Nat) then .ok n else .error .numberOutOfRange

theorem checkedCount_eq_ok {n m : Nat} : checkedCount n = .ok m ↔ n = m ∧ n < 2 ^ (32 : Nat) := by
  unfold checkedCount
  split <;> rename_i h
  · exact ⟨fun e => ⟨Except.ok.inj e, h⟩, fun e => congrArg Except.ok e.1⟩
  · constructor
    · intro e
      cases e
    · intro e
      exact absurd e.2 h

namespace Declarations

/-- The component count of a type. -/
def componentCount (d : Declarations) (id : Nat) : Except Fault Nat := do
  return (← d.type id).componentCount

/-- Adds the component counts of types to a number. -/
def addCounts (d : Declarations) (total : Nat) : List UInt32 → Except Fault Nat
  | [] => .ok total
  | id :: rest => do
    let total ← checkedCount (total + (← d.componentCount id.toNat))
    d.addCounts total rest

/-- The values of constants in a row. -/
def constants (d : Declarations) : List UInt32 → Except Fault (List UInt32)
  | [] => .ok []
  | id :: rest => do
    let values ← d.constant id.toNat
    return values ++ (← d.constants rest)

/-! ## Declarations -/

/-- Declares the type that an instruction defines. -/
def declareType (d : Declarations) (i : Instruction) (op : Opcode) (componentCount : Nat)
    (element : Option Nat) : Except Fault Declarations := do
  let id ← i.id 1
  return { d with types := d.types.insert id ⟨op, i.offset, componentCount, element⟩ }

/-- Declares the object that an instruction defines. -/
def declareObject (d : Declarations) (i : Instruction) (kind : ObjectKind) :
    Except Fault Declarations := do
  let type ← i.id 1
  let id ← i.id 2
  return { d with objects := d.objects.insert id ⟨type, i.offset, kind⟩ }

/-- Lets an object refer to the descriptors of another one, if that one refers to any. -/
def forward (d : Declarations) (source target : Nat) : Declarations :=
  match d.slots[source]? with
  | some slot => { d with slots := d.slots.insert target slot }
  | none => d

/-- Declares an object that is made from operand 3. -/
def declareForwarded (d : Declarations) (i : Instruction) (kind : ObjectKind) :
    Except Fault Declarations := do
  let d ← d.declareObject i kind
  let source ← i.id 3
  return d.forward source (← i.id 2)

/-- Notes a sampling instruction. -/
def addCallSite (d : Declarations) (offset : Nat) : Declarations :=
  { d with callSites := d.callSites ++ [offset] }

/-- Notes a decoration. -/
def decorate (d : Declarations) (i : Instruction) : Except Fault Declarations := do
  let id ← i.id 1
  let old := d.decorations[id]?.getD {}
  let put (new : Decorations) : Declarations :=
    { d with decorations := d.decorations.insert id new }
  match (Catalogue.ofNumber? (← i.id 2) : Option Decoration) with
  | some .location => return put { old with location := some (← i.id 3) }
  | some .descriptorSet => return put { old with set := some (← i.id 3) }
  | some .binding => return put { old with binding := some (← i.id 3) }
  | some .inputAttachmentIndex => return put { old with attachment := some (← i.id 3) }
  | some .builtIn => return put { old with builtIn := Catalogue.ofNumber? (← i.id 3) }
  | _ => return put old

/-! ## Variables -/

/-- The storage class with a given number. -/
def storageClass (number : Nat) : Except Fault StorageClass :=
  match Catalogue.ofNumber? number with
  | some s => .ok s
  | none => .error (.unknownStorageClass number)

/-- Notes a variable. One that is a resource with a set and a binding refers to descriptors. -/
def declareVariable (d : Declarations) (i : Instruction) : Except Fault Declarations := do
  let id ← i.id 2
  let storage ← storageClass (← i.id 3)
  let d ← d.declareObject i (.variable storage)
  let decorations := d.decorations[id]?.getD {}
  match storage.isResource, decorations.set, decorations.binding with
  | true, some set, some binding =>
    return { d with slots := d.slots.insert id ⟨set, binding, decorations.attachment⟩ }
  | _, _, _ => return d

/-! ## Types, constants and results -/

/-- Whether results of a load are pointers, images or samplers. -/
def loadsPointer : Opcode → Bool
  | .opTypeImage | .opTypeSampler | .opTypeSampledImage | .opTypePointer => true
  | _ => false

/-- Notes what an instruction declares other than entry points, functions, labels and variables. -/
def declare (d : Declarations) (i : Instruction) (op : Opcode) : Except Fault Declarations := do
  match op with
  | .opDecorate => d.decorate i
  | .opTypeVoid | .opTypeFunction => d.declareType i op 0 none
  | .opTypeBool | .opTypeInt | .opTypeFloat | .opTypeImage | .opTypeSampler =>
    d.declareType i op 1 none
  | .opTypeSampledImage => d.declareType i op 1 (some (← i.id 2))
  | .opTypeVector | .opTypeMatrix =>
    let length ← i.id 3
    let element ← i.id 2
    let count ← checkedCount (length * (← d.componentCount element))
    d.declareType i op count (some element)
  | .opTypeArray =>
    let length ← d.scalar (← i.id 3)
    let element ← i.id 2
    let count ← checkedCount (length.toNat * (← d.componentCount element))
    d.declareType i op count (some element)
  | .opTypeRuntimeArray => d.declareType i op 0 (some (← i.id 2))
  | .opTypeStruct =>
    let count ← d.addCounts 0 (i.words.drop 2)
    d.declareType i op count none
  | .opTypePointer =>
    let _ ← storageClass (← i.id 2)
    d.declareType i op 1 (some (← i.id 3))
  | .opConstant =>
    if i.length < 3 then throw .indexOutOfRange
    d.declareObject i (.constant (i.words.drop 3))
  | .opConstantTrue => d.declareObject i (.constant [0xFFFFFFFF])
  | .opConstantFalse => d.declareObject i (.constant [0])
  | .opConstantNull =>
    let count ← d.componentCount (← i.id 1)
    d.declareObject i (.constant (List.replicate count 0))
  | .opConstantComposite =>
    let values ← d.constants (i.words.drop 3)
    d.declareObject i (.constant values)
  | .opLoad =>
    let type ← d.type (← i.id 1)
    d.declareForwarded i (if loadsPointer type.op then .pointer else .intermediate)
  | .opAccessChain | .opInBoundsAccessChain | .opSampledImage | .opImage =>
    d.declareForwarded i .pointer
  | .opImageTexelPointer => d.declareObject i .pointer
  | .opUndef | .opVectorShuffle | .opCompositeConstruct | .opCompositeExtract | .opImageRead
  | .opImageQueryFormat | .opImageQueryOrder | .opImageQuerySizeLod | .opImageQuerySize
  | .opImageQueryLevels | .opImageQuerySamples | .opConvertFToU | .opConvertFToS
  | .opConvertSToF | .opConvertUToF | .opBitcast | .opIAdd | .opFAdd | .opISub | .opFSub
  | .opIMul | .opFMul | .opAtomicIAdd | .opPhi | .opFunctionParameter =>
    d.declareObject i .intermediate
  | _ =>
    if op.isSampling then (d.addCallSite i.offset).declareObject i .intermediate else return d

end Declarations

/-! ## Modules -/

/-- What is known after some instructions of a module. -/
structure Analysis where
  declarations : Declarations := {}
  /-- The function of the first entry point, and its name. -/
  entry : Option (Nat × String) := none
  /-- The function that the instructions are in. -/
  current : Option Nat := none
  /-- The word offset of the first block of the entry point. -/
  entryBlock : Option Nat := none

namespace Analysis

/-- Notes where a block starts. -/
def label (a : Analysis) (i : Instruction) : Except Fault Analysis := do
  let id ← i.id 1
  let blocks := a.declarations.blocks.insert id i.offset
  let isEntry := a.entryBlock.isNone && a.current == a.entry.map (·.1)
  return { a with
    declarations := { a.declarations with blocks }
    entryBlock := if isEntry then some i.offset else a.entryBlock }

/-- Notes a variable, which is a global one outside of functions. -/
def declareVariable (a : Analysis) (i : Instruction) : Except Fault Analysis := do
  let d ← a.declarations.declareVariable i
  let id ← i.id 2
  let globals := if a.current.isNone then d.globals ++ [id] else d.globals
  return { a with declarations := { d with globals } }

/-- Notes an instruction. -/
def step (a : Analysis) (i : Instruction) : Except Fault Analysis := do
  match i.op? with
  | none => return a
  | some .opEntryPoint =>
    if a.entry.isSome then return a
    let function ← i.id 2
    return { a with entry := some (function, ← i.string 3) }
  | some .opFunction => return { a with current := some (← i.id 2) }
  | some .opFunctionEnd => return { a with current := none }
  | some .opLabel => a.label i
  | some .opVariable => a.declareVariable i
  | some op => return { a with declarations := ← a.declarations.declare i op }

/-- The shader, if there is an entry point with a block. -/
def finish (a : Analysis) (device : Nat) (module : Module) : Except Fault Shader :=
  match a.entry with
  | none => .error .noEntryPoint
  | some (_, entryName) =>
    match a.entryBlock with
    | none => .error (.noEntryBody entryName)
    | some entryBlock =>
      .ok { device, module, entryName, entryBlock, declarations := a.declarations }

end Analysis

/-- The shader of a module. -/
def ofModule (device : Nat) (module : Module) : Except Fault Shader := do
  let a ← module.instructions.foldlM Analysis.step {}
  a.finish device module

end HostGpu.Shader
