import HostGpu.Execution.Arithmetic
import HostGpu.Execution.ImageAccess
import HostGpu.Execution.ImageQuery
import HostGpu.Execution.Sampling
import HostGpu.Execution.Variable

/-!
# Execution of instructions

`step` executes one instruction and says where to go on. Loads, stores, access chains and atomic
additions stand here; they work on whatever their pointer points to.
-/

namespace HostGpu.Execution

open Spirv Shader

/-- Where a run goes on after an instruction. -/
inductive Flow where
  | next
  /-- At the block with a label. -/
  | branch (label : Nat)
  | stop
deriving DecidableEq, Repr

/-! ## Loads and stores -/

/-- Whether a type can be loaded from a descriptor. -/
def isDescribed : Opcode → Bool
  | .opTypeImage | .opTypeSampler | .opTypeSampledImage => true
  | _ => false

/-- The value that a load gives. -/
def loadedValue (e : Environment) (s : State) (type : TypeInfo) : Target → Except Fault Value
  | .descriptor address =>
    if isDescribed type.op then .ok (.pointer (.descriptor address))
    else .error (.loadFromDescriptor type.op)
  | .variable id offsets => do
    return .components (Storage.load (← s.storage id) offsets type.componentCount)
  | .texel pointer =>
    let rule := texelRule s.machine.device
    .ok (.components [pointer.load s.machine.blocks 4 e.active rule])

/-- Executes a load. -/
def executeLoad (e : Environment) (i : Instruction) : Run Unit := do
  let type ← liftM (e.declarations.type =<< i.id 1)
  let result ← liftM (i.id 2)
  let source ← liftM (i.id 3)
  let value ← inspect fun s => do loadedValue e s type (← s.target source)
  define result value

/-- The state after a store. -/
def storedState (e : Environment) (s : State) (value : Operand) : Target → Except Fault State
  | .descriptor _ => .error .storeToDescriptor
  | .variable id offsets => do
    let storage ← s.storage id
    return s.setStorage id (Storage.store storage offsets e.active value.components)
  | .texel pointer => do
    let rule := texelRule s.machine.device
    let blocks := pointer.store s.machine.blocks 4 (← value.component 0) e.storing rule
    return { s with machine := { s.machine with blocks } }

/-- Executes a store. -/
def executeStore (e : Environment) (i : Instruction) : Run Unit := do
  let s ← inspect fun s => do
    let target ← s.target (← i.id 1)
    let value ← e.operand s (← i.id 2)
    storedState e s value target
  set s

/-! ## Access chains -/

/-- The descriptor that an index leads to, from the first one of a binding. -/
def indexedDescriptor (e : Environment) (s : State) (i : Instruction) (base : Nat)
    (address : DescriptorAddress) : Except Fault DescriptorAddress := do
  if i.length ≠ 5 then throw .descriptorIndexCount
  let slot ← e.declarations.slot base
  let layout ← e.layout.setLayout slot.set
  let binding ← layout.binding slot.binding
  let index ← e.uniformIndex s (← i.id 4)
  if binding.count ≤ index then throw (.descriptorOutOfRange index slot.binding slot.set)
  return { address with offset := address.offset + binding.stride * index }

/-- What an access chain points to. -/
def chainTarget (e : Environment) (s : State) (i : Instruction) (base : Nat) :
    Target → Except Fault Target
  | .descriptor address => do return .descriptor (← indexedDescriptor e s i base address)
  | .variable id offsets => do
    let pointee := (← e.declarations.objectType base).elementId
    let indices ← (i.words.drop 4).mapM fun id => e.chainIndex s id.toNat
    let part ← e.shader.walk ⟨pointee, .splat 0⟩ indices
    return .variable id (offsets.add part.offset)
  | .texel _ => .error .indexedTexel

/-- Executes an access chain. -/
def executeAccessChain (e : Environment) (i : Instruction) : Run Unit := do
  let result ← liftM (i.id 2)
  let base ← liftM (i.id 3)
  let target ← inspect fun s => do chainTarget e s i base (← s.target base)
  definePointer result target

/-! ## Atomic addition -/

/-- Adds to what a pointer points to; the result is what was there before. -/
def atomicAdd (e : Environment) (s : State) (value : WordLanes) :
    Target → Except Fault (WordLanes × State)
  | .texel pointer =>
    let (previous, blocks) := pointer.atomicAdd s.machine.blocks value e.storing
    .ok (previous, { s with machine := { s.machine with blocks } })
  | .variable id offsets => do
    let storage ← s.storage id
    let previous := Storage.scalar storage offsets 0
    let storage := Storage.store storage offsets e.active [previous.add value]
    return (previous, s.setStorage id storage)
  | .descriptor _ => .error .atomicOnDescriptor

/-- Executes an atomic addition. -/
def executeAtomicAdd (e : Environment) (i : Instruction) : Run Unit := do
  let result ← liftM (i.id 2)
  let (previous, s) ← inspect fun s => do
    let target ← s.target (← i.id 3)
    let value ← (← e.operand s (← i.id 6)).component 0
    atomicAdd e s value target
  set s
  defineComponents result [previous]

/-! ## All instructions -/

/-- Gives the result of an instruction the components that are computed from the state. -/
def compute (i : Instruction) (f : State → Except Fault (List WordLanes)) : Run Unit := do
  let components ← inspect f
  defineComponents (← liftM (i.id 2)) components

/-- Executes an instruction that stands for a value or an effect and does not end a block. -/
def execute (e : Environment) (i : Instruction) (op : Opcode) : Run Unit :=
  match op with
  | .opNop | .opLine | .opLabel | .opSelectionMerge | .opLoopMerge => return
  | .opVariable => do
    let id ← liftM (i.id 2)
    createVariable id (← liftM (e.initialStorage id))
  | .opUndef => compute i fun _ => e.undefined i
  | .opLoad => executeLoad e i
  | .opStore => executeStore e i
  | .opAccessChain | .opInBoundsAccessChain => executeAccessChain e i
  | .opCompositeConstruct => compute i fun s => e.concat s (i.words.drop 3)
  | .opCompositeExtract => compute i fun s => e.extract s i
  | .opVectorShuffle => compute i fun s => e.shuffle s i
  | .opImageQuerySizeLod => do
    let lod ← liftM (i.id 4)
    compute i fun s => e.querySize s i (some lod)
  | .opImageQuerySize => compute i fun s => e.querySize s i none
  | .opImageQueryLevels => compute i fun s => do return [.splat (← e.queryLevels s i)]
  | .opImageQuerySamples => compute i fun s => do return [.splat (← e.querySamples s i)]
  | .opImageRead => compute i fun s => e.imageRead s i
  | .opImageWrite => do set (← inspect fun s => e.imageWrite s i)
  | .opImageTexelPointer => do
    let pointer ← inspect fun s => e.imageTexelPointer s i
    definePointer (← liftM (i.id 2)) (.texel pointer)
  | .opSampledImage | .opImage => do
    let target ← inspect fun s => do s.target (← i.id 3)
    definePointer (← liftM (i.id 2)) target
  | .opAtomicIAdd => executeAtomicAdd e i
  | _ =>
    match binary? op, unary? op with
    | some f, _ => compute i fun s => e.binary s i f
    | none, some f => compute i fun s => e.unary s i f
    | none, none =>
      if op.isSampling then executeSampling e i op else throw (.unsupportedInstruction op)

/-- Executes an instruction. -/
def step (e : Environment) (i : Instruction) : Run Flow :=
  match i.op? with
  | none => throw (.unknownOpcode i.opcode)
  | some .opBranch => do return .branch (← liftM (i.id 1))
  | some .opReturn | some .opReturnValue => return .stop
  | some op => do
    execute e i op
    return .next

end HostGpu.Execution
