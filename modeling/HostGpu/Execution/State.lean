import HostGpu.Execution.Routine
import HostGpu.Memory.LanePointer
import HostGpu.Shader.Composite

/-!
# States of a run

A run computes values for identifiers, each once, and keeps the storage of variables. A value is a
row of components or a pointer. Besides these a run changes memory, the sampling functions that its
device and its call sites keep, and the record of events. A fault leaves the state as it was when
the fault occurred.
-/

namespace HostGpu.Execution

open Spirv Shader

/-! ## Values -/

/-- A pointer to texels in a block of memory; no block stands for a null pointer. -/
structure TexelPointer where
  block : Option Nat
  lanes : LanePointer
deriving DecidableEq, Repr

/-- What a pointer points to. -/
inductive Target where
  | descriptor (address : DescriptorAddress)
  /-- A part of a variable, by the number of scalars before it. -/
  | variable (id : Nat) (offsets : WordLanes)
  | texel (pointer : TexelPointer)
deriving DecidableEq, Repr

inductive Value where
  | components (list : List WordLanes)
  | pointer (target : Target)
deriving DecidableEq, Repr

/-! ## States -/

/-- What a run is given and does not change. -/
structure Environment extends Setup where
  sets : SetTable

/-- What a run changes outside of itself. -/
structure Machine where
  blocks : BlockTable
  device : Device
  cache : List CallSiteEntry
  /-- What happened, the latest first. -/
  events : List SamplingEvent

structure State where
  machine : Machine
  values : Std.TreeMap Nat Value := ∅
  /-- The scalars of variables. -/
  storages : Std.TreeMap Nat (List WordLanes) := ∅

/-- A computation that may end with a fault. -/
abbrev Run := ExceptT Fault (StateM State)

/-- Reads from the state. -/
def inspect {α : Type} (f : State → Except Fault α) : Run α := do
  let s ← get
  liftM (f s)

namespace State

/-- The components that were computed for an identifier. -/
def components (s : State) (id : Nat) : Except Fault (List WordLanes) :=
  match s.values[id]? with
  | some (.components list) => .ok list
  | some (.pointer _) => .error (.isPointer id)
  | none => .error (.notComputed id)

/-- What the pointer that was computed for an identifier points to. -/
def target (s : State) (id : Nat) : Except Fault Target :=
  match s.values[id]? with
  | some (.pointer t) => .ok t
  | some (.components _) => .error (.notPointer id)
  | none => .error (.notComputed id)

/-- The descriptor that an identifier points to. -/
def descriptor (s : State) (id : Nat) : Except Fault DescriptorAddress := do
  match ← s.target id with
  | .descriptor address => return address
  | _ => throw (.noDescriptor id)

/-- Gives an identifier its value. -/
def define (s : State) (id : Nat) (v : Value) : Except Fault State :=
  if s.values.contains id then .error (.definedTwice id)
  else .ok { s with values := s.values.insert id v }

/-- Adds to the record of events. -/
def note (s : State) (e : SamplingEvent) : State :=
  { s with machine := { s.machine with events := e :: s.machine.events } }

end State

/-- Gives an identifier its value. -/
def define (id : Nat) (v : Value) : Run Unit := do
  set (← inspect (·.define id v))

def defineComponents (id : Nat) (list : List WordLanes) : Run Unit := define id (.components list)

def definePointer (id : Nat) (target : Target) : Run Unit := define id (.pointer target)

/-! ## Operands -/

/-- The components of an operand. -/
structure Operand where
  components : List WordLanes
  isConstant : Bool
deriving DecidableEq, Repr

namespace Operand

/-- One component. -/
def component (o : Operand) (i : Nat) : Except Fault WordLanes :=
  match o.components[i]? with
  | some c => .ok c
  | none => .error .indexOutOfRange

/-- Whether the operand is a constant of zeros. -/
def isConstantZero (o : Operand) : Bool := o.isConstant && o.components.all (· = .splat 0)

end Operand

namespace Environment

/-- What the module of the run declares. -/
def declarations (e : Environment) : Declarations := e.shader.declarations

/-- The data of a descriptor set. -/
def setData (e : Environment) (set : Nat) : SetData :=
  e.sets[set]?.elim (.zeroed 0) (·.data)

/-- The storage record at a place. -/
def storageRecord (e : Environment) (a : DescriptorAddress) : StorageRecord :=
  StorageRecord.read (e.setData a.set) a.offset

/-- The sampled record at a place. -/
def sampledRecord (e : Environment) (a : DescriptorAddress) : SampledRecord :=
  SampledRecord.read (e.setData a.set) a.offset

/-- A constant, the same in all lanes, or the components that were computed. -/
def operand (e : Environment) (s : State) (id : Nat) : Except Fault Operand := do
  match (← e.declarations.object id).kind with
  | .constant values => return ⟨values.map .splat, true⟩
  | _ => return ⟨← s.components id, false⟩

/-- The index that an operand of an access chain stands for. -/
def chainIndex (e : Environment) (s : State) (id : Nat) : Except Fault ChainIndex := do
  match (← e.declarations.object id).kind with
  | .constant (value :: _) => return .literal value
  | .constant [] => throw .indexOutOfRange
  | _ =>
    match ← s.components id with
    | lanes :: _ => return .lanes lanes
    | [] => throw .indexOutOfRange

/-- The lane that decides indices which have to be the same in all lanes: the first active one, or
the last one of all. -/
def leadLane (e : Environment) : Lane := e.active.firstOn?.getD 3

/-- The index of a descriptor. -/
def uniformIndex (e : Environment) (s : State) (id : Nat) : Except Fault Nat := do
  match ← e.chainIndex s id with
  | .literal index => return index.toNat
  | .lanes index => return (index.get e.leadLane).toNat

end Environment

end HostGpu.Execution
