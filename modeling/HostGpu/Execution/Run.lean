import HostGpu.Execution.Step

/-!
# Runs

A run sets up the variables outside of functions, executes instructions from the first block of the
entry point on, and ends with the values of the outputs or with a fault. Since an instruction that
gives a result faults when it is executed again, a run that ends does so within twice as many
instructions as the module has.
-/

namespace HostGpu

namespace Execution

open Spirv Shader

/-- The word offset of the block with a label. -/
def blockStart (e : Environment) (label : Nat) : Except Fault Nat :=
  match e.declarations.blocks[label]? with
  | some offset => .ok offset
  | none => .error (.unknownBlock label)

/-- Executes at most `fuel` instructions, the first of which is at a word offset. -/
def runFrom (e : Environment) : (fuel : Nat) → (offset : Nat) → Run Unit
  | 0, _ => throw .endless
  | fuel + 1, offset => do
    let i ← liftM (e.shader.definition offset)
    match ← step e i with
    | .next => runFrom e fuel (offset + i.length)
    | .branch label => runFrom e fuel (← liftM (blockStart e label))
    | .stop => return

/-- More instructions than a run that ends can take. -/
def enough (m : Module) : Nat := 2 * m.instructions.length + 1

/-- A whole run. -/
def run (e : Environment) (inputs : InterfaceValues) : Run InterfaceValues := do
  e.declarations.globals.forM (e.initGlobal inputs)
  runFrom e (enough e.shader.module) e.shader.entryBlock
  return e.outputs (← get)

end Execution

/-- The end of a run: its outcome, and everything that it changed. -/
structure RunResult where
  outcome : Except Fault Execution.InterfaceValues
  routine : Routine
  blocks : BlockTable
  device : Device
  /-- What happened, in order. -/
  events : List SamplingEvent

/-- Runs a routine. -/
def Routine.run (r : Routine) (sets : SetTable) (blocks : BlockTable) (device : Device)
    (inputs : Execution.InterfaceValues) : RunResult :=
  let e : Execution.Environment := { r.toSetup with sets }
  let machine : Execution.Machine := { blocks, device, cache := r.cache, events := [] }
  let (outcome, s) := Execution.run e inputs |>.run { machine }
  { outcome
    routine := { r with cache := s.machine.cache }
    blocks := s.machine.blocks
    device := s.machine.device
    events := s.machine.events.reverse }

end HostGpu
