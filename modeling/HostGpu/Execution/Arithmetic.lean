import HostGpu.Execution.State

/-!
# Arithmetic and composites

Instructions that compute components from components and touch nothing else. Arithmetic works
component by component; composites are put together, taken apart and shuffled as rows of scalars.
-/

namespace HostGpu.Execution

open Spirv Shader

/-! ## Component by component -/

/-- What an operation of two operands does with two components. -/
def binary? : Opcode → Option (WordLanes → WordLanes → WordLanes)
  | .opIAdd => some Lanes.add
  | .opISub => some Lanes.sub
  | .opIMul => some Lanes.mul
  | .opFAdd => some Lanes.addFloat
  | .opFSub => some Lanes.subFloat
  | .opFMul => some Lanes.mulFloat
  | _ => none

/-- What an operation of one operand does with a component. -/
def unary? : Opcode → Option (WordLanes → WordLanes)
  | .opConvertFToU => some Lanes.floatToUnsigned
  | .opConvertFToS => some Lanes.floatToSigned
  | .opConvertSToF => some Lanes.signedToFloat
  | .opConvertUToF => some Lanes.unsignedToFloat
  | .opBitcast => some id
  | _ => none

/-- Joins every component of the first row with one of the second row, which may be longer. -/
def zipComponents (f : WordLanes → WordLanes → WordLanes) :
    List WordLanes → List WordLanes → Except Fault (List WordLanes)
  | [], _ => .ok []
  | _ :: _, [] => .error .indexOutOfRange
  | a :: as, b :: bs => do return f a b :: (← zipComponents f as bs)

namespace Environment

/-- The result of an operation of two operands. -/
def binary (e : Environment) (s : State) (i : Instruction)
    (f : WordLanes → WordLanes → WordLanes) : Except Fault (List WordLanes) := do
  let lhs ← e.operand s (← i.id 3)
  let rhs ← e.operand s (← i.id 4)
  zipComponents f lhs.components rhs.components

/-- The result of an operation of one operand. -/
def unary (e : Environment) (s : State) (i : Instruction) (f : WordLanes → WordLanes) :
    Except Fault (List WordLanes) := do
  return (← e.operand s (← i.id 3)).components.map f

/-! ## Composites -/

/-- Zeros in the number that a type asks for. -/
def undefined (e : Environment) (i : Instruction) : Except Fault (List WordLanes) := do
  return List.replicate (← e.declarations.componentCount (← i.id 1)) (.splat 0)

/-- The components of operands in a row. -/
def concat (e : Environment) (s : State) : List UInt32 → Except Fault (List WordLanes)
  | [] => .ok []
  | id :: rest => do
    let operand ← e.operand s id.toNat
    return operand.components ++ (← e.concat s rest)

/-- The `count` components of a row from a signed number on. -/
def slice (components : List WordLanes) (start : Int) (count : Nat) :
    Except Fault (List WordLanes) :=
  if start < 0 ∨ components.length < start.toNat + count then .error .indexOutOfRange
  else .ok ((components.drop start.toNat).take count)

/-- A part of a composite. -/
def extract (e : Environment) (s : State) (i : Instruction) : Except Fault (List WordLanes) := do
  let count ← e.declarations.componentCount (← i.id 1)
  let composite ← i.id 3
  let type := (← e.declarations.object composite).type
  let part ← e.shader.walk ⟨type, .splat 0⟩ ((i.words.drop 4).map .literal)
  let operand ← e.operand s composite
  slice operand.components (Word.signed (part.offset.get 0)) count

/-- The component that a shuffle selects from two rows, one after the other. -/
def selectComponent (both : List WordLanes) (selector : UInt32) : Except Fault WordLanes :=
  if selector = 0xFFFFFFFF then .ok (.splat 0)
  else
    match both[selector.toNat]? with
    | some c => .ok c
    | none => .error .indexOutOfRange

/-- Components selected from two rows. -/
def shuffle (e : Environment) (s : State) (i : Instruction) : Except Fault (List WordLanes) := do
  let first ← e.operand s (← i.id 3)
  let second ← e.operand s (← i.id 4)
  (i.words.drop 5).mapM (selectComponent (first.components ++ second.components))

end Environment

end HostGpu.Execution
