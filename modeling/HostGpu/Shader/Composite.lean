import HostGpu.Lanes.Arithmetic
import HostGpu.Shader.Analysis
import HostGpu.Shader.ImageType

/-!
# Parts of composite values

A value of a composite type is the row of the scalars it consists of. `Shader.walk` follows indices
into a type and finds the type of the part they lead to and the number of scalars before it, which
may differ from lane to lane and wraps.
-/

namespace HostGpu.Shader

-- Powers mean the same whether or not algebra is in scope.
attribute [local instance (high)] instPowNat

open Spirv

/-- An index into a composite. -/
inductive ChainIndex where
  | literal (index : UInt32)
  | lanes (index : WordLanes)
deriving DecidableEq, Repr

namespace ChainIndex

/-- The index in every lane. -/
def toLanes : ChainIndex → WordLanes
  | literal index => .splat index
  | lanes index => index

/-- The number of a member of a structure, which is a constant. -/
def member : ChainIndex → Except Fault Nat
  | literal index =>
    if index.toNat + 2 < 2 ^ (32 : Nat) then .ok index.toNat else .error .numberOutOfRange
  | lanes _ => .error .dynamicMember

end ChainIndex

/-- A part of a composite value. -/
structure Part where
  type : Nat
  /-- The number of scalars before the part. -/
  offset : WordLanes
deriving DecidableEq, Repr

/-- Moves an offset past the members of a structure. -/
def pastMembers (d : Declarations) (offset : WordLanes) : List UInt32 → Except Fault WordLanes
  | [] => .ok offset
  | id :: rest => do
    let count ← d.componentCount id.toNat
    pastMembers d (offset.add (.splat (UInt32.ofNat count))) rest

/-- The part that one index leads to. -/
def walkStep (s : Shader) (part : Part) (index : ChainIndex) : Except Fault Part := do
  let type ← s.declarations.type part.type
  match type.op with
  | .opTypeStruct =>
    let member ← index.member
    let definition ← s.definition type.offset
    let members := definition.words.drop 2
    let offset ← pastMembers s.declarations part.offset (members.take member)
    return ⟨← definition.id (2 + min member members.length), offset⟩
  | .opTypeVector | .opTypeMatrix | .opTypeArray | .opTypeRuntimeArray =>
    let element := type.elementId
    let stride := UInt32.ofNat (← s.declarations.componentCount element)
    return ⟨element, part.offset.add (index.toLanes.mul (.splat stride))⟩
  | op => throw (.notIndexable op)

/-- The part that indices lead to, one after the other. -/
def walk (s : Shader) (part : Part) : List ChainIndex → Except Fault Part
  | [] => .ok part
  | index :: rest => do s.walk (← s.walkStep part index) rest

end HostGpu.Shader
