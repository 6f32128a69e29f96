import HostGpu.Fault
import HostGpu.Spirv.Module
import Std.Data.TreeMap

/-!
# Shaders

What is known about a shader module before it runs: its types, its objects (constants, variables and
results of instructions), where its blocks start, and which objects refer to which descriptors.
Types and objects are declared by instructions, and a later declaration replaces an earlier one.
-/

namespace HostGpu.Shader

open Spirv

/-- A declared type. -/
structure TypeInfo where
  op : Opcode
  /-- The word offset of the declaration. -/
  offset : Nat
  /-- The number of scalars that a value of the type consists of. -/
  componentCount : Nat
  /-- The type of elements or of the thing pointed to. -/
  element : Option Nat
deriving DecidableEq, Repr

inductive ObjectKind where
  | constant (values : List UInt32)
  | variable (storage : StorageClass)
  /-- A result that is computed. -/
  | intermediate
  /-- A result that is a pointer, an image or a sampler. -/
  | pointer
deriving DecidableEq, Repr

structure ObjectInfo where
  type : Nat
  /-- The word offset of the definition. -/
  offset : Nat
  kind : ObjectKind
deriving DecidableEq, Repr

/-- The decorations of an object that have a meaning here. -/
structure Decorations where
  location : Option Nat := none
  set : Option Nat := none
  binding : Option Nat := none
  attachment : Option Nat := none
  builtIn : Option BuiltIn := none
deriving DecidableEq, Repr

/-- The descriptors that an object refers to. -/
structure DescriptorSlot where
  set : Nat
  binding : Nat
  /-- The index of an input attachment. -/
  attachment : Option Nat
deriving DecidableEq, Repr

/-- Everything that a module declares. -/
structure Declarations where
  types : Std.TreeMap Nat TypeInfo := ∅
  objects : Std.TreeMap Nat ObjectInfo := ∅
  decorations : Std.TreeMap Nat Decorations := ∅
  slots : Std.TreeMap Nat DescriptorSlot := ∅
  /-- Variables outside of functions, in order. -/
  globals : List Nat := []
  /-- Where blocks start, by label. -/
  blocks : Std.TreeMap Nat Nat := ∅
  /-- The word offsets of sampling instructions, in order. -/
  callSites : List Nat := []

namespace Declarations

def type (d : Declarations) (id : Nat) : Except Fault TypeInfo :=
  match d.types[id]? with
  | some t => .ok t
  | none => .error (.notType id)

def object (d : Declarations) (id : Nat) : Except Fault ObjectInfo :=
  match d.objects[id]? with
  | some o => .ok o
  | none => .error (.notObject id)

/-- The type of an object. -/
def objectType (d : Declarations) (id : Nat) : Except Fault TypeInfo := do
  d.type (← d.object id).type

/-- The values of a constant. -/
def constant (d : Declarations) (id : Nat) : Except Fault (List UInt32) := do
  match (← d.object id).kind with
  | .constant values => return values
  | _ => throw (.notConstant id)

/-- The first value of a constant. -/
def scalar (d : Declarations) (id : Nat) : Except Fault UInt32 := do
  match ← d.constant id with
  | value :: _ => return value
  | [] => throw .indexOutOfRange

/-- The descriptors that an object refers to. -/
def slot (d : Declarations) (id : Nat) : Except Fault DescriptorSlot :=
  match d.slots[id]? with
  | some s => .ok s
  | none => .error (.noDescriptor id)

/-- The index of an input attachment. -/
def attachment (d : Declarations) (id : Nat) : Except Fault Nat := do
  match (← d.slot id).attachment with
  | some index => return index
  | none => throw (.noAttachmentIndex id)

/-- The place of a sampling instruction among all of them. -/
def callSite (d : Declarations) (offset : Nat) : Except Fault Nat :=
  match d.callSites.idxOf? offset with
  | some site => .ok site
  | none => .error (.noCallSite offset)

end Declarations

/-- The type that absent elements stand for. -/
def TypeInfo.elementId (t : TypeInfo) : Nat := t.element.getD 0

end HostGpu.Shader

namespace HostGpu

/-- A module that is ready to run. -/
structure Shader where
  device : Nat
  module : Spirv.Module
  entryName : String
  /-- The word offset of the first block of the entry point. -/
  entryBlock : Nat
  declarations : Shader.Declarations

namespace Shader

/-- The descriptors of variables outside of functions, as set and binding. -/
def descriptorBindings (s : Shader) : List (Nat × Nat) :=
  s.declarations.globals.filterMap fun id =>
    s.declarations.slots[id]?.map fun slot => (slot.set, slot.binding)

end Shader

end HostGpu
