import HostGpu.Execution.State

/-!
# Variables

The storage of a variable is a row of scalars in every lane. Loads and stores start at an offset
that may differ from lane to lane; scalars outside of the storage read as zero and are not stored.
Variables outside of functions are set up before a run: resources become descriptor pointers, inputs
get the values of their built-in or location, and all others their constant initial value or zeros.
-/

namespace HostGpu.Execution

open Spirv Shader

/-- The values of shader inputs or outputs by location. -/
abbrev InterfaceValues := Std.TreeMap Nat (List WordLanes)

namespace Storage

/-- The number of scalar `i` after the offset of a lane; offsets before the storage have none. -/
def index? (offsets : WordLanes) (l : Lane) (i : Nat) : Option Nat :=
  let offset := Word.signed (offsets.get l)
  if 0 ≤ offset then some (offset.toNat + i) else none

/-- Scalar `i` after the offset of every lane. -/
def scalar (storage : List WordLanes) (offsets : WordLanes) (i : Nat) : WordLanes :=
  .ofFn fun l => ((index? offsets l i).bind (storage[·]?)).elim 0 (·.get l)

/-- The `count` scalars after the offset of every lane. -/
def load (storage : List WordLanes) (offsets : WordLanes) (count : Nat) : List WordLanes :=
  (List.range count).map (scalar storage offsets)

/-- What lane `l` of scalar `j` holds after a store. -/
def storedLane (offsets mask : WordLanes) (components : List WordLanes) (j : Nat)
    (old : WordLanes) (l : Lane) : UInt32 :=
  match index? offsets l 0 with
  | some first =>
    if mask.get l = 0 ∨ j < first then old.get l
    else components[j - first]?.elim (old.get l) (·.get l)
  | none => old.get l

/-- Stores components after the offset of every lane that is on. -/
def store (storage : List WordLanes) (offsets mask : WordLanes) (components : List WordLanes) :
    List WordLanes :=
  storage.mapIdx fun j old => .ofFn (storedLane offsets mask components j old)

/-- Replaces the first scalars. -/
def fill (storage values : List WordLanes) : List WordLanes :=
  values.take storage.length ++ storage.drop values.length

/-- Replaces the first scalar, which has to exist. -/
def fillFirst (storage : List WordLanes) (value : WordLanes) : Except Fault (List WordLanes) :=
  if storage.isEmpty then .error .indexOutOfRange else .ok (fill storage [value])

end Storage

namespace State

/-- The storage of a variable. -/
def storage (s : State) (id : Nat) : Except Fault (List WordLanes) :=
  match s.storages[id]? with
  | some storage => .ok storage
  | none => .error (.notVariable id)

/-- Replaces the storage of a variable. -/
def setStorage (s : State) (id : Nat) (storage : List WordLanes) : State :=
  { s with storages := s.storages.insert id storage }

end State

/-- Sets up the storage of a variable and points to it. -/
def createVariable (id : Nat) (storage : List WordLanes) : Run Unit := do
  modify (·.setStorage id storage)
  definePointer id (.variable id (.splat 0))

namespace Environment

/-- The storage that a variable starts with. -/
def initialStorage (e : Environment) (id : Nat) : Except Fault (List WordLanes) := do
  let object ← e.declarations.object id
  let pointee := (← e.declarations.type object.type).elementId
  let zeros := List.replicate (← e.declarations.componentCount pointee) (.splat 0)
  let definition ← e.shader.definition object.offset
  if definition.length ≤ 4 then return zeros
  let values ← e.declarations.constant (← definition.id 4)
  return Storage.fill zeros (values.map .splat)

/-! ## Inputs -/

/-- The position of the centres of fragments in the window. -/
def fragmentCentres (e : Environment) : List WordLanes :=
  let half : WordLanes := .splat (Single.ofRatio 1 2)
  [e.windowX.signedToFloat.addFloat half, e.windowY.signedToFloat.addFloat half,
    .splat Single.zero, .splat Single.one]

/-- The storage of an input with the values of a built-in. -/
def builtInStorage (e : Environment) (storage : List WordLanes) :
    BuiltIn → Except Fault (List WordLanes)
  | .fragCoord => .ok (Storage.fill storage e.fragmentCentres)
  | .viewIndex => Storage.fillFirst storage (.splat e.viewIndex)
  | .helperInvocation => Storage.fillFirst storage e.helper
  | .localInvocationIndex => Storage.fillFirst storage (.ofFn fun l => UInt32.ofNat l)
  | _ => .ok storage

/-- The storage of an input with the values of its built-in or else of its location. -/
def inputStorage (e : Environment) (inputs : InterfaceValues) (id : Nat)
    (storage : List WordLanes) : Except Fault (List WordLanes) :=
  let decorations := e.declarations.decorations[id]?.getD {}
  match decorations.builtIn with
  | some b => e.builtInStorage storage b
  | none =>
    match decorations.location.bind (inputs[·]?) with
    | some values => .ok (Storage.fill storage values)
    | none => .ok storage

/-! ## Variables outside of functions -/

/-- The first descriptor of a binding of a bound set. -/
def bindingAddress (e : Environment) (set binding : Nat) : Except Fault DescriptorAddress :=
  match (e.bound[set]?).join with
  | some number => do return ⟨number, ← e.layout.bindingOffset set binding⟩
  | none => .error (.unboundSet set)

/-- Sets up a variable before a run. -/
def initGlobal (e : Environment) (inputs : InterfaceValues) (id : Nat) : Run Unit := do
  match (← liftM (e.declarations.object id)).kind with
  | .variable storageClass =>
    if storageClass.isResource then
      match e.declarations.slots[id]? with
      | some slot =>
        definePointer id (.descriptor (← liftM (e.bindingAddress slot.set slot.binding)))
      | none => return
    else
      let storage ← liftM (e.initialStorage id)
      let storage ←
        if storageClass = .input then liftM (e.inputStorage inputs id storage) else pure storage
      createVariable id storage
  | _ => return

/-- The values of outputs after a run. Of two outputs with one location the later one counts. -/
def outputs (e : Environment) (s : State) : InterfaceValues :=
  e.declarations.globals.foldl
    (fun values id =>
      let isOutput := e.declarations.objects[id]?.any (·.kind = .variable .output)
      let location := e.declarations.decorations[id]?.bind (·.location)
      match isOutput, location, s.storages[id]? with
      | true, some location, some storage => values.insert location storage
      | _, _, _ => values)
    ∅

end Environment

end HostGpu.Execution
