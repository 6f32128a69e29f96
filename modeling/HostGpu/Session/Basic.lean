import HostGpu.Session.Answer

/-!
# Sessions

A session is a store with names for its objects. Beside the names it remembers, for answers, what
every block, set, sampler and view was called when it was made, and which identifier every name of a
sampler or view had last; these memories outlive the objects.
-/

namespace HostGpu

/-- Objects of one kind by name. -/
abbrev NameTable (α : Type) := Std.TreeMap String α

structure Session where
  store : Store := {}
  devices : NameTable Nat := ∅
  images : NameTable Image := ∅
  views : NameTable ImageView := ∅
  samplers : NameTable Sampler := ∅
  buffers : NameTable Buffer := ∅
  bufferViews : NameTable BufferView := ∅
  setLayouts : NameTable SetLayout := ∅
  sets : NameTable Nat := ∅
  pools : NameTable DescriptorPool := ∅
  pipelineLayouts : NameTable PipelineLayout := ∅
  shaders : NameTable Shader := ∅
  routines : NameTable Routine := ∅
  /-- What blocks, sets, samplers and views were called, by number. -/
  called : Std.TreeMap Nat String := ∅
  /-- The identifiers that names of samplers had last. -/
  samplerIds : NameTable Nat := ∅
  /-- The identifiers that names of image views and buffer views had last. -/
  viewIds : NameTable Nat := ∅

namespace Session

/-! ## Names -/

/-- The object of a name. -/
def find {α : Type} (table : NameTable α) (name : String) : Except StepError α :=
  match table[name]? with
  | some a => .ok a
  | none => .error (.missing name)

/-- The objects of names. -/
def findAll {α : Type} (table : NameTable α) (names : List String) : Except StepError (List α) :=
  names.mapM (find table)

/-- The memory of an image or, if no image has that name, of a buffer. -/
def findBlock (s : Session) (name : String) : Except StepError Nat :=
  match s.images[name]? with
  | some image => .ok image.block
  | none => do return (← find s.buffers name).block

/-- The name that something was given when it was made. -/
def nameOf (s : Session) (number : Nat) : Option String := s.called[number]?

/-- Remembers what something is called. -/
def call (s : Session) (number : Nat) (name : String) : Session :=
  { s with called := s.called.insert number name }

/-- A place in an object that has a name. -/
structure Place where
  object : String
  offset : Nat
deriving DecidableEq, Repr

/-- The place that a pointer points to. -/
def placeOf (s : Session) (p : Pointer) : Option Place :=
  (s.nameOf p.block).map fun object => ⟨object, p.offset⟩

/-- The place of a descriptor. -/
def descriptorPlace (s : Session) (a : DescriptorAddress) : Option Place :=
  (s.nameOf a.set).map fun object => ⟨object, a.offset⟩

/-! ## Lifetimes -/

/-- What names hold. -/
def roots (s : Session) : Roots where
  images := s.images.values
  buffers := s.buffers.values
  views := s.views.values
  bufferViews := s.bufferViews.values
  samplers := s.samplers.values
  setLayouts := s.setLayouts.values
  pipelineLayouts := s.pipelineLayouts.values
  sets := s.sets.values
  routines := s.routines.values

/-- Ends everything that is no longer held. -/
def sweep (s : Session) : Session := { s with store := s.store.sweep s.roots }

/-- Forgets every object of a name, other than devices and pools. -/
def forget (s : Session) (name : String) : Session :=
  { s with
    images := s.images.erase name
    views := s.views.erase name
    samplers := s.samplers.erase name
    buffers := s.buffers.erase name
    bufferViews := s.bufferViews.erase name
    setLayouts := s.setLayouts.erase name
    sets := s.sets.erase name
    pipelineLayouts := s.pipelineLayouts.erase name
    shaders := s.shaders.erase name
    routines := s.routines.erase name }

/-- Whether there is an object of a name that can be forgotten. -/
def holds (s : Session) (name : String) : Bool :=
  s.images.contains name || s.views.contains name || s.samplers.contains name ||
    s.buffers.contains name || s.bufferViews.contains name || s.setLayouts.contains name ||
    s.sets.contains name || s.pipelineLayouts.contains name || s.shaders.contains name ||
    s.routines.contains name

end Session

end HostGpu
