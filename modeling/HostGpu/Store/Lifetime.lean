import HostGpu.Store.Basic

/-!
# Lifetimes

Things live while something holds them. What is held from outside are the roots; a routine holds
its pipeline layout and the bound sets, a set its layout and the resources of its descriptors, a
pipeline layout its set layouts, a set layout its immutable samplers, and a view its image or
buffer. When a sampler or view is no longer held its device forgets it; memory and sets that are no
longer held are released.
-/

namespace HostGpu

/-- What is held from outside. -/
structure Roots where
  images : List Image := []
  buffers : List Buffer := []
  views : List ImageView := []
  bufferViews : List BufferView := []
  samplers : List Sampler := []
  setLayouts : List SetLayout := []
  pipelineLayouts : List PipelineLayout := []
  /-- The numbers of sets. -/
  sets : List Nat := []
  routines : List Routine := []

/-- The numbers of everything that lives. -/
structure Alive where
  blocks : List Nat
  samplers : List Nat
  views : List Nat
  sets : List Nat

namespace Resource

/-- The memory that a resource keeps. -/
def block? : Resource → Option Nat
  | buffer b => some b.block
  | bufferView v => some v.buffer.block
  | view v => some v.image.block
  | sampler _ => none

/-- The identifier of a view. -/
def viewId? : Resource → Option Nat
  | bufferView v => some v.id
  | view v => some v.id
  | buffer _ | sampler _ => none

def samplerId? : Resource → Option Nat
  | sampler s => some s.id
  | buffer _ | bufferView _ | view _ => none

end Resource

/-- All resources of a set. -/
def DescriptorSet.allResources (s : DescriptorSet) : List Resource := s.resources.flatMap (·.2)

namespace Roots

/-- The resources held from outside. -/
def resources (r : Roots) : List Resource :=
  r.buffers.map .buffer ++ r.bufferViews.map .bufferView ++ r.views.map .view ++
    r.samplers.map .sampler

/-- The numbers of the sets that live. -/
def liveSets (r : Roots) : List Nat :=
  r.sets ++ r.routines.flatMap fun routine => routine.bound.filterMap id

/-- The set layouts that live. -/
def liveLayouts (r : Roots) (sets : List DescriptorSet) : List SetLayout :=
  r.setLayouts ++ sets.map (·.layout) ++
    (r.pipelineLayouts ++ r.routines.map (·.layout)).flatMap (·.setLayouts)

end Roots

namespace Store

/-- Everything that lives. -/
def alive (s : Store) (r : Roots) : Alive :=
  let setIds := r.liveSets
  let sets := setIds.filterMap (s.sets[·]?)
  let fixed := (r.liveLayouts sets).flatMap fun l => l.bindings.flatMap (·.immutableSamplers)
  let resources := r.resources ++ sets.flatMap (·.allResources) ++ fixed.map .sampler
  { blocks := r.images.map (·.block) ++ resources.filterMap (·.block?)
    samplers := resources.filterMap (·.samplerId?)
    views := resources.filterMap (·.viewId?)
    sets := setIds }

end Store

namespace Device

/-- Forgets the samplers that do not live. -/
def dropSamplers (d : Device) (alive : List Nat) : Device :=
  d.samplers.keys.foldl (fun d id => if alive.contains id then d else d.unregisterSampler id) d

/-- Forgets the views that do not live. -/
def dropViews (d : Device) (alive : List Nat) : Device :=
  d.views.keys.foldl (fun d id => if alive.contains id then d else d.unregisterView id) d

end Device

namespace Store

/-- Ends everything that is no longer held. -/
def sweep (s : Store) (r : Roots) : Store :=
  let a := s.alive r
  { s with
    devices := s.devices.map fun _ d => (d.dropSamplers a.samplers).dropViews a.views
    blocks := s.blocks.filter fun id _ => a.blocks.contains id
    sets := s.sets.filter fun id _ => a.sets.contains id }

end Store

end HostGpu
