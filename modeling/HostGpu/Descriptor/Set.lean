import HostGpu.Descriptor.Layout
import HostGpu.Descriptor.Record

/-!
# Descriptor sets

A set is the data laid out by its layout, together with the resources that its descriptors refer to.
The resources are kept for each array element, so that they live as long as a descriptor names them.
A new set holds zeros and the immutable samplers of its layout.
-/

namespace HostGpu

/-- Something that a descriptor refers to. -/
inductive Resource where
  | buffer (b : Buffer)
  | bufferView (v : BufferView)
  | view (v : ImageView)
  | sampler (s : Sampler)
deriving DecidableEq, Repr

/-- An array element of a binding. -/
structure ElementKey where
  binding : Nat
  element : Nat
deriving DecidableEq, Repr

/-- Resources by array element. An element occurs once. -/
abbrev ResourceTable := List (ElementKey × List Resource)

namespace ResourceTable

def find? (t : ResourceTable) (k : ElementKey) : Option (List Resource) :=
  (List.find? (·.1 = k) t).map (·.2)

def erase (t : ResourceTable) (k : ElementKey) : ResourceTable := t.filter (·.1 ≠ k)

def insert (t : ResourceTable) (k : ElementKey) (r : List Resource) : ResourceTable :=
  (k, r) :: t.erase k

/-- Replaces the resources of an element, or forgets them. -/
def set (t : ResourceTable) (k : ElementKey) : Option (List Resource) → ResourceTable
  | some r => t.insert k r
  | none => t.erase k

theorem find?_erase (t : ResourceTable) (k j : ElementKey) :
    (t.erase k).find? j = if k = j then none else t.find? j := by
  induction t with
  | nil => simp [erase, find?]
  | cons e rest ih =>
    simp only [erase, find?, List.filter_cons, List.find?_cons] at ih ⊢
    by_cases hk : e.1 = k
    · subst hk
      by_cases hj : e.1 = j
      · simp [hj]
      · simpa [hj] using ih
    · simp only [ne_eq, hk, not_false_eq_true, decide_true, if_true, List.find?_cons]
      by_cases hj : e.1 = j
      · subst hj
        simp [Ne.symm hk]
      · simpa [hj] using ih

theorem find?_set (t : ResourceTable) (k j : ElementKey) (r : Option (List Resource)) :
    (t.set k r).find? j = if k = j then r else t.find? j := by
  cases r with
  | none => simp [set, find?_erase]
  | some r =>
    by_cases h : k = j
    · simp [set, insert, find?, h]
    · have := find?_erase t k j
      simp only [find?, h, if_false] at this
      simp [set, insert, find?, h, this]

end ResourceTable

/-- The place of a set in the pool that it was allocated from. -/
structure PoolPlace where
  pool : Nat
  offset : Nat
deriving DecidableEq, Repr

structure DescriptorSet where
  layout : SetLayout
  data : SetData
  resources : ResourceTable := []
  place : Option PoolPlace := none

namespace DescriptorSet

/-- Writes samplers to consecutive records. -/
def writeSamplers (stride : Nat) (d : SetData) (offset : Nat) : List Sampler → SetData
  | [] => d
  | s :: rest =>
    writeSamplers stride (SampledRecord.writeSampler s d offset) (offset + stride) rest

/-- Writes the immutable samplers of bindings, the first of which starts at `offset`. -/
def writeImmutable (d : SetData) (offset : Nat) : List LayoutBinding → SetData
  | [] => d
  | b :: rest =>
    let d := if b.usesImmutableSamplers then
      writeSamplers b.stride d offset b.immutableSamplers else d
    writeImmutable d (offset + b.size) rest

/-- A new set. -/
def create (layout : SetLayout) (place : Option PoolPlace := none) :
    Except ResourceError DescriptorSet := do
  let _ ← Memory.allocate layout.allocationSize
  let data := writeImmutable (SetData.zeroed layout.dataSize) 0 layout.bindings
  return { layout, data, place }

/-- The offset of a record that has to be aligned and to lie in the data. -/
def recordOffset (s : DescriptorSet) (kind : RecordKind) (offset : Nat) : Except Fault Nat :=
  if offset + kind.size ≤ s.data.size ∧ offset % 16 = 0 then .ok offset
  else .error .accessOutOfRange

end DescriptorSet

end HostGpu
