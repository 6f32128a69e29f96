import HostGpu.Descriptor.Set

/-!
# Descriptor pools

A pool hands out byte ranges for sets. It has room for the headers of `maxSets` sets and for the
records it was asked to provide. A set gets the lowest free range that is long enough; ranges are
kept in ascending order, and beside them the number of bytes that they take together. What is left
of the pool is found by differences of these numbers, none of which may be negative.
-/

namespace HostGpu

-- Sums mean the same whether or not algebra is in scope.
attribute [local instance (high)] Zero.ofOfNat0

/-- The range of a set in its pool. -/
structure PoolRange where
  offset : Nat
  size : Nat
deriving DecidableEq, Repr

structure DescriptorPool where
  id : Nat
  device : Nat
  maxSets : Nat
  /-- The number of descriptors of each kind. -/
  sizes : List (DescriptorKind × Nat)
  size : Nat
  /-- The ranges in use, in ascending order. -/
  ranges : List PoolRange := []
  /-- Bytes in use. -/
  allocatedBytes : Nat := 0
deriving DecidableEq, Repr

namespace DescriptorPool

/-! ## New pools -/

/-- The rules that the parameters of a pool can break. -/
inductive Violation where
  | noSets
  | noSizes
  | emptySize (kind : DescriptorKind)
deriving DecidableEq, Repr

def Violation.error : Violation → ValidationError
  | noSets =>
    { context := "max_sets"
      problem := "is zero"
      rules := ["VUID-VkDescriptorPoolCreateInfo-maxSets-00301"] }
  | noSizes => { context := "pool_sizes", problem := "is empty" }
  | emptySize kind =>
    { context := s!"pool_sizes[DescriptorType::{Catalogue.name kind}]"
      problem := "is zero"
      rules := ["VUID-VkDescriptorPoolSize-descriptorCount-00302"] }

/-- The first rule that parameters break. -/
def check (maxSets : Nat) (sizes : List (DescriptorKind × Nat)) : Except Violation Unit := do
  if maxSets = 0 then throw .noSets
  if sizes.isEmpty then throw .noSizes
  if let some (kind, _) := sizes.find? (·.2 = 0) then throw (.emptySize kind)

/-- Bytes for the records of a number of descriptors. -/
def recordBytes (kind : DescriptorKind) (count : Nat) : Nat :=
  count * kind.record?.elim 0 RecordKind.size

/-- Bytes of a pool. -/
def totalSize (maxSets : Nat) (sizes : List (DescriptorKind × Nat)) : Nat :=
  maxSets * SetLayout.headerSize + (sizes.map fun (kind, count) => recordBytes kind count).sum

/-- A new pool. Inline uniform blocks have no records and are a fault. -/
def create (id device maxSets : Nat) (sizes : List (DescriptorKind × Nat)) :
    Except Failure DescriptorPool := do
  (check maxSets sizes).mapError fun v => .invalid (v.error.within "create_info")
  if sizes.any (·.1.record?.isNone) then throw (.fault .inlineUniformBlock)
  return { id, device, maxSets, sizes, size := totalSize maxSets sizes }

/-! ## Allocation -/

/-- A call to a pool. What it changed before it failed stays changed. -/
abbrev Call := ExceptT Failure (StateM DescriptorPool)

/-- A difference of numbers, which cannot be negative. -/
def difference (a b : Nat) : Except Failure Nat :=
  if b ≤ a then .ok (a - b) else .error (.fault .numberOutOfRange)

/-- The lowest offset at or after `start` with `size` free bytes before the next of `ranges` or
before `limit`. -/
def findFree (limit size start : Nat) : List PoolRange → Except Failure (Option Nat)
  | [] => do return if size ≤ (← difference limit start) then some start else none
  | r :: rest => do
    if size ≤ (← difference r.offset start) then return some start
    findFree limit size (r.offset + r.size) rest

/-- Puts a range at its place in ascending order, instead of one that starts at the same offset. -/
def insertRange (r : PoolRange) : List PoolRange → List PoolRange
  | [] => [r]
  | s :: rest =>
    if r.offset < s.offset then r :: s :: rest
    else if r.offset = s.offset then r :: rest
    else s :: insertRange r rest

/-- The pool with another range in use. -/
def occupy (p : DescriptorPool) (r : PoolRange) : DescriptorPool :=
  { p with ranges := insertRange r p.ranges, allocatedBytes := p.allocatedBytes + r.size }

/-- A set and its pool are of one device. -/
def deviceError : ValidationError where
  context := "layout"
  problem := "was not created from the same device as the pool"
  rules := ["VUID-VkDescriptorSetAllocateInfo-commonparent"]

/-- Why there is no free range of a size. -/
def shortage (p : DescriptorPool) (size : Nat) : Except Failure ResourceError := do
  return if size ≤ (← difference p.size p.allocatedBytes) then .fragmentedPool else .outOfPoolMemory

/-- The offset of the lowest range that a new set can have. -/
def placeFor (p : DescriptorPool) (layout : SetLayout) : Except Failure Nat := do
  if p.device ≠ layout.device then throw (.invalid deviceError)
  if p.maxSets ≤ p.ranges.length then throw (.exhausted .outOfPoolMemory)
  match ← findFree p.size layout.allocationSize 0 p.ranges with
  | some offset => return offset
  | none => throw (.exhausted (← p.shortage layout.allocationSize))

/-- Allocates a set in the lowest free range. -/
def allocate (layout : SetLayout) : Call DescriptorSet := do
  let p ← get
  let offset ← liftM (p.placeFor layout)
  let set ← liftM ((DescriptorSet.create layout (some ⟨p.id, offset⟩)).mapError Failure.exhausted)
  modify (·.occupy ⟨offset, layout.allocationSize⟩)
  return set

/-- A set is freed in the pool it was allocated from. -/
def freeError : ValidationError where
  context := "set"
  problem := "was not allocated from this pool"
  rules := ["VUID-vkFreeDescriptorSets-pDescriptorSets-parent"]

/-- The place of a set, if it is in this pool. -/
def placeOf (p : DescriptorPool) (set : DescriptorSet) : Except Failure PoolPlace :=
  match set.place with
  | some place => if place.pool = p.id then .ok place else .error (.invalid freeError)
  | none => .error (.invalid freeError)

/-- The pool without the range at an offset. -/
def vacate (p : DescriptorPool) (offset : Nat) : DescriptorPool :=
  { p with ranges := p.ranges.eraseP (·.offset = offset) }

/-- Frees whatever is allocated at the place of a set. -/
def free (set : DescriptorSet) : Call Unit := do
  let p ← get
  let place ← liftM (p.placeOf set)
  match p.ranges.find? (·.offset = place.offset) with
  | none => return
  | some r =>
    modify (·.vacate place.offset)
    let allocatedBytes ← liftM (difference p.allocatedBytes r.size)
    modify ({ · with allocatedBytes })

/-- The pool without ranges in use. -/
def cleared (p : DescriptorPool) : DescriptorPool := { p with ranges := [], allocatedBytes := 0 }

/-- Frees all sets. -/
def reset : Call Unit := modify cleared

end DescriptorPool

end HostGpu
