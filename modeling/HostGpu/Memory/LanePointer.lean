import HostGpu.Lanes.Arithmetic
import HostGpu.Memory.Basic

/-!
# Pointers with an offset in each lane

A lane pointer starts at a base in a block and has a limit and, in each lane, a signed byte offset
from the base. An access of a lane is in bounds if it starts at or after the base and ends at or
before the limit. Loads give zero in lanes that are off; stores are made in lane order, so that the
highest lane wins where several lanes store to one byte.
-/

namespace HostGpu

/-- What happens to accesses that are out of bounds. -/
inductive BoundsRule where
  /-- They read zero and store nothing; the texel address has already been moved out of bounds for
  coordinates outside of the image. -/
  | nullify
  /-- They read zero and store nothing. -/
  | robustBuffer
  /-- They are made as they are. -/
  | unchecked
deriving DecidableEq, Repr

instance : Catalogue BoundsRule where
  entries := [
    ⟨.nullify, "Nullify", 0⟩,
    ⟨.robustBuffer, "RobustBufferAccess", 1⟩,
    ⟨.unchecked, "UndefinedBehavior", 2⟩]

structure LanePointer where
  /-- The offset in its block that lane offsets count from. -/
  base : Nat
  /-- The number of bytes after the base that may be accessed. -/
  limit : Nat
  offsets : WordLanes
deriving DecidableEq, Repr

namespace LanePointer

/-- A pointer whose lanes all point to the base. -/
def start (base limit : Nat) : LanePointer := ⟨base, limit, .splat 0⟩

/-- Moves every lane by its own number of bytes. -/
def advance (p : LanePointer) (distance : WordLanes) : LanePointer :=
  { p with offsets := p.offsets.add distance }

/-- The distance of a lane from the base. -/
def distance (p : LanePointer) (l : Lane) : Int := Word.signed (p.offsets.get l)

/-- The offset in the block that a lane points to. -/
def address (p : LanePointer) (l : Lane) : Int := p.base + p.distance l

/-- Whether an access of `n` bytes in a lane lies between the base and the limit. -/
def laneInBounds (p : LanePointer) (n : Nat) (l : Lane) : Bool :=
  0 ≤ p.distance l && p.distance l + n ≤ p.limit

/-- The mask of lanes whose access of `n` bytes is in bounds. -/
def inBounds (p : LanePointer) (n : Nat) : WordLanes :=
  .ofFn fun l => Word.ofBool (p.laneInBounds n l)

/-- The mask of lanes that make an access of `n` bytes. -/
def accessMask (p : LanePointer) (n : Nat) (mask : WordLanes) (rule : BoundsRule) : WordLanes :=
  match rule with
  | .unchecked => mask
  | .nullify | .robustBuffer => mask.and (p.inBounds n)

/-- Loads `n` bytes in every lane, the lowest first. -/
def load (p : LanePointer) (m : Memory) (n : Nat) (mask : WordLanes) (rule : BoundsRule) :
    WordLanes :=
  let enabled := p.accessMask n mask rule
  .ofFn fun l =>
    if enabled.get l = 0 ∨ p.address l < 0 then 0 else m.loadWord (p.address l).toNat n

/-- Stores the `n` low bytes of the value of one lane, if the lane is on. -/
def storeLane (p : LanePointer) (n : Nat) (enabled value : WordLanes) (m : Memory) (l : Lane) :
    Memory :=
  if enabled.get l = 0 ∨ p.address l < 0 then m
  else m.storeWord (p.address l).toNat n (value.get l)

/-- Stores the `n` low bytes of the value of every lane in lane order. -/
def store (p : LanePointer) (m : Memory) (n : Nat) (value mask : WordLanes) (rule : BoundsRule) :
    Memory :=
  Lane.all.foldl (p.storeLane n (p.accessMask n mask rule) value) m

/-- Adds the value of one lane to the word it points to, if the lane is on, and notes the word that
was there before. -/
def addLane (p : LanePointer) (enabled value : WordLanes) (before : WordLanes × Memory)
    (l : Lane) : WordLanes × Memory :=
  let (previous, m) := before
  if enabled.get l = 0 ∨ p.address l < 0 then (previous, m)
  else
    let old := m.loadWord (p.address l).toNat 4
    (previous.set l old, m.storeWord (p.address l).toNat 4 (old + value.get l))

/-- Adds values to words in lane order, in the lanes that are on and in bounds. The result is the
word that each of these lanes found, and zero in the others. -/
def atomicAdd (p : LanePointer) (m : Memory) (value mask : WordLanes) : WordLanes × Memory :=
  Lane.all.foldl (p.addLane (mask.and (p.inBounds 4)) value) (.splat 0, m)

@[simp] theorem size_storeLane (p : LanePointer) (n : Nat) (enabled value : WordLanes)
    (m : Memory) (l : Lane) : (p.storeLane n enabled value m l).size = m.size := by
  unfold storeLane
  split
  · rfl
  · simp [Memory.storeWord]

@[simp] theorem size_store (p : LanePointer) (m : Memory) (n : Nat) (value mask : WordLanes)
    (rule : BoundsRule) : (p.store m n value mask rule).size = m.size := by
  simp [store, Lane.all]

end LanePointer

end HostGpu
