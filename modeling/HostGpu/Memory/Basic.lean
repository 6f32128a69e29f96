import HostGpu.Fault
import Std.Data.TreeMap

/-!
# Blocks of memory

A block has a size and a byte at every offset below it. Only bytes that were stored are kept, all
others are zero, so that large blocks cost nothing until they are written. `byte` is the view that
everything else is explained by: the lemmas say what each store does to it.
-/

namespace HostGpu

/-- A block of memory; bytes that were never stored are zero. -/
structure Memory where
  size : Nat
  stored : Std.TreeMap Nat UInt8

namespace Memory

/-- The largest size of a block. -/
def maxSize : Nat := 0x40000000

/-- A block of zeros of any size. -/
def zeroed (size : Nat) : Memory := ⟨size, ∅⟩

/-- A new block of zeros, if it is not too large. -/
def allocate (size : Nat) : Except ResourceError Memory :=
  if maxSize < size then .error .outOfDeviceMemory else .ok (zeroed size)

/-- The byte at an offset, zero outside of the block. -/
def byte (m : Memory) (i : Nat) : UInt8 := if i < m.size then m.stored.getD i 0 else 0

/-- Stores a byte; nothing happens outside of the block. -/
def setByte (m : Memory) (i : Nat) (b : UInt8) : Memory :=
  if i < m.size then { m with stored := m.stored.insert i b } else m

/-- Stores bytes from an offset on. -/
def storeBytes (m : Memory) (offset : Nat) : List UInt8 → Memory
  | [] => m
  | b :: rest => (m.setByte offset b).storeBytes (offset + 1) rest

/-- The `count` bytes from an offset on. -/
def loadBytes (m : Memory) (offset count : Nat) : List UInt8 :=
  (List.range count).map fun i => m.byte (offset + i)

/-- All bytes of a block. -/
def bytes (m : Memory) : List UInt8 := m.loadBytes 0 m.size

/-- Reads bytes that have to lie in the block. -/
def read (m : Memory) (offset count : Nat) : Except Fault (List UInt8) :=
  if offset + count ≤ m.size then .ok (m.loadBytes offset count) else .error .accessOutOfRange

/-- Writes bytes that have to lie in the block. -/
def write (m : Memory) (offset : Nat) (data : List UInt8) : Except Fault Memory :=
  if offset + data.length ≤ m.size then .ok (m.storeBytes offset data)
  else .error .accessOutOfRange

/-- The block with its bytes in reverse order. -/
def reverse (m : Memory) : Memory := m.storeBytes 0 m.bytes.reverse

/-! ## The view of bytes -/

@[simp] theorem size_setByte (m : Memory) (i : Nat) (b : UInt8) :
    (m.setByte i b).size = m.size := by
  unfold setByte
  split <;> rfl

@[simp] theorem byte_zeroed (size i : Nat) : (zeroed size).byte i = 0 := by
  simp [byte, zeroed]

theorem byte_setByte (m : Memory) (i j : Nat) (b : UInt8) :
    (m.setByte i b).byte j = if i = j ∧ j < m.size then b else m.byte j := by
  unfold setByte
  split <;> rename_i h
  · simp only [byte, Std.TreeMap.getD_insert]
    by_cases hj : j < m.size
    · by_cases hij : i = j
      · simp [hij, hj]
      · simp [hj, hij]
    · simp [hj]
  · by_cases hij : i = j ∧ j < m.size
    · exact absurd (hij.1 ▸ hij.2) h
    · simp [hij]

@[simp] theorem size_storeBytes (m : Memory) (offset : Nat) (data : List UInt8) :
    (m.storeBytes offset data).size = m.size := by
  induction data generalizing m offset with
  | nil => rfl
  | cons b rest ih => simp [storeBytes, ih]

/-- A store changes exactly the bytes it covers. -/
theorem byte_storeBytes (m : Memory) (offset : Nat) (data : List UInt8) (i : Nat) :
    (m.storeBytes offset data).byte i =
      if offset ≤ i ∧ i < m.size then (data[i - offset]?).getD (m.byte i) else m.byte i := by
  induction data generalizing m offset with
  | nil => simp [storeBytes]
  | cons b rest ih =>
    simp only [storeBytes, ih, size_setByte, byte_setByte]
    by_cases hi : i < m.size
    · rcases Nat.lt_trichotomy offset i with h | h | h
      · have h₁ : i - offset = (i - (offset + 1)) + 1 := by omega
        have h₂ : ¬ offset = i := by omega
        rw [h₁, List.getElem?_cons_succ]
        simp [hi, h₂, Nat.succ_le_of_lt h, Nat.le_of_lt h]
      · subst h
        have h₁ : ¬ offset + 1 ≤ offset := by omega
        simp [hi, h₁]
      · have h₁ : ¬ offset + 1 ≤ i := by omega
        have h₂ : ¬ offset ≤ i := by omega
        have h₃ : ¬ offset = i := by omega
        simp [h₁, h₂, h₃]
    · simp [hi]

@[simp] theorem length_loadBytes (m : Memory) (offset count : Nat) :
    (m.loadBytes offset count).length = count := by
  simp [loadBytes]

theorem getElem?_loadBytes (m : Memory) (offset count i : Nat) (h : i < count) :
    (m.loadBytes offset count)[i]? = some (m.byte (offset + i)) := by
  simp [loadBytes, h]

/-! ## Words in memory -/

end Memory

namespace Word

/-- The `n` low bytes of a word, the lowest first. -/
def toBytes (n : Nat) (w : UInt32) : List UInt8 :=
  match n with
  | 0 => []
  | n + 1 => w.toUInt8 :: toBytes n (w >>> 8)

/-- The word with the given bytes, the lowest first. -/
def ofBytes : List UInt8 → UInt32
  | [] => 0
  | b :: rest => b.toUInt32 ||| ofBytes rest <<< 8

@[simp] theorem length_toBytes (n : Nat) (w : UInt32) : (toBytes n w).length = n := by
  induction n generalizing w with
  | zero => rfl
  | succ n ih => simp [toBytes, ih]

end Word

namespace Memory

/-- The word of the `n` bytes at an offset, the lowest first. -/
def loadWord (m : Memory) (offset n : Nat) : UInt32 := Word.ofBytes (m.loadBytes offset n)

/-- Stores the `n` low bytes of a word at an offset, the lowest first. -/
def storeWord (m : Memory) (offset n : Nat) (w : UInt32) : Memory :=
  m.storeBytes offset (Word.toBytes n w)

end Memory

end HostGpu
