import HostGpu.Failure
import Std.Data.TreeMap

/-!
# The data of a descriptor set

Records lie in the data of a set as 32-bit cells. A cell holds a word or one half of a pointer into
the memory of an image or buffer; a pointer takes two cells in a row, and two zero words are the
null pointer. `cell` is the view that reads and writes are explained by. Only cells that were
written are kept, all others are zero words.
-/

namespace HostGpu

/-- A place in a block of memory. -/
structure Pointer where
  block : Nat
  offset : Nat
deriving DecidableEq, Repr

/-- Four bytes of descriptor data. -/
inductive Cell where
  | word (w : UInt32)
  | low (p : Pointer)
  | high (p : Pointer)
deriving DecidableEq, Repr

namespace Cell

def zero : Cell := .word 0

/-- The word in a cell; the halves of pointers have no meaning as words and read as zero. -/
def toWord : Cell → UInt32
  | .word w => w
  | .low _ | .high _ => 0

/-- The cells of a pointer. -/
def ofPointer : Option Pointer → List Cell
  | some p => [.low p, .high p]
  | none => [.zero, .zero]

/-- The pointer in two cells. -/
def toPointer : Cell → Cell → Option Pointer
  | .low p, .high q => if p = q then some p else none
  | _, _ => none

@[simp] theorem toPointer_halves (p : Pointer) : toPointer (.low p) (.high p) = some p := by
  simp [toPointer]

end Cell

/-- The data of a descriptor set; offsets are in bytes and multiples of four. -/
structure SetData where
  size : Nat
  stored : Std.TreeMap Nat Cell

namespace SetData

/-- Data of zero words. -/
def zeroed (size : Nat) : SetData := ⟨size, ∅⟩

/-- The cell with a given number. -/
def cell (d : SetData) (i : Nat) : Cell := d.stored.getD i .zero

/-- Replaces the cell with a given number. -/
def setCell (d : SetData) (i : Nat) (c : Cell) : SetData :=
  { d with stored := d.stored.insert i c }

/-- Replaces cells from a given number on. -/
def setCells (d : SetData) (i : Nat) : List Cell → SetData
  | [] => d
  | c :: rest => (d.setCell i c).setCells (i + 1) rest

/-- Writes cells at a byte offset. -/
def write (d : SetData) (offset : Nat) (cells : List Cell) : SetData :=
  d.setCells (offset / 4) cells

/-- Writes words at a byte offset. -/
def writeWords (d : SetData) (offset : Nat) (words : List UInt32) : SetData :=
  d.write offset (words.map .word)

/-- The word at a byte offset. -/
def word (d : SetData) (offset : Nat) : UInt32 := (d.cell (offset / 4)).toWord

/-- The words of `count` cells from a byte offset on. -/
def words (d : SetData) (offset count : Nat) : List UInt32 :=
  (List.range count).map fun i => d.word (offset + 4 * i)

/-- The pointer at a byte offset. -/
def pointer (d : SetData) (offset : Nat) : Option Pointer :=
  (d.cell (offset / 4)).toPointer (d.cell (offset / 4 + 1))

/-- The cells of `size` bytes from a byte offset on. -/
def cells (d : SetData) (offset size : Nat) : List Cell :=
  (List.range (size / 4)).map fun i => d.cell (offset / 4 + i)

theorem cell_zeroed (size i : Nat) : (zeroed size).cell i = .zero := by
  simp [cell, zeroed]

theorem cell_setCell (d : SetData) (i j : Nat) (c : Cell) :
    (d.setCell i c).cell j = if i = j then c else d.cell j := by
  simp [cell, setCell, Std.TreeMap.getD_insert]

/-- A write changes exactly the cells it covers. -/
theorem cell_setCells (d : SetData) (i j : Nat) (cs : List Cell) :
    (d.setCells i cs).cell j = if i ≤ j then (cs[j - i]?).getD (d.cell j) else d.cell j := by
  induction cs generalizing d i with
  | nil => simp [setCells]
  | cons c rest ih =>
    rw [setCells, ih, cell_setCell]
    rcases Nat.lt_trichotomy i j with h | h | h
    · have h₁ : j - i = (j - (i + 1)) + 1 := by omega
      have h₂ : ¬ i = j := by omega
      rw [h₁, List.getElem?_cons_succ]
      simp [h₂, Nat.succ_le_of_lt h, Nat.le_of_lt h]
    · subst h
      have h₁ : ¬ i + 1 ≤ i := by omega
      simp [h₁]
    · have h₁ : ¬ i + 1 ≤ j := by omega
      have h₂ : ¬ i ≤ j := by omega
      have h₃ : ¬ i = j := by omega
      simp [h₁, h₂, h₃]

@[simp] theorem size_setCells (d : SetData) (i : Nat) (cs : List Cell) :
    (d.setCells i cs).size = d.size := by
  induction cs generalizing d i with
  | nil => rfl
  | cons c rest ih => simp [setCells, ih, setCell]

@[simp] theorem size_write (d : SetData) (offset : Nat) (cs : List Cell) :
    (d.write offset cs).size = d.size := size_setCells _ _ _

end SetData

end HostGpu
