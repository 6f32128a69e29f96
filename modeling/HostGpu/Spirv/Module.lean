import HostGpu.Fault
import HostGpu.Memory.Basic
import HostGpu.Text.Utf8

/-!
# SPIR-V modules as lists of instructions

A module is a header of five words and a sequence of instructions, each of which begins with a word
that holds its length and its opcode. `Module.ofWords` accepts either byte order and cuts the words
after the header into instructions without remainder; `Module.fetch` reads the instruction at a
word offset again.
-/

namespace HostGpu.Spirv

/-- Why words are not a module. -/
inductive ModuleError where
  | missingHeader
  | wrongHeader
  | incompleteInstruction (offset : Nat)
  | zeroWordCount (offset : Nat)
deriving DecidableEq, Repr

namespace ModuleError

/-- The published name of the error. -/
def name : ModuleError → String
  | missingHeader => "MissingHeader"
  | wrongHeader => "WrongHeader"
  | incompleteInstruction _ => "IncompleteInstruction"
  | zeroWordCount _ => "ZeroWordCount"

def message : ModuleError → String
  | missingHeader => "the module is shorter than its header"
  | wrongHeader => "the module does not start with the magic number"
  | incompleteInstruction offset =>
    s!"the instruction at word {offset} extends past the end of the module"
  | zeroWordCount offset => s!"the instruction at word {offset} has a word count of zero"

end ModuleError

/-! ## Instructions -/

/-- An instruction with its own words, the leading one included. -/
structure Instruction where
  /-- Where it starts in the module, in words. -/
  offset : Nat
  words : List UInt32
deriving DecidableEq, Repr

/-- The length that a leading word gives. -/
def wordCount (leading : UInt32) : Nat := (leading >>> 16).toNat

namespace Instruction

def opcode (i : Instruction) : Nat := ((i.words.headD 0) &&& 0xFFFF).toNat

/-- The operation, if its opcode is known. -/
def op? (i : Instruction) : Option Opcode := Catalogue.ofNumber? i.opcode

def length (i : Instruction) : Nat := i.words.length

/-- One word of the instruction. -/
def word (i : Instruction) (index : Nat) : Except Fault UInt32 :=
  match i.words[index]? with
  | some w => .ok w
  | none => .error (.missingWord index i.opcode i.length)

/-- A word that is an identifier. -/
def id (i : Instruction) (index : Nat) : Except Fault Nat := do
  return (← i.word index).toNat

/-- A string that starts at a word: its bytes up to the first zero byte. -/
def string (i : Instruction) (index : Nat) : Except Fault String :=
  if i.length < index then .error .indexOutOfRange
  else
    let bytes := (i.words.drop index).flatMap (Word.toBytes 4)
    .ok (String.ofList (Utf8.decode (bytes.takeWhile (· ≠ 0))))

/-- The operation and the operand words as text. -/
def describe (i : Instruction) : String :=
  let title := match i.op? with
    | some op => Catalogue.name op
    | none => s!"Op{i.opcode}"
  title ++ "[" ++ ", ".intercalate (i.words.tail.map fun w => toString w.toNat) ++ "]"

end Instruction

/-! ## Modules -/

/-- The first word of every module. -/
def magic : UInt32 := 0x07230203

/-- Words before the first instruction. -/
def headerWords : Nat := 5

/-- A word with its bytes in the other order. -/
def swapBytes (w : UInt32) : UInt32 := Word.ofBytes (Word.toBytes 4 w).reverse

structure Module where
  words : List UInt32
  instructions : List Instruction
deriving DecidableEq, Repr

namespace Module

/-- Cuts words into instructions, the first of which starts at `offset`. -/
def cut (offset : Nat) : List UInt32 → Except ModuleError (List Instruction)
  | [] => .ok []
  | leading :: rest =>
    let count := wordCount leading
    if count = 0 then .error (.zeroWordCount offset)
    else if rest.length + 1 < count then .error (.incompleteInstruction offset)
    else do
      let following ← cut (offset + count) (rest.drop (count - 1))
      return ⟨offset, leading :: rest.take (count - 1)⟩ :: following
termination_by words => words.length
decreasing_by
  simp only [List.length_drop, List.length_cons]
  omega

/-- The module with the given words, which are in either byte order. -/
def ofWords (words : List UInt32) : Except ModuleError Module := do
  if words.length < headerWords then .error .missingHeader
  let first := words.headD 0
  let words ←
    if first = magic then .ok words
    else if swapBytes first = magic then .ok (words.map swapBytes)
    else .error .wrongHeader
  return ⟨words, ← cut headerWords (words.drop headerWords)⟩

/-- Bytes as words, the lowest byte of each word first. -/
def wordsOfBytes : List UInt8 → List UInt32
  | b₀ :: b₁ :: b₂ :: b₃ :: rest => Word.ofBytes [b₀, b₁, b₂, b₃] :: wordsOfBytes rest
  | _ => []

/-- The module with the given bytes. -/
def ofBytes (bytes : List UInt8) : Except ModuleError Module :=
  if bytes.length % 4 ≠ 0 then .error (.incompleteInstruction (bytes.length / 4))
  else ofWords (wordsOfBytes bytes)

/-- A word of the header. -/
def header (m : Module) (index : Nat) : UInt32 := (m.words[index]?).getD 0

def majorVersion (m : Module) : Nat := ((m.header 1 >>> 16) &&& 0xFF).toNat

def minorVersion (m : Module) : Nat := ((m.header 1 >>> 8) &&& 0xFF).toNat

/-- All identifiers of the module are below the bound. -/
def bound (m : Module) : Nat := (m.header 3).toNat

/-- The instruction that starts at a word offset. -/
def fetch (m : Module) (offset : Nat) : Except Fault Instruction :=
  match m.words.drop offset with
  | [] => .error .indexOutOfRange
  | leading :: rest =>
    let count := wordCount leading
    if count = 0 ∨ rest.length + 1 < count then .error .indexOutOfRange
    else .ok ⟨offset, leading :: rest.take (count - 1)⟩

end Module

end HostGpu.Spirv
