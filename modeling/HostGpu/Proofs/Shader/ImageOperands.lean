import HostGpu.Proofs.Number.Bits
import HostGpu.Proofs.Shader.Objects
import HostGpu.Shader.SamplingInstruction

/-!
# Operands that a mask announces

The mask of an image instruction announces operands by its bits, and they follow it in the order of
the bits; gradients take two words, the others one.  One cursor goes through them, so that an
operand stands behind the words of all operands with lower bits (`ImageOperands.wordsBelow`).
Operands are read exactly if the mask has no other bits and all of them are there, and then they are
the words at these places (`ImageOperands.read_eq_ok`).  Operands that were written so are read back
(`ImageOperands.read_written`).
-/

namespace HostGpu.Shader

open Spirv Outcome

namespace ImageOperands

/-! ## Places of operands -/

/-- The bits of the mask that announce operands, with the number of words of each. -/
def operandSizes : List (Nat × Nat) := [(0, 1), (1, 1), (2, 2), (3, 1), (6, 1)]

/-- The bits that announce operands. -/
def operandBits : List Nat := operandSizes.map Prod.fst

/-- The bits that a mask may have: those of operands, and two that say how integers are
extended. -/
def knownBits : List Nat := operandBits ++ [12, 13]

/-- The words of the operands whose bits are below a bit. -/
def wordsBelow (mask : UInt32) (b : Nat) : Nat :=
  (operandSizes.map fun (bit, words) => if bit < b ∧ Word.bit mask bit then words else 0).sum

/-- The operand at a word, if the mask has its bit. -/
def operand? (i : Instruction) (mask : UInt32) (b index : Nat) : Option Nat :=
  if Word.bit mask b then (i.words[index]?).map (·.toNat) else none

/-- The operands that stand behind the mask at a word, in the order of their bits. -/
def operandsAt (i : Instruction) (index : Nat) (mask : UInt32) : ImageOperands :=
  let place (b : Nat) := index + 1 + wordsBelow mask b
  { mask := mask &&& ~~~extensionBits
    bias := operand? i mask 0 (place 0)
    lod := operand? i mask 1 (place 1)
    gradient := (operand? i mask 2 (place 2)).bind fun dx =>
      (operand? i mask 2 (place 2 + 1)).map fun dy => (dx, dy)
    constOffset := operand? i mask 3 (place 3)
    sample := operand? i mask 6 (place 6) }

variable {i : Instruction} {mask word : UInt32} {b index : Nat}

/-- Only bits of operands are tested, and these are the ones of the word that was read. -/
theorem bit_mask (hb : b ∈ operandBits) :
    Word.bit (word &&& ~~~extensionBits) b = Word.bit word b := by
  have hkept : ∀ b ∈ operandBits, Word.bit (~~~extensionBits) b = true := by decide
  rw [Word.bit_and, hkept b hb, Bool.and_true]

/-- A mask passes the check if it has known bits only. -/
theorem supported_iff : word &&& ~~~extensionBits &&& ~~~supportedBits = 0 ↔
    ∀ b < 32, Word.bit word b = true → b ∈ knownBits := by
  have hothers : ∀ b < 32, Word.bit (~~~extensionBits &&& ~~~supportedBits) b =
      !decide (b ∈ knownBits) := by decide
  constructor
  · intro h b hb hbit
    have hzero := congrArg (Word.bit · b) h
    simp only [UInt32.and_assoc, Word.bit_and word, hothers b hb, hbit, Word.bit_zero,
      Bool.true_and] at hzero
    simpa using hzero
  · intro h
    refine Word.eq_of_bit_eq fun b hb => ?_
    rw [UInt32.and_assoc, Word.bit_and, hothers b hb, Word.bit_zero]
    cases hbit : Word.bit word b with
    | false => rfl
    | true => simp [h b hb hbit]

theorem checkBits_eq_ok {allowed : UInt32} {u : Unit} :
    checkBits mask allowed = .ok u ↔ mask &&& ~~~allowed = 0 := by
  simp [checkBits]

/-! ## The cursor -/

/-- An operand that is announced is the word at the cursor, which then moves past it. -/
theorem take_eq_ok (hb : b ∈ operandBits) {taken : Option Nat × Nat} :
    take i (word &&& ~~~extensionBits) (UInt32.ofNat (2 ^ b)) index = .ok taken ↔
      (Word.bit word b = true → index < i.length) ∧
        taken = (operand? i word b index, index + (Word.bit word b).toNat) := by
  have hlt : b < 32 := by
    revert b
    decide
  have htest : word &&& ~~~extensionBits &&& UInt32.ofNat (2 ^ b) = 0 ↔
      Word.bit word b = false := by
    rw [Word.and_two_pow_eq_zero hlt, bit_mask hb]
  rw [take, operand?]
  cases hbit : Word.bit word b with
  | false =>
    rw [if_pos (htest.mpr hbit)]
    simp [eq_comm]
  | true =>
    rw [if_neg (by rw [htest, hbit]; decide)]
    simp only [bind_eq_ok, Instruction.id_eq_ok, pure_eq_ok, Instruction.length]
    cases hword : i.words[index]? with
    | none =>
      have hle := List.getElem?_eq_none_iff.mp hword
      simp [hle]
    | some w =>
      obtain ⟨hlt, -⟩ := List.getElem?_eq_some_iff.mp hword
      simp [hlt, eq_comm]

/-- The places of the operands are those that the cursor comes to. -/
theorem cursor_eq (mask : UInt32) (n : Nat) :
    let words (b : Nat) := (Word.bit mask b).toNat
    n + wordsBelow mask 0 = n ∧
    n + wordsBelow mask 1 = n + words 0 ∧
    n + wordsBelow mask 2 = n + words 0 + words 1 ∧
    n + wordsBelow mask 3 = n + words 0 + words 1 + words 2 + words 2 ∧
    n + wordsBelow mask 6 = n + words 0 + words 1 + words 2 + words 2 + words 3 ∧
    n + wordsBelow mask 32 = n + words 0 + words 1 + words 2 + words 2 + words 3 + words 6 := by
  have hone (b : Bool) : (if b = true then 1 else 0) = b.toNat := by cases b <;> rfl
  have htwo (b : Bool) : (if b = true then 2 else 0) = b.toNat + b.toNat := by cases b <;> rfl
  simp [wordsBelow, operandSizes, hone, htwo, Nat.add_assoc]

/-- The cursor stays in the instruction if the operand that it passes is there. -/
theorem lt_iff_add_toNat_le {announced : Bool} {m n : Nat} (h : n ≤ m) :
    (announced = true → n < m) ↔ n + announced.toNat ≤ m := by
  cases announced with
  | false => simp [h]
  | true => exact ⟨fun hlt => hlt rfl, fun hle _ => hle⟩

/-- Only an operand that is announced has a second word. -/
theorem operand?_second :
    operand? i mask b (index + (Word.bit mask b).toNat) = operand? i mask b (index + 1) := by
  rw [operand?, operand?]
  cases Word.bit mask b <;> rfl

/-- The bits that are tested. -/
theorem bits_eq : biasBit = UInt32.ofNat (2 ^ 0) ∧ lodBit = UInt32.ofNat (2 ^ 1) ∧
    gradientBit = UInt32.ofNat (2 ^ 2) ∧ constOffsetBit = UInt32.ofNat (2 ^ 3) ∧
    sampleBit = UInt32.ofNat (2 ^ 6) := by decide

/-- **What is read.** -/
theorem read_eq_ok {o : ImageOperands} (hword : i.words[index]? = some word) :
    read i index = .ok o ↔ (∀ b < 32, Word.bit word b = true → b ∈ knownBits) ∧
      index + 1 + wordsBelow word 32 ≤ i.length ∧ o = operandsAt i index word := by
  have hlt : index < i.length := (List.getElem?_eq_some_iff.mp hword).1
  have hlength : ¬ i.length ≤ index := Nat.not_le.mpr hlt
  have hmask : i.word index = .ok word := by rw [Instruction.word, hword]
  obtain ⟨hbias, hlod, hgradient, hoffset, hsample⟩ := bits_eq
  obtain ⟨h₀, h₁, h₂, h₃, h₆, hall⟩ := cursor_eq word (index + 1)
  rw [read, if_neg hlength, hmask]
  simp (disch := decide) only [ok_bind, hbias, hlod, hgradient, hoffset, hsample, bind_eq_ok,
    take_eq_ok, and_assoc, exists_and_left, exists_eq_left, checkBits_eq_ok, supported_iff,
    pure_eq_ok, exists_const, operandsAt, h₀, h₁, h₂, h₃, h₆, hall, operand?_second (b := 2)]
  constructor
  · rintro ⟨hroom₀, hroom₁, hroom₂, hroom₂', hroom₃, hroom₆, hknown, rfl⟩
    have hend₀ := (lt_iff_add_toNat_le (Nat.succ_le_of_lt hlt)).mp hroom₀
    have hend₁ := (lt_iff_add_toNat_le hend₀).mp hroom₁
    have hend₂ := (lt_iff_add_toNat_le hend₁).mp hroom₂
    have hend₂' := (lt_iff_add_toNat_le hend₂).mp hroom₂'
    have hend₃ := (lt_iff_add_toNat_le hend₂').mp hroom₃
    exact ⟨hknown, (lt_iff_add_toNat_le hend₃).mp hroom₆, rfl⟩
  · rintro ⟨hknown, hroom, rfl⟩
    refine ⟨?_, ?_, ?_, ?_, ?_, ?_, hknown, rfl⟩ <;>
      exact (lt_iff_add_toNat_le (by omega)).mpr (by omega)

/-- An instruction that ends before a mask has no operands. -/
theorem read_of_le (h : i.length ≤ index) : read i index = .ok {} := by
  rw [read, if_pos h]
  rfl

end ImageOperands

/-! ## Operands that were written -/

/-- The identifiers of the operands of an image instruction. -/
structure OperandIds where
  bias : Option UInt32 := none
  lod : Option UInt32 := none
  gradient : Option (UInt32 × UInt32) := none
  constOffset : Option UInt32 := none
  sample : Option UInt32 := none
deriving DecidableEq, Repr

namespace OperandIds

/-- One bit of a mask, set for an operand that is there. -/
def announce {α : Type} (b : Nat) (o : Option α) : UInt32 :=
  if o.isSome then UInt32.ofNat (2 ^ b) else 0

/-- The bits of the mask that announce the operands. -/
def bits (w : OperandIds) : UInt32 :=
  announce 0 w.bias ||| announce 1 w.lod ||| announce 2 w.gradient ||| announce 3 w.constOffset |||
    announce 6 w.sample

/-- The operands in the order of the bits. -/
def ids (w : OperandIds) : List UInt32 :=
  w.bias.toList ++ w.lod.toList ++ (w.gradient.map Prod.fst).toList ++
    (w.gradient.map Prod.snd).toList ++ w.constOffset.toList ++ w.sample.toList

/-- The operands as they are read. -/
def operands (w : OperandIds) : ImageOperands where
  mask := w.bits
  bias := w.bias.map (·.toNat)
  lod := w.lod.map (·.toNat)
  gradient := w.gradient.map fun (dx, dy) => (dx.toNat, dy.toNat)
  constOffset := w.constOffset.map (·.toNat)
  sample := w.sample.map (·.toNat)

theorem bit_announce {α : Type} {b : Nat} (hb : b < 32) (o : Option α) (j : Nat) :
    Word.bit (announce b o) j = (o.isSome && decide (b = j)) := by
  rw [announce]
  cases o with
  | none => exact Word.bit_zero j
  | some a => exact Word.bit_two_pow hb j

theorem bit_bits (w : OperandIds) (j : Nat) : Word.bit w.bits j =
    (w.bias.isSome && decide (0 = j) || w.lod.isSome && decide (1 = j) ||
      w.gradient.isSome && decide (2 = j) || w.constOffset.isSome && decide (3 = j) ||
      w.sample.isSome && decide (6 = j)) := by
  simp (disch := decide) only [bits, Word.bit_or, bit_announce]

theorem mem_of_bit_bits {w : OperandIds} {j : Nat} (h : Word.bit w.bits j = true) :
    j ∈ ImageOperands.operandBits := by
  simp only [w.bit_bits, Bool.or_eq_true, Bool.and_eq_true, decide_eq_true_eq] at h
  rcases h with (((⟨-, rfl⟩ | ⟨-, rfl⟩) | ⟨-, rfl⟩) | ⟨-, rfl⟩) | ⟨-, rfl⟩ <;> decide

end OperandIds

namespace ImageOperands

variable {i : Instruction} {mask extension : UInt32} {b index : Nat} {w : OperandIds}

/-- An operand that stands at the cursor is there, and the rest follows it. -/
theorem operand?_written {o : Option UInt32} {rest : List UInt32}
    (hbit : Word.bit mask b = o.isSome) (hwords : i.words.drop index = o.toList ++ rest) :
    operand? i mask b index = o.map (·.toNat) ∧
      i.words.drop (index + (Word.bit mask b).toNat) = rest := by
  rw [operand?, hbit]
  cases o with
  | none => exact ⟨rfl, hwords⟩
  | some x =>
    have hhead : i.words[index]? = some x := by
      rw [← List.head?_drop, hwords]
      rfl
    have htail := congrArg (List.drop 1) hwords
    rw [List.drop_drop] at htail
    exact ⟨by rw [hhead]; rfl, htail⟩

/-- The bits that say how integers are extended are not those of operands. -/
theorem bit_extension (h : extension &&& ~~~extensionBits = 0) (hb : b < 32)
    (hbit : Word.bit extension b = true) : b ∈ [12, 13] := by
  have hothers : ∀ b < 32, Word.bit (~~~extensionBits) b = !decide (b ∈ [12, 13]) := by decide
  have hzero := congrArg (Word.bit · b) h
  simp only [Word.bit_and, hbit, hothers b hb, Word.bit_zero, Bool.true_and] at hzero
  simpa only [Bool.not_eq_false', decide_eq_true_eq] using hzero

/-- The mask announces the operands, whatever it says about integers. -/
theorem bit_written (h : extension &&& ~~~extensionBits = 0) (hb : b ∈ operandBits) :
    Word.bit (w.bits ||| extension) b = Word.bit w.bits b := by
  have hapart : ∀ b ∈ operandBits, b < 32 ∧ b ∉ [12, 13] := by decide
  obtain ⟨hlt, hnot⟩ := hapart b hb
  have hoff : Word.bit extension b = false :=
    Bool.eq_false_iff.mpr fun hbit => hnot (bit_extension h hlt hbit)
  rw [Word.bit_or, hoff, Bool.or_false]

/-- The mask has no bits but those. -/
theorem known_written (h : extension &&& ~~~extensionBits = 0) (hb : b < 32)
    (hbit : Word.bit (w.bits ||| extension) b = true) : b ∈ knownBits := by
  rw [Word.bit_or, Bool.or_eq_true] at hbit
  rcases hbit with hbit | hbit
  · exact List.mem_append_left _ (OperandIds.mem_of_bit_bits hbit)
  · exact List.mem_append_right _ (bit_extension h hb hbit)

/-- The mask that is kept is the one that announces the operands. -/
theorem mask_written (h : extension &&& ~~~extensionBits = 0) :
    (w.bits ||| extension) &&& ~~~extensionBits = w.bits := by
  rw [Word.or_and_distrib_right, h, UInt32.or_zero]
  refine Word.eq_of_bit_eq fun b _ => ?_
  cases hbit : Word.bit w.bits b with
  | false => rw [Word.bit_and, hbit, Bool.false_and]
  | true => rw [bit_mask (OperandIds.mem_of_bit_bits hbit), hbit]

/-- Each operand that is there is announced. -/
theorem announces_written (h : extension &&& ~~~extensionBits = 0) :
    Word.bit (w.bits ||| extension) 0 = w.bias.isSome ∧
    Word.bit (w.bits ||| extension) 1 = w.lod.isSome ∧
    Word.bit (w.bits ||| extension) 2 = w.gradient.isSome ∧
    Word.bit (w.bits ||| extension) 3 = w.constOffset.isSome ∧
    Word.bit (w.bits ||| extension) 6 = w.sample.isSome := by
  have hbit (b : Nat) (hb : b ∈ operandBits) := (bit_written (w := w) h hb).trans (w.bit_bits b)
  refine ⟨(hbit 0 (by decide)).trans ?_, (hbit 1 (by decide)).trans ?_,
    (hbit 2 (by decide)).trans ?_, (hbit 3 (by decide)).trans ?_, (hbit 6 (by decide)).trans ?_⟩ <;>
    simp

/-- All operands that are announced are written. -/
theorem wordsBelow_written (h : extension &&& ~~~extensionBits = 0) :
    wordsBelow (w.bits ||| extension) 32 = w.ids.length := by
  have hone {α : Type} (o : Option α) : o.toList.length = o.isSome.toNat := by cases o <;> rfl
  obtain ⟨hbias, hlod, hgradient, hoffset, hsample⟩ := announces_written (w := w) h
  obtain ⟨-, -, -, -, -, hall⟩ := cursor_eq (w.bits ||| extension) 0
  rw [Nat.zero_add] at hall
  simp only [hall, hbias, hlod, hgradient, hoffset, hsample, OperandIds.ids, List.length_append,
    hone, Option.isSome_map]
  omega

/-- **Operands are read as they were written**, whatever follows them. -/
theorem read_written (hextension : extension &&& ~~~extensionBits = 0)
    {before rest : List UInt32}
    (hi : i.words = before ++ (w.bits ||| extension) :: (w.ids ++ rest)) :
    read i before.length = .ok w.operands := by
  have hword : i.words[before.length]? = some (w.bits ||| extension) := by simp [hi]
  have hroom : before.length + 1 + wordsBelow (w.bits ||| extension) 32 ≤ i.length := by
    rw [wordsBelow_written hextension, Instruction.length, hi, List.length_append, List.length_cons,
      List.length_append]
    omega
  obtain ⟨hbias, hlod, hgradient, hoffset, hsample⟩ := announces_written (w := w) hextension
  obtain ⟨h₀, h₁, h₂, h₃, h₆, -⟩ := cursor_eq (w.bits ||| extension) (before.length + 1)
  have hdrop : i.words.drop (before.length + 1) = w.bias.toList ++ (w.lod.toList ++
      ((w.gradient.map Prod.fst).toList ++ ((w.gradient.map Prod.snd).toList ++
        (w.constOffset.toList ++ (w.sample.toList ++ rest))))) := by
    simp [hi, OperandIds.ids, List.drop_append]
  obtain ⟨hbias, hdrop⟩ := operand?_written hbias hdrop
  obtain ⟨hlod, hdrop⟩ := operand?_written hlod hdrop
  obtain ⟨hdx, hdrop⟩ := operand?_written (by rw [hgradient, Option.isSome_map]) hdrop
  obtain ⟨hdy, hdrop⟩ := operand?_written (by rw [hgradient, Option.isSome_map]) hdrop
  obtain ⟨hoffset, hdrop⟩ := operand?_written hoffset hdrop
  obtain ⟨hsample, -⟩ := operand?_written hsample hdrop
  rw [read_eq_ok hword]
  refine ⟨fun b hb => known_written hextension hb, hroom, ?_⟩
  rw [operand?_second] at hdy
  simp only [operandsAt, h₀, h₁, h₂, h₃, h₆, hbias, hlod, hdx, hdy, hoffset, hsample,
    mask_written hextension, OperandIds.operands]
  cases w.gradient <;> rfl

/-- **Operands follow the mask that announces them.**  An instruction that ends before the mask has
no operands.  Otherwise reading succeeds exactly if each bit of the mask announces an operand or says
how integers are extended, and all words of operands are there; and then the mask is kept without
the two bits of extension, each operand that is announced is the word behind those of lower bits,
and all others are absent.  So operands are read back from any instruction in which they were
written after their mask, whatever else the mask says of integers and whatever follows. -/
theorem operands_follow_their_mask :
    (∀ (i : Instruction) (index : Nat), i.length ≤ index → read i index = .ok {}) ∧
    (∀ (i : Instruction) (index : Nat) (mask : UInt32), i.words[index]? = some mask → ∀ o,
      read i index = .ok o ↔ (∀ b < 32, Word.bit mask b = true → b ∈ knownBits) ∧
        index + 1 + wordsBelow mask 32 ≤ i.length ∧ o = operandsAt i index mask) ∧
    ∀ (w : OperandIds) (extension : UInt32) (before rest : List UInt32) (i : Instruction),
      extension &&& ~~~extensionBits = 0 →
      i.words = before ++ (w.bits ||| extension) :: (w.ids ++ rest) →
      read i before.length = .ok w.operands :=
  ⟨fun _ _ => read_of_le, fun _ _ _ hword _ => read_eq_ok hword,
    fun _ _ _ _ _ hextension => read_written hextension⟩

/-- A bias, gradients, an offset and a sample are read from words that go on behind them; an operand
that is not supported is not skipped, and one whose word is missing is not left out. -/
theorem mixed_operands_follow :
    read ⟨0, [0xA0058, 9, 0x104D, 3, 8, 9, 4, 5, 77, 78]⟩ 2 =
      .ok { mask := 0x4D, bias := some 3, gradient := some (8, 9), constOffset := some 4,
            sample := some 5 } ∧
    (∀ o, read ⟨0, [0x50058, 9, 0x52, 3, 4]⟩ 2 ≠ .ok o) ∧
    ∀ o, read ⟨0, [0x50058, 9, 0x6, 3, 4]⟩ 2 ≠ .ok o := by
  obtain ⟨-, hread, hwritten⟩ := operands_follow_their_mask
  refine ⟨hwritten ⟨some 3, none, some (8, 9), some 4, some 5⟩ 0x1000 [0xA0058, 9] [77, 78] _
    (by decide) rfl, fun o ho => ?_, fun o ho => ?_⟩
  · have hbit := ((hread _ 2 0x52 rfl o).mp ho).1 4 (by decide) (by decide)
    exact absurd hbit (by decide)
  · have hroom := ((hread _ 2 0x6 rfl o).mp ho).2.1
    exact absurd hroom (by decide)

end ImageOperands

end HostGpu.Shader
