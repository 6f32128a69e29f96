import HostGpu.Proofs.Shader.ImageOperands
import Mathlib.Tactic.Tauto

/-!
# The words of sampling instructions

A sampling instruction says at most one thing about the level of detail: a bias, a level or two
gradients.  Its mask announces that, a constant offset and a sample, and these follow the mask in
the order of its bits.  Every instruction that is written so, with what its operation allows, is
read back as it was written (`SamplingWords.ofInstruction_eq`), and its method is the one that asks
for what the instruction says (`LevelOperand.Fits`).
-/

namespace HostGpu

open Spirv Outcome

/-! ## Operations -/

namespace Spirv.Opcode

/-- Operations that find the level of detail by themselves. -/
def implicitSamples : List Opcode :=
  [.opImageSampleImplicitLod, .opImageSampleDrefImplicitLod, .opImageSampleProjImplicitLod,
    .opImageSampleProjDrefImplicitLod]

/-- Operations that are given the level of detail. -/
def explicitSamples : List Opcode :=
  [.opImageSampleExplicitLod, .opImageSampleDrefExplicitLod, .opImageSampleProjExplicitLod,
    .opImageSampleProjDrefExplicitLod]

/-- Operations that gather one component of four texels. -/
def gathers : List Opcode := [.opImageGather, .opImageDrefGather]

/-- Operations that divide by the last coordinate. -/
def projective : List Opcode :=
  [.opImageSampleProjImplicitLod, .opImageSampleProjExplicitLod, .opImageSampleProjDrefImplicitLod,
    .opImageSampleProjDrefExplicitLod]

end Spirv.Opcode

namespace Shader

/-! ## Operands of the level of detail -/

/-- What an instruction says about the level of detail, by the identifiers of operands. -/
inductive LevelOperand where
  | unstated
  | bias (id : UInt32)
  | lod (id : UInt32)
  | gradients (dx dy : UInt32)
deriving DecidableEq, Repr

namespace LevelOperand

/-- The bits of the mask that announce it. -/
def bits : LevelOperand → UInt32
  | unstated => 0
  | bias _ => ImageOperands.biasBit
  | lod _ => ImageOperands.lodBit
  | gradients _ _ => ImageOperands.gradientBit

def bias? : LevelOperand → Option UInt32
  | bias id => some id
  | _ => none

def lod? : LevelOperand → Option UInt32
  | lod id => some id
  | _ => none

def dx? : LevelOperand → Option UInt32
  | gradients dx _ => some dx
  | _ => none

def dy? : LevelOperand → Option UInt32
  | gradients _ dy => some dy
  | _ => none

def gradient? : LevelOperand → Option (UInt32 × UInt32)
  | gradients dx dy => some (dx, dy)
  | _ => none

/-- Its operands; at most two of them are there. -/
def ids (level : LevelOperand) : List UInt32 :=
  level.bias?.toList ++ level.lod?.toList ++ level.dx?.toList ++ level.dy?.toList

/-- An operation may be told this about the level of detail. -/
def IsFor (op : Opcode) : LevelOperand → Prop
  | unstated => op ∈ Opcode.implicitSamples ∨ op = .opImageFetch ∨ op ∈ Opcode.gathers ∨
      op = .opImageQueryLod
  | bias _ => op ∈ Opcode.implicitSamples
  | lod _ => op ∈ Opcode.explicitSamples ∨ op = .opImageFetch
  | gradients _ _ => op ∈ Opcode.explicitSamples

/-- The method of an operation that is told this about the level of detail. -/
inductive Fits (op : Opcode) : LevelOperand → SamplingMethod → Prop
  | implicit (h : op ∈ Opcode.implicitSamples) : Fits op unstated .implicit
  | bias (h : op ∈ Opcode.implicitSamples) (id : UInt32) : Fits op (bias id) .bias
  | lod (h : op ∈ Opcode.explicitSamples) (id : UInt32) : Fits op (lod id) .lod
  | grad (h : op ∈ Opcode.explicitSamples) (dx dy : UInt32) : Fits op (gradients dx dy) .grad
  | gather (h : op ∈ Opcode.gathers) : Fits op unstated .gather
  | fetch (h : op = .opImageFetch) : Fits op unstated .fetch
  | fetchLod (h : op = .opImageFetch) (id : UInt32) : Fits op (lod id) .fetch
  | query (h : op = .opImageQueryLod) : Fits op unstated .query

/-- Operations that may be told anything about the level of detail sample. -/
theorem isSampling_of_isFor {op : Opcode} {level : LevelOperand} (h : level.IsFor op) :
    op.isSampling = true := by
  have hlists : ∀ op ∈ Opcode.implicitSamples ++ Opcode.explicitSamples ++ Opcode.gathers ++
      [.opImageFetch, .opImageQueryLod], op.isSampling = true := by decide
  refine hlists op ?_
  simp only [List.mem_append, List.mem_cons, List.not_mem_nil, or_false]
  cases level <;> simp only [IsFor] at h <;> tauto

end LevelOperand

/-! ## Classification -/

/-- The variant of an operation: it has a depth reference if the operation has one, and is
projective if the operation is. -/
structure IsVariantOf (op : Opcode) (variant : SamplingVariant) : Prop where
  dref : variant.isDref = op.hasDepthReference
  proj : variant.isProj = true ↔ op ∈ Opcode.projective

section

variable {level : LevelOperand} {op : Opcode} {o : ImageOperands}

theorem classify_of_implicit (h : op ∈ Opcode.implicitSamples) (o : ImageOperands) :
    ∃ variant, classify op o = .ok (variant, implicitMethod o) ∧ IsVariantOf op variant := by
  simp only [Opcode.implicitSamples, List.mem_cons, List.not_mem_nil, or_false] at h
  rcases h with rfl | rfl | rfl | rfl <;> exact ⟨_, rfl, rfl, by decide⟩

theorem classify_of_explicit (h : op ∈ Opcode.explicitSamples) (o : ImageOperands) :
    ∃ variant, classify op o = .ok (variant, explicitMethod o) ∧ IsVariantOf op variant := by
  simp only [Opcode.explicitSamples, List.mem_cons, List.not_mem_nil, or_false] at h
  rcases h with rfl | rfl | rfl | rfl <;> exact ⟨_, rfl, rfl, by decide⟩

theorem classify_of_gather (h : op ∈ Opcode.gathers) (o : ImageOperands) :
    ∃ variant, classify op o = .ok (variant, .gather) ∧ IsVariantOf op variant := by
  simp only [Opcode.gathers, List.mem_cons, List.not_mem_nil, or_false] at h
  rcases h with rfl | rfl <;> exact ⟨_, rfl, rfl, by decide⟩

/-- **Classification.**  The variant and the method of an operation are those of its name and of
what its operands say about the level of detail. -/
theorem exists_classify (h : level.IsFor op) (hbias : o.bias.isSome = level.bias?.isSome)
    (hgradient : o.gradient.isSome = level.dx?.isSome) :
    ∃ variant method, classify op o = .ok (variant, method) ∧ IsVariantOf op variant ∧
      level.Fits op method := by
  cases level with
  | unstated =>
    rcases h with hop | rfl | hop | rfl
    · obtain ⟨variant, hclassify, hvariant⟩ := classify_of_implicit hop o
      rw [implicitMethod, hbias] at hclassify
      exact ⟨variant, _, hclassify, hvariant, .implicit hop⟩
    · exact ⟨_, _, rfl, ⟨rfl, by decide⟩, .fetch rfl⟩
    · obtain ⟨variant, hclassify, hvariant⟩ := classify_of_gather hop o
      exact ⟨variant, _, hclassify, hvariant, .gather hop⟩
    · exact ⟨_, _, rfl, ⟨rfl, by decide⟩, .query rfl⟩
  | bias id =>
    obtain ⟨variant, hclassify, hvariant⟩ := classify_of_implicit h o
    rw [implicitMethod, hbias] at hclassify
    exact ⟨variant, _, hclassify, hvariant, .bias h id⟩
  | lod id =>
    rcases h with hop | rfl
    · obtain ⟨variant, hclassify, hvariant⟩ := classify_of_explicit hop o
      rw [explicitMethod, hgradient] at hclassify
      exact ⟨variant, _, hclassify, hvariant, .lod hop id⟩
    · exact ⟨_, _, rfl, ⟨rfl, by decide⟩, .fetchLod rfl id⟩
  | gradients dx dy =>
    obtain ⟨variant, hclassify, hvariant⟩ := classify_of_explicit h o
    rw [explicitMethod, hgradient] at hclassify
    exact ⟨variant, _, hclassify, hvariant, .grad h dx dy⟩

end

/-! ## Masks and operands -/

/-- The optional operands of an instruction, by identifiers, and the bits of the mask that say how
integers are extended. -/
structure OperandWords where
  level : LevelOperand := .unstated
  offset : Option UInt32 := none
  sample : Option UInt32 := none
  extension : UInt32 := 0
deriving DecidableEq, Repr

namespace OperandWords

/-- The bits of the mask that announce operands. -/
def bits (w : OperandWords) : UInt32 :=
  w.level.bits ||| w.offset.elim 0 (fun _ => ImageOperands.constOffsetBit) |||
    w.sample.elim 0 fun _ => ImageOperands.sampleBit

/-- The mask and the operands after it, in the order of its bits. -/
def words (w : OperandWords) : List UInt32 :=
  (w.bits ||| w.extension) :: (w.level.ids ++ w.offset.toList ++ w.sample.toList)

/-- The operands as they are read. -/
def operands (w : OperandWords) : ImageOperands where
  mask := w.bits
  bias := w.level.bias?.map (·.toNat)
  lod := w.level.lod?.map (·.toNat)
  gradient := (w.level.dx?.map (·.toNat)).bind fun dx =>
    (w.level.dy?.map (·.toNat)).map fun dy => (dx, dy)
  constOffset := w.offset.map (·.toNat)
  sample := w.sample.map (·.toNat)

/-- The operands of each kind. -/
def toIds (w : OperandWords) : OperandIds where
  bias := w.level.bias?
  lod := w.level.lod?
  gradient := w.level.gradient?
  constOffset := w.offset
  sample := w.sample

theorem bits_toIds (w : OperandWords) : w.toIds.bits = w.bits := by
  obtain ⟨level, offset, sample, extension⟩ := w
  obtain ⟨hbias, hlod, hgradient, hoffset, hsample⟩ := ImageOperands.bits_eq
  rw [OperandIds.bits, bits, hoffset, hsample]
  cases level <;> cases offset <;> cases sample <;>
    simp [toIds, OperandIds.announce, LevelOperand.bits, LevelOperand.bias?, LevelOperand.lod?,
      LevelOperand.gradient?, hbias, hlod, hgradient]

theorem words_toIds (w : OperandWords) :
    w.words = (w.toIds.bits ||| w.extension) :: w.toIds.ids := by
  rw [words, bits_toIds]
  cases hlevel : w.level <;> simp [toIds, OperandIds.ids, hlevel] <;> rfl

theorem operands_toIds (w : OperandWords) : w.toIds.operands = w.operands := by
  rw [OperandIds.operands, bits_toIds]
  cases hlevel : w.level <;> simp [operands, toIds, hlevel] <;> rfl

end OperandWords

/-- **Operands are read as they were written.** -/
theorem ImageOperands.read_eq {i : Instruction} {w : OperandWords}
    (hextension : w.extension &&& ~~~extensionBits = 0) {before : List UInt32}
    (hi : i.words = before ++ w.words) : read i before.length = .ok w.operands := by
  have hwords : i.words = before ++ (w.toIds.bits ||| w.extension) :: (w.toIds.ids ++ []) := by
    rw [hi, w.words_toIds, List.append_nil]
  rw [read_written hextension hwords, w.operands_toIds]

/-! ## Instructions -/

/-- The words of a sampling instruction: the leading word, the result and its type, the image and
the coordinate; a depth reference or the component of a gather; and the optional operands. -/
structure SamplingWords where
  leading : UInt32
  resultType : UInt32
  result : UInt32
  sampledImage : UInt32
  coordinate : UInt32
  reference : Option UInt32 := none
  operands : Option OperandWords := none
deriving DecidableEq, Repr

namespace SamplingWords

def words (w : SamplingWords) : List UInt32 :=
  [w.leading, w.resultType, w.result, w.sampledImage, w.coordinate] ++ w.reference.toList ++
    w.operands.elim [] (·.words)

/-- What is said about the level of detail. -/
def level (w : SamplingWords) : LevelOperand := w.operands.elim .unstated (·.level)

def offset (w : SamplingWords) : Option UInt32 := w.operands.bind (·.offset)

def sample (w : SamplingWords) : Option UInt32 := w.operands.bind (·.sample)

/-- The operands as they are read; without a mask there are none. -/
def imageOperands (w : SamplingWords) : ImageOperands := w.operands.elim {} (·.operands)

/-- The depth reference. -/
def dref (w : SamplingWords) (op : Opcode) : Option UInt32 :=
  if op.hasDepthReference then w.reference else none

/-- The component that a gather reads. -/
def component (w : SamplingWords) (op : Opcode) : Option UInt32 :=
  if op = .opImageGather then w.reference else none

/-- The words are those of an instruction with this operation: it has what its operation requires,
its mask is one that its operation allows, and a query has no mask. -/
structure IsFor (w : SamplingWords) (op : Opcode) : Prop where
  level : w.level.IsFor op
  reference : w.reference.isSome = (op.hasDepthReference || op == .opImageGather)
  query : op = .opImageQueryLod → w.operands = none
  extension : ∀ o ∈ w.operands, o.extension &&& ~~~ImageOperands.extensionBits = 0

/-- A sampling instruction is the one that was written, and its signature is the one that its words
decide. -/
structure IsRead (w : SamplingWords) (op : Opcode) (site : SamplingInstruction) : Prop where
  resultType : site.resultType = w.resultType.toNat
  result : site.result = w.result.toNat
  sampledImage : site.sampledImage = w.sampledImage.toNat
  coordinate : site.coordinate = w.coordinate.toNat
  dref : site.dref = (w.dref op).map (·.toNat)
  operands : site.operands = w.imageOperands
  variant : IsVariantOf op site.signature.variant
  method : w.level.Fits op site.signature.method

variable {w : SamplingWords} {op : Opcode} {i : Instruction} {d : Declarations}

theorem IsFor.isSome_dref (h : w.IsFor op) : (w.dref op).isSome = op.hasDepthReference := by
  have hreference := h.reference
  rw [dref]
  cases hop : op.hasDepthReference with
  | true => rwa [hop, Bool.true_or] at hreference
  | false => rfl

/-- The operands of an instruction are read as they were written. -/
theorem readOperands_eq (h : w.IsFor op) (hi : i.words = w.words) :
    SamplingInstruction.readOperands i op = .ok w.imageOperands := by
  have hread : ImageOperands.read i (5 + w.reference.toList.length) = .ok w.imageOperands := by
    rw [imageOperands]
    cases hoperands : w.operands with
    | none =>
      refine ImageOperands.read_of_le ?_
      simp only [Instruction.length, hi, words, hoperands, Option.elim_none, List.append_nil,
        List.length_append, List.length_cons, List.length_nil]
      omega
    | some o =>
      have hbefore : i.words = ([w.leading, w.resultType, w.result, w.sampledImage, w.coordinate] ++
          w.reference.toList) ++ o.words := by
        rw [hi, words, hoperands]
        rfl
      have hread := ImageOperands.read_eq (h.extension o hoperands) hbefore
      rw [List.length_append] at hread
      exact hread
  rw [SamplingInstruction.readOperands]
  cases hop : op.hasDepthReference || op == .opImageGather with
  | true =>
    obtain ⟨id, hid⟩ := Option.isSome_iff_exists.mp (h.reference.trans hop)
    have hquery : op ≠ .opImageQueryLod := by
      rintro rfl
      exact absurd hop (by decide)
    rw [hid] at hread
    rw [if_neg hquery, if_pos rfl]
    exact hread
  | false =>
    have hnone : w.reference = none :=
      Option.isNone_iff_eq_none.mp (Option.isSome_eq_false_iff.mp (h.reference.trans hop))
    rw [hnone] at hread
    by_cases hquery : op = .opImageQueryLod
    · have hoperands := h.query hquery
      have hlength : i.length = 5 := by
        rw [Instruction.length, hi, words, hnone, hoperands]
        rfl
      rw [if_pos hquery, if_pos hlength, imageOperands, hoperands]
      rfl
    · rw [if_neg hquery, if_neg (by simp)]
      exact hread

theorem imageOperands_eq (w : SamplingWords) : w.imageOperands = {
    mask := w.operands.elim 0 (·.bits)
    bias := w.level.bias?.map (·.toNat)
    lod := w.level.lod?.map (·.toNat)
    gradient := (w.level.dx?.map (·.toNat)).bind fun dx =>
      (w.level.dy?.map (·.toNat)).map fun dy => (dx, dy)
    constOffset := w.offset.map (·.toNat)
    sample := w.sample.map (·.toNat) } := by
  rw [imageOperands, level, offset, sample]
  cases w.operands <;> rfl

theorem isSome_bias (w : SamplingWords) : w.imageOperands.bias.isSome = w.level.bias?.isSome := by
  rw [imageOperands_eq, Option.isSome_map]

theorem isSome_gradient (w : SamplingWords) :
    w.imageOperands.gradient.isSome = w.level.dx?.isSome := by
  rw [imageOperands_eq]
  cases w.level <;> rfl

/-- **An instruction is read as it was written.** -/
theorem ofInstruction_eq (h : w.IsFor op) (hi : i.words = w.words) {callSite : Nat}
    (hsite : d.callSite i.offset = .ok callSite)
    (hcomponents : ∀ id ∈ w.component op, ∃ number, d.scalar id.toNat = .ok number) :
    ∃ site, SamplingInstruction.ofInstruction d i op = .ok site ∧ w.IsRead op site := by
  obtain ⟨variant, method, hclassify, hvariant, hfits⟩ :=
    exists_classify h.level w.isSome_bias w.isSome_gradient
  have hresultType : i.id 1 = .ok w.resultType.toNat := Instruction.id_eq_ok.mpr (by rw [hi]; rfl)
  have hresult : i.id 2 = .ok w.result.toNat := Instruction.id_eq_ok.mpr (by rw [hi]; rfl)
  have hsampledImage : i.id 3 = .ok w.sampledImage.toNat :=
    Instruction.id_eq_ok.mpr (by rw [hi]; rfl)
  have hcoordinate : i.id 4 = .ok w.coordinate.toNat := Instruction.id_eq_ok.mpr (by rw [hi]; rfl)
  have hreference (hop : (op.hasDepthReference || op == .opImageGather) = true) :
      ∃ id, w.reference = some id ∧ i.id 5 = .ok id.toNat := by
    obtain ⟨id, hid⟩ := Option.isSome_iff_exists.mp (h.reference.trans hop)
    exact ⟨id, hid, Instruction.id_eq_ok.mpr (by rw [hi, words, hid]; rfl)⟩
  have hread (number : UInt32) : w.IsRead op {
      signature := ⟨variant, method, number⟩, callSite, resultType := w.resultType.toNat
      result := w.result.toNat, sampledImage := w.sampledImage.toNat
      coordinate := w.coordinate.toNat, dref := (w.dref op).map (·.toNat)
      operands := w.imageOperands } :=
    ⟨rfl, rfl, rfl, rfl, rfl, rfl, hvariant, hfits⟩
  simp only [SamplingInstruction.ofInstruction, readOperands_eq h hi, hclassify, hsite,
    hresultType, hresult, hsampledImage, hcoordinate, ok_bind]
  cases hop : op.hasDepthReference with
  | true =>
    obtain ⟨id, hid, hdref⟩ := hreference (by rw [hop]; rfl)
    have hgather : op ≠ .opImageGather := by
      rintro rfl
      cases hop
    refine ⟨_, ?_, hread 0⟩
    rw [if_neg hgather, dref, hop, hid, hdref]
    rfl
  | false =>
    by_cases hgather : op = .opImageGather
    · obtain ⟨id, hid, hcomponent⟩ := hreference (by rw [hgather]; rfl)
      obtain ⟨number, hnumber⟩ := hcomponents id (by rw [component, if_pos hgather, hid]; rfl)
      refine ⟨_, ?_, hread number⟩
      rw [if_pos hgather, hcomponent, ok_bind, hnumber, dref, hop]
      rfl
    · refine ⟨_, ?_, hread 0⟩
      rw [if_neg hgather, dref, hop]
      rfl

end SamplingWords

end Shader

end HostGpu
