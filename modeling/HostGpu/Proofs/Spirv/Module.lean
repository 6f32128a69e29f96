import HostGpu.Proofs.Memory.Word
import HostGpu.Proofs.Outcome
import HostGpu.Spirv.Module

/-!
# Cutting words into instructions

`Cuts` says, without a reader, what it means that words are a sequence of instructions: each of them
has as many words as its first word says, and nothing is left over.  `Module.ofWords` accepts
exactly the words that a module has in either byte order and whose words after the header can be cut
in this way.  On all others it ends with an error, which says where the cutting cannot go on.  So
modules that are assembled from instructions are read back.
-/

namespace HostGpu.Spirv

open Outcome

/-! ## Sequences of instructions -/

/-- The words of one instruction: as many as the first of them says. -/
def IsInstruction (words : List UInt32) : Prop :=
  words ≠ [] ∧ wordCount (words.headD 0) = words.length

/-- Words are a sequence of instructions, the first of which starts at an offset. -/
inductive Cuts : (offset : Nat) → List UInt32 → List Instruction → Prop
  | nil (offset : Nat) : Cuts offset [] []
  | cons {offset : Nat} {words rest : List UInt32} {list : List Instruction}
      (hwords : IsInstruction words) (hrest : Cuts (offset + words.length) rest list) :
      Cuts offset (words ++ rest) (⟨offset, words⟩ :: list)

/-- Words do not start with an instruction, for a reason that is an error at an offset. -/
inductive Blocks (offset : Nat) : List UInt32 → ModuleError → Prop
  | zero {leading : UInt32} {rest : List UInt32} (hcount : wordCount leading = 0) :
      Blocks offset (leading :: rest) (.zeroWordCount offset)
  | incomplete {leading : UInt32} {rest : List UInt32} (hcount : wordCount leading ≠ 0)
      (hlength : (leading :: rest).length < wordCount leading) :
      Blocks offset (leading :: rest) (.incompleteInstruction offset)

variable {offset : Nat} {words rest : List UInt32} {list : List Instruction}

/-- Sequences follow one another. -/
theorem Cuts.append {list' : List Instruction} (h : Cuts offset words list)
    (h' : Cuts (offset + words.length) rest list') :
    Cuts offset (words ++ rest) (list ++ list') := by
  induction h with
  | nil => exact h'
  | @cons offset words rest' list hwords _ ih =>
    rw [List.append_assoc]
    refine .cons hwords (ih ?_)
    rwa [Nat.add_assoc, ← List.length_append]

/-! ### What the words of instructions say -/

/-- The instruction that the first words are. -/
theorem cut_append (h : IsInstruction words) (rest : List UInt32) :
    Module.cut offset (words ++ rest) = (do
      let following ← Module.cut (offset + words.length) rest
      return ⟨offset, words⟩ :: following) := by
  obtain ⟨hne, hcount⟩ := h
  obtain ⟨leading, operands, rfl⟩ := List.exists_cons_of_ne_nil hne
  rw [List.headD_cons] at hcount
  have hlength : wordCount leading - 1 = operands.length := by rw [hcount]; rfl
  rw [List.cons_append, Module.cut, if_neg (by rw [hcount]; exact Nat.succ_ne_zero _),
    if_neg (by rw [hcount, List.length_append, List.length_cons]; omega), hlength,
    List.drop_left, List.take_left, hcount]

theorem cut_eq_error_of_blocks {e : ModuleError} (h : Blocks offset words e) :
    Module.cut offset words = .error e := by
  cases h with
  | zero hcount =>
    rw [Module.cut, if_pos hcount]
  | incomplete hcount hlength =>
    rw [Module.cut, if_neg hcount]
    exact if_pos hlength

/-- Words are none, do not start with an instruction, or start with one. -/
theorem nil_or_blocks_or_append (offset : Nat) (words : List UInt32) :
    words = [] ∨ (∃ e, Blocks offset words e) ∨
      ∃ first rest, IsInstruction first ∧ words = first ++ rest := by
  cases words with
  | nil => exact .inl rfl
  | cons leading rest =>
    rcases Nat.eq_zero_or_pos (wordCount leading) with hzero | hpos
    · exact .inr (.inl ⟨_, .zero hzero⟩)
    · rcases Nat.lt_or_ge (leading :: rest).length (wordCount leading) with hlt | hge
      · exact .inr (.inl ⟨_, .incomplete (Nat.ne_of_gt hpos) hlt⟩)
      · refine .inr (.inr ⟨leading :: rest.take (wordCount leading - 1),
          rest.drop (wordCount leading - 1), ⟨List.cons_ne_nil _ _, ?_⟩, ?_⟩)
        · rw [List.length_cons] at hge
          rw [List.headD_cons, List.length_cons, List.length_take]
          omega
        · rw [List.cons_append, List.take_append_drop]

/-! ## Cutting -/

/-- Instructions that can be cut off are cut off, and the rest is cut. -/
theorem cut_of_cuts (h : Cuts offset words list) (rest : List UInt32) :
    Module.cut offset (words ++ rest) = (do
      let following ← Module.cut (offset + words.length) rest
      return list ++ following) := by
  induction h with
  | nil => exact (bind_pure _).symm
  | @cons offset words rest' list hwords _ ih =>
    rw [List.append_assoc, cut_append hwords, ih, List.length_append, Nat.add_assoc]
    cases Module.cut _ rest <;> rfl

/-- What becomes of words: they are cut into instructions, or some instructions are cut off until
the rest does not start with one. -/
theorem cut_cases (offset : Nat) (words : List UInt32) :
    (∃ list, Cuts offset words list ∧ Module.cut offset words = .ok list) ∨
      ∃ e first rest list, words = first ++ rest ∧ Cuts offset first list ∧
        Blocks (offset + first.length) rest e ∧ Module.cut offset words = .error e := by
  -- the induction is on the length, since an instruction takes any number of words
  induction hlength : words.length using Nat.strongRecOn generalizing offset words with
  | ind n ih =>
    rcases nil_or_blocks_or_append offset words with rfl | ⟨e, he⟩ | ⟨first, rest, hfirst, rfl⟩
    · exact .inl ⟨[], .nil offset, by rw [Module.cut]⟩
    · exact .inr ⟨e, [], words, [], rfl, .nil offset, he, cut_eq_error_of_blocks he⟩
    · have hshorter : rest.length < n := by
        have hpos := List.length_pos_of_ne_nil hfirst.1
        rw [List.length_append] at hlength
        omega
      rw [cut_append hfirst]
      rcases ih _ hshorter (offset + first.length) rest rfl with
        ⟨list, hlist, hcut⟩ | ⟨e, first', rest', list, rfl, hlist, he, hcut⟩
      · exact .inl ⟨_, .cons hfirst hlist, by rw [hcut]; rfl⟩
      · refine .inr ⟨e, first ++ first', rest', _, ?_, .cons hfirst hlist, ?_, by rw [hcut]; rfl⟩
        · rw [List.append_assoc]
        · rwa [List.length_append, ← Nat.add_assoc]

/-- **Cutting succeeds exactly on sequences of instructions,** and gives these. -/
theorem cut_eq_ok_iff : Module.cut offset words = .ok list ↔ Cuts offset words list := by
  constructor
  · intro h
    rcases cut_cases offset words with ⟨list', hlist, hcut⟩ | ⟨e, _, _, _, -, -, -, hcut⟩
    · cases h.symm.trans hcut
      exact hlist
    · cases h.symm.trans hcut
  · intro h
    have hcut := cut_of_cuts h []
    rw [List.append_nil, Module.cut] at hcut
    rw [hcut]
    exact congrArg Except.ok (List.append_nil list)

/-- **Cutting fails exactly where it cannot go on,** after all instructions before. -/
theorem cut_eq_error_iff {e : ModuleError} :
    Module.cut offset words = .error e ↔ ∃ first rest list, words = first ++ rest ∧
      Cuts offset first list ∧ Blocks (offset + first.length) rest e := by
  constructor
  · intro h
    rcases cut_cases offset words with ⟨_, -, hcut⟩ | ⟨e', first, rest, list, hw, hlist, he, hcut⟩
    · cases h.symm.trans hcut
    · cases h.symm.trans hcut
      exact ⟨first, rest, list, hw, hlist, he⟩
  · rintro ⟨first, rest, list, rfl, hlist, he⟩
    rw [cut_of_cuts hlist, cut_eq_error_of_blocks he]
    rfl

/-! ## Byte order -/

@[simp] theorem swapBytes_swapBytes (w : UInt32) : swapBytes (swapBytes w) = w := by
  have hbytes : Word.toBytes 4 (Word.ofBytes (Word.toBytes 4 w).reverse) =
      (Word.toBytes 4 w).reverse :=
    Word.toBytes_ofBytes (show (Word.toBytes 4 w).reverse.length ≤ 4 from Nat.le_refl 4)
  rw [swapBytes, swapBytes, hbytes, List.reverse_reverse, Word.ofBytes_toBytes]

theorem swapBytes_magic_ne : swapBytes magic ≠ magic := by decide

/-- Words that start with the magic number in either byte order, and the words in the order in which
it reads right. -/
inductive Native : List UInt32 → List UInt32 → Prop
  | same (rest : List UInt32) : Native (magic :: rest) (magic :: rest)
  | swapped (rest : List UInt32) :
      Native (swapBytes magic :: rest) (magic :: rest.map swapBytes)

theorem Native.length_eq {native : List UInt32} (h : Native words native) :
    native.length = words.length := by
  cases h with
  | same rest => rfl
  | swapped rest => rw [List.length_cons, List.length_cons, List.length_map]

/-- Words whose bytes are swapped are the same in the order that reads right. -/
theorem Native.map_swapBytes (rest : List UInt32) :
    Native ((magic :: rest).map swapBytes) (magic :: rest) := by
  have h := Native.swapped (rest.map swapBytes)
  rwa [List.map_map, show swapBytes ∘ swapBytes = id from funext swapBytes_swapBytes,
    List.map_id] at h

/-! ## Modules -/

/-- Reading words that start with the magic number is cutting. -/
theorem ofWords_of_native {native : List UInt32} (h : Native words native)
    (hheader : headerWords ≤ words.length) :
    Module.ofWords words = (do
      return ⟨native, ← Module.cut headerWords (native.drop headerWords)⟩) := by
  rw [Module.ofWords, if_neg (Nat.not_lt.mpr hheader)]
  cases h with
  | same rest => rfl
  | swapped rest =>
    rw [List.headD_cons, if_neg swapBytes_magic_ne, swapBytes_swapBytes, if_pos rfl, List.map_cons,
      swapBytes_swapBytes]
    rfl

/-- Words start with the magic number in either byte order, or they do not. -/
theorem exists_native_or_ofWords (hheader : headerWords ≤ words.length) :
    (∃ native, Native words native) ∨
      (∀ native, ¬ Native words native) ∧ Module.ofWords words = .error .wrongHeader := by
  cases words with
  | nil => exact absurd hheader (by decide)
  | cons first rest =>
    by_cases hsame : first = magic
    · subst hsame
      exact .inl ⟨_, .same rest⟩
    · by_cases hswapped : swapBytes first = magic
      · rw [← swapBytes_swapBytes first, hswapped]
        exact .inl ⟨_, .swapped rest⟩
      · refine .inr ⟨fun native h => ?_, ?_⟩
        · cases h with
          | same => exact hsame rfl
          | swapped => exact hswapped (swapBytes_swapBytes magic)
        · rw [Module.ofWords, if_neg (Nat.not_lt.mpr hheader), List.headD_cons, if_neg hsame,
            if_neg hswapped]
          rfl

/-- **What a module is.** -/
theorem ofWords_eq_ok_iff {m : Module} : Module.ofWords words = .ok m ↔
    headerWords ≤ words.length ∧ Native words m.words ∧
      Cuts headerWords (m.words.drop headerWords) m.instructions := by
  constructor
  · intro h
    have hheader : headerWords ≤ words.length := by
      refine Nat.le_of_not_lt fun hlt => ?_
      rw [Module.ofWords, if_pos hlt] at h
      cases h
    rcases exists_native_or_ofWords hheader with ⟨native, hnative⟩ | ⟨-, herror⟩
    · rw [ofWords_of_native hnative hheader, bind_eq_ok] at h
      obtain ⟨list, hlist, h⟩ := h
      cases h
      exact ⟨hheader, hnative, cut_eq_ok_iff.mp hlist⟩
    · cases h.symm.trans herror
  · rintro ⟨hheader, hnative, hcuts⟩
    rw [ofWords_of_native hnative hheader, cut_eq_ok_iff.mpr hcuts]
    rfl

/-- What an error says of words that are no module. -/
inductive Rejects (words : List UInt32) : ModuleError → Prop
  | missingHeader (hlength : words.length < headerWords) : Rejects words .missingHeader
  | wrongHeader (hlength : headerWords ≤ words.length) (hnative : ∀ native, ¬ Native words native) :
      Rejects words .wrongHeader
  | blocked {native first rest : List UInt32} {list : List Instruction} {e : ModuleError}
      (hlength : headerWords ≤ words.length) (hnative : Native words native)
      (hwords : native.drop headerWords = first ++ rest) (hfirst : Cuts headerWords first list)
      (hrest : Blocks (headerWords + first.length) rest e) : Rejects words e

/-- **What an error says.** -/
theorem ofWords_eq_error_iff {e : ModuleError} :
    Module.ofWords words = .error e ↔ Rejects words e := by
  constructor
  · intro h
    rcases Nat.lt_or_ge words.length headerWords with hlt | hheader
    · rw [Module.ofWords, if_pos hlt] at h
      cases h
      exact .missingHeader hlt
    · rcases exists_native_or_ofWords hheader with ⟨native, hnative⟩ | ⟨hnone, herror⟩
      · rw [ofWords_of_native hnative hheader] at h
        cases hcut : Module.cut headerWords (native.drop headerWords) with
        | ok list => rw [hcut] at h; cases h
        | error e' =>
          rw [hcut] at h
          cases h
          obtain ⟨first, rest, list, hwords, hfirst, hrest⟩ := cut_eq_error_iff.mp hcut
          exact .blocked hheader hnative hwords hfirst hrest
      · cases h.symm.trans herror
        exact .wrongHeader hheader hnone
  · intro h
    cases h with
    | missingHeader hlength =>
      rw [Module.ofWords, if_pos hlength]
      rfl
    | wrongHeader hlength hnone =>
      rcases exists_native_or_ofWords hlength with ⟨native, hnative⟩ | ⟨-, herror⟩
      · exact absurd hnative (hnone native)
      · exact herror
    | blocked hlength hnative hwords hfirst hrest =>
      rw [ofWords_of_native hnative hlength, hwords,
        cut_eq_error_iff.mpr ⟨_, _, _, rfl, hfirst, hrest⟩]
      rfl

/-! ## Fetching -/

theorem fetch_eq_ok {m : Module} {before after : List UInt32} (hm : m.words = before ++ words ++ after)
    (hwords : IsInstruction words) :
    m.fetch before.length = .ok ⟨before.length, words⟩ := by
  obtain ⟨hne, hcount⟩ := hwords
  obtain ⟨leading, operands, rfl⟩ := List.exists_cons_of_ne_nil hne
  rw [List.headD_cons, List.length_cons] at hcount
  rw [Module.fetch, hm, List.append_assoc, List.drop_left, List.cons_append]
  dsimp only
  rw [if_neg (by rw [List.length_append]; omega), hcount, Nat.add_sub_cancel, List.take_left]

/-- Nothing starts at the end of a module. -/
theorem fetch_length (m : Module) : m.fetch m.words.length = .error .indexOutOfRange := by
  rw [Module.fetch, List.drop_length]

/-- An instruction of a sequence is fetched from where it starts. -/
theorem Cuts.fetch {m : Module} {before : List UInt32} (h : Cuts offset words list)
    (hm : m.words = before ++ words) (hoffset : offset = before.length) :
    ∀ i ∈ list, m.fetch i.offset = .ok i := by
  induction h generalizing before with
  | nil => exact fun _ h => absurd h List.not_mem_nil
  | @cons offset words rest list hwords _ ih =>
    subst hoffset
    rw [← List.append_assoc] at hm
    rw [List.forall_mem_cons]
    exact ⟨fetch_eq_ok hm hwords, ih hm List.length_append.symm⟩

/-- What follows an instruction of a sequence is the next one or nothing. -/
theorem Cuts.next (h : Cuts offset words list) : ∀ i ∈ list,
    i.offset + i.length = offset + words.length ∨
      ∃ j ∈ list, j.offset = i.offset + i.length := by
  induction h with
  | nil => exact fun _ h => absurd h List.not_mem_nil
  | @cons offset words rest list hwords hrest ih =>
    rw [List.forall_mem_cons, List.length_append, ← Nat.add_assoc]
    refine ⟨?_, fun i hi => (ih i hi).imp_right ?_⟩
    · cases hrest with
      | nil => exact .inl (Nat.add_zero _).symm
      | cons => exact .inr ⟨_, List.mem_cons_of_mem _ List.mem_cons_self, rfl⟩
    · rintro ⟨j, hj, hoffset⟩
      exact ⟨j, List.mem_cons_of_mem _ hj, hoffset⟩

/-- Instructions of a sequence start one after the other. -/
theorem Cuts.offsets (h : Cuts offset words list) :
    (∀ i ∈ list, offset ≤ i.offset) ∧ (list.map (·.offset)).Pairwise (· < ·) := by
  induction h with
  | nil => exact ⟨fun _ h => absurd h List.not_mem_nil, .nil⟩
  | @cons offset words rest list hwords _ ih =>
    have hpos := List.length_pos_of_ne_nil hwords.1
    have hlater : ∀ i ∈ list, offset < i.offset := fun i hi => by
      have hle := ih.1 i hi
      omega
    refine ⟨List.forall_mem_cons.mpr ⟨Nat.le_refl _, fun i hi => (hlater i hi).le⟩, ?_⟩
    rw [List.map_cons, List.pairwise_cons, List.forall_mem_map]
    exact ⟨hlater, ih.2⟩

section

variable {m : Module} (h : Module.ofWords words = .ok m)
include h

/-- The instructions of a module are fetched from where they start. -/
theorem fetch_of_mem {i : Instruction} (hi : i ∈ m.instructions) : m.fetch i.offset = .ok i := by
  obtain ⟨hheader, hnative, hcuts⟩ := ofWords_eq_ok_iff.mp h
  refine hcuts.fetch (List.take_append_drop headerWords m.words).symm ?_ i hi
  rw [List.length_take, hnative.length_eq, Nat.min_eq_left hheader]

/-- After an instruction of a module comes the next one or the end of the module. -/
theorem next_of_mem {i : Instruction} (hi : i ∈ m.instructions) :
    i.offset + i.length = m.words.length ∨
      ∃ j ∈ m.instructions, j.offset = i.offset + i.length := by
  obtain ⟨hheader, hnative, hcuts⟩ := ofWords_eq_ok_iff.mp h
  have hnext := hcuts.next i hi
  rwa [List.length_drop, hnative.length_eq, Nat.add_sub_cancel' hheader,
    ← hnative.length_eq] at hnext

theorem nodup_offsets : (m.instructions.map (·.offset)).Nodup := by
  obtain ⟨-, -, hcuts⟩ := ofWords_eq_ok_iff.mp h
  exact hcuts.offsets.2.imp Nat.ne_of_lt

end

/-! ## Assembling -/

/-- The words of a header after the magic number. -/
structure Header where
  version : UInt32
  generator : UInt32
  bound : UInt32
  schema : UInt32
deriving DecidableEq, Repr

/-- An operation with its operands, which are few enough for the length to fit the first word. -/
structure Operation where
  opcode : UInt16
  operands : List UInt32
  length_le : operands.length ≤ 65534
deriving DecidableEq, Repr

/-- The word that an instruction begins with: its length above its opcode. -/
def Operation.leading (o : Operation) : UInt32 :=
  UInt32.ofNat ((o.operands.length + 1) * 65536 + o.opcode.toNat)

def Operation.toWords (o : Operation) : List UInt32 := o.leading :: o.operands

/-- The words of a module. -/
def assemble (h : Header) (operations : List Operation) : List UInt32 :=
  [magic, h.version, h.generator, h.bound, h.schema] ++ operations.flatMap Operation.toWords

/-- The instructions of a module, the first of which starts at an offset. -/
def located (offset : Nat) : List Operation → List Instruction
  | [] => []
  | o :: rest => ⟨offset, o.toWords⟩ :: located (offset + o.toWords.length) rest

theorem wordCount_eq (w : UInt32) : wordCount w = w.toNat / 65536 := by
  have h16 : (16 : UInt32).toNat % 32 = 16 := rfl
  rw [wordCount, UInt32.toNat_shiftRight, h16, Nat.shiftRight_eq_div_pow]

/-- The length of an instruction is the one in its first word, which has 16 bits for it. -/
theorem length_lt_of_fetch {m : Module} {offset : Nat} {i : Instruction}
    (h : m.fetch offset = .ok i) : i.words.length < 65536 := by
  rw [Module.fetch] at h
  split at h
  case h_1 => cases h
  case h_2 leading rest _ =>
    rw [ite_error_eq_ok] at h
    obtain ⟨hcount, h⟩ := h
    cases h
    have hleading := leading.toNat_lt
    rw [wordCount_eq] at hcount ⊢
    rw [List.length_cons, List.length_take]
    omega

theorem Instruction.opcode_eq (i : Instruction) :
    i.opcode = (i.words.headD 0).toNat % 65536 := by
  have hmask : (0xFFFF : UInt32).toNat = 2 ^ 16 - 1 := rfl
  rw [opcode, UInt32.toNat_and, hmask, Nat.and_two_pow_sub_one_eq_mod]

namespace Operation

variable (o : Operation)

theorem toNat_leading : o.leading.toNat = (o.operands.length + 1) * 65536 + o.opcode.toNat := by
  have hopcode : o.opcode.toNat < 65536 := o.opcode.toNat_lt
  have hlength := o.length_le
  have hsize : UInt32.size = 4294967296 := rfl
  rw [leading, UInt32.toNat_ofNat_of_lt']
  omega

theorem isInstruction_toWords : IsInstruction o.toWords := by
  have hopcode : o.opcode.toNat < 65536 := o.opcode.toNat_lt
  refine ⟨List.cons_ne_nil _ _, ?_⟩
  rw [toWords, List.headD_cons, wordCount_eq, toNat_leading, List.length_cons]
  omega

theorem opcode_toWords (offset : Nat) : (⟨offset, o.toWords⟩ : Instruction).opcode = o.opcode.toNat := by
  have hopcode : o.opcode.toNat < 65536 := o.opcode.toNat_lt
  rw [Instruction.opcode_eq, toWords, List.headD_cons, toNat_leading]
  omega

end Operation

theorem cuts_located (offset : Nat) (operations : List Operation) :
    Cuts offset (operations.flatMap Operation.toWords) (located offset operations) := by
  induction operations generalizing offset with
  | nil => exact .nil offset
  | cons o rest ih => exact .cons o.isInstruction_toWords (ih _)

/-- Located instructions are the operations, in order. -/
theorem map_located (offset : Nat) (operations : List Operation) :
    (located offset operations).map (fun i => (i.opcode, i.words.tail)) =
      operations.map (fun o => (o.opcode.toNat, o.operands)) := by
  induction operations generalizing offset with
  | nil => rfl
  | cons o rest ih => exact List.cons_eq_cons.mpr ⟨Prod.ext (o.opcode_toWords offset) rfl, ih _⟩

/-- A module that is assembled is read back, in either byte order. -/
theorem ofWords_assemble (h : Header) (operations : List Operation) {words : List UInt32}
    (hwords : words = assemble h operations ∨ words = (assemble h operations).map swapBytes) :
    Module.ofWords words =
      .ok ⟨assemble h operations, located headerWords operations⟩ := by
  have hnative : Native words (assemble h operations) := by
    rcases hwords with rfl | rfl
    · exact .same _
    · exact .map_swapBytes _
  refine ofWords_eq_ok_iff.mpr ⟨?_, hnative, cuts_located headerWords operations⟩
  rw [← hnative.length_eq, assemble, List.length_append]
  exact Nat.le_add_right _ _

/-! ### Headers -/

/-- Eight bits of a word, from bit `k` on. -/
theorem toNat_shiftRight_and (w : UInt32) {k : UInt32} (hk : k.toNat < 32) :
    ((w >>> k) &&& 0xFF).toNat = w.toNat / 2 ^ k.toNat % 256 := by
  have hmask : (0xFF : UInt32).toNat = 2 ^ 8 - 1 := rfl
  rw [UInt32.toNat_and, UInt32.toNat_shiftRight, Nat.mod_eq_of_lt hk, hmask,
    Nat.and_two_pow_sub_one_eq_mod, Nat.shiftRight_eq_div_pow]

theorem majorVersion_eq (m : Module) : m.majorVersion = (m.header 1).toNat / 65536 % 256 :=
  toNat_shiftRight_and (m.header 1) (k := 16) (by decide)

theorem minorVersion_eq (m : Module) : m.minorVersion = (m.header 1).toNat / 256 % 256 :=
  toNat_shiftRight_and (m.header 1) (k := 8) (by decide)

/-! ## Reading -/

/-- **Words are a module** exactly if there are enough of them for a header, they start with the
magic number in either byte order, and the words after the header are a sequence of instructions;
these are then the instructions of the module.  On all other words reading ends with an error that
says what is missing, and where a word is at which no instruction starts.  A module that is
assembled from operations is read back, whichever its byte order. -/
theorem modules_are_cut_words :
    (∀ (words : List UInt32) (m : Module), Module.ofWords words = .ok m ↔
      headerWords ≤ words.length ∧ Native words m.words ∧
        Cuts headerWords (m.words.drop headerWords) m.instructions) ∧
    (∀ (words : List UInt32) (e : ModuleError),
      Module.ofWords words = .error e ↔ Rejects words e) ∧
    ∀ (h : Header) (operations : List Operation), ∃ m : Module,
      Module.ofWords (assemble h operations) = .ok m ∧
      Module.ofWords ((assemble h operations).map swapBytes) = .ok m ∧
      m.instructions.map (fun i => (i.opcode, i.words.tail)) =
        operations.map (fun o => (o.opcode.toNat, o.operands)) ∧
      m.majorVersion = h.version.toNat / 65536 % 256 ∧
      m.minorVersion = h.version.toNat / 256 % 256 ∧ m.bound = h.bound.toNat := by
  refine ⟨fun _ _ => ofWords_eq_ok_iff, fun _ _ => ofWords_eq_error_iff, fun h operations => ?_⟩
  exact ⟨_, ofWords_assemble h operations (.inl rfl), ofWords_assemble h operations (.inr rfl),
    map_located _ operations, majorVersion_eq _, minorVersion_eq _, rfl⟩

end HostGpu.Spirv
