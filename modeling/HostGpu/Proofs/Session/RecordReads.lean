import HostGpu.Proofs.Execution.RecordReads
import HostGpu.Proofs.Session.BoundSets
import HostGpu.Proofs.Session.LastUse

/-!
# Records that runs of a session read

A run of a routine reads descriptor sets record by record.  If the pipeline layout has the records
that the variables of the shader call for, access chains into descriptors start from variables and
no binding of a variable is empty, then every record that is read is, in full, that of an element of
the binding that the analysis attached to the operand, in the set that is bound at its number
(`Session.read_records_are_bound`).  An access chain that starts from another one leaves its
binding.
-/

namespace HostGpu

open Outcome Execution Spirv Shader

namespace Session

/-- **Every descriptor record that an instruction reads** is the whole record of an element of the
binding that the analysis attached to the operand, in the set that is bound at that number; and the
instruction depends on nothing else in descriptor sets. -/
theorem read_records_are_bound (commands : List Command) {name : String} {r : Routine}
    (hr : (after commands).routines[name]? = some r) (hkeeps : r.shader.KeepsRecords)
    (hsuits : r.layout.Suits r.shader) (hchains : r.shader.ChainsStartAtVariables)
    (hfills : r.layout.Fills r.shader) (inputs : InterfaceValues) {l : Launch}
    (hl : (after commands).store.launch r inputs = l) {s : State} {i : Instruction}
    (hs : l.Executes s i) :
    (∀ id kind a, Reads l.environment s i id kind a →
      ∃ slot d b k, r.shader.declarations.slots[id]? = some slot ∧
        r.bound[slot.set]? = some (some a.set) ∧ l.environment.sets[a.set]? = some d ∧
        d.layout.Element ⟨slot.binding, k⟩ b a.offset ∧ b.kind.record? = some kind ∧
        a.offset + kind.size ≤ d.data.size) ∧
    ∀ sets, (∀ id kind a, Reads l.environment s i id kind a →
        SameRecord l.environment (l.environment.withSets sets) a kind) →
      (Execution.step (l.environment.withSets sets) i).run s =
        (Execution.step l.environment i).run s := by
  subst hl
  refine ⟨fun id kind a hreads => ?_, fun sets => step_eq_of_sameRecords⟩
  obtain ⟨offset, hvisits, hi⟩ := hs
  obtain ⟨slot, layout, b, k, hlocated, hkind⟩ :=
    located_of_reads ((isAnalysed_after commands).2 name r hr)
      hkeeps hchains hsuits hfills hvisits hi hreads
  obtain ⟨d, hd, hlayout⟩ :=
    (orderly_after commands).bound r (mem_values_iff.mpr ⟨name, hr⟩) slot.set
      a.set hlocated.bound
  obtain rfl : d.layout = layout := Option.some.inj (hlayout.symm.trans hlocated.layout)
  refine ⟨slot, d, b, k, hlocated.attached, hlocated.bound, hd, hlocated.element, hkind, ?_⟩
  have hformed : d.data.size = d.layout.dataSize := ((sound_after commands).sets a.set d hd).formed
  have hroom := hlocated.element.run.le_dataSize
  rwa [Nat.mul_one, LayoutBinding.stride_of_record? hkind, ← hformed] at hroom

/-! ### An image in an array, and in an array of arrays -/

namespace ReadOne

/-- A module that reads a texel of the last image of an array or, in two steps, of an array of
arrays. -/
def words (deep : Bool) : List UInt32 := [
  0x07230203, 0x00010000, 0, 25, 0,
  0x0004000F, 4, 1, 0, -- the entry point
  0x00040047, 2, 34, 0, 0x00040047, 2, 33, 0, -- set 0 and binding 0
  0x00040015, 6, 32, 0, 0x00040017, 14, 6, 4, -- words, and four of them
  0x00090019, 7, 6, 0, 0, 0, 0, 2, 33, -- an image of words
  0x0004002B, 6, 8, 2, 0x0004002B, 6, 17, 0, 0x0004002B, 6, 19, 1,
  0x0004001C, 9, 7, 8, 0x0004001C, 10, 9, 8, -- two images, and two times two
  0x00040020, 11, 0, 10, 0x00040020, 12, 0, 9, 0x00040020, 13, 0, 7,
  0x0004003B, if deep then 11 else 12, 2, 0,
  0x00050036, 4, 1, 0, 5, 0x000200F8, 20] ++
  (if deep then [0x00050041, 12, 21, 2, 19] else []) ++ [
  0x00050041, 13, 22, if deep then 21 else 2, 19,
  0x0004003D, 7, 23, 22,
  0x00050062, 14, 24, 23, 17, -- the texel
  0x000100FD, 0x00010038]

/-- A session that gives the module two images in one binding.  There is a third one in another
binding.  All names are empty. -/
def commands (deep : Bool) : List Command := [
  .device "" true none,
  .image "" "" { kind := .dim1, format := .r32Uint, extent := ⟨4, 1, 1⟩ },
  .view "" "" { preset := .wholeImage },
  .setLayout "" "" [
    { number := 0, kind := .storageImage, count := 2 }, { number := 1, kind := .storageImage }],
  .set "" "",
  .update "" [
    { binding := 0, elements := .views ["", ""] }, { binding := 1, elements := .views [""] }] [],
  .pipelineLayout "" "" [""],
  .shader "" "" (words deep),
  .routine "" "" "" {},
  .bind "" "" 0]

def routine (deep : Bool) : Routine :=
  ((after (commands deep)).routines[""]?).get (by cases deep <;> decide +kernel)

/-- The set that it is given. -/
def set (deep : Bool) : DescriptorSet :=
  ((after (commands deep)).store.sets[5]?).get (by cases deep <;> decide +kernel)

/-- The run that would come next. -/
def launch (deep : Bool) : Launch := (after (commands deep)).store.launch (routine deep) ∅

/-- The start of the run. -/
def start (deep : Bool) : Except Fault Unit × State :=
  ((launch deep).environment.declarations.globals.forM
    ((launch deep).environment.initGlobal (launch deep).inputs)).run
      { machine := (launch deep).machine }

/-- Where the run reads the texel. -/
def reading? (deep : Bool) : Option (State × Instruction) :=
  (trace (launch deep).environment 8 (launch deep).environment.shader.entryBlock
    (start deep).2).find? fun p => p.2.op? = some .opImageRead

def reading (deep : Bool) : State × Instruction :=
  (reading? deep).get (by cases deep <;> decide +kernel)

theorem executes (deep : Bool) : (launch deep).Executes (reading deep).1 (reading deep).2 := by
  have hok : (start deep).1 = .ok () := by cases deep <;> decide +kernel
  have hfind : reading? deep = some (reading deep) := (Option.some_get _).symm
  exact Launch.executes_of_mem_trace rfl hok (List.mem_of_find?_eq_some hfind)

/-- The record that is read: the second one of the set, or the third one. -/
theorem reads (deep : Bool) : Reads (launch deep).environment (reading deep).1 (reading deep).2 23
    .storage ⟨5, if deep then 160 else 80⟩ := by
  have hop : (reading deep).2.op? = some .opImageRead := by cases deep <;> decide +kernel
  refine .texels hop rfl ?_ ?_ <;> cases deep <;> decide +kernel

theorem conditions (deep : Bool) : (routine deep).shader.KeepsRecords ∧
    (routine deep).layout.Suits (routine deep).shader ∧
    (routine deep).layout.Fills (routine deep).shader := by
  cases deep <;> decide +kernel

end ReadOne

open ReadOne in
/-- The image in an array is read. -/
theorem second_image_is_read : ∃ d b k, (launch false).environment.sets[5]? = some d ∧
    d.layout.Element ⟨0, k⟩ b 80 ∧ b.kind.record? = some .storage := by
  obtain ⟨hkeeps, hsuits, hfills⟩ := conditions false
  have hr : (after (commands false)).routines[""]? = some (routine false) :=
    (Option.some_get _).symm
  obtain ⟨hread, -⟩ := read_records_are_bound (commands false) hr hkeeps hsuits (by decide +kernel)
    hfills ∅ (l := launch false) rfl (executes false)
  obtain ⟨slot, d, b, k, hslot, -, hd, helement, hkind, -⟩ := hread _ _ _ (reads false)
  have hzero : (routine false).shader.declarations.slots[23]? = some ⟨0, 0, none⟩ := by
    decide +kernel
  obtain rfl := Option.some.inj (hslot.symm.trans hzero)
  exact ⟨d, b, k, hd, helement, hkind⟩

open ReadOne in
/-- A chain that starts from another one leads to the record of another binding. -/
theorem chained_index_leaves_binding : ¬ ∀ (commands : List Command) (name : String) (r : Routine)
    (inputs : InterfaceValues) (l : Launch) (s : State) (i : Instruction) (id : Nat)
    (kind : RecordKind) (a : DescriptorAddress),
    (after commands).routines[name]? = some r → r.shader.KeepsRecords →
    r.layout.Suits r.shader → r.layout.Fills r.shader →
    (after commands).store.launch r inputs = l → l.Executes s i →
    Reads l.environment s i id kind a →
    ∃ slot d b k, r.shader.declarations.slots[id]? = some slot ∧
      r.bound[slot.set]? = some (some a.set) ∧ l.environment.sets[a.set]? = some d ∧
      d.layout.Element ⟨slot.binding, k⟩ b a.offset ∧ b.kind.record? = some kind ∧
      a.offset + kind.size ≤ d.data.size := by
  intro hclaim
  obtain ⟨hkeeps, hsuits, hfills⟩ := conditions true
  have hr : (after (commands true)).routines[""]? = some (routine true) := (Option.some_get _).symm
  obtain ⟨slot, d, b, k, hslot, -, hd, helement, -, -⟩ := hclaim (commands true) "" (routine true) ∅
    (launch true) _ _ _ _ _ hr hkeeps hsuits hfills rfl (executes true) (reads true)
  have hzero : (routine true).shader.declarations.slots[23]? = some ⟨0, 0, none⟩ := by
    decide +kernel
  obtain rfl := Option.some.inj (hslot.symm.trans hzero)
  have hset : (launch true).environment.sets[5]? = some (set true) := (Option.some_get _).symm
  obtain rfl := Option.some.inj (hd.symm.trans hset)
  -- the binding has two records, of which neither is the third one of the set
  have hbinding : (set true).layout.find? 0 =
      some { number := 0, kind := .storageImage, count := 2 } := by
    decide +kernel
  have hoffsets : ∀ k < 2, (set true).layout.bindingOffset 0 k ≠ .ok 160 := by decide +kernel
  obtain rfl := Option.some.inj (helement.binding.symm.trans hbinding)
  exact hoffsets k helement.element helement.offset

end Session

end HostGpu
