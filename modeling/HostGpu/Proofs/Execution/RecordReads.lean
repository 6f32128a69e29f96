import HostGpu.Proofs.Execution.CallSites
import HostGpu.Proofs.Execution.DescriptorPointers
import HostGpu.Proofs.Shader.Objects

/-!
# Records that instructions read

An instruction reads descriptor sets through the pointers that it is given and nowhere else: image
instructions read the record of their image, and sampling instructions also that of the sampler that
was joined to it (`Reads`).  What an instruction does depends on these records alone
(`step_eq_of_sameRecords`), and each of them is the whole record of an element of the binding that
the analysis attached to the operand (`located_of_reads`).
-/

namespace HostGpu

open Outcome Spirv

namespace Execution

open Shader

variable {e : Environment} {s : State} {i : Instruction}

/-! ## Reads -/

/-- The word of the operand through which an operation accesses texels. -/
def texelOperand? : Opcode → Option Nat
  | .opImageRead | .opImageTexelPointer => some 3
  | .opImageWrite => some 1
  | _ => none

/-- Whether the operation queries an image without a sampling function. -/
def isQuery : Opcode → Bool
  | .opImageQuerySizeLod | .opImageQuerySize | .opImageQueryLevels | .opImageQuerySamples => true
  | _ => false

/-- An instruction reads through the pointer of an identifier the record at an address. -/
inductive Reads (e : Environment) (s : State) (i : Instruction) :
    Nat → RecordKind → DescriptorAddress → Prop
  /-- The image that texels are accessed of. -/
  | texels {op : Opcode} {word image : Nat} {a : DescriptorAddress} (hop : i.op? = some op)
      (hword : texelOperand? op = some word) (hid : i.id word = .ok image)
      (ha : s.descriptor image = .ok a) : Reads e s i image .storage a
  /-- The image that is queried, whose kind decides what is read. -/
  | query {op : Opcode} {image : Nat} {a : DescriptorAddress} {kind : DescriptorKind}
      {record : RecordKind} (hop : i.op? = some op) (hquery : isQuery op = true)
      (hid : i.id 3 = .ok image) (ha : s.descriptor image = .ok a)
      (hkind : e.descriptorKind image = .ok kind) (hrecord : kind.record? = some record) :
      Reads e s i image record a
  /-- The image that is sampled, perhaps with its sampler. -/
  | sampled {op : Opcode} {site : SamplingInstruction} {a : DescriptorAddress}
      (hop : i.op? = some op) (hsampling : op.isSampling = true)
      (hsite : SamplingInstruction.ofInstruction e.declarations i op = .ok site)
      (ha : s.descriptor site.sampledImage = .ok a) : Reads e s i site.sampledImage .sampled a
  /-- The sampler that was joined to the image. -/
  | joined {op : Opcode} {site : SamplingInstruction} {object : ObjectInfo} {joins : Instruction}
      {sampler : Nat} {a : DescriptorAddress} (hop : i.op? = some op)
      (hsampling : op.isSampling = true)
      (hsite : SamplingInstruction.ofInstruction e.declarations i op = .ok site)
      (hobject : e.declarations.object site.sampledImage = .ok object)
      (hjoins : e.shader.definition object.offset = .ok joins)
      (hop' : joins.op? = some .opSampledImage) (hid : joins.id 4 = .ok sampler)
      (ha : s.descriptor sampler = .ok a) : Reads e s i sampler .sampled a

/-! ### Nothing else is read -/

/-- The same environment with other descriptor sets. -/
def Environment.withSets (e : Environment) (sets : SetTable) : Environment := { e with sets }

/-- The record at an address is the same in two environments. -/
def SameRecord (e e' : Environment) (a : DescriptorAddress) : RecordKind → Prop
  | .storage => e'.storageRecord a = e.storageRecord a
  | .sampled => e'.sampledRecord a = e.sampledRecord a
  | .buffer => True

section

variable {sets : SetTable}

theorem texelPointer_withSets {r : TexelRequest}
    (h : ∀ a, s.descriptor r.image = .ok a → SameRecord e (e.withSets sets) a .storage) :
    (e.withSets sets).texelPointer s r = e.texelPointer s r := by
  rw [Environment.texelPointer, Environment.texelPointer]
  refine bind_congr_ok fun a ha => ?_
  rw [h a ha]
  rfl

theorem imageLoad_withSets (h : ∀ image a, i.id 3 = .ok image → s.descriptor image = .ok a →
      SameRecord e (e.withSets sets) a .storage) :
    (e.withSets sets).imageLoad s i = e.imageLoad s i := by
  rw [Environment.imageLoad, Environment.imageLoad]
  refine bind_congr_ok fun image himage => bind_congr_ok fun type _ => bind_congr_ok fun c _ =>
    bind_congr_ok fun coordinate _ => bind_congr_ok fun operands _ => bind_congr_ok fun sample _ =>
      bind_congr_ok fun format _ => bind_congr_ok fun stencil _ => ?_
  dsimp only
  rw [texelPointer_withSets fun a => h image a himage]

theorem imageRead_withSets (h : ∀ image a, i.id 3 = .ok image → s.descriptor image = .ok a →
      SameRecord e (e.withSets sets) a .storage) :
    (e.withSets sets).imageRead s i = e.imageRead s i := by
  rw [Environment.imageRead, Environment.imageRead, imageLoad_withSets h]
  rfl

theorem imageWrite_withSets (h : ∀ image a, i.id 1 = .ok image → s.descriptor image = .ok a →
      SameRecord e (e.withSets sets) a .storage) :
    (e.withSets sets).imageWrite s i = e.imageWrite s i := by
  have hstore : (e.withSets sets).imageStore s i = e.imageStore s i := by
    rw [Environment.imageStore, Environment.imageStore]
    refine bind_congr_ok fun image himage => bind_congr_ok fun type _ => bind_congr_ok fun c _ =>
      bind_congr_ok fun coordinate _ => bind_congr_ok fun v _ => bind_congr_ok fun value _ =>
        bind_congr_ok fun operands _ => bind_congr_ok fun sample _ => ?_
    split <;> try rfl
    split <;> try rfl
    dsimp only
    rw [texelPointer_withSets fun a => h image a himage]
  rw [Environment.imageWrite, Environment.imageWrite, hstore]
  rfl

theorem imageTexelPointer_withSets (h : ∀ image a, i.id 3 = .ok image → s.descriptor image = .ok a →
      SameRecord e (e.withSets sets) a .storage) :
    (e.withSets sets).imageTexelPointer s i = e.imageTexelPointer s i := by
  rw [Environment.imageTexelPointer, Environment.imageTexelPointer]
  refine bind_congr_ok fun image himage => bind_congr_ok fun _ _ => bind_congr_ok fun type _ =>
    bind_congr_ok fun c _ => bind_congr_ok fun coordinate _ => bind_congr_ok fun sample _ => ?_
  exact texelPointer_withSets fun a => h image a himage

/-- What queries read of an image is the record that its kind asks for. -/
theorem imageRecord_withSets {image : Nat} (h : ∀ a kind record, s.descriptor image = .ok a →
      e.descriptorKind image = .ok kind → kind.record? = some record →
      SameRecord e (e.withSets sets) a record) :
    (e.withSets sets).imageRecord s image = e.imageRecord s image := by
  rw [Environment.imageRecord, Environment.imageRecord]
  refine bind_congr_ok fun a ha => bind_congr_ok fun kind hkind => ?_
  have hrecord := h a kind
  cases kind with
  | storageImage | storageTexelBuffer | inputAttachment =>
    exact congrArg (Except.ok ∘ ImageRecord.storage) (hrecord .storage ha hkind rfl)
  | combinedImageSampler | sampledImage | uniformTexelBuffer =>
    exact congrArg (Except.ok ∘ ImageRecord.sampled) (hrecord .sampled ha hkind rfl)
  | _ => rfl

theorem querySize_withSets {lod : Option Nat} (h : ∀ image a kind record, i.id 3 = .ok image →
      s.descriptor image = .ok a → e.descriptorKind image = .ok kind →
      kind.record? = some record → SameRecord e (e.withSets sets) a record) :
    (e.withSets sets).querySize s i lod = e.querySize s i lod := by
  rw [Environment.querySize, Environment.querySize]
  refine bind_congr_ok fun _ _ => bind_congr_ok fun count _ => bind_congr_ok fun image himage =>
    bind_congr_ok fun type _ => ?_
  rw [imageRecord_withSets fun a kind record => h image a kind record himage]
  rfl

theorem queryLevels_withSets (h : ∀ image a kind record, i.id 3 = .ok image →
      s.descriptor image = .ok a → e.descriptorKind image = .ok kind →
      kind.record? = some record → SameRecord e (e.withSets sets) a record) :
    (e.withSets sets).queryLevels s i = e.queryLevels s i := by
  rw [Environment.queryLevels, Environment.queryLevels]
  refine bind_congr_ok fun image himage => bind_congr_ok fun a ha => ?_
  refine bind_congr_ok fun kind hkind => ?_
  have hrecord := h image a kind .sampled himage ha hkind
  cases kind with
  | combinedImageSampler | sampledImage | uniformTexelBuffer =>
    exact congrArg (Except.ok ∘ SampledRecord.mipLevels) (hrecord rfl)
  | _ => rfl

theorem querySamples_withSets (h : ∀ image a kind record, i.id 3 = .ok image →
      s.descriptor image = .ok a → e.descriptorKind image = .ok kind →
      kind.record? = some record → SameRecord e (e.withSets sets) a record) :
    (e.withSets sets).querySamples s i = e.querySamples s i := by
  rw [Environment.querySamples, Environment.querySamples]
  refine bind_congr_ok fun image himage => bind_congr_ok fun type _ => ?_
  split
  · rfl
  · refine bind_congr_ok fun a ha => bind_congr_ok fun kind hkind => ?_
    have hrecord := h image a kind
    cases kind with
    | storageImage =>
      exact congrArg (Except.ok ∘ StorageRecord.sampleCount) (hrecord .storage himage ha hkind rfl)
    | combinedImageSampler | sampledImage | uniformTexelBuffer =>
      exact congrArg (Except.ok ∘ SampledRecord.sampleCount) (hrecord .sampled himage ha hkind rfl)
    | _ => rfl

theorem run_inspect_bind_congr {α β : Type} {x : State → Except Fault α} {f g : α → Run β}
    (h : ∀ a, x s = .ok a → (f a).run s = (g a).run s) :
    (inspect x >>= f).run s = (inspect x >>= g).run s := by
  rw [run_bind, run_bind, run_inspect]
  cases hx : x s with
  | error fault => rfl
  | ok a => exact h a hx

theorem run_lift_bind_congr {α β : Type} {x : Except Fault α} {f g : α → Run β}
    (h : ∀ a, x = .ok a → (f a).run s = (g a).run s) :
    (liftM x >>= f).run s = (liftM x >>= g).run s := by
  rw [run_bind, run_bind]
  cases x with
  | error fault => rfl
  | ok a => exact h a rfl

/-- The image of a sampling instruction, and the sampler that was joined to it. -/
theorem sampleTexels_withSets {site : SamplingInstruction}
    (himage : ∀ a, s.descriptor site.sampledImage = .ok a →
      SameRecord e (e.withSets sets) a .sampled)
    (hjoined : ∀ object joins sampler a, e.declarations.object site.sampledImage = .ok object →
      e.shader.definition object.offset = .ok joins → joins.op? = some .opSampledImage →
      joins.id 4 = .ok sampler → s.descriptor sampler = .ok a →
      SameRecord e (e.withSets sets) a .sampled) :
    (sampleTexels (e.withSets sets) site).run s = (sampleTexels e site).run s := by
  rw [sampleTexels, sampleTexels]
  refine run_inspect_bind_congr fun image ha => ?_
  have hrecord : (e.withSets sets).sampledRecord image = e.sampledRecord image := himage image ha
  have hsampler : (e.withSets sets).samplerOf s site.sampledImage image =
      e.samplerOf s site.sampledImage image := by
    rw [Environment.samplerOf, Environment.samplerOf]
    refine bind_congr_ok fun object hobject => bind_congr_ok fun type _ => ?_
    split
    case isTrue =>
      refine bind_congr_ok fun joins hjoins => ?_
      dsimp only
      split
      case isTrue hop =>
        refine bind_congr_ok fun sampler hid => bind_congr_ok fun a ha => ?_
        exact congrArg (fun r => Except.ok r.sampler.toNat)
          (hjoined object joins sampler a hobject hjoins hop hid ha)
      case isFalse => exact congrArg (fun r => Except.ok r.sampler.toNat) hrecord
    case isFalse => rfl
  have hfunction (sampler : Nat) : findFunction (e.withSets sets) site image sampler =
      findFunction e site image sampler := by
    rw [findFunction, findFunction, hrecord]
    rfl
  rw [run_bind, run_bind, run_inspect, run_inspect, hsampler]
  cases e.samplerOf s site.sampledImage image with
  | error fault => rfl
  | ok sampler =>
    dsimp only
    rw [hfunction, hrecord]
    rfl

theorem executeSampling_withSets {op : Opcode} (hop : i.op? = some op)
    (hsampling : op.isSampling = true)
    (h : ∀ id kind a, Reads e s i id kind a → SameRecord e (e.withSets sets) a kind) :
    (executeSampling (e.withSets sets) i op).run s = (executeSampling e i op).run s := by
  refine run_lift_bind_congr fun site hsite => run_lift_bind_congr fun count _ => ?_
  have htexels : (sampleTexels (e.withSets sets) site).run s = (sampleTexels e site).run s :=
    sampleTexels_withSets (fun a ha => h _ _ a (.sampled hop hsampling hsite ha))
      fun object joins sampler a hobject hjoins hop' hid ha =>
        h _ _ a (.joined hop hsampling hsite hobject hjoins hop' hid ha)
  have hactive : (e.withSets sets).active = e.active := rfl
  rw [hactive]
  split
  · rw [run_bind, run_bind, htexels]
  · rfl

theorem concat_withSets (list : List UInt32) :
    (e.withSets sets).concat s list = e.concat s list := by
  induction list with
  | nil => rfl
  | cons id list ih =>
    rw [Environment.concat, Environment.concat, ih]
    rfl

/-- Most instructions read no records. -/
theorem execute_withSets {op : Opcode} (htexels : texelOperand? op = none)
    (hquery : isQuery op = false) (hsampling : op.isSampling = false) :
    execute (e.withSets sets) i op = execute e i op := by
  unfold execute
  split
  case h_12 => simp only [concat_withSets]
  case h_25 =>
    split
    · rfl
    · rfl
    · rw [hsampling, if_neg Bool.false_ne_true, if_neg Bool.false_ne_true]
  all_goals first | cases htexels; done | cases hquery; done | rfl

/-- **What an instruction does depends on the records that it reads** and on nothing else in
descriptor sets. -/
theorem step_eq_of_sameRecords
    (h : ∀ id kind a, Reads e s i id kind a → SameRecord e (e.withSets sets) a kind) :
    (step (e.withSets sets) i).run s = (step e i).run s := by
  have hexecute {op : Opcode} (hop : i.op? = some op) :
      (execute (e.withSets sets) i op).run s = (execute e i op).run s := by
    have htexels {word : Nat} (hword : texelOperand? op = some word) (image : Nat)
        (a : DescriptorAddress) (hid : i.id word = .ok image) (ha : s.descriptor image = .ok a) :=
      h image .storage a (.texels hop hword hid ha)
    have hquery (hquery : isQuery op = true) (image : Nat) (a : DescriptorAddress)
        (kind : DescriptorKind) (record : RecordKind) (hid : i.id 3 = .ok image)
        (ha : s.descriptor image = .ok a) (hkind : e.descriptorKind image = .ok kind)
        (hrecord : kind.record? = some record) :=
      h image record a (.query hop hquery hid ha hkind hrecord)
    have hcompute {f g : State → Except Fault (List WordLanes)} (hfg : f s = g s) :
        (compute i f).run s = (compute i g).run s := by
      rw [compute, compute, run_bind, run_bind, run_inspect, run_inspect, hfg]
    by_cases hsampling : op.isSampling = true
    · rw [execute_of_isSampling hsampling, execute_of_isSampling hsampling]
      exact executeSampling_withSets hop hsampling h
    have hplain := Bool.eq_false_of_not_eq_true hsampling
    cases op with
    | opImageRead => exact hcompute (imageRead_withSets (htexels rfl))
    | opImageQuerySize => exact hcompute (querySize_withSets (hquery rfl))
    | opImageQuerySizeLod =>
      exact run_lift_bind_congr fun lod _ => hcompute (querySize_withSets (hquery rfl))
    | opImageQueryLevels =>
      refine hcompute ?_
      rw [queryLevels_withSets (hquery rfl)]
    | opImageQuerySamples =>
      refine hcompute ?_
      rw [querySamples_withSets (hquery rfl)]
    | opImageWrite =>
      rw [execute, execute, run_bind, run_bind, run_inspect, run_inspect,
        imageWrite_withSets (htexels rfl)]
    | opImageTexelPointer =>
      rw [execute, execute, run_bind, run_bind, run_inspect, run_inspect,
        imageTexelPointer_withSets (htexels rfl)]
    | _ => rw [execute_withSets rfl rfl hplain]
  unfold step
  split
  case h_1 | h_2 | h_3 | h_4 => rfl
  case h_5 op _ _ _ hop => rw [run_bind, run_bind, hexecute hop]

end

/-! ## Where the records are -/

theorem recordOperand?_of_isSampling {op : Opcode} (h : op.isSampling = true) :
    recordOperand? op = some (3, .sampled) := by
  cases op <;> first | rfl | cases h

theorem recordOperand?_of_texelOperand? {op : Opcode} {word : Nat}
    (h : texelOperand? op = some word) : recordOperand? op = some (word, .storage) := by
  cases op <;> cases h <;> rfl

theorem State.descriptor_eq_ok {id : Nat} {a : DescriptorAddress} :
    s.descriptor id = .ok a ↔ s.values[id]? = some (.pointer (.descriptor a)) := by
  rw [descriptor, ← target_eq_ok]
  cases s.target id with
  | error fault => constructor <;> rintro ⟨⟩
  | ok t => cases t <;> simp [ok_bind, pure_eq_ok, throw_eq_error]

variable {inputs : InterfaceValues} {machine : Machine} {offset : Nat}

/-- **Every record that a run reads** is, in full, the record of an element of the binding that the
analysis attached to the operand. -/
theorem located_of_reads (he : e.shader.IsAnalysed) (hkeeps : e.shader.KeepsRecords)
    (hchains : e.shader.ChainsStartAtVariables) (hsuits : e.layout.Suits e.shader)
    (hfills : e.layout.Fills e.shader) (hs : Visits e inputs machine s offset)
    (hi : e.shader.definition offset = .ok i) {id : Nat} {kind : RecordKind}
    {a : DescriptorAddress} (h : Reads e s i id kind a) :
    ∃ slot l b k, Located e id a slot l b k ∧ b.kind.record? = some kind := by
  have hlocated := located_of_visits he hkeeps hchains hsuits hfills hs
  have hmem := hs.mem_instructions he hi
  -- the record has the layout that the operand is read with
  have hoperand {i : Instruction} {op : Opcode} {word : Nat} (hi : i ∈ e.shader.module.instructions)
      (hop : i.op? = some op) (hword : recordOperand? op = some (word, kind))
      (hid : i.id word = .ok id) (ha : s.descriptor id = .ok a) :
      ∃ slot l b k, Located e id a slot l b k ∧ b.kind.record? = some kind := by
    obtain ⟨slot, l, b, k, hat⟩ := hlocated id a (State.descriptor_eq_ok.mp ha)
    refine ⟨slot, l, b, k, hat, hat.record.trans ?_⟩
    refine hkeeps.operands i hi (word, kind) ?_ id (Instruction.id_eq_ok.mp hid)
    rw [hop]
    exact hword
  cases h with
  | texels hop hword hid ha =>
    exact hoperand hmem hop (recordOperand?_of_texelOperand? hword) hid ha
  | query hop hquery hid ha hkind hrecord =>
    obtain ⟨slot, l, b, k, hat⟩ := hlocated id a (State.descriptor_eq_ok.mp ha)
    refine ⟨slot, l, b, k, hat, ?_⟩
    simp only [Environment.descriptorKind, PipelineLayout.descriptorKind, bind_eq_ok, pure_eq_ok,
      Declarations.slot_eq_ok, setLayout_eq_ok, SetLayout.binding_eq_ok] at hkind
    obtain ⟨slot', hslot, l', hl, b', hb, rfl⟩ := hkind
    obtain rfl : slot = slot' := Option.some.inj (hat.attached.symm.trans hslot)
    obtain rfl : l = l' := Option.some.inj (hat.layout.symm.trans hl)
    obtain rfl : b = b' := Option.some.inj (hat.element.binding.symm.trans hb)
    exact hrecord
  | sampled hop hsampling hsite ha =>
    exact hoperand hmem hop (recordOperand?_of_isSampling hsampling)
      (readFrom_of_ofInstruction hsite).sampledImage ha
  | joined _ _ _ hobject hjoins hop' hid ha =>
    refine hoperand ?_ hop' rfl hid ha
    obtain ⟨j, hj, hdefinition, -⟩ := he.exists_definition (Declarations.object_eq_ok.mp hobject)
    rwa [Except.ok.inj (hjoins.symm.trans hdefinition)]

end Execution

end HostGpu
