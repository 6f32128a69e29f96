import HostGpu.Proofs.Outcome
import HostGpu.Proofs.Spirv.Module
import HostGpu.Shader.Analysis
import HostGpu.Shader.ImageType
import Mathlib.Data.List.Induction

/-!
# What the analysis of a module finds

The analysis reads instructions in order, and each of them adds at most one type, one block or one
call site (`Declarations.declare_cases`, `Analysis.step_cases`).  So what it knows in the end has a
source: blocks start at instructions, the call sites are the sampling instructions in their order,
and a type was declared by an instruction that measured it with the types declared before
(`Analysed.declared`).  Where no type is declared twice, the types that were used to measure another
one are still the same in the end.
-/

namespace HostGpu.Shader

open Outcome Spirv

/-- Whether the operation declares a type. -/
def declaresType : Opcode → Bool
  | .opTypeVoid | .opTypeFunction | .opTypeBool | .opTypeInt | .opTypeFloat | .opTypeImage
  | .opTypeSampler | .opTypeSampledImage | .opTypeVector | .opTypeMatrix | .opTypeArray
  | .opTypeRuntimeArray | .opTypeStruct | .opTypePointer => true
  | _ => false

theorem isSampling_eq_false {op : Opcode} (h : declaresType op = true) : op.isSampling = false := by
  cases op <;> first | rfl | cases h

/-! ## Declarations -/

namespace Declarations

variable {d d' : Declarations} {i : Instruction}

/-- Declarations with the same types, blocks and call sites. -/
structure SameOutline (d d' : Declarations) : Prop where
  types : d'.types = d.types
  blocks : d'.blocks = d.blocks
  callSites : d'.callSites = d.callSites

theorem SameOutline.refl (d : Declarations) : SameOutline d d := ⟨rfl, rfl, rfl⟩

theorem sameOutline_declareObject {kind : ObjectKind} (h : d.declareObject i kind = .ok d') :
    SameOutline d d' := by
  simp only [declareObject, bind_eq_ok, pure_eq_ok] at h
  obtain ⟨_, -, _, -, rfl⟩ := h
  exact ⟨rfl, rfl, rfl⟩

theorem sameOutline_declareForwarded {kind : ObjectKind}
    (h : d.declareForwarded i kind = .ok d') : SameOutline d d' := by
  simp only [declareForwarded, bind_eq_ok, pure_eq_ok] at h
  obtain ⟨d₁, hd₁, source, -, target, -, rfl⟩ := h
  have hobject := sameOutline_declareObject hd₁
  rw [forward]
  split
  · exact ⟨hobject.types, hobject.blocks, hobject.callSites⟩
  · exact hobject

theorem sameOutline_decorate (h : d.decorate i = .ok d') : SameOutline d d' := by
  simp only [decorate, bind_eq_ok] at h
  obtain ⟨_, -, _, -, h⟩ := h
  split at h
  all_goals
    simp only [bind_eq_ok, pure_eq_ok] at h
    obtain ⟨_, -, rfl⟩ := h
    exact ⟨rfl, rfl, rfl⟩

theorem sameOutline_declareVariable (h : d.declareVariable i = .ok d') : SameOutline d d' := by
  simp only [declareVariable, bind_eq_ok] at h
  obtain ⟨id, -, _, -, storage, -, d₁, hd₁, h⟩ := h
  have hobject := sameOutline_declareObject hd₁
  split at h
  · rw [pure_eq_ok] at h
    subst h
    exact ⟨hobject.types, hobject.blocks, hobject.callSites⟩
  · rw [pure_eq_ok] at h
    subst h
    exact hobject

/-- What an instruction says of the type that it declares, if that has parts: the number of its
components, and the type of its elements. -/
inductive Measures (d : Declarations) (i : Instruction) : Opcode → Nat → Option Nat → Prop
  | row {op : Opcode} {length element count : Nat} (hop : op = .opTypeVector ∨ op = .opTypeMatrix)
      (hlength : i.id 3 = .ok length) (helement : i.id 2 = .ok element)
      (hcount : d.componentCount element = .ok count) :
      Measures d i op (length * count) (some element)
  | array {constant element count : Nat} {length : UInt32} (hconstant : i.id 3 = .ok constant)
      (hlength : d.scalar constant = .ok length) (helement : i.id 2 = .ok element)
      (hcount : d.componentCount element = .ok count) :
      Measures d i .opTypeArray (length.toNat * count) (some element)
  | struct {count : Nat} (hcount : d.addCounts 0 (i.words.drop 2) = .ok count) :
      Measures d i .opTypeStruct count none
  | plain {op : Opcode} {count : Nat} {element : Option Nat}
      (hop : op ∉ [.opTypeVector, .opTypeMatrix, .opTypeArray, .opTypeStruct]) :
      Measures d i op count element

/-- An instruction declares a type. -/
structure Declares (d : Declarations) (i : Instruction) (id : Nat) (type : TypeInfo) : Prop where
  op : i.op? = some type.op
  declaresType : declaresType type.op = true
  id : i.id 1 = .ok id
  offset : type.offset = i.offset
  measures : Measures d i type.op type.componentCount type.element
  /-- The number of components is a word. -/
  small : type.componentCount < 2 ^ 32

/-- What an instruction adds to the outline of declarations. -/
inductive Adds (d : Declarations) (i : Instruction) (d' : Declarations) : Prop
  | nothing (hop : ∀ op, i.op? = some op → declaresType op = false ∧ op.isSampling = false)
      (h : SameOutline d d')
  | callSite {op : Opcode} (hop : i.op? = some op) (hsampling : op.isSampling = true)
      (h : SameOutline (d.addCallSite i.offset) d')
  | type {id : Nat} {type : TypeInfo} (hdeclares : Declares d i id type)
      (h : d' = { d with types := d.types.insert id type })

theorem adds_of_sameOutline {op : Opcode} (hop : i.op? = some op)
    (hplain : declaresType op = false) (hsampling : op.isSampling = false)
    (h : SameOutline d d') : Adds d i d' := by
  refine .nothing (fun op' hop' => ?_) h
  cases hop.symm.trans hop'
  exact ⟨hplain, hsampling⟩

theorem adds_of_declareType {op : Opcode} {count : Nat} {element : Option Nat}
    (hop : i.op? = some op) (htype : Shader.declaresType op = true)
    (hmeasures : Measures d i op count element) (hsmall : count < 2 ^ 32)
    (h : d.declareType i op count element = .ok d') : Adds d i d' := by
  simp only [declareType, bind_eq_ok, pure_eq_ok] at h
  obtain ⟨id, hid, h⟩ := h
  exact .type ⟨hop, htype, hid, rfl, hmeasures, hsmall⟩ h.symm

/-- Component counts are added with a check. -/
theorem addCounts_lt {total count : Nat} {ids : List UInt32} (htotal : total < 2 ^ 32)
    (h : d.addCounts total ids = .ok count) : count < 2 ^ 32 := by
  induction ids generalizing total with
  | nil =>
    cases h
    exact htotal
  | cons id rest ih =>
    simp only [addCounts, bind_eq_ok, checkedCount_eq_ok] at h
    obtain ⟨_, -, _, ⟨rfl, hsmall⟩, h⟩ := h
    exact ih hsmall h

theorem declare_cases {op : Opcode} (hop : i.op? = some op) (h : d.declare i op = .ok d') :
    Adds d i d' := by
  unfold declare at h
  split at h
  case h_1 => exact adds_of_sameOutline hop rfl rfl (sameOutline_decorate h)
  case h_2 | h_3 | h_4 | h_5 | h_6 | h_7 | h_8 =>
    exact adds_of_declareType hop rfl (.plain (by decide)) (by decide) h
  case h_9 | h_13 =>
    obtain ⟨element, -, h⟩ := bind_eq_ok.mp h
    exact adds_of_declareType hop rfl (.plain (by decide)) (by decide) h
  case h_10 | h_11 =>
    simp only [bind_eq_ok, checkedCount_eq_ok] at h
    obtain ⟨length, hlength, element, helement, count, hcount, _, ⟨rfl, hsmall⟩, h⟩ := h
    exact adds_of_declareType hop rfl (.row (by decide) hlength helement hcount) hsmall h
  case h_12 =>
    simp only [bind_eq_ok, checkedCount_eq_ok] at h
    obtain ⟨constant, hconstant, length, hlength, element, helement, count, hcount, _,
      ⟨rfl, hsmall⟩, h⟩ := h
    exact adds_of_declareType hop rfl (.array hconstant hlength helement hcount) hsmall h
  case h_14 =>
    obtain ⟨count, hcount, h⟩ := bind_eq_ok.mp h
    exact adds_of_declareType hop rfl (.struct hcount) (addCounts_lt (by decide) hcount) h
  case h_15 =>
    simp only [bind_eq_ok] at h
    obtain ⟨_, -, _, -, element, -, h⟩ := h
    exact adds_of_declareType hop rfl (.plain (by decide)) (by decide) h
  case h_16 =>
    split at h
    · cases h
    · exact adds_of_sameOutline hop rfl rfl (sameOutline_declareObject h)
  case h_19 =>
    simp only [bind_eq_ok] at h
    obtain ⟨_, -, _, -, h⟩ := h
    exact adds_of_sameOutline hop rfl rfl (sameOutline_declareObject h)
  case h_20 =>
    obtain ⟨_, -, h⟩ := bind_eq_ok.mp h
    exact adds_of_sameOutline hop rfl rfl (sameOutline_declareObject h)
  case h_21 =>
    simp only [bind_eq_ok] at h
    obtain ⟨_, -, _, -, h⟩ := h
    exact adds_of_sameOutline hop rfl rfl (sameOutline_declareForwarded h)
  case h_22 | h_23 | h_24 | h_25 =>
    exact adds_of_sameOutline hop rfl rfl (sameOutline_declareForwarded h)
  case h_52 =>
    have hplain : Shader.declaresType op = false := by
      cases op <;> first | rfl | contradiction
    split at h
    case isTrue hsampling => exact .callSite hop hsampling (sameOutline_declareObject h)
    case isFalse hsampling =>
      obtain rfl := pure_eq_ok.mp h
      exact adds_of_sameOutline hop hplain (Bool.eq_false_of_not_eq_true hsampling) (.refl d)
  all_goals exact adds_of_sameOutline hop rfl rfl (sameOutline_declareObject h)

end Declarations

/-! ## Instructions one after the other -/

/-- What is known after some instructions. -/
def analysed (list : List Instruction) : Except Fault Analysis := list.foldlM Analysis.step {}

theorem analysed_append_singleton {list : List Instruction} {i : Instruction} {a' : Analysis} :
    analysed (list ++ [i]) = .ok a' ↔ ∃ a, analysed list = .ok a ∧ a.step i = .ok a' := by
  rw [analysed, List.foldlM_append, bind_eq_ok]
  simp only [List.foldlM_cons, List.foldlM_nil, bind_pure, analysed]

namespace Analysis

variable {a a' : Analysis} {i : Instruction}

/-- What an instruction adds to what is known. -/
inductive Adds (a : Analysis) (i : Instruction) (a' : Analysis) : Prop
  | label {id : Nat} (hop : i.op? = some .opLabel)
      (h : a'.declarations =
        { a.declarations with blocks := a.declarations.blocks.insert id i.offset })
      (hentry : a'.entryBlock = a.entryBlock ∨ a'.entryBlock = some i.offset)
  | declaration (h : a.declarations.Adds i a'.declarations) (hentry : a'.entryBlock = a.entryBlock)

theorem adds_of_declarations_eq (hop : ∀ op, i.op? = some op →
    declaresType op = false ∧ op.isSampling = false) (h : a'.declarations = a.declarations)
    (hentry : a'.entryBlock = a.entryBlock) : a.Adds i a' :=
  .declaration (.nothing hop (h ▸ .refl _)) hentry

/-- **One step of the analysis.** -/
theorem step_cases (h : a.step i = .ok a') : a.Adds i a' := by
  unfold step at h
  have hplain {op : Opcode} (hop : i.op? = some op) (hop' : declaresType op = false ∧
      op.isSampling = false) (op' : Opcode) (hop'' : i.op? = some op') :
      declaresType op' = false ∧ op'.isSampling = false := by
    cases hop.symm.trans hop''
    exact hop'
  split at h
  case h_1 hop =>
    obtain rfl := pure_eq_ok.mp h
    refine adds_of_declarations_eq (fun op h => ?_) rfl rfl
    cases hop.symm.trans h
  case h_2 hop =>
    split at h
    · obtain rfl := pure_eq_ok.mp h
      exact adds_of_declarations_eq (hplain hop ⟨rfl, rfl⟩) rfl rfl
    · simp only [bind_eq_ok, pure_eq_ok] at h
      obtain ⟨_, -, _, -, rfl⟩ := h
      exact adds_of_declarations_eq (hplain hop ⟨rfl, rfl⟩) rfl rfl
  case h_3 hop =>
    simp only [bind_eq_ok, pure_eq_ok] at h
    obtain ⟨_, -, rfl⟩ := h
    exact adds_of_declarations_eq (hplain hop ⟨rfl, rfl⟩) rfl rfl
  case h_4 hop =>
    obtain rfl := pure_eq_ok.mp h
    exact adds_of_declarations_eq (hplain hop ⟨rfl, rfl⟩) rfl rfl
  case h_5 hop =>
    simp only [Analysis.label, bind_eq_ok, pure_eq_ok] at h
    obtain ⟨id, -, rfl⟩ := h
    refine .label hop rfl ?_
    dsimp only
    split
    · exact .inr rfl
    · exact .inl rfl
  case h_6 hop =>
    simp only [Analysis.declareVariable, bind_eq_ok, pure_eq_ok] at h
    obtain ⟨d, hd, _, -, rfl⟩ := h
    obtain ⟨htypes, hblocks, hsites⟩ := Declarations.sameOutline_declareVariable hd
    exact .declaration (.nothing (hplain hop ⟨rfl, rfl⟩) ⟨htypes, hblocks, hsites⟩) rfl
  case h_7 op _ _ _ _ _ hop =>
    simp only [bind_eq_ok, pure_eq_ok] at h
    obtain ⟨d, hd, rfl⟩ := h
    exact .declaration (Declarations.declare_cases hop hd) rfl

end Analysis

/-! ## What is known in the end -/

variable {list : List Instruction} {a : Analysis}

/-- Blocks start at instructions, and so does the first block of the entry point. -/
theorem starts_of_analysed (h : analysed list = .ok a) :
    (∀ (label start : Nat), a.declarations.blocks[label]? = some start →
      ∃ i ∈ list, i.offset = start) ∧
    ∀ start, a.entryBlock = some start → ∃ i ∈ list, i.offset = start := by
  induction list using List.reverseRecOn generalizing a with
  | nil =>
    cases h
    exact ⟨fun _ _ h => by simp at h, fun _ h => by cases h⟩
  | append_singleton list i ih =>
    obtain ⟨a₀, ha₀, hstep⟩ := analysed_append_singleton.mp h
    obtain ⟨hblocks, hentry⟩ := ih ha₀
    have hlift {start : Nat} : (∃ j ∈ list, j.offset = start) → ∃ j ∈ list ++ [i], j.offset = start :=
      fun ⟨j, hj, hstart⟩ => ⟨j, List.mem_append_left _ hj, hstart⟩
    have hnew : ∃ j ∈ list ++ [i], j.offset = i.offset :=
      ⟨i, List.mem_append_right _ (List.mem_singleton_self i), rfl⟩
    cases Analysis.step_cases hstep with
    | @label id hop hd hentry' =>
      refine ⟨fun label start hstart => ?_, fun start hstart => ?_⟩
      · rw [hd, Std.TreeMap.getElem?_insert] at hstart
        split at hstart
        · cases hstart
          exact hnew
        · exact hlift (hblocks label start hstart)
      · rcases hentry' with hsame | hsame
        · exact hlift (hentry start (hsame ▸ hstart))
        · cases hsame.symm.trans hstart
          exact hnew
    | declaration hadds hentry' =>
      have hsame : a.declarations.blocks = a₀.declarations.blocks := by
        cases hadds with
        | nothing _ hsame => exact hsame.blocks
        | callSite _ _ hsame => exact hsame.blocks
        | type _ hd => rw [hd]
      refine ⟨fun label start hstart => ?_, fun start hstart => ?_⟩
      · rw [hsame] at hstart
        exact hlift (hblocks label start hstart)
      · exact hlift (hentry start (hentry' ▸ hstart))

/-! ### Call sites -/

/-- Whether an instruction samples. -/
def isSampling (i : Instruction) : Bool := i.op?.any Opcode.isSampling

theorem isSampling_eq {op : Opcode} {i : Instruction} (hop : i.op? = some op) :
    isSampling i = op.isSampling := by
  rw [isSampling, hop, Option.any_some]

/-- **The call sites** are the sampling instructions, in the order of the module. -/
theorem callSites_of_analysed (h : analysed list = .ok a) :
    a.declarations.callSites = (list.filter isSampling).map (·.offset) := by
  induction list using List.reverseRecOn generalizing a with
  | nil =>
    cases h
    rfl
  | append_singleton list i ih =>
    obtain ⟨a₀, ha₀, hstep⟩ := analysed_append_singleton.mp h
    rw [List.filter_append, List.map_append, ← ih ha₀]
    have hkept (hsites : a.declarations.callSites = a₀.declarations.callSites)
        (hsampling : isSampling i = false) : a.declarations.callSites =
          a₀.declarations.callSites ++ ([i].filter isSampling).map (·.offset) := by
      rw [hsites, List.filter_singleton, hsampling]
      exact (List.append_nil _).symm
    cases Analysis.step_cases hstep with
    | label hop hd _ => exact hkept (by rw [hd]) (isSampling_eq hop)
    | declaration hadds _ =>
      cases hadds with
      | nothing hop hsame =>
        refine hkept hsame.callSites ?_
        cases hop' : i.op? with
        | none => rw [isSampling, hop', Option.any_none]
        | some op => exact (isSampling_eq hop').trans (hop op hop').2
      | callSite hop hsampling hsame =>
        rw [hsame.callSites, Declarations.addCallSite, List.filter_singleton, isSampling_eq hop,
          hsampling]
        rfl
      | type hdeclares hd =>
        have hsampling := isSampling_eq_false hdeclares.declaresType
        exact hkept (by rw [hd]) ((isSampling_eq hdeclares.op).trans hsampling)

/-! ### Types -/

/-- **A type that is declared** was declared by an instruction, from what was known before. -/
theorem declared_of_analysed (h : analysed list = .ok a) {id : Nat} {type : TypeInfo}
    (htype : a.declarations.types[id]? = some type) :
    ∃ before i after a₀, list = before ++ i :: after ∧ analysed before = .ok a₀ ∧
      a₀.declarations.Declares i id type := by
  induction list using List.reverseRecOn generalizing a with
  | nil =>
    cases h
    simp at htype
  | append_singleton list i ih =>
    obtain ⟨a₀, ha₀, hstep⟩ := analysed_append_singleton.mp h
    have hearlier (htype : a₀.declarations.types[id]? = some type) :
        ∃ before j after a₁, list ++ [i] = before ++ j :: after ∧ analysed before = .ok a₁ ∧
          a₁.declarations.Declares j id type := by
      obtain ⟨before, j, after, a₁, rfl, ha₁, hdeclares⟩ := ih ha₀ htype
      exact ⟨before, j, after ++ [i], a₁, by simp, ha₁, hdeclares⟩
    cases Analysis.step_cases hstep with
    | label hop hd _ =>
      rw [hd] at htype
      exact hearlier htype
    | declaration hadds _ =>
      cases hadds with
      | nothing _ hsame => exact hearlier (hsame.types ▸ htype)
      | callSite _ _ hsame => exact hearlier (hsame.types ▸ htype)
      | @type id' type' hdeclares hd =>
        rw [hd, Std.TreeMap.getElem?_insert] at htype
        split at htype
        case isTrue heq =>
          obtain rfl := Std.LawfulEqOrd.eq_of_compare heq
          cases htype
          exact ⟨list, i, [], a₀, rfl, ha₀, hdeclares⟩
        case isFalse => exact hearlier htype

/-- The type that an instruction declares, if it declares one. -/
def declaredType? (i : Instruction) : Option Nat :=
  if i.op?.any declaresType then (i.words[1]?).map (·.toNat) else none

theorem Declarations.Declares.declaredType?_eq {d : Declarations} {i : Instruction} {id : Nat}
    {type : TypeInfo} (h : d.Declares i id type) : declaredType? i = some id := by
  have hid := h.id
  simp only [Instruction.id, Instruction.word, bind_eq_ok, pure_eq_ok] at hid
  obtain ⟨w, hw, rfl⟩ := hid
  split at hw
  case h_1 hword =>
    cases hw
    rw [declaredType?, h.op, Option.any_some, if_pos h.declaresType, hword, Option.map_some]
  case h_2 => cases hw

/-- Instructions declare no type twice. -/
def DeclareOnce (list : List Instruction) : Prop := (list.filterMap declaredType?).Nodup

/-- **Types that are declared once stay.** -/
theorem type_of_analysed {before after : List Instruction} {a₀ : Analysis}
    (honce : DeclareOnce (before ++ after)) (ha₀ : analysed before = .ok a₀)
    (h : analysed (before ++ after) = .ok a) {id : Nat} {type : TypeInfo}
    (htype : a₀.declarations.types[id]? = some type) : a.declarations.types[id]? = some type := by
  induction after using List.reverseRecOn generalizing a with
  | nil =>
    rw [List.append_nil] at h
    cases ha₀.symm.trans h
    exact htype
  | append_singleton after i ih =>
    rw [← List.append_assoc] at h honce
    obtain ⟨a₁, ha₁, hstep⟩ := analysed_append_singleton.mp h
    rw [DeclareOnce, List.filterMap_append] at honce
    have hkept := ih (List.nodup_append.mp honce).1 ha₁
    cases Analysis.step_cases hstep with
    | label _ hd _ =>
      rw [hd]
      exact hkept
    | declaration hadds _ =>
      cases hadds with
      | nothing _ hsame => rwa [hsame.types]
      | callSite _ _ hsame => rwa [hsame.types]
      | @type id' type' hdeclares hd =>
        rw [hd, Std.TreeMap.getElem?_insert, if_neg]
        · exact hkept
        · -- the type was declared before, so that this instruction declares another one
          intro heq
          obtain rfl := Std.LawfulEqOrd.eq_of_compare heq
          obtain ⟨_, j, _, _, hlist, -, hdeclares'⟩ := declared_of_analysed ha₀ htype
          have hj : j ∈ before := hlist ▸ List.mem_append_right _ List.mem_cons_self
          have hfirst : id' ∈ (before ++ after).filterMap declaredType? :=
            List.mem_filterMap.mpr ⟨j, List.mem_append_left _ hj, hdeclares'.declaredType?_eq⟩
          have hsecond : id' ∈ [i].filterMap declaredType? :=
            List.mem_filterMap.mpr ⟨i, List.mem_singleton_self i, hdeclares.declaredType?_eq⟩
          exact (List.nodup_append.mp honce).2.2 id' hfirst id' hsecond rfl

/-! ## Shaders -/

/-- What a shader is. -/
theorem ofModule_eq_ok {device : Nat} {m : Module} {s : Shader} (h : ofModule device m = .ok s) :
    s.device = device ∧ s.module = m ∧ ∃ a, analysed m.instructions = .ok a ∧
      s.declarations = a.declarations ∧ a.entryBlock = some s.entryBlock := by
  obtain ⟨a, ha, h⟩ := bind_eq_ok.mp h
  rw [Analysis.finish] at h
  split at h
  · cases h
  · split at h
    · cases h
    case h_2 hentry =>
      cases h
      exact ⟨rfl, rfl, a, ha, rfl, hentry⟩

/-- The shader of words that are a module. -/
def IsAnalysed (s : Shader) : Prop :=
  ∃ words, Module.ofWords words = .ok s.module ∧ ofModule s.device s.module = .ok s

theorem isAnalysed_of_ofModule {words : List UInt32} {device : Nat} {m : Module} {s : Shader}
    (hm : Module.ofWords words = .ok m) (h : ofModule device m = .ok s) : s.IsAnalysed := by
  obtain ⟨rfl, rfl, -⟩ := ofModule_eq_ok h
  exact ⟨words, hm, h⟩

/-- The shader that words give, where neither parsing nor the analysis fails. -/
theorem isAnalysed_get {words : List UInt32} {device : Nat}
    (hm : (Module.ofWords words).toOption.isSome = true)
    (h : (ofModule device ((Module.ofWords words).toOption.get hm)).toOption.isSome = true) :
    ((ofModule device ((Module.ofWords words).toOption.get hm)).toOption.get h).IsAnalysed :=
  isAnalysed_of_ofModule (eq_ok_get hm) (eq_ok_get h)

/-- The sampling instructions of a shader, in the order of its module. -/
def samplingInstructions (s : Shader) : List Instruction := s.module.instructions.filter isSampling

namespace IsAnalysed

variable {s : Shader} {i : Instruction} {k : Nat} (h : s.IsAnalysed)
include h

theorem callSites_eq : s.declarations.callSites = s.samplingInstructions.map (·.offset) := by
  obtain ⟨-, -, hs⟩ := h
  obtain ⟨-, -, a, ha, hdeclarations, -⟩ := ofModule_eq_ok hs
  rw [hdeclarations]
  exact callSites_of_analysed ha

/-- **The call sites are numbered** in the order of the sampling instructions. -/
theorem callSite_of_getElem? (hk : s.samplingInstructions[k]? = some i) :
    s.declarations.callSite i.offset = .ok k := by
  have hsites := h.callSites_eq
  obtain ⟨words, hm, -⟩ := h
  have hnodup : s.declarations.callSites.Nodup := by
    rw [hsites]
    exact (nodup_offsets hm).sublist (List.filter_sublist.map _)
  have hat : s.declarations.callSites[k]? = some i.offset := by
    rw [hsites, List.getElem?_map, hk, Option.map_some]
  obtain ⟨hbound, hat⟩ := List.getElem?_eq_some_iff.mp hat
  have hfirst : s.declarations.callSites.idxOf? i.offset = some k :=
    List.idxOf?_eq_some_iff.mpr ⟨hbound, hat, fun j hj hsame =>
      List.pairwise_iff_getElem.mp hnodup j k _ hbound hj (hsame.trans hat.symm)⟩
  rw [Declarations.callSite, hfirst]

/-- The instruction at an offset that a call site has is the sampling instruction of its number. -/
theorem getElem?_of_callSites {offset : Nat} (hi : s.definition offset = .ok i)
    (hk : s.declarations.callSites[k]? = some offset) : s.samplingInstructions[k]? = some i := by
  have hsites := h.callSites_eq
  obtain ⟨words, hm, -⟩ := h
  rw [hsites, List.getElem?_map, Option.map_eq_some_iff] at hk
  obtain ⟨j, hj, rfl⟩ := hk
  have hmem := List.mem_of_mem_filter (List.mem_of_getElem? hj)
  rw [Shader.definition, fetch_of_mem hm hmem] at hi
  rw [hj, Except.ok.inj hi]

end IsAnalysed

end HostGpu.Shader
