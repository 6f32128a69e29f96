import HostGpu.Proofs.Shader.Analysis

/-!
# Where objects are declared

The analysis notes the object that an instruction declares, and lets it refer to descriptors if it
is a variable that does or is made from an object that does (`Analysis.objectStep`).  Where every
object is declared once, what is noted of it stays (`sameObject_of_analysed`), so that in the end
every instruction has declared what it declares (`object_of_analysed`), and an object that is made
from one declared before it refers to the same descriptors as that one (`slot_of_analysed`).
-/

namespace HostGpu.Shader

open Outcome Spirv

/-- Whether the operation declares an object. -/
def declaresObject : Opcode → Bool
  | .opConstant | .opConstantTrue | .opConstantFalse | .opConstantNull | .opConstantComposite
  | .opVariable | .opLoad | .opAccessChain | .opInBoundsAccessChain | .opSampledImage | .opImage
  | .opImageTexelPointer | .opUndef | .opVectorShuffle | .opCompositeConstruct
  | .opCompositeExtract | .opImageRead | .opImageQueryFormat | .opImageQueryOrder
  | .opImageQuerySizeLod | .opImageQuerySize | .opImageQueryLevels | .opImageQuerySamples
  | .opConvertFToU | .opConvertFToS | .opConvertSToF | .opConvertUToF | .opBitcast | .opIAdd
  | .opFAdd | .opISub | .opFSub | .opIMul | .opFMul | .opAtomicIAdd | .opPhi
  | .opFunctionParameter => true
  | op => op.isSampling

/-- Whether the object that the operation declares is made from the one of operand 3, and refers to
the same descriptors. -/
def forwards : Opcode → Bool
  | .opLoad | .opAccessChain | .opInBoundsAccessChain | .opSampledImage | .opImage => true
  | _ => false

theorem declaresObject_of_forwards {op : Opcode} (h : forwards op = true) :
    declaresObject op = true := by
  cases op <;> first | rfl | cases h

theorem declaresObject_of_isSampling {op : Opcode} (h : op.isSampling = true) :
    declaresObject op = true := by
  cases op <;> first | rfl | cases h

/-- The object that an instruction declares, if it declares one. -/
def declaredObject? (i : Instruction) : Option Nat :=
  if i.op?.any declaresObject then (i.words[2]?).map (·.toNat) else none

/-- The object that the declared one is made from. -/
def source? (i : Instruction) : Option Nat :=
  if i.op?.any forwards then (i.words[3]?).map (·.toNat) else none

theorem Instruction.id_eq_ok {i : Instruction} {index id : Nat} :
    i.id index = .ok id ↔ (i.words[index]?).map (·.toNat) = some id := by
  rw [Instruction.id, Instruction.word]
  cases i.words[index]? with
  | none => constructor <;> rintro ⟨⟩
  | some w => simp

theorem declaredObject?_eq {i : Instruction} {op : Opcode} {id : Nat} (hop : i.op? = some op)
    (hdeclares : declaresObject op = true) (hid : i.id 2 = .ok id) :
    declaredObject? i = some id := by
  rw [declaredObject?, hop, Option.any_some, if_pos hdeclares]
  exact Instruction.id_eq_ok.mp hid

theorem source?_eq {i : Instruction} {op : Opcode} {source : Nat} (hop : i.op? = some op)
    (hforwards : forwards op = true) (hsource : i.id 3 = .ok source) : source? i = some source := by
  rw [source?, hop, Option.any_some, if_pos hforwards]
  exact Instruction.id_eq_ok.mp hsource

/-! ## One instruction -/

namespace Declarations

variable {d d' : Declarations} {i : Instruction}

theorem object_eq_ok {id : Nat} {info : ObjectInfo} :
    d.object id = .ok info ↔ d.objects[id]? = some info := by
  rw [object]
  cases d.objects[id]? with
  | none => exact ⟨nofun, nofun⟩
  | some info' => simp

theorem slot_eq_ok {id : Nat} {slot : DescriptorSlot} :
    d.slot id = .ok slot ↔ d.slots[id]? = some slot := by
  rw [Declarations.slot]
  cases d.slots[id]? with
  | none => exact ⟨nofun, nofun⟩
  | some slot' => simp

/-- The kind of the object that an instruction declares, by what is known before. -/
inductive KindOf (d : Declarations) (i : Instruction) : Opcode → ObjectKind → Prop
  | «variable» (storage : StorageClass) : KindOf d i .opVariable (.variable storage)
  | literal : KindOf d i .opConstant (.constant (i.words.drop 3))
  | on : KindOf d i .opConstantTrue (.constant [0xFFFFFFFF])
  | off : KindOf d i .opConstantFalse (.constant [0])
  | null {type count : Nat} (htype : i.id 1 = .ok type)
      (hcount : d.componentCount type = .ok count) :
      KindOf d i .opConstantNull (.constant (List.replicate count 0))
  | composite {values : List UInt32} (hvalues : d.constants (i.words.drop 3) = .ok values) :
      KindOf d i .opConstantComposite (.constant values)
  /-- Any other instruction gives a result. -/
  | result {op : Opcode} {kind : ObjectKind} (hop : op ≠ .opVariable)
      (hkind : kind = .intermediate ∨ kind = .pointer) : KindOf d i op kind

/-- What is made from another object is a result. -/
theorem KindOf.of_forwards {op : Opcode} {kind : ObjectKind} (h : d.KindOf i op kind)
    (hforwards : forwards op = true) : kind = .intermediate ∨ kind = .pointer := by
  cases h with
  | result _ hkind => exact hkind
  | _ => cases hforwards

/-- An instruction declares an object. -/
structure DeclaresObject (d : Declarations) (i : Instruction) (id : Nat) (info : ObjectInfo) :
    Prop where
  kind : ∃ op, i.op? = some op ∧ declaresObject op = true ∧ KindOf d i op info.kind
  type : i.id 1 = .ok info.type
  id : i.id 2 = .ok id
  offset : info.offset = i.offset

theorem DeclaresObject.declaredObject?_eq {id : Nat} {info : ObjectInfo}
    (h : d.DeclaresObject i id info) : declaredObject? i = some id := by
  obtain ⟨op, hop, hdeclares, -⟩ := h.kind
  exact Shader.declaredObject?_eq hop hdeclares h.id

/-- Which descriptors are attached when an instruction declares an object. -/
inductive Attaches (d : Declarations) (i : Instruction) (id : Nat) (d' : Declarations) : Prop
  | nothing (hop : ∀ op, i.op? = some op → forwards op = false) (h : d'.slots = d.slots)
  | «variable» (hop : i.op? = some .opVariable) (slot : DescriptorSlot)
      (h : d'.slots = d.slots.insert id slot)
  | forwarded {op : Opcode} {source : Nat} (hop : i.op? = some op) (hforwards : forwards op = true)
      (hsource : i.id 3 = .ok source)
      (h : ∀ other : Nat, d'.slots[other]? =
        if id = other then (d.slots[source]?).or d.slots[other]? else d.slots[other]?)

/-- What an instruction adds to the objects. -/
inductive AddsObject (d : Declarations) (i : Instruction) (d' : Declarations) : Prop
  | nothing (hop : ∀ op, i.op? = some op → declaresObject op = false)
      (hobjects : d'.objects = d.objects) (hslots : d'.slots = d.slots)
  | object {id : Nat} {info : ObjectInfo} (hdeclares : d.DeclaresObject i id info)
      (hobjects : d'.objects = d.objects.insert id info) (hattaches : Attaches d i id d')

theorem addsObject_of_same {op : Opcode} (hop : i.op? = some op)
    (hplain : Shader.declaresObject op = false) (hobjects : d'.objects = d.objects)
    (hslots : d'.slots = d.slots) : AddsObject d i d' := by
  refine .nothing (fun op' hop' => ?_) hobjects hslots
  cases hop.symm.trans hop'
  exact hplain

theorem addsObject_of_declareType {op : Opcode} {count : Nat} {element : Option Nat}
    (hop : i.op? = some op) (hplain : Shader.declaresObject op = false)
    (h : d.declareType i op count element = .ok d') : AddsObject d i d' := by
  simp only [declareType, bind_eq_ok, pure_eq_ok] at h
  obtain ⟨_, -, rfl⟩ := h
  exact addsObject_of_same hop hplain rfl rfl

theorem declareObject_eq_ok {kind : ObjectKind} : d.declareObject i kind = .ok d' ↔
    ∃ type id, i.id 1 = .ok type ∧ i.id 2 = .ok id ∧
      d' = { d with objects := d.objects.insert id ⟨type, i.offset, kind⟩ } := by
  simp only [declareObject, bind_eq_ok, pure_eq_ok]
  constructor
  · rintro ⟨type, htype, id, hid, rfl⟩
    exact ⟨type, id, htype, hid, rfl⟩
  · rintro ⟨type, id, htype, hid, rfl⟩
    exact ⟨type, htype, id, hid, rfl⟩

theorem addsObject_of_declareObject {op : Opcode} {kind : ObjectKind} (hop : i.op? = some op)
    (hdeclares : Shader.declaresObject op = true) (hforwards : forwards op = false)
    (hkind : KindOf d i op kind) (h : d.declareObject i kind = .ok d') : AddsObject d i d' := by
  obtain ⟨type, id, htype, hid, rfl⟩ := declareObject_eq_ok.mp h
  refine .object ⟨⟨op, hop, hdeclares, hkind⟩, htype, hid, rfl⟩ rfl
    (.nothing (fun op' hop' => ?_) rfl)
  cases hop.symm.trans hop'
  exact hforwards

theorem addsObject_of_declareForwarded {op : Opcode} {kind : ObjectKind} (hop : i.op? = some op)
    (hforwards : forwards op = true) (hkind : KindOf d i op kind)
    (h : d.declareForwarded i kind = .ok d') : AddsObject d i d' := by
  simp only [declareForwarded, bind_eq_ok, pure_eq_ok] at h
  obtain ⟨d₁, hd₁, source, hsource, target, htarget, rfl⟩ := h
  obtain ⟨type, id, htype, hid, rfl⟩ := declareObject_eq_ok.mp hd₁
  obtain rfl := Except.ok.inj (hid.symm.trans htarget)
  have hdeclares : d.DeclaresObject i id ⟨type, i.offset, kind⟩ :=
    ⟨⟨op, hop, declaresObject_of_forwards hforwards, hkind⟩, htype, hid, rfl⟩
  refine .object hdeclares ?_ (.forwarded hop hforwards hsource fun other => ?_)
  all_goals
    rw [forward]
    dsimp only
  · split <;> rfl
  · split
    case h_1 slot hslot =>
      simp only [hslot, Std.TreeMap.getElem?_insert, Nat.compare_eq_eq, Option.some_or]
    case h_2 hslot => simp only [hslot, Option.none_or, ite_self]

theorem addsObject_of_decorate (hop : i.op? = some .opDecorate) (h : d.decorate i = .ok d') :
    AddsObject d i d' := by
  simp only [decorate, bind_eq_ok] at h
  obtain ⟨_, -, _, -, h⟩ := h
  split at h
  all_goals
    simp only [bind_eq_ok, pure_eq_ok] at h
    obtain ⟨_, -, rfl⟩ := h
    exact addsObject_of_same hop rfl rfl rfl

theorem addsObject_of_declareVariable (hop : i.op? = some .opVariable)
    (h : d.declareVariable i = .ok d') : AddsObject d i d' := by
  simp only [declareVariable, bind_eq_ok] at h
  obtain ⟨id, hid, _, -, storage, -, d₁, hd₁, h⟩ := h
  obtain ⟨type, id', htype, hid', rfl⟩ := declareObject_eq_ok.mp hd₁
  obtain rfl := Except.ok.inj (hid.symm.trans hid')
  have hdeclares : d.DeclaresObject i id ⟨type, i.offset, .variable storage⟩ :=
    ⟨⟨.opVariable, hop, rfl, .variable storage⟩, htype, hid, rfl⟩
  split at h
  case h_1 =>
    obtain rfl := pure_eq_ok.mp h
    exact .object hdeclares rfl (.variable hop _ rfl)
  case h_2 =>
    obtain rfl := pure_eq_ok.mp h
    refine .object hdeclares rfl (.nothing (fun op' hop' => ?_) rfl)
    cases hop.symm.trans hop'
    rfl

theorem addsObject_of_declare {op : Opcode} (hop : i.op? = some op) (hvariable : op ≠ .opVariable)
    (h : d.declare i op = .ok d') : AddsObject d i d' := by
  unfold declare at h
  split at h
  case h_1 => exact addsObject_of_decorate hop h
  case h_2 | h_3 | h_4 | h_5 | h_6 | h_7 | h_8 => exact addsObject_of_declareType hop rfl h
  case h_9 | h_13 | h_14 =>
    obtain ⟨_, -, h⟩ := bind_eq_ok.mp h
    exact addsObject_of_declareType hop rfl h
  case h_10 | h_11 | h_12 | h_15 =>
    simp only [bind_eq_ok] at h
    first
      | obtain ⟨_, -, _, -, _, -, _, -, _, -, h⟩ := h
        exact addsObject_of_declareType hop rfl h
      | obtain ⟨_, -, _, -, _, -, _, -, h⟩ := h
        exact addsObject_of_declareType hop rfl h
      | obtain ⟨_, -, _, -, _, -, h⟩ := h
        exact addsObject_of_declareType hop rfl h
  case h_16 =>
    split at h
    · cases h
    · exact addsObject_of_declareObject hop rfl rfl .literal h
  case h_17 => exact addsObject_of_declareObject hop rfl rfl .on h
  case h_18 => exact addsObject_of_declareObject hop rfl rfl .off h
  case h_19 =>
    simp only [bind_eq_ok] at h
    obtain ⟨type, htype, count, hcount, h⟩ := h
    exact addsObject_of_declareObject hop rfl rfl (.null htype hcount) h
  case h_20 =>
    obtain ⟨values, hvalues, h⟩ := bind_eq_ok.mp h
    exact addsObject_of_declareObject hop rfl rfl (.composite hvalues) h
  case h_21 =>
    simp only [bind_eq_ok] at h
    obtain ⟨_, -, type, -, h⟩ := h
    refine addsObject_of_declareForwarded hop rfl (.result (by decide) ?_) h
    split
    · exact .inr rfl
    · exact .inl rfl
  case h_22 | h_23 | h_24 | h_25 =>
    exact addsObject_of_declareForwarded hop rfl (.result (by decide) (.inr rfl)) h
  case h_26 =>
    exact addsObject_of_declareObject hop rfl rfl (.result (by decide) (.inr rfl)) h
  case h_52 =>
    have hother : Shader.declaresObject op = op.isSampling ∧ forwards op = false := by
      cases op <;> first | exact ⟨rfl, rfl⟩ | contradiction
    split at h
    case isTrue hsampling =>
      obtain ⟨type, id, htype, hid, rfl⟩ := declareObject_eq_ok.mp h
      refine .object ⟨⟨op, hop, hother.1.trans hsampling, .result hvariable (.inl rfl)⟩, htype, hid,
        rfl⟩ rfl (.nothing (fun op' hop' => ?_) rfl)
      cases hop.symm.trans hop'
      exact hother.2
    case isFalse hsampling =>
      obtain rfl := pure_eq_ok.mp h
      exact addsObject_of_same hop (hother.1.trans (Bool.eq_false_of_not_eq_true hsampling)) rfl rfl
  all_goals exact addsObject_of_declareObject hop rfl rfl (.result (by decide) (.inl rfl)) h

end Declarations

/-- **What one step of the analysis does to objects.** -/
theorem Analysis.objectStep {a a' : Analysis} {i : Instruction} (h : a.step i = .ok a') :
    a.declarations.AddsObject i a'.declarations := by
  unfold step at h
  split at h
  case h_1 hop =>
    obtain rfl := pure_eq_ok.mp h
    refine .nothing (fun op hop' => ?_) rfl rfl
    cases hop.symm.trans hop'
  case h_2 hop =>
    split at h
    · obtain rfl := pure_eq_ok.mp h
      exact Declarations.addsObject_of_same hop rfl rfl rfl
    · simp only [bind_eq_ok, pure_eq_ok] at h
      obtain ⟨_, -, _, -, rfl⟩ := h
      exact Declarations.addsObject_of_same hop rfl rfl rfl
  case h_3 hop =>
    simp only [bind_eq_ok, pure_eq_ok] at h
    obtain ⟨_, -, rfl⟩ := h
    exact Declarations.addsObject_of_same hop rfl rfl rfl
  case h_4 hop =>
    obtain rfl := pure_eq_ok.mp h
    exact Declarations.addsObject_of_same hop rfl rfl rfl
  case h_5 hop =>
    simp only [Analysis.label, bind_eq_ok, pure_eq_ok] at h
    obtain ⟨_, -, rfl⟩ := h
    exact Declarations.addsObject_of_same hop rfl rfl rfl
  case h_6 hop =>
    simp only [Analysis.declareVariable, bind_eq_ok, pure_eq_ok] at h
    obtain ⟨d, hd, _, -, rfl⟩ := h
    cases Declarations.addsObject_of_declareVariable hop hd with
    | nothing hop' hobjects hslots => exact .nothing hop' hobjects hslots
    | object hdeclares hobjects hattaches =>
      refine .object hdeclares hobjects ?_
      cases hattaches with
      | nothing hop' hslots => exact .nothing hop' hslots
      | «variable» hop' slot hslots => exact .variable hop' slot hslots
      | forwarded hop' hforwards hsource hslots => exact .forwarded hop' hforwards hsource hslots
  case h_7 op _ _ _ _ hvariable hop =>
    simp only [bind_eq_ok, pure_eq_ok] at h
    obtain ⟨d, hd, rfl⟩ := h
    exact Declarations.addsObject_of_declare hop (fun heq => hvariable (heq ▸ rfl)) hd

/-! ## Instructions one after the other -/

/-- The objects that instructions declare, in order. -/
def declaredObjects (list : List Instruction) : List Nat := list.filterMap declaredObject?

/-- Instructions declare no object twice. -/
def ObjectsOnce (list : List Instruction) : Prop := (declaredObjects list).Nodup

instance (list : List Instruction) : Decidable (ObjectsOnce list) :=
  inferInstanceAs (Decidable (List.Nodup _))

/-- Objects are made from objects that are declared before them; `known` are those declared so
far. -/
def SourcesFirst (known : List Nat) : List Instruction → Prop
  | [] => True
  | i :: rest => (∀ source ∈ source? i, source ∈ known) ∧
      SourcesFirst (known ++ (declaredObject? i).toList) rest

instance decidableSourcesFirst (known : List Nat) (list : List Instruction) :
    Decidable (SourcesFirst known list) :=
  match list with
  | [] => isTrue trivial
  | i :: rest =>
    have := decidableSourcesFirst (known ++ (declaredObject? i).toList) rest
    inferInstanceAs (Decidable ((∀ source ∈ source? i, source ∈ known) ∧ _))

variable {list before after : List Instruction} {i : Instruction} {a a₀ : Analysis} {id : Nat}

theorem declaredObjects_append (before after : List Instruction) :
    declaredObjects (before ++ after) = declaredObjects before ++ declaredObjects after :=
  List.filterMap_append

theorem mem_declaredObjects_singleton : id ∈ declaredObjects [i] ↔ id ∈ declaredObject? i := by
  simp [declaredObjects]

theorem SourcesFirst.at {known : List Nat} (h : SourcesFirst known (before ++ i :: after)) :
    ∀ source ∈ source? i, source ∈ known ++ declaredObjects before := by
  induction before generalizing known with
  | nil =>
    intro source hsource
    exact List.mem_append_left _ (h.1 source hsource)
  | cons j rest ih =>
    intro source hsource
    have hmem := ih h.2 source hsource
    rw [declaredObjects, List.filterMap_cons]
    cases hj : declaredObject? j <;> rw [hj] at hmem <;>
      simpa [declaredObjects, or_assoc] using hmem

/-- What is known of an object is the same in other declarations. -/
structure SameObject (d d' : Declarations) (id : Nat) : Prop where
  object : d'.objects[id]? = d.objects[id]?
  slot : d'.slots[id]? = d.slots[id]?

/-- An instruction changes what is known of the object that it declares, and of no other. -/
theorem Declarations.AddsObject.same {d d' : Declarations} (h : d.AddsObject i d')
    (hid : id ∉ declaredObject? i) : SameObject d d' id := by
  cases h with
  | nothing _ hobjects hslots => exact ⟨by rw [hobjects], by rw [hslots]⟩
  | @object id' info hdeclares hobjects hattaches =>
    have hne : ¬ id' = id := by
      rintro rfl
      exact hid hdeclares.declaredObject?_eq
    refine ⟨by rw [hobjects, Std.TreeMap.getElem?_insert, if_neg (by simpa using hne)], ?_⟩
    cases hattaches with
    | nothing _ hslots => rw [hslots]
    | «variable» _ slot hslots =>
      rw [hslots, Std.TreeMap.getElem?_insert, if_neg (by simpa using hne)]
    | forwarded _ _ _ hslots => rw [hslots, if_neg hne]

/-- Nothing is known of an object before it is declared. -/
theorem unknown_of_analysed (h : analysed list = .ok a) (hid : id ∉ declaredObjects list) :
    a.declarations.objects[id]? = none ∧ a.declarations.slots[id]? = none := by
  induction list using List.reverseRecOn generalizing a with
  | nil =>
    cases h
    exact ⟨Std.TreeMap.getElem?_emptyc, Std.TreeMap.getElem?_emptyc⟩
  | append_singleton list i ih =>
    obtain ⟨a₀, ha₀, hstep⟩ := analysed_append_singleton.mp h
    rw [declaredObjects_append, List.mem_append, not_or] at hid
    obtain ⟨hobject, hslot⟩ := ih ha₀ hid.1
    have hsame := (Analysis.objectStep hstep).same (mt mem_declaredObjects_singleton.mpr hid.2)
    exact ⟨hsame.object.trans hobject, hsame.slot.trans hslot⟩

/-- **What is known of an object stays** while others are declared. -/
theorem sameObject_of_analysed (ha₀ : analysed before = .ok a₀)
    (h : analysed (before ++ after) = .ok a) (hid : id ∉ declaredObjects after) :
    SameObject a₀.declarations a.declarations id := by
  induction after using List.reverseRecOn generalizing a with
  | nil =>
    rw [List.append_nil] at h
    cases ha₀.symm.trans h
    exact ⟨rfl, rfl⟩
  | append_singleton after i ih =>
    rw [← List.append_assoc] at h
    obtain ⟨a₁, ha₁, hstep⟩ := analysed_append_singleton.mp h
    rw [declaredObjects_append, List.mem_append, not_or] at hid
    have hearlier := ih ha₁ hid.1
    have hsame := (Analysis.objectStep hstep).same (mt mem_declaredObjects_singleton.mpr hid.2)
    exact ⟨hsame.object.trans hearlier.object, hsame.slot.trans hearlier.slot⟩

/-- What was known before an instruction, and right after it. -/
theorem exists_step_of_analysed (h : analysed (before ++ i :: after) = .ok a) :
    ∃ a₀ a₁, analysed before = .ok a₀ ∧ a₀.declarations.AddsObject i a₁.declarations ∧
      analysed (before ++ [i]) = .ok a₁ := by
  rw [analysed, List.foldlM_append, bind_eq_ok] at h
  obtain ⟨a₀, ha₀, h⟩ := h
  rw [List.foldlM_cons, bind_eq_ok] at h
  obtain ⟨a₁, ha₁, -⟩ := h
  exact ⟨a₀, a₁, ha₀, Analysis.objectStep ha₁, analysed_append_singleton.mpr ⟨a₀, ha₀, ha₁⟩⟩

theorem mem_declaredObjects (hi : i ∈ list) (hid : declaredObject? i = some id) :
    id ∈ declaredObjects list := List.mem_filterMap.mpr ⟨i, hi, hid⟩

/-- What is declared first is not declared again. -/
theorem ObjectsOnce.notMem (honce : ObjectsOnce (before ++ after))
    (hid : id ∈ declaredObjects before) : id ∉ declaredObjects after := by
  rw [ObjectsOnce, declaredObjects_append] at honce
  exact fun hafter => (List.nodup_append.mp honce).2.2 id hid id hafter rfl

section

variable (honce : ObjectsOnce (before ++ i :: after)) (h : analysed (before ++ i :: after) = .ok a)
include honce h

/-- What an instruction declares stays. -/
theorem sameObject_of_declaredObject (hid : declaredObject? i = some id) {a₁ : Analysis}
    (ha₁ : analysed (before ++ [i]) = .ok a₁) :
    SameObject a₁.declarations a.declarations id := by
  rw [List.append_cons] at honce h
  exact sameObject_of_analysed ha₁ h
    (honce.notMem (mem_declaredObjects (List.mem_append_right _ (List.mem_singleton_self i)) hid))

/-- **What an instruction declares is known in the end.** -/
theorem object_of_analysed {op : Opcode} (hop : i.op? = some op)
    (hdeclares : declaresObject op = true) :
    ∃ a₀ id info, analysed before = .ok a₀ ∧ a₀.declarations.DeclaresObject i id info ∧
      a.declarations.objects[id]? = some info := by
  obtain ⟨a₀, a₁, ha₀, hadds, ha₁⟩ := exists_step_of_analysed h
  cases hadds with
  | nothing hop' => exact absurd hdeclares (Bool.eq_false_iff.mp (hop' op hop))
  | @object id info hinfo hobjects =>
    have hstays := sameObject_of_declaredObject honce h hinfo.declaredObject?_eq ha₁
    refine ⟨a₀, id, info, ha₀, hinfo, ?_⟩
    rw [hstays.object, hobjects, Std.TreeMap.getElem?_insert_self]

/-- **An object that is made from another one,** declared before it, refers to the same
descriptors. -/
theorem slot_of_analysed {op : Opcode} {source : Nat} (hop : i.op? = some op)
    (hforwards : forwards op = true) (hid : i.id 2 = .ok id) (hsource : i.id 3 = .ok source)
    (hfirst : source ∈ declaredObjects before) :
    a.declarations.slots[id]? = a.declarations.slots[source]? := by
  have hdeclares := declaresObject_of_forwards hforwards
  have hdeclared := declaredObject?_eq hop hdeclares hid
  obtain ⟨a₀, a₁, ha₀, hadds, ha₁⟩ := exists_step_of_analysed h
  have hnew : id ∉ declaredObjects before := fun hbefore =>
    honce.notMem hbefore (mem_declaredObjects List.mem_cons_self hdeclared)
  rw [(sameObject_of_declaredObject honce h hdeclared ha₁).slot,
    (sameObject_of_analysed ha₀ h (honce.notMem hfirst)).slot]
  cases hadds with
  | nothing hop' => exact absurd hdeclares (Bool.eq_false_iff.mp (hop' op hop))
  | object hinfo _ hattaches =>
    obtain rfl := Option.some.inj (hinfo.declaredObject?_eq.symm.trans hdeclared)
    cases hattaches with
    | nothing hop' => exact absurd hforwards (Bool.eq_false_iff.mp (hop' op hop))
    | «variable» hop' =>
      cases hop.symm.trans hop'
      cases hforwards
    | forwarded _ _ hsource' hslots =>
      obtain rfl := Except.ok.inj (hsource.symm.trans hsource')
      rw [hslots, if_pos rfl, (unknown_of_analysed ha₀ hnew).2, Option.or_none]

end

/-- **An object that is known** was declared by an instruction. -/
theorem exists_declaresObject (h : analysed list = .ok a) {info : ObjectInfo}
    (hinfo : a.declarations.objects[id]? = some info) :
    ∃ i ∈ list, ∃ d : Declarations, d.DeclaresObject i id info := by
  induction list using List.reverseRecOn generalizing a with
  | nil =>
    cases h
    simp at hinfo
  | append_singleton list i ih =>
    obtain ⟨a₀, ha₀, hstep⟩ := analysed_append_singleton.mp h
    have hearlier (hinfo : a₀.declarations.objects[id]? = some info) :
        ∃ j ∈ list ++ [i], ∃ d : Declarations, d.DeclaresObject j id info := by
      obtain ⟨j, hj, hdeclares⟩ := ih ha₀ hinfo
      exact ⟨j, List.mem_append_left _ hj, hdeclares⟩
    cases Analysis.objectStep hstep with
    | nothing _ hobjects => exact hearlier (hobjects ▸ hinfo)
    | @object id' info' hdeclares hobjects =>
      rw [hobjects, Std.TreeMap.getElem?_insert] at hinfo
      split at hinfo
      case isTrue heq =>
        obtain rfl := Std.LawfulEqOrd.eq_of_compare heq
        cases hinfo
        exact ⟨i, List.mem_append_right _ (List.mem_singleton_self i), _, hdeclares⟩
      case isFalse => exact hearlier hinfo

/-! ## Shaders -/

namespace IsAnalysed

variable {s : Shader} (hs : s.IsAnalysed)
include hs

/-- An object is defined by the instruction that declares it. -/
theorem exists_definition {info : ObjectInfo} (hinfo : s.declarations.objects[id]? = some info) :
    ∃ i ∈ s.module.instructions, s.definition info.offset = .ok i ∧
      ∃ d : Declarations, d.DeclaresObject i id info := by
  obtain ⟨words, hm, hmodule⟩ := hs
  obtain ⟨-, -, a, ha, hdeclarations, -⟩ := ofModule_eq_ok hmodule
  rw [hdeclarations] at hinfo
  obtain ⟨i, hi, d, hdeclares⟩ := exists_declaresObject ha hinfo
  refine ⟨i, hi, ?_, d, hdeclares⟩
  rw [hdeclares.offset]
  exact fetch_of_mem hm hi

variable (honce : ObjectsOnce s.module.instructions) (hi : i ∈ s.module.instructions)
include honce hi

/-- What an instruction declares. -/
theorem exists_object {op : Opcode} (hop : i.op? = some op) (hdeclares : declaresObject op = true)
    (hid : i.id 2 = .ok id) :
    ∃ info, s.declarations.objects[id]? = some info ∧ i.id 1 = .ok info.type ∧
      ∃ d : Declarations, d.KindOf i op info.kind := by
  obtain ⟨words, hm, hmodule⟩ := hs
  obtain ⟨-, -, a, ha, hdeclarations, -⟩ := ofModule_eq_ok hmodule
  obtain ⟨before, after, hlist⟩ := List.append_of_mem hi
  rw [hlist] at honce ha
  obtain ⟨a₀, id', info, -, hinfo, hknown⟩ := object_of_analysed honce ha hop hdeclares
  obtain rfl := Except.ok.inj (hid.symm.trans hinfo.id)
  obtain ⟨op', hop', -, hkind⟩ := hinfo.kind
  cases hop.symm.trans hop'
  exact ⟨info, hdeclarations ▸ hknown, hinfo.type, _, hkind⟩

/-- What an object is made from refers to the same descriptors. -/
theorem slot_eq (hfirst : SourcesFirst [] s.module.instructions) {op : Opcode} {source : Nat}
    (hop : i.op? = some op) (hforwards : forwards op = true) (hid : i.id 2 = .ok id)
    (hsource : i.id 3 = .ok source) :
    s.declarations.slots[id]? = s.declarations.slots[source]? := by
  obtain ⟨words, hm, hmodule⟩ := hs
  obtain ⟨-, -, a, ha, hdeclarations, -⟩ := ofModule_eq_ok hmodule
  obtain ⟨before, after, hlist⟩ := List.append_of_mem hi
  rw [hlist] at honce ha hfirst
  rw [hdeclarations]
  refine slot_of_analysed honce ha hop hforwards hid hsource ?_
  exact hfirst.at source (source?_eq hop hforwards hsource)

end IsAnalysed

end HostGpu.Shader
