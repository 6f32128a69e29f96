import HostGpu.Proofs.Execution.Composite
import HostGpu.Proofs.Execution.DescriptorPointers
import HostGpu.Proofs.Execution.IndexFaults

/-!
# Rows that instructions compute

Instructions find the number of components of their results in many ways: by the type of the result,
by their operands, by the number of their own words or by the type of an image.  In a typed module
these are all the number of components of the type that the instruction names (`FitsResult`), as
long as the rows of the state have the components of their types (`Sized`).  Every component that
they ask for is there, and it is found unless it lies 2³¹ components into a composite
(`TakesFarPart`).
-/

namespace HostGpu.Execution

open Outcome Spirv Shader

variable {e : Environment} {i : Instruction} {s : State} {id : Nat} {d : Declarations}

/-! ## Rows -/

/-- A value has the components of the type of its identifier. A pointer to texels has the type of a
pointer to something of one component. -/
def HasCount (d : Declarations) (id : Nat) : Value → Prop
  | .components row => d.objectCount id = .ok row.length
  | .pointer (.texel _) => ∃ type, d.objectType id = .ok type ∧ type.op = .opTypePointer ∧
      d.componentCount type.elementId = .ok 1
  | .pointer _ => True

theorem hasCount_of_ne {target : Target} (h : ∀ p, target ≠ .texel p) :
    HasCount d id (.pointer target) := by
  cases target with
  | texel p => exact absurd rfl (h p)
  | _ => trivial

/-- All rows of a state have as many components as their types say. -/
structure Sized (d : Declarations) (s : State) : Prop where
  values : ∀ (id : Nat) (v : Value), s.values[id]? = some v → HasCount d id v
  storages : ∀ (id : Nat) (row : List WordLanes), s.storages[id]? = some row →
    d.pointeeCount id = .ok row.length

theorem sized_start (d : Declarations) (machine : Machine) : Sized d { machine } :=
  ⟨fun _ _ h => by simp at h, fun _ _ h => by simp at h⟩

namespace Sized

theorem withMachine (h : Sized d s) (machine : Machine) : Sized d { s with machine } :=
  ⟨h.values, h.storages⟩

theorem withValue {v : Value} (h : Sized d s) (hv : HasCount d id v) :
    Sized d (s.withValue id v) := by
  refine ⟨fun id' v' hv' => ?_, h.storages⟩
  rw [State.getElem?_withValue] at hv'
  split at hv'
  case isTrue heq => exact heq ▸ Option.some.inj hv' ▸ hv
  case isFalse => exact h.values id' v' hv'

theorem setStorage {row : List WordLanes} (h : Sized d s)
    (hrow : d.pointeeCount id = .ok row.length) : Sized d (s.setStorage id row) := by
  refine ⟨h.values, fun id' row' hrow' => ?_⟩
  rw [State.setStorage, Std.TreeMap.getElem?_insert] at hrow'
  split at hrow'
  case isTrue heq =>
    obtain rfl := Std.LawfulEqOrd.eq_of_compare heq
    exact Option.some.inj hrow' ▸ hrow
  case isFalse => exact h.storages id' row' hrow'

/-- A store does not change how many scalars a variable has. -/
theorem store {row : List WordLanes} {offsets mask : WordLanes} {components : List WordLanes}
    (h : Sized d s) (hrow : s.storage id = .ok row) :
    Sized d (s.setStorage id (Storage.store row offsets mask components)) := by
  refine h.setStorage ?_
  rw [Storage.store, List.length_mapIdx]
  exact h.storages id row (State.storage_eq_ok.mp hrow)

end Sized

/-- A row has the components of the type that an instruction names. -/
abbrev FitsResult (e : Environment) (i : Instruction) (row : List WordLanes) : Prop :=
  e.declarations.resultCount i = .ok row.length

theorem fitsResult {row : List WordLanes} {n : Nat} (h : e.declarations.resultCount i = .ok n)
    (hrow : row.length = n) : FitsResult e i row := by
  rw [FitsResult, h, hrow]

/-- The part that an instruction extracts, by its words, lies in the row of the composite. -/
def ExtractsWithin (e : Environment) (s : State) (i : Instruction) : Prop :=
  ∀ S composite info o, i.id 1 = .ok S → i.id 3 = .ok composite →
    e.declarations.object composite = .ok info → e.operand s composite = .ok o →
      ∃ start count, e.shader.Occupies info.type (i.words.drop 4) S start count ∧
        start + count ≤ o.components.length

/-- An instruction extracts a part that starts at component 2³¹ of its composite or further on. -/
def TakesFarPart (e : Environment) (i : Instruction) : Prop :=
  i.op? = some .opCompositeExtract ∧ ∃ S composite info start count,
    i.id 1 = .ok S ∧ i.id 3 = .ok composite ∧ e.declarations.object composite = .ok info ∧
      e.shader.Occupies info.type (i.words.drop 4) S start count ∧ 2 ^ 31 ≤ start

/-! ## Lengths -/

/-- The first component of an operand that has one. -/
theorem noIndexFault_first {o : Operand} (h : 0 < o.components.length) :
    NoIndexFault (o.component 0) := by
  rw [Operand.component, List.getElem?_eq_getElem h]
  trivial

theorem inRange_undefined (i : Instruction) :
    InRange (FitsResult e i) (e.undefined i) := by
  refine (noIndexFault_id i 1).bind fun type htype _ => ?_
  refine (noIndexFault_componentCount _ type).bind fun count hcount _ => ?_
  exact fitsResult (bind_eq_ok.mpr ⟨type, htype, hcount⟩) List.length_replicate

/-- Components are joined one by one. -/
theorem inRange_zipComponents (f : WordLanes → WordLanes → WordLanes) {as bs : List WordLanes}
    (h : as.length ≤ bs.length) :
    InRange (fun row => row.length = as.length) (zipComponents f as bs) := by
  induction as generalizing bs with
  | nil => exact rfl
  | cons a as ih =>
    cases bs with
    | nil => cases h
    | cons b bs =>
      exact (ih (Nat.le_of_succ_le_succ h)).bind fun row _ hrow => congrArg (· + 1) hrow

/-- The part of a row, unless it lies outside. -/
theorem results_slice {row : List WordLanes} {start : Int} {count : Nat} {F : Fault → Prop}
    (h : (start < 0 ∨ row.length < start.toNat + count) → F .indexOutOfRange) :
    Results (fun part => part.length = count) F (Environment.slice row start count) := by
  unfold Environment.slice
  split
  case isTrue hout => exact h hout
  case isFalse hin =>
    show ((row.drop start.toNat).take count).length = count
    rw [List.length_take, List.length_drop]
    omega

/-- A part that starts at component 2³¹ or further on is looked for before the row. -/
theorem slice_far {row : List WordLanes} {start count : Nat} (hfar : 2 ^ 31 ≤ start)
    (hword : start < 2 ^ 32) :
    Environment.slice row (Word.signed (UInt32.ofNat start)) count = .error .indexOutOfRange := by
  refine if_pos (.inl ?_)
  rw [Word.signed_eq, Word.ofNat_toNat_of_lt hword, if_neg (by omega)]
  omega

theorem axes_le_three (dimension : Dimension) : dimension.axes ≤ 3 := by
  cases dimension <;> decide

theorem length_channels {texels : Lanes Texel} {count : Nat} (h : count ≤ 4) :
    ((Texel.channels texels).take count).length = count := by
  rw [List.length_take, Texel.channels]
  exact Nat.min_eq_left h

/-! ## Operands -/

section

variable (he : e.shader.IsAnalysed) (htyped : e.shader.IsTyped) (hs : Sized e.declarations s)
include he htyped hs

/-- **An operand has the components of its type.** -/
theorem inRange_operand (id : Nat) :
    InRange (fun o => e.declarations.objectCount id = .ok o.components.length)
      (e.operand s id) := by
  refine (noIndexFault_object _ id).bind fun info hinfo _ => ?_
  split
  case h_1 values hvalues =>
    have hcount := constant_count he htyped
      (constant_eq_ok.mpr ⟨info, Declarations.object_eq_ok.mp hinfo, hvalues⟩)
    rwa [← List.length_map Lanes.splat] at hcount
  case h_2 =>
    exact (noIndexFault_components s id).bind fun row hrow _ =>
      hs.values id (.components row) (State.components_eq_ok.mp hrow)

/-- An operand of a number of components that is known. -/
theorem inRange_operand_of_count {n : Nat} (h : e.declarations.objectCount id = .ok n) :
    InRange (fun o => o.components.length = n) (e.operand s id) :=
  (inRange_operand he htyped hs id).mono fun _ ho => Except.ok.inj (ho.symm.trans h)

/-- A number is taken from an operand. -/
theorem noIndexFault_number (h : e.declarations.objectCount id = .ok 1) :
    NoIndexFault (do (← e.operand s id).component 0) :=
  (inRange_operand_of_count he htyped hs h).bind fun _ _ ho =>
    noIndexFault_first (ho ▸ Nat.one_pos)

/-- An index of an access chain is a number. -/
theorem noIndexFault_chainIndex (h : e.declarations.objectCount id = .ok 1) :
    NoIndexFault (e.chainIndex s id) := by
  refine (noIndexFault_object _ id).bind fun info hinfo _ => ?_
  split
  case h_1 => trivial
  case h_2 hvalues =>
    have hcount := constant_count he htyped
      (constant_eq_ok.mpr ⟨info, Declarations.object_eq_ok.mp hinfo, hvalues⟩)
    cases h.symm.trans hcount
  case h_3 =>
    refine (noIndexFault_components s id).bind fun row hrow _ => ?_
    cases row with
    | cons _ _ => trivial
    | nil =>
      have hcount := hs.values id (.components []) (State.components_eq_ok.mp hrow)
      cases h.symm.trans hcount

/-- An access chain into descriptors has one index. -/
theorem noIndexFault_indexedDescriptor {base : Nat} {address : DescriptorAddress}
    (h : ∀ index ∈ i.words.drop 4, e.declarations.objectCount index.toNat = .ok 1) :
    NoIndexFault (indexedDescriptor e s i base address) := by
  unfold indexedDescriptor
  split
  · rfl
  refine (noIndexFault_slot _ base).bind fun slot _ _ => ?_
  refine (noIndexFault_setLayout _ _).bind fun l _ _ => ?_
  refine (noIndexFault_binding l _).bind fun b _ _ => ?_
  refine (noIndexFault_id i 4).bind fun id hid _ => ?_
  obtain ⟨index, hindex, rfl⟩ := Option.map_eq_some_iff.mp (Instruction.id_eq_ok.mp hid)
  have hmem : index ∈ i.words.drop 4 :=
    List.mem_of_getElem? (i := 0) (by rw [List.getElem?_drop, hindex])
  have huniform : NoIndexFault (e.uniformIndex s index.toNat) := by
    refine (noIndexFault_chainIndex he htyped hs (h index hmem)).bind fun index _ _ => ?_
    cases index <;> trivial
  refine huniform.bind fun _ _ _ => ?_
  split <;> trivial

/-! ## Arithmetic and composites -/

/-- Operands in a row. -/
theorem inRange_concat (ids : List UInt32) :
    InRange (fun row => e.declarations.totalCount ids = .ok row.length) (e.concat s ids) := by
  induction ids with
  | nil => exact rfl
  | cons id rest ih =>
    refine (inRange_operand he htyped hs id.toNat).bind fun o _ ho => ?_
    refine ih.bind fun others _ hothers => ?_
    show e.declarations.totalCount (id :: rest) = .ok (o.components ++ others).length
    rw [Declarations.totalCount, ho, ok_bind, hothers, List.length_append]
    rfl

/-- An operation of two operands that have the components of the result. -/
theorem inRange_binary (f : WordLanes → WordLanes → WordLanes)
    (h₁ : e.declarations.operandCount i 3 = e.declarations.resultCount i)
    (h₂ : e.declarations.operandCount i 4 = e.declarations.resultCount i) :
    InRange (FitsResult e i) (e.binary s i f) := by
  refine (noIndexFault_id i 3).bind fun a ha _ => ?_
  refine (inRange_operand he htyped hs a).bind fun lhs _ hlhs => ?_
  refine (noIndexFault_id i 4).bind fun b hb _ => ?_
  refine (inRange_operand he htyped hs b).bind fun rhs _ hrhs => ?_
  rw [operandCount_eq ha, hlhs] at h₁
  rw [operandCount_eq hb, hrhs, ← h₁, Except.ok.injEq] at h₂
  exact (inRange_zipComponents f h₂.ge).mono fun _ hrow => fitsResult h₁.symm hrow

/-- An operation of one operand that has the components of the result. -/
theorem inRange_unary (f : WordLanes → WordLanes)
    (h : e.declarations.operandCount i 3 = e.declarations.resultCount i) :
    InRange (FitsResult e i) (e.unary s i f) := by
  refine (noIndexFault_id i 3).bind fun a ha _ => ?_
  refine (inRange_operand he htyped hs a).bind fun o _ ho => ?_
  rw [operandCount_eq ha, ho] at h
  exact fitsResult h.symm (List.length_map f)

/-- Selectors that are in range or say that anything will do. -/
theorem inRange_shuffle (h : e.shader.Typed i .opVectorShuffle) :
    InRange (FitsResult e i) (e.shuffle s i) := by
  refine (noIndexFault_id i 3).bind fun a ha _ => ?_
  refine (inRange_operand he htyped hs a).bind fun first _ hfirst => ?_
  refine (noIndexFault_id i 4).bind fun b hb _ => ?_
  refine (inRange_operand he htyped hs b).bind fun second _ hsecond => ?_
  obtain ⟨hresult, hselectors⟩ := h
  have hselectors := hselectors (first.components.length + second.components.length) (by
    rw [operandCount_eq ha, operandCount_eq hb]
    exact bind_eq_ok.mpr ⟨_, hfirst, bind_eq_ok.mpr ⟨_, hsecond, rfl⟩⟩)
  refine (inRange_mapM fun selector hselector => ?_).mono fun _ hrow => fitsResult hresult hrow
  have hselector := hselectors selector hselector
  rw [← List.length_append] at hselector
  unfold Environment.selectComponent
  split
  · trivial
  case isFalse hne =>
    rw [List.getElem?_eq_getElem (hselector.resolve_left hne)]
    trivial

/-! ## Images -/

/-- The size of an image. -/
theorem inRange_querySize {lod : Option Nat} (h : Yields (fun image : ImageType =>
      e.declarations.resultCount i = .ok (image.dimension.axes + if image.arrayed then 1 else 0))
      (do e.shader.objectImageType (← i.id 3)))
    (hlod : ∀ id ∈ lod, e.declarations.objectCount id = .ok 1) :
    InRange (FitsResult e i) (e.querySize s i lod) := by
  refine (noIndexFault_id i 1).bind fun type htype _ => ?_
  refine (noIndexFault_componentCount _ type).bind fun count hcount _ => ?_
  refine (noIndexFault_id i 3).bind fun image himage _ => ?_
  refine (noIndexFault_objectImageType he htyped image).bind fun imageType himageType _ => ?_
  have hresult : e.declarations.resultCount i = .ok count := bind_eq_ok.mpr ⟨type, htype, hcount⟩
  have hsum := h imageType (bind_eq_ok.mpr ⟨image, himage, himageType⟩)
  rw [hresult, Except.ok.injEq] at hsum
  have hlayers : (if imageType.arrayed then 1 else 0) ≤ 1 := by split <;> decide
  generalize (if imageType.arrayed then 1 else 0) = layers at hsum hlayers ⊢
  dsimp only
  rw [if_neg (by omega)]
  refine (noIndexFault_imageRecord e s image).bind fun record _ _ => ?_
  have hnumbers : NoIndexFault (lod.mapM fun id => do (← e.operand s id).component 0) := by
    cases lod with
    | none => trivial
    | some id => exact (noIndexFault_number he htyped hs (hlod id rfl)).bind fun _ _ _ => trivial
  refine hnumbers.bind fun lod _ _ => ?_
  have hextent := record.length_extent
  have haxes := axes_le_three imageType.dimension
  rw [if_neg (by omega)]
  refine fitsResult hresult ?_
  simp only [List.length_append, List.length_map, List.length_take, List.length_drop, hextent]
  omega

theorem noIndexFault_samples {sample : Option Nat}
    (h : ∀ id ∈ sample, e.declarations.objectCount id = .ok 1) :
    NoIndexFault (e.samples s sample) := by
  cases sample with
  | none => trivial
  | some id =>
    refine (inRange_operand_of_count he htyped hs (h id rfl)).bind fun o _ ho => ?_
    split
    · trivial
    · exact (noIndexFault_first (ho ▸ Nat.one_pos)).bind fun _ _ _ => trivial

theorem noIndexFault_texelPointer {r : TexelRequest}
    (hcoordinate : 0 < r.coordinate.components.length)
    (hsample : ∀ id ∈ r.sample, e.declarations.objectCount id = .ok 1) :
    NoIndexFault (e.texelPointer s r) := by
  refine (noIndexFault_descriptor s r.image).bind fun _ _ _ => ?_
  refine (noIndexFault_samples he htyped hs hsample).bind fun _ _ _ => ?_
  dsimp only
  refine Results.bind (P := fun _ => True) ?_ fun _ _ _ => trivial
  rw [TexelCoordinates.offsets, if_neg]
  · trivial
  · rw [List.isEmpty_iff, ← List.length_eq_zero_iff]
    exact hcoordinate.ne'

theorem noIndexFault_imageLoad (h : e.shader.TexelTyped i 4 5) :
    NoIndexFault (e.imageLoad s i) := by
  refine (noIndexFault_id i 3).bind fun image _ _ => ?_
  refine (noIndexFault_objectImageType he htyped image).bind fun type _ _ => ?_
  refine (noIndexFault_id i 4).bind fun a ha _ => ?_
  refine (inRange_operand he htyped hs a).bind fun coordinate _ hcoordinate => ?_
  refine (noIndexFault_read i 5).bind fun operands hoperands _ => ?_
  refine (inRange_sampleOnly operands).bind fun sample _ hsample => ?_
  refine (noIndexFault_readFormat e image type).bind fun format _ _ => ?_
  refine (noIndexFault_readsStencil e type format).bind fun stencil _ _ => ?_
  refine Results.bind (noIndexFault_texelPointer he htyped hs ?_ ?_) fun _ _ _ => ?_
  · exact h.coordinate _ (operandCount_eq ha ▸ hcoordinate)
  · exact hsample ▸ h.sample operands hoperands
  · exact (noIndexFault_accessSizes _).bind fun _ _ _ => trivial

/-- The channels of texels are four. -/
theorem inRange_imageRead (h : e.shader.Typed i .opImageRead) :
    InRange (FitsResult e i) (e.imageRead s i) := by
  refine (noIndexFault_id i 1).bind fun type htype _ => ?_
  refine (noIndexFault_componentCount _ type).bind fun count hcount _ => ?_
  refine (noIndexFault_imageLoad he htyped hs h.2).bind fun load _ _ => ?_
  have hresult : e.declarations.resultCount i = .ok count := bind_eq_ok.mpr ⟨type, htype, hcount⟩
  split
  · exact fitsResult hresult (length_channels (h.1 count hresult))
  · rfl

theorem noIndexFault_imageStore (h : e.shader.TexelTyped i 2 4) :
    NoIndexFault (e.imageStore s i) := by
  refine (noIndexFault_id i 1).bind fun image _ _ => ?_
  refine (noIndexFault_objectImageType he htyped image).bind fun type _ _ => ?_
  refine (noIndexFault_id i 2).bind fun a ha _ => ?_
  refine (inRange_operand he htyped hs a).bind fun coordinate _ hcoordinate => ?_
  refine (noIndexFault_id i 3).bind fun b _ _ => ?_
  refine (inRange_operand he htyped hs b).bind fun value _ _ => ?_
  refine (noIndexFault_read i 4).bind fun operands hoperands _ => ?_
  refine (inRange_sampleOnly operands).bind fun sample _ hsample => ?_
  split
  case h_2 => rfl
  split
  case h_2 => rfl
  refine Results.bind (noIndexFault_texelPointer he htyped hs ?_ ?_) fun _ _ _ => ?_
  · exact h.coordinate _ (operandCount_eq ha ▸ hcoordinate)
  · exact hsample ▸ h.sample operands hoperands
  · exact (noIndexFault_accessSizes _).bind fun _ _ _ => trivial

theorem noIndexFault_imageTexelPointer (h : e.shader.Typed i .opImageTexelPointer) :
    NoIndexFault (e.imageTexelPointer s i) := by
  refine (noIndexFault_id i 3).bind fun image _ _ => ?_
  refine (noIndexFault_objectType _ image).bind fun type _ _ => ?_
  refine (noIndexFault_imageType he htyped _).bind fun imageType _ _ => ?_
  refine (noIndexFault_id i 4).bind fun a ha _ => ?_
  refine (inRange_operand he htyped hs a).bind fun coordinate _ hcoordinate => ?_
  refine (noIndexFault_id i 5).bind fun sample hsample _ => ?_
  refine noIndexFault_texelPointer he htyped hs ?_ ?_
  · exact h.2.2.1 _ (operandCount_eq ha ▸ hcoordinate)
  · rintro _ ⟨⟩
    exact operandCount_eq hsample ▸ h.2.2.2

/-! ## Sampling -/

theorem noIndexFault_optionalFirst {o : Option Nat}
    (h : ∀ id ∈ o, e.declarations.objectCount id = .ok 1) : NoIndexFault (e.optionalFirst s o) := by
  cases o with
  | none => trivial
  | some id =>
    refine (inRange_operand_of_count he htyped hs (h id rfl)).bind fun o _ ho => ?_
    exact (noIndexFault_first (ho ▸ Nat.one_pos)).bind fun _ _ _ => trivial

theorem noIndexFault_methodInputs {site : SamplingInstruction}
    (h : ∀ id ∈ site.numbers, e.declarations.objectCount id = .ok 1) :
    NoIndexFault (e.methodInputs s site) := by
  unfold Environment.methodInputs
  split
  case h_1 id hid =>
    refine noIndexFault_optionalFirst he htyped hs ?_
    rintro _ ⟨⟩
    refine h id ?_
    rcases Option.or_eq_some_iff.mp hid with hid | ⟨-, hid⟩ <;>
      simp [SamplingInstruction.numbers, hid]
  case h_2 =>
    split
    · refine (inRange_operand he htyped hs _).bind fun _ _ _ => ?_
      exact (inRange_operand he htyped hs _).bind fun _ _ _ => trivial
    · trivial

theorem noIndexFault_samplingInputs {site : SamplingInstruction}
    (h : ∀ id ∈ site.numbers, e.declarations.objectCount id = .ok 1) :
    NoIndexFault (e.samplingInputs s site) := by
  have hgiven : NoIndexFault (e.givenInputs s site) := by
    refine (inRange_operand he htyped hs site.coordinate).bind fun coordinate _ _ => ?_
    refine (noIndexFault_projected site.signature.variant coordinate.components).bind
      fun _ _ _ => ?_
    refine (noIndexFault_optionalFirst he htyped hs fun id hid => ?_).bind fun _ _ _ => ?_
    · exact h id (by simp [SamplingInstruction.numbers, Option.mem_def.mp hid])
    refine (noIndexFault_methodInputs he htyped hs h).bind fun _ _ _ => ?_
    have hoffset : NoIndexFault (e.optionalComponents s site.operands.constOffset) := by
      cases site.operands.constOffset with
      | none => trivial
      | some id => exact (inRange_operand he htyped hs id).bind fun _ _ _ => trivial
    refine hoffset.bind fun _ _ _ => ?_
    refine (noIndexFault_optionalFirst he htyped hs fun id hid => ?_).bind fun _ _ _ => trivial
    exact h id (by simp [SamplingInstruction.numbers, Option.mem_def.mp hid])
  refine hgiven.bind fun given _ _ => ?_
  split <;> trivial

/-! ## Parts of composites -/

/-- **The part that is extracted** lies in the row of the composite. -/
theorem extractsWithin (h : e.shader.Typed i .opCompositeExtract) : ExtractsWithin e s i := by
  intro S a info o hS ha hinfo ho
  have hcount := inRange_operand he htyped hs a
  rw [ho] at hcount
  have htotal : e.shader.declarations.componentCount info.type = .ok o.components.length :=
    (objectCount_eq (Declarations.object_eq_ok.mp hinfo)).symm.trans hcount
  have hreaches : e.shader.Reaches info.type (i.words.drop 4) S :=
    h info (bind_eq_ok.mpr ⟨a, ha, hinfo⟩) S hS
  obtain ⟨start, count, hpath⟩ := exists_occupies he htyped.types htotal hreaches
  obtain ⟨_, htotal', hwithin⟩ := hpath.within
  obtain rfl := Except.ok.inj (htotal.symm.trans htotal')
  exact ⟨start, count, hpath, hwithin⟩

/-- Where a part starts is read as a signed word, so that only a part that starts at component 2³¹
or further on is not found. -/
theorem results_extract (hop : i.op? = some .opCompositeExtract)
    (h : e.shader.Typed i .opCompositeExtract) :
    Results (FitsResult e i)
      (fun fault => fault.isIndex = true → TakesFarPart e i) (e.extract s i) := by
  have hno (fault : Fault) (hf : fault.isIndex = false) (hf' : fault.isIndex = true) :
      TakesFarPart e i := by rw [hf] at hf'; cases hf'
  refine ((noIndexFault_id i 1).weaken hno).bind fun S hS _ => ?_
  refine ((noIndexFault_componentCount _ S).weaken hno).bind fun count hcount _ => ?_
  refine ((noIndexFault_id i 3).weaken hno).bind fun a ha _ => ?_
  refine ((noIndexFault_object _ a).weaken hno).bind fun info hinfo _ => ?_
  refine ((noIndexFault_walk he htyped _ _).weaken hno).bind fun part hpart _ => ?_
  refine ((inRange_operand he htyped hs a).weaken hno).bind fun o ho hcountO => ?_
  obtain ⟨start, count', hpath, hwithin⟩ := extractsWithin he htyped hs h S a info o hS ha hinfo ho
  obtain rfl := Except.ok.inj (hcount.symm.trans hpath.count_eq)
  obtain rfl := Except.ok.inj (hpart.symm.trans hpath.walk_eq)
  have hresult : e.declarations.resultCount i = .ok count := bind_eq_ok.mpr ⟨S, hS, hcount⟩
  refine (results_slice fun hout _ => ?_).mono fun _ hrow => fitsResult hresult hrow
  refine ⟨hop, S, a, info, start, count, hS, ha, hinfo, hpath, ?_⟩
  by_contra hsmall
  rw [Lanes.get_splat, Word.signed_ofNat (by omega)] at hout
  omega

end

/-- **A part that starts at component 2³¹ or further on** is not found in a composite that has a
value. -/
theorem step_of_takesFarPart {composite : Nat} {o : Operand} (he : e.shader.IsAnalysed)
    (hfar : TakesFarPart e i) (hid : i.id 3 = .ok composite) (ho : e.operand s composite = .ok o) :
    (step e i).run s = (.error .indexOutOfRange, s) := by
  obtain ⟨hop, S, _, info, start, count, hS, hid', hinfo, hpath, hstart⟩ := hfar
  obtain rfl := Except.ok.inj (hid.symm.trans hid')
  have hword : start < 2 ^ 32 := by
    obtain ⟨total, htotal, hwithin⟩ := hpath.within
    have hsmall := he.componentCount_lt htotal
    omega
  have hcount : e.declarations.componentCount S = .ok count := hpath.count_eq
  have hextract : e.extract s i = .error .indexOutOfRange := by
    simp only [Environment.extract, hS, hcount, hid, hinfo, hpath.walk_eq, ho, ok_bind,
      Lanes.get_splat, slice_far hstart hword]
  rw [step_eq_execute hop (by decide), run_bind, execute, compute, run_bind, run_inspect, hextract]

end HostGpu.Execution
