import HostGpu.Proofs.Execution.RowCounts

/-!
# Component counts in runs

What an instruction of a typed module leaves has rows of the components of their types again
(`sized_step`): a load gives as many as its result type, which is what the pointer points to, a
store keeps how many scalars a variable has, and a pointer to texels points to something of one
component.  So in every state that a run visits each row has as many components as the type of its
identifier, and each variable as many scalars as what it points to (`sized_of_visits`).

Still a component may be asked for that is not found.  An access chain may lead outside of its
variable, which is no fault (`AccessesVariable`), and an instruction that takes apart a composite
reads with sign where the part starts (`TakesFarPart`).
-/

namespace HostGpu.Execution

open Outcome Spirv Shader

variable {e : Environment} {i : Instruction} {s : State} {id : Nat}

/-- A part of a run leaves rows of the components of their types, and has no fault because of an
index. -/
abbrev EndsSized (e : Environment) (x : Run Unit) (s : State) : Prop :=
  Ends (fun _ => Sized e.declarations) (fun fault => fault.isIndex = false) x s

/-! ## Instructions -/

section

variable {op : Opcode} (h : e.shader.Typed i op)
include h

theorem typed_of_binary {f : WordLanes → WordLanes → WordLanes} (hf : binary? op = some f) :
    declaresObject op = true ∧ e.declarations.operandCount i 3 = e.declarations.resultCount i ∧
      e.declarations.operandCount i 4 = e.declarations.resultCount i := by
  cases op <;> first | exact ⟨rfl, h.1, h.2⟩ | cases hf

theorem typed_of_unary {f : WordLanes → WordLanes} (hf : unary? op = some f) :
    declaresObject op = true ∧ e.declarations.operandCount i 3 = e.declarations.resultCount i := by
  cases op <;> first | exact ⟨rfl, h⟩ | cases hf

end

/-- The storage of a variable has the components of what it points to. -/
theorem pointeeCount_of_initialStorage {row : List WordLanes} (h : e.initialStorage id = .ok row) :
    e.declarations.pointeeCount id = .ok row.length := by
  obtain ⟨type, htype, hcount⟩ := componentCount_of_initialStorage h
  exact (pointeeCount_eq htype).trans hcount

/-- Images are no pointers to texels. -/
theorem sized_forward {op : Opcode} (htyped : e.shader.IsTyped)
    (hi : i ∈ e.shader.module.instructions) (hs : Sized e.declarations s) (hop : i.op? = some op)
    (hforward : op = .opSampledImage ∨ op = .opImage) : EndsSized e (do
      let target ← inspect fun s => do s.target (← i.id 3)
      definePointer (← liftM (i.id 2)) target) s := by
  have htypes : Yields (fun type : TypeInfo => type.op ≠ .opTypePointer)
      (do e.declarations.objectType (← i.id 3)) := by
    have htypes := htyped.instructions i hi _ hop
    rcases hforward with rfl | rfl <;> exact htypes
  refine ends_inspect_bind (R := fun target => ∀ p, target ≠ .texel p) ?_ fun target _ htarget =>
    ends_lift_bind (noIndexFault_id i 2) fun id _ _ =>
      ends_define rfl fun _ => hs.withValue (hasCount_of_ne htarget)
  refine (noIndexFault_id i 3).bind fun source hsource _ => ?_
  refine (noIndexFault_target s source).mono_ok fun target htarget => ?_
  rintro p rfl
  obtain ⟨type, htype, hop, -⟩ := hs.values source _ (State.target_eq_ok.mp htarget)
  exact htypes type (bind_eq_ok.mpr ⟨source, hsource, htype⟩) hop

theorem sized_imageWrite (he : e.shader.IsAnalysed) (htyped : e.shader.IsTyped)
    (hs : Sized e.declarations s) (h : e.shader.TexelTyped i 2 4) :
    EndsSized e (do set (← inspect fun s => e.imageWrite s i)) s := by
  refine ends_inspect_bind (R := Sized e.declarations) ?_ fun s' _ hs' => ends_set hs'
  exact (noIndexFault_imageStore he htyped hs h).bind fun _ _ _ => hs.withMachine _

theorem sized_variable (he : e.shader.IsAnalysed) (hs : Sized e.declarations s) : EndsSized e (do
    let id ← liftM (i.id 2)
    createVariable id (← liftM (e.initialStorage id))) s := by
  refine ends_lift_bind (noIndexFault_id i 2) fun id _ _ => ?_
  refine ends_lift_bind (noIndexFault_initialStorage he id) fun row hrow _ => ?_
  have hstorage := hs.setStorage (pointeeCount_of_initialStorage hrow)
  exact ends_createVariable rfl fun _ => hstorage.withValue trivial

section

variable {op : Opcode} (he : e.shader.IsAnalysed) (htyped : e.shader.IsTyped)
  (hi : i ∈ e.shader.module.instructions) (hs : Sized e.declarations s)
include he htyped hi hs

/-- A result gets a row of the components of its type. -/
theorem sized_result {row : List WordLanes} (hop : i.op? = some op)
    (hdeclares : declaresObject op = true) (hid : i.id 2 = .ok id) (hrow : FitsResult e i row) :
    Sized e.declarations (s.withValue id (.components row)) :=
  hs.withValue ((objectCount_result he htyped hi hop hdeclares hid).trans hrow)

theorem sized_compute {f : State → Except Fault (List WordLanes)} {F : Fault → Prop}
    (hF : ∀ fault, fault.isIndex = false → F fault) (hop : i.op? = some op)
    (hdeclares : declaresObject op = true) (hf : Results (FitsResult e i) F (f s)) :
    Ends (fun _ => Sized e.declarations) F (compute i f) s :=
  ends_compute hf ((noIndexFault_id i 2).weaken hF) (fun _ => hF _ rfl) fun _ _ hid hrow _ =>
    sized_result he htyped hi hs hop hdeclares hid hrow

theorem sized_executeLoad (hop : i.op? = some .opLoad) : EndsSized e (executeLoad e i) s := by
  refine ends_lift_bind (R := fun _ => True) ?_ fun type htype _ => ?_
  · exact (noIndexFault_id i 1).bind fun T _ _ => noIndexFault_type _ T
  obtain ⟨T, hT, htype⟩ := bind_eq_ok.mp htype
  refine ends_lift_bind (noIndexFault_id i 2) fun id hid _ => ?_
  refine ends_lift_bind (noIndexFault_id i 3) fun source hsource _ => ?_
  have hcount : e.declarations.componentCount T = .ok type.componentCount :=
    bind_eq_ok.mpr ⟨type, htype, rfl⟩
  have hresult : e.declarations.objectCount id = .ok type.componentCount :=
    (objectCount_result he htyped hi hop rfl hid).trans (bind_eq_ok.mpr ⟨T, hT, hcount⟩)
  refine ends_inspect_bind (R := HasCount e.declarations id) ?_ fun v _ hv =>
    ends_define rfl fun _ => hs.withValue hv
  refine (noIndexFault_target s source).bind fun target htarget _ => ?_
  cases target with
  | descriptor address =>
    rw [loadedValue]
    split <;> trivial
  | «variable» v offsets =>
    refine (noIndexFault_storage s v).bind fun row _ _ => ?_
    show e.declarations.objectCount id = .ok (Storage.load row offsets type.componentCount).length
    rw [hresult, Storage.length_load]
  | texel p =>
    obtain ⟨pointer, hpointer, -, hone⟩ := hs.values source _ (State.target_eq_ok.mp htarget)
    have hpointee : (do e.declarations.pointee (← i.id 3)) = i.id 1 :=
      htyped.instructions i hi _ hop
    rw [hsource, ok_bind, pointee_eq hpointer, hT, Except.ok.injEq] at hpointee
    rw [hpointee, hcount] at hone
    exact hresult.trans hone

theorem sized_executeStore (hop : i.op? = some .opStore) : EndsSized e (executeStore e i) s := by
  refine ends_inspect_bind (R := Sized e.declarations) ?_ fun s' _ hs' => ends_set hs'
  refine (noIndexFault_id i 1).bind fun pointer hpointer _ => ?_
  refine (noIndexFault_target s pointer).bind fun target htarget _ => ?_
  refine (noIndexFault_id i 2).bind fun a ha _ => ?_
  refine (inRange_operand he htyped hs a).bind fun value _ hvalue => ?_
  cases target with
  | descriptor address => exact rfl
  | «variable» v offsets =>
    exact (noIndexFault_storage s v).bind fun row hrow _ => hs.store hrow
  | texel p =>
    obtain ⟨type, htype, -, hone⟩ := hs.values pointer _ (State.target_eq_ok.mp htarget)
    have hcount : e.declarations.operandCount i 2 = (do e.declarations.pointeeCount (← i.id 1)) :=
      htyped.instructions i hi _ hop
    rw [operandCount_eq ha, hvalue, hpointer, ok_bind, pointeeCount_eq htype, hone,
      Except.ok.injEq] at hcount
    exact (noIndexFault_first (hcount ▸ Nat.one_pos)).bind fun _ _ _ => hs.withMachine _

/-- Indices of access chains are numbers, and no access chain points to texels. -/
theorem sized_executeAccessChain (hop : i.op? = some op) (hchain : isChain op = true) :
    EndsSized e (executeAccessChain e i) s := by
  have hindices : ∀ index ∈ i.words.drop 4, e.declarations.objectCount index.toNat = .ok 1 := by
    have htypes := htyped.instructions i hi _ hop
    cases op <;> first | exact htypes | cases hchain
  refine ends_lift_bind (noIndexFault_id i 2) fun id _ _ => ?_
  refine ends_lift_bind (noIndexFault_id i 3) fun base _ _ => ?_
  refine ends_inspect_bind (R := fun target => ∀ p, target ≠ .texel p) ?_ fun target _ htarget =>
    ends_define rfl fun _ => hs.withValue (hasCount_of_ne htarget)
  refine (noIndexFault_target s base).bind fun target _ _ => ?_
  cases target with
  | descriptor address =>
    exact (noIndexFault_indexedDescriptor he htyped hs hindices).bind fun _ _ _ => nofun
  | «variable» v offsets =>
    refine (noIndexFault_objectType _ base).bind fun type _ _ => ?_
    refine (inRange_mapM fun index hindex => ?_).bind fun indices _ _ => ?_
    · exact noIndexFault_chainIndex he htyped hs (hindices index hindex)
    · exact (noIndexFault_walk he htyped _ _).bind fun _ _ _ => nofun
  | texel p => exact rfl

theorem sized_imageTexelPointer (hop : i.op? = some .opImageTexelPointer) : EndsSized e (do
    let pointer ← inspect fun s => e.imageTexelPointer s i
    definePointer (← liftM (i.id 2)) (.texel pointer)) s := by
  have htypes := htyped.instructions i hi _ hop
  refine ends_inspect_bind (noIndexFault_imageTexelPointer he htyped hs htypes) fun p _ _ => ?_
  refine ends_lift_bind (noIndexFault_id i 2) fun id hid _ => ?_
  refine ends_define rfl fun _ => hs.withValue ?_
  obtain ⟨info, hinfo, hT, -⟩ := he.exists_object htyped.objects hi hop rfl hid
  have hpointer : (do return (← e.declarations.type (← i.id 1)).op : Except Fault Opcode) =
    .ok .opTypePointer := htypes.1
  have hone : (do e.declarations.componentCount (← e.declarations.type (← i.id 1)).elementId) =
    .ok 1 := htypes.2.1
  simp only [hT, ok_bind, bind_eq_ok, pure_eq_ok] at hpointer hone
  obtain ⟨type, htype, hop⟩ := hpointer
  obtain ⟨type', htype', hone⟩ := hone
  obtain rfl := Except.ok.inj (htype.symm.trans htype')
  exact ⟨type, bind_eq_ok.mpr ⟨info, Declarations.object_eq_ok.mpr hinfo, htype⟩, hop, hone⟩

theorem sized_executeAtomicAdd (hop : i.op? = some .opAtomicIAdd) :
    EndsSized e (executeAtomicAdd e i) s := by
  obtain ⟨hresult, hvalue⟩ := htyped.instructions i hi _ hop
  refine ends_lift_bind (noIndexFault_id i 2) fun id hid _ => ?_
  refine ends_inspect_bind (R := fun p => Sized e.declarations p.2) ?_ fun p _ hp => ?_
  · refine (noIndexFault_id i 3).bind fun pointer _ _ => ?_
    refine (noIndexFault_target s pointer).bind fun target _ _ => ?_
    refine (noIndexFault_id i 6).bind fun a ha _ => ?_
    refine (inRange_operand_of_count he htyped hs ((operandCount_eq ha).symm.trans hvalue)).bind
      fun o _ ho => ?_
    refine (noIndexFault_first (ho ▸ Nat.one_pos)).bind fun value _ _ => ?_
    cases target with
    | descriptor address => exact rfl
    | «variable» v offsets =>
      exact (noIndexFault_storage s v).bind fun row hrow _ => hs.store hrow
    | texel p => exact hs.withMachine _
  · have hset : EndsSized e (set p.2) s := ends_set hp
    exact hset.bind fun _ s' hs' => ends_define rfl fun _ =>
      sized_result he htyped hi hs' hop rfl hid hresult

theorem sized_executeSampling (hop : i.op? = some op) (hsampling : op.isSampling = true) :
    EndsSized e (executeSampling e i op) s := by
  have htypes := (htyped.instructions i hi _ hop).sampling hsampling
  refine ends_lift_bind (noIndexFault_ofInstruction he htyped htypes) fun site hsite _ => ?_
  have hread := readFrom_of_ofInstruction hsite
  refine ends_lift_bind (noIndexFault_componentCount _ _) fun count hcount _ => ?_
  have hresult : e.declarations.resultCount i = .ok count :=
    bind_eq_ok.mpr ⟨_, hread.resultType, hcount⟩
  have hdefine (texels : Lanes Texel) (s' : State) (hs' : s.SameButMachine s') :
      EndsSized e (defineComponents site.result ((Texel.channels texels).take count)) s' := by
    obtain ⟨machine, rfl⟩ := hs'
    exact ends_define rfl fun _ => sized_result he htyped hi (hs.withMachine machine) hop
      (declaresObject_of_isSampling hsampling) hread.result
      (fitsResult hresult (length_channels (htypes.result count hresult)))
  split
  · have hnumbers := htypes.numbers site hsite
    exact (ends_sampleTexels (F := fun fault => fault.isIndex = false) rfl
      (noIndexFault_descriptor s _) (fun _ _ => noIndexFault_samplerOf he _ _)
      (noIndexFault_samplingInputs he htyped hs hnumbers)).bind hdefine
  · exact hdefine _ s ⟨s.machine, rfl⟩

/-- **What a step leaves** has rows of the components of their types again. -/
theorem sized_step : Ends (fun _ => Sized e.declarations)
    (fun fault => fault.isIndex = true → TakesFarPart e i) (step e i) s := by
  have hno (fault : Fault) (h : fault.isIndex = false) (h' : fault.isIndex = true) :
      TakesFarPart e i := by rw [h] at h'; cases h'
  refine ends_step hs (hno _ rfl) ((noIndexFault_id i 1).weaken hno) fun op hop => ?_
  have htypes := htyped.instructions i hi op hop
  have hcompute {f : State → Except Fault (List WordLanes)} (hdeclares : declaresObject op = true)
      (hf : InRange (FitsResult e i) (f s)) :=
    sized_compute he htyped hi hs hno hop hdeclares (hf.weaken hno)
  unfold execute
  split
  case h_1 | h_2 | h_3 | h_4 | h_5 => exact ends_pure hs
  case h_6 => exact (sized_variable he hs).weaken hno
  case h_7 => exact hcompute rfl (inRange_undefined i)
  case h_8 => exact (sized_executeLoad he htyped hi hs hop).weaken hno
  case h_9 => exact (sized_executeStore he htyped hi hs hop).weaken hno
  case h_10 | h_11 => exact (sized_executeAccessChain he htyped hi hs hop rfl).weaken hno
  case h_12 =>
    refine hcompute rfl ((inRange_concat he htyped hs _).mono fun row hrow => ?_)
    exact htypes.symm.trans hrow
  case h_13 =>
    -- only here is there a fault because of an index
    exact sized_compute he htyped hi hs hno hop rfl (results_extract he htyped hs hop htypes)
  case h_14 => exact hcompute rfl (inRange_shuffle he htyped hs htypes)
  case h_15 =>
    refine ends_lift_bind ((noIndexFault_id i 4).weaken hno) fun lod hlod _ => ?_
    refine hcompute rfl (inRange_querySize he htyped hs htypes.1 ?_)
    rintro _ ⟨⟩
    exact (operandCount_eq hlod).symm.trans (htypes.2 rfl)
  case h_16 => exact hcompute rfl (inRange_querySize he htyped hs htypes.1 nofun)
  case h_17 =>
    exact hcompute rfl ((noIndexFault_queryLevels e s i).bind fun _ _ _ => htypes)
  case h_18 =>
    exact hcompute rfl ((noIndexFault_querySamples he htyped i).bind fun _ _ _ => htypes)
  case h_19 => exact hcompute rfl (inRange_imageRead he htyped hs htypes)
  case h_20 => exact (sized_imageWrite he htyped hs htypes).weaken hno
  case h_21 => exact (sized_imageTexelPointer he htyped hi hs hop).weaken hno
  case h_22 => exact (sized_forward htyped hi hs hop (.inl rfl)).weaken hno
  case h_23 => exact (sized_forward htyped hi hs hop (.inr rfl)).weaken hno
  case h_24 => exact (sized_executeAtomicAdd he htyped hi hs hop).weaken hno
  case h_25 =>
    split
    case h_1 hbinary =>
      obtain ⟨hdeclares, hlhs, hrhs⟩ := typed_of_binary htypes hbinary
      exact hcompute hdeclares (inRange_binary he htyped hs _ hlhs hrhs)
    case h_2 hunary =>
      obtain ⟨hdeclares, hvalue⟩ := typed_of_unary htypes hunary
      exact hcompute hdeclares (inRange_unary he htyped hs _ hvalue)
    case h_3 =>
      split
      case isTrue hsampling =>
        exact (sized_executeSampling he htyped hi hs hop hsampling).weaken hno
      case isFalse => exact ends_throw (hno _ rfl)

end

/-! ## Variables outside of functions -/

theorem inRange_fillFirst {storage : List WordLanes} (value : WordLanes) (h : 0 < storage.length) :
    InRange (fun row => row.length = storage.length) (Storage.fillFirst storage value) := by
  rw [Storage.fillFirst, if_neg]
  · exact Storage.length_fill storage [value]
  · rw [List.isEmpty_iff, ← List.length_eq_zero_iff]
    exact h.ne'

/-- An input that is filled in has as many scalars as before. -/
theorem inRange_inputStorage {inputs : InterfaceValues} {storage : List WordLanes}
    (h : ∀ b ∈ (e.declarations.decorations[id]?).bind (·.builtIn), b.isNumber = true →
      0 < storage.length) :
    InRange (fun row => row.length = storage.length) (e.inputStorage inputs id storage) := by
  unfold Environment.inputStorage
  dsimp only
  split
  case h_1 b hb =>
    have hnumber : b.isNumber = true → 0 < storage.length := by
      refine h b ?_
      cases hdecorations : e.declarations.decorations[id]? with
      | none =>
        rw [hdecorations] at hb
        cases hb
      | some decorations => rwa [hdecorations] at hb
    cases b with
    | fragCoord => exact Storage.length_fill storage _
    | viewIndex | helperInvocation | localInvocationIndex =>
      exact inRange_fillFirst _ (hnumber rfl)
    | _ => exact rfl
  case h_2 =>
    split
    · exact Storage.length_fill storage _
    · exact rfl

theorem sized_initGlobal {inputs : InterfaceValues} (he : e.shader.IsAnalysed)
    (htyped : e.shader.IsTyped) (hid : id ∈ e.declarations.globals) (hs : Sized e.declarations s) :
    EndsSized e (e.initGlobal inputs id) s := by
  refine ends_lift_bind (noIndexFault_object _ id) fun info _ _ => ?_
  split
  case h_1 storageClass _ =>
    split
    case isTrue =>
      split
      case h_1 slot hslot =>
        exact ends_lift_bind (noIndexFault_bindingAddress e _ _) fun a _ _ =>
          ends_define rfl fun _ => hs.withValue trivial
      case h_2 => exact ends_pure hs
    case isFalse =>
      have hcreate {row : List WordLanes} (hrow : e.declarations.pointeeCount id = .ok row.length) :
          EndsSized e (createVariable id row) s :=
        ends_createVariable rfl fun _ => (hs.setStorage hrow).withValue trivial
      refine ends_lift_bind (noIndexFault_initialStorage he id) fun storage hstorage _ => ?_
      have hcount := pointeeCount_of_initialStorage hstorage
      dsimp only
      split
      · refine ends_lift_bind (inRange_inputStorage fun b hb hnumber => ?_) fun row _ hrow =>
          hcreate (hrow ▸ hcount)
        have hone := htyped.numbers id hid b hb hnumber
        rw [Except.ok.inj (hcount.symm.trans hone)]
        exact Nat.one_pos
      · exact hcreate hcount
  case h_2 => exact ends_pure hs

/-! ## Whole runs -/

/-- **In every state that a run visits** rows have the components of their types. -/
theorem sized_of_visits {inputs : InterfaceValues} {machine : Machine} {offset : Nat}
    (he : e.shader.IsAnalysed) (htyped : e.shader.IsTyped)
    (hs : Visits e inputs machine s offset) : Sized e.declarations s :=
  hs.induction (F := fun _ => True) he
    (fun _ hid _ hs => (sized_initGlobal he htyped hid hs).weaken fun _ _ => trivial)
    (sized_start _ _) fun _ hi _ hs => (sized_step he htyped hi hs).weaken fun _ _ => trivial

/-- **Every row has exactly the components of its type,** in every module that is typed: the values
of a constant are as many as its type has components, and in every state that a run visits the row
of an identifier is as long as its type says, and the row of a variable as long as what the variable
points to says.  So setting up variables never asks for a component that is not there, and what an
instruction extracts lies in the row that it takes apart.  Loads, stores and additions whose pointer
leads outside of a variable get zeros there and change nothing.  No instruction has a fault because
of an index but one that takes apart a composite, exactly if the part starts at component 2³¹ or
further on. -/
theorem rows_have_component_counts (he : e.shader.IsAnalysed) (htyped : e.shader.IsTyped) :
    (∀ (id : Nat) (values : List UInt32), e.declarations.constant id = .ok values →
      e.declarations.objectCount id = .ok values.length) ∧
    (∀ inputs machine fault s,
      (e.declarations.globals.forM (e.initGlobal inputs)).run { machine } = (.error fault, s) →
        fault.isIndex = false) ∧
    ∀ inputs machine s offset, Visits e inputs machine s offset →
      (∀ (id : Nat) (row : List WordLanes), s.values[id]? = some (.components row) →
        e.declarations.objectCount id = .ok row.length) ∧
      (∀ (id : Nat) (row : List WordLanes), s.storages[id]? = some row →
        e.declarations.pointeeCount id = .ok row.length) ∧
      ∀ i, e.shader.definition offset = .ok i →
        (i.op? = some .opCompositeExtract → ExtractsWithin e s i) ∧ AccessesVariable e s i ∧
        (∀ fault s', (step e i).run s = (.error fault, s') → fault.isIndex = true →
          TakesFarPart e i) ∧
        (TakesFarPart e i → ∀ composite o, i.id 3 = .ok composite →
          e.operand s composite = .ok o → (step e i).run s = (.error .indexOutOfRange, s)) := by
  refine ⟨fun id values => constant_count he htyped, ?_, ?_⟩
  · intro inputs machine fault s hrun
    have hglobals : EndsSized e (e.declarations.globals.forM (e.initGlobal inputs)) { machine } :=
      ends_forM (sized_start _ machine) fun id hid _ hs => sized_initGlobal he htyped hid hs
    rwa [EndsSized, Ends, hrun] at hglobals
  · intro inputs machine s offset hvisits
    have hs := sized_of_visits he htyped hvisits
    refine ⟨fun id row => hs.values id (.components row), hs.storages, fun i hi => ?_⟩
    have hmem := hvisits.mem_instructions he hi
    refine ⟨fun hop => extractsWithin he htyped hs (htyped.instructions i hmem _ hop),
      accessesVariable e s i, ?_, fun hfar _ _ => step_of_takesFarPart he hfar⟩
    intro fault s' hrun
    have hstep := sized_step he htyped hmem hs
    rwa [Ends, hrun] at hstep

/-! ### Fixed modules -/

/-- A shader is run with no descriptors. -/
def withoutDescriptors (shader : Shader) : Environment where
  shader
  layout := ⟨0, 0, []⟩
  bound := []
  sets := ∅

/-- A machine with no memory, to which nothing has happened. -/
def emptyMachine : Machine := ⟨∅, {}, [], []⟩

/-! ### Vectors -/

namespace Vectors

/-- A module that adds, shuffles, converts, takes apart and puts together vectors. -/
def words : List UInt32 := [
  0x07230203, 0x00010000, 0, 20, 0,
  0x0004000F, 4, 11, 0, -- the entry point
  0x00030016, 1, 32, 0x00040015, 2, 32, 1, -- numbers
  0x00040017, 3, 1, 2, 0x00040017, 4, 1, 3, 0x00040017, 5, 2, 3, -- two or three of them
  0x00040020, 6, 7, 4, -- pointers
  0x0004002B, 1, 7, 0x3F800000, 0x0004002B, 1, 8, 0x40000000,
  0x0005002C, 3, 9, 7, 8, 0x0003002E, 3, 10, -- (1, 2) and (0, 0)
  0x00050036, 1, 11, 0, 0, 0x000200F8, 12,
  0x0004003B, 6, 13, 7, -- a variable
  0x00050081, 3, 14, 9, 10, -- a sum of two components
  0x0008004F, 4, 15, 14, 9, 0, 3, 0xFFFFFFFF, -- three components, one of them undefined
  0x0004006E, 5, 16, 15, 0x00050051, 1, 17, 15, 1, -- as integers, and the second of them
  0x00050050, 4, 18, 17, 14, -- one component and two
  0x0003003E, 13, 18, 0x0004003D, 4, 19, 13,
  0x000100FD, 0x00010038]

def module : Module := (Module.ofWords words).toOption.get (by decide +kernel)

def shader : Shader := (Shader.ofModule 0 module).toOption.get (by decide +kernel)

def environment : Environment := withoutDescriptors shader

/-- The run before its last instruction. -/
def last : Progress := (Progress.fetch environment)^[9] (Progress.start environment ∅ emptyMachine)

theorem isAnalysed : environment.shader.IsAnalysed := isAnalysed_get _ _

theorem isTyped : environment.shader.IsTyped := by decide +kernel

/-- Three components, the last of which is undefined, and what the variable holds in the end. -/
def shuffled : List WordLanes := [.splat 0x3F800000, .splat 0x40000000, .splat 0]
def stored : List WordLanes := [.splat 0x40000000, .splat 0x3F800000, .splat 0x40000000]

theorem visits_last : Visits environment ∅ emptyMachine last.state 93 :=
  visits_of_offset? (by decide +kernel)

theorem shuffled_found : last.state.values[15]? = some (.components shuffled) := by decide +kernel

theorem stored_found : last.state.storages[13]? = some stored := by decide +kernel

end Vectors

open Vectors in
/-- The components of a vector that was shuffled and of a variable that was stored to are three. -/
theorem vectors_have_three_components : environment.shader.IsAnalysed ∧
    environment.shader.IsTyped ∧ ∃ s offset, Visits environment ∅ emptyMachine s offset ∧
      s.values[15]? = some (.components shuffled) ∧ s.storages[13]? = some stored ∧
      environment.declarations.objectCount 15 = .ok 3 ∧
      environment.declarations.pointeeCount 13 = .ok 3 := by
  obtain ⟨-, -, hcounts⟩ := rows_have_component_counts isAnalysed isTyped
  obtain ⟨hvalues, hstorages, -⟩ := hcounts ∅ emptyMachine last.state 93 visits_last
  exact ⟨isAnalysed, isTyped, last.state, 93, visits_last, shuffled_found, stored_found,
    hvalues 15 shuffled shuffled_found, hstorages 13 stored stored_found⟩

/-! ### A part of a large structure -/

namespace FarPart

/-- A module that extracts the number behind an array of 2³¹ numbers. -/
def words : List UInt32 := [
  0x07230203, 0x00010000, 0, 12, 0,
  0x0004000F, 4, 8, 0, -- the entry point
  0x00020013, 1, 0x00030021, 2, 1, 0x00040015, 3, 32, 0, -- no value, a function and numbers
  0x0004002B, 3, 4, 0x80000000,
  0x0004001C, 5, 3, 4, 0x0004001E, 6, 5, 3, -- the array, and the structure with one more number
  0x0003002E, 6, 7, -- which is zero
  0x00050036, 1, 8, 0, 2, 0x000200F8, 9,
  0x00050051, 3, 10, 7, 1,
  0x000100FD, 0x00010038]

def module : Module := (Module.ofWords words).toOption.get (by decide +kernel)

def shader : Shader := (Shader.ofModule 0 module).toOption.get (by decide +kernel)

def environment : Environment := withoutDescriptors shader

def extract : Instruction := ⟨40, [0x00050051, 3, 10, 7, 1]⟩

/-- The state before the number is extracted. -/
def state : State :=
  ((Progress.fetch environment)^[1] (Progress.start environment ∅ emptyMachine)).state

theorem isAnalysed : environment.shader.IsAnalysed := isAnalysed_get _ _

theorem isTyped : environment.shader.IsTyped := by decide +kernel

theorem visits : Visits environment ∅ emptyMachine state 40 := visits_of_offset? (by decide +kernel)

/-- The number starts at component 2³¹. -/
theorem takesFarPart : TakesFarPart environment extract := by
  have hpresent : (environment.declarations.object 7).toOption.isSome = true := by decide +kernel
  obtain ⟨info, hinfo⟩ := Option.isSome_iff_exists.mp hpresent
  have htype : (environment.declarations.object 7).toOption.map (·.type) = some 6 := by
    decide +kernel
  rw [hinfo, Option.map_some, Option.some_inj] at htype
  refine ⟨by decide, 3, 7, info, 2 ^ 31, 1, by decide, by decide, toOption_eq_some.mp hinfo, ?_,
    le_rfl⟩
  rw [htype]
  exact ⟨by decide +kernel, by decide +kernel, 2 ^ 31 + 1, by decide +kernel, le_rfl⟩

end FarPart

/-! ### An access behind a variable -/

namespace BehindVariable

/-- A module that loads the element of an array whose index is an input. -/
def words : List UInt32 := [
  0x07230203, 0x00010000, 0, 20, 0,
  0x00020011, 1, 0x0003000E, 0, 1, 0x0007000F, 4, 14, 0x6E69616D, 0, 11, 12, -- the entry point
  0x00040047, 11, 30, 0, 0x00040047, 12, 30, 0, -- an input and an output
  0x00020013, 1, 0x00030021, 2, 1, 0x00040015, 3, 32, 0, -- no value, a function and numbers
  0x0004002B, 3, 4, 2, 0x0004002B, 3, 5, 7,
  0x0004001C, 6, 3, 4, 0x0005002C, 6, 7, 5, 5, -- an array of two numbers, both of which are seven
  0x00040020, 8, 1, 3, 0x00040020, 9, 3, 3, 0x00040020, 10, 6, 6, 0x00040020, 16, 6, 3,
  0x0004003B, 8, 11, 1, 0x0004003B, 9, 12, 3, 0x0005003B, 10, 13, 6, 7, -- the variables
  0x00050036, 1, 14, 0, 2, 0x000200F8, 15,
  0x0004003D, 3, 17, 11, 0x00050041, 16, 18, 13, 17, -- the index and the pointer
  0x0004003D, 3, 19, 18, 0x0003003E, 12, 19,
  0x000100FD, 0x00010038]

def module : Module := (Module.ofWords words).toOption.get (by decide +kernel)

def shader : Shader := (Shader.ofModule 0 module).toOption.get (by decide +kernel)

def environment : Environment := withoutDescriptors shader

/-- The index is five in all lanes. -/
def inputs : InterfaceValues := (∅ : InterfaceValues).insert 0 [.splat 5]

def load : Instruction := ⟨96, [0x0004003D, 3, 19, 18]⟩

/-- The state before the element is loaded. -/
def state : State :=
  ((Progress.fetch environment)^[3] (Progress.start environment inputs emptyMachine)).state

theorem isAnalysed : environment.shader.IsAnalysed := isAnalysed_get _ _

theorem isTyped : environment.shader.IsTyped := by decide +kernel

theorem visits : Visits environment inputs emptyMachine state 96 :=
  visits_of_offset? (by decide +kernel)

theorem isLoad : IsLoad load 3 18 19 := ⟨by decide, by decide, by decide, by decide⟩

end BehindVariable

/-- Two typed modules that ask for a component that is not found: one takes the last number of a
structure and has a fault, and one loads behind a variable, whose two numbers are seven, and gets
zero. -/
theorem components_are_not_found :
    (FarPart.environment.shader.IsAnalysed ∧ FarPart.environment.shader.IsTyped ∧
      ∃ s offset i, Visits FarPart.environment ∅ emptyMachine s offset ∧
        FarPart.environment.shader.definition offset = .ok i ∧ TakesFarPart FarPart.environment i ∧
        (step FarPart.environment i).run s = (.error .indexOutOfRange, s)) ∧
    (BehindVariable.environment.shader.IsAnalysed ∧ BehindVariable.environment.shader.IsTyped ∧
      ∃ s offset i, Visits BehindVariable.environment BehindVariable.inputs emptyMachine s offset ∧
        BehindVariable.environment.shader.definition offset = .ok i ∧ IsLoad i 3 18 19 ∧
        s.target 18 = .ok (.variable 13 (.splat 5)) ∧
        s.storage 13 = .ok [.splat 7, .splat 7] ∧
        (step BehindVariable.environment i).run s =
          (.ok .next, s.withValue 19 (.components [.splat 0]))) := by
  constructor
  · have hvalue : (FarPart.environment.operand FarPart.state 7).toOption.isSome = true := by
      decide +kernel
    obtain ⟨o, ho⟩ := Option.isSome_iff_exists.mp hvalue
    exact ⟨FarPart.isAnalysed, FarPart.isTyped, FarPart.state, 40, FarPart.extract, FarPart.visits,
      by decide +kernel, FarPart.takesFarPart,
      step_of_takesFarPart FarPart.isAnalysed FarPart.takesFarPart (by decide)
        (toOption_eq_some.mp ho)⟩
  · have htarget : BehindVariable.state.target 18 = .ok (.variable 13 (.splat 5)) := by
      decide +kernel
    have hstorage : BehindVariable.state.storage 13 = .ok [.splat 7, .splat 7] := by
      decide +kernel
    have hcount : BehindVariable.environment.declarations.componentCount 3 = .ok 1 := by
      decide +kernel
    have hnew : BehindVariable.state.Lacks 19 := by unfold State.Lacks; decide +kernel
    have hrun := BehindVariable.isLoad.run_eq htarget hstorage hcount hnew
    have hzero : Storage.load [.splat 7, .splat 7] (.splat 5) 1 = [.splat 0] := by decide
    rw [hzero] at hrun
    exact ⟨BehindVariable.isAnalysed, BehindVariable.isTyped, BehindVariable.state, 96,
      BehindVariable.load, BehindVariable.visits, by decide +kernel, BehindVariable.isLoad, htarget,
      hstorage, hrun⟩

end HostGpu.Execution
