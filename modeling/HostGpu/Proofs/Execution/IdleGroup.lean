import HostGpu.Proofs.Execution.Composite
import HostGpu.Proofs.Execution.IdleLanes
import HostGpu.Proofs.Execution.Lockstep
import HostGpu.Proofs.Execution.LastUse
import HostGpu.Proofs.Execution.Noninterference

/-!
# Groups without active lanes

A run for a group of which no lane is active leaves no trace: it stores nothing, samples nothing,
and its outputs keep their initial values.  What its lanes hold decides only where pointers lead,
and through these the group reaches nothing.  There is one exception.  An access chain takes the
index of a descriptor from the first active lane, and from the last lane if none is active; if that
lane holds an index that the binding does not have, the run ends with a fault.  Two runs with other
inputs, at other positions, end alike unless this happens in one of them
(`group_without_lanes_leaves_no_trace`).
-/

namespace HostGpu

open Lanes Outcome Spirv Shader Execution

/-- No lane takes part. -/
def Setup.NoneActive (s : Setup) : Prop := ∀ l, s.active.get l = 0

namespace Setup.NoneActive

variable {s : Setup} (h : s.NoneActive)
include h

theorem anyOn_active : s.active.anyOn = false :=
  Bool.eq_false_iff.mpr fun hany => by
    obtain ⟨l, hl⟩ := (anyOn_eq_true_iff _).mp hany
    exact hl (h l)

theorem get_storing (l : Lane) : s.storing.get l = 0 := by
  rw [storing, Lanes.and, get_zipWith, h l, UInt32.zero_and]

end Setup.NoneActive

namespace Execution

/-! ## What is left behind -/

/-- A run leaves blocks, the device, the call sites and the record of events as they were. -/
structure Machine.SameAs (m m' : Machine) : Prop where
  sizes : SameSizes m'.blocks m.blocks
  bytes : ∀ block j, m.blocks.byte block j = m'.blocks.byte block j
  device : m.device = m'.device
  cache : m.cache = m'.cache
  events : m.events = m'.events

variable {e : Environment} {i : Instruction} {s s' : State}

/-- The last lane leads a group without active lanes. -/
theorem leadLane_eq (h : e.NoneActive) : e.leadLane = 3 := by
  have hnone : e.active.firstOn? = none :=
    List.find?_eq_none.mpr fun l _ => by simpa using h l
  rw [Environment.leadLane, hnone]
  rfl

/-- **A run without active lanes leaves everything as it was**, however it ends. -/
theorem run_sameAs (h : e.NoneActive) (inputs : InterfaceValues) (machine : Machine) :
    ((run e inputs).run { machine }).2.machine.SameAs machine := by
  have hsampling : SameSampling { machine } ((run e inputs).run { machine }).2 := by
    refine run_keeps (I := SameSampling { machine }) (fun s _ i _ _ hs => hs.trans ?_)
      (quiet_forM (quiet_initGlobal inputs) e.declarations.globals { machine })
    refine sameSampling_of_lookUp_eq_none ?_
    simp [lookUp?, h.anyOn_active]
  refine ⟨run_sameSizes e inputs machine, fun block j => ?_, hsampling.device, hsampling.cache,
    hsampling.events⟩
  by_contra hne
  obtain ⟨_, _, _, l, -, -, hl, -⟩ := exists_laneWrites_of_run hne
  exact hl (h.get_storing l)

/-- All outputs of a run without active lanes hold what they started with. -/
theorem storage_of_holdsInitial {id : Nat} (h : e.NoneActive) (hid : HoldsInitial e id s) :
    ∃ initial, e.initialStorage id = .ok initial ∧ s.storages[id]? = some initial := by
  obtain ⟨initial, storage, hinitial, hstorage, hrows⟩ := hid
  have hall : storage = initial :=
    List.forall₂_eq_eq_eq ▸ hrows.imp fun v w hv => Lanes.ext_get fun l => hv l (h l)
  exact ⟨initial, hinitial, hall ▸ hstorage⟩

/-! ## Values of one shape -/

/-- Pointers that lead to things of one kind. -/
inductive Target.SameKind : Target → Target → Prop
  | descriptor (a a' : DescriptorAddress) : SameKind (.descriptor a) (.descriptor a')
  | variable (id : Nat) (offsets offsets' : WordLanes) :
      SameKind (.variable id offsets) (.variable id offsets')
  | texel (p p' : TexelPointer) : SameKind (.texel p) (.texel p')

theorem Target.SameKind.refl : ∀ t : Target, t.SameKind t
  | .descriptor a => .descriptor a a
  | .variable id offsets => .variable id offsets offsets
  | .texel p => .texel p p

/-- States whose values have the same kinds and numbers of components. -/
abbrev State.SameShape : State → State → Prop :=
  State.Related (fun _ => False) (fun _ _ => True) Target.SameKind

/-- An access chain takes an index of a descriptor from the lane that leads which the binding does
not have. -/
inductive Strays (e : Environment) (s : State) (i : Instruction) : Fault → Prop
  | intro {result base : Nat} {index : WordLanes} {slot : DescriptorSlot} {layout : SetLayout}
      {binding : LayoutBinding} (hindex : IndexesDescriptor e s i index)
      (hresult : i.id 2 = .ok result) (hbase : i.id 3 = .ok base) (hlength : i.length = 5)
      (hslot : e.declarations.slot base = .ok slot)
      (hlayout : e.layout.setLayout slot.set = .ok layout)
      (hbinding : layout.binding slot.binding = .ok binding)
      (hcount : binding.count ≤ (index.get e.leadLane).toNat) :
      Strays e s i
        (.descriptorOutOfRange (index.get e.leadLane).toNat slot.binding slot.set)

theorem executeAccessChain_of_strays {fault : Fault} (h : Strays e s i fault) :
    ((executeAccessChain e i).run s).1 = .error fault := by
  obtain @⟨result, base, index, slot, layout, binding, hindex, hresult, hbase, hlength, hslot,
    hlayout, hbinding, hcount⟩ := h
  obtain @⟨_, id, address, _, -, hbase', htarget, hid, hchain⟩ := hindex
  cases hbase.symm.trans hbase'
  have huniform : e.uniformIndex s id = .ok (index.get e.leadLane).toNat := by
    rw [Environment.uniformIndex, hchain, ok_bind]
    rfl
  have htargets : (do chainTarget e s i base (← s.target base)) = .error
      (.descriptorOutOfRange (index.get e.leadLane).toNat slot.binding slot.set) := by
    rw [htarget, ok_bind, chainTarget, indexedDescriptor, if_neg (not_not.mpr hlength)]
    simp only [hslot, hlayout, hbinding, hid, huniform, ok_bind, if_pos hcount]
    rfl
  rw [executeAccessChain, run_lift_bind hresult, run_lift_bind hbase, run_bind, run_inspect,
    htargets]

/-- What strays faults, and nothing else is known of its state. -/
theorem step_of_strays {fault : Fault} (h : Strays e s i fault) :
    ((step e i).run s).1 = .error fault := by
  have hrun := executeAccessChain_of_strays h
  obtain ⟨⟨hop, -⟩, -⟩ := h
  rcases hop with hop | hop <;>
  · rw [step_eq_execute hop (by decide), run_bind]
    rcases hexecute : (execute e i _).run s with ⟨_ | _, _⟩ <;>
      rw [show execute e i _ = executeAccessChain e i from rfl] at hexecute <;>
      rw [hexecute] at hrun <;> cases hrun
    rfl

/-! ## What instructions reach -/

/-- Texels have addresses or not by the shape of coordinates. -/
theorem offsets_alike {c c' : TexelCoordinates}
    (h : c.components.length = c'.components.length) (layout layout' : TexelLayout)
    (size size' : UInt32) (rule rule' : BoundsRule) :
    Alike (fun _ _ => True) (c.offsets layout size rule) (c'.offsets layout' size' rule') := by
  have hempty : c.components.isEmpty = c'.components.isEmpty := by
    rw [Bool.eq_iff_iff, List.isEmpty_iff_length_eq_zero, List.isEmpty_iff_length_eq_zero, h]
  rw [TexelCoordinates.offsets, TexelCoordinates.offsets, hempty]
  split
  · exact .error _
  · exact .ok trivial

namespace State.SameShape

variable {x y mask : WordLanes} (hs : s.SameShape s')
include hs

theorem descriptor_alike (id : Nat) :
    Alike (fun _ _ => True) (s.descriptor id) (s'.descriptor id) := by
  refine (hs.target id).bind fun t t' ht => ?_
  cases ht with
  | descriptor => exact .ok trivial
  | «variable» | texel => exact .error _

theorem texelPointer_alike (r : TexelRequest) {coordinate : Operand} (rule : BoundsRule)
    (hcoordinate : r.coordinate.components.length = coordinate.components.length) :
    Alike (fun _ _ => True) (e.texelPointer s r)
      ((e.moved x y mask).texelPointer s' { r with coordinate, rule }) := by
  refine (descriptor_alike hs r.image).bind fun _ _ _ => ?_
  refine (Environment.samples_alike e x y mask hs r.sample).bind fun _ _ _ => ?_
  exact (offsets_alike hcoordinate _ _ _ _ _ _).bind fun _ _ _ => .ok trivial

variable (i : Instruction)

/-! ### Images -/

theorem imageLoad_alike :
    Alike (fun l l' => l.format = l'.format) (e.imageLoad s i)
      ((e.moved x y mask).imageLoad s' i) := by
  refine .bind_same fun image _ => .bind_same fun type _ => .bind_same fun id _ => ?_
  refine (Environment.operand_alike e x y mask hs id).bind fun _ _ hcoordinate => ?_
  refine .bind_same fun operands _ => .bind_same fun sample _ => ?_
  refine .bind_same fun format _ => .bind_same fun stencil _ => ?_
  refine (texelPointer_alike hs _ _ hcoordinate.components.length_eq).bind fun _ _ _ => ?_
  exact .bind_same fun sizes _ => .ok rfl

theorem imageRead_alike :
    Alike (RowsAgree fun _ => False) (e.imageRead s i) ((e.moved x y mask).imageRead s' i) := by
  refine .bind_same fun _ _ => .bind_same fun count _ => ?_
  refine (imageLoad_alike hs i).bind fun load load' hformat => ?_
  rw [← hformat]
  cases load.format.layout? with
  | none => exact .error _
  | some layout => exact .ok (List.forall₂_take _ (channels_agree fun _ hl => hl.elim))

theorem imageStore_alike :
    Alike (fun _ _ => True) (e.imageStore s i) ((e.moved x y mask).imageStore s' i) := by
  refine .bind_same fun image _ => .bind_same fun type _ => .bind_same fun id _ => ?_
  refine (Environment.operand_alike e x y mask hs id).bind fun _ _ hcoordinate => ?_
  refine .bind_same fun id _ => (Environment.operand_alike e x y mask hs id).bind fun _ _ _ => ?_
  refine .bind_same fun operands _ => .bind_same fun sample _ => ?_
  cases type.format.format? with
  | none => exact .error _
  | some format =>
    dsimp only
    cases format.writer? with
    | none => exact .error _
    | some layout =>
      refine (texelPointer_alike hs _ _ hcoordinate.components.length_eq).bind fun _ _ _ => ?_
      exact .bind_same fun sizes _ => .ok trivial

theorem imageTexelPointer_alike :
    Alike (fun _ _ => True) (e.imageTexelPointer s i)
      ((e.moved x y mask).imageTexelPointer s' i) := by
  refine .bind_same fun image _ => .bind_same fun objectType _ => .bind_same fun type _ => ?_
  refine .bind_same fun id _ => ?_
  refine (Environment.operand_alike e x y mask hs id).bind fun _ _ hcoordinate => ?_
  exact .bind_same fun sample _ =>
    texelPointer_alike hs _ _ hcoordinate.components.length_eq

/-! ### Queries -/

theorem imageRecord_alike (image : Nat) :
    Alike (fun _ _ => True) (e.imageRecord s image) ((e.moved x y mask).imageRecord s' image) := by
  refine (descriptor_alike hs image).bind fun a a' _ => .bind_same fun kind _ => ?_
  split <;> first | exact .ok trivial | exact .error _

theorem querySize_alike (lod : Option Nat) :
    Alike (RowsAgree fun _ => False) (e.querySize s i lod)
      ((e.moved x y mask).querySize s' i lod) := by
  refine .bind_same fun _ _ => .bind_same fun count _ => .bind_same fun image _ => ?_
  refine .bind_same fun type _ => ?_
  dsimp only
  generalize (if type.arrayed = true then 1 else 0) = layers
  split
  · exact .error _
  · refine (imageRecord_alike hs image).bind fun record record' _ => ?_
    refine (Environment.lod_alike e x y mask hs lod).bind fun _ _ _ => ?_
    rw [record.length_extent, record'.length_extent]
    split
    · exact .error _
    · refine .ok (.of_length_eq ?_)
      simp only [List.length_append, List.length_map, List.length_take, List.length_drop,
        ImageRecord.length_extent]

theorem queryLevels_alike :
    Alike (fun _ _ => True) (e.queryLevels s i) ((e.moved x y mask).queryLevels s' i) := by
  refine .bind_same fun image _ => (descriptor_alike hs image).bind fun a a' _ => ?_
  refine .bind_same fun kind _ => ?_
  split <;> first | exact .ok trivial | exact .error _

theorem querySamples_alike :
    Alike (fun _ _ => True) (e.querySamples s i) ((e.moved x y mask).querySamples s' i) := by
  refine .bind_same fun image _ => .bind_same fun type _ => ?_
  dsimp only
  split
  · exact .error _
  · refine (descriptor_alike hs image).bind fun a a' _ => .bind_same fun kind _ => ?_
    split <;> first | exact .ok trivial | exact .error _

/-! ### Pointers -/

omit i in
theorem loadedValue_alike (type : TypeInfo) {t t' : Target} (ht : t.SameKind t') :
    Alike (Value.Related (fun _ => False) Target.SameKind) (loadedValue e s type t)
      (loadedValue (e.moved x y mask) s' type t') := by
  cases ht with
  | descriptor a a' =>
    rw [loadedValue, loadedValue]
    split
    · exact .ok (.pointer (.descriptor a a'))
    · exact .error _
  | «variable» id offsets offsets' =>
    exact (hs.storage id).bind fun _ _ hstorage =>
      .ok (.components (Storage.load_agree hstorage (fun _ hl => hl.elim) _))
  | texel p p' => exact .ok (.components (RowsAgree.single fun _ hl => hl.elim))

/-- A store replaces a storage by one of the same length. -/
theorem setStorage_store (id : Nat) {storage storage' : List WordLanes}
    (h : RowsAgree (fun _ => False) storage storage')
    (offsets offsets' mask mask' : WordLanes) (list list' : List WordLanes) :
    (s.setStorage id (Storage.store storage offsets mask list)).SameShape
      (s'.setStorage id (Storage.store storage' offsets' mask' list')) :=
  hs.setStorage id (.of_length_eq (by simpa [Storage.store] using h.length_eq))

omit i in
theorem storedState_alike {value value' : Operand}
    (hvalue : value.AgreeOn (fun _ => False) value') {t t' : Target} (ht : t.SameKind t') :
    Alike State.SameShape (storedState e s value t)
      (storedState (e.moved x y mask) s' value' t') := by
  cases ht with
  | descriptor => exact .error _
  | «variable» id offsets offsets' =>
    exact (hs.storage id).bind fun _ _ hstorage => .ok (setStorage_store hs id hstorage ..)
  | texel p p' =>
    exact (hvalue.component 0).bind fun _ _ _ => .ok ⟨trivial, hs.values, hs.storages⟩

omit i in
theorem atomicAdd_alike (value value' : WordLanes) {t t' : Target} (ht : t.SameKind t') :
    Alike (fun r r' => Lanes.AgreeOn (fun _ => False) r.1 r'.1 ∧ r.2.SameShape r'.2)
      (atomicAdd e s value t) (atomicAdd (e.moved x y mask) s' value' t') := by
  cases ht with
  | descriptor => exact .error _
  | «variable» id offsets offsets' =>
    exact (hs.storage id).bind fun _ _ hstorage =>
      .ok ⟨fun _ hl => hl.elim, setStorage_store hs id hstorage ..⟩
  | texel p p' => exact .ok ⟨fun _ hl => hl.elim, trivial, hs.values, hs.storages⟩

/-- What points to a descriptor does so in both states. -/
theorem exists_descriptor {id : Nat} {a : DescriptorAddress}
    (h : s.target id = .ok (.descriptor a)) : ∃ a', s'.target id = .ok (.descriptor a') := by
  have htarget := hs.target id
  rw [h] at htarget
  generalize s'.target id = t' at htarget
  cases htarget with
  | ok ht =>
    cases ht with
    | descriptor _ a' => exact ⟨a', rfl⟩

/-- Where neither run strays, both find a descriptor or neither does. -/
theorem indexedDescriptor_alike (hstrays : ∀ fault, ¬ Strays e s i fault)
    (hstrays' : ∀ fault, ¬ Strays (e.moved x y mask) s' i fault)
    (hop : i.op? = some .opAccessChain ∨ i.op? = some .opInBoundsAccessChain) {result base : Nat}
    (hresult : i.id 2 = .ok result) (hbase : i.id 3 = .ok base) {a a' : DescriptorAddress}
    (ha : s.target base = .ok (.descriptor a)) :
    Alike (fun _ _ => True) (indexedDescriptor e s i base a)
      (indexedDescriptor (e.moved x y mask) s' i base a') := by
  obtain ⟨_, ha'⟩ := exists_descriptor hs ha
  rw [indexedDescriptor, indexedDescriptor]
  by_cases hlength : i.length = 5
  case neg =>
    rw [if_pos hlength, if_pos hlength]
    exact .error _
  rw [if_neg (not_not.mpr hlength), if_neg (not_not.mpr hlength)]
  refine .bind_same fun slot hslot => .bind_same fun layout hlayout => ?_
  refine .bind_same fun binding hbinding => .bind_same fun id hid => ?_
  have hindex := e.chainIndex_alike x y mask hs id
  rw [Environment.uniformIndex, Environment.uniformIndex]
  rcases hchain : e.chainIndex s id with fault | index <;>
    rcases hchain' : (e.moved x y mask).chainIndex s' id with fault' | index' <;>
    rw [hchain, hchain'] at hindex <;> cases hindex
  case error.error.error => exact .error _
  case ok.ok.ok hindex =>
    cases hindex with
    | literal index =>
      simp only [ok_bind, pure_bind]
      split
      · exact .error _
      · exact .ok trivial
    | @lanes lanes lanes' _ =>
      have hcount : ¬ binding.count ≤ (lanes.get e.leadLane).toNat := fun hcount =>
        hstrays _ (.intro ⟨hop, hbase, ha, hid, hchain⟩ hresult hbase hlength hslot hlayout
          hbinding hcount)
      have hcount' : ¬ binding.count ≤ (lanes'.get (e.moved x y mask).leadLane).toNat :=
        fun hcount => hstrays' _ (.intro ⟨hop, hbase, ha', hid, hchain'⟩ hresult hbase hlength
          hslot hlayout hbinding hcount)
      simp only [ok_bind, pure_bind, if_neg hcount, if_neg hcount']
      exact .ok trivial

/-- The same holds of whatever an access chain starts from. -/
theorem chainTarget_alike (hstrays : ∀ fault, ¬ Strays e s i fault)
    (hstrays' : ∀ fault, ¬ Strays (e.moved x y mask) s' i fault)
    (hop : i.op? = some .opAccessChain ∨ i.op? = some .opInBoundsAccessChain) {result base : Nat}
    (hresult : i.id 2 = .ok result) (hbase : i.id 3 = .ok base) {t t' : Target}
    (htarget : s.target base = .ok t) (ht : t.SameKind t') :
    Alike Target.SameKind (chainTarget e s i base t)
      (chainTarget (e.moved x y mask) s' i base t') := by
  cases ht with
  | descriptor a a' =>
    exact (indexedDescriptor_alike hs i hstrays hstrays' hop hresult hbase htarget).bind
      fun _ _ _ => .ok (.descriptor _ _)
  | «variable» id offsets offsets' =>
    refine .bind_same fun objectType _ => ?_
    have hindices : Alike (List.Forall₂ (ChainIndex.AgreeOn fun _ => False))
        ((i.words.drop 4).mapM fun id => e.chainIndex s id.toNat)
        ((i.words.drop 4).mapM fun id => (e.moved x y mask).chainIndex s' id.toNat) :=
      .mapM (List.forall₂_same.mpr fun _ _ => rfl) fun id _ heq => heq ▸
        Environment.chainIndex_alike e x y mask hs _
    refine hindices.bind fun indices indices' hindices => ?_
    refine (walk_alike e.shader ⟨rfl, .refl _⟩ hindices).bind fun _ _ _ => ?_
    exact .ok (.variable id _ _)
  | texel p p' => exact .error _

/-! ### All instructions -/

variable (h : e.NoneActive)
include h

/-- Nothing is sampled. -/
theorem executeSampling_alike (op : Opcode) :
    EndsAlike State.SameShape Eq ((executeSampling e i op).run s)
      ((executeSampling (e.moved x y e.active) i op).run s') := by
  refine .lift_bind_same hs fun site _ => .lift_bind_same hs fun count _ => ?_
  rw [Environment.moved_active, h.anyOn_active]
  exact .defineComponents hs site.result (.refl _)

/-- **Every instruction** ends alike in states of one shape, unless it strays. -/
theorem step_alike : EndsAlikeUnless (Strays e s i) (Strays (e.moved x y e.active) s' i)
    State.SameShape Eq ((step e i).run s) ((step (e.moved x y e.active) i).run s') := by
  by_cases hstrays : ∃ fault, Strays e s i fault
  · obtain ⟨fault, hfault⟩ := hstrays
    exact .left hfault (step_of_strays hfault)
  by_cases hstrays' : ∃ fault, Strays (e.moved x y e.active) s' i fault
  · obtain ⟨fault, hfault⟩ := hstrays'
    exact .right hfault (step_of_strays hfault)
  refine .alike (.step hs Target.SameKind.refl fun op hop => ?_)
  exact {
    load := fun ht => loadedValue_alike hs _ ht
    store := fun _ _ _ _ _ _ _ _ ht hvalue => storedState_alike hs hvalue ht
    chain := fun hchain _ _ _ _ hresult hbase htarget ht =>
      have hchain := hchain.imp (hop.trans <| congrArg some ·) (hop.trans <| congrArg some ·)
      chainTarget_alike hs i (not_exists.mp hstrays) (not_exists.mp hstrays') hchain hresult hbase
        htarget ht
    add := fun _ _ _ _ _ _ _ _ ht _ => atomicAdd_alike hs _ _ ht
    size := querySize_alike hs i
    levels := (queryLevels_alike hs i).mono fun _ _ _ _ hl => hl.elim
    samples := (querySamples_alike hs i).mono fun _ _ _ _ hl => hl.elim
    read := imageRead_alike hs i
    write := fun _ =>
      (imageStore_alike hs i).bind fun _ _ _ => .ok ⟨trivial, hs.values, hs.storages⟩
    pointer := (imageTexelPointer_alike hs i).mono fun p p' _ => .texel p p'
    sampling := fun _ => executeSampling_alike hs i h op }

end State.SameShape

/-! ## Runs -/

section

variable {x y : WordLanes} (h : e.NoneActive) (inputs inputs' : InterfaceValues)
  (machine machine' : Machine)

/-- What inputs start with has the shape of their variable. -/
theorem inputStorage_alike (mask : WordLanes) (id : Nat) (storage : List WordLanes) :
    Alike (RowsAgree fun _ => False) (e.inputStorage inputs id storage)
      ((e.moved x y mask).inputStorage inputs' id storage) := by
  have hfill (values values' : List WordLanes) : RowsAgree (fun _ => False)
      (Storage.fill storage values) (Storage.fill storage values') :=
    .of_length_eq (by rw [Storage.length_fill, Storage.length_fill])
  have hkept (values : List WordLanes) : RowsAgree (fun _ => False) storage
      (Storage.fill storage values) := .of_length_eq (Storage.length_fill storage values).symm
  simp only [Environment.inputStorage, Environment.moved_declarations]
  cases (e.declarations.decorations[id]?.getD {}).builtIn with
  | some b =>
    cases b with
    | fragCoord => exact .ok (hfill _ _)
    | _ => exact .same _ RowsAgree.refl
  | none =>
    dsimp only
    cases (e.declarations.decorations[id]?.getD {}).location.bind (inputs[·]?) with
    | none =>
      cases (e.declarations.decorations[id]?.getD {}).location.bind (inputs'[·]?) with
      | none => exact .ok (.refl storage)
      | some values' => exact .ok (hkept values')
    | some values =>
      cases (e.declarations.decorations[id]?.getD {}).location.bind (inputs'[·]?) with
      | none => exact .ok (hkept values).symm
      | some values' => exact .ok (hfill values values')

/-- An instruction of a run strays. -/
def StraysIn (e : Environment) (inputs : InterfaceValues) (machine : Machine) (fault : Fault) :
    Prop :=
  ∃ s offset i, Visits e inputs machine s offset ∧ e.shader.definition offset = .ok i ∧
    Strays e s i fault

include h in
/-- **Runs without active lanes** end alike, whatever their inputs and positions are, unless one of
them strays. -/
theorem run_alike_of_noneActive :
    EndsAlikeUnless (StraysIn e inputs machine)
      (StraysIn (e.moved x y e.active) inputs' machine') State.SameShape (fun _ _ => True)
      ((run e inputs).run { machine })
      ((run (e.moved x y e.active) inputs').run { machine := machine' }) := by
  refine run_alike (fun s s' offset i hvisits hvisits' hi hs => ?_)
    (.forM _ (fun id t t' ht => .initGlobal ht Target.SameKind.refl
      (inputStorage_alike inputs inputs' e.active) id) (.initial _ trivial)) fun _ _ _ => trivial
  exact (State.SameShape.step_alike hs i h).mono
    (fun _ hfault => ⟨s, offset, i, hvisits, hi, hfault⟩)
    fun _ hfault => ⟨s', offset, i, hvisits', hi, hfault⟩

/-- The outputs of states are the same if their storages are. -/
theorem outputs_eq_of_storages {s s' : State}
    (h : ∀ id ∈ e.declarations.globals, e.IsOutput id → s.storages[id]? = s'.storages[id]?) :
    e.outputs s = e.outputs s' := by
  refine List.foldl_ext _ _ _ fun values id hid => ?_
  by_cases houtput : e.IsOutput id
  · rw [h id hid houtput]
  · rw [Environment.IsOutput, Bool.not_eq_true] at houtput
    rw [houtput]

include h in
/-- Whatever the inputs are, a run without active lanes that gives outputs gives the same ones. -/
theorem outputs_eq_of_noneActive {outputs outputs' : InterfaceValues} {s s' : State}
    (hrun : (run e inputs).run { machine } = (.ok outputs, s))
    (hrun' : (run (e.moved x y e.active) inputs').run { machine := machine' } =
      (.ok outputs', s')) : outputs = outputs' := by
  have hends := holdsInitial_of_run e inputs machine
  have hends' := holdsInitial_of_run (e.moved x y e.active) inputs' machine'
  rw [Ends, hrun] at hends
  rw [Ends, hrun'] at hends'
  obtain ⟨hholds, rfl⟩ := hends
  obtain ⟨hholds', rfl⟩ := hends'
  refine outputs_eq_of_storages fun id hid houtput => ?_
  obtain ⟨initial, hinitial, hstorage⟩ := storage_of_holdsInitial h (hholds id hid houtput)
  obtain ⟨initial', hinitial', hstorage'⟩ :=
    storage_of_holdsInitial (e := e.moved x y e.active) h (hholds' id hid houtput)
  obtain rfl : initial = initial' := Except.ok.inj (hinitial.symm.trans hinitial')
  rw [hstorage, hstorage']

include h in
/-- So a run without active lanes has one outcome, if it does not stray. -/
theorem outcome_eq_or_strays :
    ((run e inputs).run { machine }).1 =
        ((run (e.moved x y e.active) inputs').run { machine := machine' }).1 ∨
      (∃ fault, StraysIn e inputs machine fault ∧
        ((run e inputs).run { machine }).1 = .error fault) ∨
      ∃ fault, StraysIn (e.moved x y e.active) inputs' machine' fault ∧
        ((run (e.moved x y e.active) inputs').run { machine := machine' }).1 = .error fault := by
  have halike := run_alike_of_noneActive (x := x) (y := y) h inputs inputs' machine machine'
  cases halike with
  | left hfault hrun => exact .inr (.inl ⟨_, hfault, hrun⟩)
  | right hfault hrun => exact .inr (.inr ⟨_, hfault, hrun⟩)
  | alike halike =>
    have houtcome := halike.outcome
    rcases hrun : (run e inputs).run { machine } with ⟨r, s⟩
    rcases hrun' : (run (e.moved x y e.active) inputs').run { machine := machine' } with ⟨r', s'⟩
    rw [hrun, hrun'] at houtcome
    cases houtcome with
    | error fault => exact .inl rfl
    | ok => exact .inl (congrArg Except.ok (outputs_eq_of_noneActive h _ _ _ _ hrun hrun'))

end

end Execution

/-- A run changes nothing: no memory, no device and no call site, and nothing happens in it. -/
structure RunResult.LeavesNoTrace (result : RunResult) (r : Routine) (blocks : BlockTable)
    (device : Device) : Prop where
  sizes : SameSizes blocks result.blocks
  bytes : ∀ block j, result.blocks.byte block j = blocks.byte block j
  resolved : result.device = device
  kept : result.routine.cache = r.cache
  events : result.events = []

namespace Routine

/-- A run ends with a fault because an access chain strays. -/
def Strays (r : Routine) (sets : SetTable) (blocks : BlockTable) (device : Device)
    (inputs : InterfaceValues) : Prop :=
  ∃ fault, StraysIn { r.toSetup with sets } inputs (r.machine blocks device) fault ∧
    (r.run sets blocks device inputs).outcome = .error fault

/-- **A group without active lanes leaves no trace.**  Its run changes no memory, neither asks for a
sampling function nor calls one, and leaves the device and the call sites as they were, however it
ends.  Whatever its inputs are and wherever its lanes stand, it ends with the same fault or with the
same outputs, unless an access chain selects a descriptor by an index that is not constant, and the
last lane, which leads if none is active, holds one that the binding does not have. -/
theorem group_without_lanes_leaves_no_trace (r : Routine) (hnone : r.NoneActive) (sets : SetTable)
    (blocks : BlockTable) (device : Device) (inputs : InterfaceValues) :
    (r.run sets blocks device inputs).LeavesNoTrace r blocks device ∧
    Environment.leadLane { r.toSetup with sets } = 3 ∧
    ∀ (x y : WordLanes) (inputs' : InterfaceValues),
      (r.run sets blocks device inputs).outcome =
        ({ r with windowX := x, windowY := y }.run sets blocks device inputs').outcome ∨
      r.Strays sets blocks device inputs ∨
      Strays { r with windowX := x, windowY := y } sets blocks device inputs' := by
  have hsame := run_sameAs (e := { r.toSetup with sets }) hnone inputs (r.machine blocks device)
  refine ⟨⟨hsame.sizes, hsame.bytes, hsame.device, hsame.cache, ?_⟩, leadLane_eq hnone, ?_⟩
  · exact congrArg List.reverse hsame.events
  · exact fun x y inputs' => outcome_eq_or_strays (e := { r.toSetup with sets }) hnone inputs
      inputs' (r.machine blocks device) (r.machine blocks device)

/-! ### An index in an idle lane -/

namespace IdleIndex

/-- A module that reads a texel of one of two storage images, at its input and from the image that
its input selects, and stores it to its output. -/
def words : List UInt32 := [
  0x07230203, 0x00010000, 0, 24, 0,
  0x0004000F, 4, 8, 0, -- the entry point
  0x00040047, 6, 34, 0, 0x00040047, 6, 33, 0, -- set 0 and binding 0
  0x00040047, 10, 30, 0, 0x00040047, 11, 30, 0, -- locations 0
  0x00040015, 1, 32, 0, 0x00040017, 20, 1, 4, -- words and four of them
  0x00090019, 2, 1, 0, 0, 0, 0, 2, 33, 0x0004002B, 1, 5, 2, 0x0004001C, 7, 2, 5, -- two images
  0x00040020, 3, 0, 7, 0x00040020, 12, 0, 2, 0x00040020, 13, 1, 1, 0x00040020, 14, 3, 1,
  0x0004003B, 3, 6, 0, 0x0004003B, 13, 10, 1, 0x0004003B, 14, 11, 3, -- images, input and output
  0x00050036, 9, 8, 0, 15, 0x000200F8, 16,
  0x0004003D, 1, 17, 10, 0x00050041, 12, 18, 6, 17, -- the image that the input selects
  0x0004003D, 2, 19, 18, 0x00050062, 20, 21, 19, 17,
  0x00050051, 1, 22, 21, 0, 0x0003003E, 11, 22,
  0x000100FD, 0x00010038]

/-- A session that gives the module two images of one texel.  All names are empty. -/
def commands : List Session.Command := [
  .device "" true none,
  .image "" "" { kind := .dim1, format := .r32Uint, extent := ⟨1, 1, 1⟩ },
  .view "" "" { preset := .wholeImage },
  .setLayout "" "" [{ number := 0, kind := .storageImage, count := 2 }],
  .set "" "",
  .update "" [{ binding := 0, elements := .views ["", ""] }] [],
  .pipelineLayout "" "" [""],
  .shader "" "" words,
  .routine "" "" "" {},
  .bind "" "" 0]

/-- The routine of the session, with no lane active. -/
def routine : Routine :=
  { ((Session.after commands).routines[""]?).get (by decide +kernel) with
    active := .splat 0 }

/-- The last lane holds an index. -/
def inputs (last : UInt32) : InterfaceValues := Std.TreeMap.empty.insert 0 [⟨0, 0, 0, last⟩]

def result (last : UInt32) : RunResult :=
  routine.run (Session.after commands).store.sets (Session.after commands).store.blocks {}
    (inputs last)

theorem noneActive : routine.NoneActive := by
  intro l
  match l with
  | 0 | 1 | 2 | 3 => rfl

/-- The binding has both images. -/
theorem isOk_result (last : UInt32) (h : last = 0 ∨ last = 1) :
    (result last).outcome.toOption.isSome = true := by
  rcases h with rfl | rfl <;> decide +kernel

end IdleIndex

open IdleIndex in
/-- Whichever of both images the last lane selects, the outcome is the same. -/
theorem either_index_leaves_no_trace : routine.NoneActive ∧
    (result 0).LeavesNoTrace routine (Session.after commands).store.blocks {} ∧
    (result 0).outcome = (result 1).outcome := by
  obtain ⟨htrace, -, houtcome⟩ := group_without_lanes_leaves_no_trace routine noneActive
    (Session.after commands).store.sets (Session.after commands).store.blocks {} (inputs 0)
  refine ⟨noneActive, htrace, ?_⟩
  rcases houtcome routine.windowX routine.windowY (inputs 1) with heq | ⟨_, -, h⟩ | ⟨_, -, h⟩
  · exact heq
  · have hok := isOk_result 0 (.inl rfl)
    rw [result, h] at hok
    cases hok
  · have hok := isOk_result 1 (.inr rfl)
    change (Except.toOption (result 1).outcome).isSome = true at hok
    rw [show (result 1).outcome = _ from h] at hok
    cases hok

open IdleIndex in
/-- **An idle lane decides whether a run faults.**  No lane is active, and the inputs differ in the
last lane only: where it holds zero the run gives its output, and where it holds two the run ends
with a fault. -/
theorem idle_index_faults : routine.NoneActive ∧
    (result 0).outcome.toOption.bind (·[0]?) = some [.splat 0] ∧
    (result 2).outcome = .error (.descriptorOutOfRange 2 0 0) ∧
    (result 2).outcome ≠ (result 0).outcome := by
  have hfault : (match (result 2).outcome with | .ok _ => none | .error fault => some fault) =
      some (Fault.descriptorOutOfRange 2 0 0) := by decide +kernel
  have hresult : (result 2).outcome = .error (.descriptorOutOfRange 2 0 0) := by
    split at hfault
    · cases hfault
    · next heq => rw [heq, Option.some.inj hfault]
  refine ⟨noneActive, by decide +kernel, hresult, fun heq => ?_⟩
  have hok := isOk_result 0 (.inl rfl)
  rw [← heq, hresult] at hok
  cases hok

end Routine

end HostGpu
