import HostGpu.Proofs.Execution.LaneLocal.Instructions
import HostGpu.Proofs.Execution.LaneLocal.Sampling

/-!
# Two runs in lockstep

Two runs whose inputs agree take the same way through a shader and end alike.  Few instructions mix
lanes, and each of these needs something (`InStep`): an index of a descriptor has to be the same in
the lanes that lead, stores to texels have to be made by the same lanes, and sampling functions have
to work lane by lane.
-/

namespace HostGpu.Execution

open Lanes Outcome Spirv Shader

/-! ## Instructions that mix lanes -/

/-- An access chain selects a descriptor by an index that is not constant. -/
inductive IndexesDescriptor (e : Environment) (s : State) (i : Instruction) : WordLanes → Prop
  | intro {base id : Nat} {address : DescriptorAddress} {index : WordLanes}
      (hop : i.op? = some .opAccessChain ∨ i.op? = some .opInBoundsAccessChain)
      (hbase : i.id 3 = .ok base) (htarget : s.target base = .ok (.descriptor address))
      (hid : i.id 4 = .ok id) (hindex : e.chainIndex s id = .ok (.lanes index)) :
      IndexesDescriptor e s i index

/-- An instruction stores to texels or adds to them. -/
inductive StoresTexels (s : State) (i : Instruction) : Prop
  | imageWrite (hop : i.op? = some .opImageWrite)
  | store {id : Nat} {p : TexelPointer} (hop : i.op? = some .opStore) (hid : i.id 1 = .ok id)
      (hp : s.target id = .ok (.texel p))
  | add {id : Nat} {p : TexelPointer} (hop : i.op? = some .opAtomicIAdd) (hid : i.id 3 = .ok id)
      (hp : s.target id = .ok (.texel p))

variable {on : Lane → Prop} {P : SamplingFunction → Prop}

/-- What lets an instruction do the same in two runs. -/
structure InStep (on : Lane → Prop) (P : SamplingFunction → Prop) (e : Environment)
    (x y mask : WordLanes) (s : State) (i : Instruction) : Prop where
  index : ∀ index, IndexesDescriptor e s i index →
    index.get e.leadLane = index.get (e.moved x y mask).leadLane
  stores : StoresTexels s i → Environment.SameStores on e mask
  samples : ∀ op, i.op? = some op → op.isSampling = true → ∀ f, P f → LaneLocal on f

section

variable {e : Environment} {x y mask : WordLanes} (h : e.AgreeOn on P x y mask) {s s' : State}
  (hs : s.AgreeOn on P s') {i : Instruction} (hstep : InStep on P e x y mask s i)
include h hs

/-! ## Loads and stores -/

theorem loadedValue_alike (type : TypeInfo) {t t' : Target} (ht : t.AgreeOn on t') :
    Alike (Value.AgreeOn on) (loadedValue e s type t)
      (loadedValue (e.moved x y mask) s' type t') := by
  cases ht with
  | descriptor address =>
    rw [loadedValue, loadedValue]
    split
    · exact .ok (.pointer (.descriptor address))
    · exact .error _
  | «variable» id hoffsets =>
    exact (hs.storage id).bind fun _ _ hstorage =>
      .ok (.components (Storage.load_agree hstorage hoffsets _))
  | texel hp =>
    rw [loadedValue, loadedValue, ← hs.machine.device, ← hs.machine.blocks]
    exact .ok (.components (RowsAgree.single
      (TexelPointer.load_agree (texelRule_ne_unchecked _) hp _ 4 h.active h.moved)))

theorem storedState_alike {value value' : Operand} (hvalue : value.AgreeOn on value')
    {t t' : Target} (ht : t.AgreeOn on t')
    (hstores : ∀ p, t = .texel p → Environment.SameStores on e mask) :
    Alike (State.AgreeOn on P) (storedState e s value t)
      (storedState (e.moved x y mask) s' value' t') := by
  cases ht with
  | descriptor address => exact .error _
  | «variable» id hoffsets =>
    exact (hs.storage id).bind fun _ _ hstorage => .ok (hs.setStorage id
      (Storage.store_agree hstorage hoffsets h.active h.moved hvalue.components))
  | @texel p p' hp =>
    have hmask := hstores p rfl
    refine (hvalue.component 0).bind fun w w' hw => .ok ?_
    have hblocks := TexelPointer.store_congr (texelRule_ne_unchecked s.machine.device) hp
      s.machine.blocks 4 hmask.on_of_storing hw
    rw [hmask.storing, ← hs.machine.device, ← hs.machine.blocks, ← hblocks]
    exact hs.withBlocks _

/-! ## Access chains -/

theorem indexedDescriptor_eq (base : Nat) (address : DescriptorAddress)
    (hlead : ∀ id index, i.id 4 = .ok id → e.chainIndex s id = .ok (.lanes index) →
      index.get e.leadLane = index.get (e.moved x y mask).leadLane) :
    Alike Eq (indexedDescriptor e s i base address)
      (indexedDescriptor (e.moved x y mask) s' i base address) := by
  rw [indexedDescriptor, indexedDescriptor]
  split
  · exact .error _
  · refine .bind_same fun slot _ => .bind_same fun layout _ => .bind_same fun binding _ => ?_
    refine .bind_same fun id hid => ?_
    refine (Environment.uniformIndex_alike e x y mask hs h id fun index => hlead id index hid).bind
      fun index _ heq => ?_
    subst heq
    exact .same _ fun _ => rfl

include hstep in
theorem chainTarget_alike (hop : i.op? = some .opAccessChain ∨ i.op? = some .opInBoundsAccessChain)
    {base : Nat} (hbase : i.id 3 = .ok base) {t t' : Target} (htarget : s.target base = .ok t)
    (ht : t.AgreeOn on t') :
    Alike (Target.AgreeOn on) (chainTarget e s i base t)
      (chainTarget (e.moved x y mask) s' i base t') := by
  cases ht with
  | descriptor address =>
    refine (indexedDescriptor_eq h hs base address fun id index hid hindex =>
      hstep.index index ⟨hop, hbase, htarget, hid, hindex⟩).bind fun a _ heq => ?_
    exact heq ▸ .ok (.descriptor a)
  | «variable» id hoffsets =>
    refine .bind_same fun objectType _ => ?_
    have hindices : Alike (List.Forall₂ (ChainIndex.AgreeOn on))
        ((i.words.drop 4).mapM fun id => e.chainIndex s id.toNat)
        ((i.words.drop 4).mapM fun id => (e.moved x y mask).chainIndex s' id.toNat) :=
      .mapM (List.forall₂_same.mpr fun _ _ => rfl) fun id _ heq => heq ▸
        Environment.chainIndex_alike e x y mask hs _
    refine hindices.bind fun indices indices' h => ?_
    refine (walk_alike e.shader ⟨rfl, .refl _⟩ h).bind fun part part' hpart => ?_
    exact .ok (.variable id (hoffsets.zipWith hpart.offset _))
  | texel hp => exact .error _

/-! ## Atomic addition -/

theorem atomicAdd_alike {value value' : WordLanes} (hvalue : value.AgreeOn on value')
    {t t' : Target} (ht : t.AgreeOn on t')
    (hstores : ∀ p, t = .texel p → Environment.SameStores on e mask) :
    Alike (fun r r' => Lanes.AgreeOn on r.1 r'.1 ∧ r.2.AgreeOn on P r'.2) (atomicAdd e s value t)
      (atomicAdd (e.moved x y mask) s' value' t') := by
  cases ht with
  | descriptor address => exact .error _
  | «variable» id hoffsets =>
    refine (hs.storage id).bind fun _ _ hstorage => ?_
    have hprevious := Storage.scalar_agree hstorage hoffsets 0
    exact .ok ⟨hprevious, hs.setStorage id (Storage.store_agree hstorage hoffsets h.active h.moved
      (RowsAgree.single (hprevious.zipWith hvalue _)))⟩
  | @texel p p' hp =>
    have hmask := hstores p rfl
    have hadd := hp.atomicAdd s.machine.blocks hmask.on_of_storing hvalue
    rw [atomicAdd, atomicAdd, hmask.storing, ← hs.machine.blocks, ← hadd]
    exact .ok ⟨.refl _, hs.withBlocks _⟩

/-! ## All instructions -/

include hstep in
/-- Instructions reach the same in states that agree. -/
theorem reachesAlike {op : Opcode} (hop : i.op? = some op) :
    ReachesAlike on (Machine.AgreeOn on P) (Target.AgreeOn on) e x y mask s s' i op where
  load ht := loadedValue_alike h hs _ ht
  store hstore id value value' t t' hid ht htarget hvalue := by
    subst hstore
    exact storedState_alike h hs hvalue htarget fun p hp => hstep.stores (.store hop hid (hp ▸ ht))
  chain hchain _ base t t' _ hbase ht htarget :=
    have hchain := hchain.imp (hop.trans <| congrArg some ·) (hop.trans <| congrArg some ·)
    chainTarget_alike h hs hstep hchain hbase ht htarget
  add hadd id value value' t t' hid ht htarget hvalue := by
    subst hadd
    exact atomicAdd_alike h hs hvalue htarget fun p hp => hstep.stores (.add hop hid (hp ▸ ht))
  size lod := e.querySize_alike x y mask hs i lod
  levels := by
    rw [e.queryLevels_eq x y mask hs i]
    exact .same _ fun _ => .refl _
  samples := by
    rw [e.querySamples_eq x y mask hs i]
    exact .same _ fun _ => .refl _
  read := Environment.imageRead_alike h hs i
  write hwrite := by
    subst hwrite
    exact Environment.imageWrite_alike h hs i (hstep.stores (.imageWrite hop))
  pointer := (Environment.imageTexelPointer_alike h hs i).mono fun _ _ => .texel
  sampling hsampling := .executeSampling hs h (hstep.samples op hop hsampling) i op

include hstep in
/-- **Every instruction** ends alike in states that agree. -/
theorem step_alike :
    EndsAlike (State.AgreeOn on P) Eq ((step e i).run s)
      ((step (e.moved x y mask) i).run s') :=
  .step hs Target.AgreeOn.refl fun _ hop => reachesAlike h hs hstep hop

end

/-! ## Runs -/

/-- **Whole runs** from machines and inputs that agree end alike, with outputs that agree. -/
theorem run_agree {e : Environment} {x y mask : WordLanes} (h : e.AgreeOn on P x y mask)
    {inputs inputs' : InterfaceValues} {machine machine' : Machine}
    (hstep : ∀ (s : State) (offset : Nat) (i : Instruction), Visits e inputs machine s offset →
      e.shader.definition offset = .ok i → InStep on P e x y mask s i)
    (hmachine : machine.AgreeOn on P machine') (hinputs : inputs.AgreeOn on inputs') :
    EndsAlike (State.AgreeOn on P) (InterfaceValues.AgreeOn on) ((run e inputs).run { machine })
      ((run (e.moved x y mask) inputs').run { machine := machine' }) := by
  refine (run_alike (fun s s' offset i hvisits _ hi hs => ?_) (.forM _
    (fun id t t' ht => h.initGlobal ht hinputs id) (.initial on hmachine))
      fun _ _ ht => ?_).endsAlike
  · exact .alike (step_alike h hs (hstep s offset i hvisits hi))
  · exact ht.outputs e x y mask

end HostGpu.Execution
