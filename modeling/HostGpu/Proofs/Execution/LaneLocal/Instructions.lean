import HostGpu.Proofs.Execution.LaneLocal.Texels
import HostGpu.Proofs.Execution.LaneLocal.Variables
import HostGpu.Proofs.Execution.Run

/-!
# Instructions side by side

Rows of components agree whatever is known of pointers and of machines.  So an instruction that is
executed in two related states ends alike if it does what it does through pointers, in images and by
sampling alike (`ReachesAlike`), and two runs go side by side as long as their instructions do.
Where an instruction may end one of the runs by itself, with a fault of some kind, the runs end
alike unless it does.
-/

namespace HostGpu.Execution

open Lanes Outcome Spirv Shader

variable {on : Lane → Prop} {M : Machine → Machine → Prop} {T : Target → Target → Prop}
  {e : Environment} {x y mask : WordLanes}

/-! ## Instructions -/

/-- What an instruction does through pointers, in images and by sampling it does alike in two
states. -/
structure ReachesAlike (on : Lane → Prop) (M : Machine → Machine → Prop)
    (T : Target → Target → Prop) (e : Environment) (x y mask : WordLanes) (s s' : State)
    (i : Instruction) (op : Opcode) : Prop where
  load : ∀ {type t t'}, T t t' → Alike (Value.Related on T) (loadedValue e s type t)
    (loadedValue (e.moved x y mask) s' type t')
  store : op = .opStore → ∀ {id value value' t t'}, i.id 1 = .ok id → s.target id = .ok t →
    T t t' → Operand.AgreeOn on value value' →
    Alike (State.Related on M T) (storedState e s value t)
      (storedState (e.moved x y mask) s' value' t')
  chain : op = .opAccessChain ∨ op = .opInBoundsAccessChain → ∀ {result base t t'},
    i.id 2 = .ok result → i.id 3 = .ok base → s.target base = .ok t → T t t' →
    Alike T (chainTarget e s i base t) (chainTarget (e.moved x y mask) s' i base t')
  add : op = .opAtomicIAdd → ∀ {id value value' t t'}, i.id 3 = .ok id → s.target id = .ok t →
    T t t' → Lanes.AgreeOn on value value' →
    Alike (fun r r' => Lanes.AgreeOn on r.1 r'.1 ∧ r.2.Related on M T r'.2)
      (atomicAdd e s value t) (atomicAdd (e.moved x y mask) s' value' t')
  size : ∀ lod, Alike (RowsAgree on) (e.querySize s i lod) ((e.moved x y mask).querySize s' i lod)
  levels : Alike (fun n n' => Lanes.AgreeOn on (.splat n) (.splat n')) (e.queryLevels s i)
    ((e.moved x y mask).queryLevels s' i)
  samples : Alike (fun n n' => Lanes.AgreeOn on (.splat n) (.splat n')) (e.querySamples s i)
    ((e.moved x y mask).querySamples s' i)
  read : Alike (RowsAgree on) (e.imageRead s i) ((e.moved x y mask).imageRead s' i)
  write : op = .opImageWrite → Alike (State.Related on M T) (e.imageWrite s i)
    ((e.moved x y mask).imageWrite s' i)
  pointer : Alike (fun p p' => T (.texel p) (.texel p')) (e.imageTexelPointer s i)
    ((e.moved x y mask).imageTexelPointer s' i)
  sampling : op.isSampling = true → EndsAlike (State.Related on M T) Eq
    ((executeSampling e i op).run s) ((executeSampling (e.moved x y mask) i op).run s')

namespace EndsAlike

variable {s s' : State} {i : Instruction} {op : Opcode} (hs : s.Related on M T s')
  (h : ReachesAlike on M T e x y mask s s' i op)
include hs h

theorem load : EndsAlike (State.Related on M T) Eq ((executeLoad e i).run s)
    ((executeLoad (e.moved x y mask) i).run s') := by
  refine .lift_bind_same hs fun type _ => .lift_bind_same hs fun result _ => ?_
  refine .lift_bind_same hs fun source _ => ?_
  have hvalue : Alike (Value.Related on T)
      (do loadedValue e s type (← s.target source))
      (do loadedValue (e.moved x y mask) s' type (← s'.target source)) :=
    (hs.target source).bind fun _ _ ht => h.load ht
  exact .inspect_bind hs hvalue fun _ _ _ hv => .define hs result hv

theorem store (hop : op = .opStore) : EndsAlike (State.Related on M T) Eq
    ((executeStore e i).run s) ((executeStore (e.moved x y mask) i).run s') := by
  have hstored : Alike (State.Related on M T)
      (do
        let target ← s.target (← i.id 1)
        let value ← e.operand s (← i.id 2)
        storedState e s value target)
      (do
        let target ← s'.target (← i.id 1)
        let value ← (e.moved x y mask).operand s' (← i.id 2)
        storedState (e.moved x y mask) s' value target) := by
    refine .bind_same fun id hid => (hs.target id).and_eq_ok.bind fun t t' ht => ?_
    refine .bind_same fun source _ => ?_
    refine (Environment.operand_alike e x y mask hs source).bind fun _ _ hvalue => ?_
    exact h.store hop hid ht.1 ht.2 hvalue
  exact .inspect_bind hs hstored fun _ _ _ ht => ⟨.ok rfl, ht⟩

theorem accessChain (hop : op = .opAccessChain ∨ op = .opInBoundsAccessChain) :
    EndsAlike (State.Related on M T) Eq ((executeAccessChain e i).run s)
      ((executeAccessChain (e.moved x y mask) i).run s') := by
  refine .lift_bind_same hs fun result hresult => .lift_bind_same hs fun base hbase => ?_
  have htarget : Alike T (do chainTarget e s i base (← s.target base))
      (do chainTarget (e.moved x y mask) s' i base (← s'.target base)) :=
    (hs.target base).and_eq_ok.bind fun _ _ ht => h.chain hop hresult hbase ht.1 ht.2
  exact .inspect_bind hs htarget fun _ _ _ ht => .definePointer hs result ht

theorem atomicAdd (hop : op = .opAtomicIAdd) : EndsAlike (State.Related on M T) Eq
    ((executeAtomicAdd e i).run s) ((executeAtomicAdd (e.moved x y mask) i).run s') := by
  refine .lift_bind_same hs fun result _ => ?_
  have hadded : Alike (fun r r' => Lanes.AgreeOn on r.1 r'.1 ∧ r.2.Related on M T r'.2)
      (do
        let target ← s.target (← i.id 3)
        let value ← (← e.operand s (← i.id 6)).component 0
        Execution.atomicAdd e s value target)
      (do
        let target ← s'.target (← i.id 3)
        let value ← (← (e.moved x y mask).operand s' (← i.id 6)).component 0
        Execution.atomicAdd (e.moved x y mask) s' value target) := by
    refine .bind_same fun id hid => (hs.target id).and_eq_ok.bind fun t t' ht => ?_
    refine .bind_same fun source _ => ?_
    refine (Environment.operand_alike e x y mask hs source).bind fun _ _ hoperand => ?_
    exact (hoperand.component 0).bind fun _ _ hvalue => h.add hop hid ht.1 ht.2 hvalue
  refine .inspect_bind hs hadded fun r r' _ hr => ?_
  exact .defineComponents hr.2 result (RowsAgree.single hr.1)

variable (hT : ∀ t, T t t)
include hT

/-- Instructions that do not end a block end alike. -/
theorem execute : EndsAlike (State.Related on M T) Eq ((Execution.execute e i op).run s)
    ((Execution.execute (e.moved x y mask) i op).run s') := by
  unfold Execution.execute
  split
  -- labels, merges and lines
  case h_1 | h_2 | h_3 | h_4 | h_5 => exact .pure hs rfl
  -- variables and undefined values
  case h_6 =>
    refine .lift_bind_same hs fun id _ => ?_
    exact .lift_bind_same hs fun storage _ => .createVariable hs hT id (RowsAgree.refl _)
  case h_7 => exact .compute hs i (.same _ RowsAgree.refl)
  -- loads, stores and access chains
  case h_8 => exact load hs h
  case h_9 => exact store hs h rfl
  case h_10 => exact accessChain hs h (.inl rfl)
  case h_11 => exact accessChain hs h (.inr rfl)
  -- composites
  case h_12 => exact .compute hs i (e.concat_alike x y mask hs _)
  case h_13 => exact .compute hs i (e.extract_alike x y mask hs i)
  case h_14 => exact .compute hs i (e.shuffle_alike x y mask hs i)
  -- queries
  case h_15 => exact .lift_bind_same hs fun lod _ => .compute hs i (h.size (some lod))
  case h_16 => exact .compute hs i (h.size none)
  case h_17 => exact .compute hs i (h.levels.bind fun _ _ hn => .ok (RowsAgree.single hn))
  case h_18 => exact .compute hs i (h.samples.bind fun _ _ hn => .ok (RowsAgree.single hn))
  -- images
  case h_19 => exact .compute hs i h.read
  case h_20 => exact .inspect_bind hs (h.write rfl) fun _ _ _ ht => ⟨.ok rfl, ht⟩
  case h_21 =>
    refine .inspect_bind hs h.pointer fun _ _ _ hp => ?_
    exact .lift_bind_same hs fun id _ => .definePointer hs id hp
  case h_22 | h_23 => exact .forward hs i
  case h_24 => exact atomicAdd hs h rfl
  -- arithmetic and sampling
  case h_25 =>
    cases hbinary : binary? op with
    | some f => exact .compute hs i (e.binary_alike x y mask hs i hbinary)
    | none =>
      cases hunary : unary? op with
      | some f => exact .compute hs i (e.unary_alike x y mask hs i hunary)
      | none =>
        dsimp only
        split
        · exact h.sampling ‹_›
        · exact .throw hs _

omit h in
/-- **Every instruction** ends alike in related states. -/
theorem step (h : ∀ op, i.op? = some op → ReachesAlike on M T e x y mask s s' i op) :
    EndsAlike (State.Related on M T) Eq ((Execution.step e i).run s)
      ((Execution.step (e.moved x y mask) i).run s') := by
  unfold Execution.step
  split
  case h_1 => exact .throw hs _
  case h_2 => exact .lift_bind_same hs fun label _ => .pure hs rfl
  case h_3 | h_4 => exact .pure hs rfl
  case h_5 op _ _ _ hop =>
    exact (execute hs (h op hop) hT).bind fun _ _ t t' _ _ ht => .pure ht rfl

end EndsAlike

/-! ## Runs -/

section

variable {inputs inputs' : InterfaceValues} {machine machine' : Machine} {F F' : Fault → Prop}
  {S : State → State → Prop}
  (hstep : ∀ (s s' : State) (offset : Nat) (i : Instruction), Visits e inputs machine s offset →
    Visits (e.moved x y mask) inputs' machine' s' offset → e.shader.definition offset = .ok i →
    S s s' → EndsAlikeUnless F F' S Eq ((step e i).run s) ((step (e.moved x y mask) i).run s'))
include hstep

/-- From related states on, both runs execute the same instructions. -/
theorem runFrom_alike (fuel offset : Nat) {s s' : State}
    (hvisits : Visits e inputs machine s offset)
    (hvisits' : Visits (e.moved x y mask) inputs' machine' s' offset) (hs : S s s') :
    EndsAlikeUnless F F' S Eq ((runFrom e fuel offset).run s)
      ((runFrom (e.moved x y mask) fuel offset).run s') := by
  induction fuel generalizing offset s s' with
  | zero => exact .alike (.throw hs _)
  | succ fuel ih =>
    refine .lift_bind_same hs fun i hi => ?_
    refine (hstep s s' offset i hvisits hvisits' hi hs).bind
      fun flow _ t t' hflow hflow' heq ht => ?_
    subst heq
    cases flow with
    | next => exact ih _ (.next hvisits hi hflow) (.next hvisits' hi hflow') ht
    | branch label =>
      exact .lift_bind_same ht fun start hstart =>
        ih _ (.branch hvisits hi hflow hstart) (.branch hvisits' hi hflow' hstart) ht
    | stop => exact .alike (.pure ht rfl)

/-- **Whole runs** end alike if their variables are set up alike. -/
theorem run_alike (hglobals : EndsAlike S Eq
      ((e.declarations.globals.forM (e.initGlobal inputs)).run { machine })
      ((e.declarations.globals.forM ((e.moved x y mask).initGlobal inputs')).run
        { machine := machine' }))
    {R : InterfaceValues → InterfaceValues → Prop}
    (houtputs : ∀ t t', S t t' → R (e.outputs t) ((e.moved x y mask).outputs t')) :
    EndsAlikeUnless F F' S R ((run e inputs).run { machine })
      ((run (e.moved x y mask) inputs').run { machine := machine' }) := by
  refine (EndsAlikeUnless.alike hglobals).bind fun _ _ s s' hrun hrun' _ hs => ?_
  refine (runFrom_alike hstep _ _ (.start hrun) (.start hrun') hs).bind
    fun _ _ t t' _ _ _ ht => ?_
  exact .alike (.get_bind (.pure ht (houtputs t t' ht)))

end

end HostGpu.Execution
