import HostGpu.Proofs.Execution.Noninterference

/-!
# One lane by itself

Four lanes run together as each of them runs alone, as long as no instruction needs the others:
sampling functions see all lanes, stores to texels write memory that all lanes share, and the index
of a descriptor is taken from one lane for all.
-/

namespace HostGpu

open Lanes Outcome Execution

namespace Execution

open Spirv Shader

/-! ## Instructions that need one lane -/

/-- An instruction neither samples nor stores to texels, and an index that selects a descriptor is
the same in all active lanes. -/
structure LaneWise (e : Environment) (s : State) (i : Instruction) : Prop where
  sampling : ∀ op, i.op? = some op → op.isSampling = false
  texels : ¬ StoresTexels s i
  index : ∀ index, IndexesDescriptor e s i index →
    ∀ l l', e.active.get l ≠ 0 → e.active.get l' ≠ 0 → index.get l = index.get l'

/-- Such instructions do the same for all active lanes as for one of them. -/
theorem LaneWise.inStep {e : Environment} {s : State} {i : Instruction} (h : LaneWise e s i)
    {l : Lane} (hl : e.active.get l ≠ 0) {x y alone : WordLanes}
    (hlead : (e.moved x y alone).leadLane = l) :
    InStep (· = l) (fun _ => True) e x y alone s i := by
  refine ⟨fun index hindex => ?_, fun hstores => absurd hstores h.texels, ?_⟩
  · rw [hlead]
    exact h.index index hindex _ _ (Environment.active_leadLane ⟨l, hl⟩) hl
  · intro op hop hsampling
    rw [h.sampling op hop] at hsampling
    cases hsampling

/-! ### Checking a state -/

/-- Whether an identifier points to texels. -/
def State.pointsToTexel (s : State) (id : Except Fault Nat) : Bool :=
  match id.bind s.target with
  | .ok (.texel _) => true
  | _ => false

/-- Whether an index that selects a descriptor differs between active lanes. -/
def differs (e : Environment) (s : State) (i : Instruction) : Bool :=
  match (i.id 3).bind s.target, (i.id 4).bind (e.chainIndex s) with
  | .ok (.descriptor _), .ok (.lanes index) =>
    Lane.all.any fun l => Lane.all.any fun l' =>
      e.active.get l ≠ 0 && e.active.get l' ≠ 0 && index.get l ≠ index.get l'
  | _, _ => false

/-- Whether an instruction needs one lane at a time. -/
def isLaneWise (e : Environment) (s : State) (i : Instruction) : Bool :=
  match i.op? with
  | some .opImageWrite => false
  | some .opStore => !s.pointsToTexel (i.id 1)
  | some .opAtomicIAdd => !s.pointsToTexel (i.id 3)
  | some .opAccessChain | some .opInBoundsAccessChain => !differs e s i
  | some op => !op.isSampling
  | none => true

theorem State.pointsToTexel_eq_true {s : State} {i : Instruction} {k id : Nat} {p : TexelPointer}
    (hid : i.id k = .ok id) (hp : s.target id = .ok (.texel p)) :
    s.pointsToTexel (i.id k) = true := by
  rw [pointsToTexel, hid, Except.bind, hp]

theorem laneWise_of_isLaneWise {e : Environment} {s : State} {i : Instruction}
    (h : isLaneWise e s i = true) : LaneWise e s i where
  sampling op hop := by
    rw [isLaneWise, hop] at h
    split at h
    case h_1 => cases h
    case h_6 heq =>
      cases heq
      simpa using h
    case h_7 heq => cases heq
    all_goals
      rename_i heq
      cases heq
      rfl
  texels hstores := by
    rw [isLaneWise] at h
    cases hstores with
    | imageWrite hop => simp [hop] at h
    | store hop hid hp => simp [hop, State.pointsToTexel_eq_true hid hp] at h
    | add hop hid hp => simp [hop, State.pointsToTexel_eq_true hid hp] at h
  index index hindex l l' hl hl' := by
    obtain ⟨hop, hbase, htarget, hid, hlanes⟩ := hindex
    by_contra hne
    have hdiffers : differs e s i = true := by
      simp only [differs, hbase, hid, Except.bind, htarget, hlanes, List.any_eq_true]
      exact ⟨l, l.mem_all, l', l'.mem_all, by simp [hl, hl', hne]⟩
    rcases hop with hop | hop <;> simp [isLaneWise, hop, hdiffers] at h

end Execution

namespace Routine

/-- **Four lanes run as each of them runs alone.**  If a run ends without a fault and executes only
instructions that need one lane at a time, then for every active lane the run with this lane alone
ends without a fault as well, and the lane holds the same in all components of all outputs. -/
theorem active_lane_runs_alone (r : Routine) (sets : SetTable) (blocks : BlockTable)
    (device : Device) (inputs outputs : InterfaceValues) (l : Lane) (alone : WordLanes)
    (hl : r.IsActive l) (halone : ∀ i, alone.get i ≠ 0 ↔ i = l)
    (hlanes : ∀ (s : State) (offset : Nat) (i : Spirv.Instruction),
      Visits { r.toSetup with sets } inputs (r.machine blocks device) s offset →
      r.shader.definition offset = .ok i → LaneWise { r.toSetup with sets } s i)
    (houtputs : (r.run sets blocks device inputs).outcome = .ok outputs) :
    ∃ outputs', ({ r with active := alone }.run sets blocks device inputs).outcome = .ok outputs' ∧
      outputs.AgreeOn (· = l) outputs' := by
  have hlead : (Environment.moved { r.toSetup with sets } r.windowX r.windowY alone).leadLane = l :=
    (halone _).mp (Environment.active_leadLane ⟨l, (halone l).mpr rfl⟩)
  have henvironment : Environment.AgreeOn (· = l) (fun _ => True) { r.toSetup with sets } r.windowX
      r.windowY alone :=
    ⟨.refl _, .refl _, fun i hi => hi ▸ hl, fun i hi => (halone i).mpr hi, hlead, by
      cases r.resolver <;> simp [Supplies]⟩
  have hinputs : inputs.AgreeOn (· = l) inputs := by
    intro location
    cases inputs[location]? <;> constructor
    exact RowsAgree.refl _
  have hresult := r.agreeOn_run alone sets blocks device henvironment
    ⟨fun _ _ _ => trivial, fun _ _ => trivial, fun _ _ _ _ => trivial⟩ hinputs
    fun s offset i hs hi => (hlanes s offset i hs hi).inStep hl hlead
  have houtcome := hresult.outcome
  rw [houtputs] at houtcome
  generalize RunResult.outcome _ = outcome at houtcome ⊢
  cases houtcome with
  | ok hagree => exact ⟨_, rfl, hagree⟩

/-! ### Two active lanes that select a component -/

namespace SelectOne

/-- A module that adds to its output the component of its first input that the second input
selects. -/
def words : List UInt32 := [
  0x07230203, 0x00010000, 0, 23, 0,
  0x0004000F, 4, 20, 0, -- the entry point
  0x00040047, 6, 30, 0, 0x00040047, 7, 30, 1, 0x00040047, 8, 30, 0, -- locations
  0x00040015, 1, 32, 0, 0x00040017, 2, 1, 4, -- words, and four of them
  0x00040020, 3, 1, 2, 0x00040020, 4, 1, 1, 0x00040020, 5, 3, 1, -- pointers to these
  0x0004003B, 3, 6, 1, 0x0004003B, 4, 7, 1, 0x0004003B, 5, 8, 3, -- inputs and output
  0x0004002B, 1, 9, 0, -- zero
  0x00050036, 21, 20, 0, 22, 0x000200F8, 12,
  0x0004003D, 1, 13, 7, 0x00050041, 4, 14, 6, 13, 0x0004003D, 1, 15, 14, -- the component
  0x000700EA, 1, 16, 8, 9, 9, 15, -- the addition
  0x000100FD, 0x00010038]

/-- A session that makes a routine of the module.  All names are empty. -/
def commands : List Session.Command := [
  .device "" true none,
  .pipelineLayout "" "" [],
  .shader "" "" words,
  .routine "" "" "" {}]

/-- The routine of the session with some lanes active. -/
def routine (active : WordLanes) : Routine :=
  { ((Session.after commands).routines[""]?).get (by decide +kernel) with active }

/-- Every lane selects another component. -/
def inputs : InterfaceValues :=
  (Std.TreeMap.empty.insert 0 [.splat 10, .splat 11, .splat 12, ⟨20, 21, 22, 23⟩]).insert 1
    [⟨0, 1, 3, 2⟩]

def result (active : WordLanes) : RunResult := (routine active).run ∅ ∅ {} inputs

/-- The lanes of the whole run, and one of them. -/
def even : WordLanes := ⟨0xFFFFFFFF, 0, 0xFFFFFFFF, 0⟩
def third : WordLanes := ⟨0, 0, 0xFFFFFFFF, 0⟩

def environment : Environment := { (routine even).toSetup with sets := ∅ }

/-- The state before the first instruction. -/
def first : State :=
  ((environment.declarations.globals.forM (environment.initGlobal inputs)).run
    { machine := (routine even).machine ∅ {} }).2

/-- Every instruction needs one lane at a time. -/
theorem laneWise_of_visits {s : State} {offset : Nat} {i : Spirv.Instruction}
    (hs : Visits environment inputs ((routine even).machine ∅ {}) s offset)
    (hi : environment.shader.definition offset = .ok i) : LaneWise environment s i := by
  have hglobals : (environment.declarations.globals.forM (environment.initGlobal inputs)).run
      { machine := (routine even).machine ∅ {} } = (.ok (), first) :=
    Prod.ext (by decide +kernel) rfl
  have hrun : (runFrom environment 12 environment.shader.entryBlock).run first =
      (.ok (), ((runFrom environment 12 environment.shader.entryBlock).run first).2) :=
    Prod.ext (by decide +kernel) rfl
  have hall : (trace environment 12 environment.shader.entryBlock first).all
      (fun p => isLaneWise environment p.1 p.2) = true := by decide +kernel
  have hmem := hs.mem_trace hglobals hrun hi
  have hcheck := List.all_eq_true.mp hall _ hmem
  exact laneWise_of_isLaneWise hcheck

end SelectOne

open SelectOne in
/-- The third lane selects the third word of the last component, alone or with the first lane. -/
theorem third_lane_selects_alone : ∃ outputs outputs' : InterfaceValues,
    (result even).outcome = .ok outputs ∧ (result third).outcome = .ok outputs' ∧
      outputs.AgreeOn (· = 2) outputs' ∧ outputs[0]? = some [⟨10, 0, 22, 0⟩] := by
  have hreturns : (result even).outcome.isOk = true := by decide +kernel
  have hvalue : (result even).outcome.toOption.bind (·[0]?) = some [⟨10, 0, 22, 0⟩] := by
    decide +kernel
  cases houtputs : (result even).outcome with
  | error fault => rw [houtputs] at hreturns; cases hreturns
  | ok outputs =>
    have halone : ∀ l, third.get l ≠ 0 ↔ l = 2 := by decide
    obtain ⟨outputs', houtputs', hagree⟩ := active_lane_runs_alone (routine even) ∅ ∅ {} inputs
      outputs 2 third (fun h => absurd h (by decide)) halone
      (fun _ _ _ => laneWise_of_visits) houtputs
    rw [houtputs] at hvalue
    exact ⟨outputs, outputs', rfl, houtputs', hagree, hvalue⟩

end Routine

end HostGpu
