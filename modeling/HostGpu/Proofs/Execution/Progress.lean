import HostGpu.Proofs.Execution.CallSites

/-!
# Fetch by fetch

A run that goes on fetches the instruction at an offset and executes it (`Progress.fetch`).  A run
with fuel is as many fetches (`run_runFrom`), its trace is what they execute (`trace_succ`), and the
states that it visits are those before a fetch (`visits_iff`).  Where a run goes on after an
instruction depends on the instruction alone.
-/

namespace HostGpu.Execution

open Outcome Spirv Shader

/-! ## Progress -/

/-- How far a run is. -/
inductive Progress where
  /-- The instruction at an offset is next. -/
  | going (offset : Nat) (s : State)
  | ended (outcome : Except Fault Unit) (s : State)

namespace Progress

/-- The end of a run that may fetch no further instructions. -/
def result : Progress → Except Fault Unit × State
  | going _ s => (.error .endless, s)
  | ended outcome s => (outcome, s)

/-- The state that a run is in. -/
def state : Progress → State
  | going _ s | ended _ s => s

/-- Whether the run is not over. -/
def isGoing : Progress → Bool
  | going _ _ => true
  | ended _ _ => false

/-- Where the run goes on. -/
def offset? : Progress → Option Nat
  | going offset _ => some offset
  | ended _ _ => none

/-- Fetches an instruction and executes it. -/
def fetch (e : Environment) : Progress → Progress
  | going offset s =>
    match e.shader.definition offset with
    | .error fault => ended (.error fault) s
    | .ok i =>
      match (step e i).run s with
      | (.ok .next, s') => going (offset + i.length) s'
      | (.ok (.branch label), s') =>
        match blockStart e label with
        | .ok start => going start s'
        | .error fault => ended (.error fault) s'
      | (.ok .stop, s') => ended (.ok ()) s'
      | (.error fault, s') => ended (.error fault) s'
  | ended outcome s => ended outcome s

/-- A run before its first fetch. -/
def start (e : Environment) (inputs : InterfaceValues) (machine : Machine) : Progress :=
  match (e.declarations.globals.forM (e.initGlobal inputs)).run { machine } with
  | (.ok (), s) => going e.shader.entryBlock s
  | (.error fault, s) => ended (.error fault) s

end Progress

open Progress

variable {e : Environment} {inputs : InterfaceValues} {machine : Machine} {s s' t : State}
  {i : Instruction} {offset offset' : Nat} {p : Progress}

theorem iterate_fetch_ended (e : Environment) (k : Nat) (outcome : Except Fault Unit) (s : State) :
    (fetch e)^[k] (ended outcome s) = ended outcome s :=
  Function.iterate_fixed rfl k

/-- A run with fuel fetches one instruction after the other. -/
theorem run_runFrom (e : Environment) (fuel offset : Nat) (s : State) :
    (runFrom e fuel offset).run s = ((fetch e)^[fuel] (going offset s)).result := by
  induction fuel generalizing offset s with
  | zero => rfl
  | succ fuel ih =>
    rw [runFrom, run_bind, Function.iterate_succ_apply, fetch]
    cases e.shader.definition offset with
    | error fault => exact congrArg result (iterate_fetch_ended e fuel _ s).symm
    | ok i =>
      change (step e i >>= _ : Run Unit).run s = _
      rw [run_bind]
      dsimp only
      generalize (step e i).run s = r
      rcases r with ⟨fault | _ | label | _, s'⟩
      case error | stop => exact congrArg result (iterate_fetch_ended e fuel _ s').symm
      case next => exact ih (offset + i.length) s'
      case branch =>
        dsimp only
        rw [run_bind]
        cases blockStart e label with
        | error fault => exact congrArg result (iterate_fetch_ended e fuel _ s').symm
        | ok start => exact ih start s'

/-- A whole run. -/
theorem run_run (e : Environment) (inputs : InterfaceValues) (machine : Machine) :
    (run e inputs).run { machine } =
      match ((fetch e)^[enough e.shader.module] (start e inputs machine)).result with
      | (.ok (), s) => (.ok (e.outputs s), s)
      | (.error fault, s) => (.error fault, s) := by
  rw [run, run_bind, start]
  rcases (e.declarations.globals.forM (e.initGlobal inputs)).run { machine } with ⟨_ | _, s⟩
  · rw [iterate_fetch_ended]
    rfl
  · dsimp only
    rw [run_bind, run_runFrom]
    rcases ((fetch e)^[enough e.shader.module] (going e.shader.entryBlock s)).result with
      ⟨_ | _, s'⟩ <;> rfl

/-! ### Where a run goes on -/

/-- Where a run goes on after an instruction at an offset. -/
inductive Leads (e : Environment) (offset : Nat) (i : Instruction) : Flow → Nat → Prop
  | next : Leads e offset i .next (offset + i.length)
  | branch {label start : Nat} (hstart : blockStart e label = .ok start) :
      Leads e offset i (.branch label) start

theorem fetch_eq_going : fetch e (going offset s) = going offset' s' ↔
    ∃ i flow, e.shader.definition offset = .ok i ∧ (step e i).run s = (.ok flow, s') ∧
      Leads e offset i flow offset' := by
  constructor
  · intro h
    rw [fetch] at h
    split at h
    case h_1 => cases h
    case h_2 i hi =>
      refine ⟨i, ?_⟩
      split at h
      case h_1 hstep =>
        cases h
        exact ⟨.next, hi, hstep, .next⟩
      case h_2 label _ hstep =>
        split at h
        case h_1 hstart =>
          cases h
          exact ⟨.branch label, hi, hstep, .branch hstart⟩
        case h_2 => cases h
      case h_3 | h_4 => cases h
  · rintro ⟨i, flow, hi, hstep, hleads⟩
    rw [fetch, hi]
    dsimp only
    rw [hstep]
    cases hleads with
    | next => rfl
    | branch hstart =>
      dsimp only
      rw [hstart]

/-- A run that goes on was going on before. -/
theorem exists_going_of_fetch (h : fetch e p = going offset' s') :
    ∃ offset s, p = going offset s := by
  cases p with
  | going offset s => exact ⟨offset, s, rfl⟩
  | ended outcome s => cases h

/-- The state after a fetch is the one after the instruction. -/
theorem state_fetch (hi : e.shader.definition offset = .ok i) :
    (fetch e (going offset s)).state = ((step e i).run s).2 := by
  rw [fetch, hi]
  dsimp only
  rcases (step e i).run s with ⟨fault | _ | label | _, s'⟩
  case error | next | stop => rfl
  case branch =>
    dsimp only
    cases blockStart e label <;> rfl

/-- What is executed from a progress on, by a number of fetches. -/
def executed (e : Environment) (fuel : Nat) : Progress → List (State × Instruction)
  | going offset s => trace e fuel offset s
  | ended _ _ => []

@[simp] theorem executed_zero (e : Environment) (p : Progress) : executed e 0 p = [] := by
  cases p <;> rfl

/-- A trace goes on where the run goes on. -/
theorem trace_succ (hi : e.shader.definition offset = .ok i) (fuel : Nat) :
    trace e (fuel + 1) offset s = (s, i) :: executed e fuel (fetch e (going offset s)) := by
  rw [trace, fetch, hi]
  dsimp only
  rcases (step e i).run s with ⟨fault | _ | label | _, s'⟩
  case error | next | stop => rfl
  case branch =>
    dsimp only
    cases blockStart e label <;> rfl

/-- What is executed next after some fetches. -/
theorem mem_executed {k : Nat} (h : (fetch e)^[k] p = going offset s)
    (hi : e.shader.definition offset = .ok i) : (s, i) ∈ executed e (k + 1) p := by
  induction k generalizing p with
  | zero =>
    rw [Function.iterate_zero_apply] at h
    rw [h, executed, trace_succ hi]
    exact List.mem_cons_self
  | succ k ih =>
    rw [Function.iterate_succ_apply] at h
    have hmem := ih h
    cases p with
    | ended outcome s₁ =>
      rw [fetch, iterate_fetch_ended] at h
      cases h
    | going offset₁ s₁ =>
      cases hj : e.shader.definition offset₁ with
      | error fault =>
        rw [fetch, hj, iterate_fetch_ended] at h
        cases h
      | ok j =>
        rw [executed, trace_succ hj]
        exact List.mem_cons_of_mem _ hmem

theorem visits_iff : Visits e inputs machine s offset ↔
    ∃ k, (fetch e)^[k] (start e inputs machine) = going offset s := by
  constructor
  · intro h
    induction h with
    | start hrun => exact ⟨0, by rw [Function.iterate_zero_apply, start, hrun]⟩
    | @next s s' offset i _ hi hstep ih =>
      obtain ⟨k, hk⟩ := ih
      refine ⟨k + 1, ?_⟩
      rw [Function.iterate_succ_apply', hk]
      exact fetch_eq_going.mpr ⟨i, .next, hi, hstep, .next⟩
    | @branch s s' offset label start i _ hi hstep hstart ih =>
      obtain ⟨k, hk⟩ := ih
      refine ⟨k + 1, ?_⟩
      rw [Function.iterate_succ_apply', hk]
      exact fetch_eq_going.mpr ⟨i, .branch label, hi, hstep, .branch hstart⟩
  · rintro ⟨k, hk⟩
    induction k generalizing offset s with
    | zero =>
      rw [Function.iterate_zero_apply, Progress.start] at hk
      split at hk
      case h_1 hrun =>
        cases hk
        exact .start hrun
      case h_2 => cases hk
    | succ k ih =>
      rw [Function.iterate_succ_apply'] at hk
      obtain ⟨offset', s', hbefore⟩ := exists_going_of_fetch hk
      rw [hbefore] at hk
      obtain ⟨i, flow, hi, hstep, hleads⟩ := fetch_eq_going.mp hk
      cases hleads with
      | next => exact .next (ih hbefore) hi hstep
      | branch hstart => exact .branch (ih hbefore) hi hstep hstart

/-- A run that goes on somewhere is in a state that it visits. -/
theorem visits_of_offset? {k : Nat}
    (h : ((fetch e)^[k] (start e inputs machine)).offset? = some offset) :
    Visits e inputs machine ((fetch e)^[k] (start e inputs machine)).state offset := by
  refine visits_iff.mpr ⟨k, ?_⟩
  revert h
  rcases (fetch e)^[k] (start e inputs machine) with ⟨offset', s⟩ | ⟨outcome, s⟩
  · rintro ⟨⟩
    rfl
  · rintro ⟨⟩

/-! ### Parts of an instruction -/

/-- What is known ends with a value, and the rest goes on with it. -/
theorem run_lift_bind {α β : Type} {r : Except Fault α} {a : α} (h : r = .ok a) (g : α → Run β)
    (s : State) : (liftM r >>= g).run s = (g a).run s := by
  rw [run_bind, h]
  rfl

theorem run_inspect_bind {α β : Type} {r : State → Except Fault α} {a : α} (h : r s = .ok a)
    (g : α → Run β) : (inspect r >>= g).run s = (g a).run s := by
  rw [run_bind, run_inspect, h]

/-- What an instruction does that does not fault. -/
inductive Steps (e : Environment) (i : Instruction) (s : State) : Flow → State → Prop
  | branch {label : Nat} (hop : i.op? = some .opBranch) (hid : i.id 1 = .ok label) :
      Steps e i s (.branch label) s
  | stop (hop : i.op? = some .opReturn ∨ i.op? = some .opReturnValue) : Steps e i s .stop s
  | next {op : Opcode} {s' : State} (hop : i.op? = some op)
      (hinner : op ∉ [.opBranch, .opReturn, .opReturnValue])
      (hexecute : (execute e i op).run s = (.ok (), s')) : Steps e i s .next s'

theorem steps_of_run {flow : Flow} (h : (step e i).run s = (.ok flow, s')) :
    Steps e i s flow s' := by
  rw [step] at h
  split at h
  case h_1 => cases h
  case h_2 hop =>
    rw [run_bind] at h
    cases hid : i.id 1 with
    | error fault => rw [hid] at h; cases h
    | ok label =>
      rw [hid] at h
      cases h
      exact .branch hop hid
  case h_3 hop =>
    cases h
    exact .stop (.inl hop)
  case h_4 hop =>
    cases h
    exact .stop (.inr hop)
  case h_5 op hbranch hreturn hvalue hop =>
    rw [run_bind] at h
    rcases hrun : (execute e i op).run s with ⟨_ | _, s''⟩ <;> rw [hrun] at h
    · cases h
    · cases h
      refine .next hop ?_ hrun
      simp only [List.mem_cons, List.not_mem_nil, or_false, not_or]
      exact ⟨hbranch, hreturn, hvalue⟩

/-- Where a run goes on after an instruction is said by the instruction alone. -/
def flowOf (i : Instruction) : Except Fault Flow :=
  match i.op? with
  | some .opBranch => Flow.branch <$> i.id 1
  | some .opReturn | some .opReturnValue => .ok .stop
  | _ => .ok .next

theorem Steps.flowOf_eq {flow : Flow} (h : Steps e i s flow s') : flowOf i = .ok flow := by
  cases h with
  | branch hop hid => rw [flowOf, hop]; exact map_eq_ok.mpr ⟨_, hid, rfl⟩
  | stop hop => rcases hop with hop | hop <;> rw [flowOf, hop]
  | next hop hinner =>
    rw [flowOf, hop]
    split
    case h_1 | h_2 | h_3 => simp_all
    case h_4 => rfl

theorem Leads.unique {flow : Flow} {start start' : Nat} (h : Leads e offset i flow start)
    (h' : Leads e offset i flow start') : start = start' := by
  cases h with
  | next => cases h'; rfl
  | branch hstart =>
    cases h' with
    | branch hstart' => exact Except.ok.inj (hstart.symm.trans hstart')

/-- **From one offset a run goes on at one offset,** whatever its state. -/
theorem offset_eq_of_fetch {start start' : Nat} {t' : State}
    (h : fetch e (going offset s) = going start s')
    (h' : fetch e (going offset t) = going start' t') : start = start' := by
  obtain ⟨i, flow, hi, hstep, hleads⟩ := fetch_eq_going.mp h
  obtain ⟨j, flow', hj, hstep', hleads'⟩ := fetch_eq_going.mp h'
  obtain rfl : i = j := Except.ok.inj (hi.symm.trans hj)
  have hflow := (steps_of_run hstep).flowOf_eq.symm.trans (steps_of_run hstep').flowOf_eq
  obtain rfl := Except.ok.inj hflow
  exact hleads.unique hleads'

/-! ## New values -/

/-- A state in which an identifier has a value. -/
def State.withValue (s : State) (id : Nat) (v : Value) : State :=
  { s with values := s.values.insert id v }

/-- An identifier has no value yet. -/
def State.Lacks (s : State) (id : Nat) : Prop := s.values.contains id = false

section

variable {s : State} {id : Nat} {v : Value}

theorem State.getElem?_withValue (id' : Nat) :
    (s.withValue id v).values[id']? = if id = id' then some v else s.values[id']? := by
  rw [withValue, Std.TreeMap.getElem?_insert]
  simp only [Std.LawfulEqOrd.compare_eq_iff_eq]

theorem State.target_withValue (t : Target) : (s.withValue id (.pointer t)).target id = .ok t := by
  rw [target, getElem?_withValue, if_pos rfl]

theorem State.components_withValue (row : List WordLanes) :
    (s.withValue id (.components row)).components id = .ok row := by
  rw [components, getElem?_withValue, if_pos rfl]

theorem State.target_eq_ok {t : Target} :
    s.target id = .ok t ↔ s.values[id]? = some (.pointer t) := by
  rw [target]
  split <;> simp_all

theorem State.components_eq_ok {row : List WordLanes} :
    s.components id = .ok row ↔ s.values[id]? = some (.components row) := by
  rw [components]
  split <;> simp_all

theorem State.storage_eq_ok {row : List WordLanes} :
    s.storage id = .ok row ↔ s.storages[id]? = some row := by
  rw [storage]
  split <;> simp_all

theorem State.Lacks.getElem?_eq_none (h : s.Lacks id) : s.values[id]? = none := by
  rw [Lacks, Std.TreeMap.contains_eq_isSome_getElem?] at h
  exact Option.not_isSome_iff_eq_none.mp (by rw [h]; exact Bool.false_ne_true)

theorem State.storage_withValue (id' : Nat) : (s.withValue id v).storage id' = s.storage id' := rfl

theorem State.Lacks.withValue {id' : Nat} (h : s.Lacks id') (hne : id ≠ id') :
    (s.withValue id v).Lacks id' := by
  rw [Lacks, Std.TreeMap.contains_eq_isSome_getElem?] at h ⊢
  rwa [getElem?_withValue, if_neg hne]

theorem State.Lacks.within (h : s.Lacks id) : s.Within (s.withValue id v) := by
  intro id' v' hv'
  rw [getElem?_withValue, if_neg]
  · exact hv'
  · rintro rfl
    rw [Lacks, Std.TreeMap.contains_eq_isSome_getElem?, hv'] at h
    cases h

theorem run_define (h : s.Lacks id) : (define id v).run s = (.ok (), s.withValue id v) := by
  have hdefine : s.define id v = .ok (s.withValue id v) :=
    if_neg (by rw [h]; exact Bool.false_ne_true)
  rw [define, run_inspect_bind hdefine, run_set]

theorem run_define_error (h : ¬ s.Lacks id) :
    (define id v).run s = (.error (.definedTwice id), s) := by
  have hdefine : s.define id v = .error (.definedTwice id) :=
    if_pos (Bool.eq_true_of_not_eq_false h)
  rw [define, run_bind, run_inspect, hdefine]

theorem run_compute {i : Instruction} {f : State → Except Fault (List WordLanes)}
    {row : List WordLanes} (hf : f s = .ok row) (hid : i.id 2 = .ok id) (h : s.Lacks id) :
    (compute i f).run s = (.ok (), s.withValue id (.components row)) := by
  rw [compute, run_inspect_bind hf, run_lift_bind hid, defineComponents, run_define h]

/-- An instruction that computes components defines its result and does nothing else. -/
theorem run_step_compute {e : Environment} {i : Instruction} {op : Opcode} (hop : i.op? = some op)
    (hinner : op ∉ [.opBranch, .opReturn, .opReturnValue])
    {f : State → Except Fault (List WordLanes)}
    (hexecute : (execute e i op).run s = (compute i f).run s) {row : List WordLanes}
    (hf : f s = .ok row) (hid : i.id 2 = .ok id) (h : s.Lacks id) :
    (step e i).run s = (.ok .next, s.withValue id (.components row)) := by
  rw [step_eq_execute hop hinner, run_bind, hexecute, run_compute hf hid h]
  rfl

end

end HostGpu.Execution
