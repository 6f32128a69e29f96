import HostGpu.Proofs.Execution.Termination

/-!
# How instructions end

`Ends Q F x s` says how a part `x` of a run ends that starts in a state `s`: with a value and a
state that satisfy `Q`, or with a fault that satisfies `F`.  What each step of a run keeps holds in
all states that the run visits (`Visits.induction`).
-/

namespace HostGpu.Execution

open Outcome Spirv Shader

/-- A part of a run ends with a value and a state that have a property, or with a fault that has
one. -/
def Ends {α : Type} (Q : α → State → Prop) (F : Fault → Prop) (x : Run α) (s : State) : Prop :=
  match x.run s with
  | (.ok a, s') => Q a s'
  | (.error fault, _) => F fault

variable {α β : Type} {e : Environment} {i : Instruction} {s : State} {F : Fault → Prop}
  {P : α → State → Prop} {Q : β → State → Prop} {Inv : State → Prop}

/-! ## Parts -/

theorem ends_pure {a : α} (h : P a s) : Ends P F (pure a) s := h

theorem ends_throw {fault : Fault} (h : F fault) : Ends P F (throw fault) s := h

theorem Ends.mono {P' : α → State → Prop} {x : Run α} (h : Ends P F x s)
    (hP : ∀ a s', P a s' → P' a s') : Ends P' F x s := by
  rw [Ends] at h ⊢
  rcases hrun : x.run s with ⟨_ | a, s'⟩ <;> rw [hrun] at h
  · exact h
  · exact hP a s' h

theorem Ends.weaken {F' : Fault → Prop} {x : Run α} (h : Ends P F x s)
    (hF : ∀ fault, F fault → F' fault) : Ends P F' x s := by
  rw [Ends] at h ⊢
  rcases hrun : x.run s with ⟨_ | a, s'⟩ <;> rw [hrun] at h
  · exact hF _ h
  · exact h

theorem Ends.bind {x : Run α} {f : α → Run β} (hx : Ends P F x s)
    (hf : ∀ a s', P a s' → Ends Q F (f a) s') : Ends Q F (x >>= f) s := by
  rw [Ends] at hx ⊢
  rw [run_bind]
  rcases hrun : x.run s with ⟨_ | a, s'⟩ <;> rw [hrun] at hx
  · exact hx
  · exact hf a s' hx

theorem ends_lift_bind {x : Except Fault α} {f : α → Run β} {R : α → Prop} (hx : Results R F x)
    (hf : ∀ a, x = .ok a → R a → Ends Q F (f a) s) : Ends Q F (liftM x >>= f) s := by
  rw [Ends, run_bind]
  cases x with
  | error fault => exact hx
  | ok a => exact hf a rfl hx

theorem ends_inspect_bind {x : State → Except Fault α} {f : α → Run β} {R : α → Prop}
    (hx : Results R F (x s)) (hf : ∀ a, x s = .ok a → R a → Ends Q F (f a) s) :
    Ends Q F (inspect x >>= f) s := by
  rw [Ends, run_bind, run_inspect]
  cases hs : x s with
  | error fault => exact (hs ▸ hx :)
  | ok a => exact hf a hs (hs ▸ hx :)

theorem ends_get_bind {f : State → Run β} (hf : Ends Q F (f s) s) : Ends Q F (get >>= f) s := hf

theorem ends_modify_bind {g : State → State} {f : Unit → Run β} (hf : Ends Q F (f ()) (g s)) :
    Ends Q F (modify g >>= f) s := hf

theorem ends_set {s' : State} (h : Inv s') : Ends (fun _ => Inv) F (set s') s := h

/-- A value is defined, unless there is one. -/
theorem ends_define {id : Nat} {v : Value} (htwice : F (.definedTwice id))
    (h : s.Lacks id → Inv (s.withValue id v)) : Ends (fun _ => Inv) F (define id v) s := by
  rw [Ends]
  by_cases hnew : s.Lacks id
  · rw [run_define hnew]
    exact h hnew
  · rw [run_define_error hnew]
    exact htwice

theorem ends_compute {f : State → Except Fault (List WordLanes)} {R : List WordLanes → Prop}
    (hf : Results R F (f s)) (hid : Results (fun _ => True) F (i.id 2))
    (htwice : ∀ id, F (.definedTwice id))
    (h : ∀ id list, i.id 2 = .ok id → R list → s.Lacks id →
      Inv (s.withValue id (.components list))) :
    Ends (fun _ => Inv) F (compute i f) s :=
  ends_inspect_bind hf fun list _ hlist => ends_lift_bind hid fun id hid _ =>
    ends_define (htwice id) (h id list hid hlist)

theorem ends_createVariable {id : Nat} {storage : List WordLanes} (htwice : F (.definedTwice id))
    (h : s.Lacks id →
      Inv ((s.setStorage id storage).withValue id (.pointer (.variable id (.splat 0))))) :
    Ends (fun _ => Inv) F (createVariable id storage) s := by
  refine ends_modify_bind (ends_define htwice fun hnew => h ?_)
  exact hnew

theorem ends_forM {f : α → Run Unit} {list : List α} (hs : Inv s)
    (h : ∀ a ∈ list, ∀ s, Inv s → Ends (fun _ => Inv) F (f a) s) :
    Ends (fun _ => Inv) F (list.forM f) s := by
  induction list generalizing s with
  | nil => exact hs
  | cons a list ih =>
    rw [List.forall_mem_cons] at h
    exact (h.1 s hs).bind fun _ s' hs' => ih hs' h.2

/-! ### Whatever the fault -/

/-- A part of a run leaves a state with a property, unless it faults. -/
abbrev Leaves {α : Type} (Inv : State → Prop) (x : Run α) (s : State) : Prop :=
  Ends (fun _ => Inv) (fun _ => True) x s

theorem leaves_lift_bind {x : Except Fault α} {f : α → Run β}
    (hf : ∀ a, x = .ok a → Leaves Inv (f a) s) : Leaves Inv (liftM x >>= f) s :=
  ends_lift_bind (R := fun _ => True) (.any fun _ => trivial) fun a ha _ => hf a ha

theorem leaves_inspect_bind {x : State → Except Fault α} {f : α → Run β}
    (hf : ∀ a, x s = .ok a → Leaves Inv (f a) s) : Leaves Inv (inspect x >>= f) s :=
  ends_inspect_bind (R := fun _ => True) (.any fun _ => trivial) fun a ha _ => hf a ha

/-- Going through a list, what one element brings about and all of them keep. -/
theorem leaves_forM {f : α → Run Unit} {list : List α} {a : α} (ha : a ∈ list)
    (hnew : ∀ s, Leaves Inv (f a) s) (h : ∀ b ∈ list, ∀ s, Inv s → Leaves Inv (f b) s) :
    Leaves Inv (list.forM f) s := by
  induction list generalizing s with
  | nil => cases ha
  | cons b list ih =>
    rw [List.forall_mem_cons] at h
    rcases List.mem_cons.mp ha with rfl | ha
    · exact (hnew s).bind fun _ s' hs' => ends_forM hs' h.2
    · have hfirst : Ends (fun _ _ => True) (fun _ => True) (f b) s := by
        rw [Ends]
        split <;> trivial
      exact hfirst.bind fun _ s' _ => ih ha h.2

theorem leaves_compute {f : State → Except Fault (List WordLanes)}
    (h : ∀ id list, Inv (s.withValue id (.components list))) : Leaves Inv (compute i f) s :=
  leaves_inspect_bind fun list _ => leaves_lift_bind fun id _ =>
    ends_define trivial fun _ => h id list

/-! ## Sampling -/

/-- A state with another machine. -/
def State.SameButMachine (s s' : State) : Prop := ∃ machine, s' = { s with machine }

theorem ends_ask {resolver : Resolver} {key : SamplingKey} (hbuilder : F .noRoutineBuilder) :
    Ends (fun _ => s.SameButMachine) F (ask resolver key) s := by
  cases resolver with
  | own find => exact ends_modify_bind (ends_pure ⟨_, rfl⟩)
  | device =>
    refine ends_modify_bind (ends_inspect_bind (R := fun _ => True) ?_ fun r _ _ => ?_)
    · rw [Device.resolve]
      split
      · trivial
      · split
        · exact hbuilder
        · trivial
    · refine ends_modify_bind ?_
      cases r.request with
      | none => exact ends_pure ⟨_, rfl⟩
      | some request => exact ends_modify_bind (ends_pure ⟨_, rfl⟩)

theorem ends_findFunction {site : SamplingInstruction} {image : DescriptorAddress} {sampler : Nat}
    (hbuilder : F .noRoutineBuilder) :
    Ends (fun _ => s.SameButMachine) F (findFunction e site image sampler) s := by
  refine ends_get_bind ?_
  cases s.machine.cache[site.callSite]?.bind (·.hit? image sampler) with
  | some function => exact ends_pure ⟨s.machine, rfl⟩
  | none =>
    refine (ends_ask hbuilder).bind ?_
    rintro f _ ⟨machine, rfl⟩
    exact ends_modify_bind (ends_pure ⟨_, rfl⟩)

/-- Sampling changes nothing but the machine. -/
theorem ends_sampleTexels {site : SamplingInstruction} (hbuilder : F .noRoutineBuilder)
    (himage : Results (fun _ => True) F (s.descriptor site.sampledImage))
    (hsampler : ∀ image, s.descriptor site.sampledImage = .ok image →
      Results (fun _ => True) F (e.samplerOf s site.sampledImage image))
    (hinputs : Results (fun _ => True) F (e.samplingInputs s site)) :
    Ends (fun _ => s.SameButMachine) F (sampleTexels e site) s := by
  refine ends_inspect_bind himage fun image himage _ => ?_
  refine ends_inspect_bind (hsampler image himage) fun sampler _ _ => ?_
  refine (ends_findFunction hbuilder).bind ?_
  rintro f _ ⟨machine, rfl⟩
  refine ends_inspect_bind hinputs fun inputs _ _ => ?_
  exact ends_modify_bind ⟨_, rfl⟩

/-! ## Steps and runs -/

/-- How an instruction ends, by how it is executed if it does not end a block. -/
theorem ends_step (hs : Inv s) (hunknown : F (.unknownOpcode i.opcode))
    (hmissing : Results (fun _ => True) F (i.id 1))
    (hexecute : ∀ op, i.op? = some op → Ends (fun _ => Inv) F (execute e i op) s) :
    Ends (fun _ => Inv) F (step e i) s := by
  unfold step
  split
  case h_1 => exact ends_throw hunknown
  case h_2 => exact ends_lift_bind hmissing fun _ _ _ => ends_pure hs
  case h_3 | h_4 => exact ends_pure hs
  case h_5 op _ _ _ hop => exact (hexecute op hop).bind fun _ _ hs' => ends_pure hs'

section

variable {inputs : InterfaceValues} {machine : Machine} {offset : Nat}

/-- Runs execute instructions of the module. -/
theorem Visits.mem_instructions (he : e.shader.IsAnalysed)
    (hs : Visits e inputs machine s offset) (hi : e.shader.definition offset = .ok i) :
    i ∈ e.shader.module.instructions := by
  obtain ⟨words, hm, hmodule⟩ := he
  obtain ⟨k, hk⟩ := visits_iff.mp hs
  rcases definition_of_isBoundary hm hmodule (isBoundary_of_going hm hmodule hk) with
    ⟨j, hj, -, hdefinition⟩ | ⟨-, hnone⟩
  · rwa [Except.ok.inj (hi.symm.trans hdefinition)]
  · cases hi.symm.trans hnone

/-- **What steps keep** holds in all states that a run visits, if it holds once the variables are
set up. -/
theorem Visits.invariant
    (hstart : Ends (fun _ => Inv) F (e.declarations.globals.forM (e.initGlobal inputs)) { machine })
    (hstep : ∀ s offset i, Visits e inputs machine s offset → e.shader.definition offset = .ok i →
      Inv s → Ends (fun _ => Inv) F (step e i) s)
    (hs : Visits e inputs machine s offset) : Inv s := by
  induction hs with
  | start hrun => rwa [Ends, hrun] at hstart
  | @next s s' offset i hs hi hrun ih =>
    have hafter := hstep s offset i hs hi ih
    rwa [Ends, hrun] at hafter
  | @branch s s' offset label start i hs hi hrun _ ih =>
    have hafter := hstep s offset i hs hi ih
    rwa [Ends, hrun] at hafter

/-- In runs of modules, what all their instructions keep. -/
theorem Visits.induction (he : e.shader.IsAnalysed)
    (hstart : ∀ id ∈ e.declarations.globals, ∀ s, Inv s →
      Ends (fun _ => Inv) F (e.initGlobal inputs id) s)
    (hempty : Inv { machine })
    (hstep : ∀ i ∈ e.shader.module.instructions, ∀ s, Inv s → Ends (fun _ => Inv) F (step e i) s)
    (hs : Visits e inputs machine s offset) : Inv s :=
  hs.invariant (ends_forM hempty hstart) fun s _ i hs hi => hstep i (hs.mem_instructions he hi) s

/-- **What steps keep** holds after a run that ends without a fault, and the run gives the outputs
of that state. -/
theorem leaves_run
    (hstart : Leaves Inv (e.declarations.globals.forM (e.initGlobal inputs)) { machine })
    (hstep : ∀ s offset i, Visits e inputs machine s offset → e.shader.definition offset = .ok i →
      Inv s → Leaves Inv (step e i) s) :
    Ends (fun outputs s => Inv s ∧ outputs = e.outputs s) (fun _ => True) (run e inputs)
      { machine } := by
  rw [Ends, run, run_bind]
  rcases hglobals : (e.declarations.globals.forM (e.initGlobal inputs)).run { machine } with
    ⟨_ | _, s⟩
  case error => trivial
  dsimp only
  rw [run_bind]
  rcases hrun : (runFrom e (enough e.shader.module) e.shader.entryBlock).run s with ⟨_ | _, s'⟩
  case error => trivial
  obtain ⟨s₁, offset, i, hs, hi, hlast⟩ := exists_visits_of_runFrom (.start hglobals) hrun
  have hafter := hstep s₁ offset i hs hi (hs.invariant hstart hstep)
  rw [Leaves, Ends, hlast] at hafter
  exact ⟨hafter, rfl⟩

end

end HostGpu.Execution
