import HostGpu.Proofs.Execution.Changes

/-!
# What a run preserves

A run sets up the variables outside of functions and executes one instruction after the other
(`Visits`).  In all states that it visits, blocks have the sizes they had before the run, and a
texel pointer among the values points to the texels of a request, so that every access to texels is
made through the storage record of some descriptor (`Performs.exists_request`).
-/

namespace HostGpu.Execution

open Outcome Spirv Shader

/-! ## Sizes of blocks -/

/-- Blocks keep their sizes. -/
def SameSizes (blocks blocks' : BlockTable) : Prop :=
  ∀ block, blocks'.size? block = blocks.size? block

variable {e : Environment} {i : Instruction} {s s' : State}

theorem Changes.sameSizes (h : Changes e s s') : SameSizes s.machine.blocks s'.machine.blocks := by
  intro block
  rw [h.extends.blocks]

theorem Effect.sameSizes (h : Effect e i s s') : SameSizes s.machine.blocks s'.machine.blocks := by
  obtain ⟨blocks, hstores, hchanges⟩ := h
  intro block
  rw [hchanges.sameSizes block]
  exact hstores.sizes block

theorem keeps_initGlobal (inputs : InterfaceValues) (id : Nat) :
    Keeps e (e.initGlobal inputs id) := by
  refine (keeps_lift _).bind ?_
  intro object
  cases object.kind with
  | «variable» storageClass =>
    dsimp only
    split
    · split
      · exact (keeps_lift _).bind fun _ => keeps_define fun _ h => by cases h
      · exact keeps_pure ()
    · refine (keeps_lift _).bind ?_
      intro storage
      split
      · exact (keeps_lift _).bind fun _ => keeps_createVariable _ _
      · exact (keeps_pure _).bind fun _ => keeps_createVariable _ _
  | _ => exact keeps_pure ()

theorem keeps_forM {α : Type} {f : α → Run Unit} (h : ∀ a, Keeps e (f a)) (list : List α) :
    Keeps e (list.forM f) := by
  induction list with
  | nil => exact keeps_pure ()
  | cons a list ih => exact (h a).bind fun _ => ih

/-! ## Visited states -/

/-- The states that a run visits, with the word offset of the instruction that is next.  A run
starts with its machine and no values. -/
inductive Visits (e : Environment) (inputs : InterfaceValues) (machine : Machine) :
    State → Nat → Prop
  | start {s : State}
      (hrun : (e.declarations.globals.forM (e.initGlobal inputs)).run { machine } = (.ok (), s)) :
      Visits e inputs machine s e.shader.entryBlock
  | next {s s' : State} {offset : Nat} {i : Instruction} (hs : Visits e inputs machine s offset)
      (hi : e.shader.definition offset = .ok i) (hstep : (step e i).run s = (.ok .next, s')) :
      Visits e inputs machine s' (offset + i.length)
  | branch {s s' : State} {offset label start : Nat} {i : Instruction}
      (hs : Visits e inputs machine s offset) (hi : e.shader.definition offset = .ok i)
      (hstep : (step e i).run s = (.ok (.branch label), s'))
      (hstart : blockStart e label = .ok start) : Visits e inputs machine s' start

section

variable {inputs : InterfaceValues} {machine : Machine} {I : State → Prop}
  (hstep : ∀ (s : State) (offset : Nat) (i : Instruction), Visits e inputs machine s offset →
    e.shader.definition offset = .ok i → I s → I ((step e i).run s).2)
include hstep

/-- What every instruction keeps that is executed in a visited state, the rest of a run keeps. -/
theorem runFrom_keeps (fuel offset : Nat) {s : State} (hs : Visits e inputs machine s offset)
    (h : I s) : I ((runFrom e fuel offset).run s).2 := by
  induction fuel generalizing offset s with
  | zero => exact h
  | succ fuel ih =>
    rw [runFrom, run_bind]
    cases hi : e.shader.definition offset with
    | error fault => exact h
    | ok i =>
      have hafter := hstep s offset i hs hi h
      change I ((step e i >>= _ : Run Unit).run s).2
      rw [run_bind]
      rcases hrun : (step e i).run s with ⟨_ | _ | label | _, s'⟩ <;> rw [hrun] at hafter
      case error | stop => exact hafter
      case next => exact ih _ (.next hs hi hrun) hafter
      case branch =>
        dsimp only
        rw [run_bind]
        cases hstart : blockStart e label with
        | error fault => exact hafter
        | ok start => exact ih _ (.branch hs hi hrun hstart) hafter

/-- **What every instruction keeps** that is executed in a visited state holds after a run, however
it ends, if it holds once the variables are set up. -/
theorem run_keeps (h : I ((e.declarations.globals.forM (e.initGlobal inputs)).run { machine }).2) :
    I ((run e inputs).run { machine }).2 := by
  rw [run, run_bind]
  rcases hglobals : (e.declarations.globals.forM (e.initGlobal inputs)).run { machine } with
    ⟨_ | _, s⟩ <;> rw [hglobals] at h
  · exact h
  · have hrun := runFrom_keeps hstep (enough e.shader.module) _ (.start hglobals) h
    dsimp only
    rw [run_bind]
    rcases hend : (runFrom e (enough e.shader.module) e.shader.entryBlock).run s with
      ⟨_ | _, s'⟩ <;> rw [hend] at hrun <;> exact hrun

end

/-- Setting up variables keeps memory. -/
theorem keeps_globals (inputs : InterfaceValues) :
    Keeps e (e.declarations.globals.forM (e.initGlobal inputs)) :=
  keeps_forM (keeps_initGlobal inputs) e.declarations.globals

/-- A whole run keeps the sizes of blocks. -/
theorem run_sameSizes (e : Environment) (inputs : InterfaceValues) (machine : Machine) :
    SameSizes machine.blocks ((run e inputs).run { machine }).2.machine.blocks := by
  refine run_keeps (I := fun s => SameSizes machine.blocks s.machine.blocks) ?_ ?_
  · intro s _ i _ _ hs block
    exact ((step_effect e i s).sameSizes block).trans (hs block)
  · exact (keeps_globals inputs { machine }).sameSizes

/-- Texel pointers among the values of a state are to the texels of requests. -/
def Sourced (e : Environment) (s : State) : Prop := ∀ p, s.Holds p → e.Points s p

theorem Extends.sourced (h : Extends e s s') (hs : Sourced e s) : Sourced e s' := by
  intro p hp
  rcases h.texels p hp with hp | hp
  · exact (hs p hp).mono h.within
  · exact hp

theorem Effect.sourced (h : Effect e i s s') (hs : Sourced e s) : Sourced e s' := by
  obtain ⟨blocks, -, hchanges⟩ := h
  exact hchanges.extends.sourced (s := s.withBlocks blocks) hs

theorem effect_of_run {r : Except Fault Flow} (h : (step e i).run s = (r, s')) :
    Effect e i s s' := by
  have heffect := step_effect e i s
  rwa [h] at heffect

/-- **Every visited state** has blocks of the sizes they had before, and texel pointers to the
texels of requests. -/
theorem Visits.sameSizes_and_sourced {inputs : InterfaceValues} {machine : Machine} {offset : Nat}
    (h : Visits e inputs machine s offset) :
    SameSizes machine.blocks s.machine.blocks ∧ Sourced e s := by
  induction h with
  | start hrun =>
    have hchanges := keeps_globals (e := e) inputs { machine }
    rw [hrun] at hchanges
    refine ⟨hchanges.sameSizes, hchanges.extends.sourced ?_⟩
    rintro p ⟨id, hp⟩
    simp at hp
  | next hs hi hstep ih =>
    have heffect := effect_of_run hstep
    exact ⟨fun block => (heffect.sameSizes block).trans (ih.1 block), heffect.sourced ih.2⟩
  | branch hs hi hstep hstart ih =>
    have heffect := effect_of_run hstep
    exact ⟨fun block => (heffect.sameSizes block).trans (ih.1 block), heffect.sourced ih.2⟩

/-- A run that ends without a fault executes its last instruction in a state that it visits. -/
theorem exists_visits_of_runFrom {inputs : InterfaceValues} {machine : Machine} {fuel offset : Nat}
    (hs : Visits e inputs machine s offset) (h : (runFrom e fuel offset).run s = (.ok (), s')) :
    ∃ s₁ offset₁ i, Visits e inputs machine s₁ offset₁ ∧ e.shader.definition offset₁ = .ok i ∧
      (step e i).run s₁ = (.ok .stop, s') := by
  induction fuel generalizing offset s with
  | zero => cases h
  | succ fuel ih =>
    rw [runFrom, run_bind] at h
    cases hi : e.shader.definition offset with
    | error fault => rw [hi] at h; cases h
    | ok i =>
      rw [hi] at h
      change (step e i >>= _ : Run Unit).run s = _ at h
      rw [run_bind] at h
      rcases hstep : (step e i).run s with ⟨_ | _ | label | _, s₁⟩ <;> rw [hstep] at h
      case error => cases h
      case next => exact ih (.next hs hi hstep) h
      case branch =>
        dsimp only at h
        rw [run_bind] at h
        cases hstart : blockStart e label with
        | error fault => rw [hstart] at h; cases h
        | ok start =>
          rw [hstart] at h
          exact ih (.branch hs hi hstep hstart) h
      case stop =>
        cases h
        exact ⟨s, offset, i, hs, hi, hstep⟩

/-! ### The states of one run, one after the other -/

/-- The states that a run goes through from an offset on, each with the instruction that it executes
there. -/
def trace (e : Environment) : (fuel : Nat) → (offset : Nat) → State → List (State × Instruction)
  | 0, _, _ => []
  | fuel + 1, offset, s =>
    match e.shader.definition offset with
    | .error _ => []
    | .ok i =>
      (s, i) :: match (step e i).run s with
        | (.ok .next, s') => trace e fuel (offset + i.length) s'
        | (.ok (.branch label), s') =>
          match blockStart e label with
          | .ok start => trace e fuel start s'
          | .error _ => []
        | (.ok .stop, _) | (.error _, _) => []

/-- What a trace says is executed in visited states. -/
theorem Visits.of_mem_trace {inputs : InterfaceValues} {machine : Machine} {fuel offset : Nat}
    (hs : Visits e inputs machine s offset) (h : (s', i) ∈ trace e fuel offset s) :
    ∃ offset', Visits e inputs machine s' offset' ∧ e.shader.definition offset' = .ok i := by
  induction fuel generalizing offset s with
  | zero => cases h
  | succ fuel ih =>
    rw [trace] at h
    split at h
    case h_1 => cases h
    case h_2 j hj =>
      rcases List.mem_cons.mp h with heq | h
      · cases heq
        exact ⟨offset, hs, hj⟩
      · split at h
        case h_1 s'' hstep => exact ih (.next hs hj hstep) h
        case h_2 label s'' hstep =>
          split at h
          case h_1 start hstart => exact ih (.branch hs hj hstep hstart) h
          case h_2 => cases h
        case h_3 | h_4 => cases h

/-- Visited states of a run that ends without a fault stand in its trace: what is left of the run
ends without a fault, and its trace is a part of the whole one. -/
theorem Visits.exists_fuel {inputs : InterfaceValues} {machine : Machine} {fuel : Nat}
    {offset : Nat} {first last : State}
    (hglobals : (e.declarations.globals.forM (e.initGlobal inputs)).run { machine } =
      (.ok (), first))
    (hrun : (runFrom e fuel e.shader.entryBlock).run first = (.ok (), last))
    (hs : Visits e inputs machine s offset) :
    ∃ left, (runFrom e left offset).run s = (.ok (), last) ∧
      trace e left offset s ⊆ trace e fuel e.shader.entryBlock first := by
  induction hs with
  | start h =>
    rw [hglobals] at h
    cases h
    exact ⟨fuel, hrun, fun _ h => h⟩
  | @next s s' offset i hs hi hstep ih =>
    obtain ⟨left, hleft, hsub⟩ := ih
    cases left with
    | zero => cases hleft
    | succ left =>
      rw [runFrom, hi] at hleft
      simp only [trace, hi, hstep] at hsub
      refine ⟨left, ?_, fun p hp => hsub (List.mem_cons_of_mem _ hp)⟩
      change (step e i >>= _ : Run Unit).run s = _ at hleft
      rwa [run_bind, hstep] at hleft
  | @branch s s' offset label start i hs hi hstep hstart ih =>
    obtain ⟨left, hleft, hsub⟩ := ih
    cases left with
    | zero => cases hleft
    | succ left =>
      rw [runFrom, hi] at hleft
      simp only [trace, hi, hstep, hstart] at hsub
      refine ⟨left, ?_, fun p hp => hsub (List.mem_cons_of_mem _ hp)⟩
      change (step e i >>= _ : Run Unit).run s = _ at hleft
      rw [run_bind, hstep] at hleft
      dsimp only at hleft
      rwa [run_bind, hstart] at hleft

/-- **A run that ends without a fault** executes in visited states what its trace says. -/
theorem Visits.mem_trace {inputs : InterfaceValues} {machine : Machine} {fuel offset : Nat}
    {first last : State}
    (hglobals : (e.declarations.globals.forM (e.initGlobal inputs)).run { machine } =
      (.ok (), first))
    (hrun : (runFrom e fuel e.shader.entryBlock).run first = (.ok (), last))
    (hs : Visits e inputs machine s offset) (hi : e.shader.definition offset = .ok i) :
    (s, i) ∈ trace e fuel e.shader.entryBlock first := by
  obtain ⟨left, hleft, hsub⟩ := hs.exists_fuel hglobals hrun
  cases left with
  | zero => cases hleft
  | succ left =>
    refine hsub ?_
    rw [trace, hi]
    exact List.mem_cons_self

/-! ## The source of accesses -/

/-- The records of a descriptor whose texels an access is made to: its pointer was computed from the
record at an address, for the stencil plane or the other one, and moved by whole bytes. -/
def TexelAccess.Through (x : TexelAccess) (e : Environment) (s : State) (a : DescriptorAddress)
    (stencil : Bool) : Prop :=
  ∃ r p k, r.stencil = stencil ∧ s.descriptor r.image = .ok a ∧ e.texelPointer s r = .ok p ∧
    x.pointer = p.advance k

/-- Every access of an instruction in such a state is made through some descriptor. -/
theorem Performs.exists_through {x : TexelAccess} (h : Performs e s i x) (hs : Sourced e s) :
    ∃ a stencil, x.Through e s a stencil := by
  have hpointer : ∃ r p k, e.texelPointer s r = .ok p ∧ x.pointer = p.advance k := by
    cases h with
    | imageRead hop hload hx =>
      obtain ⟨k, n, -, -, rfl⟩ := TexelAccess.exists_advance_of_mem_parts hx
      obtain ⟨r, hr⟩ := (Environment.imageLoad_eq_ok hload).1
      exact ⟨r, _, k, hr, rfl⟩
    | imageWrite hop hstore hx =>
      obtain ⟨k, n, -, -, rfl⟩ := TexelAccess.exists_advance_of_mem_parts hx
      obtain ⟨r, hr⟩ := (Environment.imageStore_eq_ok hstore).1
      exact ⟨r, _, k, hr, rfl⟩
    | load hop hid hp | store hop hid hp | add hop hid hp =>
      obtain ⟨r, -, hr⟩ := hs _ (State.holds_of_target hp)
      exact ⟨r, _, 0, hr, (TexelPointer.advance_zero _).symm⟩
  obtain ⟨r, p, k, hr, hx⟩ := hpointer
  have haddress := hr
  simp only [Environment.texelPointer, bind_eq_ok] at haddress
  obtain ⟨a, ha, -⟩ := haddress
  exact ⟨a, r.stencil, r, p, k, rfl, ha, hr, hx⟩

end HostGpu.Execution
