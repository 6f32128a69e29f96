import HostGpu.Execution.Run
import HostGpu.Proofs.Execution.TexelAccess
import Mathlib.Logic.Relation

/-!
# What an instruction changes

An instruction may first store to texels and then only defines values, replaces the storage of
variables, and changes what a machine keeps besides memory (`Effect`, `step_effect`).  Everything
that holds along a run is derived from this list of changes: values are never lost, texel pointers
come from requests for texels, blocks keep their sizes, and bytes that no access touches stay as
they are.
-/

namespace HostGpu.Execution

open Outcome Spirv Shader

/-! ## Changes that leave memory -/

/-- A texel pointer is among the values of a state. -/
def State.Holds (s : State) (p : TexelPointer) : Prop :=
  ∃ id : Nat, s.values[id]? = some (Value.pointer (.texel p))

theorem State.holds_of_target {s : State} {id : Nat} {p : TexelPointer}
    (h : s.target id = .ok (.texel p)) : s.Holds p := by
  rw [target] at h
  split at h
  · rename_i hv
    cases h
    exact ⟨id, hv⟩
  · cases h
  · cases h

/-- All values of a state are values of another one. -/
def State.Within (s s' : State) : Prop :=
  ∀ (id : Nat) (v : Value), s.values[id]? = some v → s'.values[id]? = some v

/-- A request of a pointer, as instructions make it that give one: for words, not of stencil, and
with a test of coordinates. -/
structure TexelRequest.OfPointer (r : TexelRequest) : Prop where
  texelSize : r.texelSize = 4
  stencil : r.stencil = false
  rule : r.rule = .nullify

/-- A pointer to the texels of such a request. -/
def Environment.Points (e : Environment) (s : State) (p : TexelPointer) : Prop :=
  ∃ r : TexelRequest, r.OfPointer ∧ e.texelPointer s r = .ok p

/-- A texel pointer is among the values of a state, or points to the texels of a request. -/
def Known (e : Environment) (s : State) (p : TexelPointer) : Prop := s.Holds p ∨ e.Points s p

/-- A change that leaves memory as it is. -/
inductive Change (e : Environment) (s : State) : State → Prop
  | value {id : Nat} {v : Value} {s' : State} (hdefine : s.define id v = .ok s')
      (hknown : ∀ p, v = .pointer (.texel p) → Known e s p) : Change e s s'
  | storage (id : Nat) (storage : List WordLanes) : Change e s (s.setStorage id storage)
  | machine {machine : Machine} (hblocks : machine.blocks = s.machine.blocks) :
      Change e s { s with machine }

/-- Changes that leave memory as it is, one after the other. -/
abbrev Changes (e : Environment) : State → State → Prop := Relation.ReflTransGen (Change e)

/-! ### What changes preserve -/

namespace State

variable {s s' : State} (h : s.Within s')
include h

theorem components_mono {id : Nat} {list : List WordLanes} (hs : s.components id = .ok list) :
    s'.components id = .ok list := by
  rw [components] at hs ⊢
  split at hs
  · rename_i hv
    rw [h _ _ hv]
    exact hs
  · cases hs
  · cases hs

theorem target_mono {id : Nat} {t : Target} (hs : s.target id = .ok t) : s'.target id = .ok t := by
  rw [target] at hs ⊢
  split at hs
  · rename_i hv
    rw [h _ _ hv]
    exact hs
  · cases hs
  · cases hs

theorem descriptor_mono {id : Nat} {a : DescriptorAddress} (hs : s.descriptor id = .ok a) :
    s'.descriptor id = .ok a := by
  simp only [descriptor, bind_eq_ok] at hs ⊢
  obtain ⟨t, ht, ha⟩ := hs
  exact ⟨t, target_mono h ht, ha⟩

end State

namespace Environment

variable {e : Environment} {s s' : State} (h : s.Within s')
include h

theorem operand_mono {id : Nat} {o : Operand} (hs : e.operand s id = .ok o) :
    e.operand s' id = .ok o := by
  simp only [operand, bind_eq_ok] at hs ⊢
  obtain ⟨object, hobject, hs⟩ := hs
  refine ⟨object, hobject, ?_⟩
  cases hkind : object.kind <;> rw [hkind] at hs <;> simp only [bind_eq_ok] at hs ⊢
  case constant => exact hs
  all_goals
    obtain ⟨list, hlist, ho⟩ := hs
    exact ⟨list, State.components_mono h hlist, ho⟩

theorem samples_mono {id : Option Nat} {o : Option WordLanes} (hs : e.samples s id = .ok o) :
    e.samples s' id = .ok o := by
  cases id with
  | none => exact hs
  | some id =>
    simp only [samples, bind_eq_ok] at hs ⊢
    obtain ⟨sample, hsample, hs⟩ := hs
    exact ⟨sample, operand_mono h hsample, hs⟩

/-- Pointers to the texels of a request stay what they are while values are added. -/
theorem texelPointer_mono {r : TexelRequest} {p : TexelPointer}
    (hs : e.texelPointer s r = .ok p) : e.texelPointer s' r = .ok p := by
  simp only [texelPointer, bind_eq_ok] at hs ⊢
  obtain ⟨address, haddress, sample, hsample, hs⟩ := hs
  exact ⟨address, State.descriptor_mono h haddress, sample, samples_mono h hsample, hs⟩

theorem Points.mono {p : TexelPointer} (hs : e.Points s p) : e.Points s' p := by
  obtain ⟨r, hr, hp⟩ := hs
  exact ⟨r, hr, texelPointer_mono h hp⟩

end Environment

/-- What a part of a run that leaves memory preserves: values are only added, and texel pointers
among them are old or to the texels of a request. -/
structure Extends (e : Environment) (s s' : State) : Prop where
  within : s.Within s'
  texels : ∀ p, s'.Holds p → s.Holds p ∨ e.Points s' p
  blocks : s'.machine.blocks = s.machine.blocks

namespace Extends

variable {e : Environment} {s s' s'' : State}

theorem refl (e : Environment) (s : State) : Extends e s s :=
  ⟨fun _ _ h => h, fun _ h => .inl h, rfl⟩

theorem trans (h : Extends e s s') (h' : Extends e s' s'') : Extends e s s'' := by
  refine ⟨fun id v hv => h'.within id v (h.within id v hv), ?_, h'.blocks.trans h.blocks⟩
  intro p hp
  rcases h'.texels p hp with hp | hp
  · rcases h.texels p hp with hp | hp
    · exact .inl hp
    · exact .inr (Environment.Points.mono h'.within hp)
  · exact .inr hp

/-- A new value is added to the others. -/
theorem of_define {id : Nat} {v : Value} (hdefine : s.define id v = .ok s')
    (hknown : ∀ p, v = .pointer (.texel p) → Known e s p) : Extends e s s' := by
  simp only [State.define, ite_error_eq_ok, Except.ok.injEq] at hdefine
  obtain ⟨hnew, rfl⟩ := hdefine
  have hwithin : s.Within { s with values := s.values.insert id v } := by
    intro id' v' hv'
    have hne : ¬ id = id' := by
      rintro rfl
      exact hnew (by rw [Std.TreeMap.contains_eq_isSome_getElem?, hv']; rfl)
    rw [Std.TreeMap.getElem?_insert, if_neg (by simpa using hne)]
    exact hv'
  refine ⟨hwithin, ?_, rfl⟩
  rintro p ⟨id', hp⟩
  rw [Std.TreeMap.getElem?_insert] at hp
  split at hp
  · rcases hknown p (Option.some.inj hp) with hp | hp
    · exact .inl hp
    · exact .inr (Environment.Points.mono hwithin hp)
  · exact .inl ⟨id', hp⟩

end Extends

theorem Change.extends {e : Environment} {s s' : State} (h : Change e s s') : Extends e s s' := by
  cases h with
  | value hdefine hknown => exact .of_define hdefine hknown
  | storage id storage => exact ⟨fun _ _ h => h, fun _ h => .inl h, rfl⟩
  | machine hblocks => exact ⟨fun _ _ h => h, fun _ h => .inl h, hblocks⟩

theorem Changes.extends {e : Environment} {s s' : State} (h : Changes e s s') :
    Extends e s s' := by
  induction h with
  | refl => exact .refl e s
  | tail _ hstep ih => exact ih.trans hstep.extends

/-! ### Parts of a run that leave memory -/

/-- A part of a run leaves memory as it is. -/
def Keeps (e : Environment) {α : Type} (x : Run α) : Prop := ∀ s, Changes e s (x.run s).2

variable {e : Environment} {α β : Type}

theorem keeps_pure (a : α) : Keeps e (pure a : Run α) := fun _ => .refl

theorem keeps_lift (x : Except Fault α) : Keeps e (liftM x : Run α) := fun _ => .refl

theorem keeps_get : Keeps e (get : Run State) := fun _ => .refl

theorem keeps_inspect (f : State → Except Fault α) : Keeps e (inspect f) := fun _ => .refl

theorem keeps_modify {f : State → State} (h : ∀ s, Change e s (f s)) :
    Keeps e (modify f : Run Unit) :=
  fun s => .single (h s)

/-- What follows a part of a run starts from the state that it left. -/
theorem run_bind (x : Run α) (f : α → Run β) (s : State) :
    (x >>= f).run s = match x.run s with
      | (.ok a, s') => (f a).run s'
      | (.error fault, s') => (.error fault, s') := by
  rw [bind_run]
  rcases x.run s with ⟨_ | _, _⟩ <;> rfl

theorem Keeps.bind {x : Run α} {f : α → Run β} (hx : Keeps e x) (hf : ∀ a, Keeps e (f a)) :
    Keeps e (x >>= f) := by
  intro s
  rw [run_bind]
  have hs := hx s
  rcases hrun : x.run s with ⟨_ | a, s'⟩ <;> rw [hrun] at hs
  · exact hs
  · exact hs.trans (hf a s')

theorem run_inspect (f : State → Except Fault α) (s : State) : (inspect f).run s = (f s, s) := rfl

/-- What follows starts from the state that was inspected. -/
theorem keeps_inspect_bind {f : State → Except Fault α} {g : α → Run β}
    (h : ∀ s a, f s = .ok a → Changes e s ((g a).run s).2) : Keeps e (inspect f >>= g) := by
  intro s
  rw [run_bind, run_inspect]
  cases hf : f s with
  | error fault => exact .refl
  | ok a => exact h s a hf

/-- Defining a value is one change, unless it fails. -/
theorem keeps_define_at {id : Nat} {v : Value} {s : State}
    (hknown : ∀ p, v = .pointer (.texel p) → Known e s p) :
    Changes e s ((define id v).run s).2 := by
  rw [define, run_bind, run_inspect]
  cases hdefine : s.define id v with
  | error fault => exact .refl
  | ok s' => exact .single (.value hdefine hknown)

theorem keeps_define {id : Nat} {v : Value} (hv : ∀ p, v ≠ .pointer (.texel p)) :
    Keeps e (define id v) := fun _ => keeps_define_at fun p hp => absurd hp (hv p)

theorem keeps_defineComponents (id : Nat) (list : List WordLanes) :
    Keeps e (defineComponents id list) := keeps_define fun _ h => by cases h

theorem keeps_createVariable (id : Nat) (storage : List WordLanes) :
    Keeps e (createVariable id storage) :=
  (keeps_modify fun _ => .storage id storage).bind fun _ => keeps_define fun _ h => by cases h

theorem keeps_compute (i : Instruction) (f : State → Except Fault (List WordLanes)) :
    Keeps e (compute i f) :=
  (keeps_inspect f).bind fun _ => (keeps_lift _).bind fun _ => keeps_defineComponents _ _

/-! ## Instructions that leave memory -/

variable {e : Environment}

theorem loadedValue_ne_texel {s : State} {type : TypeInfo} {target : Target} {v : Value}
    (h : loadedValue e s type target = .ok v) (p : TexelPointer) : v ≠ .pointer (.texel p) := by
  cases target with
  | descriptor address =>
    simp only [loadedValue, ite_ok_error, Except.ok.injEq] at h
    obtain ⟨-, rfl⟩ := h
    exact fun h => by cases h
  | «variable» id offsets =>
    simp only [loadedValue, bind_eq_ok, pure_eq_ok] at h
    obtain ⟨_, -, rfl⟩ := h
    exact fun h => by cases h
  | texel pointer =>
    simp only [loadedValue, Except.ok.injEq] at h
    subst h
    exact fun h => by cases h

theorem chainTarget_ne_texel {s : State} {i : Instruction} {base : Nat} {target t : Target}
    (h : chainTarget e s i base target = .ok t) (p : TexelPointer) : t ≠ .texel p := by
  cases target with
  | descriptor address =>
    simp only [chainTarget, bind_eq_ok, pure_eq_ok] at h
    obtain ⟨_, -, rfl⟩ := h
    exact fun h => by cases h
  | «variable» id offsets =>
    simp only [chainTarget, bind_eq_ok, pure_eq_ok] at h
    obtain ⟨_, -, _, -, _, -, rfl⟩ := h
    exact fun h => by cases h
  | texel pointer => cases h

theorem keeps_executeLoad (i : Instruction) : Keeps e (executeLoad e i) := by
  refine (keeps_lift _).bind fun type => (keeps_lift _).bind fun result => (keeps_lift _).bind
    fun source => keeps_inspect_bind fun s v hv => keeps_define ?_ s
  simp only [bind_eq_ok] at hv
  obtain ⟨_, -, hv⟩ := hv
  exact loadedValue_ne_texel hv

theorem keeps_executeAccessChain (i : Instruction) : Keeps e (executeAccessChain e i) := by
  refine (keeps_lift _).bind fun result => (keeps_lift _).bind fun base =>
    keeps_inspect_bind fun s t ht => keeps_define (fun p hp => ?_) s
  simp only [bind_eq_ok] at ht
  obtain ⟨_, -, ht⟩ := ht
  exact chainTarget_ne_texel ht p (Value.pointer.inj hp)

/-- The pointer that an image texel pointer instruction defines is to the texels of a request. -/
theorem keeps_imageTexelPointer (i : Instruction) : Keeps e (do
    let pointer ← inspect fun s => e.imageTexelPointer s i
    definePointer (← liftM (i.id 2)) (.texel pointer)) := by
  refine keeps_inspect_bind ?_
  intro s pointer hpointer
  rw [run_bind]
  cases i.id 2 with
  | error fault => exact .refl
  | ok id =>
    refine keeps_define_at fun p hp => .inr ?_
    cases hp
    simp only [Environment.imageTexelPointer, bind_eq_ok] at hpointer
    obtain ⟨_, -, _, -, _, -, _, -, _, -, _, -, hpointer⟩ := hpointer
    exact ⟨_, ⟨rfl, rfl, rfl⟩, hpointer⟩

/-- A texel pointer that is passed on stands among the values already. -/
theorem keeps_forward (i : Instruction) : Keeps e (do
    let target ← inspect fun s => do s.target (← i.id 3)
    definePointer (← liftM (i.id 2)) target) := by
  refine keeps_inspect_bind ?_
  intro s target htarget
  rw [run_bind]
  cases i.id 2 with
  | error fault => exact .refl
  | ok id =>
    refine keeps_define_at fun p hp => .inl ?_
    cases hp
    simp only [bind_eq_ok] at htarget
    obtain ⟨source, -, htarget⟩ := htarget
    exact State.holds_of_target htarget

/-! ### Sampling -/

theorem keeps_note (event : SamplingEvent) : Keeps e (modify (·.note event)) :=
  keeps_modify fun _ => .machine rfl

theorem keeps_ask (resolver : Resolver) (key : SamplingKey) : Keeps e (ask resolver key) := by
  cases resolver with
  | own find => exact (keeps_note _).bind fun _ => keeps_pure _
  | device =>
    refine (keeps_note _).bind fun _ => (keeps_inspect _).bind fun r => Keeps.bind ?_ fun _ => ?_
    · exact keeps_modify fun _ => .machine rfl
    · cases r.request with
      | none => exact keeps_pure _
      | some request => exact (keeps_note _).bind fun _ => keeps_pure _

theorem keeps_findFunction (i : SamplingInstruction) (image : DescriptorAddress) (sampler : Nat) :
    Keeps e (findFunction e i image sampler) := by
  refine keeps_get.bind ?_
  intro s
  split
  · exact keeps_pure _
  · refine (keeps_ask _ _).bind fun _ => Keeps.bind ?_ fun _ => keeps_pure _
    exact keeps_modify fun _ => .machine rfl

theorem keeps_sampleTexels (i : SamplingInstruction) : Keeps e (sampleTexels e i) :=
  (keeps_inspect _).bind fun _ => (keeps_inspect _).bind fun _ => (keeps_findFunction _ _ _).bind
    fun _ => (keeps_inspect _).bind fun _ => (keeps_note _).bind fun _ => keeps_get.bind fun _ =>
      keeps_pure _

theorem keeps_executeSampling (i : Instruction) (op : Opcode) :
    Keeps e (executeSampling e i op) := by
  refine (keeps_lift _).bind fun i => (keeps_lift _).bind fun count => ?_
  split
  · exact (keeps_sampleTexels i).bind fun _ => keeps_defineComponents _ _
  · exact (keeps_pure _).bind fun _ => keeps_defineComponents _ _

/-! ### All of them -/

/-- Image writes, stores and atomic additions. -/
def mayStoreTexels : Opcode → Bool
  | .opImageWrite | .opStore | .opAtomicIAdd => true
  | _ => false

/-- **Other instructions leave memory.** -/
theorem keeps_execute (i : Instruction) {op : Opcode} (hop : mayStoreTexels op = false) :
    Keeps e (execute e i op) := by
  unfold execute
  split
  -- labels, merges and lines
  case h_1 | h_2 | h_3 | h_4 | h_5 => exact keeps_pure ()
  -- variables
  case h_6 =>
    exact (keeps_lift _).bind fun _ => (keeps_lift _).bind fun _ => keeps_createVariable _ _
  -- loads and access chains
  case h_8 => exact keeps_executeLoad i
  case h_10 | h_11 => exact keeps_executeAccessChain i
  -- images
  case h_15 => exact (keeps_lift _).bind fun _ => keeps_compute _ _
  case h_21 => exact keeps_imageTexelPointer i
  case h_22 | h_23 => exact keeps_forward i
  -- arithmetic and sampling
  case h_25 =>
    split
    · exact keeps_compute _ _
    · exact keeps_compute _ _
    · split
      · exact keeps_executeSampling i op
      · exact fun _ => .refl
  -- what stores
  case h_9 | h_20 | h_24 => cases hop
  -- all others compute components
  all_goals exact keeps_compute _ _

theorem keeps_step (h : i.op?.all (!mayStoreTexels ·) = true) : Keeps e (step e i) := by
  unfold step
  split
  case h_1 => exact fun _ => .refl
  case h_2 => exact (keeps_lift _).bind fun _ => keeps_pure _
  case h_3 | h_4 => exact keeps_pure _
  case h_5 op _ _ _ hop =>
    rw [hop] at h
    exact (keeps_execute i (by simpa using h)).bind fun _ => keeps_pure _

/-! ## Instructions that store -/

/-- Blocks after the accesses of an instruction: their sizes are the same, and bytes that no access
touches. -/
structure Stores (e : Environment) (i : Instruction) (s : State) (blocks : BlockTable) : Prop where
  sizes : ∀ block, blocks.size? block = s.machine.blocks.size? block
  bytes : ∀ block j, (∀ x, Performs e s i x → ¬ x.Touches block j) →
    blocks.byte block j = s.machine.blocks.byte block j

/-- **What an instruction does to a state.**  It may store to texels, and the changes that follow
leave memory. -/
def Effect (e : Environment) (i : Instruction) (s s' : State) : Prop :=
  ∃ blocks, Stores e i s blocks ∧ Changes e (s.withBlocks blocks) s'

variable {i : Instruction} {s s' : State}

theorem Effect.of_changes (h : Changes e s s') : Effect e i s s' :=
  ⟨s.machine.blocks, ⟨fun _ => rfl, fun _ _ _ => rfl⟩, h⟩

theorem Effect.of_stores {blocks : BlockTable} (h : Stores e i s blocks) :
    Effect e i s (s.withBlocks blocks) := ⟨blocks, h, .refl⟩

theorem Effect.then (h : Effect e i s s') {s'' : State} (h' : Changes e s' s'') :
    Effect e i s s'' := by
  obtain ⟨blocks, hstores, hchanges⟩ := h
  exact ⟨blocks, hstores, hchanges.trans h'⟩

theorem run_set (s s' : State) : (set s' : Run Unit).run s = (.ok (), s') := rfl

variable {α β : Type}

theorem effect_lift_bind {x : Except Fault α} {g : α → Run β}
    (h : ∀ a, x = .ok a → Effect e i s ((g a).run s).2) :
    Effect e i s ((liftM x >>= g).run s).2 := by
  rw [run_bind]
  cases x with
  | error fault => exact .of_changes .refl
  | ok a => exact h a rfl

theorem effect_inspect_bind {f : State → Except Fault α} {g : α → Run β}
    (h : ∀ a, f s = .ok a → Effect e i s ((g a).run s).2) :
    Effect e i s ((inspect f >>= g).run s).2 := by
  rw [run_bind, run_inspect]
  cases hf : f s with
  | error fault => exact .of_changes .refl
  | ok a => exact h a hf

theorem effect_imageWrite (hop : i.op? = some .opImageWrite)
    (h : e.imageWrite s i = .ok s') : Effect e i s s' := by
  simp only [Environment.imageWrite, bind_eq_ok, pure_eq_ok] at h
  obtain ⟨store, hstore, rfl⟩ := h
  refine .of_stores ⟨TexelPointer.size?_storeWords _ _, fun block j hj => ?_⟩
  exact TexelPointer.byte_storeWords (texelRule_ne_unchecked _) fun x hx =>
    hj x (.imageWrite hop hstore hx)

theorem effect_store (hop : i.op? = some .opStore) {id : Nat} (hid : i.id 1 = .ok id)
    {value : Operand} {target : Target} (htarget : s.target id = .ok target)
    (h : storedState e s value target = .ok s') : Effect e i s s' := by
  cases target with
  | descriptor address => cases h
  | «variable» id offsets =>
    simp only [storedState, bind_eq_ok, pure_eq_ok] at h
    obtain ⟨storage, -, rfl⟩ := h
    exact .of_changes (.single (.storage _ _))
  | texel p =>
    simp only [storedState, bind_eq_ok, pure_eq_ok] at h
    obtain ⟨word, -, rfl⟩ := h
    have hperforms : Performs e s i _ := .store hop hid htarget
    exact .of_stores ⟨TexelAccess.size?_store (x := ⟨p, 4, e.storing, _⟩) word, fun block j hj =>
      TexelAccess.byte_store hperforms.rule_ne_unchecked (hj _ hperforms)⟩

theorem effect_atomicAdd (hop : i.op? = some .opAtomicIAdd) {id : Nat} (hid : i.id 3 = .ok id)
    {value previous : WordLanes} {target : Target} (htarget : s.target id = .ok target)
    (h : atomicAdd e s value target = .ok (previous, s')) : Effect e i s s' := by
  cases target with
  | descriptor address => cases h
  | «variable» id offsets =>
    simp only [atomicAdd, bind_eq_ok, pure_eq_ok, Prod.mk.injEq] at h
    obtain ⟨storage, -, -, rfl⟩ := h
    exact .of_changes (.single (.storage _ _))
  | texel p =>
    simp only [atomicAdd, Except.ok.injEq, Prod.mk.injEq] at h
    obtain ⟨-, rfl⟩ := h
    exact .of_stores ⟨TexelPointer.size?_atomicAdd value, fun block j hj =>
      TexelPointer.byte_atomicAdd (hj _ (.add hop hid htarget))⟩

theorem effect_executeStore (hop : i.op? = some .opStore) :
    Effect e i s ((executeStore e i).run s).2 := by
  refine effect_inspect_bind ?_
  intro s' h
  simp only [bind_eq_ok] at h
  obtain ⟨id, hid, target, htarget, _, -, value, -, h⟩ := h
  exact effect_store hop hid htarget h

theorem effect_executeAtomicAdd (hop : i.op? = some .opAtomicIAdd) :
    Effect e i s ((executeAtomicAdd e i).run s).2 := by
  refine effect_lift_bind fun result _ => effect_inspect_bind ?_
  rintro ⟨previous, s'⟩ h
  simp only [bind_eq_ok] at h
  obtain ⟨id, hid, target, htarget, _, -, _, -, value, -, h⟩ := h
  rw [run_bind, run_set]
  exact (effect_atomicAdd hop hid htarget h).then (keeps_defineComponents result [previous] s')

/-! ## All instructions -/

/-- The effect of an instruction that does not end a block. -/
theorem effect_execute {op : Opcode} (hop : i.op? = some op) :
    Effect e i s ((execute e i op).run s).2 := by
  cases hstores : mayStoreTexels op with
  | false => exact .of_changes (keeps_execute i hstores s)
  | true =>
    unfold mayStoreTexels at hstores
    split at hstores
    case h_1 => exact effect_inspect_bind fun s' h => effect_imageWrite hop h
    case h_2 => exact effect_executeStore hop
    case h_3 => exact effect_executeAtomicAdd hop
    case h_4 => cases hstores

/-- The effect of an instruction. -/
theorem step_effect (e : Environment) (i : Instruction) (s : State) :
    Effect e i s ((step e i).run s).2 := by
  unfold step
  split
  case h_1 => exact .of_changes .refl
  case h_2 => exact effect_lift_bind fun label _ => .of_changes .refl
  case h_3 | h_4 => exact .of_changes .refl
  case h_5 op _ _ _ hop =>
    rw [run_bind]
    have heffect := effect_execute (e := e) (s := s) hop
    rcases hrun : (execute e i op).run s with ⟨_ | _, s'⟩ <;> rw [hrun] at heffect
    · exact heffect
    · exact heffect

/-- Bytes that change are touched. -/
theorem Effect.exists_performs_of_byte_ne (h : Effect e i s s') {block j : Nat}
    (hne : s'.machine.blocks.byte block j ≠ s.machine.blocks.byte block j) :
    ∃ x, Performs e s i x ∧ x.Touches block j := by
  by_contra hnone
  obtain ⟨blocks, hstores, hchanges⟩ := h
  refine hne ?_
  rw [hchanges.extends.blocks]
  exact hstores.bytes block j fun x hx htouches => hnone ⟨x, hx, htouches⟩

/-- An instruction changes only bytes that its accesses touch. -/
theorem exists_performs_of_byte_ne {block j : Nat}
    (h : ((step e i).run s).2.machine.blocks.byte block j ≠ s.machine.blocks.byte block j) :
    ∃ x, Performs e s i x ∧ x.Touches block j :=
  (step_effect e i s).exists_performs_of_byte_ne h

end HostGpu.Execution
