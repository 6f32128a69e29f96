import HostGpu.Proofs.Execution.Progress
import HostGpu.Proofs.Shader.Analysis
import Mathlib.Combinatorics.Pigeonhole

/-!
# How runs end

Where a run goes on depends on the instruction alone, and every instruction that gives a result
faults when it is executed again.  So a run that fetches an instruction for the second time takes
the same way as before, up to the first instruction that gives a result; and if there is none on
that way, the run goes round for ever.  By the pigeonhole principle one of these is the case after
twice as many fetches as the module has instructions.
-/

namespace HostGpu.Execution

open Outcome Spirv Shader Progress

variable {e : Environment} {inputs : InterfaceValues} {machine : Machine} {s s' t : State}
  {i : Instruction} {offset offset' : Nat} {p : Progress}

/-! ## Offsets -/

/-- An offset at which an instruction of a module starts, or the module ends. -/
def IsBoundary (m : Module) (offset : Nat) : Prop :=
  (∃ i ∈ m.instructions, i.offset = offset) ∨ offset = m.words.length

section

variable {words : List UInt32} {m : Module} (hm : Module.ofWords words = .ok m) {device : Nat}
  (hshader : Shader.ofModule device m = .ok e.shader)
include hm hshader

/-- What is fetched at an offset. -/
theorem definition_of_isBoundary (h : IsBoundary m offset) :
    (∃ i ∈ m.instructions, i.offset = offset ∧ e.shader.definition offset = .ok i) ∨
      offset = m.words.length ∧ e.shader.definition offset = .error .indexOutOfRange := by
  obtain ⟨-, hmodule, -⟩ := ofModule_eq_ok hshader
  rw [Shader.definition, hmodule]
  rcases h with ⟨i, hi, rfl⟩ | rfl
  · exact .inl ⟨i, hi, rfl, fetch_of_mem hm hi⟩
  · exact .inr ⟨rfl, fetch_length m⟩

/-- A run goes on at an instruction, or at the end of the module. -/
theorem isBoundary_of_fetch (h : IsBoundary m offset)
    (hfetch : fetch e (going offset s) = going offset' s') :
    (∃ i ∈ m.instructions, i.offset = offset) ∧ IsBoundary m offset' := by
  obtain ⟨i, flow, hi, hstep, hleads⟩ := fetch_eq_going.mp hfetch
  rcases definition_of_isBoundary hm hshader h with ⟨j, hj, rfl, hdefinition⟩ | ⟨-, hnone⟩
  · obtain rfl : i = j := Except.ok.inj (hi.symm.trans hdefinition)
    refine ⟨⟨i, hj, rfl⟩, ?_⟩
    cases hleads with
    | next => exact (next_of_mem hm hj).symm
    | branch hstart =>
      obtain ⟨-, -, a, ha, hdeclarations, -⟩ := ofModule_eq_ok hshader
      rw [blockStart, Environment.declarations, hdeclarations] at hstart
      split at hstart
      case h_1 hblock =>
        cases hstart
        exact .inl ((starts_of_analysed ha).1 _ _ hblock)
      case h_2 => cases hstart
  · cases hi.symm.trans hnone

/-- **Runs fetch at instructions,** or at the end of the module. -/
theorem isBoundary_of_going {k : Nat} (h : (fetch e)^[k] (start e inputs machine) = going offset s) :
    IsBoundary m offset := by
  induction k generalizing offset s with
  | zero =>
    rw [Function.iterate_zero_apply, Progress.start] at h
    split at h
    case h_1 =>
      cases h
      obtain ⟨-, -, a, ha, -, hentry⟩ := ofModule_eq_ok hshader
      exact .inl ((starts_of_analysed ha).2 _ hentry)
    case h_2 => cases h
  | succ k ih =>
    rw [Function.iterate_succ_apply'] at h
    obtain ⟨offset', s', hbefore⟩ := exists_going_of_fetch h
    rw [hbefore] at h
    exact (isBoundary_of_fetch hm hshader (ih hbefore) h).2

end

/-! ## Results -/

/-- Operations that go on and give no result. -/
def isSilent : Opcode → Bool
  | .opNop | .opLine | .opLabel | .opSelectionMerge | .opLoopMerge | .opStore | .opImageWrite
  | .opBranch => true
  | _ => false

variable {α β : Type}

/-- A part of a run computes no values. -/
def KeepsValues (x : Run α) : Prop := ∀ s, (x.run s).2.values = s.values

theorem keepsValues_pure (a : α) : KeepsValues (pure a : Run α) := fun _ => rfl

theorem keepsValues_get : KeepsValues (get : Run State) := fun _ => rfl

theorem keepsValues_inspect (f : State → Except Fault α) : KeepsValues (inspect f) := fun _ => rfl

theorem keepsValues_modify {f : State → State} (h : ∀ s, (f s).values = s.values) :
    KeepsValues (modify f : Run Unit) := h

theorem KeepsValues.bind {x : Run α} {f : α → Run β} (hx : KeepsValues x)
    (hf : ∀ a, KeepsValues (f a)) : KeepsValues (x >>= f) := by
  intro s
  rw [run_bind]
  have hs := hx s
  rcases hrun : x.run s with ⟨_ | a, s'⟩ <;> rw [hrun] at hs
  · exact hs
  · exact (hf a s').trans hs

theorem keepsValues_ask (resolver : Resolver) (key : SamplingKey) :
    KeepsValues (ask resolver key) := by
  cases resolver with
  | own find => exact .bind (keepsValues_modify fun _ => rfl) fun _ => keepsValues_pure _
  | device =>
    refine .bind (keepsValues_modify fun _ => rfl) fun _ => .bind (keepsValues_inspect _) fun r => ?_
    refine .bind (keepsValues_modify fun _ => rfl) fun _ => ?_
    cases r.request with
    | none => exact keepsValues_pure _
    | some request => exact .bind (keepsValues_modify fun _ => rfl) fun _ => keepsValues_pure _

theorem keepsValues_findFunction (i : SamplingInstruction) (image : DescriptorAddress)
    (sampler : Nat) : KeepsValues (findFunction e i image sampler) := by
  refine keepsValues_get.bind fun s => ?_
  split
  · exact keepsValues_pure _
  · exact .bind (keepsValues_ask _ _) fun _ => .bind (keepsValues_modify fun _ => rfl) fun _ =>
      keepsValues_pure _

theorem keepsValues_sampleTexels (i : SamplingInstruction) : KeepsValues (sampleTexels e i) :=
  .bind (keepsValues_inspect _) fun _ => .bind (keepsValues_inspect _) fun _ =>
    .bind (keepsValues_findFunction _ _ _) fun _ => .bind (keepsValues_inspect _) fun _ =>
      .bind (keepsValues_modify fun _ => rfl) fun _ => .bind keepsValues_get fun _ =>
        keepsValues_pure _

/-- A part of a run that ends without a fault computes the first value of an identifier. -/
def Defines (result : Except Fault Nat) (x : Run α) : Prop :=
  ∀ s a s', x.run s = (.ok a, s') →
    ∃ id, result = .ok id ∧ s.values.contains id = false ∧ s'.values.contains id = true

variable {result : Except Fault Nat}

theorem defines_define {id : Nat} (hid : result = .ok id) (v : Value) :
    Defines result (define id v) := by
  intro s a s' h
  rw [define, run_bind, run_inspect] at h
  cases hdefine : s.define id v with
  | error fault => rw [hdefine] at h; cases h
  | ok s'' =>
    rw [hdefine] at h
    cases h
    rw [State.define, ite_error_eq_ok] at hdefine
    obtain ⟨hnew, hs⟩ := hdefine
    cases hs
    exact ⟨id, hid, Bool.eq_false_of_not_eq_true hnew, Std.TreeMap.contains_insert_self⟩

/-- What comes first may change anything but values. -/
theorem KeepsValues.defines {x : Run α} {f : α → Run β} (hx : KeepsValues x)
    (hf : ∀ a, Defines result (f a)) : Defines result (x >>= f) := by
  intro s b s' h
  rw [run_bind] at h
  have hs := hx s
  rcases hrun : x.run s with ⟨_ | a, s''⟩ <;> rw [hrun] at h hs
  · cases h
  · obtain ⟨id, hid, hnew, hdefined⟩ := hf a s'' b s' h
    exact ⟨id, hid, by rw [← hs]; exact hnew, hdefined⟩

theorem defines_lift_bind {x : Except Fault α} {f : α → Run β}
    (h : ∀ a, x = .ok a → Defines result (f a)) : Defines result (liftM x >>= f) := by
  intro s b s' hrun
  rw [run_bind] at hrun
  cases x with
  | error fault => cases hrun
  | ok a => exact h a rfl s b s' hrun

theorem defines_compute (i : Instruction) (f : State → Except Fault (List WordLanes)) :
    Defines (i.id 2) (compute i f) :=
  (keepsValues_inspect f).defines fun _ => defines_lift_bind fun _ hid => defines_define hid _

theorem defines_createVariable {id : Nat} (hid : result = .ok id) (storage : List WordLanes) :
    Defines result (createVariable id storage) :=
  KeepsValues.defines (keepsValues_modify fun _ => rfl) fun _ => defines_define hid _

theorem atomicAdd_values {value previous : WordLanes} {target : Target}
    (h : atomicAdd e s value target = .ok (previous, s')) : s'.values = s.values := by
  cases target with
  | descriptor address => cases h
  | «variable» id offsets =>
    simp only [atomicAdd, bind_eq_ok, pure_eq_ok, Prod.mk.injEq] at h
    obtain ⟨_, -, -, rfl⟩ := h
    rfl
  | texel p =>
    simp only [atomicAdd, Except.ok.injEq, Prod.mk.injEq] at h
    obtain ⟨-, rfl⟩ := h
    rfl

theorem defines_executeAtomicAdd (i : Instruction) :
    Defines (i.id 2) (executeAtomicAdd e i) := by
  refine defines_lift_bind fun id hid s a s' h => ?_
  rw [run_bind, run_inspect] at h
  split at h
  case h_1 p s₁ hrun =>
    obtain ⟨hadd, rfl⟩ := Prod.mk.inj hrun
    simp only [bind_eq_ok] at hadd
    obtain ⟨_, -, _, -, _, -, _, -, _, -, hadd⟩ := hadd
    rw [run_bind, run_set] at h
    obtain ⟨id', hid', hnew, hdefined⟩ := defines_define hid _ _ _ _ h
    rw [atomicAdd_values hadd] at hnew
    exact ⟨id', hid', hnew, hdefined⟩
  case h_2 => cases h

theorem defines_executeSampling (i : Instruction) (op : Opcode) :
    Defines (i.id 2) (executeSampling e i op) := by
  refine defines_lift_bind fun site hsite => defines_lift_bind fun count _ => ?_
  have hresult := (readFrom_of_ofInstruction hsite).result
  split
  · exact (keepsValues_sampleTexels site).defines fun _ => defines_define hresult _
  · exact (keepsValues_pure _).defines fun _ => defines_define hresult _

/-- **All other instructions define their result,** which has had no value before. -/
theorem defines_execute {op : Opcode} (hop : isSilent op = false) (i : Instruction) :
    Defines (i.id 2) (execute e i op) := by
  unfold execute
  split
  case h_1 | h_2 | h_3 | h_4 | h_5 | h_9 | h_20 => cases hop
  case h_6 =>
    exact defines_lift_bind fun _ hid => defines_lift_bind fun _ _ => defines_createVariable hid _
  case h_8 =>
    exact defines_lift_bind fun _ _ => defines_lift_bind fun _ hid => defines_lift_bind fun _ _ =>
      (keepsValues_inspect _).defines fun _ => defines_define hid _
  case h_10 | h_11 =>
    exact defines_lift_bind fun _ hid => defines_lift_bind fun _ _ =>
      (keepsValues_inspect _).defines fun _ => defines_define hid _
  case h_15 => exact defines_lift_bind fun _ _ => defines_compute i _
  case h_21 | h_22 | h_23 =>
    exact (keepsValues_inspect _).defines fun _ => defines_lift_bind fun _ hid =>
      defines_define hid _
  case h_24 => exact defines_executeAtomicAdd i
  case h_25 =>
    split
    · exact defines_compute i _
    · exact defines_compute i _
    · split
      · exact defines_executeSampling i op
      · exact fun _ _ _ h => by cases h
  all_goals exact defines_compute i _

/-! ### A second time -/

/-- The instruction at an offset gives no result. -/
def Silent (e : Environment) (offset : Nat) : Prop :=
  ∃ i op, e.shader.definition offset = .ok i ∧ i.op? = some op ∧ isSilent op = true

theorem within_of_fetch (h : fetch e (going offset s) = going offset' s') : s.Within s' := by
  obtain ⟨i, flow, -, hstep, -⟩ := fetch_eq_going.mp h
  obtain ⟨blocks, -, hchanges⟩ := effect_of_run hstep
  exact hchanges.extends.within

/-- A run that goes on after an instruction that gives a result has computed it just now. -/
theorem silent_or_defines (h : fetch e (going offset s) = going offset' s') :
    Silent e offset ∨ ∃ i id, e.shader.definition offset = .ok i ∧ i.id 2 = .ok id ∧
      s.values.contains id = false ∧ s'.values.contains id = true := by
  obtain ⟨i, flow, hi, hstep, hleads⟩ := fetch_eq_going.mp h
  cases steps_of_run hstep with
  | branch hop _ => exact .inl ⟨i, .opBranch, hi, hop, rfl⟩
  | stop => cases hleads
  | @next op _ hop hinner hexecute =>
    cases hsilent : isSilent op with
    | true => exact .inl ⟨i, op, hi, hop, hsilent⟩
    | false =>
      obtain ⟨id, hid, hnew, hdefined⟩ := defines_execute hsilent i _ _ _ hexecute
      exact .inr ⟨i, id, hi, hid, hnew, hdefined⟩

/-- **A second time** only instructions that give no result are executed. -/
theorem silent_of_fetch_twice {offset₁ offset₂ : Nat} {s₁ t₁ : State}
    (h : fetch e (going offset s) = going offset₁ s₁) (hwithin : s₁.Within t)
    (h' : fetch e (going offset t) = going offset₂ t₁) : Silent e offset := by
  rcases silent_or_defines h with hsilent | ⟨i, id, hi, hid, -, hdefined⟩
  · exact hsilent
  · rcases silent_or_defines h' with hsilent | ⟨j, id', hj, hid', hnew, -⟩
    · exact hsilent
    · obtain rfl : i = j := Except.ok.inj (hi.symm.trans hj)
      obtain rfl : id = id' := Except.ok.inj (hid.symm.trans hid')
      rw [Std.TreeMap.contains_eq_isSome_getElem?] at hdefined hnew
      obtain ⟨v, hv⟩ := Option.isSome_iff_exists.mp hdefined
      rw [hwithin id v hv] at hnew
      cases hnew

/-! ## Going round -/

/-- A run goes on after an instruction that gives no result. -/
def GoesSilently (e : Environment) (before after : Nat × State) : Prop :=
  Silent e before.1 ∧ fetch e (going before.1 before.2) = going after.1 after.2

/-- A run comes back to an offset, and none of the instructions in between gives a result. -/
def GoesRound (e : Environment) (inputs : InterfaceValues) (machine : Machine) : Prop :=
  ∃ s offset s', Visits e inputs machine s offset ∧
    Relation.TransGen (GoesSilently e) (offset, s) (offset, s')

/-! ### By the pigeonhole principle -/

theorem exists_lt_eq_of_mem {list : List Nat} {f : Nat → Nat}
    (h : ∀ k ≤ list.length, f k ∈ list) : ∃ a b, a < b ∧ b ≤ list.length ∧ f a = f b := by
  have hcard : list.toFinset.card < (Finset.range (list.length + 1)).card := by
    rw [Finset.card_range]
    exact Nat.lt_succ_of_le list.toFinset_card_le
  have hmaps : Set.MapsTo f (Finset.range (list.length + 1)) list.toFinset := fun k hk =>
    List.mem_toFinset.mpr (h k (Nat.le_of_lt_succ (Finset.mem_range.mp hk)))
  obtain ⟨a, ha, b, hb, hne, heq⟩ := Finset.exists_ne_map_eq_of_card_lt_of_maps_to hcard hmaps
  rw [Finset.mem_range] at ha hb
  rcases Nat.lt_or_gt_of_ne hne with hlt | hlt
  · exact ⟨a, b, hlt, Nat.le_of_lt_succ hb, heq⟩
  · exact ⟨b, a, hlt, Nat.le_of_lt_succ ha, heq.symm⟩

/-- A run that is not over after some fetches, with the offset and the state before each of them. -/
structure Way (e : Environment) (fetches : Nat) where
  offset : Nat → Nat
  state : Nat → State
  fetch : ∀ k < fetches, fetch e (going (offset k) (state k)) = going (offset (k + 1)) (state (k + 1))

/-- The way of a run that is not over. -/
theorem exists_way {fetches : Nat} (h : (fetch e)^[fetches] p = going offset s) :
    ∃ w : Way e fetches, ∀ k ≤ fetches, (fetch e)^[k] p = going (w.offset k) (w.state k) := by
  have hgoing : ∀ k ≤ fetches, ∃ offset s, (fetch e)^[k] p = going offset s := by
    intro k hk
    cases hp : (fetch e)^[k] p with
    | going offset s => exact ⟨offset, s, rfl⟩
    | ended outcome s =>
      obtain ⟨d, rfl⟩ := Nat.exists_eq_add_of_le' hk
      rw [Function.iterate_add_apply, hp, iterate_fetch_ended] at h
      cases h
  have : Nonempty State := ⟨s⟩
  choose! offset state hplace using hgoing
  refine ⟨⟨offset, state, fun k hk => ?_⟩, hplace⟩
  rw [← hplace k hk.le, ← Function.iterate_succ_apply' (Progress.fetch e) k p]
  exact hplace (k + 1) hk

namespace Way

variable {n : Nat} (w : Way e n)

theorem within {a b : Nat} (hab : a ≤ b) (hb : b ≤ n) : (w.state a).Within (w.state b) := by
  induction b, hab using Nat.le_induction with
  | base => exact fun _ _ hv => hv
  | succ b hab ih =>
    exact fun id v hv => within_of_fetch (w.fetch b hb) id v (ih (Nat.le_of_succ_le hb) id v hv)

/-- From one offset the way goes on in one way. -/
theorem offset_eq {a b : Nat} (heq : w.offset a = w.offset b) {d : Nat} (hd : b + d ≤ n)
    (hab : a ≤ b) : w.offset (a + d) = w.offset (b + d) := by
  induction d with
  | zero => exact heq
  | succ d ih =>
    have ha := w.fetch (a + d) (by omega)
    rw [ih (by omega)] at ha
    exact offset_eq_of_fetch ha (w.fetch (b + d) (by omega))

/-- What is fetched again gives no result. -/
theorem silent {a b : Nat} (hab : a < b) (heq : w.offset a = w.offset b) {k : Nat} (hak : a ≤ k)
    (hk : k + (b - a) < n) : Silent e (w.offset k) := by
  have hsame : w.offset k = w.offset (k + (b - a)) := by
    have h := w.offset_eq heq (d := k - a) (by omega) hab.le
    rwa [show a + (k - a) = k by omega, show b + (k - a) = k + (b - a) by omega] at h
  have hagain := w.fetch (k + (b - a)) hk
  rw [← hsame] at hagain
  exact silent_of_fetch_twice (w.fetch k (by omega)) (w.within (by omega) (by omega)) hagain

/-- A way that comes back to an offset early enough gives no results in between. -/
theorem transGen {a b : Nat} (hab : a < b) (heq : w.offset a = w.offset b)
    (hb : b - 1 + (b - a) < n) :
    Relation.TransGen (GoesSilently e) (w.offset a, w.state a) (w.offset b, w.state b) := by
  have hgoes (k : Nat) (hak : a ≤ k) (hkb : k < b) :
      GoesSilently e (w.offset k, w.state k) (w.offset (k + 1), w.state (k + 1)) :=
    ⟨w.silent hab heq hak (by omega), w.fetch k (by omega)⟩
  have hway (c : Nat) (hac : a + 1 ≤ c) (hcb : c ≤ b) :
      Relation.TransGen (GoesSilently e) (w.offset a, w.state a) (w.offset c, w.state c) := by
    induction c, hac using Nat.le_induction with
    | base => exact .single (hgoes a le_rfl hab)
    | succ c hac ih => exact (ih (by omega)).tail (hgoes c (by omega) hcb)
  exact hway b hab le_rfl

end Way

/-- **A run that is not over** after twice as many fetches as the module has instructions goes
round. -/
theorem goesRound_of_going {words : List UInt32} {m : Module} (hm : Module.ofWords words = .ok m)
    {device : Nat} (hshader : Shader.ofModule device m = .ok e.shader)
    (h : (fetch e)^[2 * m.instructions.length] (start e inputs machine) = going offset s) :
    GoesRound e inputs machine := by
  obtain ⟨w, hw⟩ := exists_way h
  have hboundary (k : Nat) (hk : k ≤ 2 * m.instructions.length) : IsBoundary m (w.offset k) :=
    isBoundary_of_going hm hshader (hw k hk)
  have hmem (k : Nat) (hk : k < 2 * m.instructions.length) :
      w.offset k ∈ m.instructions.map (·.offset) := by
    obtain ⟨i, hi, hoffset⟩ := (isBoundary_of_fetch hm hshader (hboundary k hk.le) (w.fetch k hk)).1
    exact List.mem_map.mpr ⟨i, hi, hoffset⟩
  -- there is an instruction, since the entry point starts at one
  have hpos : 0 < m.instructions.length := by
    obtain ⟨-, -, a, ha, -, hentry⟩ := ofModule_eq_ok hshader
    obtain ⟨i, hi, -⟩ := (starts_of_analysed ha).2 _ hentry
    exact List.length_pos_of_mem hi
  have hoffsets : ∀ k ≤ (m.instructions.map (·.offset)).length,
      w.offset k ∈ m.instructions.map (·.offset) := fun k hk =>
    hmem k (by rw [List.length_map] at hk; omega)
  obtain ⟨a, b, hab, hb, heq⟩ := exists_lt_eq_of_mem hoffsets
  rw [List.length_map] at hb
  refine ⟨w.state a, w.offset a, w.state b, visits_iff.mpr ⟨a, hw a (by omega)⟩, ?_⟩
  have hround := w.transGen hab heq (by omega)
  rwa [← heq] at hround

/-! ### For ever -/

/-- What instructions that give no result depend on: values, the device, and which variables have
storage. -/
structure Repeats (s t : State) : Prop where
  values : t.values = s.values
  device : t.machine.device = s.machine.device
  storages : ∀ id : Nat, (s.storages[id]?).isSome → (t.storages[id]?).isSome

namespace Repeats

theorem refl (s : State) : Repeats s s := ⟨rfl, rfl, fun _ h => h⟩

theorem trans {u : State} (h : Repeats s t) (h' : Repeats t u) : Repeats s u :=
  ⟨h'.values.trans h.values, h'.device.trans h.device, fun id hid => h'.storages id (h.storages id hid)⟩

theorem setStorage (s : State) (id : Nat) (storage : List WordLanes) :
    Repeats s (s.setStorage id storage) := by
  refine ⟨rfl, rfl, fun id' hid => ?_⟩
  rw [State.setStorage, Std.TreeMap.getElem?_insert]
  split
  · rfl
  · exact hid

theorem setBlocks (s : State) (blocks : BlockTable) : Repeats s (s.withBlocks blocks) :=
  ⟨rfl, rfl, fun _ h => h⟩

variable (h : Repeats s t)
include h

theorem target (id : Nat) : t.target id = s.target id := by
  rw [State.target, State.target, h.values]

theorem operand (id : Nat) : e.operand t id = e.operand s id := by
  obtain ⟨machine, values, storages⟩ := s
  obtain ⟨machine', values', storages'⟩ := t
  obtain rfl : values' = values := h.values
  rfl

theorem imageStore (i : Instruction) : e.imageStore t i = e.imageStore s i := by
  obtain ⟨⟨blocks, device, cache, events⟩, values, storages⟩ := s
  obtain ⟨⟨blocks', device', cache', events'⟩, values', storages'⟩ := t
  obtain rfl : values' = values := h.values
  obtain rfl : device' = device := h.device
  rfl

theorem exists_storage {id : Nat} {storage : List WordLanes} (hs : s.storage id = .ok storage) :
    ∃ storage', t.storage id = .ok storage' := by
  have hsome : (s.storages[id]?).isSome := by
    rw [State.storage] at hs
    split at hs
    case h_1 hstorage => rw [hstorage]; rfl
    case h_2 => cases hs
  obtain ⟨storage', hstorage'⟩ := Option.isSome_iff_exists.mp (h.storages id hsome)
  exact ⟨storage', by rw [State.storage, hstorage']⟩

/-- A store that succeeds succeeds again. -/
theorem exists_storedState {value : Operand} {target : Target}
    (hs : storedState e s value target = .ok s') : ∃ t', storedState e t value target = .ok t' := by
  cases target with
  | descriptor address => cases hs
  | «variable» id offsets =>
    simp only [storedState, bind_eq_ok, pure_eq_ok] at hs ⊢
    obtain ⟨storage, hstorage, -⟩ := hs
    obtain ⟨storage', hstorage'⟩ := h.exists_storage hstorage
    exact ⟨_, storage', hstorage', rfl⟩
  | texel p =>
    simp only [storedState, bind_eq_ok, pure_eq_ok] at hs ⊢
    obtain ⟨word, hword, -⟩ := hs
    exact ⟨_, word, hword, rfl⟩

end Repeats

theorem repeats_storedState {value : Operand} {target : Target}
    (h : storedState e s value target = .ok s') : Repeats s s' := by
  cases target with
  | descriptor address => cases h
  | «variable» id offsets =>
    simp only [storedState, bind_eq_ok, pure_eq_ok] at h
    obtain ⟨storage, -, rfl⟩ := h
    exact .setStorage s id _
  | texel p =>
    simp only [storedState, bind_eq_ok, pure_eq_ok] at h
    obtain ⟨word, -, rfl⟩ := h
    exact .setBlocks s _

/-- An instruction replaces the state by one that it finds. -/
theorem run_set_inspect {f : State → Except Fault State} :
    (do set (← inspect f) : Run Unit).run s = (.ok (), s') ↔ f s = .ok s' := by
  rw [run_bind, run_inspect]
  cases f s with
  | error fault => exact ⟨fun h => (by cases h), fun h => (by cases h)⟩
  | ok s'' => exact ⟨fun h => (by cases h; rfl), fun h => (by cases h; rfl)⟩

theorem run_executeStore : (executeStore e i).run s = (.ok (), s') ↔
    ∃ id target source value, i.id 1 = .ok id ∧ s.target id = .ok target ∧ i.id 2 = .ok source ∧
      e.operand s source = .ok value ∧ storedState e s value target = .ok s' := by
  rw [executeStore, run_set_inspect]
  simp only [bind_eq_ok]
  grind

theorem run_imageWrite : (do set (← inspect fun s => e.imageWrite s i) : Run Unit).run s =
    (.ok (), s') ↔ ∃ store, e.imageStore s i = .ok store ∧
      s' = s.withBlocks (store.pointer.storeWords s.machine.blocks e.storing
        (texelRule s.machine.device) store.sizes store.words) := by
  rw [run_set_inspect, Environment.imageWrite, bind_eq_ok]
  simp only [pure_eq_ok, eq_comm (a := s')]
  rfl

/-- **Instructions that give no result** change nothing that they depend on, and succeed again. -/
theorem silent_execute {op : Opcode} (hop : isSilent op = true) (hinner : op ≠ .opBranch)
    (h : (execute e i op).run s = (.ok (), s')) :
    Repeats s s' ∧ ∀ t, Repeats s t → ∃ t', (execute e i op).run t = (.ok (), t') := by
  cases op with
  | opNop | opLine | opLabel | opSelectionMerge | opLoopMerge =>
    cases h
    exact ⟨.refl s, fun t _ => ⟨t, rfl⟩⟩
  | opStore =>
    obtain ⟨id, target, source, value, hid, htarget, hsource, hvalue, hstored⟩ :=
      run_executeStore.mp h
    refine ⟨repeats_storedState hstored, fun t ht => ?_⟩
    obtain ⟨t', ht'⟩ := ht.exists_storedState hstored
    exact ⟨t', run_executeStore.mpr ⟨id, target, source, value, hid, (ht.target id).trans htarget,
      hsource, (ht.operand source).trans hvalue, ht'⟩⟩
  | opImageWrite =>
    obtain ⟨store, hstore, rfl⟩ := run_imageWrite.mp h
    exact ⟨.setBlocks s _, fun t ht =>
      ⟨_, run_imageWrite.mpr ⟨store, (ht.imageStore i).trans hstore, rfl⟩⟩⟩
  | opBranch => exact absurd rfl hinner
  | _ => cases hop

theorem silent_step {op : Opcode} {flow : Flow} (hop : i.op? = some op)
    (hsilent : isSilent op = true) (h : (step e i).run s = (.ok flow, s')) :
    Repeats s s' ∧ ∀ t, Repeats s t → ∃ t', (step e i).run t = (.ok flow, t') := by
  cases steps_of_run h with
  | @branch label hop' hid =>
    refine ⟨.refl s, fun t _ => ⟨t, ?_⟩⟩
    rw [step, hop']
    dsimp only
    rw [hid]
    rfl
  | stop hop' => rcases hop' with hop' | hop' <;> cases hop.symm.trans hop' <;> cases hsilent
  | @next op' _ hop' hinner hexecute =>
    cases hop.symm.trans hop'
    have hbranch : op ≠ .opBranch := fun h => hinner (h ▸ List.mem_cons_self)
    obtain ⟨hrepeats, hagain⟩ := silent_execute hsilent hbranch hexecute
    refine ⟨hrepeats, fun t ht => ?_⟩
    obtain ⟨t', ht'⟩ := hagain t ht
    exact ⟨t', by rw [step_eq_execute hop hinner, run_bind, ht']; rfl⟩

/-- The way on is silent once more. -/
theorem GoesSilently.again {before after : Nat × State} (h : GoesSilently e before after) :
    Repeats before.2 after.2 ∧ ∀ t, Repeats before.2 t →
      ∃ t', GoesSilently e (before.1, t) (after.1, t') := by
  obtain ⟨⟨i, op, hi, hop, hsilent⟩, hfetch⟩ := h
  obtain ⟨j, flow, hj, hstep, hleads⟩ := fetch_eq_going.mp hfetch
  obtain rfl : i = j := Except.ok.inj (hi.symm.trans hj)
  obtain ⟨hrepeats, hagain⟩ := silent_step hop hsilent hstep
  refine ⟨hrepeats, fun t ht => ?_⟩
  obtain ⟨t', ht'⟩ := hagain t ht
  exact ⟨t', ⟨i, op, hi, hop, hsilent⟩, fetch_eq_going.mpr ⟨i, flow, hi, ht', hleads⟩⟩

theorem repeats_of_transGen {before after : Nat × State}
    (h : Relation.TransGen (GoesSilently e) before after) : Repeats before.2 after.2 := by
  induction h with
  | single h => exact h.again.1
  | tail _ h ih => exact ih.trans h.again.1

/-- A run that has gone round goes round again, from the next offset on. -/
theorem exists_fetch_of_transGen
    (h : Relation.TransGen (GoesSilently e) (offset, s) (offset, s')) :
    ∃ offset₁ s₁ s₂, fetch e (going offset s) = going offset₁ s₁ ∧
      Relation.TransGen (GoesSilently e) (offset₁, s₁) (offset₁, s₂) := by
  obtain ⟨⟨offset₁, s₁⟩, hfirst, hrest⟩ := Relation.TransGen.head'_iff.mp h
  obtain ⟨s₂, hagain⟩ := hfirst.again.2 s' (repeats_of_transGen h)
  exact ⟨offset₁, s₁, s₂, hfirst.2, Relation.TransGen.tail' hrest hagain⟩

theorem exists_going_of_transGen
    (h : Relation.TransGen (GoesSilently e) (offset, s) (offset, s')) (k : Nat) :
    ∃ offset₁ s₁, (fetch e)^[k] (going offset s) = going offset₁ s₁ := by
  induction k generalizing offset s s' with
  | zero => exact ⟨offset, s, rfl⟩
  | succ k ih =>
    obtain ⟨offset₁, s₁, s₂, hfetch, hround⟩ := exists_fetch_of_transGen h
    rw [Function.iterate_succ_apply, hfetch]
    exact ih hround

/-- **A run that goes round never ends.** -/
theorem GoesRound.exists_going (h : GoesRound e inputs machine) (k : Nat) :
    ∃ offset s, (fetch e)^[k] (start e inputs machine) = going offset s := by
  obtain ⟨s, offset, s', hs, hround⟩ := h
  obtain ⟨n, hn⟩ := visits_iff.mp hs
  obtain ⟨offset₁, s₁, hk⟩ := exists_going_of_transGen hround k
  rw [← hn, ← Function.iterate_add_apply, Nat.add_comm, Function.iterate_add_apply] at hk
  cases hp : (fetch e)^[k] (start e inputs machine) with
  | going offset s => exact ⟨offset, s, rfl⟩
  | ended outcome s =>
    rw [hp, iterate_fetch_ended] at hk
    cases hk

/-! ## The end of a run -/

/-- **Runs of a module with `n` instructions** fetch at the starts of instructions, or at the end of
the module, where they fault.  After `2 * n` fetches a run is over, and then the whole run has this
outcome; or it has come back to an offset by instructions that give no results, and then it goes on
however often it fetches. -/
theorem runs_end_or_go_round {words : List UInt32} {m : Module}
    (hm : Module.ofWords words = .ok m) {device : Nat} {e : Environment}
    (hshader : Shader.ofModule device m = .ok e.shader) (inputs : InterfaceValues)
    (machine : Machine) :
    (∀ s offset, Visits e inputs machine s offset →
      (∃ i ∈ m.instructions, i.offset = offset ∧ e.shader.definition offset = .ok i) ∨
        offset = m.words.length ∧ e.shader.definition offset = .error .indexOutOfRange) ∧
    ((∃ outcome s,
        (fetch e)^[2 * m.instructions.length] (start e inputs machine) = ended outcome s ∧
        (run e inputs).run { machine } = (outcome.map fun _ => e.outputs s, s)) ∨
      GoesRound e inputs machine) ∧
    (GoesRound e inputs machine →
      (∀ k, ∃ offset s, (fetch e)^[k] (start e inputs machine) = going offset s) ∧
      ((run e inputs).run { machine }).1 = .error .endless) := by
  have hmodule : e.shader.module = m := (ofModule_eq_ok hshader).2.1
  refine ⟨fun s offset hs => ?_, ?_, fun hround => ⟨hround.exists_going, ?_⟩⟩
  · obtain ⟨k, hk⟩ := visits_iff.mp hs
    exact definition_of_isBoundary hm hshader (isBoundary_of_going hm hshader hk)
  · cases hp : (fetch e)^[2 * m.instructions.length] (start e inputs machine) with
    | going offset s => exact .inr (goesRound_of_going hm hshader hp)
    | ended outcome s =>
      refine .inl ⟨outcome, s, rfl, ?_⟩
      rw [run_run, enough, hmodule, Function.iterate_succ_apply', hp]
      cases outcome <;> rfl
  · obtain ⟨offset, s, hk⟩ := hround.exists_going (enough e.shader.module)
    rw [run_run, hk]
    rfl

/-! ### A block that branches to itself -/

namespace Spin

/-- A module whose second block branches to itself. -/
def words : List UInt32 := [
  0x07230203, 0x00010000, 0, 14, 0,
  0x0004000F, 4, 8, 0, -- the entry point
  0x00040015, 1, 32, 0, -- words
  0x00050036, 13, 8, 0, 9, 0x000200F8, 10,
  0x00030001, 1, 11, 0x000200F9, 12, -- the first block gives a result
  0x000200F8, 12, 0x00010000, 0x000200F9, 12, 0x00010038]

def module : Module := (Module.ofWords words).toOption.get (by decide +kernel)

def shader : Shader := (Shader.ofModule 0 module).toOption.get (by decide +kernel)

def environment : Environment where
  shader
  layout := ⟨0, 0, []⟩
  bound := []
  sets := ∅

def untouched : Machine := ⟨∅, {}, [], []⟩

end Spin

open Spin in
/-- The second block is executed for ever. -/
theorem branch_to_itself_goes_round : GoesRound environment ∅ untouched ∧
    ((run environment ∅).run { machine := untouched }).1 = .error .endless := by
  have hm : Module.ofWords words = .ok module := eq_ok_get _
  have hshader : Shader.ofModule 0 module = .ok environment.shader := eq_ok_get _
  obtain ⟨-, hends, hendless⟩ := runs_end_or_go_round hm hshader ∅ untouched
  have hgoing : ((fetch environment)^[2 * module.instructions.length]
      (start environment ∅ untouched)).isGoing = true := by
    decide +kernel
  rcases hends with ⟨outcome, s, hended, -⟩ | hround
  · rw [hended] at hgoing
    cases hgoing
  · exact ⟨hround, (hendless hround).2⟩

end HostGpu.Execution
