import HostGpu.Proofs.Execution.Agreement

/-!
# Values lane by lane

In states that agree, whatever an instruction reads and computes agrees again: a lane of a result
depends on the same lane of what the result is computed from, and faults depend on no lane.  What is
computed from components alone asks nothing of pointers and machines.
-/

namespace HostGpu.Execution

open Lanes Outcome Spirv Shader

variable {on : Lane → Prop} {P : SamplingFunction → Prop} {M : Machine → Machine → Prop}
  {T : Target → Target → Prop}

/-! ## Values of a state -/

namespace State.Related

variable {s s' : State} (hs : s.Related on M T s')
include hs

theorem components (id : Nat) : Alike (RowsAgree on) (s.components id) (s'.components id) := by
  have hvalue := hs.values id
  rw [State.components, State.components]
  generalize s.values[id]? = v at hvalue ⊢
  generalize s'.values[id]? = v' at hvalue ⊢
  cases hvalue with
  | none => exact .error _
  | some h =>
    cases h with
    | components hlist => exact .ok hlist
    | pointer => exact .error _

theorem target (id : Nat) : Alike T (s.target id) (s'.target id) := by
  have hvalue := hs.values id
  rw [State.target, State.target]
  generalize s.values[id]? = v at hvalue ⊢
  generalize s'.values[id]? = v' at hvalue ⊢
  cases hvalue with
  | none => exact .error _
  | some h =>
    cases h with
    | components => exact .error _
    | pointer ht => exact .ok ht

theorem storage (id : Nat) : Alike (RowsAgree on) (s.storage id) (s'.storage id) := by
  have hstorage := hs.storages id
  rw [State.storage, State.storage]
  generalize s.storages[id]? = r at hstorage ⊢
  generalize s'.storages[id]? = r' at hstorage ⊢
  cases hstorage with
  | none => exact .error _
  | some h => exact .ok h

theorem setStorage (id : Nat) {storage storage' : List WordLanes}
    (h : RowsAgree on storage storage') :
    (s.setStorage id storage).Related on M T (s'.setStorage id storage') := by
  refine ⟨hs.machine, hs.values, fun id' => ?_⟩
  rw [State.setStorage, State.setStorage, Std.TreeMap.getElem?_insert,
    Std.TreeMap.getElem?_insert]
  split
  · exact .some h
  · exact hs.storages id'

theorem define (id : Nat) {v v' : Value} (h : v.Related on T v') :
    Alike (State.Related on M T) (s.define id v) (s'.define id v') := by
  have hcontains : s'.values.contains id = s.values.contains id := by
    have hvalue := hs.values id
    rw [Std.TreeMap.contains_eq_isSome_getElem?, Std.TreeMap.contains_eq_isSome_getElem?]
    generalize s.values[id]? = o at hvalue ⊢
    generalize s'.values[id]? = o' at hvalue ⊢
    cases hvalue <;> rfl
  rw [State.define, State.define, hcontains]
  split
  · exact .error _
  · refine .ok ⟨hs.machine, fun id' => ?_, hs.storages⟩
    rw [Std.TreeMap.getElem?_insert, Std.TreeMap.getElem?_insert]
    split
    · exact .some h
    · exact hs.values id'

end State.Related

namespace State.AgreeOn

variable {s s' : State} (hs : s.AgreeOn on P s')
include hs

/-- Descriptors are addressed in the same way in all lanes. -/
theorem descriptor (id : Nat) : s'.descriptor id = s.descriptor id := by
  have htarget := hs.target id
  rw [State.descriptor, State.descriptor]
  generalize s.target id = t at htarget ⊢
  generalize s'.target id = t' at htarget ⊢
  cases htarget with
  | error fault => rfl
  | ok h => cases h <;> rfl

/-- What is done to memory in the same way. -/
theorem withBlocks (blocks : BlockTable) :
    (s.withBlocks blocks).AgreeOn on P (s'.withBlocks blocks) :=
  have hkeeps := hs.machine.keeps
  ⟨⟨rfl, hs.machine.device, hs.machine.cache, hs.machine.events,
    ⟨hkeeps.built, hkeeps.kept, hkeeps.cached⟩⟩, hs.values, hs.storages⟩

end State.AgreeOn

/-! ### Giving values -/

namespace EndsAlike

variable {s s' : State} (hs : s.Related on M T s')
include hs

theorem define (id : Nat) {v v' : Value} (h : v.Related on T v') :
    EndsAlike (State.Related on M T) Eq ((Execution.define id v).run s)
      ((Execution.define id v').run s') :=
  inspect_bind hs (hs.define id h) fun _ _ _ h => ⟨.ok rfl, h⟩

theorem defineComponents (id : Nat) {list list' : List WordLanes} (h : RowsAgree on list list') :
    EndsAlike (State.Related on M T) Eq ((Execution.defineComponents id list).run s)
      ((Execution.defineComponents id list').run s') := define hs id (.components h)

theorem definePointer (id : Nat) {t t' : Target} (h : T t t') :
    EndsAlike (State.Related on M T) Eq ((Execution.definePointer id t).run s)
      ((Execution.definePointer id t').run s') := define hs id (.pointer h)

theorem createVariable (hT : ∀ t, T t t) (id : Nat) {storage storage' : List WordLanes}
    (h : RowsAgree on storage storage') :
    EndsAlike (State.Related on M T) Eq ((Execution.createVariable id storage).run s)
      ((Execution.createVariable id storage').run s') :=
  definePointer (hs.setStorage id h) id (hT _)

/-- Computing components from states that agree. -/
theorem compute (i : Instruction) {f f' : State → Except Fault (List WordLanes)}
    (h : Alike (RowsAgree on) (f s) (f' s')) :
    EndsAlike (State.Related on M T) Eq ((Execution.compute i f).run s)
      ((Execution.compute i f').run s') :=
  inspect_bind hs h fun _ _ _ hrows => lift_bind_same hs fun id _ => defineComponents hs id hrows

/-- Giving a pointer another identifier. -/
theorem forward (i : Instruction) :
    EndsAlike (State.Related on M T) Eq
      ((do
        let target ← inspect fun s => do s.target (← i.id 3)
        Execution.definePointer (← liftM (i.id 2)) target : Run Unit).run s)
      ((do
        let target ← inspect fun s => do s.target (← i.id 3)
        Execution.definePointer (← liftM (i.id 2)) target : Run Unit).run s') := by
  have htarget : Alike T (do s.target (← i.id 3)) (do s'.target (← i.id 3)) :=
    .bind_same fun source _ => hs.target source
  refine .inspect_bind hs htarget fun _ _ _ ht => .lift_bind_same hs fun id _ => ?_
  exact .definePointer hs id ht

end EndsAlike

/-! ## Operands -/

namespace Environment

variable {e : Environment} {x y mask : WordLanes} {s s' : State}

theorem operand_alike (e : Environment) (x y mask : WordLanes) (hs : s.Related on M T s')
    (id : Nat) :
    Alike (Operand.AgreeOn on) (e.operand s id) ((e.moved x y mask).operand s' id) := by
  refine .bind_same fun object _ => ?_
  cases object.kind with
  | constant values => exact .ok ⟨rfl, fun _ => rfl, .refl _⟩
  | _ =>
    exact (hs.components id).bind fun list list' hlist =>
      .ok ⟨rfl, (nomatch ·), hlist⟩

end Environment

namespace Operand.AgreeOn

variable {o o' : Operand} (h : o.AgreeOn on o')
include h

theorem component (i : Nat) :
    Alike (Lanes.AgreeOn on) (o.component i) (o'.component i) := by
  have hplace := RowsAgree.getElem? h.components i
  rw [Operand.component, Operand.component]
  generalize o.components[i]? = c at hplace ⊢
  generalize o'.components[i]? = c' at hplace ⊢
  cases hplace with
  | none => exact .error _
  | some h => exact .ok h

theorem isConstantZero : o'.isConstantZero = o.isConstantZero := by
  rw [Operand.isConstantZero, Operand.isConstantZero, ← h.isConstant]
  cases hconstant : o.isConstant with
  | false => rfl
  | true => rw [h.constant hconstant]

end Operand.AgreeOn

/-! ## Arithmetic and composites -/

theorem binary_agree {op : Opcode} {f : WordLanes → WordLanes → WordLanes}
    (hf : binary? op = some f) {v v' w w' : WordLanes} (hv : v.AgreeOn on v')
    (hw : w.AgreeOn on w') : (f v w).AgreeOn on (f v' w') := by
  have hzip : ∃ g, f = Lanes.zipWith g := by
    unfold binary? at hf
    split at hf <;> cases hf <;> exact ⟨_, rfl⟩
  obtain ⟨g, rfl⟩ := hzip
  exact hv.zipWith hw g

theorem unary_agree {op : Opcode} {f : WordLanes → WordLanes} (hf : unary? op = some f)
    {v v' : WordLanes} (hv : v.AgreeOn on v') : (f v).AgreeOn on (f v') := by
  unfold unary? at hf
  split at hf <;> cases hf
  case h_5 => exact hv
  all_goals exact hv.map _

theorem zipComponents_alike {f : WordLanes → WordLanes → WordLanes}
    (hf : ∀ v v' w w', v.AgreeOn on v' → w.AgreeOn on w' → (f v w).AgreeOn on (f v' w'))
    {a a' b b' : List WordLanes} (ha : RowsAgree on a a') (hb : RowsAgree on b b') :
    Alike (RowsAgree on) (zipComponents f a b) (zipComponents f a' b') := by
  induction ha generalizing b b' with
  | nil => exact .ok .nil
  | cons hv _ ih =>
    cases hb with
    | nil => exact .error _
    | cons hw hb => exact (ih hb).bind fun _ _ hrest => .ok (.cons (hf _ _ _ _ hv hw) hrest)

theorem slice_alike {r r' : List WordLanes} (h : RowsAgree on r r') (start : Int) (count : Nat) :
    Alike (RowsAgree on) (Environment.slice r start count)
      (Environment.slice r' start count) := by
  rw [Environment.slice, Environment.slice, ← h.length_eq]
  split
  · exact .error _
  · exact .ok (List.forall₂_take _ (List.forall₂_drop _ h))

theorem selectComponent_alike {r r' : List WordLanes} (h : RowsAgree on r r') (selector : UInt32) :
    Alike (Lanes.AgreeOn on) (Environment.selectComponent r selector)
      (Environment.selectComponent r' selector) := by
  have hplace := RowsAgree.getElem? h selector.toNat
  rw [Environment.selectComponent, Environment.selectComponent]
  split
  · exact .ok (.refl _)
  · generalize r[selector.toNat]? = c at hplace ⊢
    generalize r'[selector.toNat]? = c' at hplace ⊢
    cases hplace with
    | none => exact .error _
    | some h => exact .ok h

namespace Environment

variable (e : Environment) (x y mask : WordLanes) {s s' : State} (hs : s.Related on M T s')
  (i : Instruction)
include hs

theorem binary_alike {op : Opcode} {f : WordLanes → WordLanes → WordLanes}
    (hf : binary? op = some f) :
    Alike (RowsAgree on) (e.binary s i f) ((e.moved x y mask).binary s' i f) := by
  refine .bind_same fun lhs _ => (operand_alike e x y mask hs lhs).bind fun _ _ hlhs => ?_
  refine .bind_same fun rhs _ => (operand_alike e x y mask hs rhs).bind fun _ _ hrhs => ?_
  exact zipComponents_alike (fun _ _ _ _ hv hw => binary_agree hf hv hw) hlhs.components
    hrhs.components

theorem unary_alike {op : Opcode} {f : WordLanes → WordLanes} (hf : unary? op = some f) :
    Alike (RowsAgree on) (e.unary s i f) ((e.moved x y mask).unary s' i f) := by
  refine .bind_same fun id _ => (operand_alike e x y mask hs id).bind fun _ _ h => ?_
  exact .ok (List.rel_map (fun _ _ hv => unary_agree hf hv) h.components)

theorem concat_alike (ids : List UInt32) :
    Alike (RowsAgree on) (e.concat s ids) ((e.moved x y mask).concat s' ids) := by
  induction ids with
  | nil => exact .ok .nil
  | cons id rest ih =>
    exact (operand_alike e x y mask hs id.toNat).bind fun _ _ h => ih.bind fun _ _ hrest =>
      .ok (List.rel_append h.components hrest)

theorem extract_alike :
    Alike (RowsAgree on) (e.extract s i) ((e.moved x y mask).extract s' i) := by
  refine .bind_same fun _ _ => .bind_same fun count _ => .bind_same fun composite _ => ?_
  refine .bind_same fun object _ => .bind_same fun part _ => ?_
  exact (operand_alike e x y mask hs composite).bind fun _ _ h => slice_alike h.components _ _

theorem shuffle_alike :
    Alike (RowsAgree on) (e.shuffle s i) ((e.moved x y mask).shuffle s' i) := by
  refine .bind_same fun first _ => (operand_alike e x y mask hs first).bind fun _ _ hfirst => ?_
  refine .bind_same fun second _ => (operand_alike e x y mask hs second).bind fun _ _ hsecond => ?_
  exact .mapM (List.forall₂_same.mpr fun selector _ => rfl) fun selector _ heq => heq ▸
    selectComponent_alike (List.rel_append hfirst.components hsecond.components) selector

end Environment

/-! ## Access chains -/

/-- Indices that agree: literal ones are equal. -/
inductive ChainIndex.AgreeOn (on : Lane → Prop) : ChainIndex → ChainIndex → Prop
  | literal (index : UInt32) : AgreeOn on (.literal index) (.literal index)
  | lanes {index index' : WordLanes} (h : index.AgreeOn on index') :
      AgreeOn on (.lanes index) (.lanes index')

namespace ChainIndex.AgreeOn

variable {index index' : ChainIndex} (h : AgreeOn on index index')
include h

theorem toLanes : index.toLanes.AgreeOn on index'.toLanes := by
  cases h with
  | literal index => exact .refl _
  | lanes h => exact h

theorem member : index'.member = index.member := by
  cases h <;> rfl

end ChainIndex.AgreeOn

/-- Parts of one type at offsets that agree. -/
structure Part.AgreeOn (on : Lane → Prop) (part part' : Part) : Prop where
  type : part.type = part'.type
  offset : part.offset.AgreeOn on part'.offset

theorem pastMembers_alike (d : Declarations) {offset offset' : WordLanes}
    (h : offset.AgreeOn on offset') (members : List UInt32) :
    Alike (Lanes.AgreeOn on) (pastMembers d offset members) (pastMembers d offset' members) := by
  induction members generalizing offset offset' with
  | nil => exact .ok h
  | cons id rest ih => exact .bind_same fun count _ => ih (h.zipWith (.refl _) _)

theorem walkStep_alike (shader : Shader) {part part' : Part} (hpart : Part.AgreeOn on part part')
    {index index' : ChainIndex} (hindex : ChainIndex.AgreeOn on index index') :
    Alike (Part.AgreeOn on) (shader.walkStep part index) (shader.walkStep part' index') := by
  rw [Shader.walkStep, Shader.walkStep, ← hpart.type, hindex.member]
  refine .bind_same fun type _ => ?_
  split
  -- structures
  case h_1 =>
    refine .bind_same fun member _ => .bind_same fun definition _ => ?_
    exact (pastMembers_alike _ hpart.offset _).bind fun _ _ hoffset =>
      .bind_same fun id _ => .ok ⟨rfl, hoffset⟩
  -- types without parts
  case h_6 => exact .error _
  -- vectors, matrices and arrays
  all_goals
    refine .bind_same fun count _ => ?_
    exact .ok ⟨rfl, hpart.offset.zipWith (hindex.toLanes.zipWith (.refl _) _) _⟩

theorem walk_alike (shader : Shader) {part part' : Part} (hpart : Part.AgreeOn on part part')
    {indices indices' : List ChainIndex}
    (hindices : List.Forall₂ (ChainIndex.AgreeOn on) indices indices') :
    Alike (Part.AgreeOn on) (shader.walk part indices) (shader.walk part' indices') := by
  induction hindices generalizing part part' with
  | nil => exact .ok hpart
  | cons hindex _ ih => exact (walkStep_alike shader hpart hindex).bind fun _ _ h => ih h

namespace Environment

variable (e : Environment) (x y mask : WordLanes) {s s' : State} (hs : s.Related on M T s')
include hs

theorem chainIndex_alike (id : Nat) :
    Alike (ChainIndex.AgreeOn on) (e.chainIndex s id) ((e.moved x y mask).chainIndex s' id) := by
  refine .bind_same fun object _ => ?_
  cases object.kind with
  | constant values =>
    cases values with
    | nil => exact .error _
    | cons value _ => exact .ok (.literal value)
  | _ =>
    refine (hs.components id).bind fun list list' hlist => ?_
    cases hlist with
    | nil => exact .error _
    | cons hv _ => exact .ok (.lanes hv)

/-- The lane that leads reads the same index of a descriptor in both runs, if the lanes that lead
hold the same in the first one. -/
theorem uniformIndex_alike (h : e.AgreeOn on P x y mask) (id : Nat)
    (hlead : ∀ index, e.chainIndex s id = .ok (.lanes index) →
      index.get e.leadLane = index.get (e.moved x y mask).leadLane) :
    Alike Eq (e.uniformIndex s id) ((e.moved x y mask).uniformIndex s' id) := by
  have hindex := e.chainIndex_alike x y mask hs id
  rw [uniformIndex, uniformIndex]
  generalize (e.moved x y mask).chainIndex s' id = r' at hindex ⊢
  generalize e.chainIndex s id = r at hlead hindex ⊢
  cases hindex with
  | error fault => exact .error _
  | ok hindex =>
    cases hindex with
    | literal index => exact .ok rfl
    | lanes hindex =>
      refine .ok ?_
      rw [hlead _ rfl, hindex _ h.lead]

end Environment

end HostGpu.Execution
