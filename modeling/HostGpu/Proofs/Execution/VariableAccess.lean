import HostGpu.Proofs.Execution.Progress
import HostGpu.Proofs.Number.Word

/-!
# Accesses to variables

A pointer into a variable has an offset in every lane, which is read with sign.  Since the indices
of an access chain may be computed, it may lead before the components of the variable or behind
them.  What is loaded there are zeros (`Loaded`) and what is stored there is lost (`Stored`), and
neither is a fault: loads, stores and additions end with the row and the storage that these say
(`accessesVariable`).
-/

namespace HostGpu.Execution

open Outcome Spirv Shader

/-! ## Rows of scalars -/

/-- A part that is loaded from a row: the components of the row from the offset of every lane on,
and zeros where the row has none. -/
structure Loaded (row : List WordLanes) (offsets : WordLanes) (part : List WordLanes) : Prop where
  inside : ∀ (l : Lane) (first j : Nat), Word.signed (offsets.get l) = first → j < part.length →
    first + j < row.length → part[j]?.map (·.get l) = row[first + j]?.map (·.get l)
  outside : ∀ (l : Lane) (j : Nat), j < part.length →
    (∀ first : Nat, Word.signed (offsets.get l) = first → row.length ≤ first + j) →
    part[j]?.map (·.get l) = some 0

/-- A row to which a part was stored: it has the components of the part from the offset of every
lane of a mask on, as far as it has components there, and its own ones everywhere else. -/
structure Stored (mask offsets : WordLanes) (part old new : List WordLanes) : Prop where
  length_eq : new.length = old.length
  inside : ∀ (l : Lane) (first j : Nat), mask.get l ≠ 0 → Word.signed (offsets.get l) = first →
    j < part.length → first + j < old.length →
    new[first + j]?.map (·.get l) = part[j]?.map (·.get l)
  outside : ∀ (l : Lane) (k : Nat), (mask.get l = 0 ∨
      ∀ first : Nat, Word.signed (offsets.get l) = first → k < first ∨ first + part.length ≤ k) →
    new[k]?.map (·.get l) = old[k]?.map (·.get l)

namespace Storage

section

variable {offsets : WordLanes} {l : Lane}

theorem index?_eq_some {first : Nat} (h : Word.signed (offsets.get l) = first) (i : Nat) :
    index? offsets l i = some (first + i) := by
  rw [index?, h, if_pos (Int.natCast_nonneg first), Int.toNat_natCast]

/-- An offset before the storage has no components, not even further on. -/
theorem index?_eq_none (h : ∀ first : Nat, Word.signed (offsets.get l) ≠ first) (i : Nat) :
    index? offsets l i = none :=
  if_neg fun hnonneg => h _ (Int.toNat_of_nonneg hnonneg).symm

end

theorem length_load (row : List WordLanes) (offsets : WordLanes) (count : Nat) :
    (load row offsets count).length = count := by
  rw [load, List.length_map, List.length_range]

theorem loaded_load (row : List WordLanes) (offsets : WordLanes) (count : Nat) :
    Loaded row offsets (load row offsets count) := by
  have hlane (l : Lane) {j : Nat} (hj : j < (load row offsets count).length) :
      (load row offsets count)[j]?.map (·.get l) =
        some (((index? offsets l j).bind (row[·]?)).elim 0 (·.get l)) := by
    rw [length_load] at hj
    rw [load, List.getElem?_map, List.getElem?_range hj, Option.map_some, Option.map_some, scalar,
      Lanes.get_ofFn]
  refine ⟨fun l first j hfirst hj hbound => ?_, fun l j hj hout => ?_⟩
  · rw [hlane l hj, index?_eq_some hfirst, Option.bind_some, List.getElem?_eq_getElem hbound]
    rfl
  · rw [hlane l hj]
    by_cases hstarts : ∃ first : Nat, Word.signed (offsets.get l) = first
    · obtain ⟨first, hfirst⟩ := hstarts
      rw [index?_eq_some hfirst, Option.bind_some, List.getElem?_eq_none (hout first hfirst)]
      rfl
    · rw [index?_eq_none (not_exists.mp hstarts)]
      rfl

theorem stored_store (mask offsets : WordLanes) (part old : List WordLanes) :
    Stored mask offsets part old (store old offsets mask part) := by
  have hlane (l : Lane) (k : Nat) : (store old offsets mask part)[k]?.map (·.get l) =
      old[k]?.map fun scalar => storedLane offsets mask part k scalar l := by
    rw [store, List.getElem?_mapIdx, Option.map_map]
    refine congrArg (Option.map · old[k]?) (funext fun scalar => ?_)
    rw [Function.comp_apply, Lanes.get_ofFn]
  refine ⟨List.length_mapIdx, fun l first j hl hfirst hj hbound => ?_, fun l k hout => ?_⟩
  · rw [hlane, List.getElem?_eq_getElem hbound, Option.map_some, storedLane,
      index?_eq_some hfirst]
    dsimp only
    rw [if_neg (not_or.mpr ⟨hl, by omega⟩), Nat.add_zero, Nat.add_sub_cancel_left,
      List.getElem?_eq_getElem hj]
    rfl
  · rw [hlane]
    refine congrArg (Option.map · old[k]?) (funext fun scalar => ?_)
    by_cases hstarts : ∃ first : Nat, Word.signed (offsets.get l) = first
    · obtain ⟨first, hfirst⟩ := hstarts
      rw [storedLane, index?_eq_some hfirst]
      dsimp only
      split
      case isTrue => rfl
      case isFalse hin =>
        rw [not_or] at hin
        have hafter := (hout.resolve_left hin.1 first hfirst).resolve_left hin.2
        rw [List.getElem?_eq_none (by omega)]
        rfl
    · rw [storedLane, index?_eq_none (not_exists.mp hstarts)]

end Storage

/-! ## Instructions -/

/-- An instruction loads a value of a type. -/
structure IsLoad (i : Instruction) (type pointer result : Nat) : Prop where
  op_eq : i.op? = some .opLoad
  type_eq : i.id 1 = .ok type
  result_eq : i.id 2 = .ok result
  pointer_eq : i.id 3 = .ok pointer

/-- An instruction stores a value. -/
structure IsStore (i : Instruction) (pointer value : Nat) : Prop where
  op_eq : i.op? = some .opStore
  pointer_eq : i.id 1 = .ok pointer
  value_eq : i.id 2 = .ok value

/-- An instruction adds a number to what a pointer points to. -/
structure IsAtomicAdd (i : Instruction) (pointer value result : Nat) : Prop where
  op_eq : i.op? = some .opAtomicIAdd
  result_eq : i.id 2 = .ok result
  pointer_eq : i.id 3 = .ok pointer
  value_eq : i.id 6 = .ok value

section

variable {e : Environment} {s : State} {i : Instruction} {pointer value result v : Nat}
  {offsets : WordLanes} {row : List WordLanes} {operand : Operand}
  (hpointer : s.target pointer = .ok (.variable v offsets)) (hstorage : s.storage v = .ok row)
include hpointer hstorage

theorem IsLoad.run_eq {T count : Nat} (hi : IsLoad i T pointer result)
    (hcount : e.declarations.componentCount T = .ok count) (hnew : s.Lacks result) :
    (step e i).run s =
      (.ok .next, s.withValue result (.components (Storage.load row offsets count))) := by
  obtain ⟨type, htype, hcount⟩ := bind_eq_ok.mp hcount
  obtain rfl := pure_eq_ok.mp hcount
  have hvalue : (do loadedValue e s type (← s.target pointer)) =
      .ok (.components (Storage.load row offsets type.componentCount)) := by
    rw [hpointer, ok_bind, loadedValue, hstorage]
    rfl
  have hid : e.declarations.type =<< i.id 1 = .ok type := by
    rw [hi.type_eq]
    exact htype
  rw [step_eq_execute hi.op_eq (by decide), run_bind, execute, executeLoad, run_lift_bind hid,
    run_lift_bind hi.result_eq, run_lift_bind hi.pointer_eq, run_inspect_bind hvalue,
    run_define hnew]
  rfl

theorem IsStore.run_eq (hi : IsStore i pointer value) (hvalue : e.operand s value = .ok operand) :
    (step e i).run s =
      (.ok .next, s.setStorage v (Storage.store row offsets e.active operand.components)) := by
  have hstored : (do
      let target ← s.target (← i.id 1)
      let value ← e.operand s (← i.id 2)
      storedState e s value target) =
        .ok (s.setStorage v (Storage.store row offsets e.active operand.components)) := by
    simp only [hi.pointer_eq, hpointer, hi.value_eq, hvalue, ok_bind, storedState, hstorage]
    rfl
  rw [step_eq_execute hi.op_eq (by decide), run_bind, execute, executeStore,
    run_inspect_bind hstored, run_set]
  rfl

theorem IsAtomicAdd.run_eq {amount : WordLanes} (hi : IsAtomicAdd i pointer value result)
    (hvalue : e.operand s value = .ok operand) (hamount : operand.component 0 = .ok amount)
    (hnew : s.Lacks result) : (step e i).run s = (.ok .next,
      (s.setStorage v (Storage.store row offsets e.active
        [(Storage.scalar row offsets 0).add amount])).withValue result
          (.components (Storage.load row offsets 1))) := by
  have hadded : (do
      let target ← s.target (← i.id 3)
      let value ← (← e.operand s (← i.id 6)).component 0
      atomicAdd e s value target) = .ok (Storage.scalar row offsets 0, s.setStorage v
        (Storage.store row offsets e.active [(Storage.scalar row offsets 0).add amount])) := by
    simp only [hi.pointer_eq, hpointer, hi.value_eq, hvalue, hamount, ok_bind, atomicAdd, hstorage]
    rfl
  rw [step_eq_execute hi.op_eq (by decide), run_bind, execute, executeAtomicAdd,
    run_lift_bind hi.result_eq, run_inspect_bind hadded]
  dsimp only
  rw [run_bind, run_set, defineComponents]
  dsimp only
  rw [run_define]
  · rfl
  · exact hnew

end

/-- An instruction that loads from a variable, stores to it or adds to it ends: it gets zeros where
its pointer leads outside of the variable, and changes nothing there. -/
structure AccessesVariable (e : Environment) (s : State) (i : Instruction) : Prop where
  load : ∀ {T pointer result v count : Nat} {offsets : WordLanes} {row : List WordLanes},
    IsLoad i T pointer result → s.target pointer = .ok (.variable v offsets) →
    s.storage v = .ok row → e.declarations.componentCount T = .ok count → s.Lacks result →
    ∃ part, (step e i).run s = (.ok .next, s.withValue result (.components part)) ∧
      part.length = count ∧ Loaded row offsets part
  store : ∀ {pointer value v : Nat} {offsets : WordLanes} {old : List WordLanes}
      {operand : Operand}, IsStore i pointer value → s.target pointer = .ok (.variable v offsets) →
    s.storage v = .ok old → e.operand s value = .ok operand →
    ∃ new, (step e i).run s = (.ok .next, s.setStorage v new) ∧
      Stored e.active offsets operand.components old new
  add : ∀ {pointer value result v : Nat} {offsets amount : WordLanes} {old : List WordLanes}
      {operand : Operand}, IsAtomicAdd i pointer value result →
    s.target pointer = .ok (.variable v offsets) → s.storage v = .ok old →
    e.operand s value = .ok operand → operand.component 0 = .ok amount → s.Lacks result →
    ∃ previous new, (step e i).run s =
        (.ok .next, (s.setStorage v new).withValue result (.components [previous])) ∧
      Loaded old offsets [previous] ∧ Stored e.active offsets [previous.add amount] old new

theorem accessesVariable (e : Environment) (s : State) (i : Instruction) :
    AccessesVariable e s i where
  load hi hpointer hstorage hcount hnew :=
    ⟨_, hi.run_eq hpointer hstorage hcount hnew, Storage.length_load _ _ _,
      Storage.loaded_load _ _ _⟩
  store hi hpointer hstorage hvalue :=
    ⟨_, hi.run_eq hpointer hstorage hvalue, Storage.stored_store _ _ _ _⟩
  add hi hpointer hstorage hvalue hamount hnew :=
    ⟨_, _, hi.run_eq hpointer hstorage hvalue hamount hnew, Storage.loaded_load _ _ 1,
      Storage.stored_store _ _ _ _⟩

end HostGpu.Execution
