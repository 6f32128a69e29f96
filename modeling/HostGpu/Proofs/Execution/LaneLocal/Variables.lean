import HostGpu.Proofs.Execution.LaneLocal.Values

/-!
# Variables lane by lane

A lane of a variable is read and stored at the lane's own offset.  Loads ignore the mask, and lanes
that are off keep what they hold, so storages stay in agreement in lanes that are on in both runs.
-/

namespace HostGpu.Execution

open Lanes Outcome Spirv Shader

variable {on : Lane → Prop} {P : SamplingFunction → Prop}

/-! ## Storages -/

namespace Storage

variable {storage storage' components components' : List WordLanes}
  {offsets offsets' mask mask' : WordLanes} (hstorage : RowsAgree on storage storage')

theorem index?_congr (hoffsets : offsets.AgreeOn on offsets') {l : Lane} (hl : on l) (i : Nat) :
    index? offsets l i = index? offsets' l i := by
  rw [index?, index?, hoffsets l hl]

include hstorage

theorem scalar_agree (hoffsets : offsets.AgreeOn on offsets') (i : Nat) :
    (scalar storage offsets i).AgreeOn on (scalar storage' offsets' i) := by
  refine .ofFn fun l hl => ?_
  rw [index?_congr hoffsets hl]
  cases index? offsets' l i with
  | none => rfl
  | some place => exact elim_eq_of_rel (RowsAgree.getElem? hstorage place) 0 fun _ _ hv => hv l hl

theorem load_agree (hoffsets : offsets.AgreeOn on offsets') (count : Nat) :
    RowsAgree on (load storage offsets count) (load storage' offsets' count) :=
  List.rel_map (fun i _ heq => heq ▸ scalar_agree hstorage hoffsets i)
    (List.forall₂_same.mpr fun _ _ => rfl)

theorem store_agree (hoffsets : offsets.AgreeOn on offsets') (hmask : ∀ l, on l → mask.get l ≠ 0)
    (hmask' : ∀ l, on l → mask'.get l ≠ 0) (hcomponents : RowsAgree on components components') :
    RowsAgree on (store storage offsets mask components)
      (store storage' offsets' mask' components') := by
  refine RowsAgree.mapIdx hstorage fun j old old' hold => .ofFn fun l hl => ?_
  rw [storedLane, storedLane, index?_congr hoffsets hl, hold l hl]
  cases index? offsets' l 0 with
  | none => rfl
  | some first =>
    simp only [hmask l hl, hmask' l hl, false_or]
    split
    · rfl
    · exact elim_eq_of_rel (RowsAgree.getElem? hcomponents _) _ fun _ _ hv => hv l hl

theorem fill_agree (hcomponents : RowsAgree on components components') :
    RowsAgree on (fill storage components) (fill storage' components') := by
  rw [fill, fill, hstorage.length_eq, hcomponents.length_eq]
  exact List.rel_append (List.forall₂_take _ hcomponents) (List.forall₂_drop _ hstorage)

end Storage

/-! ## Variables outside of functions -/

/-- Variables are set up alike if what inputs start with agrees. -/
theorem EndsAlike.initGlobal {M : Machine → Machine → Prop} {T : Target → Target → Prop}
    {e : Environment} {x y mask : WordLanes} {inputs inputs' : InterfaceValues} {s s' : State}
    (hs : s.Related on M T s') (hT : ∀ t, T t t)
    (hinput : ∀ id storage, Alike (RowsAgree on) (e.inputStorage inputs id storage)
      ((e.moved x y mask).inputStorage inputs' id storage)) (id : Nat) :
    EndsAlike (State.Related on M T) Eq ((e.initGlobal inputs id).run s)
      (((e.moved x y mask).initGlobal inputs' id).run s') := by
  refine .lift_bind_same hs fun object _ => ?_
  cases object.kind with
  | «variable» storageClass =>
    dsimp only
    split
    · rw [Environment.moved_declarations]
      cases e.declarations.slots[id]? with
      | none => exact .pure hs rfl
      | some slot =>
        exact .lift_bind_same hs fun address _ => .definePointer hs id (hT _)
    · refine .lift_bind_same hs fun storage _ => ?_
      split
      · exact .lift_bind hs (hinput id storage) fun _ _ _ hstorage =>
          .createVariable hs hT id hstorage
      · exact .bind (.pure hs rfl) fun _ _ _ _ _ heq ht =>
          heq ▸ .createVariable ht hT id (.refl _)
  | _ => exact .pure hs rfl

namespace Environment.AgreeOn

variable {e : Environment} {x y mask : WordLanes} (h : e.AgreeOn on P x y mask)
include h

theorem fragmentCentres : RowsAgree on e.fragmentCentres (e.moved x y mask).fragmentCentres :=
  .cons ((h.windowX.map _).zipWith (.refl _) _) (.cons ((h.windowY.map _).zipWith (.refl _) _)
    (RowsAgree.refl _))

theorem builtInStorage (storage : List WordLanes) (b : BuiltIn) :
    Alike (RowsAgree on) (e.builtInStorage storage b)
      ((e.moved x y mask).builtInStorage storage b) := by
  cases b with
  | fragCoord => exact .ok (Storage.fill_agree (.refl _) h.fragmentCentres)
  | _ => exact .same _ RowsAgree.refl

theorem inputStorage {inputs inputs' : InterfaceValues} (hinputs : inputs.AgreeOn on inputs')
    (id : Nat) (storage : List WordLanes) :
    Alike (RowsAgree on) (e.inputStorage inputs id storage)
      ((e.moved x y mask).inputStorage inputs' id storage) := by
  simp only [Environment.inputStorage, moved_declarations]
  cases (e.declarations.decorations[id]?.getD {}).builtIn with
  | some b => exact h.builtInStorage storage b
  | none =>
    cases (e.declarations.decorations[id]?.getD {}).location with
    | none => exact .ok (.refl _)
    | some location =>
      have hvalues := hinputs location
      dsimp only [Option.bind_some]
      generalize inputs[location]? = values at hvalues ⊢
      generalize inputs'[location]? = values' at hvalues ⊢
      cases hvalues with
      | none => exact .ok (.refl _)
      | some hvalues => exact .ok (Storage.fill_agree (.refl _) hvalues)

/-- Inputs that agree are set up alike. -/
theorem initGlobal {s s' : State} (hs : s.AgreeOn on P s') {inputs inputs' : InterfaceValues}
    (hinputs : inputs.AgreeOn on inputs') (id : Nat) :
    EndsAlike (State.AgreeOn on P) Eq ((e.initGlobal inputs id).run s)
      (((e.moved x y mask).initGlobal inputs' id).run s') :=
  .initGlobal hs Target.AgreeOn.refl (h.inputStorage hinputs) id

end Environment.AgreeOn

/-! ## Outputs -/

theorem InterfaceValues.AgreeOn.insert {values values' : InterfaceValues}
    (h : values.AgreeOn on values') (location : Nat) {r r' : List WordLanes}
    (hr : RowsAgree on r r') :
    InterfaceValues.AgreeOn on (values.insert location r) (values'.insert location r') := by
  intro location'
  rw [Std.TreeMap.getElem?_insert, Std.TreeMap.getElem?_insert]
  split
  · exact .some hr
  · exact h location'

/-- States that agree have outputs that agree. -/
theorem State.AgreeOn.outputs {s s' : State} (hs : s.AgreeOn on P s') (e : Environment)
    (x y mask : WordLanes) :
    (e.outputs s).AgreeOn on ((e.moved x y mask).outputs s') := by
  rw [Environment.outputs, Environment.outputs, Environment.moved_declarations]
  have hempty : InterfaceValues.AgreeOn on ∅ ∅ := fun location => by
    rw [Std.TreeMap.getElem?_emptyc]
    exact .none
  -- the outputs found so far agree
  refine List.rel_foldl (P := InterfaceValues.AgreeOn on) (R := Eq) ?_ hempty
    (List.forall₂_same.mpr fun _ _ => rfl)
  rintro values values' hvalues id _ rfl
  have hstorage := hs.storages id
  dsimp only
  generalize s.storages[id]? = storage at hstorage ⊢
  generalize s'.storages[id]? = storage' at hstorage ⊢
  cases e.declarations.objects[id]?.any (·.kind = .variable .output) with
  | false => exact hvalues
  | true =>
    cases e.declarations.decorations[id]?.bind (·.location) with
    | none => exact hvalues
    | some location =>
      cases hstorage with
      | none => exact hvalues
      | some hr => exact hvalues.insert location hr

end HostGpu.Execution
