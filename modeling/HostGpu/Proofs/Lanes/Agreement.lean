import HostGpu.Lanes.Arithmetic
import Mathlib.Data.List.Forall2

/-!
# Agreement in some lanes

Two groups agree in the lanes of a set if these lanes hold the same values; what the other lanes
hold does not matter.  Lane-wise operations keep agreement, and so do the operations on rows of
groups that move whole groups.
-/

namespace HostGpu

namespace Lanes

universe u v w

variable {α : Type u} {β : Type v} {γ : Type w} {on : Lane → Prop}

/-- Two groups hold the same values in the lanes of a set. -/
def AgreeOn (on : Lane → Prop) (v w : Lanes α) : Prop := ∀ l, on l → v.get l = w.get l

namespace AgreeOn

theorem refl (v : Lanes α) : AgreeOn on v v := fun _ _ => rfl

theorem ofFn {f g : Lane → α} (h : ∀ l, on l → f l = g l) : AgreeOn on (ofFn f) (ofFn g) := by
  intro l hl
  rw [get_ofFn, get_ofFn, h l hl]

theorem symm {v w : Lanes α} (h : AgreeOn on v w) : AgreeOn on w v := fun l hl => (h l hl).symm

theorem trans {u v w : Lanes α} (h : AgreeOn on u v) (h' : AgreeOn on v w) : AgreeOn on u w :=
  fun l hl => (h l hl).trans (h' l hl)

variable {v v' : Lanes α} {w w' : Lanes β}

theorem map (h : AgreeOn on v v') (f : α → β) : AgreeOn on (v.map f) (v'.map f) := by
  intro l hl
  rw [get_map, get_map, h l hl]

theorem zipWith (hv : AgreeOn on v v') (hw : AgreeOn on w w') (f : α → β → γ) :
    AgreeOn on (v.zipWith f w) (v'.zipWith f w') := by
  intro l hl
  rw [get_zipWith, get_zipWith, hv l hl, hw l hl]

end AgreeOn

/-! ## Rows of groups -/

/-- Two rows have the same length, and their groups agree in the lanes of a set. -/
abbrev RowsAgree (on : Lane → Prop) : List (Lanes α) → List (Lanes α) → Prop :=
  List.Forall₂ (AgreeOn on)

namespace RowsAgree

variable {r r' : List (Lanes α)}

theorem refl (r : List (Lanes α)) : RowsAgree on r r := List.forall₂_same.mpr fun v _ => .refl v

theorem symm (h : RowsAgree on r r') : RowsAgree on r' r :=
  h.flip.imp fun _ _ hv => AgreeOn.symm hv

theorem trans {r'' : List (Lanes α)} (h : RowsAgree on r r') (h' : RowsAgree on r' r'') :
    RowsAgree on r r'' := by
  induction h generalizing r'' with
  | nil => exact h'
  | cons hv _ ih =>
    cases h' with
    | cons hv' h' => exact .cons (hv.trans hv') (ih h')

theorem single {v v' : Lanes α} (h : AgreeOn on v v') : RowsAgree on [v] [v'] := .cons h .nil

/-- The groups at one place both exist and agree, or none exists. -/
theorem getElem? (h : RowsAgree on r r') (n : Nat) : Option.Rel (AgreeOn on) r[n]? r'[n]? := by
  induction h generalizing n with
  | nil => exact .none
  | cons hv _ ih =>
    cases n with
    | zero => exact .some hv
    | succ n => exact ih n

theorem getLast? (h : RowsAgree on r r') : Option.Rel (AgreeOn on) r.getLast? r'.getLast? := by
  rw [List.getLast?_eq_getElem?, List.getLast?_eq_getElem?, h.length_eq]
  exact h.getElem? _

theorem dropLast (h : RowsAgree on r r') : RowsAgree on r.dropLast r'.dropLast := by
  rw [List.dropLast_eq_take, List.dropLast_eq_take, h.length_eq]
  exact List.forall₂_take _ h

theorem mapIdx {f g : Nat → Lanes α → Lanes β} (h : RowsAgree on r r')
    (hfg : ∀ n v v', AgreeOn on v v' → AgreeOn on (f n v) (g n v')) :
    RowsAgree on (r.mapIdx f) (r'.mapIdx g) := by
  induction h generalizing f g with
  | nil => exact .nil
  | cons hv _ ih =>
    rw [List.mapIdx_cons, List.mapIdx_cons]
    exact .cons (hfg 0 _ _ hv) (ih fun n => hfg (n + 1))

/-- Where no lane counts, rows agree by their lengths alone. -/
theorem of_length_eq (h : r.length = r'.length) : RowsAgree (fun _ => False) r r' :=
  List.forall₂_iff_get.mpr ⟨h, fun _ _ _ _ hl => hl.elim⟩

/-- What keeps the lanes of a set in every group keeps them in the row. -/
theorem mapIdx_self {f : Nat → Lanes α → Lanes α} (h : ∀ n v, AgreeOn on (f n v) v)
    (r : List (Lanes α)) : RowsAgree on (r.mapIdx f) r := by
  induction r generalizing f with
  | nil => exact .nil
  | cons v r ih =>
    rw [List.mapIdx_cons]
    exact .cons (h 0 v) (ih fun n => h (n + 1))

end RowsAgree

end Lanes

end HostGpu
