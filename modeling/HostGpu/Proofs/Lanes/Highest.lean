import HostGpu.Lanes.Basic
import Mathlib.Data.Fin.Basic
import Mathlib.Data.List.Induction

/-!
# The highest lane

Stores of a group are made in lane order, so of several lanes that store to one place the highest
one wins.  `Lane.highest?` names it, and `Lane.foldl_all` says that an update that goes through all
lanes and overwrites where a condition holds leaves what the highest such lane wrote.
-/

namespace HostGpu.Lane

/-- The highest lane with a property. -/
def highest? (P : Lane → Bool) : Option Lane := all.reverse.find? P

variable {P Q : Lane → Bool}

theorem highest?_eq_none : highest? P = none ↔ ∀ l, P l = false := by
  simp only [highest?, List.find?_eq_none, List.mem_reverse, Bool.not_eq_true]
  exact ⟨fun h l => h l l.mem_all, fun h l _ => h l⟩

theorem highest?_eq_some {h : Lane} :
    highest? P = some h ↔ P h = true ∧ ∀ l, h < l → P l = false := by
  match h with
  | 0 | 1 | 2 | 3 =>
    simp only [highest?, all, List.reverse_cons, List.reverse_nil, List.nil_append,
      List.cons_append, List.find?_cons, List.find?_nil, Fin.forall_fin_succ]
    grind

/-- Every group of lanes with a property has a highest one. -/
theorem exists_highest {l : Lane} (hl : P l = true) : ∃ h, highest? P = some h := by
  cases hh : highest? P with
  | none => simp [highest?_eq_none.mp hh l] at hl
  | some h => exact ⟨h, rfl⟩

theorem highest?_congr (h : ∀ l, P l = Q l) : highest? P = highest? Q := congrArg _ (funext h)

/-- Overwriting in lane order keeps what the highest lane writes. -/
theorem foldl_all {α : Type} (P : Lane → Bool) (f : Lane → α) (a : α) :
    all.foldl (fun acc l => if P l then f l else acc) a = (highest? P).elim a f := by
  rw [highest?]
  induction all using List.reverseRecOn with
  | nil => rfl
  | append_singleton ls l ih =>
    rw [List.foldl_append, List.reverse_append]
    cases hl : P l with
    | true => simp [hl]
    | false => simpa [hl] using ih

end HostGpu.Lane
