import HostGpu.Span
import Mathlib.Algebra.BigOperators.Group.List.Basic
import Mathlib.Algebra.Ring.Nat

/-!
# Spans that follow each other

Spans that follow each other from one number to another are in order, have no number in common, and
together have all numbers between: `Span.Follow`.
-/

namespace HostGpu

namespace Span

/-- A place in a span. -/
instance : Membership Nat Span := ⟨fun s o => s.start ≤ o ∧ o < s.stop⟩

theorem mem_iff {s : Span} {o : Nat} : o ∈ s ↔ s.start ≤ o ∧ o < s.stop := Iff.rfl

/-- Spans follow each other from one place to another without gaps. -/
def Follow (start stop : Nat) : List Span → Prop
  | [] => start = stop
  | s :: rest => s.start = start ∧ s.start ≤ s.stop ∧ Follow s.stop stop rest

/-- Whether spans follow each other is decided one by one. -/
instance decidableFollow (start stop : Nat) :
    (spans : List Span) → Decidable (Follow start stop spans)
  | [] => inferInstanceAs (Decidable (start = stop))
  | s :: rest =>
    have := decidableFollow s.stop stop rest
    inferInstanceAs (Decidable (s.start = start ∧ s.start ≤ s.stop ∧ Follow s.stop stop rest))

namespace Follow

variable {start middle stop : Nat} {spans rest : List Span}

theorem le (h : Follow start stop spans) : start ≤ stop := by
  induction spans generalizing start with
  | nil => exact Nat.le_of_eq h
  | cons s spans ih =>
    obtain ⟨rfl, hs, hrest⟩ := h
    exact Nat.le_trans hs (ih hrest)

theorem append (h : Follow start middle spans) (h' : Follow middle stop rest) :
    Follow start stop (spans ++ rest) := by
  induction spans generalizing start with
  | nil => exact h ▸ h'
  | cons s spans ih =>
    obtain ⟨hstart, hs, hrest⟩ := h
    exact ⟨hstart, hs, ih hrest⟩

/-- Each span begins at the start or after it. -/
theorem start_le (h : Follow start stop spans) : ∀ s ∈ spans, start ≤ s.start := by
  induction spans generalizing start with
  | nil => exact fun s hs => absurd hs List.not_mem_nil
  | cons s spans ih =>
    obtain ⟨rfl, hs, hrest⟩ := h
    rw [List.forall_mem_cons]
    exact ⟨Nat.le_refl _, fun t ht => Nat.le_trans hs (ih hrest t ht)⟩

/-- A span ends before all later ones begin. -/
theorem pairwise (h : Follow start stop spans) : spans.Pairwise fun s t => s.stop ≤ t.start := by
  induction spans generalizing start with
  | nil => exact List.Pairwise.nil
  | cons s spans ih =>
    obtain ⟨-, -, hrest⟩ := h
    exact List.pairwise_cons.mpr ⟨hrest.start_le, ih hrest⟩

/-- Spans with a place in common are the same span of the list. -/
theorem index_unique (h : Follow start stop spans) {i j o : Nat} {s t : Span}
    (hi : spans[i]? = some s) (hj : spans[j]? = some t) (hs : o ∈ s) (ht : o ∈ t) : i = j := by
  obtain ⟨hs₁, hs₂⟩ := mem_iff.mp hs
  obtain ⟨ht₁, ht₂⟩ := mem_iff.mp ht
  obtain ⟨hi', rfl⟩ := List.getElem?_eq_some_iff.mp hi
  obtain ⟨hj', rfl⟩ := List.getElem?_eq_some_iff.mp hj
  have hpairwise := List.pairwise_iff_getElem.mp h.pairwise
  rcases Nat.lt_trichotomy i j with hlt | heq | hlt
  · have hle := hpairwise i j hi' hj' hlt
    omega
  · exact heq
  · have hle := hpairwise j i hj' hi' hlt
    omega

/-- The spans cover everything from the start to the stop. -/
theorem exists_mem_iff (h : Follow start stop spans) {o : Nat} :
    (∃ s ∈ spans, o ∈ s) ↔ start ≤ o ∧ o < stop := by
  induction spans generalizing start with
  | nil =>
    obtain rfl : start = stop := h
    simp only [List.not_mem_nil, false_and, exists_false, false_iff]
    omega
  | cons s spans ih =>
    obtain ⟨rfl, hs, hrest⟩ := h
    have hle := hrest.le
    rw [List.exists_mem_cons_iff, ih hrest, mem_iff]
    omega

theorem sum_length (h : Follow start stop spans) :
    start + (spans.map (·.length)).sum = stop := by
  induction spans generalizing start with
  | nil => exact h
  | cons s spans ih =>
    obtain ⟨rfl, hs, hrest⟩ := h
    have hlength : s.length = s.stop - s.start := rfl
    have hsum := ih hrest
    rw [List.map_cons, List.sum_cons, hlength]
    omega

end Follow

end Span

end HostGpu
