import HostGpu.Proofs.Execution.Run
import HostGpu.Proofs.Number.Word

/-!
# Lanes that store to memory

A group of lanes covers an area of which only a part may be drawn.  Lanes that are not active, and
helper lanes, which only serve their neighbours, take every way through a shader that the others
take, but store nothing.  A byte of memory that a run changes therefore belongs to a texel, or to a
word, that an active lane addresses that is no helper (`exists_laneWrites_of_run`).
-/

namespace HostGpu

open Outcome Spirv Shader

/-! ## Masks -/

namespace Setup

/-- Helper lanes are given by a mask: all bits of a lane are set, or none. -/
def HelpersMasked (s : Setup) : Prop := ∀ l, s.helper.get l = 0 ∨ s.helper.get l = 0xFFFFFFFF

instance (s : Setup) : Decidable s.HelpersMasked :=
  inferInstanceAs (Decidable (∀ l, s.helper.get l = 0 ∨ s.helper.get l = 0xFFFFFFFF))

/-- **Lanes that store** are active and no helpers. -/
theorem active_of_storing {s : Setup} (hhelper : s.HelpersMasked) {l : Lane}
    (h : s.storing.get l ≠ 0) : s.active.get l ≠ 0 ∧ s.helper.get l = 0 := by
  rw [storing, Lanes.and, Lanes.get_zipWith, Lanes.not, Lanes.get_map] at h
  constructor
  · intro hactive
    rw [hactive, UInt32.zero_and] at h
    exact h rfl
  · rcases hhelper l with hzero | hones
    · exact hzero
    · rw [hones, show ~~~(0xFFFFFFFF : UInt32) = 0 from rfl, UInt32.and_zero] at h
      exact absurd rfl h

end Setup

/-! ## Bytes of a lane -/

/-- A lane that is in bounds after a step is in bounds where the step leads without wrapping. -/
theorem LanePointer.address_advance {p : LanePointer} {k n : Nat} {l : Lane} (hk : k < 2 ^ 31)
    (h : (p.advance (.splat (UInt32.ofNat k))).laneInBounds n l = true) :
    (p.advance (.splat (UInt32.ofNat k))).address l = p.address l + k := by
  obtain ⟨hnonneg, -⟩ := laneInBounds_iff.mp h
  simp only [distance, advance, Lanes.add, Lanes.get_zipWith, Lanes.get_splat] at hnonneg
  simp only [address, distance, advance, Lanes.add, Lanes.get_zipWith, Lanes.get_splat,
    Word.signed_add_ofNat_of_nonneg hk hnonneg, Int.add_assoc]

namespace Execution

namespace TexelPointer

/-- A byte of a block is one of the `n` bytes that a lane points to. -/
def Covers (p : TexelPointer) (n : Nat) (l : Lane) (block j : Nat) : Prop :=
  p.block = some block ∧ p.lanes.address l ≤ j ∧ j < p.lanes.address l + n

/-- A texel is accessed by words that make it up. -/
theorem sum_of_accessSizes {size : Nat} {sizes : List Nat} (h : accessSizes size = .ok sizes) :
    sizes.sum = size ∧ size ≤ 16 := by
  unfold accessSizes at h
  split at h <;> cases h <;> exact ⟨rfl, by decide⟩

variable {p : TexelPointer} {mask : WordLanes} {rule : BoundsRule} {block j : Nat}

/-- A byte that an access touches is one that some lane points to that makes the access. -/
theorem exists_covers_of_touches {x : TexelAccess} (hrule : x.rule ≠ .unchecked)
    (h : x.Touches block j) : ∃ l, x.mask.get l ≠ 0 ∧
      x.pointer.lanes.laneInBounds x.bytes l = true ∧ x.pointer.Covers x.bytes l block j := by
  obtain ⟨hblock, l, hon, hle, hlt⟩ := h
  have hmakes := (LanePointer.get_accessMask_ne_zero hrule).mp hon
  obtain ⟨hmask, hbounds⟩ := LanePointer.makes_iff.mp hmakes
  exact ⟨l, hmask, hbounds, hblock, hle, hlt⟩

/-- A byte of a word of a texel is a byte of the texel. -/
theorem exists_covers_of_mem_parts {size : Nat} {sizes : List Nat}
    (hsizes : accessSizes size = .ok sizes) {x : TexelAccess}
    (hx : x ∈ TexelAccess.parts p mask rule sizes) (hrule : x.rule ≠ .unchecked)
    (h : x.Touches block j) : ∃ l, mask.get l ≠ 0 ∧ p.Covers size l block j := by
  obtain ⟨hsum, hsmall⟩ := sum_of_accessSizes hsizes
  obtain ⟨l, hmask, hbounds, hblock, hle, hlt⟩ := exists_covers_of_touches hrule h
  obtain ⟨k, n, -, hroom, rfl⟩ := TexelAccess.exists_advance_of_mem_parts hx
  rw [hsum] at hroom
  have haddress : (p.advance k).lanes.address l = p.lanes.address l + k :=
    LanePointer.address_advance (by omega) hbounds
  simp only [haddress] at hle hlt
  exact ⟨l, hmask, hblock, by omega, by omega⟩

end TexelPointer

/-! ## Instructions -/

variable {e : Environment} {s : State} {i : Instruction} {block j : Nat}

/-- **An instruction stores to a byte of memory on behalf of a lane**: the byte belongs to the texel
of an image write that the lane addresses, or to the word that a store or an atomic addition through
a texel pointer addresses there. -/
inductive LaneWrites (e : Environment) (s : State) (i : Instruction) (l : Lane) (block j : Nat) :
    Prop
  | imageWrite {store : Environment.TexelStore} {size : Nat} (hop : i.op? = some .opImageWrite)
      (hstore : e.imageStore s i = .ok store)
      (hsizes : TexelPointer.accessSizes size = .ok store.sizes)
      (hcovers : store.pointer.Covers size l block j) : LaneWrites e s i l block j
  | store {id : Nat} {p : TexelPointer} (hop : i.op? = some .opStore) (hid : i.id 1 = .ok id)
      (hp : s.target id = .ok (.texel p)) (hcovers : p.Covers 4 l block j) :
      LaneWrites e s i l block j
  | add {id : Nat} {p : TexelPointer} (hop : i.op? = some .opAtomicIAdd) (hid : i.id 3 = .ok id)
      (hp : s.target id = .ok (.texel p)) (hcovers : p.Covers 4 l block j) :
      LaneWrites e s i l block j

/-- **What an instruction changes** in memory it stores on behalf of a lane that stores. -/
theorem exists_laneWrites_of_byte_ne
    (h : ((step e i).run s).2.machine.blocks.byte block j ≠ s.machine.blocks.byte block j) :
    ∃ l, e.storing.get l ≠ 0 ∧ LaneWrites e s i l block j := by
  have hstores : i.op?.all (!mayStoreTexels ·) = false := by
    refine Bool.eq_false_iff.mpr fun hkeeps => h ?_
    rw [(keeps_step hkeeps s).extends.blocks]
  obtain ⟨x, hx, htouches⟩ := exists_performs_of_byte_ne h
  have hrule := hx.rule_ne_unchecked
  cases hx with
  | imageRead hop | load hop =>
    rw [hop] at hstores
    cases hstores
  | imageWrite hop hstore hx =>
    obtain ⟨-, size, hsizes⟩ := Environment.imageStore_eq_ok hstore
    obtain ⟨l, hmask, hcovers⟩ :=
      TexelPointer.exists_covers_of_mem_parts hsizes hx hrule htouches
    exact ⟨l, hmask, .imageWrite hop hstore hsizes hcovers⟩
  | store hop hid hp =>
    obtain ⟨l, hmask, -, hcovers⟩ := TexelPointer.exists_covers_of_touches hrule htouches
    exact ⟨l, hmask, .store hop hid hp hcovers⟩
  | add hop hid hp =>
    obtain ⟨l, hmask, -, hcovers⟩ := TexelPointer.exists_covers_of_touches hrule htouches
    exact ⟨l, hmask, .add hop hid hp hcovers⟩

/-! ## Runs -/

/-- **What a run changes** in memory some instruction stores on behalf of a lane that stores. -/
theorem exists_laneWrites_of_run {inputs : InterfaceValues} {machine : Machine}
    (h : ((run e inputs).run { machine }).2.machine.blocks.byte block j ≠
      machine.blocks.byte block j) :
    ∃ s offset i l, Visits e inputs machine s offset ∧ e.shader.definition offset = .ok i ∧
      e.storing.get l ≠ 0 ∧ LaneWrites e s i l block j := by
  by_contra hnone
  refine h (run_keeps (I := fun s => s.machine.blocks.byte block j = machine.blocks.byte block j)
    ?_ ?_)
  · intro s offset i hs hi hbyte
    by_contra hne
    rw [← hbyte] at hne
    obtain ⟨l, hl, hwrites⟩ := exists_laneWrites_of_byte_ne hne
    exact hnone ⟨s, offset, i, l, hs, hi, hl, hwrites⟩
  · rw [(keeps_globals inputs { machine }).extends.blocks]

end Execution

end HostGpu
