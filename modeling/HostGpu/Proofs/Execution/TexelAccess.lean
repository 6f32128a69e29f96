import HostGpu.Execution.Step
import HostGpu.Proofs.Execution.ImageAccess
import HostGpu.Proofs.Memory.Footprint

/-!
# Accesses to texels

An image read or write, and a load, a store or an addition through a texel pointer, access the
texels of their lanes word by word (`TexelAccess`, `Performs`).  The bytes that these accesses touch
are all that a run reads of texels and all that it changes: what is loaded and what an addition
finds depends on touched bytes only, and an instruction leaves every byte that it does not touch.
-/

namespace HostGpu

open Outcome Spirv Shader

/-! ## Bytes of blocks -/

namespace BlockTable

/-- A byte of a block, zero where there is none. -/
def byte (blocks : BlockTable) (block i : Nat) : UInt8 := (blocks[block]?.getD (.zeroed 0)).byte i

/-- The size of a block. -/
def size? (blocks : BlockTable) (block : Nat) : Option Nat := blocks[block]?.map (·.size)

end BlockTable

namespace Execution

namespace TexelPointer

variable {p : TexelPointer} {blocks : BlockTable} {m : Memory}

theorem byte_memory {block : Nat} (hp : p.block = some block) (i : Nat) :
    (p.memory blocks).byte i = blocks.byte block i := by
  rw [memory, hp]
  rfl

/-- Replacing memory by memory of the same size keeps the sizes of all blocks. -/
theorem size?_putMemory (h : m.size = (p.memory blocks).size) (block : Nat) :
    (p.putMemory blocks m).size? block = blocks.size? block := by
  rw [putMemory]
  cases hp : p.block with
  | none => rfl
  | some b =>
    by_cases hmem : blocks.contains b = true
    · simp only [hmem, if_true, BlockTable.size?, Std.TreeMap.getElem?_insert]
      by_cases hb : b = block
      · subst hb
        rw [Std.TreeMap.contains_eq_isSome_getElem?] at hmem
        obtain ⟨old, hold⟩ := Option.isSome_iff_exists.mp hmem
        simp [h, memory, hp, hold]
      · simp [hb]
    · simp [hmem]

/-- Replacing memory changes only bytes that differ. -/
theorem byte_putMemory {block i : Nat}
    (h : p.block = some block → m.byte i = (p.memory blocks).byte i) :
    (p.putMemory blocks m).byte block i = blocks.byte block i := by
  rw [putMemory]
  cases hp : p.block with
  | none => rfl
  | some b =>
    by_cases hmem : blocks.contains b = true
    · simp only [hmem, if_true, BlockTable.byte, Std.TreeMap.getElem?_insert]
      by_cases hb : b = block
      · subst hb
        simpa [byte_memory hp, BlockTable.byte] using h hp
      · simp [hb]
    · simp [hmem]

end TexelPointer

/-! ## Accesses -/

/-- An access to a word of texels in every lane that is on and in bounds. -/
structure TexelAccess where
  pointer : TexelPointer
  /-- The bytes of the word. -/
  bytes : Nat
  mask : WordLanes
  rule : BoundsRule

namespace TexelAccess

/-- The lanes that make the access. -/
def enabled (x : TexelAccess) : WordLanes := x.pointer.lanes.accessMask x.bytes x.mask x.rule

/-- The bytes of the block of the pointer that the access touches. -/
def touched (x : TexelAccess) : Set Int := x.pointer.lanes.touched x.bytes x.enabled

/-- Whether the access touches a byte of a block. -/
def Touches (x : TexelAccess) (block i : Nat) : Prop :=
  x.pointer.block = some block ∧ (i : Int) ∈ x.touched

/-- The words that are loaded. -/
def load (x : TexelAccess) (blocks : BlockTable) : WordLanes :=
  x.pointer.load blocks x.bytes x.mask x.rule

/-- The blocks after words were stored. -/
def store (x : TexelAccess) (blocks : BlockTable) (value : WordLanes) : BlockTable :=
  x.pointer.store blocks x.bytes value x.mask x.rule

/-- The accesses by which whole texels are loaded or stored, one for each word. -/
def parts (p : TexelPointer) (mask : WordLanes) (rule : BoundsRule) : List Nat → List TexelAccess
  | [] => []
  | n :: sizes => ⟨p, n, mask, rule⟩ :: parts (p.advance n) mask rule sizes

/-- The words of a texel lie within it. -/
theorem exists_advance_of_mem_parts {p : TexelPointer} {mask : WordLanes} {rule : BoundsRule}
    {sizes : List Nat} {x : TexelAccess} (h : x ∈ parts p mask rule sizes) :
    ∃ k n, n ∈ sizes ∧ k + n ≤ sizes.sum ∧ x = ⟨p.advance k, n, mask, rule⟩ := by
  induction sizes generalizing p with
  | nil => exact absurd h List.not_mem_nil
  | cons n sizes ih =>
    rw [List.sum_cons]
    rcases List.mem_cons.mp h with rfl | h
    · exact ⟨0, n, List.mem_cons_self, by omega, by rw [TexelPointer.advance_zero]⟩
    · obtain ⟨k, m, hm, hroom, rfl⟩ := ih h
      refine ⟨n + k, m, List.mem_cons_of_mem _ hm, by omega, ?_⟩
      rw [TexelPointer.advance_advance]

variable {x : TexelAccess} {blocks blocks' : BlockTable}

/-- Loads depend on the bytes that they touch. -/
theorem load_congr (hrule : x.rule ≠ .unchecked)
    (h : ∀ block i, x.Touches block i → blocks.byte block i = blocks'.byte block i) :
    x.load blocks = x.load blocks' := by
  refine LanePointer.load_congr hrule ?_
  intro i hi
  cases hp : x.pointer.block with
  | none => simp [TexelPointer.memory, hp]
  | some block =>
    rw [TexelPointer.byte_memory hp, TexelPointer.byte_memory hp]
    exact h block i ⟨hp, hi⟩

/-- Stores change only bytes that they touch. -/
theorem byte_store (hrule : x.rule ≠ .unchecked) {value : WordLanes} {block i : Nat}
    (h : ¬ x.Touches block i) : (x.store blocks value).byte block i = blocks.byte block i :=
  TexelPointer.byte_putMemory fun hp =>
    LanePointer.byte_store_of_not_touched hrule fun hi => h ⟨hp, hi⟩

theorem size?_store (value : WordLanes) (block : Nat) :
    (x.store blocks value).size? block = blocks.size? block :=
  TexelPointer.size?_putMemory (LanePointer.size_store ..) block

end TexelAccess

namespace TexelPointer

variable {p : TexelPointer} {blocks : BlockTable} {mask : WordLanes} {rule : BoundsRule}

theorem loadWords_eq_map (sizes : List Nat) :
    p.loadWords blocks mask rule sizes =
      (TexelAccess.parts p mask rule sizes).map (·.load blocks) := by
  induction sizes generalizing p with
  | nil => rfl
  | cons n sizes ih =>
    rw [loadWords, ih]
    rfl

theorem byte_storeWords (hrule : rule ≠ .unchecked) {sizes : List Nat} {words : List WordLanes}
    {block i : Nat} (h : ∀ x ∈ TexelAccess.parts p mask rule sizes, ¬ x.Touches block i) :
    (p.storeWords blocks mask rule sizes words).byte block i = blocks.byte block i := by
  induction sizes generalizing p blocks words with
  | nil => rfl
  | cons n sizes ih =>
    cases words with
    | nil => rfl
    | cons w words =>
      rw [TexelAccess.parts, List.forall_mem_cons] at h
      rw [storeWords, ih h.2]
      exact TexelAccess.byte_store (x := ⟨p, n, mask, rule⟩) hrule h.1

theorem size?_storeWords (sizes : List Nat) (words : List WordLanes) (block : Nat) :
    (p.storeWords blocks mask rule sizes words).size? block = blocks.size? block := by
  induction sizes generalizing p blocks words with
  | nil => rfl
  | cons n sizes ih =>
    cases words with
    | nil => rfl
    | cons w words =>
      rw [storeWords, ih]
      exact TexelAccess.size?_store (x := ⟨p, n, mask, rule⟩) w block

theorem size?_atomicAdd (value : WordLanes) (block : Nat) :
    (p.atomicAdd blocks value mask).2.size? block = blocks.size? block :=
  size?_putMemory (LanePointer.size_atomicAdd _) block

theorem byte_atomicAdd {value : WordLanes} {block i : Nat}
    (h : ¬ TexelAccess.Touches ⟨p, 4, mask, .nullify⟩ block i) :
    (p.atomicAdd blocks value mask).2.byte block i = blocks.byte block i :=
  byte_putMemory fun hp => LanePointer.byte_atomicAdd_of_not_touched fun hi => h ⟨hp, hi⟩

/-- What an addition finds depends on the bytes that it touches. -/
theorem atomicAdd_congr {blocks' : BlockTable} {value : WordLanes}
    (hsize : ∀ block, blocks.size? block = blocks'.size? block)
    (h : ∀ block i, TexelAccess.Touches ⟨p, 4, mask, .nullify⟩ block i →
      blocks.byte block i = blocks'.byte block i) :
    (p.atomicAdd blocks value mask).1 = (p.atomicAdd blocks' value mask).1 := by
  cases hp : p.block with
  | none => simp [atomicAdd, memory, hp]
  | some block =>
    refine LanePointer.atomicAdd_congr ?_ fun i hi => ?_
    · have hsame := hsize block
      simp only [BlockTable.size?] at hsame
      simp only [memory, hp, Option.bind_some]
      rw [← Option.getD_map Memory.size, ← Option.getD_map Memory.size, hsame]
    · rw [byte_memory hp, byte_memory hp]
      exact h block i ⟨hp, hi⟩

end TexelPointer

/-! ## Instructions -/

/-- The accesses to texels that an instruction makes in a state. -/
inductive Performs (e : Environment) (s : State) (i : Instruction) : TexelAccess → Prop
  | imageRead {load : Environment.TexelLoad} {x : TexelAccess} (hop : i.op? = some .opImageRead)
      (hload : e.imageLoad s i = .ok load)
      (hx : x ∈ TexelAccess.parts load.pointer e.active (texelRule s.machine.device) load.sizes) :
      Performs e s i x
  | imageWrite {store : Environment.TexelStore} {x : TexelAccess}
      (hop : i.op? = some .opImageWrite) (hstore : e.imageStore s i = .ok store)
      (hx : x ∈ TexelAccess.parts store.pointer e.storing (texelRule s.machine.device)
        store.sizes) : Performs e s i x
  | load {id : Nat} {p : TexelPointer} (hop : i.op? = some .opLoad) (hid : i.id 3 = .ok id)
      (hp : s.target id = .ok (.texel p)) :
      Performs e s i ⟨p, 4, e.active, texelRule s.machine.device⟩
  | store {id : Nat} {p : TexelPointer} (hop : i.op? = some .opStore) (hid : i.id 1 = .ok id)
      (hp : s.target id = .ok (.texel p)) :
      Performs e s i ⟨p, 4, e.storing, texelRule s.machine.device⟩
  | add {id : Nat} {p : TexelPointer} (hop : i.op? = some .opAtomicIAdd) (hid : i.id 3 = .ok id)
      (hp : s.target id = .ok (.texel p)) : Performs e s i ⟨p, 4, e.storing, .nullify⟩

theorem TexelPointer.pos_of_mem_accessSizes {texelSize n : Nat} {sizes : List Nat}
    (h : accessSizes texelSize = .ok sizes) (hn : n ∈ sizes) : 0 < n := by
  unfold accessSizes at h
  split at h <;> cases h <;> simp at hn <;> omega

namespace Environment

variable {e : Environment} {s : State} {i : Instruction}

/-- A load of texels is made through a pointer to the texels of some request. -/
theorem imageLoad_eq_ok {load : TexelLoad} (h : e.imageLoad s i = .ok load) :
    (∃ r, e.texelPointer s r = .ok load.pointer) ∧
      ∃ size, TexelPointer.accessSizes size = .ok load.sizes := by
  simp only [imageLoad, bind_eq_ok, pure_eq_ok] at h
  obtain ⟨_, -, _, -, _, -, _, -, _, -, _, -, _, -, _, -, pointer, hp, sizes, hsizes, rfl⟩ := h
  exact ⟨⟨_, hp⟩, _, hsizes⟩

/-- A store of texels is made through a pointer to the texels of some request. -/
theorem imageStore_eq_ok {store : TexelStore} (h : e.imageStore s i = .ok store) :
    (∃ r, e.texelPointer s r = .ok store.pointer) ∧
      ∃ size, TexelPointer.accessSizes size = .ok store.sizes := by
  simp only [imageStore, bind_eq_ok] at h
  obtain ⟨_, -, _, -, _, -, _, -, _, -, _, -, _, -, _, -, h⟩ := h
  split at h
  · split at h
    · simp only [bind_eq_ok, pure_eq_ok] at h
      obtain ⟨pointer, hp, sizes, hsizes, rfl⟩ := h
      exact ⟨⟨_, hp⟩, _, hsizes⟩
    · cases h
  · cases h

end Environment

namespace Performs

variable {e : Environment} {s : State} {i : Instruction} {x : TexelAccess}

/-- All accesses to texels are checked. -/
theorem rule_ne_unchecked (h : Performs e s i x) : x.rule ≠ .unchecked := by
  have hrule := texelRule_ne_unchecked s.machine.device
  cases h with
  | imageRead hop hload hx =>
    obtain ⟨k, n, -, -, rfl⟩ := TexelAccess.exists_advance_of_mem_parts hx
    exact hrule
  | imageWrite hop hstore hx =>
    obtain ⟨k, n, -, -, rfl⟩ := TexelAccess.exists_advance_of_mem_parts hx
    exact hrule
  | load hop hid hp => exact hrule
  | store hop hid hp => exact hrule
  | add hop hid hp => exact fun h => by cases h

theorem bytes_pos (h : Performs e s i x) : 0 < x.bytes := by
  cases h with
  | imageRead hop hload hx =>
    obtain ⟨k, n, hn, -, rfl⟩ := TexelAccess.exists_advance_of_mem_parts hx
    obtain ⟨-, size, hsizes⟩ := Environment.imageLoad_eq_ok hload
    exact TexelPointer.pos_of_mem_accessSizes hsizes hn
  | imageWrite hop hstore hx =>
    obtain ⟨k, n, hn, -, rfl⟩ := TexelAccess.exists_advance_of_mem_parts hx
    obtain ⟨-, size, hsizes⟩ := Environment.imageStore_eq_ok hstore
    exact TexelPointer.pos_of_mem_accessSizes hsizes hn
  | load hop hid hp => exact Nat.zero_lt_succ 3
  | store hop hid hp => exact Nat.zero_lt_succ 3
  | add hop hid hp => exact Nat.zero_lt_succ 3

end Performs

/-! ### What instructions read -/

/-- The state with other memory. -/
def State.withBlocks (s : State) (blocks : BlockTable) : State :=
  { s with machine := { s.machine with blocks } }

/-- Where texels are loaded from does not depend on memory. -/
theorem Environment.imageLoad_withBlocks (e : Environment) (s : State) (blocks : BlockTable)
    (i : Instruction) : e.imageLoad (s.withBlocks blocks) i = e.imageLoad s i := rfl

variable {e : Environment} {s : State} {i : Instruction} {blocks : BlockTable}

/-- What an image read gives depends on the bytes that it touches. -/
theorem imageRead_congr (hop : i.op? = some .opImageRead)
    (h : ∀ x block j, Performs e s i x → x.Touches block j →
      s.machine.blocks.byte block j = blocks.byte block j) :
    e.imageRead s i = e.imageRead (s.withBlocks blocks) i := by
  have htexels : ∀ load, e.imageLoad s i = .ok load →
      e.loadTexels s load = e.loadTexels (s.withBlocks blocks) load := by
    intro load hload
    rw [Environment.loadTexels, Environment.loadTexels, TexelPointer.loadWords_eq_map,
      TexelPointer.loadWords_eq_map]
    refine congrArg PackedTexel.ofWords (List.map_congr_left fun x hx => ?_)
    have hperforms : Performs e s i x := .imageRead hop hload hx
    exact TexelAccess.load_congr hperforms.rule_ne_unchecked fun block j => h x block j hperforms
  rw [Environment.imageRead, Environment.imageRead, Environment.imageLoad_withBlocks]
  cases hload : e.imageLoad s i with
  | error f => simp only [error_bind]
  | ok load => simp only [ok_bind, htexels load hload]

/-- What a load through a texel pointer gives depends on the bytes that it touches. -/
theorem loadedValue_congr (hop : i.op? = some .opLoad) {id : Nat} (hid : i.id 3 = .ok id)
    {p : TexelPointer} (hp : s.target id = .ok (.texel p)) (type : TypeInfo)
    (h : ∀ x block j, Performs e s i x → x.Touches block j →
      s.machine.blocks.byte block j = blocks.byte block j) :
    loadedValue e s type (.texel p) = loadedValue e (s.withBlocks blocks) type (.texel p) := by
  have hperforms : Performs e s i _ := .load hop hid hp
  have hload := TexelAccess.load_congr hperforms.rule_ne_unchecked fun block j =>
    h _ block j hperforms
  exact congrArg (fun words => Except.ok (Value.components [words])) hload

/-- What an addition through a texel pointer finds depends on the bytes that it touches. -/
theorem atomicAdd_congr (hop : i.op? = some .opAtomicIAdd) {id : Nat} (hid : i.id 3 = .ok id)
    {p : TexelPointer} (hp : s.target id = .ok (.texel p)) (value : WordLanes)
    (hsize : ∀ block, s.machine.blocks.size? block = blocks.size? block)
    (h : ∀ x block j, Performs e s i x → x.Touches block j →
      s.machine.blocks.byte block j = blocks.byte block j) :
    (atomicAdd e s value (.texel p)).map (·.1) =
      (atomicAdd e (s.withBlocks blocks) value (.texel p)).map (·.1) := by
  have hperforms : Performs e s i _ := .add hop hid hp
  have hfound : (p.atomicAdd s.machine.blocks value e.storing).1 =
      (p.atomicAdd blocks value e.storing).1 :=
    TexelPointer.atomicAdd_congr hsize fun block j => h _ block j hperforms
  exact congrArg Except.ok hfound

end Execution

end HostGpu
