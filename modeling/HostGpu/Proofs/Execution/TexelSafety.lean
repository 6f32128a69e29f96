import HostGpu.Proofs.Session.Reachable

/-!
# Accesses stay in the views of descriptors

Shader code gives image instructions arbitrary coordinates.  Whatever they are, an access that is
made through the descriptor of a storage image touches only bytes of the plane that the descriptor
shows, from the first texel of its view on, and none through a descriptor that was never written.
Three facts meet here: accesses stay between the base and the limit of their pointer, the record of
an element is that of the view that the element keeps, and what is kept has its memory.
-/

namespace HostGpu

open Outcome Spirv Shader

/-- The identifier of a view. -/
def StorageView.id : StorageView → Nat
  | image v => v.id
  | buffer v => v.id

theorem StorageView.viewId?_resource (v : StorageView) : v.resource.viewId? = some v.id := by
  cases v <;> rfl

namespace Execution

variable {e : Environment} {s : State} {i : Instruction} {x : TexelAccess}

/-! ## What an access is made through -/

namespace TexelAccess

/-- The pointer of an access starts, and ends, with the plane of the record that it is made through.
-/
theorem Through.pointer_eq {a : DescriptorAddress} {stencil : Bool} (h : x.Through e s a stencil) :
    ∃ offsets, x.pointer =
      let start := (StoragePlane.ofRecord (e.storageRecord a) stencil).start
      { start with lanes := { start.lanes with offsets } } := by
  obtain ⟨r, p, k, rfl, ha, hp, hx⟩ := h
  simp only [Environment.texelPointer, bind_eq_ok, ha, Except.ok.injEq, exists_eq_left',
    pure_eq_ok] at hp
  obtain ⟨_, -, offsets, -, rfl⟩ := hp
  exact ⟨_, hx⟩

/-- The access stays in the bytes that a view shows, and the memory of the view is there. -/
structure In (x : TexelAccess) (v : StorageView) (stencil : Bool) (blocks : BlockTable) : Prop where
  memory : blocks.size? v.block = some v.blockBytes
  bytes : ∀ j ∈ x.touched, x.pointer.block = some v.block ∧ j < v.blockBytes ∧
    (v.region stencil).start ≤ j ∧ j < (v.region stencil).stop

/-- Through a plane of the record of a view, accesses stay in the region of the plane. -/
theorem Through.in_region {a : DescriptorAddress} {stencil : Bool} (h : x.Through e s a stencil)
    (hrule : x.rule ≠ .unchecked) {v : StorageView} (hv : v.Created)
    (hrecord : e.storageRecord a = v.record)
    (hmemory : s.machine.blocks.size? v.block = some v.blockBytes) :
    x.In v stencil s.machine.blocks := by
  refine ⟨hmemory, ?_⟩
  intro j hj
  obtain ⟨hlow, hhigh⟩ := LanePointer.touched_bounds hrule hj
  obtain ⟨offsets, hpointer⟩ := h.pointer_eq
  rw [hrecord] at hpointer
  rcases hv.valid.start_ofRecord_region stencil with hlimit | ⟨limit, hstart, hend, hroom⟩
  · -- there is no such plane, so that nothing is in bounds
    rw [hpointer] at hlow hhigh
    simp only [hlimit] at hlow hhigh
    omega
  · rw [hstart] at hpointer
    rw [hpointer] at hlow hhigh
    simp only [LanePointer.start] at hlow hhigh
    have hstop : j < (v.region stencil).stop := by
      rw [← hend]
      exact_mod_cast hhigh
    exact ⟨by rw [hpointer], by omega, hlow, hstop⟩

/-! ## Null descriptors -/

/-- The access touches nothing, and finds zeros in all lanes. -/
structure Null (x : TexelAccess) : Prop where
  touched : x.touched = ∅
  load : ∀ blocks, x.load blocks = .splat 0
  add : ∀ blocks value, x.pointer.atomicAdd blocks value x.mask = (.splat 0, blocks)

theorem null_of_pointer (hblock : x.pointer.block = none) (hlimit : x.pointer.lanes.limit = 0)
    (hrule : x.rule ≠ .unchecked) (hbytes : 0 < x.bytes) : x.Null where
  touched := by
    refine Set.eq_empty_iff_forall_notMem.mpr ?_
    intro j hj
    have hbounds := LanePointer.touched_bounds hrule hj
    omega
  load blocks := LanePointer.load_eq_zero hrule hlimit hbytes _
  add blocks value := by
    rw [TexelPointer.atomicAdd, LanePointer.atomicAdd_eq_zero hlimit]
    simp only [TexelPointer.putMemory, hblock]

/-- The pointer of an access through the null record. -/
theorem Through.null {a : DescriptorAddress} {stencil : Bool} (h : x.Through e s a stencil)
    (hrecord : e.storageRecord a = .null) :
    x.pointer.block = none ∧ x.pointer.lanes.limit = 0 := by
  obtain ⟨offsets, hpointer⟩ := h.pointer_eq
  rw [hpointer, hrecord]
  cases stencil <;> exact ⟨rfl, rfl⟩

end TexelAccess

/-- An image read all of whose words are zero. -/
theorem loadTexels_eq_zero {load : Environment.TexelLoad}
    (h : ∀ x ∈ TexelAccess.parts load.pointer e.active (texelRule s.machine.device) load.sizes,
      x.load s.machine.blocks = .splat 0) : e.loadTexels s load = .splat .zero := by
  have hzero (n : Nat) (words : List WordLanes) (hwords : ∀ w ∈ words, w = .splat 0) :
      (words[n]?).getD (.splat 0) = .splat 0 := by
    cases hn : words[n]? with
    | none => rfl
    | some w => exact hwords w (List.mem_of_getElem? hn)
  refine Lanes.ext_get ?_
  intro l
  rw [Environment.loadTexels, TexelPointer.loadWords_eq_map, PackedTexel.ofWords]
  simp only [Lanes.get_ofFn, Lanes.get_splat]
  have hwords : ∀ w ∈ (TexelAccess.parts load.pointer e.active (texelRule s.machine.device)
      load.sizes).map (·.load s.machine.blocks), w = .splat 0 := by
    intro w hw
    obtain ⟨x, hx, rfl⟩ := List.mem_map.mp hw
    exact h x hx
  simp only [hzero _ _ hwords, Lanes.get_splat]
  rfl

/-- If the instruction is an image read, all packed texels that it loads are zero. -/
def ReadsZero (e : Environment) (s : State) (i : Instruction) : Prop :=
  ∀ load, i.op? = some .opImageRead → e.imageLoad s i = .ok load →
    e.loadTexels s load = .splat .zero

/-- An image read one of whose words is accessed through a null pointer gives zeros. -/
theorem Performs.readsZero (hx : Performs e s i x) (hlimit : x.pointer.lanes.limit = 0) :
    ReadsZero e s i := by
  intro load hop hload
  have hpointer : load.pointer.lanes.limit = 0 := by
    cases hx with
    | imageRead _ hload' hx =>
      obtain rfl : load = _ := Except.ok.inj (hload.symm.trans hload')
      obtain ⟨k, n, -, -, rfl⟩ := TexelAccess.exists_advance_of_mem_parts hx
      exact hlimit
    | imageWrite hop' | load hop' | store hop' | add hop' => cases hop.symm.trans hop'
  refine loadTexels_eq_zero ?_
  intro y hy
  have hperforms : Performs e s i y := .imageRead hop hload hy
  have hlimit' : y.pointer.lanes.limit = 0 := by
    obtain ⟨k, n, -, -, rfl⟩ := TexelAccess.exists_advance_of_mem_parts hy
    exact hpointer
  exact LanePointer.load_eq_zero hperforms.rule_ne_unchecked hlimit' hperforms.bytes_pos _

/-! ## What instructions read and change -/

/-- The instruction reads the same of texels when memory is replaced by other blocks. -/
structure SameReads (e : Environment) (s : State) (i : Instruction) (blocks : BlockTable) :
    Prop where
  imageRead : i.op? = some .opImageRead → e.imageRead s i = e.imageRead (s.withBlocks blocks) i
  load : ∀ id p type, i.op? = some .opLoad → i.id 3 = .ok id → s.target id = .ok (.texel p) →
    loadedValue e s type (.texel p) = loadedValue e (s.withBlocks blocks) type (.texel p)
  add : ∀ id p value, i.op? = some .opAtomicIAdd → i.id 3 = .ok id → s.target id = .ok (.texel p) →
    (atomicAdd e s value (.texel p)).map (·.1) =
      (atomicAdd e (s.withBlocks blocks) value (.texel p)).map (·.1)

/-- An instruction reads only bytes that its accesses touch. -/
theorem sameReads_of_byte_eq {blocks : BlockTable} (hsizes : SameSizes s.machine.blocks blocks)
    (h : ∀ x block j, Performs e s i x → x.Touches block j →
      s.machine.blocks.byte block j = blocks.byte block j) : SameReads e s i blocks where
  imageRead hop := imageRead_congr hop h
  load _ _ type hop hid hp := loadedValue_congr hop hid hp type h
  add _ _ value hop hid hp := atomicAdd_congr hop hid hp value (fun block => (hsizes block).symm) h

/-! ## Safety -/

/-- **Accesses to texels stay in the views of their descriptors.**  After any commands of a session
and in any state that a run visits, an instruction changes and reads only bytes of texels that its
accesses touch, and each access is made through a descriptor.  If the descriptor is an element of a
binding with storage records, either it shows a view that lives and whose memory is there, and the
access stays between the first texel of the view and the end of the plane that is used; or it keeps
nothing, and the access touches nothing and finds zeros.  The latter is so for an element that no
command has written. -/
theorem texel_accesses_stay_in_view (commands : List Session.Command) {e : Environment}
    {inputs : InterfaceValues} {machine : Machine} {s : State} {offset : Nat}
    (hsets : e.sets = (Session.after commands).store.sets)
    (hblocks : machine.blocks = (Session.after commands).store.blocks)
    (hs : Visits e inputs machine s offset) (i : Instruction) :
    (∀ block j,
      ((step e i).run s).2.machine.blocks.byte block j ≠ s.machine.blocks.byte block j →
        ∃ x, Performs e s i x ∧ x.Touches block j) ∧
    (∀ blocks, SameSizes s.machine.blocks blocks → (∀ x block j, Performs e s i x →
        x.Touches block j → s.machine.blocks.byte block j = blocks.byte block j) →
      SameReads e s i blocks) ∧
    ∀ x, Performs e s i x → (∃ a stencil, x.Through e s a stencil) ∧
      ∀ a stencil (d : DescriptorSet) k b, x.Through e s a stencil → e.sets[a.set]? = some d →
        d.layout.Element k b a.offset → b.kind.record? = some .storage →
        ((∃ v : StorageView, d.resources.find? k = some [v.resource] ∧
            e.storageRecord a = v.record ∧ v.Created ∧
            v.id ∈ ((Session.after commands).store.alive (Session.after commands).roots).views ∧
            x.In v stencil s.machine.blocks) ∨
          d.resources.find? k = none ∧ x.Null ∧ ReadsZero e s i) ∧
        (¬ Session.Written commands a.set k → x.Null ∧ ReadsZero e s i) := by
  have hsound := Session.sound_after commands
  obtain ⟨hsizes, hsourced⟩ := hs.sameSizes_and_sourced
  refine ⟨fun block j => exists_performs_of_byte_ne, fun blocks => sameReads_of_byte_eq,
    fun x hx => ⟨hx.exists_through hsourced, ?_⟩⟩
  intro a stencil d k b hthrough hd helement hkind
  have hrecord : e.storageRecord a = StorageRecord.read d.data a.offset := by
    rw [Environment.storageRecord, Environment.setData, hd, Option.elim_some]
  rw [hsets] at hd
  have hset := hsound.sets a.set d hd
  have hrule := hx.rule_ne_unchecked
  rcases hset.consistent k b a.offset helement hkind with ⟨hnone, hnull⟩ | ⟨v, hfind, hshows⟩
  · -- the element keeps nothing
    obtain ⟨hblock, hlimit⟩ := hthrough.null (hrecord.trans hnull)
    have hzero := TexelAccess.null_of_pointer hblock hlimit hrule hx.bytes_pos
    exact ⟨.inr ⟨hnone, hzero, hx.readsZero hlimit⟩, fun _ => ⟨hzero, hx.readsZero hlimit⟩⟩
  · -- the element keeps a view, which lives and has its memory
    have hkept : v.resource ∈ d.resources.all :=
      ResourceTable.mem_all_of_find? hfind (List.mem_singleton.mpr rfl)
    have hbacked := Resource.backed_resource.mp (hset.kept _ hkept)
    have hholds : (Session.after commands).store.Holds (Session.after commands).roots v.resource :=
      .inr ⟨a.set, Session.live_after commands hd, d, hd, hkept⟩
    have hmemory : s.machine.blocks.size? v.block = some v.blockBytes := by
      rw [hsizes, hblocks, hbacked.memory]
    refine ⟨.inl ⟨v, hfind, hrecord.trans hshows, hbacked.created,
      Store.view_mem_alive hholds v.viewId?_resource, ?_⟩, fun hwritten => ?_⟩
    · exact hthrough.in_region hrule hbacked.created (hrecord.trans hshows) hmemory
    · rw [hsound.unwritten a.set d hd k hwritten] at hfind
      cases hfind

namespace StoreOne

/-- A module with one storage image, a line of words, that stores one to the second texel. -/
def words : List UInt32 := [
  0x07230203, 0x00010000, 0, 10, 0,
  0x0004000F, 5, 8, 0, -- the entry point
  0x00040047, 6, 34, 0, 0x00040047, 6, 33, 0, -- set 0 and binding 0
  0x00040015, 1, 32, 0, 0x00090019, 2, 1, 0, 0, 0, 0, 2, 33, -- words, and an image of words
  0x00040020, 3, 0, 2, 0x00040020, 4, 11, 1, -- pointers to these
  0x0004002B, 1, 5, 1, 0x0004002B, 1, 11, 0, -- one and zero
  0x0004003B, 3, 6, 0, -- the image
  0x00050036, 9, 8, 0, 10, 0x000200F8, 12,
  0x0006003C, 4, 7, 6, 5, 11, -- a pointer to the texel
  0x0003003E, 7, 5, -- the store
  0x000100FD, 0x00010038]

/-- A session that gives the module an image of four texels.  All names are empty. -/
def commands : List Session.Command := [
  .device "" true none,
  .image "" "" { kind := .dim1, format := .r32Uint, extent := ⟨4, 1, 1⟩ },
  .view "" "" { preset := .wholeImage },
  .setLayout "" "" [{ number := 0, kind := .storageImage }],
  .set "" "",
  .update "" [{ binding := 0, elements := .views [""] }] [],
  .pipelineLayout "" "" [""],
  .shader "" "" words,
  .routine "" "" "" {},
  .bind "" "" 0]

def routine : Routine :=
  ((Session.after commands).routines[""]?).get (by decide +kernel)

def environment : Environment :=
  { routine.toSetup with sets := (Session.after commands).store.sets }

def machine : Machine where
  blocks := (Session.after commands).store.blocks
  device := {}
  cache := []
  events := []

/-- The state after some instructions. -/
def state (list : List Instruction) : State :=
  list.foldl (fun s i => ((step environment i).run s).2)
    ((environment.declarations.globals.forM (environment.initGlobal ∅)).run { machine }).2

/-- The label, and the instruction that computes the pointer. -/
def label : Instruction := ⟨55, [0x000200F8, 12]⟩
def pointer : Instruction := ⟨57, [0x0006003C, 4, 7, 6, 5, 11]⟩

theorem visits_pointer : Visits environment ∅ machine (state [label, pointer]) 63 := by
  have hentry : environment.shader.entryBlock = 55 := by decide +kernel
  have hglobals : (environment.declarations.globals.forM (environment.initGlobal ∅)).run
      { machine } = (.ok (), state []) := Prod.ext (by decide +kernel) rfl
  have hstart : Visits environment ∅ machine (state []) 55 := hentry ▸ .start hglobals
  have hlabel : (step environment label).run (state []) = (.ok .next, state [label]) :=
    Prod.ext (by decide +kernel) rfl
  have hpointer : (step environment pointer).run (state [label]) =
      (.ok .next, state [label, pointer]) := Prod.ext (by decide +kernel) rfl
  exact .next (.next hstart (by decide +kernel) hlabel) (by decide +kernel) hpointer

end StoreOne

open StoreOne in
/-- The store touches a byte of the second texel, in the memory of the image. -/
theorem texel_store_stays_in_line : ∃ x, ∃ v : StorageView,
    Performs environment (state [label, pointer]) ⟨63, [0x0003003E, 7, 5]⟩ x ∧ x.Touches 2 4 ∧
      v.blockBytes = 16 ∧ x.In v false (state [label, pointer]).machine.blocks := by
  have htarget : (state [label, pointer]).target 7 =
      .ok (.texel ⟨some 2, ⟨0, 16, .splat 4⟩⟩) := by decide +kernel
  let x : TexelAccess := ⟨⟨some 2, ⟨0, 16, .splat 4⟩⟩, 4, environment.storing,
    texelRule (state [label, pointer]).machine.device⟩
  have hperforms : Performs environment (state [label, pointer]) ⟨63, [0x0003003E, 7, 5]⟩ x :=
    .store (by decide) rfl htarget
  have htouches : x.Touches 2 4 :=
    ⟨rfl, 0, by decide +kernel, by decide +kernel, by decide +kernel⟩
  have hthrough : x.Through environment (state [label, pointer]) ⟨5, 0⟩ false := by
    refine ⟨⟨6, ⟨1, .dim1D, false, false, .r32ui⟩, ⟨[.splat 1], true⟩, some 11, 4, false, .nullify⟩,
      x.pointer, 0, rfl, ?_, ?_, (TexelPointer.advance_zero _).symm⟩
    · decide +kernel
    · decide +kernel
  have hset : (environment.sets[5]?).isSome = true := by decide +kernel
  obtain ⟨d, hd⟩ := Option.isSome_iff_exists.mp hset
  have hlayout : (environment.sets[5]?).map (·.layout) =
      some ⟨4, 1, [{ number := 0, kind := .storageImage }]⟩ := by decide +kernel
  have hkept : (environment.sets[5]?).all (·.resources.find? ⟨0, 0⟩ ≠ none) = true := by
    decide +kernel
  rw [hd, Option.map_some, Option.some.injEq] at hlayout
  rw [hd, Option.all_some, decide_eq_true_eq] at hkept
  have helement : d.layout.Element ⟨0, 0⟩ { number := 0, kind := .storageImage } 0 := by
    rw [hlayout]
    exact ⟨rfl, by decide, rfl⟩
  have hsafe := (texel_accesses_stay_in_view commands rfl rfl visits_pointer _).2.2 x hperforms
  rcases (hsafe.2 ⟨5, 0⟩ false d ⟨0, 0⟩ _ hthrough hd helement rfl).1 with
    ⟨v, -, -, -, -, hin⟩ | ⟨hnone, -⟩
  · refine ⟨x, v, hperforms, htouches, ?_, hin⟩
    have hblock : v.block = 2 := (Option.some.inj (hin.bytes 4 htouches.2).1).symm
    have hsize : (state [label, pointer]).machine.blocks.size? 2 = some 16 := by decide +kernel
    have hmemory := hin.memory
    rw [hblock, hsize] at hmemory
    exact (Option.some.inj hmemory).symm
  · exact absurd hnone hkept

end Execution

end HostGpu
