import HostGpu.Proofs.Session.TexelBounds

/-!
# Alignment of atomic additions

An atomic addition through a texel pointer is made to words in memory, which have to be aligned.
The pointer starts with the first texel of a view, and a lane that is in bounds of a view of words
is a multiple of four bytes from there, whatever the coordinates are.  Views of images start at a
multiple of their texels.  A view of a buffer starts where its range does, and only the length of a
range is required to be a multiple of the texels; so the words of an addition are aligned exactly if
the range starts at a multiple of four (`Session.atomic_additions_are_aligned_like_views`).
-/

namespace HostGpu

open Outcome Execution Spirv Shader

/-- Views of images start at a multiple of their texels. -/
theorem StorageView.Valid.dvd_start_image {v : ImageView} (h : (StorageView.image v).Valid) :
    (StorageView.image v).texelSize ∣ (StorageView.image v).start := by
  have hv : v.Valid := h
  rw [StorageView.texelSize, hv.primaryFormat_blockSize]
  exact ImageView.dvd_offset hv.primaryAspect_mem

namespace Execution

/-- The pointer to the texels of a request goes to the plane of the record at an address. -/
theorem Environment.texelPointer_eq_ok {e : Environment} {s : State} {r : TexelRequest}
    {p : TexelPointer} {a : DescriptorAddress} (ha : s.descriptor r.image = .ok a)
    {plane : StoragePlane} (hplane : plane = .ofRecord (e.storageRecord a) r.stencil)
    (h : e.texelPointer s r = .ok p) : ∃ (c : TexelCoordinates) (offsets : WordLanes),
      c.offsets plane.layout (wordOf r.texelSize) r.rule = .ok offsets ∧
        p = plane.pointerAt offsets := by
  simp only [texelPointer, ha, ok_bind, bind_eq_ok, pure_eq_ok] at h
  obtain ⟨_, -, offsets, hoffsets, rfl⟩ := h
  subst hplane
  exact ⟨_, offsets, hoffsets, rfl⟩

/-- An atomic addition through a texel pointer accesses words in lanes that store. -/
theorem Performs.eq_of_add {e : Environment} {s : State} {i : Instruction} {x : TexelAccess}
    (hop : i.op? = some .opAtomicIAdd) (hx : Performs e s i x) :
    s.Holds x.pointer ∧ x = ⟨x.pointer, 4, e.storing, .nullify⟩ := by
  cases hx with
  | add _ hid hp => exact ⟨State.holds_of_target hp, rfl⟩
  | imageRead hop' | imageWrite hop' | load hop' | store hop' => cases hop.symm.trans hop'

end Execution

namespace Session

/-- **Words of atomic additions are aligned like the views that they are in.**  In any state that a
run visits, an atomic addition to texels is made through a pointer that was made for a descriptor.
If the descriptor shows a view whose texels are words, whatever the coordinates are, each lane that
makes the addition makes it in the block of the view; and as blocks are aligned, its word is aligned
exactly if the view starts at a multiple of four bytes.  Views of images always do. -/
theorem atomic_additions_are_aligned_like_views (commands : List Command) {e : Environment}
    {inputs : InterfaceValues} {machine : Machine} {s : State} {offset : Nat}
    (hs : Visits e inputs machine s offset) {i : Instruction} (hop : i.op? = some .opAtomicIAdd)
    {x : TexelAccess} (hx : Performs e s i x) :
    e.Points s x.pointer ∧
    ∀ r : TexelRequest, r.OfPointer → e.texelPointer s r = .ok x.pointer → ∀ b v,
      Shown commands e s r.image b v → v.texelSize = 4 →
      (∀ image, v = .image image → 4 ∣ v.start) ∧
      ∀ l, x.enabled.get l ≠ 0 → x.pointer.block = some v.block ∧
        ∀ base : Nat, 16 ∣ base → ((4 : Int) ∣ base + x.pointer.lanes.address l ↔ 4 ∣ v.start) := by
  obtain ⟨hholds, haccess⟩ := hx.eq_of_add hop
  refine ⟨hs.sameSizes_and_sourced.2 _ hholds, ?_⟩
  intro r hr hp b v hview htexel
  obtain ⟨hcreated, address, haddress, hrecord⟩ := hview.exists_record
  have hv := hcreated.valid
  refine ⟨?_, fun l hon => ?_⟩
  · rintro image rfl
    exact htexel ▸ hv.dvd_start_image
  · obtain ⟨c, offsets, hoffsets, hpointer⟩ := Environment.texelPointer_eq_ok haddress
      (congrArg (StoragePlane.ofRecord · r.stencil) hrecord.symm) hp
    rw [hr.stencil, hr.texelSize] at hoffsets
    rw [hr.stencil] at hpointer
    have hfits := hv.fits false
    have hfour : v.planeTexel false = 4 := htexel
    rw [hfour] at hfits
    have hmakes : x.pointer.lanes.makes 4 e.storing l = true := by
      have hrule : BoundsRule.nullify ≠ .unchecked := by decide
      rw [haccess] at hon
      exact (LanePointer.get_accessMask_ne_zero hrule).mp hon
    -- the lane is a multiple of four bytes from the first texel
    have hdvd : (4 : Int) ∣ x.pointer.lanes.distance l := by
      rw [hpointer] at hmakes ⊢
      exact (hfits.whole hoffsets).dvd l (LanePointer.makes_iff.mp hmakes).2
    have hstart := hv.start_ofRecord
    have hblock : x.pointer.block = some v.block := by
      rw [hpointer]
      exact congrArg TexelPointer.block hstart
    have hbase : x.pointer.lanes.base = v.start := by
      rw [hpointer]
      exact congrArg (·.lanes.base) hstart
    refine ⟨hblock, fun base hbase16 => ?_⟩
    rw [LanePointer.address, hbase]
    omega

/-! ### Words of a buffer -/

namespace AddOnce

/-- A module that adds one to the first texel of a texel buffer. -/
def words : List UInt32 := [
  0x07230203, 0x00010000, 0, 14, 0,
  0x0004000F, 5, 8, 0, -- the entry point
  0x00040047, 6, 34, 0, 0x00040047, 6, 33, 0, -- set 0 and binding 0
  0x00040015, 1, 32, 0, 0x00090019, 2, 1, 5, 0, 0, 0, 2, 33, -- words, and a buffer of words
  0x00040020, 3, 0, 2, 0x00040020, 4, 11, 1, -- pointers to these
  0x0004002B, 1, 5, 1, 0x0004002B, 1, 11, 0, -- one and zero
  0x0004003B, 3, 6, 0, -- the buffer
  0x00050036, 9, 8, 0, 10, 0x000200F8, 12,
  0x0006003C, 4, 7, 6, 11, 11, -- a pointer to the texel
  0x000700EA, 1, 13, 7, 5, 11, 5, -- the addition
  0x000100FD, 0x00010038]

/-- Where the range of the view starts. -/
def first (odd : Bool) : Nat := if odd then 2 else 4

/-- A session that gives the module a word of a buffer of two.  All names are empty. -/
def commands (odd : Bool) : List Command := [
  .device "" true none,
  .buffer "" "" 8,
  .bufferView "" "" .r32Uint ⟨first odd, first odd + 4⟩,
  .setLayout "" "" [{ number := 0, kind := .storageTexelBuffer }],
  .set "" "",
  .update "" [{ binding := 0, elements := .bufferViews [""] }] [],
  .pipelineLayout "" "" [""],
  .shader "" "" words,
  .routine "" "" "" {},
  .bind "" "" 0]

def routine (odd : Bool) : Routine :=
  ((after (commands odd)).routines[""]?).get (by cases odd <;> decide +kernel)

/-- The set that it is given. -/
def set (odd : Bool) : DescriptorSet :=
  ((after (commands odd)).store.sets[5]?).get (by cases odd <;> decide +kernel)

def view (odd : Bool) : BufferView :=
  ((after (commands odd)).bufferViews[""]?).get (by cases odd <;> decide +kernel)

/-- The run that would come next. -/
def launch (odd : Bool) : Launch := (after (commands odd)).store.launch (routine odd) ∅

/-- Where the run adds. -/
def adding (odd : Bool) : State × Instruction :=
  ((launch odd).first? .opAtomicIAdd 8).get (by cases odd <;> decide +kernel)

theorem executes (odd : Bool) : (launch odd).Executes (adding odd).1 (adding odd).2 :=
  Launch.executes_of_first? (Option.some_get _).symm

/-- The request that the pointer was made for. -/
def request : TexelRequest :=
  ⟨6, ⟨1, .buffer, false, false, .r32ui⟩, ⟨[.splat 0], true⟩, some 11, 4, false, .nullify⟩

theorem shown (odd : Bool) : Shown (commands odd) (launch odd).environment (adding odd).1
    request.image { number := 0, kind := .storageTexelBuffer } (.buffer (view odd)) := by
  have hd : (launch odd).environment.sets[5]? = some (set odd) := (Option.some_get _).symm
  have hbindings : (set odd).layout.bindings =
      [{ number := 0, kind := .storageTexelBuffer }] := by cases odd <;> decide +kernel
  have hkept : .bufferView (view odd) ∈ ((set odd).resources.find? ⟨0, 0⟩).getD [] := by
    cases odd <;> decide +kernel
  refine ⟨rfl, rfl, ⟨5, 0⟩, set odd, ⟨0, 0⟩, ?_, hd, .first hbindings Nat.one_pos, hkept⟩
  cases odd <;> decide +kernel

/-- The pointer of the addition. -/
def pointer (odd : Bool) : TexelPointer := ⟨some 2, ⟨first odd, 4, .splat 0⟩⟩

theorem instruction (odd : Bool) : (adding odd).2.op? = some .opAtomicIAdd ∧
    (adding odd).2.id 3 = .ok 7 ∧ (adding odd).1.target 7 = .ok (.texel (pointer odd)) ∧
    (launch odd).environment.texelPointer (adding odd).1 request = .ok (pointer odd) ∧
    (StorageView.buffer (view odd)).texelSize = 4 ∧
    (StorageView.buffer (view odd)).start = first odd ∧
    ∀ l, ((pointer odd).lanes.accessMask 4 (launch odd).environment.storing .nullify).get l ≠ 0
      := by
  cases odd <;> decide +kernel

theorem performs (odd : Bool) : Performs (launch odd).environment (adding odd).1 (adding odd).2
    ⟨pointer odd, 4, (launch odd).environment.storing, .nullify⟩ :=
  .add (instruction odd).1 (instruction odd).2.1 (instruction odd).2.2.1

end AddOnce

open AddOnce in
/-- The second word of a buffer is aligned. -/
theorem second_word_is_aligned : (pointer false).block = some 2 ∧
    (4 : Int) ∣ (16 : Nat) + (pointer false).lanes.address 0 := by
  obtain ⟨hop, -, -, hp, htexel, hstart, hon⟩ := instruction false
  obtain ⟨offset, hvisits, -⟩ := executes false
  obtain ⟨-, haligned⟩ := atomic_additions_are_aligned_like_views (commands false) hvisits hop
    (performs false)
  obtain ⟨-, hlanes⟩ := haligned request ⟨rfl, rfl, rfl⟩ hp _ _ (shown false) htexel
  refine ⟨rfl, ((hlanes 0 (hon 0)).2 16 (dvd_refl 16)).mpr ?_⟩
  rw [hstart]
  decide

open AddOnce in
/-- A range may start between words, and its word is added to. -/
theorem word_between_words_is_added_to : ¬ ∀ (commands : List Command) (e : Environment)
    (inputs : InterfaceValues) (machine : Machine) (s : State) (offset : Nat) (i : Instruction)
    (x : TexelAccess) (r : TexelRequest) (b : LayoutBinding) (v : StorageView),
    Visits e inputs machine s offset → i.op? = some .opAtomicIAdd → Performs e s i x →
    r.OfPointer → e.texelPointer s r = .ok x.pointer → Shown commands e s r.image b v →
    v.texelSize = 4 → ∀ l, x.enabled.get l ≠ 0 →
    ∀ base : Nat, 16 ∣ base → (4 : Int) ∣ base + x.pointer.lanes.address l := by
  intro hclaim
  obtain ⟨hop, -, -, hp, htexel, -, hon⟩ := instruction true
  obtain ⟨offset, hvisits, -⟩ := executes true
  have haligned := hclaim (commands true) _ _ _ _ offset _ _ request _ _ hvisits hop (performs true)
    ⟨rfl, rfl, rfl⟩ hp (shown true) htexel 0 (hon 0) 0 (Nat.dvd_zero 16)
  revert haligned
  decide +kernel

end Session

end HostGpu
