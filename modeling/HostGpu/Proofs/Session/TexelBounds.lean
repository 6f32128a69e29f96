import HostGpu.Proofs.Execution.Changes
import HostGpu.Proofs.Execution.LaneTexels
import HostGpu.Proofs.Session.LastUse

/-!
# Which texels lanes access without a test of coordinates

A device without robust image access tests no coordinates.  A lane of an image read or write then
accesses the texel at what remains of its byte offset in 32 bits, if that lies in the plane that its
descriptor shows, and no memory otherwise (`Session.lanes_access_wrapped_offsets`).  Offsets in the
range of signed words remain what they are; a larger one can come back into the plane.
-/

namespace HostGpu.Session

open Outcome Execution Execution.Environment Spirv Shader

/-! ## Views that storage descriptors show -/

/-- After the commands of a session, the descriptor of an image operand is an element of a binding
with storage records, and the element keeps a view. -/
structure Shown (commands : List Command) (e : Environment) (s : State) (image : Nat)
    (b : LayoutBinding) (v : StorageView) : Prop where
  sets : e.sets = (after commands).store.sets
  kind : b.kind.record? = some .storage
  element : ∃ a d k, s.descriptor image = .ok a ∧ e.sets[a.set]? = some d ∧
    d.layout.Element k b a.offset ∧ v.resource ∈ (d.resources.find? k).getD []

/-- The memory of the view is there. -/
theorem Shown.backed {commands : List Command} {e : Environment} {s : State} {image : Nat}
    {b : LayoutBinding} {v : StorageView} (h : Shown commands e s image b v) :
    v.Backed (after commands).store.blocks := by
  obtain ⟨a, d, k, -, hd, -, hkept⟩ := h.element
  rw [h.sets] at hd
  have hmem := ResourceTable.mem_all_of_mem_getD hkept
  exact Resource.backed_resource.mp (((sound_after commands).sets a.set d hd).kept _ hmem)

/-- The record of the descriptor is that of the view. -/
theorem Shown.exists_record {commands : List Command} {e : Environment} {s : State} {image : Nat}
    {b : LayoutBinding} {v : StorageView} (h : Shown commands e s image b v) :
    v.Created ∧ ∃ a, s.descriptor image = .ok a ∧ e.storageRecord a = v.record := by
  obtain ⟨a, d, k, ha, hd, helement, hkept⟩ := h.element
  have hrecord : e.storageRecord a = StorageRecord.read d.data a.offset := by
    rw [Environment.storageRecord, Environment.setData, hd, Option.elim_some]
  rw [h.sets] at hd
  have hset := (sound_after commands).sets a.set d hd
  rcases hset.consistent k b a.offset helement h.kind with ⟨hnone, -⟩ | ⟨v', hfind, hshows⟩
  · rw [hnone] at hkept
    cases hkept
  · rw [hfind, Option.getD_some, List.mem_singleton] at hkept
    obtain rfl : v = v' := StorageView.resource_injective hkept
    exact ⟨h.backed.created, a, ha, hrecord.trans hshows⟩

/-! ## Accesses on devices that test no coordinates -/

/-- **Without a test of coordinates, lanes access what remains of their offsets.**  The format that
the shader accesses a view in has texels as large as those of the view.  A lane of an image read, if
it is active, touches the bytes of the texel at what remains of its offset in 32 bits, exactly if
that texel lies in the plane, and then loads these; all other lanes touch nothing and load zeros.
So it is with an image write and the lanes that store, and no byte changes that none of them
touches.  An offset that a signed word can hold is not changed by wrapping. -/
theorem lanes_access_wrapped_offsets (commands : List Command) {e : Environment} {s : State}
    {a : ImageAccess} {b : LayoutBinding} {v : StorageView}
    (hview : Shown commands e s a.image b v) (hdevice : s.machine.device.robust = false)
    (i : Instruction) :
    (∀ format stencil, i.op? = some .opImageRead → e.Accesses s i 3 4 5 a →
      e.readFormat a.image a.type = .ok format → e.readsStencil a.type format = .ok stencil →
      (planeFormat format stencil).blockSize = v.planeTexel stencil →
      ∃ plane load, plane = StoragePlane.ofRecord v.record stencil ∧ e.imageLoad s i = .ok load ∧
        ∀ l offset, (e.coordinates a).wrappedOffset plane.layout (v.planeTexel stencil) l = offset →
          (∀ block j, LaneTouches e s i l block j ↔
            e.active.get l ≠ 0 ∧ plane.Covers (v.planeTexel stencil) offset block j) ∧
          plane.Loads (v.planeTexel stencil) s.machine.blocks (e.active.get l ≠ 0) offset
            ((e.loadTexels s load).get l)) ∧
    (∀ format layout, i.op? = some .opImageWrite → e.Accesses s i 1 2 4 a →
      (∃ id value, i.id 3 = .ok id ∧ e.operand s id = .ok value) →
      a.type.format.format? = some format → format.writer? = some layout →
      format.blockSize = v.texelSize →
      ∃ plane s', plane = StoragePlane.ofRecord v.record false ∧ e.imageWrite s i = .ok s' ∧
        (∀ l offset, (e.coordinates a).wrappedOffset plane.layout v.texelSize l = offset →
          ∀ block j, LaneTouches e s i l block j ↔
            e.storing.get l ≠ 0 ∧ plane.Covers v.texelSize offset block j) ∧
        ∀ block j, s'.machine.blocks.byte block j ≠ s.machine.blocks.byte block j →
          ∃ l, LaneTouches e s i l block j) ∧
    ∀ layout texel l, -2 ^ 31 ≤ (e.coordinates a).exactOffset layout texel l →
      (e.coordinates a).exactOffset layout texel l < 2 ^ 31 →
      (e.coordinates a).wrappedOffset layout texel l =
        (e.coordinates a).exactOffset layout texel l := by
  obtain ⟨hcreated, address, haddress, hrecord⟩ := hview.exists_record
  have hrule : texelRule s.machine.device ≠ .nullify := by simp [texelRule, hdevice]
  refine ⟨?_, ?_, fun layout texel l => TexelCoordinates.wrappedOffset_eq_exactOffset⟩
  · intro format stencil hop haccess hformat hstencil hsize
    obtain ⟨load, hload, -, hlanes⟩ := haccess.reads_plane hop haddress hformat hstencil
      (congrArg (StoragePlane.ofRecord · stencil) hrecord.symm) hsize (hcreated.valid.fits stencil)
      rfl
    refine ⟨_, load, rfl, hload, ?_⟩
    rintro l offset rfl
    have hlane := hlanes l
    rw [TexelCoordinates.signed_resolved hrule] at hlane
    exact hlane
  · intro format layout hop haccess hvalue hformat hwriter hsize
    obtain ⟨s', hs', hlanes⟩ := haccess.writes_plane hop haddress hvalue hformat hwriter
      (congrArg (StoragePlane.ofRecord · false) hrecord.symm) hsize (hcreated.valid.fits false) rfl
    refine ⟨_, s', rfl, hs', ?_, ?_⟩
    · rintro l offset rfl block j
      have hlane := hlanes l block j
      rw [TexelCoordinates.signed_resolved hrule] at hlane
      exact hlane
    · intro block j hne
      obtain ⟨x, hx, htouches⟩ := (effect_imageWrite hop hs').exists_performs_of_byte_ne hne
      obtain ⟨l, hl⟩ := TexelAccess.touches_iff.mp htouches
      exact ⟨l, x, hx, hl⟩

/-! ### An image of two rows -/

namespace ReadRow

/-- A module that reads the texel in the first row at a column. -/
def words (column : UInt32) : List UInt32 := [
  0x07230203, 0x00010000, 0, 20, 0,
  0x0004000F, 4, 1, 0, -- the entry point
  0x00040047, 2, 34, 0, 0x00040047, 2, 33, 0, -- set 0 and binding 0
  0x00040015, 6, 32, 0, 0x00040017, 14, 6, 4, 0x00040017, 15, 6, 2, -- words, four of them, and two
  0x00090019, 7, 6, 1, 0, 0, 0, 2, 33, -- an image of words
  0x0004002B, 6, 8, column, 0x0004002B, 6, 9, 0, 0x0005002C, 15, 10, 8, 9, -- the coordinates
  0x00040020, 11, 0, 7, 0x0004003B, 11, 2, 0,
  0x00050036, 4, 1, 0, 5, 0x000200F8, 16,
  0x0004003D, 7, 17, 2,
  0x00050062, 14, 18, 17, 10, -- the texel
  0x000100FD, 0x00010038]

/-- A session that gives the module an image of two rows of two words, on a device that tests no
coordinates.  All names are empty. -/
def commands (column : UInt32) : List Command := [
  .device "" false none,
  .image "" "" { format := .r32Uint, extent := ⟨2, 2, 1⟩ },
  .view "" "" { preset := .wholeImage },
  .setLayout "" "" [{ number := 0, kind := .storageImage }],
  .set "" "",
  .update "" [{ binding := 0, elements := .views [""] }] [],
  .pipelineLayout "" "" [""],
  .shader "" "" (words column),
  .routine "" "" "" {},
  .bind "" "" 0]

/-- A column of the second row, counted from the first one; and one whose offset is `2 ^ 32`. -/
def column (far : Bool) : UInt32 := if far then 0x40000000 else 3

def routine (far : Bool) : Routine :=
  ((after (commands (column far))).routines[""]?).get (by cases far <;> decide +kernel)

/-- The set that it is given. -/
def set (far : Bool) : DescriptorSet :=
  ((after (commands (column far))).store.sets[5]?).get (by cases far <;> decide +kernel)

def view (far : Bool) : ImageView :=
  ((after (commands (column far))).views[""]?).get (by cases far <;> decide +kernel)

/-- The run that would come next. -/
def launch (far : Bool) : Launch := (after (commands (column far))).store.launch (routine far) ∅

/-- Where the run reads the texel. -/
def reading (far : Bool) : State × Instruction :=
  ((launch far).first? .opImageRead 8).get (by cases far <;> decide +kernel)

/-- What is read, without a sample. -/
def access (far : Bool) : ImageAccess :=
  ⟨17, ⟨6, .dim2D, false, false, .r32ui⟩, ⟨[.splat (column far), .splat 0], true⟩, none⟩

theorem shown (far : Bool) : Shown (commands (column far)) (launch far).environment (reading far).1
    (access far).image { number := 0, kind := .storageImage } (.image (view far)) := by
  have hd : (launch far).environment.sets[5]? = some (set far) := (Option.some_get _).symm
  have hbindings : (set far).layout.bindings = [{ number := 0, kind := .storageImage }] := by
    cases far <;> decide +kernel
  have hkept : .view (view far) ∈ ((set far).resources.find? ⟨0, 0⟩).getD [] := by
    cases far <;> decide +kernel
  refine ⟨rfl, rfl, ⟨5, 0⟩, set far, ⟨0, 0⟩, ?_, hd, .first hbindings Nat.one_pos, hkept⟩
  cases far <;> decide +kernel

theorem accesses (far : Bool) : (launch far).environment.Accesses (reading far).1 (reading far).2
    3 4 5 (access far) where
  image := by cases far <;> decide +kernel
  type := by cases far <;> decide +kernel
  coordinate := ⟨10, by cases far <;> decide +kernel, by cases far <;> decide +kernel⟩
  components := by cases far <;> decide +kernel
  sample := ⟨{}, none, by cases far <;> decide +kernel, rfl, rfl⟩

/-- The plane of the image: sixteen bytes from the start of a block on, in rows of eight. -/
def plane : StoragePlane where
  pointer := some ⟨2, 0⟩
  size := 16
  layout := ⟨2, 2, 1, 8, 16, 16, 1⟩

theorem ofRecord_view (far : Bool) :
    StoragePlane.ofRecord (StorageView.image (view far)).record false = plane := by
  cases far <;> decide +kernel

theorem instruction (far : Bool) : (reading far).1.machine.device.robust = false ∧
    (reading far).2.op? = some .opImageRead ∧
    (launch far).environment.readFormat (access far).image (access far).type = .ok .r32Uint ∧
    (launch far).environment.readsStencil (access far).type .r32Uint = .ok false ∧
    (planeFormat .r32Uint false).blockSize =
      (StorageView.image (view far)).planeTexel false ∧
    (StorageView.image (view far)).planeTexel false = 4 ∧
    ∀ l, (launch far).environment.active.get l ≠ 0 := by
  cases far <;> decide +kernel

end ReadRow

open ReadRow in
/-- A column of the second row, counted from the first one, is found there. -/
theorem third_column_is_in_second_row :
    LaneTouches (launch false).environment (reading false).1 (reading false).2 0 2 12 ∧
      ¬ LaneTouches (launch false).environment (reading false).1 (reading false).2 0 2 16 := by
  obtain ⟨hdevice, hop, hformat, hstencil, hsize, hfour, hactive⟩ := instruction false
  obtain ⟨hread, -, hexact⟩ :=
    lanes_access_wrapped_offsets _ (shown false) hdevice (reading false).2
  obtain ⟨_, load, rfl, -, hlanes⟩ := hread _ _ hop (accesses false) hformat hstencil hsize
  rw [ofRecord_view, hfour] at hlanes
  have htwelve : ((launch false).environment.coordinates (access false)).exactOffset
      plane.layout 4 0 = 12 := by decide +kernel
  have hoffset : ((launch false).environment.coordinates (access false)).wrappedOffset
      plane.layout 4 0 = 12 := by rw [hexact, htwelve] <;> omega
  have hlane := (hlanes 0 12 hoffset).1
  have hholds : plane.Holds 4 12 := ⟨by decide, by decide⟩
  constructor
  · exact (hlane 2 12).mpr ⟨hactive 0, hholds, 0, rfl, by decide, by decide⟩
  · intro htouches
    obtain ⟨-, -, first, hfirst, -, hlt⟩ := (hlane 2 16).mp htouches
    cases hfirst
    omega

open ReadRow in
/-- An offset of `2 ^ 32` remains zero, so that the first texel is read. -/
theorem far_column_reads_first_texel : ¬ ∀ (commands : List Command) (e : Environment) (s : State)
    (a : ImageAccess) (b : LayoutBinding) (v : StorageView) (i : Instruction) (format : Format)
    (stencil : Bool), Shown commands e s a.image b v → s.machine.device.robust = false →
    i.op? = some .opImageRead → e.Accesses s i 3 4 5 a → e.readFormat a.image a.type = .ok format →
    e.readsStencil a.type format = .ok stencil →
    (planeFormat format stencil).blockSize = v.planeTexel stencil →
    ∀ l block j, LaneTouches e s i l block j ↔
      e.active.get l ≠ 0 ∧ (StoragePlane.ofRecord v.record stencil).Covers (v.planeTexel stencil)
        ((e.coordinates a).exactOffset (StoragePlane.ofRecord v.record stencil).layout
          (v.planeTexel stencil) l) block j := by
  intro hclaim
  obtain ⟨hdevice, hop, hformat, hstencil, hsize, hfour, hactive⟩ := instruction true
  have hexact := hclaim _ _ _ _ _ _ _ _ _ (shown true) hdevice hop (accesses true) hformat hstencil
    hsize 0 2 0
  obtain ⟨hcreated, address, haddress, hrecord⟩ := (shown true).exists_record
  obtain ⟨load, -, -, hlanes⟩ := (accesses true).reads_plane hop haddress hformat hstencil
    (congrArg (StoragePlane.ofRecord · false) hrecord.symm) hsize (hcreated.valid.fits false) rfl
  have hoffset : Word.signed ((((launch true).environment.coordinates (access true)).resolved
      plane.layout 4 (texelRule (reading true).1.machine.device)).get 0) = 0 := by decide +kernel
  have hwrapped := (hlanes 0).1 2 0
  rw [ofRecord_view, hfour] at hexact hwrapped
  rw [hoffset] at hwrapped
  have hholds : plane.Holds 4 0 := ⟨by decide, by decide⟩
  have htouches := hwrapped.mpr ⟨hactive 0, hholds, 0, rfl, by decide, by decide⟩
  -- in integers the texel is far behind the end of the plane
  have hfar : ((launch true).environment.coordinates (access true)).exactOffset plane.layout 4 0 =
      2 ^ 32 := by decide +kernel
  have hsixteen : Word.signed plane.size = 16 := by decide
  obtain ⟨-, ⟨-, hlast⟩, -⟩ := hexact.mp htouches
  rw [hfar, hsixteen] at hlast
  omega

end HostGpu.Session
