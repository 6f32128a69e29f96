import HostGpu.Proofs.Descriptor.ViewExtent
import HostGpu.Proofs.Execution.ImageQuery
import HostGpu.Proofs.Session.Routines

/-!
# Queries of images that sets show

A descriptor that keeps a view has its sides, whatever was written and copied in a session, in a
storage record or in a sampled record.  So queries through the descriptor give what the view gives:
the sides of its levels, the length of its array, its number of levels and its samples
(`Session.queries_agree_with_view`).
-/

namespace HostGpu.Session

open Outcome Execution Shader DescriptorSet

/-- Sampled records of all sets show the views that they keep. -/
theorem showsView_after (commands : List Command) {n : Nat} {d : DescriptorSet}
    (hd : (after commands).store.sets[n]? = some d) : d.Each ShowsView :=
  forall_sets_after commands
    (fun before _ _ _ layout hlayout _ _ h =>
      showsView_of_create ((sound_after before).layouts layout hlayout) h)
    (fun _ _ _ _ _ _ _ _ _ hupdates h hsources =>
      showsView_update h hupdates.update_eq_ok hsources) n d hd

/-- Descriptors of images describe the views that they keep. -/
theorem describes_of_kept (commands : List Command) {e : Environment}
    (hsets : e.sets = (after commands).store.sets) {a : DescriptorAddress} {d : DescriptorSet}
    (hd : e.sets[a.set]? = some d) {k : ElementKey} {b : LayoutBinding}
    (helement : d.layout.Element k b a.offset) {v : ImageView}
    (hkept : .view v ∈ (d.resources.find? k).getD [])
    (hkind : b.kind ∈ [.storageImage, .inputAttachment, .sampledImage, .combinedImageSampler]) :
    Describes e a v b.kind := by
  have hstorage : e.storageRecord a = StorageRecord.read d.data a.offset := by
    rw [Environment.storageRecord, Environment.setData, hd, Option.elim_some]
  have hsampled := sampledRecord_of_find hd
  rw [hsets] at hd
  have hview (hrecord : b.kind.record? = some .storage) : e.storageRecord a = .ofView v := by
    rcases ((sound_after commands).sets a.set d hd).consistent k b a.offset helement hrecord with
      ⟨hnone, -⟩ | ⟨shown, hfind, hshows⟩
    · rw [hnone] at hkept
      cases hkept
    · -- the only thing that is kept is the view
      rw [hfind, Option.getD_some, List.mem_singleton] at hkept
      cases shown with
      | image v' =>
        obtain rfl : v = v' := Resource.view.inj hkept
        exact hstorage.trans hshows
      | buffer v' => cases hkept
  have htexture (hrecord : b.kind.record? = some .sampled) : (e.sampledRecord a).Shows v :=
    hsampled ▸ showsView_after commands hd k b a.offset helement hrecord v hkept
  simp only [List.mem_cons, List.not_mem_nil, or_false] at hkind
  rcases hkind with hkind | hkind | hkind | hkind
  · exact .storage (.inl hkind) (hview (by rw [hkind]; rfl))
  · exact .storage (.inr hkind) (hview (by rw [hkind]; rfl))
  · exact .sampled (.inl hkind) (htexture (by rw [hkind]; rfl))
  · exact .sampled (.inr hkind) (htexture (by rw [hkind]; rfl))

/-- **Queries agree with the view of the descriptor.**  An image of a type with the coordinates of
the view is queried through a descriptor that keeps it.  The size has in every lane the sides of the
first level or, if levels of detail are given, those of the level of the lane, and then the length
of an array: its layers, or its cubes.  Whatever the level of detail is, one of the view or not, no
side is less than one.  Sampled records also give the number of levels, and records of images with
several samples the number of these. -/
theorem queries_agree_with_view (commands : List Command) {e : Environment}
    (hsets : e.sets = (after commands).store.sets) {s : State} {i : Spirv.Instruction}
    {image result : Nat} {type : ImageType} {a : DescriptorAddress} {b : LayoutBinding}
    (hquery : IsQuery e s i image result type a b.kind) {d : DescriptorSet}
    (hd : e.sets[a.set]? = some d) {k : ElementKey} (helement : d.layout.Element k b a.offset)
    {v : ImageView} (hkept : .view v ∈ (d.resources.find? k).getD [])
    (hkind : b.kind ∈ [.storageImage, .inputAttachment, .sampledImage, .combinedImageSampler])
    (htype : type.Fits v.kind) :
    (e.declarations.resultCount i =
        .ok (type.dimension.axes + if type.arrayed then 1 else 0) →
      (i.op? = some .opImageQuerySize →
        Answers e s i result fun _ => v.sides 0 ++ v.arrayLength) ∧
      ∀ id o lod, i.op? = some .opImageQuerySizeLod → i.id 4 = .ok id →
        e.operand s id = .ok o → o.component 0 = .ok lod →
        Answers e s i result fun l => v.sides (lod.get l).toNat ++ v.arrayLength) ∧
    (∀ level, ∀ side ∈ v.sides level, 1 ≤ side ∧ side < 2 ^ 31) ∧
    (i.op? = some .opImageQueryLevels →
      b.kind = .sampledImage ∨ b.kind = .combinedImageSampler →
      Answers e s i result fun _ => [v.levelCount]) ∧
    (i.op? = some .opImageQuerySamples → b.kind ≠ .inputAttachment →
      type.dimension = .dim2D → type.multisampled = true →
      Answers e s i result fun _ => [v.samples.count]) := by
  have hview := describes_of_kept commands hsets hd helement hkept hkind
  rw [hsets] at hd
  have hvalid : v.Valid :=
    (((sound_after commands).sets a.set d hd).kept _
      (ResourceTable.mem_all_of_mem_getD hkept)).valid
  refine ⟨fun hcount => ⟨fun hop => ?_, fun id o lod hop hid ho hlod => ?_⟩, fun level side hside =>
    ⟨ImageView.one_le_of_mem_sides hside, hvalid.sides_lt level side hside⟩,
    fun hop hkinds => ?_, fun hop hkinds hdimension hmultisampled => ?_⟩
  · exact hquery.answers_size hvalid hview htype hcount hop
  · exact hquery.answers_sizeLod hvalid hview htype hcount hop hid ho hlod
  · exact hquery.answers_levels hvalid hview hkinds hop
  · exact hquery.answers_samples hvalid hview hkinds hdimension hmultisampled hop

/-! ### An array of cubes -/

namespace QueryOnce

/-- A module that asks an array of cubes for the size of its second level. -/
def words : List UInt32 := [
  0x07230203, 0x00010000, 0, 14, 0,
  0x0004000F, 4, 1, 0, -- the entry point
  0x00040047, 2, 34, 0, 0x00040047, 2, 33, 0, -- set 0 and binding 0
  0x00040015, 6, 32, 0, 0x00040017, 8, 6, 3, -- words, and three of them
  0x00090019, 7, 6, 3, 0, 1, 0, 1, 0, -- an array of cubes
  0x0004002B, 6, 9, 1, 0x00040020, 10, 0, 7, 0x0004003B, 10, 2, 0,
  0x00050036, 4, 1, 0, 5, 0x000200F8, 11,
  0x0004003D, 7, 12, 2,
  0x00050067, 8, 13, 12, 9, -- the size
  0x000100FD, 0x00010038]

/-- A session that gives the module two cubes, without the first level of their image.  All names
are empty. -/
def commands : List Command := [
  .device "" true none,
  .image "" "" {
    format := .r8Unorm, extent := ⟨8, 8, 1⟩, mipLevels := 4, arrayLayers := 12,
    cubeCompatible := true },
  .view "" "" { preset := .wholeImage, kind := some .cubeArray, mips := some ⟨1, 4⟩ },
  .setLayout "" "" [{ number := 0, kind := .sampledImage }],
  .set "" "",
  .update "" [{ binding := 0, elements := .views [""] }] [],
  .pipelineLayout "" "" [""],
  .shader "" "" words,
  .routine "" "" "" {},
  .bind "" "" 0]

def routine : Routine := ((after commands).routines[""]?).get (by decide +kernel)

/-- The set that it is given. -/
def set : DescriptorSet := ((after commands).store.sets[5]?).get (by decide +kernel)

def view : ImageView := ((after commands).views[""]?).get (by decide +kernel)

theorem set_keeps : set.layout.bindings = [{ number := 0, kind := .sampledImage }] ∧
    .view view ∈ (set.resources.find? ⟨0, 0⟩).getD [] := by decide +kernel

/-- The run that would come next. -/
def launch : Launch := (after commands).store.launch routine ∅

/-- The start of the run. -/
def start : State :=
  ((launch.environment.declarations.globals.forM
    (launch.environment.initGlobal launch.inputs)).run { machine := launch.machine }).2

/-- Where the run asks. -/
def query? : Option (State × Spirv.Instruction) :=
  (trace launch.environment 8 launch.environment.shader.entryBlock start).find? fun p =>
    p.2.op? = some .opImageQuerySizeLod

def query : State × Spirv.Instruction := query?.get (by decide +kernel)

/-- An array of cubes. -/
def type : ImageType := ⟨6, .cube, true, false, .unknown⟩

theorem isQuery : IsQuery launch.environment query.1 query.2 12 13 type ⟨5, 0⟩ .sampledImage := by
  have hnew : query.1.values.contains 13 = false := by decide +kernel
  refine ⟨?_, hnew, ?_, ?_, ?_, ?_⟩ <;> decide +kernel

end QueryOnce

open QueryOnce in
/-- The second level of the view is the third one of the image, and there are two cubes. -/
theorem cube_array_is_queried :
    Answers launch.environment query.1 query.2 13 fun _ => [2, 2, 2] := by
  obtain ⟨hbindings, hkept⟩ := set_keeps
  have hd : launch.environment.sets[5]? = some set := (Option.some_get _).symm
  have hcube : view.kind = .cubeArray := by decide +kernel
  have htype : type.Fits view.kind := by rw [hcube]; exact ⟨rfl, rfl⟩
  obtain ⟨hsize, -⟩ := queries_agree_with_view commands (e := launch.environment) rfl
    (b := { number := 0, kind := .sampledImage }) isQuery hd (.first hbindings Nat.one_pos) hkept
    (by decide) htype
  obtain ⟨-, hlod⟩ := hsize (by decide +kernel)
  have hnumbers : view.sides 1 ++ view.arrayLength = [2, 2, 2] := by decide +kernel
  have hanswers := hlod 9 ⟨[.splat 1], true⟩ (.splat 1) (by decide +kernel) (by decide +kernel)
    (by decide +kernel) rfl
  have hone (l : Lane) : ((Lanes.splat 1 : WordLanes).get l).toNat = 1 := by
    rw [Lanes.get_splat]
    rfl
  simp only [hone, hnumbers] at hanswers
  exact hanswers

end HostGpu.Session
