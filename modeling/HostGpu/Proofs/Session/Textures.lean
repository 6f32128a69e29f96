import HostGpu.Proofs.Descriptor.Pyramid
import HostGpu.Proofs.Session.Liveness

/-!
# The textures of sets

A descriptor for sampled images that keeps a view has the levels of this view, whatever was written
and copied in a session.  So a sampling function that is given the record finds a texel of the view
where the image has it, as long as it need not step from layer to layer in an image with several
levels or samples (`Session.textures_find_texels`).
-/

namespace HostGpu.Session

open DescriptorSet LevelRecord

/-- Descriptors of all sets have the levels of the views that they keep. -/
theorem showsPyramid_after (commands : List Command) {n : Nat} {d : DescriptorSet}
    (hd : (after commands).store.sets[n]? = some d) : d.Each ShowsPyramid :=
  forall_sets_after commands
    (fun before _ _ _ layout hlayout _ _ h =>
      showsPyramid_of_create ((sound_after before).layouts layout hlayout) h)
    (fun _ _ _ _ _ _ _ _ _ hupdates h hsources =>
      showsPyramid_update h hupdates.update_eq_ok hsources) n d hd

/-- **Textures find their texels.**  Each level of a view starts at the first texel of the level,
and its numbers count the texels from there to a sample of a texel exactly as the image places
them: in volumes and in the first layer always, and in other layers if and only if the image has one
level and one sample.  All levels past the end of the view are its last level. -/
theorem textures_find_texels (commands : List Command) {n : Nat} {d : DescriptorSet}
    (hd : (after commands).store.sets[n]? = some d) {k : ElementKey} {b : LayoutBinding} {o : Nat}
    (helement : d.layout.Element k b o) (hkind : b.kind.record? = some .sampled) {v : ImageView}
    (hkept : .view v ∈ (d.resources.find? k).getD []) :
    (∀ level < v.levelCount, ∀ copy < 4, ∀ x < (v.levelExtent level).width,
      ∀ y < (v.levelExtent level).height, ∀ w < v.slices level, ∀ s < v.samples.count,
      ∃ first offset pitch,
        (SampledRecord.readLevel d.data o level).faces[0]? = some (some ⟨v.image.block, first⟩) ∧
        v.texelInSlice v.primaryAspect level x y w = .ok offset ∧
        v.samplePitch? v.primaryAspect level = .ok pitch ∧
        (first + (SampledRecord.readLevel d.data o level).texels copy x y w s *
            v.primaryFormat.blockSize = offset + s * pitch ↔
          v.kind = .dim3 ∨ w = 0 ∨ v.image.info.mipLevels = 1 ∧ v.image.info.samples = .one)) ∧
    ∀ level, v.levelCount ≤ level → level < maxLevels →
      ∃ r last, SampledRecord.readLevel d.data o level = r ∧
        SampledRecord.readLevel d.data o (v.levelCount - 1) = last ∧
        r = { last with
          floatWidth := r.floatWidth, floatHeight := r.floatHeight, floatDepth := r.floatDepth } ∧
        (v.primaryFormat.isFloat = true → r = last) := by
  have hshows := showsPyramid_after commands hd k b o helement hkind v hkept
  have hvalid : v.Valid :=
    (((sound_after commands).sets n d hd).kept _ (ResourceTable.mem_all_of_mem_getD hkept)).valid
  have hcount : v.levelCount ≤ maxLevels :=
    (Nat.sub_le _ _).trans (hvalid.mips.2.trans hvalid.image.levels_le_maxLevels)
  constructor
  · intro level hlevel copy hcopy x hx y hy w hw s _
    exact hvalid.layer_found_iff hlevel (hshows level (hlevel.trans_le hcount)) hcopy hx hy hw s
  · intro level hle hlevel
    -- the levels of the texture stop at the last one of the view
    have hlast : SampledRecord.levelOfView v level =
        SampledRecord.levelOfView v (v.levelCount - 1) := by
      rw [SampledRecord.levelOfView, SampledRecord.levelOfView, Nat.min_self,
        Nat.min_eq_right (by omega)]
    have hr := hshows level hlevel
    rw [hlast] at hr
    have hpos := hvalid.levelCount_pos
    obtain ⟨hsame, hfloat⟩ := hr.unique (hshows (v.levelCount - 1) (by omega))
    exact ⟨_, _, rfl, rfl, hsame, hfloat⟩

/-! ### Two layers of two levels -/

namespace LayeredTexture

/-- A session that gives a view of two levels and two layers to a set. -/
def commands : List Command := [
  .device "" true none,
  .image "" "" {
    format := .r8Unorm, extent := ⟨4, 4, 1⟩, mipLevels := 2, arrayLayers := 2 },
  .view "" "" { preset := .wholeImage },
  .setLayout "" "" [{ number := 0, kind := .sampledImage }],
  .set "" "",
  .update "" [{ binding := 0, elements := .views [""] }] []]

def set : DescriptorSet := ((after commands).store.sets[5]?).get (by decide +kernel)

def view : ImageView := ((after commands).views[""]?).get (by decide +kernel)

theorem set_found : (after commands).store.sets[5]? = some set := (Option.some_get _).symm

/-- The set keeps the view. -/
theorem set_keeps : set.layout.bindings = [{ number := 0, kind := .sampledImage }] ∧
    .view view ∈ (set.resources.find? ⟨0, 0⟩).getD [] := by decide +kernel

theorem counts : view.levelCount = 2 ∧ view.levelExtent 0 = ⟨4, 4, 1⟩ ∧ view.slices 0 = 2 ∧
    view.samples.count = 1 := by decide +kernel

end LayeredTexture

open LayeredTexture in
/-- The last texel of the first layer is found. -/
theorem first_layer_found : ∃ first offset,
    (SampledRecord.readLevel set.data 0 0).faces[0]? = some (some ⟨view.image.block, first⟩) ∧
    view.texelInSlice view.primaryAspect 0 3 3 0 = .ok offset ∧
    first + (SampledRecord.readLevel set.data 0 0).texels 0 3 3 0 0 *
      view.primaryFormat.blockSize = offset := by
  obtain ⟨hbindings, hkept⟩ := set_keeps
  obtain ⟨hlevels, hextent, hslices, hsamples⟩ := counts
  obtain ⟨hfound, -⟩ := textures_find_texels commands set_found
    (.first hbindings Nat.one_pos) rfl hkept
  obtain ⟨first, offset, pitch, hface, hoffset, -, hiff⟩ := hfound 0 (by omega) 0 (by decide) 3
    (by rw [hextent]; decide) 3 (by rw [hextent]; decide) 0 (by omega) 0 (by omega)
  have heq := hiff.mpr (.inr (.inl rfl))
  rw [Nat.zero_mul, Nat.add_zero] at heq
  exact ⟨first, offset, hface, hoffset, heq⟩

open LayeredTexture in
/-- A texture steps over one slice from a layer to the next, although the layers of the image lie
further apart. -/
theorem second_layer_missed : ¬ ∀ (commands : List Command) (n : Nat) (d : DescriptorSet)
    (k : ElementKey) (b : LayoutBinding) (o : Nat) (v : ImageView),
    (after commands).store.sets[n]? = some d → d.layout.Element k b o →
    b.kind.record? = some .sampled → .view v ∈ (d.resources.find? k).getD [] →
    v.kind.isCube = false →
    ∀ level < v.levelCount, ∀ copy < 4, ∀ x < (v.levelExtent level).width,
      ∀ y < (v.levelExtent level).height, ∀ w < v.slices level, ∀ s < v.samples.count,
      ∃ first offset pitch,
        (SampledRecord.readLevel d.data o level).faces[0]? = some (some ⟨v.image.block, first⟩) ∧
        v.texelInSlice v.primaryAspect level x y w = .ok offset ∧
        v.samplePitch? v.primaryAspect level = .ok pitch ∧
        first + (SampledRecord.readLevel d.data o level).texels copy x y w s *
          v.primaryFormat.blockSize = offset + s * pitch := by
  intro hclaim
  obtain ⟨hbindings, hkept⟩ := set_keeps
  obtain ⟨hlevels, hextent, hslices, hsamples⟩ := counts
  obtain ⟨first, offset, pitch, hface, hoffset, -, heq⟩ := hclaim commands 5 set ⟨0, 0⟩ _ 0 view
    set_found (.first hbindings Nat.one_pos) rfl hkept (by decide +kernel)
    0 (by omega) 0 (by decide) 0 (by rw [hextent]; decide) 0 (by rw [hextent]; decide) 1 (by omega)
    0 (by omega)
  have hshows := showsPyramid_after commands set_found _ _ _ (.first hbindings Nat.one_pos) rfl
    view hkept 0 (by decide)
  have hfirst : (SampledRecord.readLevel set.data 0 0).faces[0]? =
      some (some ⟨view.image.block, 0⟩) := by
    rw [hshows]
    decide +kernel
  have htexels : (SampledRecord.readLevel set.data 0 0).texels 0 0 0 1 0 *
      view.primaryFormat.blockSize = 16 := by
    rw [hshows]
    decide +kernel
  have haddress : (view.texelInSlice view.primaryAspect 0 0 0 1).toOption = some 20 := by
    decide +kernel
  rw [hoffset] at haddress
  obtain rfl : offset = 20 := Option.some.inj haddress
  rw [hfirst] at hface
  obtain rfl : 0 = first := by simpa using hface
  omega

end HostGpu.Session
