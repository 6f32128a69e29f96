import HostGpu.Proofs.Execution.Progress
import HostGpu.Proofs.Session.TexelBounds
import HostGpu.Proofs.Texel.Subpass

/-!
# Reads of subpass data

A fragment reads subpass data through the descriptor of an input attachment.  On a device with
robust image access a lane reads memory only for a column, a row and a sample of the view, and finds
its texel in the layer of the view that it is rendered for
(`Session.subpass_reads_stay_in_extent`).  The layer is not tested: a fragment that is rendered for
a view behind the layers of the descriptor reads what lies behind them in the image.

Integers are read from the stencil plane of a format with depth and stencil
(`Session.stencil_is_read_from_subpass`), as long as the view shows depth: the record of a view of
stencil alone has no such plane.
-/

namespace HostGpu.Session

open Outcome Execution Execution.Environment Spirv Shader StorageView

/-! ## What a fragment reads -/

/-- Coordinates of two components, of an image that is not arrayed, are those of fragments. -/
theorem isFragment_coordinates {e : Environment} {a : ImageAccess}
    (hsubpass : a.type.dimension = .subpassData) (harrayed : a.type.arrayed = false)
    (hcount : a.coordinate.components.length = 2) :
    (e.coordinates a).IsFragment e.viewIndex where
  count := hcount
  arrayed := harrayed
  subpass := by
    show (e.subpass? a.type).map (·.view) = some e.viewIndex
    rw [subpass?, if_pos hsubpass]
    rfl

/-- A fragment for a layer of the view touches and loads the texel of its column, row and sample in
that layer. -/
theorem fragment_reads_texel {commands : List Command} {e : Environment} {s : State}
    {a : ImageAccess} {b : LayoutBinding} {v : ImageView} {i : Instruction}
    (hview : Shown commands e s a.image b (.image v))
    (hsubpass : a.type.dimension = .subpassData) (harrayed : a.type.arrayed = false)
    (hcount : a.coordinate.components.length = 2) (hop : i.op? = some .opImageRead)
    (haccess : e.Accesses s i 3 4 5 a) {format : Format} {stencil : Bool}
    (hformat : e.readFormat a.image a.type = .ok format)
    (hstencil : e.readsStencil a.type format = .ok stencil) (hrecords : v.Records stencil)
    {n : Nat} (hsize : (planeFormat format stencil).blockSize = n)
    (htexel : v.texelSize (usedAspect v stencil) = n)
    (hlayer : e.viewIndex.toNat < (StorageView.image v).grid.depth) :
    ∃ load, e.imageLoad s i = .ok load ∧ load.format = planeFormat format stencil ∧
      ∀ l t, ((e.coordinates a).position l).texel = t → t.In (.image v) →
        ∃ o, (placeIn v (usedAspect v stencil) (t.inSlice v e.viewIndex.toNat)).offset
            v.image.info = .ok o ∧
          (∀ block j, LaneTouches e s i l block j ↔
            e.active.get l ≠ 0 ∧ block = v.image.block ∧ o ≤ j ∧ j < o + n) ∧
          (e.active.get l ≠ 0 → ∀ k < n, ((e.loadTexels s load).get l).byte k =
            s.machine.blocks.byte v.image.block (o + k)) := by
  obtain ⟨hcreated, address, haddress, hrecord⟩ := hview.exists_record
  have hv : v.Valid := hcreated.valid
  have ha := hv.usedAspect_mem hrecords
  have hfragment := isFragment_coordinates (e := e) hsubpass harrayed hcount
  have hplane : v.plane (usedAspect v stencil) = .ofRecord (e.storageRecord address) stencil := by
    rw [hrecord, ImageView.ofRecord_record hrecords]
  have hfits : (v.plane (usedAspect v stencil)).Fits n := by
    have hwhole := hcreated.valid.fits stencil
    rw [ImageView.ofRecord_record hrecords] at hwhole
    rwa [hv.planeTexel_eq hrecords, htexel] at hwhole
  obtain ⟨load, hload, hloads, hlanes⟩ := haccess.reads_plane hop haddress hformat hstencil hplane
    hsize hfits rfl
  refine ⟨load, hload, hloads, ?_⟩
  rintro l t rfl hin
  obtain ⟨o, ho, hsum, hholds, hcovers⟩ := hv.covers_plane ha (hv.inSlice_in hin hlayer)
  obtain ⟨htouches, hbytes⟩ := hlanes l
  have hdistance := hfragment.signed_resolved hv ha hin hlayer (texelRule s.machine.device)
  rw [htexel] at hcovers hholds hdistance
  rw [hdistance] at htouches hbytes
  refine ⟨o, ho, fun block j => ?_, fun hon k hk => ?_⟩
  · rw [htouches, hcovers]
  · have hbyte := hbytes.bytes hon hholds v.image.block _ rfl k hk
    rwa [Int.toNat_natCast, hsum] at hbyte

/-! ### Two layers of depth and stencil -/

namespace ReadFragment

/-- A module that reads integers of subpass data at the position of each fragment. -/
def words : List UInt32 := [
  0x07230203, 0x00010000, 0, 20, 0,
  0x0004000F, 4, 1, 0, -- the entry point
  0x00040047, 2, 34, 0, 0x00040047, 2, 33, 0, -- set 0 and binding 0
  0x00040047, 2, 43, 0, -- the first attachment
  0x00040015, 6, 32, 0, 0x00040017, 14, 6, 4, 0x00040017, 15, 6, 2, -- words, four of them, and two
  0x00090019, 7, 6, 6, 0, 0, 0, 2, 0, -- subpass data
  0x0004002B, 6, 9, 0, 0x0005002C, 15, 10, 9, 9, -- the coordinates
  0x00040020, 11, 0, 7, 0x0004003B, 11, 2, 0,
  0x00050036, 4, 1, 0, 5, 0x000200F8, 16,
  0x0004003D, 7, 17, 2,
  0x00050062, 14, 18, 17, 10, -- the texel
  0x000100FD, 0x00010038]

/-- What the view of the first layer shows, and the layer that fragments are rendered for. -/
inductive Reading where
  | both
  | stencilAlone
  | nextLayer

def Reading.aspects : Reading → AspectSet
  | both | nextLayer => ⟨false, true, true⟩
  | stencilAlone => ⟨false, false, true⟩

def Reading.layer : Reading → UInt32
  | both | stencilAlone => 0
  | nextLayer => 1

/-- A session that gives the module the first layer of an image of two layers of two texels.  Its
stencils are seven and nine, and five and six in the second layer.  All names are empty. -/
def commands (r : Reading) : List Command := [
  .device "" true none,
  .image "" "" { format := .d24UnormS8Uint, extent := ⟨2, 1, 1⟩, arrayLayers := 2 },
  .write "" 16 [7, 9, 5, 6],
  .view "" "" {
    preset := .wholeImage, kind := some .dim2, aspects := some r.aspects, layers := some ⟨0, 1⟩ },
  .setLayout "" "" [{ number := 0, kind := .inputAttachment }],
  .set "" "",
  .update "" [{ binding := 0, elements := .views [""] }] [],
  .pipelineLayout "" "" [""],
  .shader "" "" words,
  .routine "" "" "" {
    windowX := ⟨0, 1, 2, 0⟩, viewIndex := r.layer, attachmentFormats := [.d24UnormS8Uint] },
  .bind "" "" 0]

def routine (r : Reading) : Routine :=
  ((after (commands r)).routines[""]?).get (by cases r <;> decide +kernel)

/-- The set that it is given. -/
def set (r : Reading) : DescriptorSet :=
  ((after (commands r)).store.sets[5]?).get (by cases r <;> decide +kernel)

def view (r : Reading) : ImageView :=
  ((after (commands r)).views[""]?).get (by cases r <;> decide +kernel)

/-- The run that would come next. -/
def launch (r : Reading) : Launch := (after (commands r)).store.launch (routine r) ∅

/-- Where the run reads the texel. -/
def read (r : Reading) : State × Instruction :=
  ((launch r).first? .opImageRead 8).get (by cases r <;> decide +kernel)

/-- What is read, without a sample. -/
def access : ImageAccess :=
  ⟨17, ⟨6, .subpassData, false, false, .unknown⟩, ⟨[.splat 0, .splat 0], true⟩, none⟩

theorem shown (r : Reading) : Shown (commands r) (launch r).environment (read r).1 access.image
    { number := 0, kind := .inputAttachment } (.image (view r)) := by
  have hd : (launch r).environment.sets[5]? = some (set r) := (Option.some_get _).symm
  have hbindings : (set r).layout.bindings = [{ number := 0, kind := .inputAttachment }] := by
    cases r <;> decide +kernel
  have hkept : .view (view r) ∈ ((set r).resources.find? ⟨0, 0⟩).getD [] := by
    cases r <;> decide +kernel
  refine ⟨rfl, rfl, ⟨5, 0⟩, set r, ⟨0, 0⟩, ?_, hd, .first hbindings Nat.one_pos, hkept⟩
  cases r <;> decide +kernel

theorem accesses (r : Reading) :
    (launch r).environment.Accesses (read r).1 (read r).2 3 4 5 access where
  image := by cases r <;> decide +kernel
  type := by cases r <;> decide +kernel
  coordinate := ⟨10, by cases r <;> decide +kernel, by cases r <;> decide +kernel⟩
  components := by decide +kernel
  sample := ⟨{}, none, by cases r <;> decide +kernel, rfl, rfl⟩

/-- Integers of the format are read, on a robust device. -/
theorem instruction (r : Reading) : (read r).1.machine.device.robust = true ∧
    (read r).2.op? = some .opImageRead ∧
    (launch r).environment.readFormat access.image access.type = .ok .d24UnormS8Uint ∧
    (launch r).environment.readsStencil access.type .d24UnormS8Uint = .ok true ∧
    ∀ l, (launch r).environment.active.get l ≠ 0 := by
  cases r <;> decide +kernel

end ReadFragment

/-! ## Robust devices -/

/-- **Robust reads of subpass data stay in the extent of the view.**  On a device with robust image
access, whatever the positions of fragments, the coordinates, samples and formats are, a lane whose
column, row and sample are not those of a texel of the view gets the offset that no access is in
bounds at, and touches no memory.  If the view that it is rendered for is below the depth in the
descriptor and the format fits the view, all other lanes that are active touch their texel in that
layer of the view.  Column and row are sums in words: those that are not below all words are in the
extent exactly if the sums in integers are. -/
theorem subpass_reads_stay_in_extent (commands : List Command) {e : Environment} {s : State}
    {a : ImageAccess} {b : LayoutBinding} {v : ImageView} {i : Instruction}
    (hview : Shown commands e s a.image b (.image v)) (hdevice : s.machine.device.robust = true)
    (hsubpass : a.type.dimension = .subpassData) (hop : i.op? = some .opImageRead)
    (haccess : e.Accesses s i 3 4 5 a) {format : Format} {stencil : Bool} {n : Nat}
    (hformat : e.readFormat a.image a.type = .ok format)
    (hstencil : e.readsStencil a.type format = .ok stencil)
    (hsize : (planeFormat format stencil).blockSize = n) {plane : StoragePlane}
    (hplane : plane = .ofRecord (StorageView.image v).record stencil) {offsets : WordLanes}
    (hoffsets : offsets = (e.coordinates a).resolved plane.layout n .nullify) :
    (format ≠ .undefined →
      ∃ load, e.imageLoad s i = .ok load ∧ load.pointer = plane.pointerAt offsets) ∧
    (∀ l, ¬ ((e.coordinates a).position l).texel.In (.image v) →
      offsets.get l = outOfBoundsOffset ∧ ∀ block j, ¬ LaneTouches e s i l block j) ∧
    (a.type.arrayed = false → a.coordinate.components.length = 2 → v.Records stencil →
      v.texelSize (usedAspect v stencil) = n → e.viewIndex.toNat < plane.layout.depth.toNat →
      ∀ l t, ((e.coordinates a).position l).texel = t → t.In (.image v) →
        ∃ o, (placeIn v (usedAspect v stencil) (t.inSlice v e.viewIndex.toNat)).offset
            v.image.info = .ok o ∧
          ∀ block j, LaneTouches e s i l block j ↔
            e.active.get l ≠ 0 ∧ block = v.image.block ∧ o ≤ j ∧ j < o + n) ∧
    ∀ l, -2 ^ 31 ≤ (e.coordinates a).exactColumn l → -2 ^ 31 ≤ (e.coordinates a).exactRow l →
      (((e.coordinates a).position l).texel.In (.image v) ↔
        ((e.coordinates a).exactTexel l).In (.image v)) := by
  obtain ⟨hcreated, address, haddress, hrecord⟩ := hview.exists_record
  have hv : v.Valid := hcreated.valid
  have hrule : texelRule s.machine.device = .nullify := by simp [texelRule, hdevice]
  have hrecorded : plane = .ofRecord (e.storageRecord address) stencil := by
    rw [hplane, hrecord]
  rw [← hrule] at hoffsets
  refine ⟨fun hdefined => ?_, fun l hout => ?_, ?_, fun l => ?_⟩
  · obtain ⟨c, w, hsizes, -⟩ := exists_texelParts (planeFormat_blockSize_mem hdefined stencil)
    have hload := haccess.imageLoad_eq haddress hformat hstencil hrecorded hsize hoffsets
    rw [← hsize, hsizes] at hload
    exact ⟨_, hload, rfl⟩
  · have houtside : ((e.coordinates a).position l).isOutside plane.layout = true := by
      rw [hplane, ImageView.isOutside_ofRecord, ← Bool.not_eq_false,
        hcreated.valid.isOutside_eq_false]
      exact fun h => hout h.1
    have hget : offsets.get l = outOfBoundsOffset := by
      rw [hoffsets, hrule, TexelCoordinates.resolved, Lanes.get_ofFn, TexelPosition.resolve,
        if_pos ⟨rfl, houtside⟩]
    have hlimit := (hcreated.valid.fits stencil).le
    rw [← hplane] at hlimit
    exact ⟨hget, fun block j => haccess.not_laneTouches_of_outside hop haddress hformat hstencil
      hrecorded hsize hlimit hoffsets hget⟩
  · intro harrayed hcount hrecords htexel hlayer l t ht hin
    have hdepth : (StorageView.image v).grid.depth < 2 ^ 32 := hv.depth_lt
    rw [hplane, ImageView.depth_ofRecord, wordOf, Word.ofNat_toNat_of_lt hdepth] at hlayer
    obtain ⟨_, -, -, htexels⟩ := fragment_reads_texel hview hsubpass harrayed hcount hop haccess
      hformat hstencil hrecords hsize htexel hlayer
    obtain ⟨o, ho, htouches, -⟩ := htexels l t ht hin
    exact ⟨o, ho, htouches⟩
  · exact TexelCoordinates.texel_position_in hcreated.valid

open ReadFragment in
/-- The second fragment touches its stencil in the first layer, and the third one is outside. -/
theorem fragments_of_first_layer_touch :
    LaneTouches (launch .both).environment (read .both).1 (read .both).2 1 2 17 ∧
      ∀ block j, ¬ LaneTouches (launch .both).environment (read .both).1 (read .both).2 2 block j
      := by
  obtain ⟨hdevice, hop, hformat, hstencil, hactive⟩ := instruction .both
  obtain ⟨-, hout, hin, -⟩ := subpass_reads_stay_in_extent _ (shown .both) hdevice rfl hop
    (accesses .both) hformat hstencil rfl rfl rfl
  have hrecords : (view .both).Records true := fun _ => by decide +kernel
  have hlayer : (launch .both).environment.viewIndex.toNat <
      (StoragePlane.ofRecord (StorageView.image (view .both)).record true).layout.depth.toNat := by
    decide +kernel
  constructor
  · have hsecond : (((launch .both).environment.coordinates access).position 1).texel.In
        (.image (view .both)) := by constructor <;> decide +kernel
    obtain ⟨o, ho, htouches⟩ := hin rfl rfl hrecords (by decide +kernel) hlayer 1 _ rfl hsecond
    obtain rfl : 17 = o := Except.ok.inj (.trans (by decide +kernel) ho)
    exact (htouches 2 17).mpr ⟨hactive 1, by decide +kernel, le_refl _, by decide⟩
  · refine (hout 2 ?_).2
    intro hthird
    have hwidth := hthird.x.2
    revert hwidth
    decide +kernel

open ReadFragment in
/-- A fragment that is rendered for the second view reads behind the only layer of the descriptor.
-/
theorem next_layer_is_read : ¬ ∀ (commands : List Command) (e : Environment) (s : State)
    (a : ImageAccess) (b : LayoutBinding) (v : ImageView) (i : Instruction) (format : Format)
    (stencil : Bool), Shown commands e s a.image b (.image v) → s.machine.device.robust = true →
    a.type.dimension = .subpassData → i.op? = some .opImageRead → e.Accesses s i 3 4 5 a →
    e.readFormat a.image a.type = .ok format → e.readsStencil a.type format = .ok stencil →
    ∀ l block j, LaneTouches e s i l block j → ((e.coordinates a).exactTexel l).In (.image v) ∧
      e.viewIndex.toNat <
        (StoragePlane.ofRecord (StorageView.image v).record stencil).layout.depth.toNat := by
  intro hclaim
  obtain ⟨hdevice, hop, hformat, hstencil, hactive⟩ := instruction .nextLayer
  have hinside := hclaim _ _ _ _ _ _ _ _ _ (shown .nextLayer) hdevice rfl hop (accesses .nextLayer)
    hformat hstencil 0 2 18
  obtain ⟨hcreated, address, haddress, hrecord⟩ := (shown .nextLayer).exists_record
  obtain ⟨load, -, -, hlanes⟩ := (accesses .nextLayer).reads_plane (n := 1) hop haddress hformat
    hstencil (congrArg (StoragePlane.ofRecord · true) hrecord.symm) rfl
    (hcreated.valid.fits true) rfl
  have hplane : StoragePlane.ofRecord (StorageView.image (view .nextLayer)).record true =
      ⟨some ⟨2, 16⟩, 4, ⟨2, 1, 1, 2, 2, 2, 1⟩⟩ := by decide +kernel
  rw [hplane] at hlanes hinside
  have hoffset : Word.signed ((((launch .nextLayer).environment.coordinates access).resolved
      ⟨2, 1, 1, 2, 2, 2, 1⟩ 1 (texelRule (read .nextLayer).1.machine.device)).get 0) = 2 := by
    decide +kernel
  have htouches := (hlanes 0).1 2 18
  rw [hoffset] at htouches
  have hbehind := (hinside (htouches.mpr ⟨hactive 0, ⟨by decide, by decide⟩, 16, rfl, by decide,
    by decide⟩)).2
  revert hbehind
  decide +kernel

/-! ## Stencil -/

/-- **Integers of a format with depth and stencil come from the stencil plane.**  A fragment that
reads integers through a view of such an image, which shows depth or both aspects, succeeds, at the
first view of the subpass.  Every active lane whose column, row and sample are those of a texel gets
the byte of that texel in the stencil plane, at the first level and layer of the view, then zero,
zero and one, as many as the result has components. -/
theorem stencil_is_read_from_subpass (commands : List Command) {e : Environment} {s : State}
    {a : ImageAccess} {b : LayoutBinding} {v : ImageView} {i : Instruction}
    {typeId result count : Nat} (hview : Shown commands e s a.image b (.image v))
    (hdepth : v.aspects.depth = true)
    (hcombined : v.image.info.format.aspects.stencil = true)
    (hsubpass : a.type.dimension = .subpassData) (harrayed : a.type.arrayed = false)
    (hcomponents : a.coordinate.components.length = 2) (hop : i.op? = some .opImageRead)
    (haccess : e.Accesses s i 3 4 5 a)
    (hinteger : (e.declarations.type a.type.sampledType).map (·.op) = .ok .opTypeInt)
    (hformat : e.readFormat a.image a.type = .ok v.image.info.format)
    (hfirst : e.viewIndex = 0) (hresult : i.id 2 = .ok result) (hnew : s.Lacks result)
    (htypeId : i.id 1 = .ok typeId) (hcount : e.declarations.componentCount typeId = .ok count) :
    ∃ rows, (Execution.step e i).run s = (.ok .next, s.withValue result (.components rows)) ∧
      ∀ l, e.active.get l ≠ 0 → ((e.coordinates a).exactTexel l).In (.image v) →
        ∃ o, (placeIn v .stencil ((e.coordinates a).exactTexel l)).offset v.image.info = .ok o ∧
          rows.map (·.get l) =
            [(s.machine.blocks.byte v.image.block o).toUInt32, 0, 0, 1].take count := by
  have hv : v.Valid := hview.exists_record.1.valid
  have hprimary := hv.primaryAspect_eq_depth hdepth
  have hboth := hv.depth_of_aspects hdepth
  have hrecords : v.Records true := fun _ => ⟨hprimary, hv.formatAspects ▸ hcombined⟩
  have hstencil : e.readsStencil a.type v.image.info.format = .ok true := by
    cases htype : e.declarations.type a.type.sampledType with
    | error f =>
      rw [htype] at hinteger
      cases hinteger
    | ok type =>
      rw [htype] at hinteger
      have hop : type.op = .opTypeInt := Except.ok.inj hinteger
      simp [readsStencil, hboth, hcombined, htype, hop]
  have hone : v.texelSize (usedAspect v true) = 1 := (hv.planeTexel_eq hrecords).symm
  have hlayer : e.viewIndex.toNat < (StorageView.image v).grid.depth := by
    rw [hfirst]
    exact hv.depth_pos
  obtain ⟨load, hload, hloads, htexels⟩ := fragment_reads_texel hview hsubpass harrayed hcomponents
    hop haccess hformat hstencil hrecords rfl hone hlayer
  have hlayout : load.format.layout? = some (.uniform .uint 8 1) := by
    rw [hloads]
    rfl
  have hread : e.imageRead s i = .ok ((Texel.channels
      ((e.loadTexels s load).map (ChannelLayout.uniform .uint 8 1).decode)).take count) := by
    simp only [imageRead, htypeId, hcount, hload, hlayout, ok_bind]
    rfl
  generalize htexel : (e.loadTexels s load).map (ChannelLayout.uniform .uint 8 1).decode = texels
    at hread
  refine ⟨_, run_step_compute hop (by decide) rfl hread hresult hnew, fun l hon hin => ?_⟩
  obtain ⟨o, ho, -, hbytes⟩ := htexels l _
    (TexelCoordinates.texel_position_eq hview.exists_record.1.valid hin) hin
  have hslice : ((e.coordinates a).exactTexel l).inSlice v e.viewIndex.toNat =
      (e.coordinates a).exactTexel l := by
    rw [hfirst, TexelIndex.inSlice]
    split <;> rfl
  rw [hslice] at ho
  refine ⟨o, ho, ?_⟩
  have hbyte := hbytes hon 0 Nat.one_pos
  have hget : texels.get l = ⟨(s.machine.blocks.byte v.image.block o).toUInt32, 0, 0, 1⟩ := by
    rw [← htexel, Lanes.get_map, ChannelLayout.decode_uint8, hbyte, Nat.add_zero]
  rw [List.map_take]
  simp only [Texel.channels, List.map_cons, List.map_nil, Lanes.get_map, hget]

open ReadFragment in
/-- The second fragment reads its stencil. -/
theorem stencil_of_second_fragment : ∃ rows,
    (Execution.step (launch .both).environment (read .both).2).run (read .both).1 =
      (.ok .next, (read .both).1.withValue 18 (.components rows)) ∧
    rows.map (·.get 1) = [9, 0, 0, 1] := by
  obtain ⟨-, hop, hformat, -, hactive⟩ := instruction .both
  have hnew : (read .both).1.Lacks 18 := by
    show (read .both).1.values.contains 18 = false
    decide +kernel
  have hcount : (launch .both).environment.declarations.componentCount 14 = .ok 4 := by
    decide +kernel
  obtain ⟨rows, hrun, hrows⟩ := stencil_is_read_from_subpass _ (shown .both) (by decide +kernel)
    (by decide +kernel) rfl rfl rfl hop (accesses .both) (by decide +kernel)
    (hformat.trans (by decide +kernel)) (by decide +kernel) (by decide +kernel) hnew
    (by decide +kernel) hcount
  have hsecond : (((launch .both).environment.coordinates access).exactTexel 1).In
      (.image (view .both)) := by constructor <;> decide +kernel
  obtain ⟨o, ho, hlane⟩ := hrows 1 (hactive 1) hsecond
  obtain rfl : 17 = o := Except.ok.inj (.trans (by decide +kernel) ho)
  refine ⟨rows, hrun, hlane.trans ?_⟩
  decide +kernel

open ReadFragment in
/-- Through a view of stencil alone zeros are read. -/
theorem stencil_alone_reads_zero : ¬ ∀ (commands : List Command) (e : Environment) (s : State)
    (a : ImageAccess) (b : LayoutBinding) (v : ImageView) (i : Instruction)
    (typeId result count : Nat), Shown commands e s a.image b (.image v) →
    v.aspects.stencil = true → v.image.info.format.aspects = ⟨false, true, true⟩ →
    a.type.dimension = .subpassData → a.type.arrayed = false →
    a.coordinate.components.length = 2 → i.op? = some .opImageRead → e.Accesses s i 3 4 5 a →
    (e.declarations.type a.type.sampledType).map (·.op) = .ok .opTypeInt →
    e.readFormat a.image a.type = .ok v.image.info.format → e.viewIndex = 0 →
    i.id 2 = .ok result → s.Lacks result → i.id 1 = .ok typeId →
    e.declarations.componentCount typeId = .ok count →
    ∃ rows, (Execution.step e i).run s = (.ok .next, s.withValue result (.components rows)) ∧
      ∀ l, e.active.get l ≠ 0 → ((e.coordinates a).exactTexel l).In (.image v) →
        ∃ o, (placeIn v .stencil ((e.coordinates a).exactTexel l)).offset v.image.info = .ok o ∧
          rows.map (·.get l) =
            [(s.machine.blocks.byte v.image.block o).toUInt32, 0, 0, 1].take count := by
  intro hclaim
  obtain ⟨-, hop, hformat, -, hactive⟩ := instruction .stencilAlone
  have hnew : (read .stencilAlone).1.Lacks 18 := by
    show (read .stencilAlone).1.values.contains 18 = false
    decide +kernel
  obtain ⟨rows, hrun, hrows⟩ := hclaim _ _ _ _ _ _ _ 14 18 4 (shown .stencilAlone)
    (by decide +kernel) (by decide +kernel) rfl rfl rfl hop (accesses .stencilAlone)
    (by decide +kernel) (hformat.trans (by decide +kernel)) (by decide +kernel)
    (by decide +kernel) hnew (by decide +kernel) (by decide +kernel)
  have hfirst : (((launch .stencilAlone).environment.coordinates access).exactTexel 0).In
      (.image (view .stencilAlone)) := by constructor <;> decide +kernel
  obtain ⟨o, ho, hlane⟩ := hrows 0 (hactive 0) hfirst
  obtain rfl : 16 = o := Except.ok.inj (.trans (by decide +kernel) ho)
  have hseven : rows.map (·.get 0) = [7, 0, 0, 1] := hlane.trans (by decide +kernel)
  -- the record has no stencil plane
  have hread : (launch .stencilAlone).environment.imageRead (read .stencilAlone).1
      (read .stencilAlone).2 = .ok [.splat 0, .splat 0, .splat 0, .splat 1] := by decide +kernel
  have hzero := run_step_compute (e := (launch .stencilAlone).environment) hop (by decide) rfl hread
    (by decide +kernel) hnew
  have hvalues := congrArg (fun p => p.2.values[18]?) (hrun.symm.trans hzero)
  simp only [State.withValue, Std.TreeMap.getElem?_insert_self, Option.some.injEq,
    Value.components.injEq] at hvalues
  rw [hvalues] at hseven
  revert hseven
  decide

end HostGpu.Session
