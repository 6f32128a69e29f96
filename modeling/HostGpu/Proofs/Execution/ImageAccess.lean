import HostGpu.Execution.ImageAccess
import HostGpu.Proofs.Texel.Codec
import HostGpu.Proofs.Texel.WholeTexel

/-!
# Writing texels and reading them back

An image write stores whole texels: the bytes of the lanes that store and whose texel ends before
the end of the view become those of the encoded texels, the highest lane wins, and no other byte
changes (`WritesTexels`).  An image read of the same coordinates then gives the decoded texels,
whatever the encoding left in the bits above a narrow texel: `imageWrite_then_read`.
-/

namespace HostGpu

open Outcome Spirv Shader

namespace Execution

/-! ## Operands -/

/-- What an image instruction accesses: the image operand and the operands that were computed. -/
structure ImageAccess where
  image : Nat
  type : ImageType
  coordinate : Operand
  sample : Option WordLanes

namespace Environment

/-- The operands of an image instruction are there: the image, the coordinates and the optional
operands stand at the given words, and a sample is the only one of the latter. -/
structure Accesses (e : Environment) (s : State) (i : Instruction)
    (imageAt coordinateAt operandsAt : Nat) (a : ImageAccess) : Prop where
  image : i.id imageAt = .ok a.image
  type : e.shader.objectImageType a.image = .ok a.type
  coordinate : ∃ id, i.id coordinateAt = .ok id ∧ e.operand s id = .ok a.coordinate
  components : a.coordinate.components ≠ []
  sample : ∃ operands id, ImageOperands.read i operandsAt = .ok operands ∧
    operands.sampleOnly = .ok id ∧ e.samples s id = .ok a.sample

/-- The descriptor of an image operand is the record of a view whose block is there. -/
structure Shows (e : Environment) (s : State) (image : Nat) (v : StorageView) (m : Memory) :
    Prop where
  created : v.Created
  descriptor : ∃ address, s.descriptor image = .ok address ∧ e.storageRecord address = v.record
  memory : s.machine.blocks[v.block]? = some m
  size : m.size = v.blockBytes

/-- The coordinates of an access. -/
def coordinates (e : Environment) (a : ImageAccess) : TexelCoordinates where
  components := a.coordinate.components
  arrayed := a.type.arrayed
  cube := a.type.dimension = .cube
  sample := a.sample
  subpass := e.subpass? a.type

variable {e : Environment} {s : State} {a : ImageAccess} {v : StorageView} {m : Memory}

theorem texelPointer_eq (hview : e.Shows s a.image v m) {id : Option Nat}
    (hsample : e.samples s id = .ok a.sample) (texelSize : Nat) (rule : BoundsRule) :
    e.texelPointer s {
        image := a.image, type := a.type, coordinate := a.coordinate, sample := id, texelSize,
        stencil := false, rule } =
      v.pointer <$> (e.coordinates a).offsets v.grid.layout (wordOf texelSize)
        rule := by
  obtain ⟨address, haddress, hrecord⟩ := hview.descriptor
  have hstart := hview.created.valid.start_ofRecord
  have hplane := StorageView.ofRecord_record v
  simp only [texelPointer, haddress, hrecord, hsample, ok_bind, hstart]
  rw [hplane]
  rfl

/-- An image write whose operands are there stores the words of the encoded texels. -/
theorem imageWrite_eq {i : Instruction} (hview : e.Shows s a.image v m)
    (haccess : e.Accesses s i 1 2 4 a) {valueId : Nat} {value : Operand}
    (hvalueId : i.id 3 = .ok valueId) (hvalue : e.operand s valueId = .ok value)
    {format : Format} {layout : ChannelLayout} (hformat : a.type.format.format? = some format)
    (hwriter : format.writer? = some layout) {offsets : WordLanes} {sizes : List Nat}
    (hoffsets : (e.coordinates a).offsets v.grid.layout (wordOf layout.size)
      (texelRule s.machine.device) = .ok offsets)
    (hsizes : TexelPointer.accessSizes layout.size = .ok sizes) :
    e.imageWrite s i = .ok { s with machine := { s.machine with
      blocks := (v.pointer offsets).storeWords s.machine.blocks e.storing
        (texelRule s.machine.device) sizes
        (PackedTexel.words ((Texel.ofChannels value.components).map layout.encode)) } } := by
  obtain ⟨coordinateId, hcoordinateId, hcoordinate⟩ := haccess.coordinate
  obtain ⟨operands, sampleId, hoperands, hsampleId, hsample⟩ := haccess.sample
  simp only [imageWrite, imageStore, haccess.image, haccess.type, hcoordinateId, hcoordinate,
    hvalueId, hvalue, hoperands, hsampleId, hformat, hwriter, ok_bind,
    texelPointer_eq hview hsample, hoffsets, hsizes]
  rfl

/-- A format without depth is read as it is. -/
theorem planeFormat_eq {format : Format} (h : format.aspects.depth = false) :
    planeFormat format false = format := by
  have hnone : format.plane? .depth = none := by
    rw [← Option.isNone_iff_eq_none, ← Option.isSome_eq_false_iff, Format.plane?_isSome]
    revert h
    cases format <;> intro h <;> first | rfl | cases h
  simp [planeFormat, hnone]

/-- An image read whose operands are there decodes the words that it loads. -/
theorem imageRead_eq {i : Instruction} (hview : e.Shows s a.image v m)
    (haccess : e.Accesses s i 3 4 5 a) {typeId count : Nat} (htypeId : i.id 1 = .ok typeId)
    (hcount : e.declarations.componentCount typeId = .ok count) {format : Format}
    {layout : ChannelLayout} (hformat : e.readFormat a.image a.type = .ok format)
    (hcolor : format.aspects.depth = false) (hlayout : format.layout? = some layout)
    {offsets : WordLanes} {sizes : List Nat}
    (hoffsets : (e.coordinates a).offsets v.grid.layout (wordOf format.blockSize)
      (texelRule s.machine.device) = .ok offsets)
    (hsizes : TexelPointer.accessSizes format.blockSize = .ok sizes) :
    e.imageRead s i = .ok ((Texel.channels ((PackedTexel.ofWords
      ((v.pointer offsets).loadWords s.machine.blocks e.active (texelRule s.machine.device)
        sizes)).map layout.decode)).take count) := by
  obtain ⟨coordinateId, hcoordinateId, hcoordinate⟩ := haccess.coordinate
  obtain ⟨operands, sampleId, hoperands, hsampleId, hsample⟩ := haccess.sample
  have hstencil : e.readsStencil a.type format = .ok false := by
    simp [readsStencil, hcolor]
    rfl
  have hload : e.imageLoad s i = .ok ⟨v.pointer offsets, format, sizes⟩ := by
    simp only [imageLoad, haccess.image, haccess.type, hcoordinateId, hcoordinate, hoperands,
      hsampleId, hformat, hstencil, planeFormat_eq hcolor, ok_bind, texelPointer_eq hview hsample,
      hoffsets, hsizes]
    rfl
  simp only [imageRead, htypeId, hcount, hload, hlayout, ok_bind]
  rfl

theorem offsets_eq_ok (haccess : a.coordinate.components ≠ []) (layout : TexelLayout)
    (texelSize : UInt32) (rule : BoundsRule) :
    ∃ offsets, (e.coordinates a).offsets layout texelSize rule = .ok offsets := by
  have hne : (e.coordinates a).components.isEmpty = false := by
    simpa [coordinates] using haccess
  simp [TexelCoordinates.offsets, hne]

end Environment

theorem texelRule_ne_unchecked (d : Device) : texelRule d ≠ .unchecked := by
  rw [texelRule]
  split <;> decide

/-- Colours are read in the format that the image type declares. -/
theorem Environment.readFormat_eq {e : Environment} {type : ImageType} (image : Nat)
    {format : Format} (hformat : type.format.format? = some format)
    (hsubpass : type.dimension = .subpassData → e.readFormat image type = .ok format) :
    e.readFormat image type = .ok format := by
  by_cases h : type.dimension = .subpassData
  · exact hsubpass h
  · simp [readFormat, h, hformat]
    rfl

end Execution

open Execution

/-- **An image write stores whole texels and an image read gives them back.**  The image operand has
the record of a view whose texels are as large as those of the format; the coordinates, the values,
the masks of lanes and the device are arbitrary.  The write ends, and it changes no byte except that
the texels of the lanes that store, where they lie within the view, become the encoded values, each
that of the highest lane which stores there.  A read of the same coordinates in the state after it
gives in every active lane whose texel was stored the decoded value of that lane. -/
theorem imageWrite_then_read {e : Environment} {s : State} {i : Instruction} {a : ImageAccess}
    {v : StorageView} {m : Memory} {value : Operand} {format : Format} {layout : ChannelLayout}
    (hview : e.Shows s a.image v m) (haccess : e.Accesses s i 1 2 4 a)
    (hvalue : ∃ id, i.id 3 = .ok id ∧ e.operand s id = .ok value)
    (hformat : a.type.format.format? = some format) (hwriter : format.writer? = some layout)
    (hsize : v.texelSize = format.blockSize) :
    ∃ offsets s' m',
      (e.coordinates a).offsets (StoragePlane.ofRecord v.record false).layout (wordOf v.texelSize)
        (texelRule s.machine.device) = .ok offsets ∧
      e.imageWrite s i = .ok s' ∧
      s' = { s with machine := { s.machine with blocks := s'.machine.blocks } } ∧
      s'.machine.blocks[v.block]? = some m' ∧
      (∀ b, b ≠ v.block → s'.machine.blocks[b]? = s.machine.blocks[b]?) ∧
      v.WritesTexels e.storing offsets ((Texel.ofChannels value.components).map layout.encode)
        m m' ∧
      ∀ j typeId count, e.Accesses s' j 3 4 5 a → j.id 1 = .ok typeId →
        e.declarations.componentCount typeId = .ok count →
        (a.type.dimension = .subpassData → e.readFormat a.image a.type = .ok format) →
        ∃ texels, e.imageRead s' j = .ok ((Texel.channels texels).take count) ∧
          ∀ l h, e.active.get l ≠ 0 → v.Reaches e.storing offsets h →
            offsets.get h = offsets.get l →
            (∀ h', h < h' → v.Reaches e.storing offsets h' → offsets.get h' ≠ offsets.get h) →
            texels.get l =
              layout.decode (layout.encode ((Texel.ofChannels value.components).get h)) := by
  obtain ⟨valueId, hvalueId, hvalue⟩ := hvalue
  have hv := hview.created.valid
  have hrule := texelRule_ne_unchecked s.machine.device
  have hlayout := Format.layout?_of_writer? hwriter
  have hlayoutSize := Format.size_of_writer? hwriter
  have hlayoutTexel : layout.size = v.texelSize := by rw [hlayoutSize, hsize]
  obtain ⟨c, w, hsizes, hparts⟩ := exists_texelParts hv.texelSize_mem
  obtain ⟨offsets, hoffsets⟩ := Environment.offsets_eq_ok (e := e) haccess.components
    v.grid.layout (wordOf v.texelSize) (texelRule s.machine.device)
  have hwhole := TexelCoordinates.whole_offsets hv hoffsets
  have hwrite := Environment.imageWrite_eq hview haccess hvalueId hvalue hformat hwriter
    (by rw [hlayoutTexel]; exact hoffsets) (by rw [hlayoutTexel]; exact hsizes)
  obtain ⟨m', hm', hwrites, hothers⟩ := StorageView.writesTexels_storeWords e.storing hv hwhole
    hparts hrule hview.memory hview.size ((Texel.ofChannels value.components).map layout.encode)
  refine ⟨offsets, _, m', ?_, hwrite, rfl, hm', hothers, hwrites, ?_⟩
  · rw [StorageView.ofRecord_record]
    exact hoffsets
  intro j typeId count hread htypeId hcount hsubpass
  have hview' : e.Shows { s with machine := { s.machine with
      blocks := (v.pointer offsets).storeWords s.machine.blocks e.storing
        (texelRule s.machine.device) (.replicate c w)
        (PackedTexel.words ((Texel.ofChannels value.components).map layout.encode)) } } a.image v
      m' :=
    ⟨hview.created, hview.descriptor, hm', hwrites.size.trans hview.size⟩
  have hcolor := Format.depth_of_isWritable hlayout.1
  refine ⟨_, Environment.imageRead_eq hview' hread htypeId hcount
    (Environment.readFormat_eq a.image hformat hsubpass) hcolor hlayout.2
    (by rw [← hsize]; exact hoffsets) (by rw [← hsize]; exact hsizes), ?_⟩
  intro l h hactive hreaches heq hhighest
  have hl : v.Reaches e.active offsets l := ⟨hactive, heq ▸ hreaches.first, heq ▸ hreaches.last⟩
  have hbytes := hwrites.written h hreaches hhighest
  have hplace : v.texelAt offsets h = v.texelAt offsets l := by
    rw [StorageView.texelAt, StorageView.texelAt, heq]
  rw [hplace] at hbytes
  rw [Lanes.get_map, StorageView.decode_loadWords hv hwhole hparts hrule hm'
    (Format.fits_of_layout? hlayout.2) hlayoutTexel hl hbytes, Lanes.get_map]

/-! ### An image of four texels in a run -/

namespace Execution.Line

/-- A line of four signed bytes. -/
def view : ImageView :=
  ⟨2, ⟨0, 1, { kind := .dim1, format := .r8Snorm, extent := ⟨4, 1, 1⟩ }⟩, .dim1, .r8Snorm,
    .single .color, ⟨0, 1⟩, ⟨0, 1⟩⟩

/-- A shader with an image, a constant coordinate and a value. -/
def shader : Shader where
  device := 0
  module := ⟨[0x90019, 10, 3, 0, 0, 0, 0, 2, 20], []⟩
  entryName := "main"
  entryBlock := 0
  declarations := {
    types := (Std.TreeMap.empty.insert 10 ⟨.opTypeImage, 0, 1, none⟩).insert 11
      ⟨.opTypeVector, 0, 4, none⟩
    objects := ((Std.TreeMap.empty.insert 20 ⟨10, 0, .pointer⟩).insert 21
      ⟨12, 0, .constant [1]⟩).insert 22 ⟨11, 0, .intermediate⟩ }

def environment : Environment where
  shader
  layout := ⟨0, 0, []⟩
  bound := []
  sets := Std.TreeMap.empty.insert 5 {
    layout := ⟨0, 0, []⟩
    data := (SetData.zeroed 80).write 0 (StorageRecord.ofView view).cells }

/-- All lanes store to the second texel, the highest one minus one. -/
def state : State where
  machine := {
    blocks := Std.TreeMap.empty.insert 1 (.zeroed 4)
    device := {}
    cache := []
    events := [] }
  values := (Std.TreeMap.empty.insert 20 (.pointer (.descriptor ⟨5, 0⟩))).insert 22
    (.components [⟨0x3F800000, 0, 0, 0xBF800000⟩])

theorem view_created : (StorageView.image view).Created := by
  have himage : Image.create 0 1 {
      kind := .dim1, format := .r8Snorm, extent := ⟨4, 1, 1⟩ } = .ok (_, _) := rfl
  exact @StorageView.Created.image _ _ 2 _ _ _ {
    kind := .dim1, aspects := .single .color, mips := ⟨0, 1⟩, layers := ⟨0, 1⟩ } _ himage rfl

end Execution.Line

/-- The encoded value has more bits than the texel, and every lane reads it back. -/
theorem imageWrite_then_read_minus_one :
    ∃ s' texels,
      Line.environment.imageWrite Line.state ⟨0, [0, 20, 21, 22]⟩ = .ok s' ∧
      Line.environment.imageRead s' ⟨0, [0, 11, 23, 20, 21]⟩ =
        .ok ((Texel.channels texels).take 4) ∧
      ∀ l, (texels.get l).red = 0xBF800000 := by
  have hview : Line.environment.Shows Line.state 20 (.image Line.view) (.zeroed 4) :=
    ⟨Line.view_created, ⟨⟨5, 0⟩, rfl, by decide⟩, rfl, rfl⟩
  have haccess : Line.environment.Accesses Line.state ⟨0, [0, 20, 21, 22]⟩ 1 2 4
      ⟨20, ⟨3, .dim1D, false, false, .r8Snorm⟩, ⟨[.splat 1], true⟩, none⟩ :=
    ⟨rfl, rfl, ⟨21, rfl, rfl⟩, by decide, ⟨{}, none, rfl, rfl, rfl⟩⟩
  have hwriter : Format.r8Snorm.writer? = some (.uniform .snorm 8 1) := rfl
  obtain ⟨offsets, s', m', hoffsets, hwrite, hs', -, -, -, hread⟩ :=
    imageWrite_then_read hview haccess ⟨22, rfl, rfl⟩ rfl hwriter rfl
  have hone : offsets = .splat 1 := Except.ok.inj (hoffsets.symm.trans rfl)
  subst hone
  have hvalue (id : Nat) :
      Line.environment.operand s' id = Line.environment.operand Line.state id := by
    rw [hs']
    rfl
  obtain ⟨texels, htexels, hlanes⟩ := hread ⟨0, [0, 11, 23, 20, 21]⟩ 11 4
    ⟨rfl, rfl, ⟨21, rfl, (hvalue 21).trans rfl⟩, by decide, ⟨{}, none, rfl, rfl, rfl⟩⟩ rfl rfl
    (fun h => by cases h)
  refine ⟨s', texels, hwrite, htexels, ?_⟩
  intro l
  have hreaches : (StorageView.image Line.view).Reaches Line.environment.storing (.splat 1) 3 :=
    ⟨by decide, by decide, by decide⟩
  have hlast (h : Lane) : ¬ 3 < h := by
    revert h
    decide
  rw [hlanes l 3 ?_ hreaches (by rw [Lanes.get_splat, Lanes.get_splat])
    fun h hlt => absurd hlt (hlast h)]
  · decide +kernel
  · revert l
    decide

end HostGpu
