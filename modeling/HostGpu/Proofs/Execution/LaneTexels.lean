import HostGpu.Proofs.Execution.ImageAccess
import HostGpu.Proofs.Execution.StoringLanes
import HostGpu.Proofs.Execution.TexelAccess
import HostGpu.Proofs.Texel.ExactOffset

/-!
# Texels that lanes access

An image read or write accesses the texel of a lane word by word.  If the texels of the plane are
whole, the lane touches all bytes of its texel or none (`TexelAccess.exists_part_iff`): it does if
it is on and what remains of its offset lies within the size of the plane.  The bytes that it reads
are then those of the texel, and zero otherwise (`Environment.byte_loadTexels`).
-/

namespace HostGpu.Execution

open Outcome Spirv Shader

/-! ## The words of a texel -/

namespace TexelAccess

/-- A lane of an access touches a byte of a block. -/
def LaneTouches (x : TexelAccess) (l : Lane) (block j : Nat) : Prop :=
  x.pointer.block = some block ∧ x.enabled.get l ≠ 0 ∧
    x.pointer.lanes.address l ≤ j ∧ (j : Int) < x.pointer.lanes.address l + x.bytes

variable {x : TexelAccess} {p : TexelPointer} {mask : WordLanes} {rule : BoundsRule} {c w : Nat}
  {l : Lane} {block j : Nat}

/-- What an access touches, its lanes touch. -/
theorem touches_iff : x.Touches block j ↔ ∃ l, x.LaneTouches l block j := by
  constructor
  · rintro ⟨hblock, l, hon, hle, hlt⟩
    exact ⟨l, hblock, hon, hle, hlt⟩
  · rintro ⟨l, hblock, hon, hle, hlt⟩
    exact ⟨hblock, l, hon, hle, hlt⟩

theorem mem_parts_replicate {k : Nat} (hk : k < c) :
    ⟨p.advance (k * w), w, mask, rule⟩ ∈ parts p mask rule (.replicate c w) := by
  induction c generalizing p k with
  | zero => omega
  | succ c ih =>
    rw [List.replicate_succ, parts, List.mem_cons]
    cases k with
    | zero => exact .inl (by rw [Nat.zero_mul, TexelPointer.advance_zero])
    | succ k =>
      have hrest := ih (p := p.advance w) (k := k) (by omega)
      rw [TexelPointer.advance_advance] at hrest
      rw [Nat.succ_mul, Nat.add_comm]
      exact .inr hrest

/-- **A lane touches its whole texel** if the texel is in bounds, and else no byte of it. -/
theorem exists_part_iff {n : Nat} (h : p.lanes.Whole n) (hparts : TexelParts n c w)
    (hrule : rule ≠ .unchecked) :
    (∃ x ∈ parts p mask rule (.replicate c w), x.LaneTouches l block j) ↔
      p.block = some block ∧ p.lanes.makes n mask l = true ∧
        p.lanes.place l ≤ j ∧ j < p.lanes.place l + n := by
  have hmul := hparts.mul
  have hpos := hparts.pos
  -- the lane of one part, by what is known of the texel
  have hlane {k : Nat} (hk : k + w ≤ n) :
      LaneTouches ⟨p.advance k, w, mask, rule⟩ l block j ↔
        p.block = some block ∧ p.lanes.makes n mask l = true ∧
          p.lanes.place l + k ≤ j ∧ j < p.lanes.place l + k + w := by
    have hmakes : (p.advance k).lanes.makes w mask l = p.lanes.makes n mask l :=
      h.makes_advance hpos hk
    have henabled : ((p.advance k).lanes.accessMask w mask rule).get l ≠ 0 ↔
        p.lanes.makes n mask l = true := by
      rw [LanePointer.get_accessMask_ne_zero hrule, hmakes]
    show p.block = some block ∧ ((p.advance k).lanes.accessMask w mask rule).get l ≠ 0 ∧
      (p.advance k).lanes.address l ≤ j ∧ (j : Int) < (p.advance k).lanes.address l + w ↔ _
    rw [henabled]
    refine and_congr_right fun _ => and_congr_right fun hon => ?_
    have hin := (LanePointer.makes_iff.mp hon).2
    have hplace : (p.advance k).lanes.place l = p.lanes.place l + k :=
      h.place_advance (by omega) hin
    have haddress : (p.advance k).lanes.address l = (p.advance k).lanes.place l :=
      LanePointer.address_eq ((h.inBounds l k w hpos hk).trans hin)
    rw [haddress, hplace]
    omega
  constructor
  · rintro ⟨x, hx, htouches⟩
    obtain ⟨k, m, hm, hk, rfl⟩ := exists_advance_of_mem_parts hx
    obtain rfl := List.eq_of_mem_replicate hm
    rw [List.sum_replicate_nat, hmul] at hk
    obtain ⟨hblock, hon, hle, hlt⟩ := (hlane hk).mp htouches
    exact ⟨hblock, hon, by omega, by omega⟩
  · rintro ⟨hblock, hon, hle, hlt⟩
    -- the word that the byte lies in
    have hdiv := Nat.div_add_mod (j - p.lanes.place l) w
    have hmod := Nat.mod_lt (j - p.lanes.place l) hpos
    have hword : (j - p.lanes.place l) / w < c :=
      Nat.div_lt_of_lt_mul (by rw [Nat.mul_comm, hmul]; omega)
    have hroom := Nat.mul_le_mul_right w (Nat.succ_le_of_lt hword)
    rw [Nat.succ_mul, hmul] at hroom
    rw [Nat.mul_comm] at hdiv
    exact ⟨_, mem_parts_replicate hword, (hlane hroom).mpr ⟨hblock, hon, by omega, by omega⟩⟩

/-- A lane that has the offset of coordinates outside of the image touches nothing, whatever the
size of its texel is. -/
theorem not_laneTouches_of_outside {sizes : List Nat} (hx : x ∈ parts p mask rule sizes)
    (hsizes : sizes.sum ≤ 16) (hrule : rule ≠ .unchecked)
    (hlimit : p.lanes.limit ≤ StorageView.maxBytes)
    (houtside : p.lanes.distance l = Word.signed outOfBoundsOffset) :
    ¬ x.LaneTouches l block j := by
  have hfar : Word.signed outOfBoundsOffset = 2 ^ 31 - 17 := by decide
  have hmax : StorageView.maxBytes = 2 ^ 30 := rfl
  obtain ⟨k, n, -, hroom, rfl⟩ := exists_advance_of_mem_parts hx
  rintro ⟨-, hon, -, -⟩
  have hbounds : (p.advance k).lanes.laneInBounds n l = true :=
    (LanePointer.makes_iff.mp ((LanePointer.get_accessMask_ne_zero hrule).mp hon)).2
  -- the words of the texel do not lead back into bounds
  have haddress : (p.advance k).lanes.address l = p.lanes.address l + k :=
    LanePointer.address_advance (by omega) hbounds
  obtain ⟨-, hlast⟩ := LanePointer.laneInBounds_iff.mp hbounds
  have hbase : (p.advance k).lanes.base = p.lanes.base := rfl
  have hsame : (p.advance k).lanes.limit = p.lanes.limit := rfl
  simp only [LanePointer.address, hbase] at haddress
  omega

end TexelAccess

/-! ### The bytes that are loaded -/

namespace TexelPointer

variable {p : TexelPointer} {n c w : Nat} {blocks : BlockTable} {mask : WordLanes}
  {rule : BoundsRule} {l : Lane}

/-- The words of a texel that is loaded. -/
theorem get_loadWords (h : p.lanes.Whole n) (hparts : TexelParts n c w) (hrule : rule ≠ .unchecked)
    (j : Fin 4) :
    ((PackedTexel.ofWords (p.loadWords blocks mask rule (.replicate c w))).get l).get j =
      if p.lanes.makes n mask l = true ∧ j.val < c then
        (p.memory blocks).loadWord (p.lanes.place l + j.val * w) w
      else 0 := by
  have hmul := hparts.mul
  have hword := getElem?_loadWords (k := 0) (c := c) h hparts.pos hrule mask blocks (by omega) j.val
  rw [advance_zero, Nat.zero_add] at hword
  rw [PackedTexel.get_ofWords, hword]
  by_cases hj : j.val < c
  · rw [if_pos hj, Option.getD_some, Lanes.get_ofFn]
    by_cases hmakes : p.lanes.makes n mask l = true
    · rw [if_pos hmakes, if_pos ⟨hmakes, hj⟩]
    · rw [if_neg hmakes, if_neg fun h => hmakes h.1]
  · rw [if_neg hj, if_neg fun h => hj h.2, Option.getD_none, Lanes.get_splat]

/-- A lane that makes no access loads zeros. -/
theorem loadWords_eq_zero (h : p.lanes.Whole n) (hparts : TexelParts n c w)
    (hrule : rule ≠ .unchecked) (hoff : ¬ p.lanes.makes n mask l = true) :
    (PackedTexel.ofWords (p.loadWords blocks mask rule (.replicate c w))).get l = .zero := by
  have hword (j : Fin 4) :
      ((PackedTexel.ofWords (p.loadWords blocks mask rule (.replicate c w))).get l).get j = 0 := by
    rw [get_loadWords h hparts hrule, if_neg fun h => hoff h.1]
  have hfields := And.intro (hword 0) (And.intro (hword 1) (And.intro (hword 2) (hword 3)))
  generalize (PackedTexel.ofWords (p.loadWords blocks mask rule (.replicate c w))).get l = t
    at hfields
  obtain ⟨_, _, _, _⟩ := t
  obtain ⟨h₀, h₁, h₂, h₃⟩ := hfields
  exact PackedTexel.mk.injEq .. ▸ ⟨h₀, h₁, h₂, h₃⟩

/-- A lane that makes its access loads the bytes of its texel. -/
theorem byte_loadWords (h : p.lanes.Whole n) (hparts : TexelParts n c w)
    (hrule : rule ≠ .unchecked) (hon : p.lanes.makes n mask l = true) {block : Nat}
    (hblock : p.block = some block) {k : Nat} (hk : k < n) :
    ((PackedTexel.ofWords (p.loadWords blocks mask rule (.replicate c w))).get l).byte k =
      blocks.byte block (p.lanes.place l + k) := by
  have hmul := hparts.mul
  have hcount := hparts.count
  have hdiv := Nat.div_add_mod k w
  have hmod := Nat.mod_lt k hparts.pos
  have hword : k / w < c := Nat.div_lt_of_lt_mul (by rw [Nat.mul_comm, hmul]; exact hk)
  have hfin : (Fin.ofNat 4 (k / w)).val = k / w := Nat.mod_eq_of_lt (by omega)
  have hsum : k / w * w + k % w = k := by rw [Nat.mul_comm]; exact hdiv
  have hbyte := hparts.byte_eq
    ((PackedTexel.ofWords (p.loadWords blocks mask rule (.replicate c w))).get l) hword hmod
  rw [hsum] at hbyte
  rw [hbyte, get_loadWords h hparts hrule, hfin, if_pos ⟨hon, hword⟩,
    Memory.byte_loadWord _ _ hparts.le, if_pos hmod, byte_memory hblock, Nat.add_assoc, hsum]

end TexelPointer

/-! ## Texels of planes -/

/-- The instruction touches a byte of a block in a lane. -/
def LaneTouches (e : Environment) (s : State) (i : Instruction) (l : Lane) (block j : Nat) : Prop :=
  ∃ x, Performs e s i x ∧ x.LaneTouches l block j

namespace StoragePlane

variable {p : StoragePlane} {n c w : Nat} {offsets mask : WordLanes} {rule : BoundsRule} {l : Lane}

/-- The bytes that a lane touches of a plane. -/
theorem exists_part_iff (h : (p.pointerAt offsets).lanes.Whole n) (hn : 0 < n)
    (hparts : TexelParts n c w) (hrule : rule ≠ .unchecked) {block j : Nat} :
    (∃ x ∈ TexelAccess.parts (p.pointerAt offsets) mask rule (.replicate c w),
        x.LaneTouches l block j) ↔
      mask.get l ≠ 0 ∧ p.Covers n (Word.signed (offsets.get l)) block j := by
  have hblock : (p.pointerAt offsets).block = p.pointer.map (·.block) := rfl
  have hbase : (p.pointerAt offsets).lanes.base = p.pointer.elim 0 (·.offset) := rfl
  rw [TexelAccess.exists_part_iff h hparts hrule, makes_pointerAt hn, hblock, LanePointer.place,
    distance_pointerAt, hbase, Covers]
  cases hp : p.pointer with
  | none => simp
  | some first =>
    obtain ⟨b, first⟩ := first
    simp only [Option.map_some, Option.elim_some, Option.some.injEq, Pointer.mk.injEq]
    constructor
    · rintro ⟨rfl, ⟨hon, hholds⟩, hle, hlt⟩
      have hpos := hholds.1
      exact ⟨hon, hholds, first, ⟨rfl, rfl⟩, by omega, by omega⟩
    · rintro ⟨hon, hholds, _, ⟨rfl, rfl⟩, hle, hlt⟩
      have hpos := hholds.1
      exact ⟨rfl, ⟨hon, hholds⟩, by omega, by omega⟩

end StoragePlane

variable {e : Environment} {s : State} {i : Instruction} {l : Lane} {block j : Nat}

theorem laneTouches_imageRead_iff (hop : i.op? = some .opImageRead) {load : Environment.TexelLoad}
    (hload : e.imageLoad s i = .ok load) : LaneTouches e s i l block j ↔
      ∃ x ∈ TexelAccess.parts load.pointer e.active (texelRule s.machine.device) load.sizes,
        x.LaneTouches l block j := by
  constructor
  · rintro ⟨x, hx, htouches⟩
    cases hx with
    | imageRead _ hload' hx =>
      obtain rfl : load = _ := Except.ok.inj (hload.symm.trans hload')
      exact ⟨x, hx, htouches⟩
    | imageWrite hop' | load hop' | store hop' | add hop' => cases hop.symm.trans hop'
  · rintro ⟨x, hx, htouches⟩
    exact ⟨x, .imageRead hop hload hx, htouches⟩

theorem laneTouches_imageWrite_iff (hop : i.op? = some .opImageWrite)
    {store : Environment.TexelStore} (hstore : e.imageStore s i = .ok store) :
    LaneTouches e s i l block j ↔
      ∃ x ∈ TexelAccess.parts store.pointer e.storing (texelRule s.machine.device) store.sizes,
        x.LaneTouches l block j := by
  constructor
  · rintro ⟨x, hx, htouches⟩
    cases hx with
    | imageWrite _ hstore' hx =>
      obtain rfl : store = _ := Except.ok.inj (hstore.symm.trans hstore')
      exact ⟨x, hx, htouches⟩
    | imageRead hop' | load hop' | store hop' | add hop' => cases hop.symm.trans hop'
  · rintro ⟨x, hx, htouches⟩
    exact ⟨x, .imageWrite hop hstore hx, htouches⟩

/-! ## Image reads and writes -/

/-- What a lane loads of a plane at a distance from its start: the bytes of the texel there if the
lane is on and the texel lies in the plane, and else zeros. -/
structure StoragePlane.Loads (p : StoragePlane) (n : Nat) (blocks : BlockTable) (on : Prop)
    (distance : Int) (t : PackedTexel) : Prop where
  bytes : on → p.Holds n distance → ∀ block first, p.pointer = some ⟨block, first⟩ →
    ∀ k < n, t.byte k = blocks.byte block (first + distance.toNat + k)
  zero : ¬ (on ∧ p.Holds n distance) → t = .zero

theorem StoragePlane.loads_loadWords {p : StoragePlane} {n c w : Nat} {offsets mask : WordLanes}
    {rule : BoundsRule} {l : Lane} (h : (p.pointerAt offsets).lanes.Whole n) (hn : 0 < n)
    (hparts : TexelParts n c w) (hrule : rule ≠ .unchecked) (blocks : BlockTable) :
    p.Loads n blocks (mask.get l ≠ 0) (Word.signed (offsets.get l))
      ((PackedTexel.ofWords
        ((p.pointerAt offsets).loadWords blocks mask rule (.replicate c w))).get l) where
  bytes hon hholds block first hp k hk := by
    have hmakes := (makes_pointerAt hn).mpr ⟨hon, hholds⟩
    have hblock : (p.pointerAt offsets).block = some block := by
      show p.pointer.map (·.block) = some block
      rw [hp, Option.map_some]
    have hplace : (p.pointerAt offsets).lanes.place l =
        first + (Word.signed (offsets.get l)).toNat := by
      rw [LanePointer.place, distance_pointerAt]
      show p.pointer.elim 0 (·.offset) + _ = _
      rw [hp, Option.elim_some]
    rw [TexelPointer.byte_loadWords h hparts hrule hmakes hblock hk, hplace]
  zero hoff := by
    refine TexelPointer.loadWords_eq_zero h hparts hrule ?_
    intro hmakes
    exact hoff ((makes_pointerAt hn).mp hmakes)

/-- Texels of all formats can be loaded. -/
theorem planeFormat_blockSize_mem {format : Format} (h : format ≠ .undefined) (stencil : Bool) :
    (Environment.planeFormat format stencil).blockSize ∈ texelSizes := by
  revert h
  cases format <;> cases stencil <;> decide

namespace Environment.Accesses

variable {a : ImageAccess} {address : DescriptorAddress} {plane : StoragePlane} {n : Nat}

/-- The pointer to the texels that an image instruction accesses. -/
theorem texelPointer_eq {imageAt coordinateAt operandsAt : Nat}
    (haccess : e.Accesses s i imageAt coordinateAt operandsAt a)
    (haddress : s.descriptor a.image = .ok address) {stencil : Bool}
    (hplane : plane = .ofRecord (e.storageRecord address) stencil) {sample : Option Nat}
    (hsample : e.samples s sample = .ok a.sample) (rule : BoundsRule) :
    e.texelPointer s {
        image := a.image, type := a.type, coordinate := a.coordinate, sample, texelSize := n,
        stencil, rule } =
      .ok (plane.pointerAt ((e.coordinates a).resolved plane.layout n rule)) := by
  have hoffsets := TexelCoordinates.offsets_eq_resolved (c := e.coordinates a) haccess.components
    plane.layout n rule
  subst hplane
  rw [coordinates] at hoffsets ⊢
  simp only [texelPointer, haddress, hsample, ok_bind, hoffsets]
  rfl

/-- What an image read loads, if texels of that size can be loaded. -/
theorem imageLoad_eq (haccess : e.Accesses s i 3 4 5 a)
    (haddress : s.descriptor a.image = .ok address) {format : Format} {stencil : Bool}
    (hformat : e.readFormat a.image a.type = .ok format)
    (hstencil : e.readsStencil a.type format = .ok stencil)
    (hplane : plane = .ofRecord (e.storageRecord address) stencil)
    (hsize : (planeFormat format stencil).blockSize = n) {offsets : WordLanes}
    (hoffsets : offsets =
      (e.coordinates a).resolved plane.layout n (texelRule s.machine.device)) :
    e.imageLoad s i = (TexelPointer.accessSizes n).map
      fun sizes => ⟨plane.pointerAt offsets, planeFormat format stencil, sizes⟩ := by
  obtain ⟨coordinateId, hcoordinateId, hcoordinate⟩ := haccess.coordinate
  obtain ⟨operands, sampleId, hoperands, hsampleId, hsample⟩ := haccess.sample
  have hpointer := haccess.texelPointer_eq (n := n) haddress hplane hsample
    (texelRule s.machine.device)
  rw [← hoffsets] at hpointer
  simp only [imageLoad, haccess.image, haccess.type, hcoordinateId, hcoordinate, hoperands,
    hsampleId, hformat, hstencil, hsize, ok_bind, hpointer]
  cases TexelPointer.accessSizes n <;> rfl

/-- What an image read of a plane of whole texels touches and loads. -/
theorem reads_plane (haccess : e.Accesses s i 3 4 5 a) (hop : i.op? = some .opImageRead)
    (haddress : s.descriptor a.image = .ok address) {format : Format} {stencil : Bool}
    (hformat : e.readFormat a.image a.type = .ok format)
    (hstencil : e.readsStencil a.type format = .ok stencil)
    (hplane : plane = .ofRecord (e.storageRecord address) stencil)
    (hsize : (planeFormat format stencil).blockSize = n) (hfits : plane.Fits n)
    {offsets : WordLanes} (hoffsets : offsets =
      (e.coordinates a).resolved plane.layout n (texelRule s.machine.device)) :
    ∃ load, e.imageLoad s i = .ok load ∧ load.format = planeFormat format stencil ∧ ∀ l,
      (∀ block j, LaneTouches e s i l block j ↔
        e.active.get l ≠ 0 ∧ plane.Covers n (Word.signed (offsets.get l)) block j) ∧
      plane.Loads n s.machine.blocks (e.active.get l ≠ 0) (Word.signed (offsets.get l))
        ((e.loadTexels s load).get l) := by
  have hrule := texelRule_ne_unchecked s.machine.device
  have hpos := pos_of_mem_texelSizes hfits.mem
  obtain ⟨c, w, hsizes, hparts⟩ := exists_texelParts hfits.mem
  have hwhole := hfits.whole (TexelCoordinates.offsets_eq_resolved (c := e.coordinates a)
    haccess.components plane.layout n (texelRule s.machine.device))
  rw [← hoffsets] at hwhole
  have hload := haccess.imageLoad_eq haddress hformat hstencil hplane hsize hoffsets
  rw [hsizes] at hload
  refine ⟨_, hload, rfl, fun l => ⟨fun block j => ?_, ?_⟩⟩
  · exact (laneTouches_imageRead_iff hop hload).trans
      (StoragePlane.exists_part_iff hwhole hpos hparts hrule)
  · exact StoragePlane.loads_loadWords hwhole hpos hparts hrule s.machine.blocks

/-- A lane of an image read whose coordinates are found outside touches nothing. -/
theorem not_laneTouches_of_outside (haccess : e.Accesses s i 3 4 5 a)
    (hop : i.op? = some .opImageRead) (haddress : s.descriptor a.image = .ok address)
    {format : Format} {stencil : Bool} (hformat : e.readFormat a.image a.type = .ok format)
    (hstencil : e.readsStencil a.type format = .ok stencil)
    (hplane : plane = .ofRecord (e.storageRecord address) stencil)
    (hsize : (planeFormat format stencil).blockSize = n)
    (hlimit : plane.start.lanes.limit ≤ StorageView.maxBytes) {offsets : WordLanes}
    (hoffsets : offsets = (e.coordinates a).resolved plane.layout n (texelRule s.machine.device))
    (houtside : offsets.get l = outOfBoundsOffset) : ¬ LaneTouches e s i l block j := by
  have hrule := texelRule_ne_unchecked s.machine.device
  have hload := haccess.imageLoad_eq haddress hformat hstencil hplane hsize hoffsets
  cases hsizes : TexelPointer.accessSizes n with
  | error f =>
    rw [hsizes] at hload
    rintro ⟨x, hx, -⟩
    cases hx with
    | imageRead _ hload' => cases hload.symm.trans hload'
    | imageWrite hop' | load hop' | store hop' | add hop' => cases hop.symm.trans hop'
  | ok sizes =>
    obtain ⟨hsum, hle⟩ := TexelPointer.sum_of_accessSizes hsizes
    rw [hsizes] at hload
    rw [laneTouches_imageRead_iff hop hload]
    rintro ⟨x, hx, htouches⟩
    refine TexelAccess.not_laneTouches_of_outside hx (hsum.trans_le hle) hrule hlimit ?_ htouches
    rw [StoragePlane.distance_pointerAt, houtside]

/-- What an image write to a plane of whole texels touches. -/
theorem writes_plane (haccess : e.Accesses s i 1 2 4 a) (hop : i.op? = some .opImageWrite)
    (haddress : s.descriptor a.image = .ok address)
    (hvalue : ∃ id value, i.id 3 = .ok id ∧ e.operand s id = .ok value) {format : Format}
    {layout : ChannelLayout} (hformat : a.type.format.format? = some format)
    (hwriter : format.writer? = some layout)
    (hplane : plane = .ofRecord (e.storageRecord address) false) (hsize : format.blockSize = n)
    (hfits : plane.Fits n) {offsets : WordLanes} (hoffsets : offsets =
      (e.coordinates a).resolved plane.layout n (texelRule s.machine.device)) :
    ∃ s', e.imageWrite s i = .ok s' ∧ ∀ l block j, LaneTouches e s i l block j ↔
      e.storing.get l ≠ 0 ∧ plane.Covers n (Word.signed (offsets.get l)) block j := by
  have hrule := texelRule_ne_unchecked s.machine.device
  have hpos := pos_of_mem_texelSizes hfits.mem
  have hlayout : layout.size = n := (Format.size_of_writer? hwriter).trans hsize
  obtain ⟨c, w, hsizes, hparts⟩ := exists_texelParts hfits.mem
  obtain ⟨coordinateId, hcoordinateId, hcoordinate⟩ := haccess.coordinate
  obtain ⟨operands, sampleId, hoperands, hsampleId, hsample⟩ := haccess.sample
  obtain ⟨valueId, value, hvalueId, hvalue⟩ := hvalue
  have hpointer := haccess.texelPointer_eq (n := n) haddress hplane hsample
    (texelRule s.machine.device)
  have hwhole := hfits.whole (TexelCoordinates.offsets_eq_resolved (c := e.coordinates a)
    haccess.components plane.layout n (texelRule s.machine.device))
  rw [← hoffsets] at hpointer hwhole
  have hstore : e.imageStore s i = .ok ⟨plane.pointerAt offsets, .replicate c w,
      PackedTexel.words ((Texel.ofChannels value.components).map layout.encode)⟩ := by
    simp only [imageStore, haccess.image, haccess.type, hcoordinateId, hcoordinate, hvalueId,
      hvalue, hoperands, hsampleId, hformat, hwriter, hlayout, ok_bind, hpointer, hsizes]
    rfl
  have hwrite : ∃ s', e.imageWrite s i = .ok s' := by
    rw [imageWrite, hstore, ok_bind]
    exact ⟨_, rfl⟩
  obtain ⟨s', hs'⟩ := hwrite
  refine ⟨s', hs', fun l block j => ?_⟩
  exact (laneTouches_imageWrite_iff hop hstore).trans
    (StoragePlane.exists_part_iff hwhole hpos hparts hrule)

end Environment.Accesses

end HostGpu.Execution
