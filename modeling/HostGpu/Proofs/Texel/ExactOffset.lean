import HostGpu.Proofs.Texel.WholeTexel

/-!
# Offsets before they wrap

The offset of a texel is a sum of products of words.  `TexelCoordinates.exactOffset` is the same sum
in integers, and the word is what remains of it in 32 bits (`TexelCoordinates.offset_position`).  A
lane is in bounds of a plane by the number that remains, so that a lane far outside may be taken for
one inside.  Whatever remains is a multiple of the texels of the plane, as long as all pitches and
the size are: planes of the records of views are such planes (`StoragePlane.Fits`).
-/

namespace HostGpu

open Execution StorageView

/-! ## Sums of products -/

namespace TexelCoordinates

/-- The column of a lane, with the position of a fragment that reads subpass data. -/
def exactColumn (c : TexelCoordinates) (l : Lane) : Int :=
  Word.signed (c.component l 0) + c.subpass.elim 0 fun s => Word.signed (s.x.get l)

/-- The row of a lane. -/
def exactRow (c : TexelCoordinates) (l : Lane) : Int :=
  Word.signed (c.component l 1) + c.subpass.elim 0 fun s => Word.signed (s.y.get l)

/-- The depth slices and layers before that of a lane, and those before the view of a subpass. -/
def exactSlice (c : TexelCoordinates) (l : Lane) : Int :=
  (if 2 < c.dimensions then Word.signed (c.component l 2) else 0) +
    (if c.arrayed then Word.signed (c.component l c.dimensions) else 0) +
    c.subpass.elim 0 fun s => s.view.toNat

/-- The number of the sample of a lane. -/
def exactSample (c : TexelCoordinates) (l : Lane) : Int :=
  c.sample.elim 0 fun s => Word.signed (s.get l)

/-- The byte offset of the texel of a lane, in integers. -/
def exactOffset (c : TexelCoordinates) (layout : TexelLayout) (texel : Nat) (l : Lane) : Int :=
  c.exactColumn l * texel + (if 1 < c.dimensions then c.exactRow l * layout.rowPitch.toNat else 0) +
    c.exactSlice l * layout.slicePitch.toNat + c.exactSample l * layout.samplePitch.toNat

variable (c : TexelCoordinates) (l : Lane)

theorem ofInt_exactColumn : Word.ofInt (c.exactColumn l) = (c.position l).u := by
  cases hs : c.subpass <;> simp [exactColumn, position, hs, Word.ofInt_add]

theorem ofInt_exactRow : Word.ofInt (c.exactRow l) = (c.position l).v := by
  cases hs : c.subpass <;> simp [exactRow, position, hs, Word.ofInt_add]

theorem ofInt_exactSample :
    Word.ofInt (c.exactSample l) = (c.sample.map (·.get l)).elim 0 id := by
  cases hs : c.sample with
  | none => simp [exactSample, hs]; rfl
  | some s => simp [exactSample, hs]

/-- Lanes that count neither depth nor layers have none. -/
theorem position_w_mul (pitch : UInt32) :
    (if (c.position l).sliced then (c.position l).w * pitch else 0) = (c.position l).w * pitch := by
  by_cases h : (c.position l).sliced = true
  · rw [if_pos h]
  · have hzero : (c.position l).w = 0 := by
      simp only [position, Bool.or_eq_true, decide_eq_true_eq, not_or] at h
      simp [position, h.1, h.2]
    rw [if_neg h, hzero, UInt32.zero_mul]

theorem ofInt_exactSlice :
    Word.ofInt (c.exactSlice l) = (c.position l).w + (c.position l).view.elim 0 id := by
  have hzero : Word.ofInt 0 = 0 := rfl
  have hdepth : Word.ofInt (if 2 < c.dimensions then Word.signed (c.component l 2) else 0) =
      if 2 < c.dimensions then c.component l 2 else 0 := by
    split
    · exact Word.ofInt_signed _
    · exact hzero
  have hlayer : Word.ofInt (if c.arrayed then Word.signed (c.component l c.dimensions) else 0) =
      if c.arrayed then c.component l c.dimensions else 0 := by
    split
    · exact Word.ofInt_signed _
    · exact hzero
  rw [exactSlice, Word.ofInt_add, Word.ofInt_add, hdepth, hlayer]
  cases hs : c.subpass <;> simp [position, hs, hzero, Word.ofInt_toNat]

/-- The offset is what remains of the sum in a word. -/
theorem offset_position (layout : TexelLayout) (texel : Nat) :
    (c.position l).offset layout (wordOf texel) = Word.ofInt (c.exactOffset layout texel l) := by
  have hrow : Word.ofInt (if 1 < c.dimensions then c.exactRow l * layout.rowPitch.toNat else 0) =
      if 1 < (c.position l).dimensions then (c.position l).v * layout.rowPitch else 0 := by
    show _ = if 1 < c.dimensions then (c.position l).v * layout.rowPitch else 0
    split
    · rw [Word.ofInt_mul, ofInt_exactRow, Word.ofInt_toNat]
    · rfl
  have hview : (c.position l).view.elim 0 (· * layout.slicePitch) =
      (c.position l).view.elim 0 id * layout.slicePitch := by
    cases (c.position l).view <;> simp
  have hsample : (c.position l).sample.elim 0 (· * layout.samplePitch) =
      (c.sample.map (·.get l)).elim 0 id * layout.samplePitch := by
    show (c.sample.map (·.get l)).elim 0 (· * layout.samplePitch) = _
    cases c.sample <;> simp
  rw [exactOffset, Word.ofInt_add, Word.ofInt_add, Word.ofInt_add, hrow]
  rw [Word.ofInt_mul, Word.ofInt_mul, Word.ofInt_mul, ofInt_exactColumn, ofInt_exactSlice,
    ofInt_exactSample, Word.ofInt_natCast, Word.ofInt_toNat, Word.ofInt_toNat, UInt32.add_mul]
  rw [TexelPosition.offset, hview, hsample, position_w_mul]
  ac_rfl

end TexelCoordinates

/-! ## What remains of an offset -/

namespace TexelCoordinates

/-- The signed number that remains in 32 bits of the offset of the texel of a lane. -/
def wrappedOffset (c : TexelCoordinates) (layout : TexelLayout) (texel : Nat) (l : Lane) : Int :=
  (c.exactOffset layout texel l).bmod (2 ^ 32)

variable {c : TexelCoordinates} {layout : TexelLayout} {texel : Nat} {l : Lane}

/-- Offsets in the range of signed words remain what they are. -/
theorem wrappedOffset_eq_exactOffset (h : -2 ^ 31 ≤ c.exactOffset layout texel l)
    (h' : c.exactOffset layout texel l < 2 ^ 31) :
    c.wrappedOffset layout texel l = c.exactOffset layout texel l :=
  Word.bmod_eq_self h h'

/-- The offsets of all lanes, for coordinates that have a component. -/
def resolved (c : TexelCoordinates) (layout : TexelLayout) (texel : Nat) (rule : BoundsRule) :
    WordLanes :=
  .ofFn fun l => (c.position l).resolve layout (wordOf texel) rule

theorem offsets_eq_resolved (h : c.components ≠ []) (layout : TexelLayout) (texel : Nat)
    (rule : BoundsRule) :
    c.offsets layout (wordOf texel) rule = .ok (c.resolved layout texel rule) := by
  simp [offsets, resolved, h]

/-- Without a test of coordinates a lane gets the offset that they lead to. -/
theorem signed_resolved {rule : BoundsRule} (hrule : rule ≠ .nullify) :
    Word.signed ((c.resolved layout texel rule).get l) = c.wrappedOffset layout texel l := by
  rw [resolved, Lanes.get_ofFn, TexelPosition.resolve, if_neg fun h => hrule h.1, offset_position,
    Word.signed_ofInt, wrappedOffset]

end TexelCoordinates

/-! ## Planes whose texels are whole -/

/-- The numbers that a layout holds. -/
def TexelLayout.grid (layout : TexelLayout) : Grid where
  width := layout.width.toNat
  height := layout.height.toNat
  depth := layout.depth.toNat
  rowPitch := layout.rowPitch.toNat
  slicePitch := layout.slicePitch.toNat
  samplePitch := layout.samplePitch.toNat
  sampleCount := layout.sampleCount.toNat

theorem TexelLayout.layout_grid (layout : TexelLayout) : layout.grid.layout = layout := by
  simp [grid, Grid.layout]

/-- Cutting numbers to words leaves multiples of texels what they are. -/
theorem StorageView.Grid.Multiple.grid_layout {g : Grid} {texel : Nat} (h : g.Multiple texel)
    (htexel : texel ∈ texelSizes) : g.layout.grid.Multiple texel := by
  have hword := dvd_of_mem_texelSizes htexel
  exact ⟨(Word.dvd_toNat_ofNat hword).mpr h.rowPitch, (Word.dvd_toNat_ofNat hword).mpr h.slicePitch,
    (Word.dvd_toNat_ofNat hword).mpr h.samplePitch⟩

namespace Execution.StoragePlane

/-- The pointer to texels of a plane. -/
def pointerAt (p : StoragePlane) (offsets : WordLanes) : TexelPointer :=
  { p.start with lanes := p.start.lanes.advance offsets }

/-- The pitches and the size of a plane are multiples of its texels, and the plane is no larger than
a block may be. -/
structure Fits (p : StoragePlane) (texel : Nat) : Prop where
  mem : texel ∈ texelSizes
  multiple : p.layout.grid.Multiple texel
  dvd : texel ∣ p.start.lanes.limit
  le : p.start.lanes.limit ≤ maxBytes

/-- A texel at a distance from the start of a plane lies within its size. -/
def Holds (p : StoragePlane) (texel : Nat) (distance : Int) : Prop :=
  0 ≤ distance ∧ distance + texel ≤ Word.signed p.size

/-- A byte of a block belongs to the texel of a plane at a distance from its start. -/
def Covers (p : StoragePlane) (texel : Nat) (distance : Int) (block j : Nat) : Prop :=
  p.Holds texel distance ∧ ∃ first, p.pointer = some ⟨block, first⟩ ∧
    first + distance ≤ j ∧ (j : Int) < first + distance + texel

variable {p : StoragePlane} {texel : Nat} {offsets mask : WordLanes} {l : Lane}

theorem distance_pointerAt : (p.pointerAt offsets).lanes.distance l =
    Word.signed (offsets.get l) :=
  LanePointer.distance_advance_start _ _ _ _

theorem makes_pointerAt (htexel : 0 < texel) :
    (p.pointerAt offsets).lanes.makes texel mask l = true ↔
      mask.get l ≠ 0 ∧ p.Holds texel (Word.signed (offsets.get l)) := by
  have hlimit : (p.pointerAt offsets).lanes.limit = (Word.signed p.size).toNat := rfl
  rw [LanePointer.makes_iff, LanePointer.laneInBounds_iff, distance_pointerAt, hlimit, Holds]
  refine and_congr_right fun _ => and_congr_right fun _ => ?_
  omega

namespace Fits

variable (h : p.Fits texel)
include h

/-- Whatever the coordinates are, what remains of an offset is on the grid of texels. -/
theorem dvd_offset (c : TexelCoordinates) (l : Lane) :
    (texel : Int) ∣ Word.signed ((c.position l).offset p.layout (wordOf texel)) := by
  have hdvd := (c.position l).dvd_offset h.multiple h.mem
  rwa [p.layout.layout_grid] at hdvd

/-- Lanes access whole texels. -/
theorem whole {c : TexelCoordinates} {rule : BoundsRule}
    (hoffsets : c.offsets p.layout (wordOf texel) rule = .ok offsets) :
    (p.pointerAt offsets).lanes.Whole texel := by
  refine LanePointer.whole_of_dvd h.mem h.dvd h.le ?_
  intro l
  simp only [TexelCoordinates.offsets, Outcome.ite_error_eq_ok, Except.ok.injEq] at hoffsets
  rw [distance_pointerAt, ← hoffsets.2, Lanes.get_ofFn, TexelPosition.resolve]
  split
  · exact .inr rfl
  · exact .inl (h.dvd_offset c l)

end Fits

end Execution.StoragePlane

namespace StorageView

/-- Bytes of a texel in the plane that an access uses. -/
def planeTexel (v : StorageView) (stencil : Bool) : Nat := if stencil then 1 else v.texelSize

/-- The planes of the record of a view are made of whole texels. -/
theorem Valid.fits {v : StorageView} (h : v.Valid) (stencil : Bool) :
    (StoragePlane.ofRecord v.record stencil).Fits (v.planeTexel stencil) := by
  cases stencil with
  | false =>
    have hstart := h.start_ofRecord
    have hlayout : (StoragePlane.ofRecord v.record false).layout = v.grid.layout := by
      rw [ofRecord_record]
    refine ⟨h.texelSize_mem, ?_, ?_, ?_⟩
    · rw [hlayout]
      exact h.grid_multiple.grid_layout h.texelSize_mem
    · rw [hstart]
      exact h.dvd_bytes
    · rw [hstart]
      exact h.bytes_le
  | true =>
    have hone : 1 ∈ texelSizes := by decide
    refine ⟨hone, ⟨Nat.one_dvd _, Nat.one_dvd _, Nat.one_dvd _⟩, Nat.one_dvd _, ?_⟩
    rcases h.start_ofRecord_region true with hlimit | ⟨limit, hstart, hend, hroom⟩
    · rw [hlimit]
      exact Nat.zero_le _
    · have hbytes := h.blockBytes_le
      have hmax : maxBytes = Memory.maxSize := rfl
      rw [hstart]
      show limit ≤ maxBytes
      omega

end StorageView

end HostGpu
