import HostGpu.Memory.LanePointer

/-!
# Addresses of texels

A storage image, texel buffer or input attachment is addressed by coordinates in every lane. The
offset of a texel is the sum of the coordinates times their pitches, in words that wrap. Under the
rule `nullify` a lane whose coordinates lie outside of the image gets `outOfBoundsOffset` instead,
which is above the size of every block.
-/

namespace HostGpu

/-- The offset of lanes whose coordinates lie outside of the image. -/
def outOfBoundsOffset : UInt32 := 0x7FFFFFFF - 16

/-- The extent and pitches that coordinates are checked against and multiplied by. -/
structure TexelLayout where
  width : UInt32
  height : UInt32
  depth : UInt32
  rowPitch : UInt32
  slicePitch : UInt32
  samplePitch : UInt32
  sampleCount : UInt32
deriving DecidableEq, Repr

/-- The place of a fragment that reads subpass data. -/
structure SubpassPosition where
  x : WordLanes
  y : WordLanes
  view : UInt32
deriving DecidableEq, Repr

/-- The coordinates of texels in lanes. The layer, if the image is arrayed, is the last component;
the layers of a cube are counted by face. -/
structure TexelCoordinates where
  components : List WordLanes
  arrayed : Bool
  cube : Bool
  sample : Option WordLanes
  subpass : Option SubpassPosition
deriving DecidableEq, Repr

/-- The coordinates of one lane, with the position of a subpass already added. -/
structure TexelPosition where
  u : UInt32
  v : UInt32
  /-- Depth and layer together. -/
  w : UInt32
  /-- Coordinates other than the layer. -/
  dimensions : Nat
  /-- Whether depth or layer is used. -/
  sliced : Bool
  cube : Bool
  sample : Option UInt32
  view : Option UInt32
deriving DecidableEq, Repr

namespace TexelPosition

/-- The wrapped sum of the coordinates times their pitches. -/
def offset (p : TexelPosition) (layout : TexelLayout) (texelSize : UInt32) : UInt32 :=
  let row := if 1 < p.dimensions then p.v * layout.rowPitch else 0
  let slice := if p.sliced then p.w * layout.slicePitch else 0
  let view := p.view.elim 0 (· * layout.slicePitch)
  let sample := p.sample.elim 0 (· * layout.samplePitch)
  p.u * texelSize + row + slice + view + sample

/-- The number of depth slices or layers; a cube has six for each. -/
def sliceCount (p : TexelPosition) (layout : TexelLayout) : UInt32 :=
  if p.cube then layout.depth * 6 else layout.depth

/-- Whether some coordinate lies outside of the image. The view of a subpass is not checked. -/
def isOutside (p : TexelPosition) (layout : TexelLayout) : Bool :=
  layout.width ≤ p.u ||
    (1 < p.dimensions && layout.height ≤ p.v) ||
    (p.sliced && p.sliceCount layout ≤ p.w) ||
    p.sample.elim false (layout.sampleCount ≤ ·)

/-- The offset that a lane accesses. -/
def resolve (p : TexelPosition) (layout : TexelLayout) (texelSize : UInt32) (rule : BoundsRule) :
    UInt32 :=
  if rule = .nullify ∧ p.isOutside layout then outOfBoundsOffset else p.offset layout texelSize

end TexelPosition

namespace TexelCoordinates

/-- The coordinates other than the layer. -/
def dimensions (c : TexelCoordinates) : Nat := c.components.length - if c.arrayed then 1 else 0

/-- One component in one lane, zero if there are fewer components. -/
def component (c : TexelCoordinates) (l : Lane) (i : Nat) : UInt32 :=
  c.components[i]?.elim 0 (·.get l)

/-- The coordinates of one lane. -/
def position (c : TexelCoordinates) (l : Lane) : TexelPosition where
  u := c.component l 0 + c.subpass.elim 0 (·.x.get l)
  v := c.component l 1 + c.subpass.elim 0 (·.y.get l)
  w := (if 2 < c.dimensions then c.component l 2 else 0) +
    if c.arrayed then c.component l c.dimensions else 0
  dimensions := c.dimensions
  sliced := 2 < c.dimensions || c.arrayed
  cube := c.cube
  sample := c.sample.map (·.get l)
  view := c.subpass.map (·.view)

/-- The byte offset of the texel in every lane. There has to be a component. -/
def offsets (c : TexelCoordinates) (layout : TexelLayout) (texelSize : UInt32)
    (rule : BoundsRule) : Except Fault WordLanes :=
  if c.components.isEmpty then .error .emptyCoordinates
  else .ok (.ofFn fun l => (c.position l).resolve layout texelSize rule)

end TexelCoordinates

end HostGpu
