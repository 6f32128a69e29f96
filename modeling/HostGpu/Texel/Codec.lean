import HostGpu.Format.Basic
import HostGpu.Number.Half
import HostGpu.Number.Power
import HostGpu.Texel.Basic

/-!
# Reading and writing texels

`Format.layout?` says for every format that shaders can read where the bits of each channel lie and
how they are read. `ChannelLayout.decode` reads a texel by it and fills absent channels with zero,
or with one for alpha. `Format.writer?` is the layout of the formats that shaders can also write and
`ChannelLayout.encode` writes by it.

Normalised channels are written by rounding to nearest, ties to even. The unsigned floating point
channels of 11 and 10 bits are halves without sign and low fraction bits; writing cuts these bits.
The highest signed normalised channel of a word is not cut to its width, so the bits above a narrow
texel repeat its sign; a store of the texel's own bytes drops them.
-/

namespace HostGpu

-- Powers and sums mean the same whether or not algebra is in scope.
attribute [local instance (high)] instPowNat Zero.ofOfNat0

/-! ## The sRGB curve -/

/-- The linear intensity of an sRGB value: a line near zero and a power above. -/
def srgbToLinear (c : UInt32) : UInt32 :=
  if Single.lt c (Single.ofRatio 4045 100000) then Single.div c (Single.ofRatio 1292 100)
  else
    Single.pow (Single.div (Single.add c (Single.ofRatio 55 1000)) (Single.ofRatio 1055 1000))
      (Single.ofRatio 24 10)

/-! ## Channels -/

/-- How the bits of a channel stand for a value. -/
inductive ChannelKind where
  | unorm
  | snorm
  | uint
  | sint
  | float
  | srgb
deriving DecidableEq, Repr

/-- Where the bits of a channel lie in a packed texel. -/
structure ChannelField where
  word : Fin 4
  shift : Nat
  bits : Nat
deriving DecidableEq, Repr

/-- The channels of a format from red on; the ones missing at the end are absent. -/
structure ChannelLayout where
  kind : ChannelKind
  fields : List ChannelField
deriving DecidableEq, Repr

namespace PackedTexel

/-- The word with a given number. -/
def get (p : PackedTexel) : Fin 4 → UInt32
  | 0 => p.word0
  | 1 => p.word1
  | 2 => p.word2
  | 3 => p.word3

def ofFn (f : Fin 4 → UInt32) : PackedTexel := ⟨f 0, f 1, f 2, f 3⟩

@[simp] theorem get_ofFn (f : Fin 4 → UInt32) (i : Fin 4) : (ofFn f).get i = f i := by
  match i with
  | 0 => rfl
  | 1 => rfl
  | 2 => rfl
  | 3 => rfl

end PackedTexel

namespace ChannelField

/-- The word whose low bits are all ones over the width of the channel. -/
def mask (f : ChannelField) : UInt32 := UInt32.ofNat (2 ^ f.bits - 1)

/-- The bits of a channel, moved to the lowest position. -/
def extract (f : ChannelField) (p : PackedTexel) : UInt32 :=
  (p.get f.word >>> UInt32.ofNat f.shift) &&& f.mask

end ChannelField

namespace ChannelKind

/-- The value one of a kind. -/
def one : ChannelKind → UInt32
  | uint | sint => 1
  | _ => Single.one

/-- An unsigned fraction of the largest number of `bits` bits. -/
def readUnorm (bits : Nat) (v : UInt32) : UInt32 :=
  Single.mul (Single.ofInt v.toNat) (Single.div Single.one (Single.ofInt (2 ^ bits - 1)))

/-- A signed fraction, computed with the bits at the top of a word; the least number counts as
minus one. -/
def readSnorm (bits : Nat) (v : UInt32) : UInt32 :=
  let top := Word.shiftLeft v (UInt32.ofNat (32 - bits))
  let scale : Int := 2 ^ (31 : Nat) - 2 ^ (32 - bits)
  let unit := Single.div Single.one (Single.ofInt scale)
  Single.max (Single.mul (Single.ofInt (Word.signed top)) unit) (Single.neg Single.one)

/-- A number of `bits` bits in two's complement. -/
def readSint (bits : Nat) (v : UInt32) : UInt32 :=
  let shift := UInt32.ofNat (32 - bits)
  Word.shiftRightSigned (Word.shiftLeft v shift) shift

/-- A floating point number; below 16 bits a half without sign and low fraction bits. -/
def readFloat (bits : Nat) (v : UInt32) : UInt32 :=
  if bits = 32 then v
  else if bits = 16 then Half.toSingle v
  else Half.toSingle (Word.shiftLeft v (UInt32.ofNat (15 - bits)))

/-- The value that the bits of a channel stand for. -/
def read : ChannelKind → (bits : Nat) → UInt32 → UInt32
  | unorm, bits, v => readUnorm bits v
  | snorm, bits, v => readSnorm bits v
  | uint, _, v => v
  | sint, bits, v => readSint bits v
  | float, bits, v => readFloat bits v
  | srgb, bits, v => srgbToLinear (readUnorm bits v)

def writeUnorm (bits : Nat) (x : UInt32) : UInt32 :=
  let scaled := Single.mul (Single.clampOr Single.zero Single.one x) (Single.ofInt (2 ^ bits - 1))
  Single.toUnsigned (Single.roundEven scaled)

def writeSnorm (bits : Nat) (x : UInt32) : UInt32 :=
  let clamped := Single.clampOr (Single.neg Single.one) Single.one x
  Single.toSigned (Single.roundEven (Single.mul clamped (Single.ofInt (2 ^ (bits - 1) - 1))))

def writeFloat (bits : Nat) (x : UInt32) : UInt32 :=
  if bits = 32 then x
  else if bits = 16 then Half.ofSingle x
  else Word.shiftRight (Half.ofSingle (Single.max x Single.zero)) (UInt32.ofNat (15 - bits))

/-- The bits that stand for a value, not yet cut to the width of the channel. -/
def write : ChannelKind → (bits : Nat) → UInt32 → UInt32
  | unorm, bits, x | srgb, bits, x => writeUnorm bits x
  | snorm, bits, x => writeSnorm bits x
  | uint, _, x | sint, _, x => x
  | float, bits, x => writeFloat bits x

end ChannelKind

namespace ChannelLayout

/-- The kind of one channel: the alpha channel beside sRGB colours is linear. -/
def kindOf (l : ChannelLayout) (channel : Nat) : ChannelKind :=
  if l.kind = .srgb ∧ channel = 3 then .unorm else l.kind

/-- One channel of a packed texel, or a default if the format does not have it. -/
def readChannel (l : ChannelLayout) (p : PackedTexel) (channel : Nat) (absent : UInt32) : UInt32 :=
  match l.fields[channel]? with
  | some f => (l.kindOf channel).read f.bits (f.extract p)
  | none => absent

def decode (l : ChannelLayout) (p : PackedTexel) : Texel :=
  ⟨l.readChannel p 0 0, l.readChannel p 1 0, l.readChannel p 2 0, l.readChannel p 3 l.kind.one⟩

/-- Whether no channel of the same word lies above. -/
def isHighest (l : ChannelLayout) (f : ChannelField) : Bool :=
  l.fields.all fun g => g.word ≠ f.word || g.shift ≤ f.shift

/-- The bits of a channel at their place in the word. -/
def place (l : ChannelLayout) (f : ChannelField) (x : UInt32) : UInt32 :=
  let v := l.kind.write f.bits x
  let v := if l.kind = .snorm ∧ l.isHighest f then v else v &&& f.mask
  Word.shiftLeft v (UInt32.ofNat f.shift)

def encode (l : ChannelLayout) (t : Texel) : PackedTexel :=
  .ofFn fun word =>
    (l.fields.zip t.toList).foldl
      (fun acc (f, x) => if f.word = word then acc ||| l.place f x else acc) 0

/-- Bytes of an encoded texel. -/
def size (l : ChannelLayout) : Nat := (l.fields.map (·.bits)).sum / 8

end ChannelLayout

/-! ## Layouts of the formats -/

namespace ChannelLayout

/-- Channels in the first word, given as shift and width. -/
def packed (kind : ChannelKind) (fields : List (Nat × Nat)) : ChannelLayout :=
  ⟨kind, fields.map fun (shift, bits) => ⟨0, shift, bits⟩⟩

/-- `count` channels of equal width one after the other. -/
def uniform (kind : ChannelKind) (bits count : Nat) : ChannelLayout :=
  ⟨kind, (List.range count).map fun i =>
    ⟨Fin.ofNat 4 (i * bits / 32), i * bits % 32, bits⟩⟩

end ChannelLayout

namespace Format

open ChannelLayout (packed uniform)

/-- The channels of the formats that shaders can read. -/
def layout? : Format → Option ChannelLayout
  | .r8Unorm => some (uniform .unorm 8 1)
  | .r8Snorm => some (uniform .snorm 8 1)
  | .r8Uint | .s8Uint => some (uniform .uint 8 1)
  | .r8Sint => some (uniform .sint 8 1)
  | .r8g8Unorm => some (uniform .unorm 8 2)
  | .r8g8Snorm => some (uniform .snorm 8 2)
  | .r8g8Uint => some (uniform .uint 8 2)
  | .r8g8Sint => some (uniform .sint 8 2)
  | .r8g8b8a8Unorm | .a8b8g8r8UnormPack32 => some (uniform .unorm 8 4)
  | .r8g8b8a8Snorm | .a8b8g8r8SnormPack32 => some (uniform .snorm 8 4)
  | .r8g8b8a8Uint | .a8b8g8r8UintPack32 => some (uniform .uint 8 4)
  | .r8g8b8a8Sint | .a8b8g8r8SintPack32 => some (uniform .sint 8 4)
  | .r8g8b8a8Srgb | .a8b8g8r8SrgbPack32 => some (uniform .srgb 8 4)
  | .b8g8r8a8Unorm => some (packed .unorm [(16, 8), (8, 8), (0, 8), (24, 8)])
  | .b8g8r8a8Srgb => some (packed .srgb [(16, 8), (8, 8), (0, 8), (24, 8)])
  | .r16Unorm | .d16Unorm => some (uniform .unorm 16 1)
  | .r16Snorm => some (uniform .snorm 16 1)
  | .r16Uint => some (uniform .uint 16 1)
  | .r16Sint => some (uniform .sint 16 1)
  | .r16Sfloat => some (uniform .float 16 1)
  | .r16g16Unorm => some (uniform .unorm 16 2)
  | .r16g16Snorm => some (uniform .snorm 16 2)
  | .r16g16Uint => some (uniform .uint 16 2)
  | .r16g16Sint => some (uniform .sint 16 2)
  | .r16g16Sfloat => some (uniform .float 16 2)
  | .r16g16b16a16Unorm => some (uniform .unorm 16 4)
  | .r16g16b16a16Snorm => some (uniform .snorm 16 4)
  | .r16g16b16a16Uint => some (uniform .uint 16 4)
  | .r16g16b16a16Sint => some (uniform .sint 16 4)
  | .r16g16b16a16Sfloat => some (uniform .float 16 4)
  | .r32Uint => some (uniform .uint 32 1)
  | .r32Sint => some (uniform .sint 32 1)
  | .r32Sfloat | .d32Sfloat | .d32SfloatS8Uint => some (uniform .float 32 1)
  | .r32g32Uint => some (uniform .uint 32 2)
  | .r32g32Sint => some (uniform .sint 32 2)
  | .r32g32Sfloat => some (uniform .float 32 2)
  | .r32g32b32a32Uint => some (uniform .uint 32 4)
  | .r32g32b32a32Sint => some (uniform .sint 32 4)
  | .r32g32b32a32Sfloat => some (uniform .float 32 4)
  | .a2b10g10r10UnormPack32 => some (packed .unorm [(0, 10), (10, 10), (20, 10), (30, 2)])
  | .a2b10g10r10UintPack32 => some (packed .uint [(0, 10), (10, 10), (20, 10), (30, 2)])
  | .a2r10g10b10UnormPack32 => some (packed .unorm [(20, 10), (10, 10), (0, 10), (30, 2)])
  | .a2r10g10b10UintPack32 => some (packed .uint [(20, 10), (10, 10), (0, 10), (30, 2)])
  | .r4g4b4a4UnormPack16 => some (packed .unorm [(12, 4), (8, 4), (4, 4), (0, 4)])
  | .b4g4r4a4UnormPack16 => some (packed .unorm [(4, 4), (8, 4), (12, 4), (0, 4)])
  | .a4r4g4b4UnormPack16 => some (packed .unorm [(8, 4), (4, 4), (0, 4), (12, 4)])
  | .a4b4g4r4UnormPack16 => some (packed .unorm [(0, 4), (4, 4), (8, 4), (12, 4)])
  | .r5g6b5UnormPack16 => some (packed .unorm [(11, 5), (5, 6), (0, 5)])
  | .b5g6r5UnormPack16 => some (packed .unorm [(0, 5), (5, 6), (11, 5)])
  | .r5g5b5a1UnormPack16 => some (packed .unorm [(11, 5), (6, 5), (1, 5), (0, 1)])
  | .b5g5r5a1UnormPack16 => some (packed .unorm [(1, 5), (6, 5), (11, 5), (0, 1)])
  | .a1r5g5b5UnormPack16 => some (packed .unorm [(10, 5), (5, 5), (0, 5), (15, 1)])
  | .b10g11r11UfloatPack32 => some (packed .float [(0, 11), (11, 11), (22, 10)])
  | .undefined | .r8Srgb | .r64Uint | .r64Sint | .e5b9g9r9UfloatPack32 | .x8D24UnormPack32
  | .d24UnormS8Uint => none

/-- Whether shaders can write texels of the format. -/
def isWritable : Format → Bool
  | .r8Unorm | .r8Snorm | .r8Uint | .r8Sint
  | .r8g8Unorm | .r8g8Snorm | .r8g8Uint | .r8g8Sint
  | .r8g8b8a8Unorm | .r8g8b8a8Snorm | .r8g8b8a8Uint | .r8g8b8a8Sint
  | .r16Unorm | .r16Snorm | .r16Uint | .r16Sint | .r16Sfloat
  | .r16g16Unorm | .r16g16Snorm | .r16g16Uint | .r16g16Sint | .r16g16Sfloat
  | .r16g16b16a16Unorm | .r16g16b16a16Snorm | .r16g16b16a16Uint | .r16g16b16a16Sint
  | .r16g16b16a16Sfloat
  | .r32Uint | .r32Sint | .r32Sfloat | .r32g32Uint | .r32g32Sint | .r32g32Sfloat
  | .r32g32b32a32Uint | .r32g32b32a32Sint | .r32g32b32a32Sfloat
  | .a2b10g10r10UnormPack32 | .a2b10g10r10UintPack32 | .b10g11r11UfloatPack32 => true
  | _ => false

/-- The channels of the formats that shaders can write. -/
def writer? (f : Format) : Option ChannelLayout := if f.isWritable then f.layout? else none

/-- Every writable format is readable and its channels fill the texel. -/
theorem isWritable_size (f : Format) (h : f.isWritable = true) :
    ∃ l, f.layout? = some l ∧ l.size = f.blockSize := by
  cases f <;> first | exact ⟨_, rfl, rfl⟩ | cases h

end Format

end HostGpu
