import HostGpu.Lanes.Arithmetic

/-!
# Texels

A texel is four channels, each a word. In memory it takes up to 16 bytes, which are read as four
little-endian words. The codec works on single texels; the lanes of a group are turned into texels
and back by transposing four words of lanes.
-/

namespace HostGpu

/-- The channels of a texel. -/
structure Texel where
  red : UInt32
  green : UInt32
  blue : UInt32
  alpha : UInt32
deriving DecidableEq, Repr

/-- The bytes of a texel as four little-endian words; words past its size are zero. -/
structure PackedTexel where
  word0 : UInt32
  word1 : UInt32
  word2 : UInt32
  word3 : UInt32
deriving DecidableEq, Repr

namespace Texel

def toList (t : Texel) : List UInt32 := [t.red, t.green, t.blue, t.alpha]

/-- The channels of texels in lanes, one group of words for each channel. -/
def channels (texels : Lanes Texel) : List WordLanes :=
  [texels.map (·.red), texels.map (·.green), texels.map (·.blue), texels.map (·.alpha)]

/-- The texels whose channels are given as groups of words; absent channels are zero. -/
def ofChannels (channels : List WordLanes) : Lanes Texel :=
  let channel (i : Nat) : WordLanes := (channels[i]?).getD (.splat 0)
  .ofFn fun l => ⟨(channel 0).get l, (channel 1).get l, (channel 2).get l, (channel 3).get l⟩

end Texel

namespace PackedTexel

def zero : PackedTexel := ⟨0, 0, 0, 0⟩

/-- A texel of at most four bytes. -/
def ofWord (w : UInt32) : PackedTexel := ⟨w, 0, 0, 0⟩

/-- The packed words in lanes, one group of words for each. -/
def words (packed : Lanes PackedTexel) : List WordLanes :=
  [packed.map (·.word0), packed.map (·.word1), packed.map (·.word2), packed.map (·.word3)]

/-- The packed texels whose words are given as groups of lanes; absent words are zero. -/
def ofWords (words : List WordLanes) : Lanes PackedTexel :=
  let word (i : Nat) : WordLanes := (words[i]?).getD (.splat 0)
  .ofFn fun l => ⟨(word 0).get l, (word 1).get l, (word 2).get l, (word 3).get l⟩

end PackedTexel

end HostGpu
