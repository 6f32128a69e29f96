import HostGpu.Execution.TexelPointer
import HostGpu.Proofs.Image.Planes
import HostGpu.Proofs.Memory.Access

/-!
# Texels in memory

The bytes of a packed texel, the words by which they are loaded and stored, and where channels lie
in them.  All channels of a format lie in the bytes that a texel has in memory
(`Format.fits_of_layout?`), so that decoding does not see what encoding leaves in the bits above:
`ChannelLayout.decode_eq_of_parts`.
-/

namespace HostGpu

open Execution

/-! ## Packed texels -/

namespace PackedTexel

/-- Byte `o` of a packed texel. -/
def byte (t : PackedTexel) (o : Nat) : UInt8 := Word.byte (t.get (Fin.ofNat 4 (o / 4))) (o % 4)

theorem getElem?_words (packed : Lanes PackedTexel) (j : Fin 4) :
    (words packed)[j.val]? = some (packed.map (·.get j)) := by
  match j with
  | 0 | 1 | 2 | 3 => rfl

theorem get_ofWords (ws : List WordLanes) (l : Lane) (j : Fin 4) :
    ((ofWords ws).get l).get j = (ws[j.val]?.getD (.splat 0)).get l := by
  rw [ofWords, Lanes.get_ofFn]
  match j with
  | 0 | 1 | 2 | 3 => rfl

end PackedTexel

/-- A channel of one byte is that byte, without sign. -/
theorem ChannelLayout.decode_uint8 (t : PackedTexel) :
    (uniform .uint 8 1).decode t = ⟨(t.byte 0).toUInt32, 0, 0, 1⟩ := by
  have hbyte : (t.byte 0).toUInt32 = (t.word0 >>> 0) &&& 255 := by
    have hmask : (255 : UInt32).toNat = 2 ^ 8 - 1 := rfl
    refine UInt32.toNat_inj.mp ?_
    rw [UInt32.toNat_and, hmask, Nat.and_two_pow_sub_one_eq_mod, UInt32.shiftRight_zero]
    show (UInt8.ofNat (t.word0.toNat / 256 ^ 0)).toUInt32.toNat = _
    simp
  rw [hbyte]
  rfl

/-! ## Parts of texels -/

/-- A texel of `n` bytes is accessed as `c` words of `w` bytes. -/
structure TexelParts (n c w : Nat) : Prop where
  mul : c * w = n
  pos : 0 < w
  le : w ≤ 4
  count : c ≤ 4
  /-- Only whole words are accessed more than once. -/
  whole : w = 4 ∨ c = 1

theorem exists_texelParts {n : Nat} (h : n ∈ texelSizes) :
    ∃ c w, TexelPointer.accessSizes n = .ok (.replicate c w) ∧ TexelParts n c w := by
  simp only [texelSizes, List.mem_cons, List.not_mem_nil, or_false] at h
  rcases h with rfl | rfl | rfl | rfl | rfl
  · exact ⟨1, 1, rfl, by constructor <;> decide⟩
  · exact ⟨1, 2, rfl, by constructor <;> decide⟩
  · exact ⟨1, 4, rfl, by constructor <;> decide⟩
  · exact ⟨2, 4, rfl, by constructor <;> decide⟩
  · exact ⟨4, 4, rfl, by constructor <;> decide⟩

namespace TexelParts

variable {n c w : Nat} (h : TexelParts n c w)
include h

/-- The bytes of a part are bytes of its word. -/
theorem byte_eq (t : PackedTexel) {j k : Nat} (hj : j < c) (hk : k < w) :
    t.byte (j * w + k) = Word.byte (t.get (Fin.ofNat 4 j)) k := by
  have hdiv : (j * w + k) / 4 = j ∧ (j * w + k) % 4 = k := by
    have hle := h.le
    rcases h.whole with rfl | rfl
    · omega
    · have hzero : j = 0 := by omega
      subst hzero
      omega
  rw [PackedTexel.byte, hdiv.1, hdiv.2]

end TexelParts

/-! ## Channels -/

namespace ChannelField

theorem toNat_extract (f : ChannelField) (hbits : f.shift + f.bits ≤ 32) (hpos : 0 < f.bits)
    (p : PackedTexel) :
    (f.extract p).toNat = (p.get f.word).toNat / 2 ^ f.shift % 2 ^ f.bits := by
  have hpow : 2 ^ f.bits ≤ 2 ^ 32 := Nat.pow_le_pow_right (by decide) (by omega)
  have hpos' : 0 < 2 ^ f.bits := Nat.two_pow_pos _
  have hshift : (UInt32.ofNat f.shift).toNat % 32 = f.shift := by
    rw [UInt32.toNat_ofNat']
    omega
  rw [extract, mask, UInt32.toNat_and, UInt32.toNat_shiftRight, hshift, UInt32.toNat_ofNat',
    Nat.mod_eq_of_lt (by omega), Nat.and_two_pow_sub_one_eq_mod, Nat.shiftRight_eq_div_pow]

/-- A channel does not depend on the bits above those that a part has in memory. -/
theorem extract_congr {f : ChannelField} {w : Nat} (hw : w ≤ 4) (hpos : 0 < f.bits)
    (hbits : f.shift + f.bits ≤ 8 * w) {p q : PackedTexel}
    (h : (p.get f.word).toNat % 256 ^ w = (q.get f.word).toNat % 256 ^ w) :
    f.extract p = f.extract q := by
  have hdigits (x : Nat) : x / 2 ^ f.shift % 2 ^ f.bits =
      x % 256 ^ w / 2 ^ f.shift % 2 ^ f.bits := by
    have hpow : 256 ^ w = 2 ^ (8 * w) := by rw [Nat.pow_mul]
    refine Nat.eq_of_testBit_eq ?_
    intro i
    simp only [hpow, Nat.testBit_mod_two_pow, Nat.testBit_div_two_pow]
    by_cases hi : i < f.bits
    · have hlow : i + f.shift < 8 * w := by omega
      simp [hi, hlow]
    · simp [hi]
  refine UInt32.toNat_inj.mp ?_
  rw [toNat_extract f (by omega) hpos, toNat_extract f (by omega) hpos, hdigits, h, ← hdigits]

end ChannelField

namespace ChannelLayout

/-- All channels lie in the bytes that a texel has in memory. -/
def Fits (l : ChannelLayout) : Prop :=
  ∀ f ∈ l.fields, 0 < f.bits ∧ f.shift + f.bits ≤ 32 ∧
    32 * f.word.val + f.shift + f.bits ≤ 8 * l.size

instance (l : ChannelLayout) : Decidable l.Fits :=
  inferInstanceAs (Decidable (∀ f ∈ l.fields, _))

theorem decode_congr {l : ChannelLayout} {p q : PackedTexel}
    (h : ∀ f ∈ l.fields, f.extract p = f.extract q) : l.decode p = l.decode q := by
  have hchannel (channel : Nat) (absent : UInt32) :
      l.readChannel p channel absent = l.readChannel q channel absent := by
    simp only [readChannel]
    cases hf : l.fields[channel]? with
    | none => rfl
    | some f => simp only [h f (List.mem_of_getElem? hf)]
  simp only [decode, hchannel]

/-- Decoding the bits that memory keeps of the words of a texel is decoding the texel. -/
theorem decode_eq_of_parts {l : ChannelLayout} (hl : l.Fits) {c w : Nat}
    (hparts : TexelParts l.size c w) {p q : PackedTexel}
    (h : ∀ j < c, (p.get (Fin.ofNat 4 j)).toNat = (q.get (Fin.ofNat 4 j)).toNat % 256 ^ w) :
    l.decode p = l.decode q := by
  refine decode_congr ?_
  intro f hf
  obtain ⟨hpos, hword, hbits⟩ := hl f hf
  have hmul := hparts.mul
  have hle := hparts.le
  have hpart : f.word.val < c ∧ f.shift + f.bits ≤ 8 * w := by
    rcases hparts.whole with rfl | rfl <;> omega
  have hfin : Fin.ofNat 4 f.word.val = f.word := Fin.ofNat_val_eq_self f.word
  have hequal := h f.word.val hpart.1
  rw [hfin] at hequal
  refine ChannelField.extract_congr hle hpos hpart.2 ?_
  rw [hequal, Nat.mod_mod]

end ChannelLayout

/-- The channels of every format lie in its texels. -/
theorem Format.fits_of_layout? {f : Format} {l : ChannelLayout} (h : f.layout? = some l) :
    l.Fits := by
  cases f <;> cases h <;> decide

theorem Format.layout?_of_writer? {f : Format} {l : ChannelLayout} (h : f.writer? = some l) :
    f.isWritable = true ∧ f.layout? = some l := by
  simpa [writer?] using h

/-- Shaders write colours only. -/
theorem Format.depth_of_isWritable {f : Format} (h : f.isWritable = true) :
    f.aspects.depth = false := by
  revert h
  cases f <;> intro h <;> first | rfl | cases h

theorem Format.size_of_writer? {f : Format} {l : ChannelLayout} (h : f.writer? = some l) :
    l.size = f.blockSize := by
  obtain ⟨hwritable, hl⟩ := layout?_of_writer? h
  obtain ⟨l', hl', hsize⟩ := isWritable_size f hwritable
  rw [hl', Option.some.injEq] at hl
  rw [← hl, hsize]

end HostGpu
