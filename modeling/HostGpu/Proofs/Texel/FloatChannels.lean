import HostGpu.Proofs.Number.Half
import HostGpu.Proofs.Texel.ExactChannels

/-!
# Floating point channels below 32 bits

A channel of 16 bits is a half.  A channel of fewer bits has five exponent bits and no sign: it is
the code of a half without its lowest fraction bits.  Reading such channels widens them, and writing
narrows again, so that packed data that were read are written back with all fields but NaNs as they
were (`Format.float_fields_round_trip`).
-/

namespace HostGpu

-- Powers mean the same whether or not algebra is in scope.
attribute [local instance (high)] instPowNat

/-! ## Halves without sign and low fraction bits -/

/-- The format of the codes of a channel without a sign bit. -/
def ChannelField.floatFormat (bits : Nat) : BinaryFormat := ⟨5, bits - 5⟩

namespace ChannelKind

open ChannelField (floatFormat)

variable {bits : Nat} (hlow : 5 ≤ bits) (hhigh : bits < 15)
include hlow hhigh

theorem toNat_shift : (UInt32.ofNat (15 - bits)).toNat % 32 = 15 - bits := by
  rw [UInt32.toNat_ofNat']
  omega

theorem two_pow_split : 2 ^ bits * 2 ^ (15 - bits) = 2 ^ 15 := by
  rw [← Nat.pow_add]
  congr 1
  omega

/-- The bits of a channel become the highest bits of the code of a half. -/
theorem toNat_shiftLeft {v : UInt32} (hv : v.toNat < 2 ^ bits) :
    (Word.shiftLeft v (UInt32.ofNat (15 - bits))).toNat = v.toNat * 2 ^ (15 - bits) := by
  have hroom : v.toNat * 2 ^ (15 - bits) < 2 ^ 15 := by
    rw [← two_pow_split hlow hhigh]
    exact Nat.mul_lt_mul_of_pos_right hv (Nat.two_pow_pos _)
  rw [Word.shiftLeft, UInt32.toNat_shiftLeft, toNat_shift hlow hhigh, Nat.shiftLeft_eq]
  exact Nat.mod_eq_of_lt (by omega)

theorem code_shiftLeft {v : UInt32} (hv : v.toNat < 2 ^ bits) :
    Half.code (Word.shiftLeft v (UInt32.ofNat (15 - bits))) = v.toNat * 2 ^ (15 - bits) ∧
      Half.sign (Word.shiftLeft v (UInt32.ofNat (15 - bits))) = false := by
  have hroom : v.toNat * 2 ^ (15 - bits) < 2 ^ 15 := by
    rw [← two_pow_split hlow hhigh]
    exact Nat.mul_lt_mul_of_pos_right hv (Nat.two_pow_pos _)
  rw [Half.code_eq, Half.sign, Word.bit_eq_testBit, toNat_shiftLeft hlow hhigh hv]
  exact ⟨Nat.mod_eq_of_lt hroom, Nat.testBit_lt_two_pow hroom⟩

/-- The codes of a channel are those of halves without some fraction bits. -/
theorem extends_floatFormat : Half.format.Extends (floatFormat bits) (15 - bits) where
  exponent := rfl
  fraction := by
    show 10 = bits - 5 + (15 - bits)
    omega

/-- A channel is a NaN if the half that it is read as is one. -/
theorem isNaN_shiftLeft {v : UInt32} (hv : v.toNat < 2 ^ bits) :
    Half.isNaN (Word.shiftLeft v (UInt32.ofNat (15 - bits))) =
      decide ((floatFormat bits).infinity < v.toNat) := by
  rw [Half.isNaN, (code_shiftLeft hlow hhigh hv).1, ← (extends_floatFormat hlow hhigh).infinity_eq]
  exact decide_eq_decide.mpr (Nat.mul_lt_mul_right (Nat.two_pow_pos _))

theorem readFloat_narrow (v : UInt32) :
    readFloat bits v = Half.toSingle (Word.shiftLeft v (UInt32.ofNat (15 - bits))) := by
  rw [readFloat, if_neg (by omega), if_neg (by omega)]

theorem toNat_writeFloat_narrow (x : UInt32) : (writeFloat bits x).toNat =
    (Half.ofSingle (Single.max x Single.zero)).toNat / 2 ^ (15 - bits) := by
  rw [writeFloat, if_neg (by omega), if_neg (by omega), Word.shiftRight, UInt32.toNat_shiftRight,
    toNat_shift hlow hhigh, Nat.shiftRight_eq_div_pow]

/-- A narrow channel that was read is written back, but a NaN as zero. -/
theorem writeFloat_readFloat {v : UInt32} (hv : v.toNat < 2 ^ bits) :
    writeFloat bits (readFloat bits v) =
      if (floatFormat bits).infinity < v.toNat then 0 else v := by
  obtain ⟨hcode, hsign⟩ := code_shiftLeft hlow hhigh hv
  have hnan := isNaN_shiftLeft hlow hhigh hv
  have hnat := toNat_shiftLeft hlow hhigh hv
  rw [← UInt32.toNat_inj, toNat_writeFloat_narrow hlow hhigh, readFloat_narrow hlow hhigh]
  generalize Word.shiftLeft v (UInt32.ofNat (15 - bits)) = h at *
  have hsixteen : h.toNat < 2 ^ 16 := by
    have hroom := two_pow_split hlow hhigh
    have hmul := Nat.mul_lt_mul_of_pos_right hv (Nat.two_pow_pos (15 - bits))
    omega
  by_cases hbig : (floatFormat bits).infinity < v.toNat
  · have hsingle : Single.isNaN (Half.toSingle h) = true := by
      rw [Half.isNaN_toSingle, hnan]
      exact decide_eq_true hbig
    have hzero : Half.ofSingle Single.zero = 0 := by decide
    rw [Single.max_zero_of_isNaN hsingle, hzero, if_pos hbig]
    exact Nat.zero_div _
  · have hself : Half.isNaN h = false := by
      rw [hnan]
      exact decide_eq_false hbig
    have hplus : Single.sign (Half.toSingle h) = false := by rw [Half.sign_toSingle, hsign]
    have hmax := Single.max_zero ((Half.isNaN_toSingle h).trans hself) (.inl hplus)
    rw [← hplus, Single.ofCode_sign_code] at hmax
    rw [hmax, Half.ofSingle_toSingle hsixteen, hself, if_neg Bool.false_ne_true, hnat, if_neg hbig]
    exact Nat.mul_div_cancel _ (Nat.two_pow_pos _)

end ChannelKind

/-! ## Fields of packed data -/

namespace ChannelField

/-- The half with a given number in packed data. -/
def half (k : Nat) : ChannelField := ⟨Fin.ofNat 4 (k / 2), 16 * (k % 2), 16⟩

/-- What remains of a field of 16 bits: a NaN becomes quiet. -/
def keptHalf (v : UInt32) : UInt32 := if Half.isNaN v then v ||| 0x200 else v

/-- What remains of a field of fewer bits: a NaN becomes zero. -/
def keptNarrow (bits : Nat) (v : UInt32) : UInt32 :=
  if (floatFormat bits).infinity < v.toNat then 0 else v

theorem toNat_extract_lt {f : ChannelField} (h : f.InWord) (p : PackedTexel) :
    (f.extract p).toNat < 2 ^ f.bits := by
  rw [f.toNat_extract h.2 h.1]
  exact Nat.mod_lt _ (Nat.two_pow_pos _)

end ChannelField

namespace ChannelLayout.Dense

open ChannelField (keptHalf keptNarrow)

variable {l : ChannelLayout} (h : l.Dense) (hkind : l.kind = .float) {channel : Fin 4}
  {f : ChannelField} (hf : l.fields[channel.val]? = some f) (p : PackedTexel)
include h hkind hf

/-- What is written back to a channel. -/
theorem extract_encode_decode : f.extract (l.encode (l.decode p)) = Word.zeroExtend f.bits
    (ChannelKind.writeFloat f.bits (ChannelKind.readFloat f.bits (f.extract p))) := by
  have hsrgb : l.kind ≠ .srgb := by
    rw [hkind]
    decide
  rw [h.extract_encode _ hf, get_decode_of_ne_srgb hsrgb, hf, hkind]
  rfl

theorem extract_half (hbits : f.bits = 16) :
    f.extract (l.encode (l.decode p)) = keptHalf (f.extract p) := by
  have hlt := ChannelField.toNat_extract_lt (h.inWord f (List.mem_of_getElem? hf)) p
  rw [hbits] at hlt
  have hback : ChannelKind.writeFloat 16 (ChannelKind.readFloat 16 (f.extract p)) =
      keptHalf (f.extract p) := Half.ofSingle_toSingle hlt
  rw [h.extract_encode_decode hkind hf, hbits, hback]
  refine Word.zeroExtend_of_lt ?_
  unfold keptHalf
  split
  · rw [UInt32.toNat_or]
    exact Nat.or_lt_two_pow hlt (by decide)
  · exact hlt

theorem extract_narrow (hlow : 5 ≤ f.bits) (hhigh : f.bits < 15) :
    f.extract (l.encode (l.decode p)) = keptNarrow f.bits (f.extract p) := by
  have hlt := ChannelField.toNat_extract_lt (h.inWord f (List.mem_of_getElem? hf)) p
  rw [h.extract_encode_decode hkind hf, ChannelKind.writeFloat_readFloat hlow hhigh hlt]
  refine Word.zeroExtend_of_lt ?_
  split
  · exact Nat.two_pow_pos _
  · exact hlt

end ChannelLayout.Dense

namespace Format

open ChannelField (half keptHalf keptNarrow)
open ChannelLayout (packed uniform)

/-- Channels of 16 bits follow each other as halves. -/
theorem getElem?_uniform_half {n k : Nat} (hk : k < n) :
    (uniform .float 16 n).fields[k]? = some (half k) := by
  have hword : k * 16 / 32 = k / 2 := by omega
  have hshift : k * 16 % 32 = 16 * (k % 2) := by omega
  simp [uniform, half, hk, hword, hshift]

/-- The formats of halves have as many as fit in their texels. -/
theorem halves_of_mem {f : Format} (hf : f ∈ [r16Sfloat, r16g16Sfloat, r16g16b16a16Sfloat]) :
    ∃ n ≤ 4, f.layout? = some (uniform .float 16 n) ∧ f.writer? = some (uniform .float 16 n) ∧
      (uniform .float 16 n).Dense ∧ (uniform .float 16 n).size = f.blockSize ∧
      f.blockSize = 2 * n := by
  simp only [List.mem_cons, List.not_mem_nil, or_false] at hf
  rcases hf with rfl | rfl | rfl
  · exact ⟨1, by decide, rfl, rfl, by constructor <;> decide, rfl, rfl⟩
  · exact ⟨2, by decide, rfl, rfl, by constructor <;> decide, rfl, rfl⟩
  · exact ⟨4, by decide, rfl, rfl, by constructor <;> decide, rfl, rfl⟩

/-- The fields of a word of unsigned floating point numbers: red, green and blue. -/
def packedFloats : List ChannelField := [⟨0, 0, 11⟩, ⟨0, 11, 11⟩, ⟨0, 22, 10⟩]

/-- They have an exponent field, and fewer bits than a half has below its sign. -/
theorem bits_packedFloats {f : ChannelField} (hf : f ∈ packedFloats) :
    5 ≤ f.bits ∧ f.bits < 15 := by
  simp only [packedFloats, List.mem_cons, List.not_mem_nil, or_false] at hf
  rcases hf with rfl | rfl | rfl <;> decide

/-- A word of three numbers is read and written with these fields. -/
theorem exists_layout_packedFloats : ∃ l, b10g11r11UfloatPack32.layout? = some l ∧
    b10g11r11UfloatPack32.writer? = some l ∧ l.Dense ∧ l.kind = .float ∧
      l.fields = packedFloats ∧ l.size = 4 :=
  ⟨packed .float [(0, 11), (11, 11), (22, 10)], rfl, rfl, by constructor <;> decide, rfl, rfl, rfl⟩

/-- **Floating point fields survive a round trip.**  For the formats of halves, packed data that
were read and are written again have every half of the texel as it was, but NaNs with their quiet
bit set, and zeros behind the texel.  A word of three unsigned floating point numbers of 11, 11 and
10 bits has each of them as it was, but zeros for NaNs, and zeros behind it too. -/
theorem float_fields_round_trip :
    (∀ f ∈ [r16Sfloat, r16g16Sfloat, r16g16b16a16Sfloat],
      ∃ l, f.layout? = some l ∧ f.writer? = some l ∧
        ∀ (packed written : Lanes PackedTexel),
          (packed.map l.decode).map l.encode = written → ∀ lane,
          (∀ k, 2 * k < f.blockSize → (half k).extract (written.get lane) =
            keptHalf ((half k).extract (packed.get lane))) ∧
          ∀ o < 16, f.blockSize ≤ o → (written.get lane).byte o = 0) ∧
    ∃ l, b10g11r11UfloatPack32.layout? = some l ∧ b10g11r11UfloatPack32.writer? = some l ∧
      ∀ (packed written : Lanes PackedTexel),
        (packed.map l.decode).map l.encode = written → ∀ lane,
        (∀ f ∈ packedFloats, f.extract (written.get lane) =
          keptNarrow f.bits (f.extract (packed.get lane))) ∧
        ∀ o < 16, 4 ≤ o → (written.get lane).byte o = 0 := by
  constructor
  · intro f hf
    obtain ⟨n, hn, hlayout, hwriter, hdense, hsize, hblock⟩ := halves_of_mem hf
    refine ⟨_, hlayout, hwriter, ?_⟩
    rintro packed _ rfl lane
    simp only [Lanes.get_map]
    refine ⟨fun k hk => ?_, fun o ho hle => hdense.byte_encode_of_le _ ho (hsize.trans_le hle)⟩
    have hlt : k < n := by omega
    have hfield : (uniform .float 16 n).fields[(⟨k, by omega⟩ : Fin 4).val]? = some (half k) :=
      getElem?_uniform_half hlt
    exact hdense.extract_half rfl hfield _ rfl
  · obtain ⟨l, hlayout, hwriter, hdense, hkind, hfields, hsize⟩ := exists_layout_packedFloats
    refine ⟨l, hlayout, hwriter, ?_⟩
    rintro packed _ rfl lane
    simp only [Lanes.get_map]
    refine ⟨fun f hf => ?_, fun o ho hle => hdense.byte_encode_of_le _ ho (hsize.trans_le hle)⟩
    have hbits := bits_packedFloats hf
    obtain ⟨k, hk⟩ := List.mem_iff_getElem?.mp hf
    obtain ⟨hlt, -⟩ := List.getElem?_eq_some_iff.mp hk
    have hfield : l.fields[(⟨k, Nat.lt_succ_of_lt hlt⟩ : Fin 4).val]? = some f := hfields ▸ hk
    exact hdense.extract_narrow hkind hfield _ hbits.1 hbits.2

/-- A signalling NaN in the high half becomes quiet, and the negative number next to zero stays in
the low half.  In a word of three numbers a NaN becomes zero, and infinity and the smallest number
stay. -/
theorem signalling_half_becomes_quiet :
    (∃ l, r16g16Sfloat.layout? = some l ∧ r16g16Sfloat.writer? = some l ∧
      (half 0).extract (l.encode (l.decode ⟨0x7C018001, 0, 0, 0⟩)) = 0x8001 ∧
      (half 1).extract (l.encode (l.decode ⟨0x7C018001, 0, 0, 0⟩)) = 0x7E01) ∧
    ∃ l, b10g11r11UfloatPack32.layout? = some l ∧ b10g11r11UfloatPack32.writer? = some l ∧
      packedFloats.map (·.extract (l.encode (l.decode ⟨0x007E07C1, 0, 0, 0⟩))) = [0, 0x7C0, 1] := by
  obtain ⟨hhalves, l, hlayout, hwriter, hkept⟩ := float_fields_round_trip
  constructor
  · obtain ⟨l, hlayout, hwriter, hkept⟩ := hhalves r16g16Sfloat (by decide)
    obtain ⟨hfields, -⟩ := hkept (.splat ⟨0x7C018001, 0, 0, 0⟩) _ rfl 0
    exact ⟨l, hlayout, hwriter, (hfields 0 (by decide)).trans (by decide),
      (hfields 1 (by decide)).trans (by decide)⟩
  · obtain ⟨hfields, -⟩ := hkept (.splat ⟨0x007E07C1, 0, 0, 0⟩) _ rfl 0
    refine ⟨l, hlayout, hwriter, (List.map_congr_left hfields).trans ?_⟩
    decide

end Format

end HostGpu
