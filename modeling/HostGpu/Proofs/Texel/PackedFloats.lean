import HostGpu.Proofs.Number.Rounding
import HostGpu.Proofs.Texel.FloatChannels

/-!
# What is cut from packed floating point numbers

The channels of 11 and 10 bits are written by cutting fraction bits of a half.  The half is the one
nearest to the component, so that a component a little below a number of the channel may be written
as this number, and a component from 65520 on as infinity.  All others are written as the greatest
number of the channel that is not above them (`Format.packed_floats_cut_nearest_halves`).
-/

namespace HostGpu

-- Powers mean the same whether or not algebra is in scope.
attribute [local instance (high)] instPowNat

open ChannelField (floatFormat)

/-! ## Words and numbers -/

/-- A word stands for a finite number that is not negative.  Minus zero is zero. -/
structure Single.Stands (w : UInt32) (x : ℚ) : Prop where
  finite : code w < format.infinity
  nonneg : sign w = false ∨ code w = 0
  value : format.value (code w) = x

theorem Single.Stands.value_nonneg {w : UInt32} {x : ℚ} (h : Stands w x) : 0 ≤ x := by
  rw [← h.value, ← format.value_zero]
  exact format.value_strictMono.monotone (Nat.zero_le _)

/-- A word stands for the number of a code of a format, or is infinity. -/
structure Single.StandsForCode (w : UInt32) (f : BinaryFormat) (c : Nat) : Prop where
  finite : c < f.infinity → Stands w (f.value c)
  infinite : c = f.infinity → w = ofCode false format.infinity

namespace ChannelKind

variable {bits : Nat} (hlow : 5 ≤ bits) (hhigh : bits < 15)
include hlow hhigh

/-- Infinity has room in a channel. -/
theorem infinity_floatFormat_lt : (floatFormat bits).infinity < 2 ^ bits := by
  have htop : (floatFormat bits).infinity * 2 ^ (15 - bits) < 2 ^ bits * 2 ^ (15 - bits) := by
    rw [(extends_floatFormat hlow hhigh).infinity_eq, two_pow_split hlow hhigh]
    decide
  exact Nat.lt_of_mul_lt_mul_right htop

/-- A channel is read as the number of its code. -/
theorem readFloat_standsForCode {v : UInt32} (hv : v.toNat ≤ (floatFormat bits).infinity) :
    Single.StandsForCode (readFloat bits v) (floatFormat bits) v.toNat := by
  have hextends := extends_floatFormat hlow hhigh
  have hinfinity := hextends.infinity_eq
  have hbits : v.toNat < 2 ^ bits := hv.trans_lt (infinity_floatFormat_lt hlow hhigh)
  obtain ⟨hcode, hsign⟩ := code_shiftLeft hlow hhigh hbits
  rw [readFloat_narrow hlow hhigh]
  generalize Word.shiftLeft v (UInt32.ofNat (15 - bits)) = h at *
  constructor
  · intro hfinite
    have hlt : Half.code h < Half.format.infinity := by
      rw [hcode, ← hinfinity]
      exact Nat.mul_lt_mul_of_pos_right hfinite (Nat.two_pow_pos _)
    obtain ⟨hsingle, hsame, -⟩ := Half.widens.convert hlt
    have hwide := (Half.code_toSingle h).trans (Half.wideCode_of_finite hlt)
    refine ⟨hwide ▸ hsingle, .inl ((Half.sign_toSingle h).trans hsign), ?_⟩
    calc Single.format.value (Single.code (Half.toSingle h))
      _ = Half.format.value (Half.code h) := by
        rw [hwide]
        exact (BinaryFormat.value_eq_value hsame).symm
      _ = (floatFormat bits).value v.toNat := by rw [hcode, hextends.value_eq]
  · intro hinfinite
    have heq : Half.code h = Half.format.infinity := by rw [hcode, hinfinite, hinfinity]
    rw [Half.toSingle_eq, hsign, Half.wideCode_of_infinite heq]

/-- A number is written as the code of its nearest half without the lowest fraction bits. -/
theorem toNat_writeFloat_of_stands {w : UInt32} {x : ℚ} (hw : Single.Stands w x) :
    (writeFloat bits w).toNat =
      Single.format.convert Half.format (Single.code w) / 2 ^ (15 - bits) := by
  have hfinite := hw.finite
  have hnan : Single.isNaN w = false := decide_eq_false (by omega)
  have hrange : Single.code w < 2 ^ 31 := hfinite.trans (by decide)
  have hhalf : Single.format.convert Half.format (Single.code w) < 2 ^ 15 :=
    (BinaryFormat.ofRatio_le_infinity _ _ _).trans_lt (by decide)
  have hplus : Single.code (Single.ofCode false (Single.code w)) < Single.format.infinity := by
    rwa [Single.code_ofCode hrange]
  rw [toNat_writeFloat_narrow hlow hhigh, Single.max_zero hnan hw.nonneg,
    Half.ofSingle_of_finite hplus, Single.code_ofCode hrange, Single.sign_ofCode hrange,
    Half.toNat_ofCode hhalf, if_neg Bool.false_ne_true, Nat.zero_add]

/-- **Writing and reading a number.**  What is read back is the greatest number of the channel that
is not above the written one, or the next one if the nearest half is not below it. -/
theorem readFloat_writeFloat {w : UInt32} {x : ℚ} (hw : Single.Stands w x) {c : Nat}
    (hc : (floatFormat bits).IsFloor x c) :
    (writeFloat bits w).toNat < 2 ^ bits ∧
      Single.StandsForCode (readFloat bits (writeFloat bits w)) (floatFormat bits)
        (if x < Half.format.midpoint ((c + 1) * 2 ^ (15 - bits) - 1) then c else c + 1) := by
  have hcut : (writeFloat bits w).toNat =
      if x < Half.format.midpoint ((c + 1) * 2 ^ (15 - bits) - 1) then c else c + 1 := by
    rw [← hw.value] at hc ⊢
    rw [toNat_writeFloat_of_stands hlow hhigh hw]
    exact (extends_floatFormat hlow hhigh).convert_div (by omega) (by decide) hc
  have htop : (writeFloat bits w).toNat ≤ (floatFormat bits).infinity := by
    have hfinite := hc.finite
    rw [hcut]
    split <;> omega
  rw [← hcut]
  exact ⟨htop.trans_lt (infinity_floatFormat_lt hlow hhigh),
    readFloat_standsForCode hlow hhigh htop⟩

end ChannelKind

namespace Format

/-- **Packed floating point numbers are cut after rounding to halves.**  A finite number that is not
negative is written to a channel of a word of three unsigned floating point numbers.  What is read
back is the greatest finite number of the channel that is not above the written one, but the number
after it, which may be infinity, if the written one is not below the midpoint between this next
number and the half before it. -/
theorem packed_floats_cut_nearest_halves {reader writer : ChannelLayout}
    (hreader : b10g11r11UfloatPack32.layout? = some reader)
    (hwriter : b10g11r11UfloatPack32.writer? = some writer) (texels : Lanes Texel) (lane : Lane)
    (channel : Fin 4) {f : ChannelField} {x : ℚ} (hf : packedFloats[channel.val]? = some f)
    (hx : Single.Stands ((texels.get lane).get channel) x) :
    ∃ c, (floatFormat f.bits).IsFloor x c ∧
      Single.StandsForCode
        ((((texels.map writer.encode).map reader.decode).get lane).get channel) (floatFormat f.bits)
        (if x < Half.format.midpoint ((c + 1) * 2 ^ (15 - f.bits) - 1) then c else c + 1) := by
  obtain ⟨l, hlayout, hlayout', hdense, hkind, hfields, -⟩ := exists_layout_packedFloats
  obtain rfl : l = reader := Option.some.inj (hlayout.symm.trans hreader)
  obtain rfl : l = writer := Option.some.inj (hlayout'.symm.trans hwriter)
  obtain ⟨hlow, hhigh⟩ := bits_packedFloats (List.mem_of_getElem? hf)
  rw [← hfields] at hf
  obtain ⟨c, hc⟩ := BinaryFormat.exists_isFloor (f := floatFormat f.bits) hx.value_nonneg
    (Nat.mul_pos (show 0 < 2 ^ 5 - 1 by decide) (Nat.two_pow_pos _))
  obtain ⟨hroom, hread⟩ := ChannelKind.readFloat_writeFloat hlow hhigh hx hc
  have hsrgb : l.kind ≠ .srgb := by
    rw [hkind]
    decide
  have hback : (l.decode (l.encode (texels.get lane))).get channel = ChannelKind.readFloat f.bits
      (ChannelKind.writeFloat f.bits ((texels.get lane).get channel)) := by
    rw [ChannelLayout.get_decode_of_ne_srgb hsrgb, hf, Option.elim_some, hdense.extract_encode _ hf,
      hkind]
    exact congrArg _ (Word.zeroExtend_of_lt hroom)
  refine ⟨c, hc, ?_⟩
  rw [Lanes.get_map, Lanes.get_map, hback]
  exact hread

/-- Three quarters of a step above one are cut. -/
theorem three_quarters_above_one_are_cut :
    ∃ l, b10g11r11UfloatPack32.layout? = some l ∧ b10g11r11UfloatPack32.writer? = some l ∧
      packedFloats[0]? = some ⟨0, 0, 11⟩ ∧ Single.Stands 0x3F818000 (259 / 256) ∧
        Single.Stands (l.decode (l.encode ⟨0x3F818000, 0, 0, 0⟩)).red 1 := by
  obtain ⟨l, hlayout, hwriter, -⟩ := exists_layout_packedFloats
  have hwritten : Single.Stands 0x3F818000 (259 / 256) :=
    ⟨by decide, .inl (by decide), by decide +kernel⟩
  have hone : (floatFormat 11).value 960 = 1 := by decide +kernel
  have hfloor : (floatFormat 11).IsFloor (259 / 256) 960 :=
    BinaryFormat.isFloor_of_lt_next (by decide) (by decide +kernel) (by decide +kernel)
  have hbelow : (259 / 256 : ℚ) < Half.format.midpoint ((960 + 1) * 2 ^ (15 - 11) - 1) := by
    decide +kernel
  obtain ⟨c, hc, hread⟩ := packed_floats_cut_nearest_halves hlayout hwriter
    (.splat ⟨0x3F818000, 0, 0, 0⟩) 0 0 rfl hwritten
  obtain rfl : c = 960 := hc.unique hfloor
  rw [if_pos hbelow, Lanes.get_map, Lanes.get_map] at hread
  exact ⟨l, hlayout, hwriter, rfl, hwritten, hone ▸ hread.finite hfloor.finite⟩

/-- The number before one is read as one, although the greatest number of the channel that is not
above it is a smaller one. -/
theorem number_before_one_is_rounded :
    ∃ l, b10g11r11UfloatPack32.layout? = some l ∧ b10g11r11UfloatPack32.writer? = some l ∧
      ∃ x < 1, Single.Stands 0x3F7FFFFF x ∧ (floatFormat 11).IsFloor x 959 ∧
        (l.decode (l.encode ⟨0x3F7FFFFF, 0x3F7FFFFF, 0x3F7FFFFF, 0⟩)).red = Single.one ∧
        ¬ Single.StandsForCode (l.decode (l.encode ⟨0x3F7FFFFF, 0x3F7FFFFF, 0x3F7FFFFF, 0⟩)).red
          (floatFormat 11) 959 := by
  have hbelow : (16777215 / 16777216 : ℚ) < 1 := by decide +kernel
  have hfloor : (floatFormat 11).IsFloor (16777215 / 16777216) 959 :=
    BinaryFormat.isFloor_of_lt_next (by decide) (by decide +kernel) (by decide +kernel)
  have hred : ((ChannelLayout.packed .float [(0, 11), (11, 11), (22, 10)]).decode
      ((ChannelLayout.packed .float [(0, 11), (11, 11), (22, 10)]).encode
        ⟨0x3F7FFFFF, 0x3F7FFFFF, 0x3F7FFFFF, 0⟩)).red = Single.one := by
    decide +kernel
  have hone : Single.format.value (Single.code Single.one) = 1 := by decide +kernel
  refine ⟨_, rfl, rfl, 16777215 / 16777216, hbelow,
    ⟨by decide, .inl (by decide), by decide +kernel⟩, hfloor, hred, fun hread => ?_⟩
  rw [hred] at hread
  have hless := hfloor.le
  rw [← (hread.finite hfloor.finite).value, hone] at hless
  exact hless.not_gt hbelow

end Format

end HostGpu
