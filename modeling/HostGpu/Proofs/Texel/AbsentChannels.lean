import HostGpu.Proofs.Texel.ExactChannels

/-!
# What a texel is read from

Packed data come in four words, of which a texel has the first bytes only.  All channels lie in
these, so that what stands behind a narrow texel is not seen (`ChannelLayout.decode_eq_of_bytes`).
The layouts by which colours are read have the channels that the table of formats lists, and no
others (`ChannelLayout.Lists`): the ones that are not listed are read as an opaque black, and each
one that is listed shows whether its bits are all zero or all one.
-/

namespace HostGpu

/-! ## Bits of bytes -/

/-- A bit of a word is one of the byte that it lies in. -/
theorem Word.bit_eq_testBit_byte (w : UInt32) (k : Nat) {j : Nat} (hj : j < 8) :
    bit w (8 * k + j) = (byte w k).toNat.testBit j := by
  have hpow : 256 ^ k = 2 ^ (8 * k) := by rw [Nat.pow_mul]
  rw [bit_eq_testBit, byte, UInt8.toNat_ofNat', Nat.testBit_mod_two_pow, hpow,
    Nat.testBit_div_two_pow, Nat.add_comm j]
  simp [hj]

namespace PackedTexel

theorem bit_eq_testBit_byte (p : PackedTexel) (i : Nat) :
    p.bit i = (p.byte (i / 8)).toNat.testBit (i % 8) := by
  have hword : i / 8 / 4 = i / 32 := by omega
  have hplace : i % 32 = 8 * (i / 8 % 4) + i % 8 := by omega
  rw [bit, byte, hword, hplace, Word.bit_eq_testBit_byte _ _ (Nat.mod_lt i (by decide))]

/-- The packed data whose bits are all one. -/
def ones : PackedTexel := .ofFn fun _ => 0xFFFFFFFF

theorem bit_ones (i : Nat) : ones.bit i = true := by
  have hbits : ∀ j < 32, Word.bit 0xFFFFFFFF j = true := by decide
  rw [bit, ones, get_ofFn, hbits _ (Nat.mod_lt i (by decide))]

/-- The packed data that have one byte of ones, and zeros elsewhere. -/
def onesAt (o : Nat) : PackedTexel :=
  .ofFn fun word => if word.val = o / 4 then 0xFF <<< UInt32.ofNat (8 * (o % 4)) else 0

theorem byte_onesAt_of_lt {o k : Nat} (ho : o < 16) (hk : k < o) : (onesAt o).byte k = 0 := by
  have hbytes : ∀ o < 16, ∀ k < o, (onesAt o).byte k = 0 := by decide +kernel
  exact hbytes o ho k hk

end PackedTexel

namespace ChannelField

variable {f : ChannelField}

theorem extract_zero (h : f.InWord) : f.extract .zero = 0 := by
  refine Word.eq_of_bit_eq fun j _ => ?_
  rw [bit_extract h, PackedTexel.bit_zero, Bool.and_false, Word.bit_zero]

theorem extract_ones (h : f.InWord) : f.extract .ones = f.mask := by
  obtain ⟨hpos, hword⟩ := h
  refine Word.eq_of_bit_eq fun j _ => ?_
  rw [bit_extract ⟨hpos, hword⟩, PackedTexel.bit_ones, Bool.and_true, mask,
    Word.bit_lowMask (by omega)]

end ChannelField

/-! ## Channels and the table of formats -/

namespace ChannelLayout

variable {l : ChannelLayout}

/-- Decoding sees the bytes of the texel and nothing behind them. -/
theorem decode_eq_of_bytes (hl : l.Fits) {p q : PackedTexel}
    (h : ∀ o < l.size, p.byte o = q.byte o) : l.decode p = l.decode q := by
  refine decode_congr fun f hf => Word.eq_of_bit_eq fun j _ => ?_
  obtain ⟨hpos, hword, hfits⟩ := hl f hf
  rw [ChannelField.bit_extract ⟨hpos, hword⟩, ChannelField.bit_extract ⟨hpos, hword⟩]
  by_cases hj : j < f.bits
  · have hbyte : (f.span.start + j) / 8 < l.size := by
      rw [ChannelField.span_start]
      omega
    rw [p.bit_eq_testBit_byte, q.bit_eq_testBit_byte, h _ hbyte]
  · simp [hj]

/-- The channels are those that the table of formats lists for a colour.  None of them is read the
same whether its bits are all zero or all one, and neither is a byte of the texel. -/
structure Lists (l : ChannelLayout) (kind : NumericKind) (info : FormatInfo) : Prop where
  size : l.size = info.blockSize
  size_le : l.size ≤ 16
  bits : ∀ channel : Fin 4,
    l.fields[channel.val]?.elim 0 (·.bits) = info.components.getD channel 0
  one : l.kind.one = kind.absent 3
  differs : ∀ channel : Fin 4, ∀ f ∈ l.fields[channel.val]?,
    (l.kindOf channel).read f.bits 0 ≠ (l.kindOf channel).read f.bits f.mask
  seen : ∀ o < l.size, l.decode (.onesAt o) ≠ l.decode .zero

variable {kind : NumericKind} {info : FormatInfo}

/-- The bytes of the texel decide what is read, and no fewer first bytes do. -/
theorem Lists.decided_iff (h : l.Lists kind info) (hl : l.Fits) (n : Nat) :
    info.blockSize ≤ n ↔
      ∀ p q : PackedTexel, (∀ o < n, p.byte o = q.byte o) → l.decode p = l.decode q := by
  rw [← h.size]
  constructor
  · intro hn p q hbytes
    exact decode_eq_of_bytes hl fun o ho => hbytes o (by omega)
  · intro hdecided
    refine Nat.not_lt.mp fun hlt => h.seen n hlt (hdecided _ _ fun o ho => ?_)
    have hsize := h.size_le
    rw [PackedTexel.byte_onesAt_of_lt (by omega) ho, PackedTexel.byte_zero]

/-- A channel that is not listed is that of an opaque black. -/
theorem Lists.get_decode_of_absent (h : l.Lists kind info) {channel : Fin 4}
    (hfield : l.fields[channel.val]? = none) (p : PackedTexel) :
    (l.decode p).get channel = kind.absent channel := by
  rw [get_decode, readChannel, hfield]
  by_cases halpha : channel = 3
  · rw [if_pos halpha, halpha, h.one]
  · rw [if_neg halpha]
    exact (if_neg halpha).symm

/-- A channel that is listed is not the same for all packed data. -/
theorem Lists.get_decode_ne (h : l.Lists kind info) (hl : l.Fits) {channel : Fin 4}
    {f : ChannelField} (hfield : l.fields[channel.val]? = some f) :
    (l.decode .zero).get channel ≠ (l.decode .ones).get channel := by
  obtain ⟨hpos, hword, -⟩ := hl f (List.mem_of_getElem? hfield)
  rw [get_decode, get_decode, readChannel, readChannel, hfield]
  simp only [ChannelField.extract_zero ⟨hpos, hword⟩, ChannelField.extract_ones ⟨hpos, hword⟩]
  exact h.differs channel f hfield

/-- Exactly the channels without bits in the table are constant. -/
theorem Lists.absent_iff (h : l.Lists kind info) (hl : l.Fits) (channel : Fin 4) :
    info.components.getD channel 0 = 0 ↔
      ∀ p : PackedTexel, (l.decode p).get channel = kind.absent channel := by
  rw [← h.bits channel]
  cases hfield : l.fields[channel.val]? with
  | none => exact ⟨fun _ => h.get_decode_of_absent hfield, fun _ => rfl⟩
  | some f =>
    have hpos := (hl f (List.mem_of_getElem? hfield)).1
    refine ⟨fun hzero => absurd hzero hpos.ne', fun hconstant => ?_⟩
    exact absurd ((hconstant .zero).trans (hconstant .ones).symm) (h.get_decode_ne hl hfield)

end ChannelLayout

namespace Format

variable {f : Format} {kind : NumericKind} {l : ChannelLayout}

/-- Colours are read by the channels that the table lists. -/
theorem lists_of_layout? (hkind : f.info.color = some kind) (hlayout : f.layout? = some l) :
    l.Lists kind f.info := by
  cases f <;> cases hkind <;> cases hlayout <;> constructor <;> decide +kernel

/-- **Colours are read from the bytes of their texels.**  For every colour format that shaders can
read: the first bytes of packed data decide what is read in a lane exactly from the size of the texel
on, so that whatever stands behind it is ignored; and the channels without bits in the table of
formats are exactly those that are the same in all lanes of all packed data, namely zero for red,
green and blue, and for alpha the one of the format's numbers. -/
theorem colors_are_read_from_texels (hkind : f.info.color = some kind)
    (hlayout : f.layout? = some l) :
    (∀ n, f.blockSize ≤ n ↔ ∀ (packed packed' : Lanes PackedTexel) (lane : Lane),
      (∀ o < n, (packed.get lane).byte o = (packed'.get lane).byte o) →
      (packed.map l.decode).get lane = (packed'.map l.decode).get lane) ∧
    ∀ channel : Fin 4, f.info.components.getD channel 0 = 0 ↔
      ∀ (packed : Lanes PackedTexel) (lane : Lane),
        ((packed.map l.decode).get lane).get channel =
          if channel = 3 then (if kind = .uint ∨ kind = .sint then 1 else 0x3F800000) else 0 := by
  have hlists := lists_of_layout? hkind hlayout
  have hfits := fits_of_layout? hlayout
  have habsent (channel : Fin 4) : kind.absent channel =
      if channel = 3 then (if kind = .uint ∨ kind = .sint then 1 else 0x3F800000) else 0 := by
    cases kind <;> rfl
  constructor
  · intro n
    rw [blockSize, hlists.decided_iff hfits]
    simp only [Lanes.get_map]
    exact ⟨fun h packed packed' lane => h _ _, fun h p q => h (.splat p) (.splat q) 0⟩
  · intro channel
    rw [hlists.absent_iff hfits, habsent]
    simp only [Lanes.get_map]
    exact ⟨fun h packed lane => h _, fun h p => h (.splat p) 0⟩

/-- Two bytes of a texel: the words behind them, and the bits behind them in the first word, are
ignored; blue is zero and alpha is the integer one. -/
theorem garbage_is_ignored :
    let l := ChannelLayout.uniform .sint 8 2
    r8g8Sint.layout? = some l ∧ l.decode ⟨0xABCD80FF, 1, 2, 3⟩ = l.decode ⟨0x80FF, 0, 0, 0⟩ ∧
      (l.decode ⟨0xABCD80FF, 1, 2, 3⟩).blue = 0 ∧ (l.decode ⟨0xABCD80FF, 1, 2, 3⟩).alpha = 1 := by
  obtain ⟨hdecided, habsent⟩ := colors_are_read_from_texels (f := r8g8Sint) rfl rfl
  refine ⟨rfl, (hdecided 2).mp (by decide) (.splat ⟨0xABCD80FF, 1, 2, 3⟩) (.splat ⟨0x80FF, 0, 0, 0⟩)
    0 (by decide), ?_, ?_⟩
  · exact (habsent 2).mp rfl (.splat ⟨0xABCD80FF, 1, 2, 3⟩) 0
  · exact (habsent 3).mp rfl (.splat ⟨0xABCD80FF, 1, 2, 3⟩) 0

end Format

end HostGpu
