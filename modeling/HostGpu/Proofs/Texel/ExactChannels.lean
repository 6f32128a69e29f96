import HostGpu.Proofs.Number.Bits
import HostGpu.Proofs.Span
import HostGpu.Proofs.Texel.Codec

/-!
# Channels that keep their bits

The bits of the channels of a format follow each other from the first to the last bit of the texel
(`ChannelLayout.Dense`), so that each bit of an encoded texel is one bit of what is written to one
channel (`Dense.bit_encode_eq_true_iff`).  Integer channels and floating point channels of a whole
word are moved and not rounded (`ChannelLayout.Exact`).  From this come both round trips: a texel
that was written reads as its components, cut to the width of the channels, and packed data that
were read are written back.
-/

namespace HostGpu

/-! ## Bits of packed texels -/

theorem Word.byte_eq_of_bit_eq {v w : UInt32} {k : Nat}
    (h : ∀ j < 8, Word.bit v (8 * k + j) = Word.bit w (8 * k + j)) :
    Word.byte v k = Word.byte w k := by
  have hpow : 256 ^ k = 2 ^ (8 * k) := by rw [Nat.pow_mul]
  refine UInt8.toNat_inj.mp ?_
  rw [Word.byte, Word.byte, UInt8.toNat_ofNat', UInt8.toNat_ofNat', hpow]
  refine Nat.eq_of_testBit_eq ?_
  intro j
  rw [Nat.testBit_mod_two_pow, Nat.testBit_mod_two_pow, Nat.testBit_div_two_pow,
    Nat.testBit_div_two_pow, Nat.add_comm j]
  by_cases hj : j < 8
  · rw [← Word.bit_eq_testBit, ← Word.bit_eq_testBit, h j hj]
  · simp [hj]

namespace PackedTexel

/-- Bit `i` of a packed texel, from the lowest bit of its first word on. -/
def bit (p : PackedTexel) (i : Nat) : Bool := Word.bit (p.get (Fin.ofNat 4 (i / 32))) (i % 32)

theorem bit_add (p : PackedTexel) (word : Fin 4) {j : Nat} (hj : j < 32) :
    p.bit (32 * word.val + j) = Word.bit (p.get word) j := by
  have hdiv : (32 * word.val + j) / 32 = word.val := by omega
  have hmod : (32 * word.val + j) % 32 = j := by omega
  rw [bit, hdiv, hmod, Fin.ofNat_val_eq_self]

theorem bit_zero (i : Nat) : zero.bit i = false := by
  have hword (word : Fin 4) : zero.get word = 0 := by
    match word with
    | 0 | 1 | 2 | 3 => rfl
  rw [bit, hword, Word.bit_zero]

theorem byte_zero (o : Nat) : zero.byte o = 0 := by
  have hword (word : Fin 4) : zero.get word = 0 := by
    match word with
    | 0 | 1 | 2 | 3 => rfl
  simp [byte, hword, Word.byte]

theorem byte_eq_of_bit_eq {p q : PackedTexel} {o : Nat}
    (h : ∀ j < 8, p.bit (8 * o + j) = q.bit (8 * o + j)) : p.byte o = q.byte o := by
  refine Word.byte_eq_of_bit_eq ?_
  intro j hj
  have hdiv : (8 * o + j) / 32 = o / 4 := by omega
  have hmod : (8 * o + j) % 32 = 8 * (o % 4) + j := by omega
  have hbit := h j hj
  rwa [bit, bit, hdiv, hmod] at hbit

end PackedTexel

namespace Texel

/-- The component of a channel. -/
def get (t : Texel) : Fin 4 → UInt32
  | 0 => t.red
  | 1 => t.green
  | 2 => t.blue
  | 3 => t.alpha

theorem getElem?_toList (t : Texel) (channel : Fin 4) :
    t.toList[channel.val]? = some (t.get channel) := by
  match channel with
  | 0 | 1 | 2 | 3 => rfl

end Texel

/-! ## Channels in the texel -/

namespace ChannelField

/-- The bits of the packed texel that the channel has. -/
def span (f : ChannelField) : Span :=
  ⟨32 * f.word.val + f.shift, 32 * f.word.val + f.shift + f.bits⟩

theorem mem_span {f : ChannelField} {i : Nat} :
    i ∈ f.span ↔ 32 * f.word.val + f.shift ≤ i ∧ i < 32 * f.word.val + f.shift + f.bits := Iff.rfl

theorem span_start (f : ChannelField) : f.span.start = 32 * f.word.val + f.shift := rfl

/-- The channel has bits, and all of them in its word. -/
def InWord (f : ChannelField) : Prop := 0 < f.bits ∧ f.shift + f.bits ≤ 32

instance (f : ChannelField) : Decidable f.InWord := inferInstanceAs (Decidable (_ ∧ _))

variable {f : ChannelField} {j : Nat}

theorem bit_extract (h : f.InWord) (p : PackedTexel) (j : Nat) :
    Word.bit (f.extract p) j = (decide (j < f.bits) && p.bit (f.span.start + j)) := by
  obtain ⟨hpos, hword⟩ := h
  rw [extract, mask, Word.bit_and, Word.bit_shiftRight (by omega), Word.bit_lowMask (by omega),
    Bool.and_comm]
  by_cases hj : j < f.bits
  · rw [span, Nat.add_assoc, p.bit_add f.word (by omega)]
  · simp [hj]

end ChannelField

namespace ChannelLayout

variable {l : ChannelLayout}

theorem bit_place (hkind : l.kind ≠ .snorm) {f : ChannelField} (h : f.InWord) (x : UInt32)
    {j : Nat} (hj : j < 32) :
    Word.bit (l.place f x) j = (decide (f.shift ≤ j ∧ j < f.shift + f.bits) &&
      Word.bit (l.kind.write f.bits x) (j - f.shift)) := by
  obtain ⟨hpos, hword⟩ := h
  have hplace : l.place f x =
      Word.shiftLeft (l.kind.write f.bits x &&& f.mask) (UInt32.ofNat f.shift) := by
    simp [place, hkind]
  rw [hplace, Word.bit_shiftLeft (by omega), Word.bit_and, ChannelField.mask,
    Word.bit_lowMask (by omega)]
  have hrange : (f.shift ≤ j ∧ j < f.shift + f.bits) ↔
      (j < 32 ∧ f.shift ≤ j) ∧ j - f.shift < f.bits := by omega
  rw [decide_eq_decide.mpr hrange, Bool.decide_and (j < 32 ∧ f.shift ≤ j), Bool.and_assoc,
    Bool.and_comm (Word.bit _ _)]

/-- A bit of one word is a bit of a channel that was placed there. -/
theorem bit_foldl_place (word : Fin 4) (j : Nat) (written : List (ChannelField × UInt32))
    (acc : UInt32) :
    Word.bit (written.foldl
        (fun acc (f, x) => if f.word = word then acc ||| l.place f x else acc) acc) j =
      (Word.bit acc j || written.any fun (f, x) =>
        decide (f.word = word) && Word.bit (l.place f x) j) := by
  induction written generalizing acc with
  | nil => simp
  | cons entry written ih =>
    obtain ⟨f, x⟩ := entry
    rw [List.foldl_cons, ih, List.any_cons, ← Bool.or_assoc]
    by_cases hword : f.word = word <;> simp [hword]

/-- Decoding reads every channel; without one, alpha is one and the others are zero. -/
theorem get_decode (l : ChannelLayout) (p : PackedTexel) (channel : Fin 4) :
    (l.decode p).get channel =
      l.readChannel p channel.val (if channel = 3 then l.kind.one else 0) := by
  match channel with
  | 0 | 1 | 2 | 3 => rfl

/-- Every channel of a layout without sRGB colours is read in the same way. -/
theorem get_decode_of_ne_srgb (hkind : l.kind ≠ .srgb) (p : PackedTexel) (channel : Fin 4) :
    (l.decode p).get channel = l.fields[channel.val]?.elim
      (if channel = 3 then l.kind.one else 0) fun f => l.kind.read f.bits (f.extract p) := by
  have hsame : l.kindOf channel = l.kind := by simp [kindOf, hkind]
  rw [get_decode, readChannel, hsame]
  cases l.fields[channel.val]? <;> rfl

/-- The channels follow each other from the first bit of the texel to its last one, and what is
written to each is cut to its width. -/
structure Dense (l : ChannelLayout) : Prop where
  follow : Span.Follow 0 (8 * l.size) (l.fields.map ChannelField.span)
  inWord : ∀ f ∈ l.fields, f.InWord
  size_le : l.size ≤ 16
  kind : l.kind ≠ .snorm
  count : l.fields.length ≤ 4

/-- The channels move the bits of their components: they follow each other from the first bit of
the texel to its last one, are as wide as the format says and do not round. -/
structure Exact (l : ChannelLayout) (kind : NumericKind) (components : List Nat) : Prop where
  follow : Span.Follow 0 (8 * l.size) (l.fields.map ChannelField.span)
  inWord : ∀ f ∈ l.fields, f.InWord
  size_le : l.size ≤ 16
  kind : kind = .uint ∧ l.kind = .uint ∨ kind = .sint ∧ l.kind = .sint ∨
    kind = .sfloat ∧ l.kind = .float ∧ ∀ f ∈ l.fields, f.bits = 32
  count : l.fields.length ≤ 4
  bits : ∀ channel : Fin 4, l.fields[channel.val]?.elim 0 (·.bits) = components.getD channel 0

end ChannelLayout

/-! ## Encoded channels -/

namespace ChannelLayout.Dense

variable {l : ChannelLayout} (h : l.Dense)
include h

/-- A bit of the texel is written by the channel that has it. -/
theorem placed_iff {f : ChannelField} (hf : f ∈ l.fields) (x : UInt32) {i : Nat} (hi : i < 128) :
    (f.word = Fin.ofNat 4 (i / 32) ∧ Word.bit (l.place f x) (i % 32) = true) ↔
      i ∈ f.span ∧ Word.bit (l.kind.write f.bits x) (i - f.span.start) = true := by
  have hmod : i % 32 < 32 := Nat.mod_lt _ (by decide)
  have hword : f.word = Fin.ofNat 4 (i / 32) ↔ f.word.val = i / 32 := by
    rw [Fin.ext_iff, Fin.val_ofNat, Nat.mod_eq_of_lt (by omega)]
  have hspan : i ∈ f.span ↔
      f.word.val = i / 32 ∧ f.shift ≤ i % 32 ∧ i % 32 < f.shift + f.bits := by
    obtain ⟨hpos, hfits⟩ := h.inWord f hf
    rw [ChannelField.mem_span]
    omega
  rw [bit_place h.kind (h.inWord f hf) x hmod, hword, hspan,
    Bool.and_eq_true, decide_eq_true_eq, ← and_assoc]
  refine and_congr_right ?_
  rintro ⟨hequal, -⟩
  have hplace : i % 32 - f.shift = i - f.span.start := by
    rw [ChannelField.span_start]
    omega
  rw [hplace]

/-- A bit of an encoded texel is a bit of what is written to the channel that has it. -/
theorem bit_encode_eq_true_iff (t : Texel) {i : Nat} (hi : i < 128) :
    (l.encode t).bit i = true ↔ ∃ channel : Fin 4, ∃ f, l.fields[channel.val]? = some f ∧
      i ∈ f.span ∧ Word.bit (l.kind.write f.bits (t.get channel)) (i - f.span.start) = true := by
  rw [PackedTexel.bit, encode, PackedTexel.get_ofFn, bit_foldl_place, Word.bit_zero, Bool.false_or,
    List.any_eq_true]
  constructor
  · rintro ⟨⟨f, x⟩, hmem, hbit⟩
    obtain ⟨k, hk⟩ := List.mem_iff_getElem?.mp hmem
    obtain ⟨hfield, hcomponent⟩ := List.getElem?_zip_eq_some.mp hk
    obtain ⟨hk4, -⟩ := List.getElem?_eq_some_iff.mp hcomponent
    obtain rfl : t.get ⟨k, hk4⟩ = x :=
      Option.some.inj ((t.getElem?_toList ⟨k, hk4⟩).symm.trans hcomponent)
    rw [Bool.and_eq_true, decide_eq_true_eq,
      h.placed_iff (List.mem_of_getElem? hfield) _ hi] at hbit
    exact ⟨⟨k, hk4⟩, f, hfield, hbit⟩
  · rintro ⟨channel, f, hfield, hbit⟩
    have hentry : (l.fields.zip t.toList)[channel.val]? = some (f, t.get channel) :=
      List.getElem?_zip_eq_some.mpr ⟨hfield, t.getElem?_toList channel⟩
    refine ⟨(f, t.get channel), List.mem_of_getElem? hentry, ?_⟩
    rw [Bool.and_eq_true, decide_eq_true_eq]
    exact (h.placed_iff (List.mem_of_getElem? hfield) _ hi).mpr hbit

/-- All bits of the channels are bits of the texel. -/
theorem lt_of_mem_span {f : ChannelField} (hf : f ∈ l.fields) {i : Nat} (hi : i ∈ f.span) :
    i < 8 * l.size :=
  (h.follow.exists_mem_iff.mp ⟨f.span, List.mem_map_of_mem hf, hi⟩).2

/-- No two channels have a bit in common. -/
theorem channel_unique {k k' i : Nat} {f f' : ChannelField} (hf : l.fields[k]? = some f)
    (hf' : l.fields[k']? = some f') (hi : i ∈ f.span) (hi' : i ∈ f'.span) : k = k' :=
  h.follow.index_unique (by rw [List.getElem?_map, hf]; rfl) (by rw [List.getElem?_map, hf']; rfl)
    hi hi'

/-- The bits of a channel of an encoded texel are those that are written to it. -/
theorem bit_encode {t : Texel} {channel : Fin 4} {f : ChannelField}
    (hf : l.fields[channel.val]? = some f) {i : Nat} (hi : i ∈ f.span) :
    (l.encode t).bit i = Word.bit (l.kind.write f.bits (t.get channel)) (i - f.span.start) := by
  have hlt := h.lt_of_mem_span (List.mem_of_getElem? hf) hi
  have hsize := h.size_le
  refine Bool.eq_iff_iff.mpr ((h.bit_encode_eq_true_iff t (by omega)).trans ⟨?_, ?_⟩)
  · rintro ⟨channel', f', hf', hi', hbit⟩
    obtain rfl : channel = channel' := Fin.ext (h.channel_unique hf hf' hi hi')
    obtain rfl : f = f' := Option.some.inj (hf.symm.trans hf')
    exact hbit
  · exact fun hbit => ⟨channel, f, hf, hi, hbit⟩

theorem bit_encode_of_le (t : Texel) {i : Nat} (hi : i < 128) (hle : 8 * l.size ≤ i) :
    (l.encode t).bit i = false := by
  refine Bool.eq_false_iff.mpr ?_
  rw [ne_eq, h.bit_encode_eq_true_iff t hi]
  rintro ⟨channel, f, hf, hmem, -⟩
  have hlt := h.lt_of_mem_span (List.mem_of_getElem? hf) hmem
  omega

/-- A channel that was written has the lowest bits of what was written to it. -/
theorem extract_encode (t : Texel) {channel : Fin 4} {f : ChannelField}
    (hf : l.fields[channel.val]? = some f) :
    f.extract (l.encode t) = Word.zeroExtend f.bits (l.kind.write f.bits (t.get channel)) := by
  refine Word.eq_of_bit_eq ?_
  intro j hj
  rw [ChannelField.bit_extract (h.inWord f (List.mem_of_getElem? hf)), Word.bit_zeroExtend _ hj]
  by_cases hbits : j < f.bits
  · have hmem : f.span.start + j ∈ f.span := by
      rw [ChannelField.mem_span, ChannelField.span_start]
      omega
    rw [h.bit_encode hf hmem, Nat.add_sub_cancel_left]
  · simp [hbits]

/-- No byte behind the texel is written. -/
theorem byte_encode_of_le (t : Texel) {o : Nat} (ho : o < 16) (hle : l.size ≤ o) :
    (l.encode t).byte o = 0 := by
  rw [← PackedTexel.byte_zero o]
  refine PackedTexel.byte_eq_of_bit_eq ?_
  intro j hj
  rw [h.bit_encode_of_le _ (by omega) (by omega), PackedTexel.bit_zero]

end ChannelLayout.Dense

namespace NumericKind

/-- What a channel of `n` bits keeps of a component. -/
def kept (kind : NumericKind) (n : Nat) (x : UInt32) : UInt32 :=
  match kind with
  | .uint => Word.zeroExtend n x
  | .sint => Word.signExtend n x
  | _ => x

/-- What is read for a channel that a format does not have: an opaque black. -/
def absent (kind : NumericKind) (channel : Fin 4) : UInt32 :=
  if channel = 3 then
    match kind with
    | .uint | .sint => 1
    | _ => Single.one
  else 0

end NumericKind

namespace ChannelLayout.Exact

variable {l : ChannelLayout} {kind : NumericKind} {components : List Nat}
  (h : l.Exact kind components)
include h

theorem kind_ne_snorm : l.kind ≠ .snorm := by
  rcases h.kind with ⟨-, hkind⟩ | ⟨-, hkind⟩ | ⟨-, hkind, -⟩ <;> rw [hkind] <;> decide

/-- No bit is changed before it is written. -/
theorem write_eq {f : ChannelField} (hf : f ∈ l.fields) (x : UInt32) :
    l.kind.write f.bits x = x := by
  rcases h.kind with ⟨-, hkind⟩ | ⟨-, hkind⟩ | ⟨-, hkind, hbits⟩
  · rw [hkind]
    rfl
  · rw [hkind]
    rfl
  · rw [hkind, hbits f hf]
    rfl

/-- Reading a channel keeps its bits. -/
theorem bit_read {f : ChannelField} (hf : f ∈ l.fields) (v : UInt32) {j : Nat} (hj : j < f.bits) :
    Word.bit (l.kind.read f.bits v) j = Word.bit v j := by
  obtain ⟨hpos, hword⟩ := h.inWord f hf
  rcases h.kind with ⟨-, hkind⟩ | ⟨-, hkind⟩ | ⟨-, hkind, hbits⟩
  · rw [hkind]
    rfl
  · rw [hkind, ChannelKind.read, ChannelKind.readSint, Word.bit_shiftRightSigned (by omega) _
      (by omega), Word.bit_shiftLeft (by omega), Nat.min_eq_left (by omega),
      Nat.add_sub_cancel_left]
    simp only [Bool.and_eq_right_iff_imp, decide_eq_true_eq]
    omega
  · rw [hkind, hbits f hf]
    rfl

/-- Reading the lowest bits of a component gives what the channel keeps of it. -/
theorem read_zeroExtend {f : ChannelField} (hf : f ∈ l.fields) (x : UInt32) :
    l.kind.read f.bits (Word.zeroExtend f.bits x) = kind.kept f.bits x := by
  obtain ⟨hpos, hword⟩ := h.inWord f hf
  refine Word.eq_of_bit_eq ?_
  intro j hj
  rcases h.kind with ⟨rfl, hkind⟩ | ⟨rfl, hkind⟩ | ⟨rfl, hkind, hbits⟩
  · rw [hkind]
    rfl
  · rw [hkind, ChannelKind.read, ChannelKind.readSint, Word.bit_shiftRightSigned (by omega) _ hj,
      Word.bit_shiftLeft (by omega), Word.bit_zeroExtend _ (by omega), NumericKind.kept,
      Word.bit_signExtend hpos _ hj]
    have hplace : min (32 - f.bits + j) 31 - (32 - f.bits) = min j (f.bits - 1) := by omega
    have hrange : (min (32 - f.bits + j) 31 < 32 ∧ 32 - f.bits ≤ min (32 - f.bits + j) 31) ∧
        min j (f.bits - 1) < f.bits := by omega
    simp [hplace, hrange]
  · have hread : l.kind.read f.bits (Word.zeroExtend f.bits x) = Word.zeroExtend f.bits x := by
      rw [hkind, hbits f hf]
      rfl
    rw [hread, Word.bit_zeroExtend _ hj, hbits f hf, decide_eq_true hj, Bool.true_and]
    rfl

theorem dense : l.Dense := ⟨h.follow, h.inWord, h.size_le, h.kind_ne_snorm, h.count⟩

/-- The bits of a channel of an encoded texel are those of its component. -/
theorem bit_encode {t : Texel} {channel : Fin 4} {f : ChannelField}
    (hf : l.fields[channel.val]? = some f) {i : Nat} (hi : i ∈ f.span) :
    (l.encode t).bit i = Word.bit (t.get channel) (i - f.span.start) := by
  rw [h.dense.bit_encode hf hi, h.write_eq (List.mem_of_getElem? hf)]

/-- The bits of a channel that was written are the lowest bits of its component. -/
theorem extract_encode (t : Texel) {channel : Fin 4} {f : ChannelField}
    (hf : l.fields[channel.val]? = some f) :
    f.extract (l.encode t) = Word.zeroExtend f.bits (t.get channel) := by
  rw [h.dense.extract_encode t hf, h.write_eq (List.mem_of_getElem? hf)]

theorem get_decode (p : PackedTexel) (channel : Fin 4) :
    (l.decode p).get channel = l.fields[channel.val]?.elim (kind.absent channel) fun f =>
      l.kind.read f.bits (f.extract p) := by
  have hsrgb : l.kind ≠ .srgb := by
    rcases h.kind with ⟨-, hkind⟩ | ⟨-, hkind⟩ | ⟨-, hkind, -⟩ <;> rw [hkind] <;> decide
  have habsent : (if channel = 3 then l.kind.one else 0) = kind.absent channel := by
    rcases h.kind with ⟨rfl, hkind⟩ | ⟨rfl, hkind⟩ | ⟨rfl, hkind, -⟩ <;> rw [hkind] <;> rfl
  rw [get_decode_of_ne_srgb hsrgb, habsent]

/-- A texel that was written reads as its components, cut to the width of the channels. -/
theorem get_decode_encode (t : Texel) (channel : Fin 4) :
    (l.decode (l.encode t)).get channel =
      if components.getD channel 0 = 0 then kind.absent channel
      else kind.kept (components.getD channel 0) (t.get channel) := by
  rw [h.get_decode, ← h.bits channel]
  cases hf : l.fields[channel.val]? with
  | none => rfl
  | some f =>
    have hmem := List.mem_of_getElem? hf
    have hpos : f.bits ≠ 0 := Nat.ne_of_gt (h.inWord f hmem).1
    rw [Option.elim_some, Option.elim_some, if_neg hpos, h.extract_encode t hf,
      h.read_zeroExtend hmem]

/-- Packed data that were read are written back, up to the size of the texel. -/
theorem byte_encode_decode (p : PackedTexel) {o : Nat} (ho : o < 16) :
    (l.encode (l.decode p)).byte o = if o < l.size then p.byte o else 0 := by
  by_cases hsize : o < l.size
  · rw [if_pos hsize]
    refine PackedTexel.byte_eq_of_bit_eq ?_
    intro j hj
    obtain ⟨s, hs, hmem⟩ := h.follow.exists_mem_iff.mpr ⟨Nat.zero_le (8 * o + j), by omega⟩
    obtain ⟨f, hf, rfl⟩ := List.mem_map.mp hs
    obtain ⟨k, hk⟩ := List.mem_iff_getElem?.mp hf
    have hcount := h.count
    obtain ⟨hlt, -⟩ := List.getElem?_eq_some_iff.mp hk
    obtain ⟨channel, rfl⟩ : ∃ channel : Fin 4, channel.val = k := ⟨⟨k, by omega⟩, rfl⟩
    -- The bit is one of this channel, which was read from the same place.
    have hread : (l.decode p).get channel = l.kind.read f.bits (f.extract p) := by
      rw [h.get_decode, hk, Option.elim_some]
    have hmem' := ChannelField.mem_span.mp hmem
    have hplace : 8 * o + j - f.span.start < f.bits := by
      rw [ChannelField.span_start]
      omega
    have hback : f.span.start + (8 * o + j - f.span.start) = 8 * o + j := by
      rw [ChannelField.span_start]
      omega
    rw [h.bit_encode hk hmem, hread, h.bit_read hf _ hplace,
      ChannelField.bit_extract (h.inWord f hf), decide_eq_true hplace, Bool.true_and, hback]
  · rw [if_neg hsize]
    exact h.dense.byte_encode_of_le _ ho (by omega)

end ChannelLayout.Exact

/-! ## The formats -/

/-- The channels of integer formats, and of floating point formats of whole words, move bits. -/
theorem Format.exact_of_writer? {f : Format} {kind : NumericKind} {l : ChannelLayout}
    (hkind : f.info.color = some kind)
    (hexact : kind = .uint ∨ kind = .sint ∨
      kind = .sfloat ∧ ∀ n ∈ f.info.components, n = 0 ∨ n = 32)
    (hwriter : f.writer? = some l) : l.Exact kind f.info.components := by
  obtain ⟨hwritable, hlayout⟩ := layout?_of_writer? hwriter
  cases f <;> first
    | exact absurd hwritable (by decide)
    | (cases hkind; exact absurd hexact (by decide))
    | (cases hkind; cases hlayout; constructor <;> decide)

/-- For every format with integer channels, or floating point channels of whole words, that shaders
both read and write: in each lane a texel that was written reads as the lowest bits of its
components, extended by the numeric kind, with opaque black for the channels that the format does
not have; packed data that were read are written back in the bytes of the texel, with zeros after
them; and the texel is as large as the format says. -/
theorem Format.exact_channels_round_trip {f : Format} {kind : NumericKind}
    (hkind : f.info.color = some kind)
    (hexact : kind = .uint ∨ kind = .sint ∨
      kind = .sfloat ∧ ∀ n ∈ f.info.components, n = 0 ∨ n = 32)
    {reader writer : ChannelLayout} (hreader : f.layout? = some reader)
    (hwriter : f.writer? = some writer) :
    (∀ (texels : Lanes Texel) (lane : Lane) (channel : Fin 4),
      (((texels.map writer.encode).map reader.decode).get lane).get channel =
        if f.info.components.getD channel 0 = 0 then kind.absent channel
        else kind.kept (f.info.components.getD channel 0) ((texels.get lane).get channel)) ∧
    (∀ (packed : Lanes PackedTexel) (lane : Lane), ∀ o < 16,
      (((packed.map reader.decode).map writer.encode).get lane).byte o =
        if o < f.blockSize then (packed.get lane).byte o else 0) ∧
    writer.size = f.blockSize := by
  have hexactly := exact_of_writer? hkind hexact hwriter
  have hsize := size_of_writer? hwriter
  obtain rfl : reader = writer :=
    Option.some.inj (hreader.symm.trans (layout?_of_writer? hwriter).2)
  refine ⟨?_, ?_, hsize⟩
  · intro texels lane channel
    rw [Lanes.get_map, Lanes.get_map, hexactly.get_decode_encode]
  · intro packed lane o ho
    rw [Lanes.get_map, Lanes.get_map, hexactly.byte_encode_decode _ ho, hsize]

/-- Two signed channels of 16 bits: green is negative in its lowest bits, blue and alpha are
absent, and the last bytes of the packed data are not of the texel. -/
theorem Format.signed_halves_round_trip :
    let l := ChannelLayout.uniform .sint 16 2
    Format.r16g16Sint.layout? = some l ∧ Format.r16g16Sint.writer? = some l ∧
      (l.decode (l.encode ⟨0x12345678, 0x0001FFFE, 7, 7⟩)).green = 0xFFFFFFFE ∧
      (l.decode (l.encode ⟨0x12345678, 0x0001FFFE, 7, 7⟩)).alpha = 1 ∧
      (l.encode (l.decode ⟨0x12345678, 0x9ABCDEF0, 0, 0⟩)).byte 3 = 0x12 ∧
      (l.encode (l.decode ⟨0x12345678, 0x9ABCDEF0, 0, 0⟩)).byte 4 = 0 := by
  obtain ⟨hread, hwritten, -⟩ := exact_channels_round_trip (f := .r16g16Sint) rfl
    (Or.inr (Or.inl rfl)) rfl rfl
  have htexel := hread (.splat ⟨0x12345678, 0x0001FFFE, 7, 7⟩) 0
  have hpacked := hwritten (.splat ⟨0x12345678, 0x9ABCDEF0, 0, 0⟩) 0
  exact ⟨rfl, rfl, (htexel 1).trans (by decide), (htexel 3).trans (by decide),
    (hpacked 3 (by decide)).trans (by decide), (hpacked 4 (by decide)).trans (by decide)⟩

end HostGpu
