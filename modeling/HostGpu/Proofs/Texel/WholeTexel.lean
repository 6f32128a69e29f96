import HostGpu.Execution.TexelPointer
import HostGpu.Proofs.Memory.Access
import HostGpu.Proofs.Texel.Address
import HostGpu.Proofs.Texel.Codec

/-!
# Whole texels

A texel of more than a word is loaded and stored word by word, and every word has its own test of
bounds.  Offsets and sizes are multiples of the texel size, so that the tests of all words agree and
the words of two lanes never overlap unless the lanes have the same texel (`LanePointer.Whole`).
From this follows what a store of the words of texels leaves at every byte, `byte_storeWords`.
-/

namespace HostGpu

open Execution

/-! ## Pointers to whole texels -/

namespace LanePointer

/-- Every lane of the pointer has a whole texel of `n` bytes in bounds or no byte of one. -/
structure Whole (p : LanePointer) (n : Nat) : Prop where
  distance : ∀ l k, k < n →
    (p.advance (.splat (UInt32.ofNat k))).distance l = p.distance l + k
  inBounds : ∀ l k w, 0 < w → k + w ≤ n →
    (p.advance (.splat (UInt32.ofNat k))).laneInBounds w l = p.laneInBounds n l
  dvd : ∀ l, p.laneInBounds n l = true → (n : Int) ∣ p.distance l

theorem get_offsets_advance (p : LanePointer) (d : WordLanes) (l : Lane) :
    (p.advance d).distance l = Word.signed (p.offsets.get l + d.get l) := by
  simp [LanePointer.distance, advance, Lanes.add]

/-- Lanes on the grid of texels and lanes outside of the image have whole texels. -/
theorem whole_of_dvd {p : LanePointer} {n : Nat} (hn : n ∈ texelSizes) (hlimit : n ∣ p.limit)
    (hmax : p.limit ≤ StorageView.maxBytes)
    (h : ∀ l, (n : Int) ∣ p.distance l ∨ p.distance l = Word.signed outOfBoundsOffset) :
    p.Whole n := by
  have hle := le_of_mem_texelSizes hn
  have hbound : StorageView.maxBytes = 2 ^ 30 := rfl
  have houtside : Word.signed outOfBoundsOffset = 2 ^ 31 - 17 := by decide
  have hroom (l : Lane) : p.distance l + n ≤ 2 ^ 31 := by
    have hlt : p.distance l < 2 ^ 31 := (Word.signed_bounds _).2
    simp only [texelSizes, List.mem_cons, List.not_mem_nil, or_false] at hn
    rcases h l with hd | hd
    · rcases hn with rfl | rfl | rfl | rfl | rfl <;> omega
    · omega
  have hdistance : ∀ l k, k < n →
      (p.advance (.splat (UInt32.ofNat k))).distance l = p.distance l + k := by
    intro l k hk
    have hlt := hroom l
    rw [get_offsets_advance, Lanes.get_splat]
    refine Word.signed_add_ofNat ?_
    change p.distance l + k < 2 ^ 31
    omega
  refine ⟨hdistance, ?_, ?_⟩
  · intro l k w hw hk
    have hlt := hdistance l k (by omega)
    rw [Bool.eq_iff_iff, laneInBounds_iff, laneInBounds_iff, hlt]
    have hl : (p.advance (.splat (UInt32.ofNat k))).limit = p.limit := rfl
    rw [hl]
    simp only [texelSizes, List.mem_cons, List.not_mem_nil, or_false] at hn
    rcases h l with hd | hd
    · rcases hn with rfl | rfl | rfl | rfl | rfl <;> omega
    · omega
  · intro l hin
    rcases h l with hd | hd
    · exact hd
    · have hbounds := laneInBounds_iff.mp hin
      omega

/-- Whether a lane that has a whole texel has byte `i` among those from `first` to `last` of it. -/
def spans (p : LanePointer) (n : Nat) (mask : WordLanes) (first last i : Nat) (l : Lane) : Bool :=
  p.makes n mask l && p.place l + first ≤ i && i < p.place l + last

theorem spans_iff {p : LanePointer} {n : Nat} {mask : WordLanes} {first last i : Nat} {l : Lane} :
    p.spans n mask first last i l = true ↔
      p.makes n mask l = true ∧ p.place l + first ≤ i ∧ i < p.place l + last := by
  simp [spans, and_assoc]

namespace Whole

variable {p : LanePointer} {n : Nat} (h : p.Whole n) {mask : WordLanes} {l : Lane} {k w : Nat}
include h

/-- The bounds of every part of a texel are those of the texel. -/
theorem makes_advance (hw : 0 < w) (hk : k + w ≤ n) :
    (p.advance (.splat (UInt32.ofNat k))).makes w mask l = p.makes n mask l := by
  rw [makes, makes, h.inBounds l k w hw hk]

theorem place_advance (hk : k < n) (hin : p.laneInBounds n l = true) :
    (p.advance (.splat (UInt32.ofNat k))).place l = p.place l + k := by
  have hd := (laneInBounds_iff.mp hin).1
  have hbase : (p.advance (.splat (UInt32.ofNat k))).base = p.base := rfl
  rw [place, place, h.distance l k hk, hbase]
  omega

theorem covers_advance (hw : 0 < w) (hk : k + w ≤ n) (i : Nat) :
    (p.advance (.splat (UInt32.ofNat k))).covers w mask l i = p.spans n mask k (k + w) i l := by
  rw [Bool.eq_iff_iff, covers_iff, spans_iff, h.makes_advance hw hk]
  refine and_congr_right ?_
  intro hmakes
  rw [h.place_advance (by omega) (makes_iff.mp hmakes).2, Nat.add_assoc]

/-- Texels that have a byte in common are the same texel. -/
theorem place_eq {l' : Lane} {first last first' last' i : Nat} (hlast : last ≤ n)
    (hlast' : last' ≤ n) (hl : p.spans n mask first last i l = true)
    (hl' : p.spans n mask first' last' i l' = true) : p.place l = p.place l' := by
  obtain ⟨hmakes, hle, hlt⟩ := spans_iff.mp hl
  obtain ⟨hmakes', hle', hlt'⟩ := spans_iff.mp hl'
  have hin := (makes_iff.mp hmakes).2
  have hin' := (makes_iff.mp hmakes').2
  have hpos := (laneInBounds_iff.mp hin).1
  have hpos' := (laneInBounds_iff.mp hin').1
  have hdvd : (n : Int) ∣ p.distance l - p.distance l' := Int.dvd_sub (h.dvd l hin) (h.dvd l' hin')
  simp only [place] at hle hlt hle' hlt'
  have hnear : (p.distance l - p.distance l').natAbs < (n : Int).natAbs := by omega
  have hzero := Int.eq_zero_of_dvd_of_natAbs_lt_natAbs hdvd hnear
  simp only [place]
  omega

/-- The first bytes of texels are stored, then the others: since texels do not overlap in part, the
highest lane of one part is the highest lane of both. -/
theorem highest_spans_append {first mid last i : Nat} (hfirst : first ≤ mid) (hmid : mid ≤ last)
    (hlast : last ≤ n) {α : Type} (a : α) (f : Lane → α) :
    (Lane.highest? (p.spans n mask mid last i)).elim
        ((Lane.highest? (p.spans n mask first mid i)).elim a f) f =
      (Lane.highest? (p.spans n mask first last i)).elim a f := by
  cases hh : Lane.highest? (p.spans n mask mid last i) with
  | none =>
    have hnone := Lane.highest?_eq_none.mp hh
    have hsame : ∀ l, p.spans n mask first mid i l = p.spans n mask first last i l := by
      intro l
      have hl := hnone l
      rw [← Bool.not_eq_true, spans_iff] at hl
      rw [Bool.eq_iff_iff, spans_iff, spans_iff]
      refine and_congr_right ?_
      intro hmakes
      have hout : ¬ (p.place l + mid ≤ i ∧ i < p.place l + last) := fun hrange =>
        hl ⟨hmakes, hrange⟩
      omega
    rw [Lane.highest?_congr hsame, Option.elim_none]
  | some x =>
    obtain ⟨hx, -⟩ := Lane.highest?_eq_some.mp hh
    have hsame : ∀ l, p.spans n mask mid last i l = p.spans n mask first last i l := by
      intro l
      rw [Bool.eq_iff_iff]
      constructor
      · intro hl
        obtain ⟨hmakes, hle, hlt⟩ := spans_iff.mp hl
        exact spans_iff.mpr ⟨hmakes, by omega, hlt⟩
      · intro hl
        have hplace := h.place_eq hlast hlast hl hx
        obtain ⟨-, hle, hlt⟩ := spans_iff.mp hx
        exact spans_iff.mpr ⟨(spans_iff.mp hl).1, by omega, by omega⟩
    rw [← Lane.highest?_congr hsame, hh, Option.elim_some, Option.elim_some]

/-- What the store of one word of texels leaves, where `f` are the bytes of the texels. -/
theorem byte_store_word {rule : BoundsRule} (hrule : rule ≠ .unchecked) {m : Memory}
    (hm : p.base + p.limit ≤ m.size) (hw : 0 < w) (hk : k + w ≤ n) {v : WordLanes}
    {f : Lane → Nat → UInt8} (hf : ∀ l o, o < w → f l (k + o) = Word.byte (v.get l) o) (i : Nat) :
    ((p.advance (.splat (UInt32.ofNat k))).store m w v mask rule).byte i =
      (Lane.highest? (p.spans n mask k (k + w) i)).elim (m.byte i)
        fun l => f l (i - p.place l) := by
  rw [byte_store hrule (p.advance (.splat (UInt32.ofNat k))) hm,
    Lane.highest?_congr fun l => h.covers_advance hw hk i]
  cases hh : Lane.highest? (p.spans n mask k (k + w) i) with
  | none => rfl
  | some l =>
    obtain ⟨hmakes, hle, hlt⟩ := spans_iff.mp (Lane.highest?_eq_some.mp hh).1
    have hplace := h.place_advance (k := k) (by omega) (makes_iff.mp hmakes).2
    have hbyte := hf l (i - p.place l - k) (by omega)
    have hsum : k + (i - p.place l - k) = i - p.place l := by omega
    rw [Option.elim_some, Option.elim_some, hplace, Nat.sub_add_eq, ← hbyte, hsum]

end Whole

end LanePointer

/-- Whatever the coordinates are, the texels of a view that they lead to are whole. -/
theorem TexelCoordinates.whole_offsets {v : StorageView} (hv : v.Valid) {c : TexelCoordinates}
    {rule : BoundsRule} {offsets : WordLanes}
    (h : c.offsets v.grid.layout (wordOf v.texelSize) rule = .ok offsets) :
    ((LanePointer.start v.start v.bytes).advance offsets).Whole v.texelSize := by
  refine LanePointer.whole_of_dvd hv.texelSize_mem hv.dvd_bytes hv.bytes_le ?_
  intro l
  rw [LanePointer.distance_advance_start]
  simp only [TexelCoordinates.offsets, Outcome.ite_error_eq_ok, Except.ok.injEq] at h
  rw [← h.2, Lanes.get_ofFn, TexelPosition.resolve]
  split
  · exact .inr rfl
  · exact .inl ((c.position l).dvd_offset hv.grid_multiple hv.texelSize_mem)

/-! ## Words of texels -/

namespace Execution.TexelPointer

theorem advance_advance (p : TexelPointer) (a b : Nat) :
    (p.advance a).advance b = p.advance (a + b) := by
  have hsum : (p.lanes.offsets.add (.splat (UInt32.ofNat a))).add (.splat (UInt32.ofNat b)) =
      p.lanes.offsets.add (.splat (UInt32.ofNat (a + b))) := by
    refine Lanes.ext_get ?_
    intro l
    simp only [Lanes.add, Lanes.get_zipWith, Lanes.get_splat, UInt32.ofNat_add, UInt32.add_assoc]
  simp only [advance, LanePointer.advance, hsum]

theorem advance_zero (p : TexelPointer) : p.advance 0 = p := by
  have hsum : p.lanes.offsets.add (.splat (UInt32.ofNat 0)) = p.lanes.offsets := by
    refine Lanes.ext_get ?_
    intro l
    simp [Lanes.add]
  simp only [advance, LanePointer.advance, hsum]

variable {p : TexelPointer} {block : Nat} {blocks : BlockTable} {m : Memory}

theorem memory_eq (hp : p.block = some block) (hm : blocks[block]? = some m) :
    p.memory blocks = m := by
  simp [memory, hp, hm]

theorem putMemory_eq (hp : p.block = some block) (hm : blocks[block]? = some m) (m' : Memory) :
    p.putMemory blocks m' = blocks.insert block m' := by
  have hmem : blocks.contains block = true := by
    rw [Std.TreeMap.contains_eq_isSome_getElem?, hm]
    rfl
  simp [putMemory, hp, hmem]

/-- What a store of the words of texels leaves: in the block of the pointer the bytes of the highest
lane that stores there, given by `f`, and nothing new in other blocks.  The induction is on the
words that are left, from byte `k` of the texels on. -/
theorem storeWords_spec (hp : p.block = some block) {n w : Nat} (h : p.lanes.Whole n) (hw : 0 < w)
    {rule : BoundsRule} (hrule : rule ≠ .unchecked) (mask : WordLanes) {f : Lane → Nat → UInt8}
    {c k : Nat} {words : List WordLanes} (hm : blocks[block]? = some m)
    (hsize : p.lanes.base + p.lanes.limit ≤ m.size) (hk : k + c * w ≤ n) (hc : c ≤ words.length)
    (hf : ∀ j v, j < c → words[j]? = some v → ∀ l o, o < w →
      f l (k + j * w + o) = Word.byte (v.get l) o) :
    ∃ m', ((p.advance k).storeWords blocks mask rule (.replicate c w) words)[block]? = some m' ∧
      m'.size = m.size ∧
      (∀ i, m'.byte i = (Lane.highest? (p.lanes.spans n mask k (k + c * w) i)).elim (m.byte i)
        fun l => f l (i - p.lanes.place l)) ∧
      ∀ b, b ≠ block →
        ((p.advance k).storeWords blocks mask rule (.replicate c w) words)[b]? = blocks[b]? := by
  induction c generalizing k words blocks m with
  | zero =>
    refine ⟨m, hm, rfl, ?_, fun b _ => rfl⟩
    intro i
    have hnone : Lane.highest? (p.lanes.spans n mask k (k + 0 * w) i) = none := by
      rw [Lane.highest?_eq_none]
      intro l
      rw [← Bool.not_eq_true, LanePointer.spans_iff]
      omega
    rw [hnone, Option.elim_none]
  | succ c ih =>
    obtain ⟨v, rest, rfl⟩ := List.exists_cons_of_length_pos (l := words) (by omega)
    have hmul : (c + 1) * w = w + c * w := by rw [Nat.add_mul, Nat.one_mul, Nat.add_comm]
    have hadvance : (p.advance k).block = some block := hp
    -- the first word
    obtain ⟨m₁, hdef⟩ : ∃ m₁, m₁ = (p.advance k).lanes.store m w v mask rule := ⟨_, rfl⟩
    have hfirst : (p.advance k).store blocks w v mask rule = blocks.insert block m₁ := by
      rw [store, memory_eq hadvance hm, putMemory_eq hadvance hm, hdef]
    have hword : ∀ l o, o < w → f l (k + o) = Word.byte (v.get l) o := by
      intro l o ho
      have hzero := hf 0 v (by omega) rfl l o ho
      rwa [Nat.zero_mul, Nat.add_zero] at hzero
    have hbyte (i : Nat) : m₁.byte i = (Lane.highest? (p.lanes.spans n mask k (k + w) i)).elim
        (m.byte i) fun l => f l (i - p.lanes.place l) := by
      rw [hdef]
      exact h.byte_store_word hrule hsize hw (by omega) hword i
    have hsize₁ : m₁.size = m.size := by rw [hdef, LanePointer.size_store]
    -- the words after it
    have hm₁ : (blocks.insert block m₁)[block]? = some m₁ := by simp
    obtain ⟨m', hm', hsize', hbytes, hothers⟩ := ih (k := k + w) hm₁
      (by rw [hsize₁]; exact hsize) (by omega) (Nat.le_of_succ_le_succ hc) (by
        intro j u hj hu l o ho
        have hword := hf (j + 1) u (by omega) (by simpa using hu) l o ho
        rw [Nat.add_mul, Nat.one_mul] at hword
        rw [← hword]
        congr 1
        omega)
    have hstep : (p.advance k).storeWords blocks mask rule (.replicate (c + 1) w) (v :: rest) =
        (p.advance (k + w)).storeWords (blocks.insert block m₁) mask rule (.replicate c w)
          rest := by
      rw [List.replicate_succ, storeWords, hfirst, advance_advance]
    rw [hstep]
    refine ⟨m', hm', hsize'.trans hsize₁, ?_, ?_⟩
    · intro i
      rw [hbytes, hbyte, hmul, ← Nat.add_assoc]
      exact h.highest_spans_append (by omega) (by omega) (by omega) _ _
    · intro b hb
      rw [hothers b hb, Std.TreeMap.getElem?_insert]
      simp [Ne.symm hb]

/-- The words that a load of texels gives, from byte `k` of the texels on. -/
theorem getElem?_loadWords {n w : Nat} (h : p.lanes.Whole n) (hw : 0 < w) {rule : BoundsRule}
    (hrule : rule ≠ .unchecked) (mask : WordLanes) (blocks : BlockTable) {c k : Nat}
    (hk : k + c * w ≤ n) (j : Nat) :
    ((p.advance k).loadWords blocks mask rule (.replicate c w))[j]? =
      if j < c then some (.ofFn fun l =>
        if p.lanes.makes n mask l then
          (p.memory blocks).loadWord (p.lanes.place l + (k + j * w)) w
        else 0)
      else none := by
  induction c generalizing k j with
  | zero => simp [loadWords]
  | succ c ih =>
    have hmul : (c + 1) * w = w + c * w := by rw [Nat.add_mul, Nat.one_mul, Nat.add_comm]
    have hmemory : (p.advance k).memory blocks = p.memory blocks := rfl
    rw [List.replicate_succ, loadWords, advance_advance]
    cases j with
    | zero =>
      rw [List.getElem?_cons_zero, if_pos (Nat.succ_pos c)]
      refine congrArg some (Lanes.ext_get fun l => ?_)
      rw [load, hmemory, LanePointer.get_load hrule, Lanes.get_ofFn]
      have hmakes : (p.advance k).lanes.makes w mask l = p.lanes.makes n mask l :=
        h.makes_advance hw (by omega)
      rw [hmakes]
      split
      · rename_i hon
        have hplace := h.place_advance (k := k) (by omega) (LanePointer.makes_iff.mp hon).2
        change (p.advance k).lanes.place l = _ at hplace
        rw [hplace, Nat.zero_mul, Nat.add_zero]
      · rfl
    | succ j =>
      rw [List.getElem?_cons_succ, ih (by omega)]
      have hsum : k + w + j * w = k + (j + 1) * w := by rw [Nat.add_mul, Nat.one_mul]; omega
      simp only [hsum, Nat.add_lt_add_iff_right]

end Execution.TexelPointer

/-! ## Stores of texels -/

namespace StorageView

/-- A lane is on and its whole texel lies within the size that the record of a view states. -/
structure Reaches (v : StorageView) (mask offsets : WordLanes) (l : Lane) : Prop where
  on : mask.get l ≠ 0
  first : 0 ≤ Word.signed (offsets.get l)
  last : Word.signed (offsets.get l) + v.texelSize ≤ Word.signed v.record.size

/-- Where the texel of a lane starts in the block of a view. -/
def texelAt (v : StorageView) (offsets : WordLanes) (l : Lane) : Nat :=
  v.start + (offsets.get l).toNat

/-- The block of a view after texels were stored: a texel is that of the highest lane which stores
at its offset, no other byte has changed, and of every texel in the view all bytes were stored by
one lane or none. -/
structure WritesTexels (v : StorageView) (mask offsets : WordLanes) (texels : Lanes PackedTexel)
    (m m' : Memory) : Prop where
  size : m'.size = m.size
  written : ∀ l, v.Reaches mask offsets l →
    (∀ h, l < h → v.Reaches mask offsets h → offsets.get h ≠ offsets.get l) →
    ∀ k < v.texelSize, m'.byte (v.texelAt offsets l + k) = (texels.get l).byte k
  unchanged : ∀ i, (∀ l, v.Reaches mask offsets l →
      ¬ (v.texelAt offsets l ≤ i ∧ i < v.texelAt offsets l + v.texelSize)) →
    m'.byte i = m.byte i
  whole : ∀ d, v.texelSize ∣ d → d + v.texelSize ≤ v.bytes →
    (∀ k < v.texelSize, m'.byte (v.start + d + k) = m.byte (v.start + d + k)) ∨
      ∃ l, v.Reaches mask offsets l ∧ v.texelAt offsets l = v.start + d ∧
        ∀ k < v.texelSize, m'.byte (v.start + d + k) = (texels.get l).byte k

variable {v : StorageView} {mask offsets : WordLanes} {l h : Lane}

theorem reaches_iff (hv : v.Valid) : v.Reaches mask offsets l ↔
    ((LanePointer.start v.start v.bytes).advance offsets).makes v.texelSize mask l = true := by
  have hmax : maxBytes = 2 ^ 30 := rfl
  have hbytes := hv.bytes_le
  have hsize : Word.signed v.record.size = v.bytes := by
    have hplane : v.record.size = wordOf v.bytes :=
      congrArg StoragePlane.size (ofRecord_record v)
    rw [hplane, Word.signed_ofNat (by omega)]
  have hlimit : ((LanePointer.start v.start v.bytes).advance offsets).limit = v.bytes := rfl
  rw [LanePointer.makes_iff, LanePointer.laneInBounds_iff, LanePointer.distance_advance_start,
    hlimit]
  constructor
  · rintro ⟨hon, hfirst, hlast⟩
    exact ⟨hon, hfirst, hsize ▸ hlast⟩
  · rintro ⟨hon, hfirst, hlast⟩
    exact ⟨hon, hfirst, hsize ▸ hlast⟩

theorem Reaches.place_eq (hl : v.Reaches mask offsets l) :
    ((LanePointer.start v.start v.bytes).advance offsets).place l = v.texelAt offsets l := by
  have hbase : ((LanePointer.start v.start v.bytes).advance offsets).base = v.start := rfl
  rw [LanePointer.place, LanePointer.distance_advance_start, hbase, texelAt,
    Word.toNat_signed hl.first]

/-- Texels that start at one place have one offset. -/
theorem offset_eq_of_texelAt_eq (hplace : v.texelAt offsets l = v.texelAt offsets h) :
    offsets.get l = offsets.get h := by
  simp only [texelAt] at hplace
  exact UInt32.toNat_inj.mp (by omega)

theorem Reaches.spans (hv : v.Valid) (hl : v.Reaches mask offsets l) {i : Nat}
    (hle : v.texelAt offsets l ≤ i) (hlt : i < v.texelAt offsets l + v.texelSize) :
    ((LanePointer.start v.start v.bytes).advance offsets).spans v.texelSize mask 0 v.texelSize i l =
      true :=
  LanePointer.spans_iff.mpr ⟨(reaches_iff hv).mp hl, by rw [hl.place_eq]; omega,
    by rw [hl.place_eq]; exact hlt⟩

theorem reaches_of_spans (hv : v.Valid) {i : Nat}
    (h : ((LanePointer.start v.start v.bytes).advance offsets).spans v.texelSize mask 0 v.texelSize
      i l = true) :
    v.Reaches mask offsets l ∧ v.texelAt offsets l ≤ i ∧
      i < v.texelAt offsets l + v.texelSize := by
  obtain ⟨hmakes, hle, hlt⟩ := LanePointer.spans_iff.mp h
  have hl := (reaches_iff hv).mpr hmakes
  rw [hl.place_eq] at hle hlt
  exact ⟨hl, by omega, hlt⟩

/-- Texels in bounds start on the grid of texels of the view. -/
theorem Reaches.dvd (hv : v.Valid)
    (hwhole : ((LanePointer.start v.start v.bytes).advance offsets).Whole v.texelSize)
    (hl : v.Reaches mask offsets l) : v.texelSize ∣ (offsets.get l).toNat := by
  have hin := (LanePointer.makes_iff.mp ((reaches_iff hv).mp hl)).2
  have hdvd := hwhole.dvd l hin
  rw [LanePointer.distance_advance_start, ← Int.toNat_of_nonneg hl.first,
    Word.toNat_signed hl.first] at hdvd
  exact Int.natCast_dvd_natCast.mp hdvd

/-- The highest of the lanes that store at the offset of a lane. -/
theorem Reaches.exists_highest (hl : v.Reaches mask offsets l) :
    ∃ h, v.Reaches mask offsets h ∧ offsets.get h = offsets.get l ∧
      ∀ h', h < h' → v.Reaches mask offsets h' → offsets.get h' ≠ offsets.get h := by
  classical
  obtain ⟨h, hh⟩ := Lane.exists_highest
    (P := fun h => decide (v.Reaches mask offsets h ∧ offsets.get h = offsets.get l)) (l := l)
    (by simpa using hl)
  obtain ⟨hP, hhighest⟩ := Lane.highest?_eq_some.mp hh
  simp only [decide_eq_true_eq, decide_eq_false_iff_not, not_and] at hP hhighest
  refine ⟨h, hP.1, hP.2, ?_⟩
  intro h' hlt hreaches heq
  exact hhighest h' hlt hreaches (heq.trans hP.2)

/-- The bytes of the highest lanes are a store of whole texels. -/
theorem writesTexels_of_bytes (hv : v.Valid) {texels : Lanes PackedTexel} {m m' : Memory}
    (hwhole : ((LanePointer.start v.start v.bytes).advance offsets).Whole v.texelSize)
    (hsize : m'.size = m.size)
    (hbytes : ∀ i, m'.byte i = (Lane.highest? (((LanePointer.start v.start v.bytes).advance
      offsets).spans v.texelSize mask 0 v.texelSize i)).elim (m.byte i)
        fun l => (texels.get l).byte (i - ((LanePointer.start v.start v.bytes).advance
          offsets).place l)) :
    v.WritesTexels mask offsets texels m m' := by
  have hwritten : ∀ l, v.Reaches mask offsets l →
      (∀ h, l < h → v.Reaches mask offsets h → offsets.get h ≠ offsets.get l) →
      ∀ k < v.texelSize, m'.byte (v.texelAt offsets l + k) = (texels.get l).byte k := by
    intro l hl hhighest k hk
    have hspans := hl.spans hv (i := v.texelAt offsets l + k) (by omega) (by omega)
    have hh : Lane.highest? (((LanePointer.start v.start v.bytes).advance offsets).spans v.texelSize
        mask 0 v.texelSize (v.texelAt offsets l + k)) = some l := by
      refine Lane.highest?_eq_some.mpr ⟨hspans, ?_⟩
      intro h hlt
      rw [← Bool.not_eq_true]
      intro hspans'
      have hplace := hwhole.place_eq (Nat.le_refl _) (Nat.le_refl _) hspans' hspans
      have hreaches := (reaches_of_spans hv hspans').1
      rw [hreaches.place_eq, hl.place_eq] at hplace
      exact hhighest h hlt hreaches (offset_eq_of_texelAt_eq hplace)
    rw [hbytes, hh, Option.elim_some, hl.place_eq, Nat.add_sub_cancel_left]
  have hunchanged : ∀ i, (∀ l, v.Reaches mask offsets l →
      ¬ (v.texelAt offsets l ≤ i ∧ i < v.texelAt offsets l + v.texelSize)) →
      m'.byte i = m.byte i := by
    intro i hi
    have hnone : Lane.highest? (((LanePointer.start v.start v.bytes).advance offsets).spans
        v.texelSize mask 0 v.texelSize i) = none := by
      refine Lane.highest?_eq_none.mpr fun l => ?_
      rw [← Bool.not_eq_true]
      intro hspans
      obtain ⟨hl, hrange⟩ := reaches_of_spans hv hspans
      exact hi l hl hrange
    rw [hbytes, hnone, Option.elim_none]
  refine ⟨hsize, hwritten, hunchanged, ?_⟩
  intro d hd hend
  by_cases hstored : ∃ l, v.Reaches mask offsets l ∧ v.texelAt offsets l = v.start + d
  · obtain ⟨l, hl, hplace⟩ := hstored
    obtain ⟨h, hh, heq, hhighest⟩ := hl.exists_highest
    have hsame : v.texelAt offsets h = v.start + d := by rw [← hplace, texelAt, texelAt, heq]
    refine .inr ⟨h, hh, hsame, ?_⟩
    intro k hk
    rw [← hsame]
    exact hwritten h hh hhighest k hk
  · refine .inl fun k hk => hunchanged _ fun l hl hrange => hstored ⟨l, hl, ?_⟩
    simp only [texelAt] at hrange ⊢
    have hdvd : (v.texelSize : Int) ∣ (offsets.get l).toNat - d :=
      Int.dvd_sub (Int.natCast_dvd_natCast.mpr (hl.dvd hv hwhole)) (Int.natCast_dvd_natCast.mpr hd)
    have hzero := Int.eq_zero_of_dvd_of_natAbs_lt_natAbs hdvd (by omega)
    omega

/-- The pointer to the texels of a view at given offsets. -/
def pointer (v : StorageView) (offsets : WordLanes) : TexelPointer :=
  ⟨some v.block, (LanePointer.start v.start v.bytes).advance offsets⟩

variable {blocks : BlockTable} {m : Memory} {rule : BoundsRule} {c w : Nat}

variable (mask) in
/-- Storing the words of texels stores whole texels, in the block of the view only. -/
theorem writesTexels_storeWords (hv : v.Valid)
    (hwhole : ((LanePointer.start v.start v.bytes).advance offsets).Whole v.texelSize)
    (hparts : TexelParts v.texelSize c w) (hrule : rule ≠ .unchecked)
    (hm : blocks[v.block]? = some m) (hsize : m.size = v.blockBytes) (texels : Lanes PackedTexel) :
    ∃ m', ((v.pointer offsets).storeWords blocks mask rule (.replicate c w)
        (PackedTexel.words texels))[v.block]? = some m' ∧
      v.WritesTexels mask offsets texels m m' ∧
      ∀ b, b ≠ v.block → ((v.pointer offsets).storeWords blocks mask rule (.replicate c w)
        (PackedTexel.words texels))[b]? = blocks[b]? := by
  have hmul := hparts.mul
  have hcount := hparts.count
  have hlimit : v.start + v.bytes ≤ m.size := hsize ▸ hv.start_add_bytes_le
  have hwords : ∀ j word, j < c → (PackedTexel.words texels)[j]? = some word → ∀ l o, o < w →
      (texels.get l).byte (0 + j * w + o) = Word.byte (word.get l) o := by
    intro j word hj hword l o ho
    have hfin : (Fin.ofNat 4 j).val = j := Nat.mod_eq_of_lt (by omega)
    have hget := PackedTexel.getElem?_words texels (Fin.ofNat 4 j)
    rw [hfin, hword, Option.some.injEq] at hget
    rw [Nat.zero_add, hparts.byte_eq _ hj ho, hget, Lanes.get_map]
  obtain ⟨m', hm', hsize', hbytes, hothers⟩ := TexelPointer.storeWords_spec (p := v.pointer offsets)
    (k := 0) rfl hwhole hparts.pos hrule mask (f := fun l o => (texels.get l).byte o) hm hlimit
    (by omega) hcount hwords
  rw [TexelPointer.advance_zero] at hm' hothers
  refine ⟨m', hm', writesTexels_of_bytes hv hwhole hsize' ?_, hothers⟩
  rw [Nat.zero_add, hmul] at hbytes
  exact hbytes

/-- A load of a texel whose bytes are those of a packed texel decodes that texel. -/
theorem decode_loadWords (hv : v.Valid)
    (hwhole : ((LanePointer.start v.start v.bytes).advance offsets).Whole v.texelSize)
    (hparts : TexelParts v.texelSize c w) (hrule : rule ≠ .unchecked)
    (hm : blocks[v.block]? = some m) {layout : ChannelLayout} (hfits : layout.Fits)
    (hsize : layout.size = v.texelSize) (hl : v.Reaches mask offsets l) {t : PackedTexel}
    (ht : ∀ k < v.texelSize, m.byte (v.texelAt offsets l + k) = t.byte k) :
    layout.decode ((PackedTexel.ofWords ((v.pointer offsets).loadWords blocks mask rule
      (.replicate c w))).get l) = layout.decode t := by
  have hmul := hparts.mul
  have hcount := hparts.count
  refine ChannelLayout.decode_eq_of_parts hfits (hsize ▸ hparts) ?_
  intro j hj
  have hfin : (Fin.ofNat 4 j).val = j := Nat.mod_eq_of_lt (by omega)
  have hblock : (v.pointer offsets).block = some v.block := rfl
  have hword := TexelPointer.getElem?_loadWords (p := v.pointer offsets) (c := c) (k := 0) hwhole
    hparts.pos hrule mask blocks (by omega) j
  rw [TexelPointer.advance_zero, if_pos hj, TexelPointer.memory_eq hblock hm] at hword
  rw [PackedTexel.get_ofWords, hfin, hword, Option.getD_some, Lanes.get_ofFn]
  have hmakes : (v.pointer offsets).lanes.makes v.texelSize mask l = true := (reaches_iff hv).mp hl
  have hplace : (v.pointer offsets).lanes.place l = v.texelAt offsets l := hl.place_eq
  rw [if_pos hmakes, hplace, Nat.zero_add]
  refine Memory.toNat_loadWord hparts.le ?_
  intro k hk
  have hlt : j * w + k < v.texelSize := by
    have hstep := Nat.mul_le_mul_right w (Nat.succ_le_of_lt hj)
    rw [Nat.succ_mul, hmul] at hstep
    omega
  rw [Nat.add_assoc, ht _ hlt, hparts.byte_eq _ hj hk]

end StorageView

end HostGpu
