import HostGpu.Proofs.Memory.Access
import Mathlib.Data.Nat.Digits.Defs

/-!
# Loads after stores

What the lanes of a group store and load under the rules that check bounds, for words and for parts
of words alike.  Lanes may overlap in part, so a store is described byte by byte: each byte has one
lane that decides it, the highest that covers it (`LanePointer.byte_store_of_highest`), or none.
What a lane loads is the little-endian number of its bytes (`LanePointer.toNat_get_load`).  A lane
that no higher one overlaps decides all of its bytes, and so loads what it stored.
-/

namespace HostGpu

/-! ## Numbers of bytes -/

/-- The bytes of a word are its digits to the base 256. -/
theorem Word.toNat_ofBytes_eq_ofDigits {bs : List UInt8} (h : bs.length ≤ 4) :
    (ofBytes bs).toNat = Nat.ofDigits 256 (bs.map UInt8.toNat) := by
  induction bs with
  | nil => rfl
  | cons b rest ih =>
    rw [List.length_cons] at h
    have hrest : (ofBytes rest).toNat < 2 ^ 24 :=
      (toNat_ofBytes_lt (by omega)).trans_le (pow_le_of_le_three (by omega))
    rw [toNat_ofBytes_cons b rest hrest, ih (by omega), List.map_cons, Nat.ofDigits_cons]

/-- A load gives the little-endian number of the bytes that it covers. -/
theorem Memory.toNat_loadWord_eq_ofDigits (m : Memory) (offset : Nat) {n : Nat} (hn : n ≤ 4) :
    (m.loadWord offset n).toNat =
      Nat.ofDigits 256 ((List.range n).map fun k => (m.byte (offset + k)).toNat) := by
  rw [loadWord, Word.toNat_ofBytes_eq_ofDigits (by simpa using hn), loadBytes, List.map_map]
  rfl

namespace LanePointer

/-! ## Lanes that decide bytes -/

variable {p : LanePointer} {m : Memory} {n : Nat} {value mask : WordLanes} {l j : Lane}
  {rule rule' : BoundsRule}

/-- Whether the accesses of two lanes have bytes in common. -/
def Overlaps (p : LanePointer) (n : Nat) (l j : Lane) : Prop :=
  p.place l < p.place j + n ∧ p.place j < p.place l + n

instance : Decidable (p.Overlaps n l j) := inferInstanceAs (Decidable (_ ∧ _))

/-- A byte is the one that the highest lane over it stored. -/
theorem byte_store_of_highest (hrule : rule ≠ .unchecked) (hm : p.base + p.limit ≤ m.size) {i : Nat}
    (hcovers : p.covers n mask l i = true) (hhighest : ∀ j, l < j → p.covers n mask j i = false) :
    (p.store m n value mask rule).byte i = Word.byte (value.get l) (i - p.place l) := by
  rw [byte_store hrule p hm, Lane.highest?_eq_some.mpr ⟨hcovers, hhighest⟩, Option.elim_some]

/-- A byte under no lane is left as it was. -/
theorem byte_store_of_uncovered (hrule : rule ≠ .unchecked) (hm : p.base + p.limit ≤ m.size)
    {i : Nat} (h : ∀ l, p.covers n mask l i = false) :
    (p.store m n value mask rule).byte i = m.byte i := by
  rw [byte_store hrule p hm, Lane.highest?_eq_none.mpr h, Option.elim_none]

/-- A lane that makes its access loads the number of its bytes. -/
theorem toNat_get_load (hrule : rule ≠ .unchecked) (hn : n ≤ 4) (h : p.makes n mask l = true) :
    ((p.load m n mask rule).get l).toNat =
      Nat.ofDigits 256 ((List.range n).map fun k => (m.byte (p.place l + k)).toNat) := by
  rw [get_load hrule, if_pos h, Memory.toNat_loadWord_eq_ofDigits m _ hn]

/-- A lane that no higher one overlaps decides all of its bytes. -/
theorem covers_of_not_overlaps (h : p.makes n mask l = true)
    (hapart : ∀ j, l < j → p.makes n mask j = true → ¬ p.Overlaps n l j) {k : Nat} (hk : k < n) :
    p.covers n mask l (p.place l + k) = true ∧
      ∀ j, l < j → p.covers n mask j (p.place l + k) = false := by
  refine ⟨covers_iff.mpr ⟨h, by omega, by omega⟩, fun j hj => Bool.eq_false_iff.mpr ?_⟩
  intro hcovers
  obtain ⟨hmakes, hle, hlt⟩ := covers_iff.mp hcovers
  exact hapart j hj hmakes ⟨by omega, by omega⟩

/-- Such a lane loads what it stored, cut to the bytes of the access. -/
theorem toNat_get_load_store (hrule : rule ≠ .unchecked) (hrule' : rule' ≠ .unchecked)
    (hm : p.base + p.limit ≤ m.size) (hn : n ≤ 4) (h : p.makes n mask l = true)
    (hapart : ∀ j, l < j → p.makes n mask j = true → ¬ p.Overlaps n l j) :
    ((p.load (p.store m n value mask rule) n mask rule').get l).toNat =
      (value.get l).toNat % 2 ^ (8 * n) := by
  rw [get_load hrule', if_pos h, Nat.pow_mul]
  refine Memory.toNat_loadWord hn fun k hk => ?_
  obtain ⟨hcovers, hhighest⟩ := covers_of_not_overlaps h hapart hk
  rw [byte_store_of_highest hrule hm hcovers hhighest, Nat.add_sub_cancel_left]

/-! ## Checked stores and loads -/

/-- **Checked stores and loads, lane by lane.**  For every block, pointer that stays in it, value,
mask and number of bytes, under each rule that checks bounds: a store gives every byte what the
highest lane over it has there, where a lane is over the bytes of its access if it is on and the
access lies between the base and the limit; it leaves all other bytes, and the size of the block.  A
load gives such lanes the little-endian number of their bytes, and zero to all others.  So a lane
that no higher one overlaps loads what it stored, cut to the bytes of the access. -/
theorem lanes_load_what_they_store (hm : p.base + p.limit ≤ m.size) (hn : n ≤ 4)
    (hrule : rule ≠ .unchecked) (hrule' : rule' ≠ .unchecked) (value mask : WordLanes) :
    (∀ i l, p.covers n mask l i = true → (∀ j, l < j → p.covers n mask j i = false) →
      (p.store m n value mask rule).byte i = Word.byte (value.get l) (i - p.place l)) ∧
    (∀ i, (∀ l, p.covers n mask l i = false) →
      (p.store m n value mask rule).byte i = m.byte i) ∧
    (p.store m n value mask rule).size = m.size ∧
    (∀ l, p.makes n mask l = true → ((p.load m n mask rule).get l).toNat =
      Nat.ofDigits 256 ((List.range n).map fun k => (m.byte (p.place l + k)).toNat)) ∧
    (∀ l, p.makes n mask l = false → (p.load m n mask rule).get l = 0) ∧
    ∀ l, p.makes n mask l = true →
      (∀ j, l < j → p.makes n mask j = true → ¬ p.Overlaps n l j) →
      ((p.load (p.store m n value mask rule) n mask rule').get l).toNat =
        (value.get l).toNat % 2 ^ (8 * n) := by
  refine ⟨fun i l => byte_store_of_highest hrule hm, fun i => byte_store_of_uncovered hrule hm,
    size_store .., fun l => toNat_get_load hrule hn, ?_,
    fun l => toNat_get_load_store hrule hrule' hm hn⟩
  intro l h
  rw [get_load hrule, h]
  rfl

/-- Four lanes store two bytes each to a block of eight: lane 1 covers the high byte of lane 0, lane
2 starts before the base, and lane 3 ends after the limit. -/
theorem straddling_lanes_store :
    let p : LanePointer := ⟨0, 8, ⟨2, 3, 0xFFFFFFFF, 7⟩⟩
    let mask : WordLanes := .splat 0xFFFFFFFF
    let value : WordLanes := ⟨0x11112233, 0x44445566, 0x7788, 0x99AA⟩
    let stored := p.store (Memory.zeroed 8) 2 value mask .nullify
    stored.byte 2 = 0x33 ∧ stored.byte 3 = 0x66 ∧ stored.byte 7 = 0 ∧ stored.size = 8 ∧
      ((p.load stored 2 mask .robustBuffer).get 1).toNat = 0x5566 ∧
      (p.load (Memory.zeroed 8) 2 mask .nullify).get 3 = 0 := by
  intro p mask value stored
  obtain ⟨hbyte, hkept, hsize, -, hzero, hback⟩ :=
    lanes_load_what_they_store (p := p) (m := Memory.zeroed 8) (n := 2) (by decide) (by decide)
      (show BoundsRule.nullify ≠ .unchecked by decide)
      (show BoundsRule.robustBuffer ≠ .unchecked by decide) value mask
  refine ⟨(hbyte 2 0 (by decide) (by decide)).trans (by decide),
    (hbyte 3 1 (by decide) (by decide)).trans (by decide),
    (hkept 7 (by decide)).trans (Memory.byte_zeroed 8 7), hsize, ?_, hzero 3 (by decide)⟩
  exact (hback 1 (by decide) (by decide)).trans (by decide)

end LanePointer

end HostGpu
