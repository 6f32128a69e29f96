import HostGpu.Memory.LanePointer
import HostGpu.Proofs.Lanes.Highest
import HostGpu.Proofs.Memory.Word

/-!
# Checked accesses of lanes

Under the rules that check bounds a lane makes an access if it is on and in bounds
(`LanePointer.makes`), and then at a place between the base and the limit.  A load gives such lanes
the word at their place; a store leaves at every byte what the highest lane wrote there.
-/

namespace HostGpu

/-! ## Words in memory -/

namespace Memory

theorem byte_storeWord (m : Memory) (offset n : Nat) (w : UInt32) (i : Nat) :
    (m.storeWord offset n w).byte i =
      if offset ≤ i ∧ i < offset + n ∧ i < m.size then Word.byte w (i - offset) else m.byte i := by
  rw [storeWord, byte_storeBytes, Word.getElem?_toBytes]
  by_cases hsize : i < m.size
  · by_cases hle : offset ≤ i
    · by_cases hlt : i < offset + n
      · have hk : i - offset < n := by omega
        simp [hsize, hle, hlt, hk]
      · have hk : ¬ i - offset < n := by omega
        simp [hsize, hle, hlt, hk]
    · simp [hle]
  · simp [hsize]

@[simp] theorem size_storeWord (m : Memory) (offset n : Nat) (w : UInt32) :
    (m.storeWord offset n w).size = m.size := size_storeBytes _ _ _

/-- A load of bytes that are those of a word gives the low bytes of the word. -/
theorem toNat_loadWord {m : Memory} {offset n : Nat} {w : UInt32} (hn : n ≤ 4)
    (h : ∀ k < n, m.byte (offset + k) = Word.byte w k) :
    (m.loadWord offset n).toNat = w.toNat % 256 ^ n := by
  have hbytes : m.loadBytes offset n = Word.toBytes n w := by
    refine List.ext_getElem? ?_
    intro k
    rw [Word.getElem?_toBytes]
    by_cases hk : k < n
    · rw [getElem?_loadBytes _ _ _ _ hk, if_pos hk, h k hk]
    · rw [if_neg hk, List.getElem?_eq_none (by simp; omega)]
  rw [loadWord, hbytes, Word.toNat_ofBytes_toBytes hn]

/-- The bytes of a word that is loaded are those of the block. -/
theorem byte_loadWord (m : Memory) (offset : Nat) {n : Nat} (hn : n ≤ 4) (k : Nat) :
    Word.byte (m.loadWord offset n) k = if k < n then m.byte (offset + k) else 0 := by
  have hlength : (m.loadBytes offset n).length = n := length_loadBytes _ _ _
  by_cases hk : k < n
  · have hbytes := Word.toBytes_ofBytes (hlength.trans_le hn)
    rw [hlength] at hbytes
    change Word.toBytes n (m.loadWord offset n) = _ at hbytes
    have hget := congrArg (·[k]?) hbytes
    simp only [Word.getElem?_toBytes, if_pos hk, getElem?_loadBytes _ _ _ _ hk] at hget
    rw [if_pos hk]
    exact Option.some.inj hget
  · have hlt : (m.loadWord offset n).toNat < 256 ^ k :=
      calc (m.loadWord offset n).toNat
        _ < 256 ^ (m.loadBytes offset n).length := Word.toNat_ofBytes_lt (by omega)
        _ ≤ 256 ^ k := Nat.pow_le_pow_right (by decide) (by omega)
    rw [if_neg hk, Word.byte, Nat.div_eq_of_lt hlt]
    rfl

/-- A load depends on the bytes it covers. -/
theorem loadWord_congr {m m' : Memory} {offset n : Nat}
    (h : ∀ k < n, m.byte (offset + k) = m'.byte (offset + k)) :
    m.loadWord offset n = m'.loadWord offset n := by
  rw [loadWord, loadWord, loadBytes, loadBytes]
  exact congrArg Word.ofBytes (List.map_congr_left fun k hk => h k (List.mem_range.mp hk))

end Memory

namespace LanePointer

variable (p : LanePointer) (n : Nat) (mask : WordLanes) (l : Lane)

/-- Whether a lane is on and its access of `n` bytes in bounds. -/
def makes : Bool := mask.get l ≠ 0 && p.laneInBounds n l

/-- The offset in the block of a lane that is in bounds. -/
def place : Nat := p.base + (p.distance l).toNat

/-- Whether a lane that makes its access covers a byte of the block. -/
def covers (i : Nat) : Bool := p.makes n mask l && p.place l ≤ i && i < p.place l + n

variable {p n mask l}

theorem laneInBounds_iff :
    p.laneInBounds n l = true ↔ 0 ≤ p.distance l ∧ p.distance l + n ≤ p.limit := by
  simp [laneInBounds]

theorem makes_iff :
    p.makes n mask l = true ↔ mask.get l ≠ 0 ∧ p.laneInBounds n l = true := by
  simp [makes]

theorem covers_iff {i : Nat} :
    p.covers n mask l i = true ↔ p.makes n mask l = true ∧ p.place l ≤ i ∧ i < p.place l + n := by
  simp [covers, and_assoc]

theorem address_eq (h : p.laneInBounds n l = true) : p.address l = p.place l := by
  have hd := (laneInBounds_iff.mp h).1
  rw [address, place]
  omega

/-- Every byte that an access covers lies between the base and the limit. -/
theorem covers_bounds {i : Nat} (h : p.covers n mask l i = true) :
    p.base ≤ i ∧ i < p.base + p.limit := by
  obtain ⟨hmakes, hle, hlt⟩ := covers_iff.mp h
  have hbounds := laneInBounds_iff.mp (makes_iff.mp hmakes).2
  simp only [place] at hle hlt
  omega

/-- The bits of a checked mask are those of lanes in bounds. -/
theorem get_accessMask_ne_zero {rule : BoundsRule} (hrule : rule ≠ .unchecked) :
    (p.accessMask n mask rule).get l ≠ 0 ↔ p.makes n mask l = true := by
  have hmask : p.accessMask n mask rule = mask.and (p.inBounds n) := by
    cases rule with
    | unchecked => exact absurd rfl hrule
    | nullify | robustBuffer => rfl
  rw [makes_iff, hmask, Lanes.and, Lanes.get_zipWith, inBounds, Lanes.get_ofFn, Word.ofBool]
  cases p.laneInBounds n l with
  | false => simp
  | true =>
    have hones : mask.get l &&& 0xFFFFFFFF = mask.get l := UInt32.and_neg_one
    simp [hones]

/-! ## Loads and stores -/

variable {rule : BoundsRule} (hrule : rule ≠ .unchecked)
include hrule

/-- A lane is off, or out of bounds, exactly if it makes no access. -/
theorem skips_iff : (p.accessMask n mask rule).get l = 0 ∨ p.address l < 0 ↔
    ¬ p.makes n mask l = true := by
  have hmask : (p.accessMask n mask rule).get l ≠ 0 ↔ p.makes n mask l = true :=
    get_accessMask_ne_zero hrule
  constructor
  · rintro (hoff | hneg) hmakes
    · exact hmask.mpr hmakes hoff
    · rw [address_eq (makes_iff.mp hmakes).2] at hneg
      omega
  · intro hnot
    exact .inl (not_not.mp fun hon => hnot (hmask.mp hon))

theorem get_load (p : LanePointer) (m : Memory) (n : Nat) (mask : WordLanes) (l : Lane) :
    (p.load m n mask rule).get l =
      if p.makes n mask l then m.loadWord (p.place l) n else 0 := by
  rw [load, Lanes.get_ofFn]
  by_cases h : p.makes n mask l = true
  · rw [if_neg (by rw [skips_iff hrule]; exact not_not.mpr h), if_pos h,
      address_eq (makes_iff.mp h).2, Int.toNat_natCast]
  · rw [if_pos ((skips_iff hrule).mpr h), if_neg h]

theorem storeLane_eq (p : LanePointer) (m : Memory) (n : Nat) (value mask : WordLanes) (l : Lane) :
    p.storeLane n (p.accessMask n mask rule) value m l =
      if p.makes n mask l then m.storeWord (p.place l) n (value.get l) else m := by
  rw [storeLane]
  by_cases h : p.makes n mask l = true
  · rw [if_neg (by rw [skips_iff hrule]; exact not_not.mpr h), if_pos h,
      address_eq (makes_iff.mp h).2, Int.toNat_natCast]
  · rw [if_pos ((skips_iff hrule).mpr h), if_neg h]

theorem byte_storeLane (p : LanePointer) {m : Memory} (hm : p.base + p.limit ≤ m.size) (n : Nat)
    (value mask : WordLanes) (l : Lane) (i : Nat) :
    (p.storeLane n (p.accessMask n mask rule) value m l).byte i =
      if p.covers n mask l i then Word.byte (value.get l) (i - p.place l) else m.byte i := by
  rw [storeLane_eq hrule]
  by_cases h : p.makes n mask l = true
  · rw [if_pos h, Memory.byte_storeWord]
    by_cases hcovers : p.covers n mask l i = true
    · have hbounds := covers_bounds hcovers
      have hrange := (covers_iff.mp hcovers).2
      rw [if_pos ⟨hrange.1, hrange.2, by omega⟩, if_pos hcovers]
    · rw [if_neg fun hrange => hcovers (covers_iff.mpr ⟨h, hrange.1, hrange.2.1⟩), if_neg hcovers]
  · rw [if_neg h, if_neg fun hcovers => h (covers_iff.mp hcovers).1]

/-- A store leaves at every byte what the highest lane wrote there. -/
theorem byte_store (p : LanePointer) {m : Memory} (hm : p.base + p.limit ≤ m.size) (n : Nat)
    (value mask : WordLanes) (i : Nat) :
    (p.store m n value mask rule).byte i = (Lane.highest? (p.covers n mask · i)).elim (m.byte i)
      fun l => Word.byte (value.get l) (i - p.place l) := by
  rw [← Lane.foldl_all, store]
  induction Lane.all generalizing m with
  | nil => rfl
  | cons l ls ih =>
    rw [List.foldl_cons, List.foldl_cons, ih (by rw [size_storeLane]; exact hm),
      byte_storeLane hrule p hm]

end LanePointer

end HostGpu
