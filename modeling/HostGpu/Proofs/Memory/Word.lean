import HostGpu.Memory.Basic
import Mathlib.Algebra.Order.Ring.Nat
import Mathlib.Data.Nat.Bitwise

/-!
# The bytes of a word

The little-endian bytes of a word are its digits to the base 256.  Reading `n` bytes that were
written from a word gives the word modulo `256 ^ n`.
-/

namespace HostGpu

namespace Word

/-- Byte `k` of a word, from the lowest on. -/
def byte (w : UInt32) (k : Nat) : UInt8 := UInt8.ofNat (w.toNat / 256 ^ k)

theorem getElem?_toBytes (n : Nat) (w : UInt32) (k : Nat) :
    (toBytes n w)[k]? = if k < n then some (byte w k) else none := by
  induction n generalizing w k with
  | zero => simp [toBytes]
  | succ n ih =>
    cases k with
    | zero =>
      have h0 : w.toUInt8 = byte w 0 := by
        simp only [byte, Nat.pow_zero, Nat.div_one]
        rfl
      simp [toBytes, h0]
    | succ k =>
      have hshift : byte (w >>> 8) k = byte w (k + 1) := by
        have h8 : (w >>> 8).toNat = w.toNat / 256 := by
          simp [UInt32.toNat_shiftRight, Nat.shiftRight_eq_div_pow]
        rw [byte, byte, h8, Nat.div_div_eq_div_mul, Nat.pow_succ, Nat.mul_comm]
      simp only [toBytes, List.getElem?_cons_succ, ih, hshift, Nat.add_lt_add_iff_right]

/-- The word of a first byte and the others, as long as these fit above it. -/
theorem toNat_ofBytes_cons (b : UInt8) (rest : List UInt8) (h : (ofBytes rest).toNat < 2 ^ 24) :
    (ofBytes (b :: rest)).toNat = b.toNat + 256 * (ofBytes rest).toNat := by
  have hb : b.toNat < 2 ^ 8 := b.toNat_lt
  have hshift : (ofBytes rest <<< 8).toNat = 2 ^ 8 * (ofBytes rest).toNat := by
    simp only [UInt32.toNat_shiftLeft, Nat.shiftLeft_eq]
    have h8 : (8 : UInt32).toNat % 32 = 8 := rfl
    rw [h8, Nat.mod_eq_of_lt (by omega), Nat.mul_comm]
  rw [ofBytes, UInt32.toNat_or, hshift, Nat.or_comm, ← Nat.two_pow_add_eq_or_of_lt]
  · simp
    omega
  · simpa using hb

/-- Bytes of a word read back. -/
theorem toNat_ofBytes_toBytes {n : Nat} (h : n ≤ 4) (w : UInt32) :
    (ofBytes (toBytes n w)).toNat = w.toNat % 256 ^ n := by
  induction n generalizing w with
  | zero => simp [toBytes, ofBytes, Nat.mod_one]
  | succ n ih =>
    have hrest := ih (by omega) (w >>> 8)
    have h8 : (w >>> 8).toNat = w.toNat / 256 := by
      simp [UInt32.toNat_shiftRight, Nat.shiftRight_eq_div_pow]
    have hlt : w.toNat / 256 % 256 ^ n < 2 ^ 24 := by
      have hw := w.toNat_lt
      have hle := Nat.mod_le (w.toNat / 256) (256 ^ n)
      omega
    rw [toBytes, toNat_ofBytes_cons _ _ (by rw [hrest, h8]; exact hlt), hrest, h8, Nat.pow_succ,
      Nat.mul_comm (256 ^ n), Nat.mod_mul]
    simp

theorem pow_le_of_le_three {n : Nat} (h : n ≤ 3) : 256 ^ n ≤ 2 ^ 24 :=
  calc 256 ^ n ≤ 256 ^ 3 := Nat.pow_le_pow_right (by decide) h
    _ = 2 ^ 24 := by decide

/-- A word of a few bytes has no others. -/
theorem toNat_ofBytes_lt {bs : List UInt8} (h : bs.length ≤ 4) :
    (ofBytes bs).toNat < 256 ^ bs.length := by
  induction bs with
  | nil => decide
  | cons b rest ih =>
    rw [List.length_cons] at h ⊢
    have hrest := ih (by omega)
    have hpow := pow_le_of_le_three (n := rest.length) (by omega)
    have hb : b.toNat < 256 := b.toNat_lt
    rw [toNat_ofBytes_cons b rest (by omega), Nat.pow_succ]
    omega

/-- The bytes of a word that was made of bytes. -/
theorem toBytes_ofBytes {bs : List UInt8} (h : bs.length ≤ 4) :
    toBytes bs.length (ofBytes bs) = bs := by
  induction bs with
  | nil => rfl
  | cons b rest ih =>
    rw [List.length_cons] at h
    have hlt := toNat_ofBytes_lt (show rest.length ≤ 4 by omega)
    have hpow := pow_le_of_le_three (n := rest.length) (by omega)
    have hnat := toNat_ofBytes_cons b rest (by omega)
    have hb : b.toNat < 256 := b.toNat_lt
    have hlow : (ofBytes (b :: rest)).toUInt8 = b := by
      rw [← UInt8.toNat_inj, UInt32.toNat_toUInt8, hnat]
      omega
    have hhigh : ofBytes (b :: rest) >>> 8 = ofBytes rest := by
      have h8 : (8 : UInt32).toNat % 32 = 8 := rfl
      rw [← UInt32.toNat_inj, UInt32.toNat_shiftRight, h8, Nat.shiftRight_eq_div_pow, hnat]
      omega
    rw [List.length_cons, toBytes, hlow, hhigh, ih (by omega)]

/-- A word is made of its four bytes. -/
theorem ofBytes_toBytes (w : UInt32) : ofBytes (toBytes 4 w) = w := by
  rw [← UInt32.toNat_inj, toNat_ofBytes_toBytes (Nat.le_refl 4)]
  exact Nat.mod_eq_of_lt w.toNat_lt

end Word

end HostGpu
