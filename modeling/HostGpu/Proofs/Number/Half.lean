import HostGpu.Number.Half
import HostGpu.Proofs.Number.BinaryFormat
import HostGpu.Proofs.Number.Bits
import Mathlib.Tactic.IntervalCases

/-!
# Halves as single precision numbers

A half widens to a single precision number without a change, so that narrowing gives it back.  Only
NaNs change: they become quiet (`Half.ofSingle_toSingle`).  Single precision numbers are what their
sign and their code make them (`Single.sign_ofCode`, `Single.code_ofCode`), and so are halves.
-/

namespace HostGpu

-- Powers mean the same whether or not algebra is in scope.
attribute [local instance (high)] instPowNat

/-- The lowest bits of a word are what remains of it. -/
theorem Word.toNat_and_lowMask (w : UInt32) {n : Nat} (hn : n ≤ 32) :
    (w &&& UInt32.ofNat (2 ^ n - 1)).toNat = w.toNat % 2 ^ n := by
  have hpow : 2 ^ n ≤ 2 ^ 32 := Nat.pow_le_pow_right (by decide) hn
  have hpos := Nat.two_pow_pos n
  have hnat : (UInt32.ofNat (2 ^ n - 1)).toNat = 2 ^ n - 1 := by
    rw [UInt32.toNat_ofNat']
    exact Nat.mod_eq_of_lt (by omega)
  rw [UInt32.toNat_and, hnat, Nat.and_two_pow_sub_one_eq_mod]

/-- A bit above a number. -/
theorem Word.toNat_ofNat_or_two_pow {n k : Nat} (hn : n < 32) (hk : k < 2 ^ n) (b : Bool) :
    (UInt32.ofNat k ||| if b then UInt32.ofNat (2 ^ n) else 0).toNat =
      (if b then 2 ^ n else 0) + k := by
  have hpow : 2 ^ n < 2 ^ 32 := Nat.pow_lt_pow_right (by decide) hn
  have hlow : (UInt32.ofNat k).toNat = k := by
    rw [UInt32.toNat_ofNat']
    exact Nat.mod_eq_of_lt (hk.trans hpow)
  have hhigh : (UInt32.ofNat (2 ^ n)).toNat = 2 ^ n := by
    rw [UInt32.toNat_ofNat']
    exact Nat.mod_eq_of_lt hpow
  have hsum := Nat.two_pow_add_eq_or_of_lt hk 1
  rw [Nat.mul_one] at hsum
  cases b with
  | false => simpa using hlow
  | true => rw [if_pos rfl, if_pos rfl, UInt32.toNat_or, hlow, hhigh, Nat.or_comm, hsum]

/-- A row of ones above a place. -/
theorem Word.bit_ones {n k : Nat} (hk : k < 32) (hn : n ≤ 32) (j : Nat) :
    bit (shiftLeft (UInt32.ofNat (2 ^ n - 1)) (UInt32.ofNat k)) j =
      decide (j < 32 ∧ k ≤ j ∧ j - k < n) := by
  rw [bit_shiftLeft hk, bit_lowMask hn, ← Bool.decide_and]
  exact decide_eq_decide.mpr and_assoc

/-! ## Single precision -/

namespace Single

variable {k : Nat}

theorem code_eq (w : UInt32) : code w = w.toNat % 2 ^ 31 :=
  Word.toNat_and_lowMask w (n := 31) (by decide)

theorem sign_eq (w : UInt32) : sign w = Word.bit w 31 := by
  have hand : w &&& 0x80000000 = _ := Word.and_two_pow (n := 31) (by decide) w
  rw [sign, hand]
  cases Word.bit w 31 <;> rfl

theorem toNat_ofCode (hk : k < 2 ^ 31) (negative : Bool) :
    (ofCode negative k).toNat = (if negative then 2 ^ 31 else 0) + k :=
  Word.toNat_ofNat_or_two_pow (n := 31) (by decide) hk negative

theorem code_ofCode (hk : k < 2 ^ 31) (negative : Bool) : code (ofCode negative k) = k := by
  rw [code_eq, toNat_ofCode hk]
  split <;> omega

theorem sign_ofCode (hk : k < 2 ^ 31) (negative : Bool) : sign (ofCode negative k) = negative := by
  rw [sign_eq, Word.bit_eq_testBit, toNat_ofCode hk, Nat.testBit_eq_decide_div_mod_eq]
  cases negative <;> simp <;> omega

/-- A word is what its sign and its code make it. -/
theorem ofCode_sign_code (w : UInt32) : ofCode (sign w) (code w) = w := by
  have hw := w.toNat_lt
  have hlt : code w < 2 ^ 31 := by
    rw [code_eq]
    exact Nat.mod_lt _ (by decide)
  rw [← UInt32.toNat_inj, toNat_ofCode hlt, sign_eq, Word.bit_eq_testBit,
    Nat.testBit_eq_decide_div_mod_eq, code_eq]
  simp only [decide_eq_true_eq]
  split <;> omega

/-- A number that is not negative is not changed by a comparison with zero, minus zero apart. -/
theorem max_zero {w : UInt32} (hnan : isNaN w = false) (hsign : sign w = false ∨ code w = 0) :
    max w zero = ofCode false (code w) := by
  have hzero : isNaN zero = false := by decide
  have hkey : key w = code w := by
    rcases hsign with hsign | hcode
    · simp [key, hsign]
    · simp [key, hcode]
  have hless : lt zero w = decide ((0 : Int) < code w) := by
    rw [lt, hzero, hnan, hkey]
    rfl
  rw [max, hzero, hless]
  by_cases hpos : 0 < code w
  · have hplus : sign w = false := hsign.resolve_right hpos.ne'
    have hself := ofCode_sign_code w
    rw [hplus] at hself
    simpa [hpos] using hself.symm
  · have hcode : code w = 0 := Nat.eq_zero_of_not_pos hpos
    simp only [hcode]
    rfl

/-- A NaN counts as zero. -/
theorem max_zero_of_isNaN {w : UInt32} (hnan : isNaN w = true) : max w zero = zero := by
  have hzero : isNaN zero = false := by decide
  have hless : lt zero w = false := by
    rw [lt, hzero, hnan]
    rfl
  rw [max, hzero, hless]
  rfl

end Single

/-! ## Halves -/

namespace Half

variable {h : UInt32} {k : Nat}

/-- The sign bit of the half in the low 16 bits. -/
def sign (h : UInt32) : Bool := Word.bit h 15

/-- A sign at its place above the code. -/
def signBit (negative : Bool) : UInt32 := if negative then 0x8000 else 0

/-- The half with a given sign and code. -/
def ofCode (negative : Bool) (code : Nat) : UInt32 := UInt32.ofNat code ||| signBit negative

/-- Whether the half in the low 16 bits is a NaN. -/
def isNaN (h : UInt32) : Bool := format.infinity < code h

theorem code_eq (h : UInt32) : code h = h.toNat % 2 ^ 15 :=
  Word.toNat_and_lowMask h (n := 15) (by decide)

theorem toNat_ofCode (hk : k < 2 ^ 15) (negative : Bool) :
    (ofCode negative k).toNat = (if negative then 2 ^ 15 else 0) + k :=
  Word.toNat_ofNat_or_two_pow (n := 15) (by decide) hk negative

/-- A word without other bits is what the sign and the code of its half make it. -/
theorem ofCode_sign_code (hh : h.toNat < 2 ^ 16) : ofCode (sign h) (code h) = h := by
  have hlt : code h < 2 ^ 15 := by
    rw [code_eq]
    exact Nat.mod_lt _ (by decide)
  rw [← UInt32.toNat_inj, toNat_ofCode hlt, sign, Word.bit_eq_testBit,
    Nat.testBit_eq_decide_div_mod_eq, code_eq]
  simp only [decide_eq_true_eq]
  split <;> omega

/-! ## Widening -/

/-- The sign moves to the highest bit. -/
theorem shiftLeft_sign (h : UInt32) :
    (h &&& 0x8000) <<< 16 = if sign h then (0x80000000 : UInt32) else 0 := by
  have hand : h &&& 0x8000 = _ := Word.and_two_pow (n := 15) (by decide) h
  rw [hand, sign]
  cases Word.bit h 15 <;> rfl

/-- The code of the quiet NaN with the payload of a half. -/
def quietCode (h : UInt32) : Nat := ((0x7FC00000 : UInt32) ||| (h &&& 0x3FF) <<< 13).toNat

/-- The code of the single precision form of a half, below the sign. -/
def wideCode (h : UInt32) : Nat :=
  if format.infinity < code h then quietCode h
  else if code h = format.infinity then Single.format.infinity
  else format.convert Single.format (code h)

theorem toSingle_eq (h : UInt32) : toSingle h = Single.ofCode (sign h) (wideCode h) := by
  simp only [toSingle, shiftLeft_sign, Single.ofCode, wideCode]
  split
  · rw [quietCode, UInt32.ofNat_toNat, UInt32.or_assoc, UInt32.or_comm]
  · split
    · exact UInt32.or_comm ..
    · exact UInt32.or_comm ..

/-- The exponent bits of a NaN are set. -/
theorem bit_of_isNaN (hnan : format.infinity < code h) {j : Nat} (hle : 10 ≤ j) (hlt : j < 15) :
    Word.bit h j = true := by
  have hcode := code_eq h
  have hinf : format.infinity = 0x7C00 := by decide
  rw [Word.bit_eq_testBit, Nat.testBit_eq_decide_div_mod_eq, decide_eq_true_eq]
  interval_cases j <;> omega

/-- The payload of a NaN goes back below the exponent. -/
theorem quiet_payload (h : UInt32) (negative : Bool) (hnan : format.infinity < code h) :
    (0x7E00 : UInt32) ||| (Single.ofCode negative (quietCode h) &&& 0x7FFFFF) >>> 13 =
      h &&& 0x7FFF ||| 0x200 := by
  have hright (w : UInt32) (j : Nat) : Word.bit (w >>> 13) j = Word.bit w (13 + j) :=
    Word.bit_shiftRight (by decide) w j
  have hleft (w : UInt32) (j : Nat) : Word.bit (w <<< 13) j =
      (decide (j < 32 ∧ 13 ≤ j) && Word.bit w (j - 13)) := Word.bit_shiftLeft (by decide) w j
  have hsign (j : Nat) : Word.bit (if negative then (0x80000000 : UInt32) else 0) j =
      (negative && decide (j < 32 ∧ 31 ≤ j ∧ j - 31 < 1)) := by
    cases negative with
    | false => exact Word.bit_zero j
    | true => exact Word.bit_ones (n := 1) (k := 31) (by decide) (by decide) j
  have hnarrow (j : Nat) : Word.bit 0x7E00 j = decide (j < 32 ∧ 9 ≤ j ∧ j - 9 < 6) :=
    Word.bit_ones (n := 6) (k := 9) (by decide) (by decide) j
  have hwide (j : Nat) : Word.bit 0x7FC00000 j = decide (j < 32 ∧ 22 ≤ j ∧ j - 22 < 9) :=
    Word.bit_ones (n := 9) (k := 22) (by decide) (by decide) j
  have hquiet (j : Nat) : Word.bit 0x200 j = decide (j < 32 ∧ 9 ≤ j ∧ j - 9 < 1) :=
    Word.bit_ones (n := 1) (k := 9) (by decide) (by decide) j
  have hlow (j : Nat) : Word.bit 0x7FFFFF j = decide (j < 23) :=
    Word.bit_lowMask (n := 23) (by decide) j
  have hcode (j : Nat) : Word.bit 0x7FFF j = decide (j < 15) :=
    Word.bit_lowMask (n := 15) (by decide) j
  have hpayload (j : Nat) : Word.bit 0x3FF j = decide (j < 10) :=
    Word.bit_lowMask (n := 10) (by decide) j
  refine Word.eq_of_bit_eq ?_
  intro j hj
  have hexponent : 10 ≤ j → j < 15 → Word.bit h j = true := bit_of_isNaN hnan
  have hplace : 13 + j - 13 = j := by omega
  simp only [Single.ofCode, quietCode, UInt32.ofNat_toNat, Word.bit_or, Word.bit_and, hright,
    hleft, hsign, hnarrow, hwide, hquiet, hlow, hcode, hpayload, hplace]
  rw [Bool.eq_iff_iff]
  simp only [Bool.or_eq_true, Bool.and_eq_true, decide_eq_true_eq]
  grind

/-! ## Narrowing -/

/-- The sign moves back to the bit above the code. -/
theorem shiftRight_sign (w : UInt32) :
    (w &&& 0x80000000) >>> 16 = signBit (Single.sign w) := by
  have hand : w &&& 0x80000000 = _ := Word.and_two_pow (n := 31) (by decide) w
  rw [hand, Single.sign_eq]
  cases Word.bit w 31 <;> rfl

/-- The code of the half nearest to a finite number. -/
theorem ofSingle_of_finite {w : UInt32} (hw : Single.code w < Single.format.infinity) :
    ofSingle w = ofCode (Single.sign w) (Single.format.convert format (Single.code w)) := by
  have hnan : Single.isNaN w = false := decide_eq_false (by omega)
  have hinf : Single.isInfinite w = false := beq_eq_false_iff_ne.mpr hw.ne
  simp only [ofSingle, hnan, hinf, Bool.false_eq_true, if_false, shiftRight_sign, ofCode]
  exact UInt32.or_comm ..

theorem ofSingle_of_infinite {w : UInt32} (hw : Single.code w = Single.format.infinity) :
    ofSingle w = ofCode (Single.sign w) format.infinity := by
  have hnan : Single.isNaN w = false := decide_eq_false (by omega)
  have hinf : Single.isInfinite w = true := beq_iff_eq.mpr hw
  simp only [ofSingle, hnan, hinf, Bool.false_eq_true, if_false, if_true, shiftRight_sign, ofCode]
  exact UInt32.or_comm ..

/-! ## Round trip -/

/-- Single precision has all halves. -/
theorem widens : format.Widens Single.format := ⟨by decide, by decide, by decide +kernel⟩

theorem quietCode_bounds (h : UInt32) :
    Single.format.infinity < quietCode h ∧ quietCode h < 2 ^ 31 := by
  have hinf : Single.format.infinity = 0x7F800000 := by decide
  have hpayload : (h &&& 0x3FF : UInt32).toNat = h.toNat % 2 ^ 10 :=
    Word.toNat_and_lowMask h (n := 10) (by decide)
  have hshift : ((h &&& 0x3FF) <<< 13 : UInt32).toNat < 2 ^ 31 := by
    rw [UInt32.toNat_shiftLeft, hpayload, Nat.shiftLeft_eq]
    have h13 : (13 : UInt32).toNat % 32 = 13 := rfl
    rw [h13]
    omega
  rw [quietCode, UInt32.toNat_or]
  refine ⟨?_, Nat.or_lt_two_pow (by decide) hshift⟩
  have hle : (0x7FC00000 : UInt32).toNat ≤
      (0x7FC00000 : UInt32).toNat ||| ((h &&& 0x3FF) <<< 13 : UInt32).toNat := Nat.left_le_or
  rw [hinf]
  exact Nat.lt_of_lt_of_le (by decide) hle

theorem wideCode_lt (h : UInt32) : wideCode h < 2 ^ 31 := by
  have hinf : Single.format.infinity < 2 ^ 31 := by decide
  rw [wideCode]
  split
  · exact (quietCode_bounds h).2
  · split
    · exact hinf
    · exact (BinaryFormat.ofRatio_le_infinity _ _ _).trans_lt hinf

theorem code_toSingle (h : UInt32) : Single.code (toSingle h) = wideCode h := by
  rw [toSingle_eq, Single.code_ofCode (wideCode_lt h)]

theorem sign_toSingle (h : UInt32) : Single.sign (toSingle h) = sign h := by
  rw [toSingle_eq, Single.sign_ofCode (wideCode_lt h)]

theorem wideCode_of_finite (hc : code h < format.infinity) :
    wideCode h = format.convert Single.format (code h) := by
  rw [wideCode, if_neg hc.not_gt, if_neg hc.ne]

theorem wideCode_of_infinite (hc : code h = format.infinity) :
    wideCode h = Single.format.infinity := by
  rw [wideCode, if_neg hc.not_gt, if_pos hc]

theorem wideCode_of_nan (hc : format.infinity < code h) : wideCode h = quietCode h := by
  rw [wideCode, if_pos hc]

/-- NaNs stay NaNs, and nothing else becomes one. -/
theorem isNaN_toSingle (h : UInt32) : Single.isNaN (toSingle h) = isNaN h := by
  rw [Single.isNaN, isNaN, code_toSingle]
  refine decide_eq_decide.mpr ?_
  rcases Nat.lt_trichotomy (code h) format.infinity with hfinite | hinfinite | hnan
  · have hlt := (widens.convert hfinite).1
    rw [wideCode_of_finite hfinite]
    omega
  · rw [wideCode_of_infinite hinfinite]
    omega
  · rw [wideCode_of_nan hnan]
    exact iff_of_true (quietCode_bounds h).1 hnan

/-- **Halves are kept.**  Widening and narrowing gives back every half but signalling NaNs, which
become quiet. -/
theorem ofSingle_toSingle (hh : h.toNat < 2 ^ 16) :
    ofSingle (toSingle h) = if isNaN h then h ||| 0x200 else h := by
  rcases Nat.lt_trichotomy (code h) format.infinity with hfinite | hinfinite | hnan
  · obtain ⟨hlt, -, hback⟩ := widens.convert hfinite
    have hcode : Single.code (toSingle h) = format.convert Single.format (code h) := by
      rw [code_toSingle, wideCode_of_finite hfinite]
    have hself : ¬ isNaN h = true := by simpa [isNaN] using hfinite.le
    rw [ofSingle_of_finite (hcode ▸ hlt), sign_toSingle, hcode, hback, ofCode_sign_code hh,
      if_neg hself]
  · have hcode : Single.code (toSingle h) = Single.format.infinity := by
      rw [code_toSingle, wideCode_of_infinite hinfinite]
    have hself : ¬ isNaN h = true := by simpa [isNaN] using hinfinite.le
    rw [ofSingle_of_infinite hcode, sign_toSingle, ← hinfinite, ofCode_sign_code hh, if_neg hself]
  · have hself : isNaN h = true := decide_eq_true hnan
    have hsingle : Single.isNaN (toSingle h) = true := (isNaN_toSingle h).trans hself
    have hlow : UInt32.ofNat (code h) = h &&& 0x7FFF := UInt32.ofNat_toNat
    have hparts := ofCode_sign_code hh
    rw [ofCode, hlow] at hparts
    have hpayload := quiet_payload h (sign h) hnan
    rw [← wideCode_of_nan hnan, ← toSingle_eq] at hpayload
    rw [ofSingle]
    simp only [hsingle, if_true, shiftRight_sign, sign_toSingle]
    calc signBit (sign h) ||| (0x7E00 : UInt32) ||| (toSingle h &&& 0x7FFFFF) >>> 13
      _ = signBit (sign h) ||| (h &&& 0x7FFF ||| 0x200) := by rw [UInt32.or_assoc, hpayload]
      _ = (h &&& 0x7FFF ||| signBit (sign h)) ||| 0x200 := by
        rw [← UInt32.or_assoc, UInt32.or_comm (signBit (sign h))]
      _ = if isNaN h then h ||| 0x200 else h := by rw [hparts, if_pos hself]

end Half

end HostGpu
