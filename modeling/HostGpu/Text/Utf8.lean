/-!
# Reading UTF-8 with replacement

`Utf8.decode` reads bytes as UTF-8. Where they are not well formed, the longest beginning of a
character that is there is replaced by one replacement character and reading goes on with the byte
that did not fit.
-/

namespace HostGpu.Utf8

/-- What stands for bytes that are not well formed. -/
def replacement : Char := '\uFFFD'

/-- The number of bytes that follow a leading byte, the range of the first of them, and the bits
that the leading byte contributes. -/
structure Lead where
  following : Nat
  low : UInt8
  high : UInt8
  bits : Nat
deriving DecidableEq, Repr

/-- What a byte says as a leading byte. The ranges exclude overlong forms, surrogates and numbers
past the last code point. -/
def lead? (b : UInt8) : Option Lead :=
  let n := b.toNat
  if n < 0x80 then some ⟨0, 0x80, 0xBF, n⟩
  else if n < 0xC2 then none
  else if n < 0xE0 then some ⟨1, 0x80, 0xBF, n % 32⟩
  else if n = 0xE0 then some ⟨2, 0xA0, 0xBF, n % 16⟩
  else if n = 0xED then some ⟨2, 0x80, 0x9F, n % 16⟩
  else if n < 0xF0 then some ⟨2, 0x80, 0xBF, n % 16⟩
  else if n = 0xF0 then some ⟨3, 0x90, 0xBF, n % 8⟩
  else if n < 0xF4 then some ⟨3, 0x80, 0xBF, n % 8⟩
  else if n = 0xF4 then some ⟨3, 0x80, 0x8F, n % 8⟩
  else none

/-- Reads `n` following bytes, the first between `low` and `high`. Gives the code point, or none if
a byte does not fit, and the bytes that are left. -/
def follow : (n : Nat) → (low high : UInt8) → (bits : Nat) → List UInt8 → Option Nat × List UInt8
  | 0, _, _, bits, rest => (some bits, rest)
  | _ + 1, _, _, _, [] => (none, [])
  | n + 1, low, high, bits, b :: rest =>
    if low ≤ b ∧ b ≤ high then follow n 0x80 0xBF (bits * 64 + b.toNat % 64) rest
    else (none, b :: rest)

theorem length_follow_le (n : Nat) (low high : UInt8) (bits : Nat) (l : List UInt8) :
    (follow n low high bits l).2.length ≤ l.length := by
  induction n generalizing low high bits l with
  | zero => simp [follow]
  | succ n ih =>
    cases l with
    | nil => simp [follow]
    | cons b rest =>
      simp only [follow]
      split
      · have := ih 0x80 0xBF (bits * 64 + b.toNat % 64) rest
        simp only [List.length_cons]
        omega
      · simp

/-- The characters that bytes stand for. -/
def decode : List UInt8 → List Char
  | [] => []
  | b :: rest =>
    match lead? b with
    | none => replacement :: decode rest
    | some lead =>
      let read := follow lead.following lead.low lead.high lead.bits rest
      read.1.elim replacement Char.ofNat :: decode read.2
termination_by l => l.length
decreasing_by
  · simp
  · have := length_follow_le lead.following lead.low lead.high lead.bits rest
    simp only [List.length_cons]
    omega

end HostGpu.Utf8
