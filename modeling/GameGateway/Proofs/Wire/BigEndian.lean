import GameGateway.Bytes
import Mathlib.Data.List.Induction
import Mathlib.Data.Nat.Digits.Defs

/-!
# Big-endian numbers

Bytes are the digits of a number in base 256, the first byte counting most (`BigEndian.number`).
That is the number they are read as (`BigEndian.decode_eq_number`), and what is written is the number
modulo the width (`BigEndian.number_encode`).
-/

namespace GameGateway

namespace BigEndian

/-- The number that has these digits in base 256, the first one counting most. -/
def number (bytes : Bytes) : Nat :=
  Nat.ofDigits 256 (bytes.reverse.map UInt8.toNat)

theorem number_append_singleton (bytes : Bytes) (b : UInt8) :
    number (bytes ++ [b]) = 256 * number bytes + b.toNat := by
  rw [number, List.reverse_concat, List.map_cons, Nat.ofDigits_cons, Nat.add_comm]
  rfl

theorem decode_append_singleton (bytes : Bytes) (b : UInt8) :
    decode (bytes ++ [b]) = 256 * decode bytes + b.toNat := by
  rw [decode, List.foldl_append]
  rfl

theorem decode_eq_number (bytes : Bytes) : decode bytes = number bytes := by
  induction bytes using List.reverseRecOn with
  | nil => rfl
  | append_singleton bytes b ih =>
      rw [decode_append_singleton, number_append_singleton, ih]

/-- What is written is the number modulo the width. -/
theorem number_encode (width n : Nat) : number (encode width n) = n % 256 ^ width := by
  induction width generalizing n with
  | zero =>
      rw [Nat.pow_zero, Nat.mod_one]
      rfl
  | succ width ih =>
      rw [encode, number_append_singleton, ih, Nat.pow_succ, Nat.mul_comm (256 ^ width) 256,
        Nat.mod_mul]
      simp only [UInt8.toNat_ofNat', Nat.reducePow]
      omega

end BigEndian

end GameGateway
