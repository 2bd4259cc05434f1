/-!
# Byte strings

A byte string is a list of bytes: every reader of the wire is then a function on lists, and every
law about a reader is a law about lists.

`BigEndian.encode` and `BigEndian.decode` are the fixed-width integers of the wire, most significant
byte first.
-/

namespace GameGateway

/-- A string of bytes, first byte first. -/
abbrev Bytes := List UInt8

namespace BigEndian

/-- The `width` low bytes of `n`, most significant first. -/
def encode : Nat → Nat → Bytes
  | 0, _ => []
  | width + 1, n => encode width (n / 256) ++ [UInt8.ofNat n]

/-- The number that the bytes spell in base 256, most significant first. -/
def decode (bytes : Bytes) : Nat :=
  bytes.foldl (fun n b => 256 * n + b.toNat) 0

@[simp] theorem length_encode (width n : Nat) : (encode width n).length = width := by
  induction width generalizing n with
  | zero => rfl
  | succ width ih => simp [encode, ih]

end BigEndian

end GameGateway
