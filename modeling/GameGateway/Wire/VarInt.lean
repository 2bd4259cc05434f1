import GameGateway.Text.Utf8

/-!
# Variable-length integers and strings

The primitive encodings of the wire.  A varint spells a number in base 128, least significant digit
first, one digit a byte, and marks every byte but the last with its top bit.  Numbers have 32 bits;
signed ones travel as their two's complement, so that a negative number always takes five bytes.  A
string is its length in bytes as a varint, then its UTF-8 bytes.

Readers take a value off the front of a byte string and keep what is left also when they fail, since
later reads go on from there.  They are lenient where writers are strict: a reader accepts digits
beyond the 32nd bit and drops them, and accepts a number spelled with more bytes than it needs.
-/

namespace GameGateway

/-- Why a primitive value cannot be read. -/
inductive VarIntError
  /-- The bytes end before the value does. -/
  | bufferTooShort
  /-- The varint has more than `maxBytes` bytes. -/
  | tooManyBytes (maxBytes : Nat)
  /-- A string of `declared` bytes is announced where only `remaining` are left. -/
  | stringTooShort (declared remaining : Nat)
  /-- The bytes of the string are no UTF-8. -/
  | invalidUtf8
  deriving DecidableEq, Repr

/-- The wording of a failed read. -/
def VarIntError.message : VarIntError → String
  | bufferTooShort => "buffer too short"
  | tooManyBytes maxBytes => s!"VarInt is too long (more than {maxBytes} bytes)"
  | stringTooShort declared remaining =>
    s!"string length {declared} exceeds remaining {remaining} bytes"
  | invalidUtf8 => "invalid UTF-8 string"

namespace VarInt

/-- Takes a value off the front of a byte string.  What is left is kept also on failure. -/
abbrev Reader (α : Type) := EStateM VarIntError Bytes α

/-- The most bytes that a number of 32 bits takes. -/
def maxBytes : Nat := 5

/-! ## Writing -/

/-- How many bytes a number takes. -/
def size (n : UInt32) : Nat :=
  if n ≤ 0x7F then 1
  else if n ≤ 0x3FFF then 2
  else if n ≤ 0x1FFFFF then 3
  else if n ≤ 0x0FFFFFFF then 4
  else 5

/-- The digits of `n` in base 128, least significant first, all but the last marked. -/
def digits (n : Nat) : Bytes :=
  if n < 128 then [UInt8.ofNat n] else UInt8.ofNat (n % 128 + 128) :: digits (n / 128)
termination_by n
decreasing_by omega

/-- The varint of a number. -/
def encode (n : UInt32) : Bytes :=
  digits n.toNat

/-- The varint of a signed number: that of its two's complement. -/
def encodeSigned (n : Int32) : Bytes :=
  encode n.toUInt32

/-- The length of a text in bytes, modulo the width of a varint, then its bytes. -/
def encodeString (text : String) : Bytes :=
  encode (UInt32.ofNat text.utf8ByteSize) ++ Utf8.encode text

/-! ## Reading -/

/-- Reads at most `limit` digits and answers the number they spell. -/
def readDigits : (limit : Nat) → Reader Nat
  | 0, rest => .error (.tooManyBytes maxBytes) rest
  | _ + 1, [] => .error .bufferTooShort []
  | limit + 1, b :: rest =>
    if b < 128 then .ok b.toNat rest
    else
      match readDigits limit rest with
      | .ok n rest => .ok (b.toNat % 128 + 128 * n) rest
      | .error e rest => .error e rest

/-- Reads a number, dropping what exceeds 32 bits. -/
def read : Reader UInt32 :=
  UInt32.ofNat <$> readDigits maxBytes

/-- Reads a signed number. -/
def readSigned : Reader Int32 :=
  UInt32.toInt32 <$> read

/-- Reads a string.  Where the announced bytes are not all there, only the length is taken. -/
def readString : Reader String := do
  let length := (← read).toNat
  let rest ← get
  if rest.length < length then
    throw (.stringTooShort length rest.length)
  set (rest.drop length)
  match Utf8.decode? (rest.take length) with
  | some text => return text
  | none => throw .invalidUtf8

end VarInt

end GameGateway
