/-!
# Numerals

Unsigned decimal numerals as they stand in settings, and the hexadecimal form in which packet ids
are shown.

A numeral is one optional plus sign and at least one ASCII digit; leading zeros are allowed, a minus
sign is not.  It is read from the left and refused at the first character that is no digit or that
takes the number above the limit, whichever comes first.
-/

namespace GameGateway

/-- Why a text is no numeral within its limit. -/
inductive NumeralError
  | empty
  | invalidDigit
  | tooLarge
  deriving DecidableEq, Repr

namespace NumeralError

/-- The wording of a refusal. -/
def message : NumeralError → String
  | empty => "cannot parse integer from empty string"
  | invalidDigit => "invalid digit found in string"
  | tooLarge => "number too large to fit in target type"

end NumeralError

namespace Numeral

/-- The value of a decimal digit. -/
def digitValue (c : Char) : Nat :=
  c.toNat - '0'.toNat

/-- Reads digits behind a part of value `n`, refusing every number above `limit`. -/
def readDigits (limit : Nat) (n : Nat) : List Char → Except NumeralError Nat
  | [] => .ok n
  | c :: cs =>
    if !c.isDigit then .error .invalidDigit
    else if limit < 10 * n + digitValue c then .error .tooLarge
    else readDigits limit (10 * n + digitValue c) cs

/-- The number that a text spells, if it is at most `limit`. -/
def parse (limit : Nat) (cs : List Char) : Except NumeralError Nat :=
  match cs with
  | [] => .error .empty
  | ['+'] => .error .invalidDigit
  | '+' :: digits => readDigits limit 0 digits
  | digits => readDigits limit 0 digits

/-- The largest number of 16 bits. -/
def maxWord16 : Nat := 0xFFFF

/-- The largest number of 64 bits. -/
def maxWord64 : Nat := 0xFFFFFFFFFFFFFFFF

example : parse maxWord16 "65535".toList = .ok 65535 := rfl
example : parse maxWord16 "65536x".toList = .error .tooLarge := rfl
example : parse maxWord16 "6553x6".toList = .error .invalidDigit := rfl
example : parse maxWord16 "+007".toList = .ok 7 := rfl
example : parse maxWord16 "-0".toList = .error .invalidDigit := rfl

/-- Upper-case hexadecimal digits, at least two of them. -/
def hexadecimal (n : Nat) : String :=
  let digits := (Nat.toDigits 16 n).map Char.toUpper
  String.ofList (List.replicate (2 - digits.length) '0' ++ digits)

/-- A packet id as messages show it. -/
def showId (id : UInt32) : String :=
  "0x" ++ hexadecimal id.toNat

end Numeral

end GameGateway
