import GameGateway.Bytes

/-!
# Byte strings as text

Two lower-case hexadecimal digits a byte.  Reading accepts digits in both cases and refuses
everything else; `decode?_encode` says that it reads back what was written.
-/

namespace GameGateway.Hex

/-- The two digits of a byte. -/
def encodeByte (b : UInt8) : List Char :=
  [Nat.digitChar (b.toNat / 16), Nat.digitChar (b.toNat % 16)]

/-- The digits of a byte string. -/
def encode (bytes : Bytes) : List Char :=
  bytes.flatMap encodeByte

/-- The value of a digit. -/
def digit? (c : Char) : Option Nat :=
  if '0' ≤ c ∧ c ≤ '9' then some (c.toNat - '0'.toNat)
  else if 'a' ≤ c ∧ c ≤ 'f' then some (c.toNat - 'a'.toNat + 10)
  else if 'A' ≤ c ∧ c ≤ 'F' then some (c.toNat - 'A'.toNat + 10)
  else none

/-- The byte string that pairs of digits spell. -/
def decode? : List Char → Option Bytes
  | [] => some []
  | [_] => none
  | high :: low :: cs => do
    let h ← digit? high
    let l ← digit? low
    return UInt8.ofNat (16 * h + l) :: (← decode? cs)

theorem digit?_digitChar (n : Nat) (h : n < 16) : digit? (Nat.digitChar n) = some n := by
  have table : ∀ n : Fin 16, digit? (Nat.digitChar n) = some n.val := by decide
  exact table ⟨n, h⟩

theorem decode?_encode (bytes : Bytes) : decode? (encode bytes) = some bytes := by
  induction bytes with
  | nil => rfl
  | cons b bytes ih =>
    have small := b.toNat_lt
    rw [encode] at ih
    simp only [encode, encodeByte, List.flatMap_cons, List.cons_append, List.nil_append, decode?,
      digit?_digitChar (b.toNat / 16) (by omega), digit?_digitChar (b.toNat % 16) (by omega), ih,
      bind_pure_comp, Option.map_eq_map, Option.map_some, Option.bind_eq_bind, Option.bind_some]
    have whole : 16 * (b.toNat / 16) + b.toNat % 16 = b.toNat := by omega
    rw [whole, UInt8.ofNat_toNat]

end GameGateway.Hex
