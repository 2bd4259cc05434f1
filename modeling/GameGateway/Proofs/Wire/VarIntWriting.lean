import GameGateway.Proofs.Wire.VarIntGrammar
import Mathlib.Algebra.Group.Nat.Defs

/-!
# The varints that are written

A number below `128 ^ n` is written as a complete varint of at most `n` bytes, which spells just
that number (`VarInt.digits_completeWithin`, `VarInt.spelled_digits`).  So a written number is read
back (`VarInt.value_encode`), takes as many bytes as `VarInt.size` says (`VarInt.length_encode`),
and no complete varint of that value or a larger one is shorter (`VarInt.length_encode_le`).

Complete varints delimit themselves: a byte string starts with at most one of them
(`VarInt.complete_append_inj`).
-/

namespace GameGateway

namespace VarInt

theorem digits_of_lt {n : Nat} (small : n < 128) : digits n = [UInt8.ofNat n] := by
  rw [digits, if_pos small]

theorem digits_of_ge {n : Nat} (large : 128 ≤ n) :
    digits n = UInt8.ofNat (n % 128 + 128) :: digits (n / 128) := by
  rw [digits, if_neg (Nat.not_lt.2 large)]

theorem toNat_marked (n : Nat) : (UInt8.ofNat (n % 128 + 128)).toNat = n % 128 + 128 := by
  have fits : n % 128 + 128 < 2 ^ 8 := by omega
  rw [UInt8.toNat_ofNat', Nat.mod_eq_of_lt fits]

theorem toNat_unmarked {n : Nat} (small : n < 128) : (UInt8.ofNat n).toNat = n := by
  have fits : n < 2 ^ 8 := by omega
  rw [UInt8.toNat_ofNat', Nat.mod_eq_of_lt fits]

/-- A number that needs at most so many digits is written as a complete varint of that width. -/
theorem digits_completeWithin {limit n : Nat} (bound : n < 128 ^ (limit + 1)) :
    CompleteWithin (limit + 1) (digits n) := by
  induction limit generalizing n with
  | zero =>
      have small : n < 128 := by simpa using bound
      rw [digits_of_lt small]
      refine .singleton (UInt8.lt_iff_toNat_lt.2 ?_)
      rw [toNat_unmarked small]
      exact small
  | succ limit ih =>
      by_cases small : n < 128
      · rw [digits_of_lt small]
        refine .singleton (UInt8.lt_iff_toNat_lt.2 ?_)
        rw [toNat_unmarked small]
        exact small
      · rw [digits_of_ge (Nat.not_lt.1 small)]
        have rest : n / 128 < 128 ^ (limit + 1) := by
          rw [Nat.pow_succ] at bound
          exact Nat.div_lt_of_lt_mul (by omega)
        refine .cons (UInt8.le_iff_toNat_le.2 ?_) (ih rest)
        rw [toNat_marked]
        exact Nat.le_add_left 128 (n % 128)

theorem spelled_digits (n : Nat) : spelled (digits n) = n := by
  fun_induction digits n with
  | case1 n small =>
      simp only [spelled, toNat_unmarked small]
      omega
  | case2 n large ih =>
      simp only [spelled, toNat_marked, ih]
      omega

theorem encode_complete (n : UInt32) : Complete (encode n) := by
  have bound : n.toNat < 128 ^ 5 := Nat.lt_trans n.toNat_lt (by decide)
  exact digits_completeWithin bound

/-- What is written for a number stands for that number. -/
theorem value_encode (n : UInt32) : value (encode n) = n := by
  rw [value, encode, spelled_digits, UInt32.ofNat_toNat]

/-! ## Lengths -/

theorem CompleteWithin.length_le {limit : Nat} {bytes : Bytes}
    (complete : CompleteWithin limit bytes) : bytes.length ≤ limit := by
  obtain ⟨front, last, rfl, short, -, -⟩ := complete
  rw [List.length_append, List.length_singleton]
  exact short

theorem length_digits_le {k n : Nat} (bound : n < 128 ^ (k + 1)) :
    (digits n).length ≤ k + 1 :=
  (digits_completeWithin bound).length_le

theorem spelled_lt (bytes : Bytes) : spelled bytes < 128 ^ bytes.length := by
  induction bytes with
  | nil => simp [spelled]
  | cons b bytes ih =>
      rw [spelled, List.length_cons, Nat.pow_succ]
      have digit : b.toNat % 128 < 128 := Nat.mod_lt _ (by decide)
      omega

/-- A number that is too large for `k` digits takes more than `k` bytes. -/
theorem lt_length_digits {k n : Nat} (large : 128 ^ k ≤ n) : k < (digits n).length := by
  have bound := spelled_lt (digits n)
  rw [spelled_digits] at bound
  exact (Nat.pow_lt_pow_iff_right (by decide)).1 (Nat.lt_of_le_of_lt large bound)

/-- A written number takes `size` bytes. -/
theorem length_encode (n : UInt32) : (encode n).length = size n := by
  have word : n.toNat < 2 ^ 32 := n.toNat_lt
  have exactly {k : Nat} (large : k = 0 ∨ 128 ^ k ≤ n.toNat) (bound : n.toNat < 128 ^ (k + 1)) :
      (encode n).length = k + 1 := by
    have most : (digits n.toNat).length ≤ k + 1 := length_digits_le bound
    have least : k < (digits n.toNat).length := by
      rcases large with rfl | large
      · exact (digits_completeWithin bound).length_pos
      · exact lt_length_digits large
    exact Nat.le_antisymm most least
  unfold size
  simp only [UInt32.le_iff_toNat_le, UInt32.reduceToNat]
  split
  · exact exactly (k := 0) (by omega) (by omega)
  split
  · exact exactly (k := 1) (by omega) (by omega)
  split
  · exact exactly (k := 2) (by omega) (by omega)
  split
  · exact exactly (k := 3) (by omega) (by omega)
  · exact exactly (k := 4) (by omega) (by omega)

/-- No number up to the value of a complete varint takes more bytes than that varint. -/
theorem length_encode_le {bytes : Bytes} {n : UInt32} (complete : Complete bytes)
    (below : n.toNat ≤ (value bytes).toNat) : (encode n).length ≤ bytes.length := by
  obtain ⟨k, width⟩ : ∃ k, bytes.length = k + 1 :=
    ⟨bytes.length - 1, by have := complete.length_pos; omega⟩
  have cut : (value bytes).toNat ≤ spelled bytes := by
    rw [value, UInt32.toNat_ofNat']
    exact Nat.mod_le _ _
  have bound : n.toNat < 128 ^ (k + 1) := by
    rw [← width]
    exact Nat.lt_of_le_of_lt (Nat.le_trans below cut) (spelled_lt bytes)
  rw [width]
  exact length_digits_le bound

/-! ## The length of a text -/

theorem length_utf8_encode (text : String) : (Utf8.encode text).length = text.utf8ByteSize := by
  simp [Utf8.encode]

/-- The length that is written in front of a text is that of the text, unless it needs more bits
than a number has. -/
theorem value_textLength {text : String} (fits : text.utf8ByteSize < 2 ^ 32) :
    (value (encode (UInt32.ofNat text.utf8ByteSize))).toNat = (Utf8.encode text).length := by
  rw [value_encode, UInt32.toNat_ofNat', Nat.mod_eq_of_lt fits, length_utf8_encode]

/-! ## Where a varint ends -/

/-- A byte string starts with at most one complete varint. -/
theorem complete_append_inj {lead other rest more : Bytes} (complete : Complete lead)
    (complete' : Complete other) (same : lead ++ rest = other ++ more) :
    lead = other ∧ rest = more := by
  have first := readDigits_complete complete rest
  rw [same, readDigits_complete complete' more] at first
  simp only [EStateM.Result.ok.injEq] at first
  obtain ⟨-, rfl⟩ := first
  exact ⟨List.append_cancel_right same, rfl⟩

/-- A part of a complete varint that ends before its last byte has only marked bytes. -/
theorem CompleteWithin.allMarked_take {limit n : Nat} {bytes : Bytes}
    (complete : CompleteWithin limit bytes) (short : n < bytes.length) :
    AllMarked (bytes.take n) := by
  obtain ⟨front, last, rfl, -, all, -⟩ := complete
  have inside : n ≤ front.length := by
    simp only [List.length_append, List.length_singleton] at short
    omega
  rw [List.take_append_of_le_length inside]
  exact fun b taken => all b (List.mem_of_mem_take taken)

/-- A complete varint does not start with marked bytes only. -/
theorem not_complete_of_allMarked {lead rest : Bytes} (all : AllMarked (lead ++ rest)) :
    ¬ Complete lead := by
  rintro ⟨front, last, rfl, -, -, unmarked⟩
  have marked : 128 ≤ last := all last (by simp)
  exact not_lt_of_marked marked unmarked

end VarInt

end GameGateway
