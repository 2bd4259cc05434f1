import GameGateway.Wire.VarInt

/-!
# The grammar of varints

A byte is marked if its top bit is set, which says that another digit follows.  A varint is complete
if exactly its last byte is unmarked and it has at most five bytes; `VarInt.spelled` is the number
it spells, before it is cut to 32 bits.

`VarInt.readDigits` takes a complete varint off the front (`readDigits_complete`), gives up behind
the last byte it may read if all are marked (`readDigits_overlong`), and otherwise finds the bytes
too short (`readDigits_short`).  One of the three holds of every byte string (`opening_cases`);
`VarInt.Refuses` is the last two, each with its cause, so that a number is read just where a complete
varint of it stands in front (`read_eq_ok_iff`).
-/

namespace GameGateway

namespace VarInt

/-- Whether every byte says that another one follows. -/
def AllMarked (bytes : Bytes) : Prop :=
  ∀ b ∈ bytes, 128 ≤ b

/-- A varint of at most `limit` bytes of which exactly the last one is unmarked. -/
def CompleteWithin (limit : Nat) (bytes : Bytes) : Prop :=
  ∃ front last, bytes = front ++ [last] ∧ front.length < limit ∧ AllMarked front ∧ last < 128

/-- A complete varint. -/
abbrev Complete (bytes : Bytes) : Prop := CompleteWithin 5 bytes

/-- The number that digits spell, least significant first, the marks left out. -/
def spelled : Bytes → Nat
  | [] => 0
  | b :: bytes => b.toNat % 128 + 128 * spelled bytes

/-- The number of 32 bits that a varint stands for. -/
def value (bytes : Bytes) : UInt32 :=
  UInt32.ofNat (spelled bytes)

theorem allMarked_nil : AllMarked [] := by simp [AllMarked]

theorem allMarked_cons {b : UInt8} {bytes : Bytes} :
    AllMarked (b :: bytes) ↔ 128 ≤ b ∧ AllMarked bytes := by
  simp [AllMarked]

theorem not_lt_of_marked {b : UInt8} (marked : 128 ≤ b) : ¬ b < 128 := by
  simpa [UInt8.not_lt] using marked

theorem spelled_singleton {b : UInt8} (unmarked : b < 128) : spelled [b] = b.toNat := by
  have small : b.toNat < 128 := unmarked
  simp only [spelled]
  omega

namespace CompleteWithin

variable {limit : Nat} {b : UInt8} {bytes : Bytes}

theorem singleton (unmarked : b < 128) : CompleteWithin (limit + 1) [b] :=
  ⟨[], b, rfl, Nat.succ_pos limit, allMarked_nil, unmarked⟩

theorem cons (marked : 128 ≤ b) (complete : CompleteWithin limit bytes) :
    CompleteWithin (limit + 1) (b :: bytes) := by
  obtain ⟨front, last, rfl, short, all, unmarked⟩ := complete
  exact ⟨b :: front, last, rfl, Nat.succ_lt_succ short, allMarked_cons.2 ⟨marked, all⟩, unmarked⟩

/-- A complete varint is one unmarked byte, or a marked one before a shorter complete varint. -/
theorem cases (complete : CompleteWithin limit bytes) :
    ∃ limit', limit = limit' + 1 ∧
      ((∃ b, bytes = [b] ∧ b < 128) ∨
        ∃ b rest, bytes = b :: rest ∧ 128 ≤ b ∧ CompleteWithin limit' rest) := by
  obtain ⟨front, last, rfl, short, all, unmarked⟩ := complete
  obtain ⟨limit', rfl⟩ : ∃ limit', limit = limit' + 1 := ⟨limit - 1, by omega⟩
  refine ⟨limit', rfl, ?_⟩
  cases front with
  | nil => exact .inl ⟨last, rfl, unmarked⟩
  | cons b front =>
      obtain ⟨marked, all⟩ := allMarked_cons.1 all
      exact .inr ⟨b, front ++ [last], rfl, marked, front, last, rfl,
        Nat.lt_of_succ_lt_succ short, all, unmarked⟩

theorem not_zero : ¬ CompleteWithin 0 bytes := by
  rintro ⟨front, last, -, short, -⟩
  exact Nat.not_lt_zero _ short

theorem length_pos (complete : CompleteWithin limit bytes) : 0 < bytes.length := by
  obtain ⟨front, last, rfl, -⟩ := complete
  simp

end CompleteWithin

/-- How a byte string may start: with a complete varint, with as many marked bytes as may be read,
or with too few bytes to tell. -/
theorem opening_cases (limit : Nat) (bytes : Bytes) :
    (∃ lead rest, bytes = lead ++ rest ∧ CompleteWithin limit lead) ∨
      (∃ lead rest, bytes = lead ++ rest ∧ lead.length = limit ∧ AllMarked lead) ∨
      bytes.length < limit ∧ AllMarked bytes := by
  induction limit generalizing bytes with
  | zero => exact .inr (.inl ⟨[], bytes, rfl, rfl, allMarked_nil⟩)
  | succ limit ih =>
      cases bytes with
      | nil => exact .inr (.inr ⟨Nat.succ_pos limit, allMarked_nil⟩)
      | cons b bytes =>
          by_cases unmarked : b < 128
          · exact .inl ⟨[b], bytes, rfl, .singleton unmarked⟩
          · have marked : 128 ≤ b := by simpa [UInt8.not_lt] using unmarked
            rcases ih bytes with
              ⟨lead, rest, rfl, complete⟩ | ⟨lead, rest, rfl, full, all⟩ | ⟨short, all⟩
            · exact .inl ⟨b :: lead, rest, rfl, complete.cons marked⟩
            · exact .inr (.inl ⟨b :: lead, rest, rfl, by simp [full],
                allMarked_cons.2 ⟨marked, all⟩⟩)
            · exact .inr (.inr ⟨Nat.succ_lt_succ short, allMarked_cons.2 ⟨marked, all⟩⟩)

/-! ## Reading digits -/

theorem readDigits_complete {limit : Nat} {lead : Bytes} (complete : CompleteWithin limit lead)
    (rest : Bytes) : readDigits limit (lead ++ rest) = .ok (spelled lead) rest := by
  induction limit generalizing lead with
  | zero => exact absurd complete CompleteWithin.not_zero
  | succ limit ih =>
      rcases complete.cases with ⟨limit', same, single | more⟩
      · obtain ⟨b, rfl, unmarked⟩ := single
        simp [readDigits, unmarked, spelled_singleton unmarked]
      · obtain ⟨b, lead, rfl, marked, complete⟩ := more
        cases same
        simp [readDigits, not_lt_of_marked marked, ih complete, spelled]

theorem readDigits_overlong {lead : Bytes} (all : AllMarked lead) (rest : Bytes) :
    readDigits lead.length (lead ++ rest) = .error (.tooManyBytes maxBytes) rest := by
  induction lead with
  | nil => simp [readDigits]
  | cons b lead ih =>
      obtain ⟨marked, all⟩ := allMarked_cons.1 all
      simp [readDigits, not_lt_of_marked marked, ih all]

theorem readDigits_short {limit : Nat} {bytes : Bytes} (short : bytes.length < limit)
    (all : AllMarked bytes) : readDigits limit bytes = .error .bufferTooShort [] := by
  induction limit generalizing bytes with
  | zero => exact absurd short (Nat.not_lt_zero _)
  | succ limit ih =>
      cases bytes with
      | nil => rfl
      | cons b bytes =>
          obtain ⟨marked, all⟩ := allMarked_cons.1 all
          simp [readDigits, not_lt_of_marked marked, ih (Nat.lt_of_succ_lt_succ short) all]

/-! ## Reading numbers -/

theorem read_complete {lead : Bytes} (complete : Complete lead) (rest : Bytes) :
    read (lead ++ rest) = .ok (value lead) rest := by
  simp [read, maxBytes, value, Functor.map, EStateM.map, readDigits_complete complete]

theorem read_overlong {lead : Bytes} (full : lead.length = 5) (all : AllMarked lead)
    (rest : Bytes) : read (lead ++ rest) = .error (.tooManyBytes 5) rest := by
  have overlong := readDigits_overlong all rest
  rw [full] at overlong
  simp [read, maxBytes, Functor.map, EStateM.map, overlong]

theorem read_short {bytes : Bytes} (short : bytes.length < 5) (all : AllMarked bytes) :
    read bytes = .error .bufferTooShort [] := by
  simp [read, maxBytes, Functor.map, EStateM.map, readDigits_short short all]

/-! ## What is no number -/

/-- A byte string that does not start with a complete varint, the cause, and what is left of it. -/
inductive Refuses : Bytes → VarIntError → Bytes → Prop
  /-- The bytes end inside the varint. -/
  | torn {bytes : Bytes} : bytes.length < 5 → AllMarked bytes →
    Refuses bytes .bufferTooShort []
  /-- The varint goes on behind the last byte that it may have. -/
  | overlong {lead rest : Bytes} : lead.length = 5 → AllMarked lead →
    Refuses (lead ++ rest) (.tooManyBytes 5) rest

theorem complete_or_refuses (bytes : Bytes) :
    (∃ lead rest, bytes = lead ++ rest ∧ Complete lead) ∨
      ∃ cause left, Refuses bytes cause left := by
  rcases opening_cases 5 bytes with
    ⟨lead, rest, same, complete⟩ | ⟨lead, rest, rfl, full, all⟩ | ⟨short, all⟩
  · exact .inl ⟨lead, rest, same, complete⟩
  · exact .inr ⟨_, _, .overlong full all⟩
  · exact .inr ⟨_, _, .torn short all⟩

theorem read_of_refuses {bytes left : Bytes} {cause : VarIntError}
    (refuses : Refuses bytes cause left) : read bytes = .error cause left := by
  cases refuses with
  | torn short all => exact read_short short all
  | overlong full all => exact read_overlong full all left

/-- A number is read just where a complete varint of it stands in front. -/
theorem read_eq_ok_iff {bytes rest : Bytes} {n : UInt32} :
    read bytes = .ok n rest ↔ ∃ lead, bytes = lead ++ rest ∧ Complete lead ∧ value lead = n := by
  constructor
  · intro answered
    rcases complete_or_refuses bytes with ⟨lead, behind, rfl, complete⟩ | ⟨cause, left, refuses⟩
    · rw [read_complete complete behind] at answered
      cases answered
      exact ⟨lead, rfl, complete, rfl⟩
    · rw [read_of_refuses refuses] at answered
      cases answered
  · rintro ⟨lead, rfl, complete, rfl⟩
    exact read_complete complete rest

/-! ## Signed numbers -/

theorem readSigned_complete {lead : Bytes} (complete : Complete lead) (rest : Bytes) :
    readSigned (lead ++ rest) = .ok (value lead).toInt32 rest := by
  simp only [readSigned, Functor.map, EStateM.map, read_complete complete]

theorem readSigned_of_refuses {bytes left : Bytes} {cause : VarIntError}
    (refuses : Refuses bytes cause left) : readSigned bytes = .error cause left := by
  simp only [readSigned, Functor.map, EStateM.map, read_of_refuses refuses]

end VarInt

end GameGateway
