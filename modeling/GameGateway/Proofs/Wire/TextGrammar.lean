import GameGateway.Proofs.StateAction
import GameGateway.Proofs.Wire.VarIntGrammar
import GameGateway.Wire.Messages

/-!
# Texts in a payload

A text is a complete varint and, behind it, as many bytes as that says, which are UTF-8.  Behind a
complete varint the bytes left decide what `VarInt.readString` answers
(`VarInt.readString_complete`), and it answers a text just where one stands in front
(`VarInt.readString_eq_ok_iff`); where none does, `VarInt.RefusesText` says why.  A message with one
field is decoded just where the id is the right one and the field stands in front of the payload
(`Packet.decodeField_eq_ok_iff`).
-/

namespace GameGateway

namespace VarInt

/-- A byte string that starts with a text, and what is behind it. -/
def StartsWithText (bytes : Bytes) (text : String) (rest : Bytes) : Prop :=
  ∃ lead, Complete lead ∧ (value lead).toNat = (Utf8.encode text).length ∧
    bytes = lead ++ (Utf8.encode text ++ rest)

/-- Behind a complete length the number of bytes decides, and then whether they are UTF-8. -/
theorem readString_complete {lead : Bytes} (complete : Complete lead) (rest : Bytes) :
    readString (lead ++ rest) =
      if rest.length < (value lead).toNat then
        .error (.stringTooShort (value lead).toNat rest.length) rest
      else
        match Utf8.decode? (rest.take (value lead).toNat) with
        | some text => .ok text (rest.drop (value lead).toNat)
        | none => .error .invalidUtf8 (rest.drop (value lead).toNat) := by
  unfold readString
  rw [bind_ok (read_complete complete rest), bind_get]
  split
  · rfl
  · cases Utf8.decode? (rest.take (value lead).toNat) <;> rfl

/-- A length that cannot be read fails as the number does. -/
theorem readString_error {bytes rest : Bytes} {e : VarIntError}
    (unreadable : read bytes = .error e rest) : readString bytes = .error e rest :=
  bind_error unreadable

theorem readString_of_startsWithText {bytes rest : Bytes} {text : String}
    (starts : StartsWithText bytes text rest) : readString bytes = .ok text rest := by
  obtain ⟨lead, complete, declared, rfl⟩ := starts
  rw [readString_complete complete, declared, if_neg (by simp)]
  simp

/-- A byte string that does not start with a text, the cause, and what is left of it. -/
inductive RefusesText : Bytes → VarIntError → Bytes → Prop
  | length {bytes left : Bytes} {cause : VarIntError} : Refuses bytes cause left →
    RefusesText bytes cause left
  /-- Fewer bytes are left than the length announces. -/
  | short {lead rest : Bytes} : Complete lead → rest.length < (value lead).toNat →
    RefusesText (lead ++ rest) (.stringTooShort (value lead).toNat rest.length) rest
  /-- The announced bytes are no UTF-8, whatever follows them. -/
  | invalid {lead text rest : Bytes} : Complete lead → (value lead).toNat = text.length →
    (¬ ∃ said, text = Utf8.encode said) → RefusesText (lead ++ (text ++ rest)) .invalidUtf8 rest

theorem startsWithText_or_refuses (bytes : Bytes) :
    (∃ text rest, StartsWithText bytes text rest) ∨
      ∃ cause left, RefusesText bytes cause left := by
  rcases complete_or_refuses bytes with ⟨lead, behind, rfl, complete⟩ | ⟨cause, left, refuses⟩
  · rcases Nat.lt_or_ge behind.length (value lead).toNat with short | enough
    · exact .inr ⟨_, _, .short complete short⟩
    obtain ⟨text, rest, rfl, declared⟩ : ∃ text rest, behind = text ++ rest ∧
        (value lead).toNat = text.length :=
      ⟨behind.take _, behind.drop _, (List.take_append_drop _ _).symm, by
        rw [List.length_take, Nat.min_eq_left enough]⟩
    by_cases valid : ∃ said, text = Utf8.encode said
    · obtain ⟨said, rfl⟩ := valid
      exact .inl ⟨said, rest, lead, complete, declared, rfl⟩
    · exact .inr ⟨_, _, .invalid complete declared valid⟩
  · exact .inr ⟨cause, left, .length refuses⟩

theorem readString_of_refuses {bytes left : Bytes} {cause : VarIntError}
    (refuses : RefusesText bytes cause left) : readString bytes = .error cause left := by
  cases refuses with
  | length refuses => exact readString_error (read_of_refuses refuses)
  | short complete short => rw [readString_complete complete, if_pos short]
  | @invalid lead text _ complete declared invalid =>
      have enough : ¬ (text ++ left).length < text.length := by simp
      rw [readString_complete complete, declared, if_neg enough, List.take_left,
        Utf8.decode?_eq_none_iff.2 invalid, List.drop_left]

/-- **A text is read just where one stands in front**, and what is behind it is left. -/
theorem readString_eq_ok_iff {bytes rest : Bytes} {text : String} :
    readString bytes = .ok text rest ↔ StartsWithText bytes text rest := by
  constructor
  · intro answered
    rcases startsWithText_or_refuses bytes with ⟨said, behind, starts⟩ | ⟨cause, left, refuses⟩
    · rw [readString_of_startsWithText starts] at answered
      cases answered
      exact starts
    · rw [readString_of_refuses refuses] at answered
      cases answered
  · exact readString_of_startsWithText

end VarInt

namespace Packet

variable {α : Type} {packet : Packet} {kind : MessageKind} {packetId : UInt32}
  {reader : VarInt.Reader α} {value : α}

/-- What stands behind the field does not matter. -/
theorem decodeField_eq_ok_iff :
    packet.decodeField kind packetId reader = .ok value ↔
      packet.id = packetId ∧ ∃ rest, reader packet.data = .ok value rest := by
  unfold decodeField
  by_cases right : packet.id = packetId
  · rw [if_neg (fun wrong => wrong right)]
    cases run : reader packet.data with
    | ok found left => simp [right]
    | error e left => simp
  · rw [if_pos right]
    simp [right]

end Packet

/-- A packet is a status response if its id is right and a text stands in front of its payload. -/
theorem StatusResponse.ofPacket_eq_ok_iff {packet : Packet} {json : String} :
    ofPacket packet = .ok ⟨json⟩ ↔
      packet.id = packetId ∧ ∃ rest, VarInt.StartsWithText packet.data json rest := by
  have field : packet.decodeField .statusResponse packetId VarInt.readString = .ok json ↔
      packet.id = packetId ∧ ∃ rest, VarInt.StartsWithText packet.data json rest := by
    simp only [Packet.decodeField_eq_ok_iff, VarInt.readString_eq_ok_iff]
  rw [← field, ofPacket]
  cases packet.decodeField .statusResponse packetId VarInt.readString <;>
    simp [Functor.map, Except.map]

end GameGateway
