import GameGateway.Proofs.Wire.TextGrammar
import GameGateway.Wire.Handshake

/-!
# The grammar of handshakes

The fields of a handshake are a varint, a text, two bytes and another varint, one right behind the
other (`Handshake.Spells`).  A payload either starts with the fields of a handshake, or has a first
field that cannot be read although all fields in front of it are in place (`Handshake.Blames`); what
stands behind the fields, or behind the field that is blamed, does not matter.

`Handshake.read` is run in both cases (`Handshake.read_spells`, `Handshake.exists_read_of_blames`),
and since one of them holds of every payload (`Handshake.spells_or_blames`), they decide what a
packet is decoded to (`Handshake.ofPacket_decided`).
-/

namespace GameGateway

namespace Handshake

/-- The bytes that spell the fields of a handshake.  The numbers may take more bytes than they need,
the length of the address counts modulo the width of a number, and the port has its high byte
first. -/
inductive Spells : Bytes → Handshake → Prop
  | intro {version length next : Bytes} {address : String} {high low : UInt8} {port : UInt16} :
    VarInt.Complete version → VarInt.Complete length → VarInt.Complete next →
    (VarInt.value length).toNat = (Utf8.encode address).length →
    port.toNat = 256 * high.toNat + low.toNat →
    Spells (version ++ (length ++ (Utf8.encode address ++ high :: low :: next)))
      { protocolVersion := (VarInt.value version).toInt32
        serverAddress := address
        serverPort := port
        nextState := (VarInt.value next).toInt32 }

/-- A payload with a field that cannot be read, the first one of that kind, and why it cannot. -/
inductive Blames : Bytes → HandshakeField → VarIntError → Prop
  | protocolVersion {payload left : Bytes} {cause : VarIntError} :
    VarInt.Refuses payload cause left → Blames payload .protocolVersion cause
  | serverAddress {version behind left : Bytes} {cause : VarIntError} :
    VarInt.Complete version → VarInt.RefusesText behind cause left →
    Blames (version ++ behind) .serverAddress cause
  /-- Fewer than two bytes are left. -/
  | serverPort {version behind rest : Bytes} {address : String} :
    VarInt.Complete version → VarInt.StartsWithText behind address rest → rest.length < 2 →
    Blames (version ++ behind) .serverPort .bufferTooShort
  | nextState {version behind rest left : Bytes} {address : String} {high low : UInt8}
    {cause : VarIntError} :
    VarInt.Complete version → VarInt.StartsWithText behind address (high :: low :: rest) →
    VarInt.Refuses rest cause left → Blames (version ++ behind) .nextState cause

/-! ## Each field -/

/-- Two bytes are always those of a port. -/
theorem exists_port (high low : UInt8) :
    ∃ port : UInt16, port.toNat = 256 * high.toNat + low.toNat := by
  have word : 256 * high.toNat + low.toNat < 65536 := by
    have high_lt := high.toNat_lt
    have low_lt := low.toNat_lt
    omega
  exact ⟨UInt16.ofNat (256 * high.toNat + low.toNat), UInt16.toNat_ofNat_of_lt word⟩

theorem readPort_two {high low : UInt8} {port : UInt16}
    (spelled : port.toNat = 256 * high.toNat + low.toNat) (rest : Bytes) :
    readPort (high :: low :: rest) = .ok port rest := by
  have decoded : BigEndian.decode [high, low] = port.toNat := by
    simp only [BigEndian.decode, List.foldl_cons, List.foldl_nil]
    omega
  have read : readPort (high :: low :: rest) =
      .ok (UInt16.ofNat (BigEndian.decode [high, low])) rest := rfl
  rw [read, decoded, UInt16.ofNat_toNat]

theorem readPort_short {rest : Bytes} (short : rest.length < 2) :
    readPort rest = .error .bufferTooShort rest := by
  match rest, short with
  | [], _ => rfl
  | [_], _ => rfl

/-! ## All fields -/

section Payload

variable {payload fields : Bytes} {handshake : Handshake} {field : HandshakeField}
  {cause : VarIntError}

/-- The fields of a handshake are read as that handshake, and what is behind them is left. -/
theorem read_spells (spells : Spells fields handshake) (rest : Bytes) :
    read (fields ++ rest) = .ok handshake rest := by
  cases spells with
  | @intro version length next address high low port version' length' next' declared spelled =>
      have text : VarInt.StartsWithText
          (length ++ (Utf8.encode address ++ high :: low :: (next ++ rest))) address
          (high :: low :: (next ++ rest)) :=
        ⟨length, length', declared, rfl⟩
      simp only [List.append_assoc, List.cons_append]
      unfold read
      rw [bind_ok (adaptExcept_ok _ (VarInt.readSigned_complete version' _)),
        bind_ok (adaptExcept_ok _ (VarInt.readString_of_startsWithText text)),
        bind_ok (adaptExcept_ok _ (readPort_two spelled _)),
        bind_ok (adaptExcept_ok _ (VarInt.readSigned_complete next' rest))]
      rfl

/-- A field that is blamed fails the read, for its cause. -/
theorem exists_read_of_blames (blames : Blames payload field cause) :
    ∃ left, read payload = .error (.unreadable field cause) left := by
  unfold read
  cases blames with
  | protocolVersion refuses =>
      exact ⟨_, bind_error (adaptExcept_error _ (VarInt.readSigned_of_refuses refuses))⟩
  | serverAddress version refuses =>
      rw [bind_ok (adaptExcept_ok _ (VarInt.readSigned_complete version _))]
      exact ⟨_, bind_error (adaptExcept_error _ (VarInt.readString_of_refuses refuses))⟩
  | serverPort version text short =>
      rw [bind_ok (adaptExcept_ok _ (VarInt.readSigned_complete version _)),
        bind_ok (adaptExcept_ok _ (VarInt.readString_of_startsWithText text))]
      exact ⟨_, bind_error (adaptExcept_error _ (readPort_short short))⟩
  | @nextState _ _ _ _ _ high low _ version text refuses =>
      obtain ⟨port, spelled⟩ := exists_port high low
      rw [bind_ok (adaptExcept_ok _ (VarInt.readSigned_complete version _)),
        bind_ok (adaptExcept_ok _ (VarInt.readString_of_startsWithText text)),
        bind_ok (adaptExcept_ok _ (readPort_two spelled _))]
      exact ⟨_, bind_error (adaptExcept_error _ (VarInt.readSigned_of_refuses refuses))⟩

/-- Every payload starts with the fields of a handshake, or has a first field that is no good. -/
theorem spells_or_blames (payload : Bytes) :
    (∃ fields handshake rest, Spells fields handshake ∧ payload = fields ++ rest) ∨
      ∃ field cause, Blames payload field cause := by
  rcases VarInt.complete_or_refuses payload with
    ⟨version, behind, rfl, version'⟩ | ⟨cause, left, refuses⟩
  · rcases VarInt.startsWithText_or_refuses behind with
      ⟨address, behind', text⟩ | ⟨cause, left, refuses⟩
    · rcases Nat.lt_or_ge behind'.length 2 with short | enough
      · exact .inr ⟨_, _, .serverPort version' text short⟩
      obtain ⟨high, low, last, rfl⟩ : ∃ high low last, behind' = high :: low :: last := by
        match behind', enough with
        | high :: low :: last, _ => exact ⟨high, low, last, rfl⟩
      rcases VarInt.complete_or_refuses last with ⟨next, rest, rfl, next'⟩ | ⟨cause, left, refuses⟩
      · obtain ⟨length, length', declared, rfl⟩ := text
        obtain ⟨port, spelled⟩ := exists_port high low
        refine .inl ⟨_, _, rest, .intro version' length' next' declared spelled, ?_⟩
        simp only [List.append_assoc, List.cons_append]
      · exact .inr ⟨_, _, .nextState version' text refuses⟩
    · exact .inr ⟨_, _, .serverAddress version' refuses⟩
  · exact .inr ⟨_, _, .protocolVersion refuses⟩

end Payload

/-! ## Packets -/

/-- A packet that carries a handshake: the id is the right one, and the payload starts with the
fields, whatever is behind them. -/
def CarriedBy (packet : Packet) (handshake : Handshake) : Prop :=
  packet.id = 0 ∧ ∃ fields rest, Spells fields handshake ∧ packet.data = fields ++ rest

/-- What is wrong with a packet that carries no handshake: its id, or, if that is right, the first
field that is no good. -/
inductive Faulty (packet : Packet) : HandshakeFault → Prop
  | unexpectedId : packet.id ≠ 0 → Faulty packet (.unexpectedId packet.id)
  | unreadable {field : HandshakeField} {cause : VarIntError} : packet.id = 0 →
    Blames packet.data field cause → Faulty packet (.unreadable field cause)

section Packets

variable {packet : Packet} {handshake : Handshake} {fault : HandshakeFault}

theorem carriedBy_or_faulty (packet : Packet) :
    (∃ handshake, CarriedBy packet handshake) ∨ ∃ fault, Faulty packet fault := by
  by_cases right : packet.id = 0
  · rcases spells_or_blames packet.data with
      ⟨fields, handshake, rest, spells, same⟩ | ⟨field, cause, blames⟩
    · exact .inl ⟨handshake, right, fields, rest, spells, same⟩
    · exact .inr ⟨_, .unreadable right blames⟩
  · exact .inr ⟨_, .unexpectedId right⟩

theorem ofPacket_of_carriedBy (carried : CarriedBy packet handshake) :
    ofPacket packet = .ok handshake := by
  obtain ⟨right, fields, rest, spells, same⟩ := carried
  unfold ofPacket
  rw [if_neg (fun wrong => wrong right), same, read_spells spells]

theorem ofPacket_of_faulty (faulty : Faulty packet fault) :
    ofPacket packet = .error (.malformedHandshake fault) := by
  unfold ofPacket
  cases faulty with
  | unexpectedId wrong => exact if_pos wrong
  | unreadable right blames =>
      obtain ⟨left, failed⟩ := exists_read_of_blames blames
      rw [if_neg (fun wrong => wrong right), failed]

theorem ofPacket_eq_ok_iff : ofPacket packet = .ok handshake ↔ CarriedBy packet handshake := by
  constructor
  · intro answered
    rcases carriedBy_or_faulty packet with ⟨said, carried⟩ | ⟨fault, faulty⟩
    · rw [ofPacket_of_carriedBy carried] at answered
      cases answered
      exact carried
    · rw [ofPacket_of_faulty faulty] at answered
      cases answered
  · exact ofPacket_of_carriedBy

theorem ofPacket_eq_error_iff {e : ProtocolError} :
    ofPacket packet = .error e ↔ ∃ fault, Faulty packet fault ∧ e = .malformedHandshake fault := by
  constructor
  · intro failed
    rcases carriedBy_or_faulty packet with ⟨said, carried⟩ | ⟨fault, faulty⟩
    · rw [ofPacket_of_carriedBy carried] at failed
      cases failed
    · rw [ofPacket_of_faulty faulty] at failed
      cases failed
      exact ⟨fault, faulty, rfl⟩
  · intro ⟨fault, faulty, same⟩
    rw [same]
    exact ofPacket_of_faulty faulty

end Packets

/-- **A packet is decoded by the grammar, and the first thing that is wrong is blamed.**  It is a
handshake just where it carries one.  Where it carries none, the error says what is wrong with it:
the id, or else the first field that is no good, with everything in front of that field in place.
The text of the error names just that. -/
theorem ofPacket_decided (packet : Packet) :
    (∀ handshake, ofPacket packet = .ok handshake ↔ CarriedBy packet handshake) ∧
      (∀ e, ofPacket packet = .error e ↔
        ∃ fault, Faulty packet fault ∧ e = .malformedHandshake fault) ∧
      (∀ id, (ProtocolError.malformedHandshake (.unexpectedId id)).message =
        "malformed handshake: " ++ ("unexpected packet id " ++ Numeral.showId id)) ∧
      (∀ field cause, (ProtocolError.malformedHandshake (.unreadable field cause)).message =
        "malformed handshake: " ++ (field.name ++ ": " ++ cause.message)) ∧
      [HandshakeField.protocolVersion, .serverAddress, .serverPort, .nextState].map
        HandshakeField.name =
          ["protocol version", "server address", "server port", "next state"] := by
  exact ⟨fun _ => ofPacket_eq_ok_iff, fun _ => ofPacket_eq_error_iff, fun _ => rfl,
    fun _ _ => rfl, rfl⟩

/-- A handshake for port 25565, and the same one cut inside the port. -/
theorem ofPacket_decided_port :
    let whole : Packet := ⟨0, [5, 1, 0x61, 0x63, 0xDD, 2]⟩
    let cut : Packet := ⟨0, [5, 1, 0x61, 0x63]⟩
    CarriedBy whole ⟨5, "a", 25565, 2⟩ ∧ ofPacket whole = .ok ⟨5, "a", 25565, 2⟩ ∧
      Faulty cut (.unreadable .serverPort .bufferTooShort) ∧
      ofPacket cut = .error (.malformedHandshake (.unreadable .serverPort .bufferTooShort)) := by
  intro whole cut
  have digit (b : UInt8) (unmarked : b < 128) : VarInt.Complete [b] := .singleton unmarked
  have carried : CarriedBy whole ⟨5, "a", 25565, 2⟩ :=
    ⟨rfl, _, [], .intro (digit 5 (by decide)) (digit 1 (by decide)) (digit 2 (by decide)) rfl rfl,
      rfl⟩
  have text : VarInt.StartsWithText [1, 0x61, 0x63] "a" [0x63] :=
    ⟨[1], digit 1 (by decide), rfl, rfl⟩
  have faulty : Faulty cut (.unreadable .serverPort .bufferTooShort) :=
    .unreadable rfl (.serverPort (digit 5 (by decide)) text (by decide))
  obtain ⟨read, failed, -⟩ := ofPacket_decided whole
  obtain ⟨-, blamed, -⟩ := ofPacket_decided cut
  exact ⟨carried, (read _).2 carried, faulty, (blamed _).2 ⟨_, faulty, rfl⟩⟩

/-- A payload that is wrong in its address and short of everything behind it. -/
example : ofPacket ⟨0, [1, 2, 0xC3, 0x28]⟩ =
    .error (.malformedHandshake (.unreadable .serverAddress .invalidUtf8)) := by
  rfl

end Handshake

end GameGateway
