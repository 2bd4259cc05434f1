import GameGateway.Proofs.Stream.PacketSequence
import GameGateway.Proofs.Wire.HandshakeGrammar

/-!
# Handshakes over the wire

The packet of a handshake spells its fields (`Handshake.spells_toPacket`), so reading and decoding
it gives the handshake back.  This asks only that the length of the address fits into a number,
which it does wherever a handshake was decoded, however the fields were spelled there
(`Handshake.Spells.fits`).

The fields of a handshake delimit themselves (`Handshake.Spells.append_inj`).  So nothing that is
put behind them changes what they say, and nothing that is cut off them leaves the fields of another
handshake.
-/

namespace GameGateway

namespace Handshake

variable {handshake : Handshake}

/-! ## Written fields -/

/-- The two bytes that are written for a port spell it. -/
theorem port_written (port : UInt16) :
    ∃ high low, BigEndian.encode 2 port.toNat = [high, low] ∧
      port.toNat = 256 * high.toNat + low.toNat := by
  refine ⟨UInt8.ofNat (port.toNat / 256), UInt8.ofNat port.toNat, rfl, ?_⟩
  have word := port.toNat_lt
  simp only [UInt8.toNat_ofNat', Nat.reducePow]
  omega

theorem spells_toPacket (fits : handshake.serverAddress.utf8ByteSize < 2 ^ 32) :
    Spells handshake.toPacket.data handshake := by
  obtain ⟨high, low, written, spelled⟩ := port_written handshake.serverPort
  have spells := Spells.intro (VarInt.encode_complete handshake.protocolVersion.toUInt32)
    (VarInt.encode_complete (UInt32.ofNat handshake.serverAddress.utf8ByteSize))
    (VarInt.encode_complete handshake.nextState.toUInt32) (VarInt.value_textLength fits) spelled
  rw [VarInt.value_encode, VarInt.value_encode, Int32.toInt32_toUInt32,
    Int32.toInt32_toUInt32] at spells
  simpa only [toPacket, VarInt.encodeSigned, VarInt.encodeString, written, List.append_assoc,
    List.cons_append, List.nil_append] using spells

/-- The address of a handshake is no longer than its packet. -/
theorem fits_of_bounded (bounded : handshake.toPacket.bodyLength ≤ maxFrameLength) :
    handshake.serverAddress.utf8ByteSize < 2 ^ 32 := by
  have part : (Utf8.encode handshake.serverAddress).length ≤ handshake.toPacket.data.length := by
    simp only [toPacket, VarInt.encodeString, List.length_append]
    omega
  rw [VarInt.length_utf8_encode] at part
  simp only [Packet.bodyLength, maxFrameLength] at bounded
  omega

/-- The length of an address that was decoded was a number. -/
theorem Spells.fits {fields : Bytes} (spells : Spells fields handshake) :
    handshake.serverAddress.utf8ByteSize < 2 ^ 32 := by
  cases spells with
  | @intro version length next address _ _ _ _ _ _ declared _ =>
      rw [← VarInt.length_utf8_encode, ← declared]
      exact (VarInt.value length).toNat_lt

/-- A byte string starts with the fields of at most one handshake. -/
theorem Spells.append_inj {fields other rest more : Bytes} {handshake' : Handshake}
    (spells : Spells fields handshake) (spells' : Spells other handshake')
    (same : fields ++ rest = other ++ more) : fields = other ∧ rest = more := by
  have first := read_spells spells rest
  rw [same, read_spells spells' more] at first
  cases first
  exact ⟨List.append_cancel_right same, rfl⟩

/-! ## Back again -/

theorem ofPacket_fields {fields : Bytes} (spells : Spells fields handshake) (rest : Bytes) :
    ofPacket ⟨packetId, fields ++ rest⟩ = .ok handshake :=
  ofPacket_of_carriedBy ⟨rfl, fields, rest, spells, rfl⟩

/-- Fields that are cut short are no fields of a handshake. -/
theorem ofPacket_take {fields : Bytes} (spells : Spells fields handshake) {n : Nat}
    (short : n < fields.length) :
    ∃ fault, ofPacket ⟨packetId, fields.take n⟩ = .error (.malformedHandshake fault) := by
  rcases carriedBy_or_faulty ⟨packetId, fields.take n⟩ with
    ⟨handshake', -, fields', rest, spells', split⟩ | ⟨fault, faulty⟩
  · have front : fields.take n = fields' ++ rest := split
    have same : fields ++ [] = fields' ++ (rest ++ fields.drop n) := by
      rw [List.append_nil, ← List.append_assoc, ← front, List.take_append_drop]
    obtain ⟨rfl, nothing⟩ := spells.append_inj spells' same
    have length := congrArg List.length nothing
    rw [List.length_nil, List.length_append, List.length_drop] at length
    omega
  · exact ⟨fault, ofPacket_of_faulty faulty⟩

/-- **A handshake survives the wire.**  Where its frame is not too long, it is read and decoded from
any stream that starts with the frame, however the bytes arrive and whatever follows them.  Nothing
behind its fields changes it, and nothing that is cut short is a handshake.  A handshake that was
decoded from any packet is decoded from its own packet as well. -/
theorem survives_wire (handshake : Handshake) :
    (handshake.toPacket.bodyLength ≤ maxFrameLength →
      (∀ (source : Source) (rest : Bytes),
        source.feed.patient = handshake.toPacket.encode ++ rest →
        ∃ packet after, source.readPacket = .ok packet after ∧
          ofPacket packet = .ok handshake ∧ after.feed.patient = rest) ∧
      (∀ more, ofPacket { handshake.toPacket with data := handshake.toPacket.data ++ more } =
        .ok handshake) ∧
      ∀ n < handshake.toPacket.data.length, ∃ fault,
        ofPacket { handshake.toPacket with data := handshake.toPacket.data.take n } =
          .error (.malformedHandshake fault)) ∧
      ∀ packet, ofPacket packet = .ok handshake → ofPacket handshake.toPacket = .ok handshake := by
  constructor
  · intro bounded
    have spells := spells_toPacket (fits_of_bounded bounded)
    refine ⟨fun source rest front => ?_, ofPacket_fields spells, fun n => ofPacket_take spells⟩
    obtain ⟨after, read, left, -, -⟩ := Source.readPacket_encode bounded front
    have decoded := ofPacket_fields spells []
    rw [List.append_nil] at decoded
    exact ⟨_, after, read, decoded, left⟩
  · intro packet answered
    obtain ⟨-, fields, rest, spells, -⟩ := ofPacket_eq_ok_iff.1 answered
    have decoded := ofPacket_fields (spells_toPacket spells.fits) []
    rwa [List.append_nil] at decoded

/-- A negative version and an address of two bytes, cut inside the version, inside the address and
inside the port; and the same handshake from a packet that spells it with more bytes. -/
theorem survives_wire_in_pieces :
    let handshake : Handshake := ⟨-2, "é", 25565, 1⟩
    let source : Source :=
      { script := [.chunk [12, 0, 0xFE, 0xFF], .pause, .chunk [0xFF, 0xFF, 0x0F, 2, 0xC3],
          .chunk [0xA9, 0x63], .pause, .chunk [0xDD, 1, 7]] }
    let lengthy : Packet :=
      ⟨0, [0xFE, 0xFF, 0xFF, 0xFF, 0x7F, 0x82, 0, 0xC3, 0xA9, 0x63, 0xDD, 0x81, 0x80, 0, 9]⟩
    handshake.toPacket.bodyLength ≤ maxFrameLength ∧
      source.feed.patient = handshake.toPacket.encode ++ [7] ∧
      (∃ packet after, source.readPacket = .ok packet after ∧ ofPacket packet = .ok handshake ∧
        after.feed.patient = [7]) ∧
      (∃ fault, ofPacket { handshake.toPacket with data := handshake.toPacket.data.take 7 } =
        .error (.malformedHandshake fault)) ∧
      ofPacket lengthy = .ok handshake ∧ ofPacket handshake.toPacket = .ok handshake := by
  intro handshake source lengthy
  have bounded : handshake.toPacket.bodyLength ≤ maxFrameLength := by decide +kernel
  have front : source.feed.patient = handshake.toPacket.encode ++ [7] := by decide +kernel
  have inside : 7 < handshake.toPacket.data.length := by decide +kernel
  have decoded : ofPacket lengthy = .ok handshake := rfl
  obtain ⟨wire, again⟩ := survives_wire handshake
  obtain ⟨read, -, cut⟩ := wire bounded
  exact ⟨bounded, front, read source [7] front, cut 7 inside, decoded, again lengthy decoded⟩

end Handshake

end GameGateway
