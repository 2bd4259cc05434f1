import GameGateway.Proofs.Stream.PacketSequence

/-!
# Oversized frames

A frame is written whatever the length of its body, but the number in front of it has 32 bits and
keeps the length only modulo `2 ^ 32` (`Packet.declaredLength`).  Where that is a length that a
frame may have, and reaches over the id, the frame is readable as one of a shorter packet
(`Packet.IsReadable`, `Packet.shortened`), and the rest of its body stands where the next frame is
expected (`Packet.overhang`).

A written frame decodes, and is read from a stream, just where it is readable
(`Packet.decode_encode_of_isReadable`, `Packet.decode_encode_of_not_isReadable`).  So a frame that
is longer than `maxFrameLength` is refused at least wherever its length fits into 32 bits, but not
everywhere (`Packet.oversized_refused_iff`).
-/

namespace GameGateway

namespace Packet

variable {packet : Packet}

/-- The length that the frame of a packet declares: what 32 bits keep of that of its body. -/
def declaredLength (packet : Packet) : Nat :=
  packet.bodyLength % 2 ^ 32

/-- Whether the declared length is one that a frame may have, and reaches over the id. -/
def IsReadable (packet : Packet) : Prop :=
  VarInt.size packet.id ≤ packet.declaredLength ∧ packet.declaredLength ≤ maxFrameLength

/-- A packet with no more of its data than the declared length covers. -/
def shortened (packet : Packet) : Packet :=
  { packet with data := packet.data.take (packet.declaredLength - VarInt.size packet.id) }

/-- The end of the body that the declared length does not cover. -/
def overhang (packet : Packet) : Bytes :=
  packet.body.drop packet.declaredLength

/-! ## The declared part of a written frame -/

theorem declaredLength_of_lt (word : packet.bodyLength < 2 ^ 32) :
    packet.declaredLength = packet.bodyLength :=
  Nat.mod_eq_of_lt word

theorem value_lengthPrefix (packet : Packet) :
    (VarInt.value packet.lengthPrefix).toNat = packet.declaredLength := by
  rw [lengthPrefix, VarInt.value_encode, UInt32.toNat_ofNat', declaredLength]

theorem length_take_body (packet : Packet) :
    (packet.body.take packet.declaredLength).length = packet.declaredLength := by
  have covered : packet.declaredLength ≤ packet.bodyLength := Nat.mod_le _ _
  rw [List.length_take, length_body, Nat.min_eq_left covered]

theorem encode_append (packet : Packet) (rest : Bytes) :
    packet.encode ++ rest = packet.lengthPrefix ++
      (packet.body.take packet.declaredLength ++ (packet.overhang ++ rest)) := by
  rw [encode_eq, overhang, ← List.append_assoc (packet.body.take _), List.take_append_drop,
    List.append_assoc]

theorem isWhole_declared (nonempty : 0 < packet.declaredLength)
    (bounded : packet.declaredLength ≤ maxFrameLength) :
    Frame.IsWhole packet.lengthPrefix (packet.body.take packet.declaredLength) where
  complete := VarInt.encode_complete _
  declared := by rw [value_lengthPrefix, length_take_body]
  nonempty := by rwa [length_take_body]
  bounded := by rwa [length_take_body]

theorem isRefused_declared
    (refused : packet.declaredLength = 0 ∨ maxFrameLength < packet.declaredLength) :
    Frame.IsRefused packet.lengthPrefix := by
  rw [← value_lengthPrefix] at refused
  exact .inl ⟨VarInt.encode_complete _, refused⟩

/-- A written frame is refused for its length, or there are enough bytes for it. -/
theorem opens_encode (packet : Packet) (rest : Bytes) : Frame.Opens (packet.encode ++ rest) := by
  by_cases refused : packet.declaredLength = 0 ∨ maxFrameLength < packet.declaredLength
  · exact .inr ⟨packet.lengthPrefix, packet.body ++ rest, isRefused_declared refused,
      List.append_assoc _ _ _⟩
  · have whole : Frame.IsWhole packet.lengthPrefix (packet.body.take packet.declaredLength) :=
      isWhole_declared (by omega) (by omega)
    exact .inl ⟨_, _, _, whole, packet.encode_append rest⟩

/-! ## Decoding a written frame -/

theorem decodeBody_covered (covered : VarInt.size packet.id ≤ packet.declaredLength) :
    decodeBody (packet.body.take packet.declaredLength) = .ok packet.shortened := by
  have front : packet.body.take packet.declaredLength =
      VarInt.encode packet.id ++ packet.shortened.data := by
    have split : packet.declaredLength = (VarInt.encode packet.id).length +
        (packet.declaredLength - VarInt.size packet.id) := by
      rw [VarInt.length_encode]
      omega
    rw [body, shortened, split, List.take_length_add_append, ← split]
  rw [front, decodeBody_complete (VarInt.encode_complete packet.id), VarInt.value_encode]
  rfl

theorem decodeBody_torn (short : packet.declaredLength < VarInt.size packet.id) :
    ∃ fault, decodeBody (packet.body.take packet.declaredLength) =
      .error (.malformedFrame fault) := by
  have id : VarInt.Complete (VarInt.encode packet.id) := VarInt.encode_complete packet.id
  rw [← VarInt.length_encode] at short
  have few : ((VarInt.encode packet.id).take packet.declaredLength).length < 5 := by
    have most := id.length_le
    rw [List.length_take]
    omega
  have failed := VarInt.read_short few (id.allMarked_take short)
  rw [body, List.take_append_of_le_length (Nat.le_of_lt short)]
  simp only [decodeBody, failed]
  exact ⟨_, rfl⟩

/-- A readable frame gives the shortened packet, and leaves the overhang. -/
theorem decode_encode_of_isReadable (readable : packet.IsReadable) (rest : Bytes) :
    decode (packet.encode ++ rest) = .ok packet.shortened (packet.overhang ++ rest) := by
  obtain ⟨covered, bounded⟩ := readable
  have id := (VarInt.encode_complete packet.id).length_pos
  rw [VarInt.length_encode] at id
  rw [encode_append, decode_whole (isWhole_declared (by omega) bounded),
    decodeBody_covered covered]
  rfl

theorem decode_encode_of_not_isReadable (unreadable : ¬ packet.IsReadable) (rest : Bytes) :
    ∃ fault left, decode (packet.encode ++ rest) = .error (.malformedFrame fault) left := by
  by_cases refused : packet.declaredLength = 0 ∨ maxFrameLength < packet.declaredLength
  · obtain ⟨fault, failed⟩ := decode_refused (isRefused_declared refused) (packet.body ++ rest)
    rw [encode_eq, List.append_assoc]
    exact ⟨fault, _, failed⟩
  · -- the length may be that of a frame, so the id is not covered
    have bounded : packet.declaredLength ≤ maxFrameLength := by omega
    have short : packet.declaredLength < VarInt.size packet.id :=
      Nat.lt_of_not_le fun covered => unreadable ⟨covered, bounded⟩
    obtain ⟨fault, torn⟩ := decodeBody_torn short
    rw [encode_append, decode_whole (isWhole_declared (by omega) bounded), torn]
    exact ⟨fault, _, rfl⟩

end Packet

/-! ## Reading a written frame -/

namespace Source

variable {source : Source} {packet : Packet} {rest : Bytes}

/-- Where the bytes that arrive decide, a read does what decoding does and leaves the same
bytes. -/
theorem readPacket_of_opens (opens : Frame.Opens source.feed.patient) :
    ∃ after : Source,
      SameFrame (Packet.decode source.feed.patient) after.feed.patient source.readPacket after := by
  rcases opens with ⟨lead, body, rest, whole, front⟩ | ⟨lead, rest, refused, front⟩
  · obtain ⟨after, left, same⟩ := readPacket_whole whole front
    rw [← List.append_assoc] at front
    have behind := (Feed.skip_patient front).1
    rw [List.length_append, ← left] at behind
    exact ⟨after, behind ▸ same⟩
  · obtain ⟨after, left, same⟩ := readPacket_refused refused front
    have behind := (Feed.skip_patient front).1
    rw [← left] at behind
    exact ⟨after, behind ▸ same⟩

theorem readPacket_encode_of_isReadable (readable : packet.IsReadable)
    (front : source.feed.patient = packet.encode ++ rest) :
    ∃ after : Source, source.readPacket = .ok packet.shortened after ∧
      after.feed.patient = packet.overhang ++ rest := by
  obtain ⟨after, same⟩ := readPacket_of_opens (front ▸ packet.opens_encode rest)
  rw [front, Packet.decode_encode_of_isReadable readable] at same
  rcases same with ⟨found, decoded, read⟩ | ⟨fault, fault', decoded, read⟩
  · simp only [EStateM.Result.ok.injEq] at decoded
    obtain ⟨rfl, left⟩ := decoded
    exact ⟨after, read, left.symm⟩
  · cases decoded

theorem readPacket_encode_of_not_isReadable (unreadable : ¬ packet.IsReadable)
    (front : source.feed.patient = packet.encode ++ rest) :
    ∃ fault after, source.readPacket = .error (.malformedFrame fault) after := by
  obtain ⟨after, same⟩ := readPacket_of_opens (front ▸ packet.opens_encode rest)
  obtain ⟨fault, left, failed⟩ := Packet.decode_encode_of_not_isReadable unreadable rest
  rw [front, failed] at same
  rcases same with ⟨found, decoded, read⟩ | ⟨fault, fault', decoded, read⟩
  · cases decoded
  · exact ⟨fault', after, read⟩

end Source

namespace Packet

variable {packet : Packet}

/-! ## Which oversized frames are refused -/

/-- An oversized frame is readable only if its length does not fit into 32 bits. -/
theorem two_pow_le_of_isReadable (oversized : maxFrameLength < packet.bodyLength)
    (readable : packet.IsReadable) : 2 ^ 32 ≤ packet.bodyLength := by
  refine Nat.le_of_not_lt fun word => ?_
  have bounded := readable.2
  rw [declaredLength_of_lt word] at bounded
  omega

/-- **Which oversized frames are refused.**  A frame longer than a frame may be is refused as
malformed, when it is decoded and when it is read from a stream, just where its declared length does
not make it the frame of a shortened packet.  Where it does, the body has at least `2 ^ 32` bytes,
and what is beyond its declared length is taken for what follows the frame. -/
theorem oversized_refused_iff (packet : Packet) (oversized : maxFrameLength < packet.bodyLength)
    (rest : Bytes) :
    ((∃ fault left, decode (packet.encode ++ rest) = .error (.malformedFrame fault) left) ↔
        ¬ packet.IsReadable) ∧
      (∀ source : Source, source.feed.patient = packet.encode ++ rest →
        ((∃ fault after, source.readPacket = .error (.malformedFrame fault) after) ↔
          ¬ packet.IsReadable)) ∧
      (packet.IsReadable → 2 ^ 32 ≤ packet.bodyLength ∧
        decode (packet.encode ++ rest) = .ok packet.shortened (packet.overhang ++ rest) ∧
        ∀ source : Source, source.feed.patient = packet.encode ++ rest →
          ∃ after : Source, source.readPacket = .ok packet.shortened after ∧
            after.feed.patient = packet.overhang ++ rest) := by
  refine ⟨⟨?_, ?_⟩, fun source front => ⟨?_, ?_⟩, fun readable => ⟨?_, ?_, ?_⟩⟩
  · intro refused readable
    rcases refused with ⟨fault, left, failed⟩
    rw [decode_encode_of_isReadable readable] at failed
    cases failed
  · intro unreadable
    exact decode_encode_of_not_isReadable unreadable rest
  · intro refused readable
    rcases refused with ⟨fault, after, failed⟩
    obtain ⟨after', read, -⟩ := Source.readPacket_encode_of_isReadable readable front
    rw [failed] at read
    cases read
  · intro unreadable
    exact Source.readPacket_encode_of_not_isReadable unreadable front
  · exact two_pow_le_of_isReadable oversized readable
  · exact decode_encode_of_isReadable readable rest
  · intro source front
    exact Source.readPacket_encode_of_isReadable readable front

theorem bodyLength_replicate (id : UInt32) (n : Nat) (b : UInt8) :
    bodyLength ⟨id, List.replicate n b⟩ = VarInt.size id + n := by
  rw [bodyLength, List.length_replicate]

/-- The shortest frame that is too long is refused. -/
theorem oversized_refused_by_one :
    let packet : Packet := ⟨1, List.replicate maxFrameLength 0⟩
    maxFrameLength < packet.bodyLength ∧
      ∃ fault left, decode packet.encode = .error (.malformedFrame fault) left := by
  intro packet
  have length : packet.bodyLength = 1 + maxFrameLength := bodyLength_replicate 1 maxFrameLength 0
  have oversized : maxFrameLength < packet.bodyLength := by omega
  have unreadable : ¬ packet.IsReadable := fun readable => by
    have large := two_pow_le_of_isReadable oversized readable
    rw [length, maxFrameLength] at large
    omega
  have refused := (oversized_refused_iff packet oversized []).1.2 unreadable
  rw [List.append_nil] at refused
  exact ⟨oversized, refused⟩

/-- A body of `2 ^ 32 + 1` bytes declares the length one, and decodes as a packet without data. -/
theorem oversized_decoded_without_data :
    ¬ ∀ (packet : Packet) (rest : Bytes), maxFrameLength < packet.bodyLength →
      ∃ fault left, decode (packet.encode ++ rest) = .error (.malformedFrame fault) left := by
  intro refused
  let packet : Packet := ⟨0, List.replicate (2 ^ 32) 0⟩
  have length : packet.bodyLength = 1 + 2 ^ 32 := bodyLength_replicate 0 (2 ^ 32) 0
  have declared : packet.declaredLength = 1 := by
    rw [declaredLength, length, Nat.add_mod_right]
    rfl
  have readable : packet.IsReadable := by
    rw [IsReadable, declared]
    decide
  have oversized : maxFrameLength < packet.bodyLength := by
    rw [length, maxFrameLength]
    omega
  obtain ⟨fault, left, failed⟩ := refused packet [] oversized
  rw [decode_encode_of_isReadable readable] at failed
  cases failed

end Packet

end GameGateway
