import GameGateway.Proofs.Wire.FrameGrammar
import GameGateway.Proofs.Wire.VarIntWriting

/-!
# The frames that are written

The frame of a packet whose body is not too long is whole, and decoding takes just that packet off
it (`Packet.decode_encode`).  A frame that is accepted need not be a written one: its length and its
id may be spelled with more bytes than they need (`Frame.Carries`, `Packet.decode_eq_ok_iff`).
Writing its packet again never makes it longer (`Frame.Carries.length_encode_le`), and gives the
same bytes just where both numbers were spelled as they are written (`Frame.Carries.encode_eq_iff`).

A frame that is cut before its end decides nothing (`Packet.not_opens_take_encode`), and decoding
what decides nothing fails (`Packet.decode_torn`).
-/

namespace GameGateway

namespace Packet

/-! ## The parts of a written frame -/

/-- The length as it stands in front of a written frame. -/
def lengthPrefix (packet : Packet) : Bytes :=
  VarInt.encode (UInt32.ofNat packet.bodyLength)

/-- The body of a written frame. -/
def body (packet : Packet) : Bytes :=
  VarInt.encode packet.id ++ packet.data

theorem encode_eq (packet : Packet) : packet.encode = packet.lengthPrefix ++ packet.body := rfl

theorem length_body (packet : Packet) : packet.body.length = packet.bodyLength := by
  rw [body, List.length_append, VarInt.length_encode, bodyLength]

theorem length_encode (packet : Packet) :
    packet.encode.length = packet.lengthPrefix.length + packet.bodyLength := by
  rw [encode_eq, List.length_append, length_body]

theorem bodyLength_pos (packet : Packet) : 0 < packet.bodyLength := by
  have id := (VarInt.encode_complete packet.id).length_pos
  rw [VarInt.length_encode] at id
  exact Nat.lt_of_lt_of_le id (Nat.le_add_right _ _)

section Bounded

variable {packet : Packet}

theorem toNat_bodyLength (bounded : packet.bodyLength ≤ maxFrameLength) :
    (UInt32.ofNat packet.bodyLength).toNat = packet.bodyLength := by
  have word : packet.bodyLength < 2 ^ 32 := Nat.lt_of_le_of_lt bounded (by decide)
  rw [UInt32.toNat_ofNat', Nat.mod_eq_of_lt word]

theorem isWhole_encode (bounded : packet.bodyLength ≤ maxFrameLength) :
    Frame.IsWhole packet.lengthPrefix packet.body where
  complete := VarInt.encode_complete _
  declared := by
    rw [lengthPrefix, VarInt.value_encode, toNat_bodyLength bounded, length_body]
  nonempty := by
    rw [length_body]
    exact packet.bodyLength_pos
  bounded := by
    rw [length_body]
    exact bounded

end Bounded

/-! ## Bodies -/

theorem decodeBody_complete {idBytes : Bytes} (complete : VarInt.Complete idBytes) (data : Bytes) :
    decodeBody (idBytes ++ data) = .ok ⟨VarInt.value idBytes, data⟩ := by
  simp only [decodeBody, VarInt.read_complete complete]

theorem decodeBody_eq_ok_iff {body : Bytes} {packet : Packet} :
    decodeBody body = .ok packet ↔ ∃ idBytes, VarInt.Complete idBytes ∧
      VarInt.value idBytes = packet.id ∧ body = idBytes ++ packet.data := by
  constructor
  · intro decoded
    rcases VarInt.complete_or_refuses body with
      ⟨idBytes, data, rfl, complete⟩ | ⟨cause, left, refuses⟩
    · rw [decodeBody_complete complete] at decoded
      cases decoded
      exact ⟨idBytes, complete, rfl, rfl⟩
    · simp only [decodeBody, VarInt.read_of_refuses refuses] at decoded
      cases decoded
  · rintro ⟨idBytes, complete, id, rfl⟩
    rw [decodeBody_complete complete, id]

end Packet

/-! ## Frames that are accepted -/

namespace Frame

/-- A frame of a packet, in its parts: a length and an id, each spelled with any number of bytes
that a varint may have, and the payload behind them. -/
structure Spells (lead idBytes : Bytes) (packet : Packet) : Prop where
  whole : IsWhole lead (idBytes ++ packet.data)
  id : VarInt.Complete idBytes
  value : VarInt.value idBytes = packet.id

/-- A byte string that is one frame of a packet. -/
def Carries (frame : Bytes) (packet : Packet) : Prop :=
  ∃ lead idBytes, Spells lead idBytes packet ∧ frame = lead ++ (idBytes ++ packet.data)

/-- Whether the length and the id of a frame are spelled as they are written, each as the varint
that is written for the number it stands for. -/
def IsCanonical (frame : Bytes) : Prop :=
  ∃ lead idBytes data, frame = lead ++ (idBytes ++ data) ∧
    lead = VarInt.encode (VarInt.value lead) ∧ idBytes = VarInt.encode (VarInt.value idBytes)

end Frame

namespace Packet

theorem spells_encode {packet : Packet} (bounded : packet.bodyLength ≤ maxFrameLength) :
    Frame.Spells packet.lengthPrefix (VarInt.encode packet.id) packet :=
  ⟨isWhole_encode bounded, VarInt.encode_complete packet.id, VarInt.value_encode packet.id⟩

theorem carries_encode {packet : Packet} (bounded : packet.bodyLength ≤ maxFrameLength) :
    Frame.Carries packet.encode packet :=
  ⟨_, _, spells_encode bounded, rfl⟩

/-- What a byte string that decides nothing decodes to. -/
theorem decode_torn {bytes : Bytes} (undecided : ¬ Frame.Opens bytes) :
    ∃ fault left, decode bytes = .error (.malformedFrame fault) left := by
  unfold decode
  rcases Frame.torn_cases undecided with
    ⟨short, all⟩ | ⟨lead, part, rfl, complete, nonempty, bounded, short⟩
  · rw [bind_error (adaptExcept_error _ (VarInt.read_short short all))]
    exact ⟨_, _, rfl⟩
  · have length := adaptExcept_ok (fun e => ProtocolError.malformedFrame (.lengthUnreadable e))
      (VarInt.read_complete complete part)
    rw [bind_ok length, checkLength_ok nonempty bounded, bind_ok (ofExcept_ok () _), bind_get,
      if_pos short]
    exact ⟨_, _, rfl⟩

/-- **Decoding takes a packet off the front just where a frame of it stands there.** -/
theorem decode_eq_ok_iff {bytes rest : Bytes} {packet : Packet} :
    decode bytes = .ok packet rest ↔
      ∃ frame, Frame.Carries frame packet ∧ bytes = frame ++ rest := by
  constructor
  · intro decoded
    by_cases decided : Frame.Opens bytes
    · rcases decided with ⟨lead, body, behind, whole, rfl⟩ | ⟨lead, behind, refused, rfl⟩
      · rw [decode_whole whole] at decoded
        cases verdict : decodeBody body with
        | error e =>
            rw [verdict] at decoded
            cases decoded
        | ok found =>
            rw [verdict] at decoded
            cases decoded
            obtain ⟨idBytes, complete, id, rfl⟩ := decodeBody_eq_ok_iff.1 verdict
            exact ⟨_, ⟨lead, idBytes, ⟨whole, complete, id⟩, rfl⟩, (List.append_assoc _ _ _).symm⟩
      · obtain ⟨fault, failed⟩ := decode_refused refused behind
        rw [failed] at decoded
        cases decoded
    · obtain ⟨fault, left, failed⟩ := decode_torn decided
      rw [failed] at decoded
      cases decoded
  · rintro ⟨frame, ⟨lead, idBytes, spells, rfl⟩, rfl⟩
    rw [List.append_assoc, decode_whole spells.whole, decodeBody_complete spells.id, spells.value]
    rfl

/-- A written frame decodes to its packet, whatever follows it. -/
theorem decode_encode {packet : Packet} (bounded : packet.bodyLength ≤ maxFrameLength)
    (rest : Bytes) : decode (packet.encode ++ rest) = .ok packet rest :=
  decode_eq_ok_iff.2 ⟨_, carries_encode bounded, rfl⟩

end Packet

/-! ## Writing a packet again -/

namespace Frame

section Spells

variable {lead idBytes : Bytes} {packet : Packet}

/-- The body of a written frame is no longer than the declared length of any frame of its packet. -/
theorem Spells.bodyLength_le (spells : Spells lead idBytes packet) :
    packet.bodyLength ≤ (VarInt.value lead).toNat := by
  have id : (VarInt.encode packet.id).length ≤ idBytes.length :=
    VarInt.length_encode_le spells.id (Nat.le_of_eq (congrArg UInt32.toNat spells.value.symm))
  rw [spells.whole.declared, List.length_append, Packet.bodyLength, ← VarInt.length_encode]
  exact Nat.add_le_add_right id packet.data.length

theorem Spells.declared_bounded (spells : Spells lead idBytes packet) :
    (VarInt.value lead).toNat ≤ maxFrameLength := by
  rw [spells.whole.declared]
  exact spells.whole.bounded

/-- The length of a written frame takes no more bytes than that of any frame of its packet. -/
theorem Spells.length_lengthPrefix_le (spells : Spells lead idBytes packet) :
    packet.lengthPrefix.length ≤ lead.length := by
  refine VarInt.length_encode_le spells.whole.complete ?_
  rw [Packet.toNat_bodyLength (Nat.le_trans spells.bodyLength_le spells.declared_bounded)]
  exact spells.bodyLength_le

end Spells

namespace Carries

variable {frame : Bytes} {packet : Packet}

/-- The declared length of a frame, and that its packet is written with no larger one. -/
theorem declared (carries : Carries frame packet) :
    ∃ length body, VarInt.read frame = .ok length body ∧ packet.bodyLength ≤ length.toNat ∧
      length.toNat ≤ maxFrameLength := by
  obtain ⟨lead, idBytes, spells, rfl⟩ := carries
  exact ⟨_, _, VarInt.read_complete spells.whole.complete _, spells.bodyLength_le,
    spells.declared_bounded⟩

theorem bodyLength_bounded (carries : Carries frame packet) :
    packet.bodyLength ≤ maxFrameLength := by
  obtain ⟨length, body, -, below, bounded⟩ := carries.declared
  exact Nat.le_trans below bounded

/-- A written frame is no longer than any frame of its packet. -/
theorem length_encode_le (carries : Carries frame packet) :
    packet.encode.length ≤ frame.length := by
  obtain ⟨lead, idBytes, spells, rfl⟩ := carries
  rw [packet.length_encode, List.length_append, ← spells.whole.declared]
  exact Nat.add_le_add spells.length_lengthPrefix_le spells.bodyLength_le

/-- A frame is the written one just where its length and its id are spelled as they are written. -/
theorem encode_eq_iff (carries : Carries frame packet) :
    packet.encode = frame ↔ IsCanonical frame := by
  obtain ⟨lead, idBytes, spells, rfl⟩ := carries
  constructor
  · intro same
    rw [← same]
    refine ⟨packet.lengthPrefix, VarInt.encode packet.id, packet.data, rfl, ?_, ?_⟩
    · rw [Packet.lengthPrefix, VarInt.value_encode]
    · rw [VarInt.value_encode]
  · rintro ⟨lead', idBytes', data, same, length, id⟩
    have complete : VarInt.Complete lead' := length ▸ VarInt.encode_complete _
    have complete' : VarInt.Complete idBytes' := id ▸ VarInt.encode_complete _
    obtain ⟨rfl, body⟩ := VarInt.complete_append_inj spells.whole.complete complete same
    obtain ⟨rfl, -⟩ := VarInt.complete_append_inj spells.id complete' body
    have written : VarInt.encode packet.id = idBytes := by
      rw [← spells.value]
      exact id.symm
    have declared : UInt32.ofNat packet.bodyLength = VarInt.value lead := by
      rw [← packet.length_body, Packet.body, written, ← spells.whole.declared,
        UInt32.ofNat_toNat]
    rw [Packet.encode_eq, Packet.lengthPrefix, Packet.body, declared, written, ← length]

end Carries

end Frame

/-! ## Cuts -/

/-- A written frame that is cut before its end decides nothing. -/
theorem Packet.not_opens_take_encode {packet : Packet} {n : Nat}
    (bounded : packet.bodyLength ≤ maxFrameLength) (short : n < packet.encode.length) :
    ¬ Frame.Opens (packet.encode.take n) := by
  have frame := isWhole_encode bounded
  have value : (VarInt.value packet.lengthPrefix).toNat = packet.body.length := frame.declared
  by_cases inLength : n < packet.lengthPrefix.length
  · -- all bytes up to the cut are marked, and there are too few of them
    have cut : packet.encode.take n = packet.lengthPrefix.take n :=
      List.take_append_of_le_length (Nat.le_of_lt inLength)
    have all : VarInt.AllMarked (packet.lengthPrefix.take n) :=
      frame.complete.allMarked_take inLength
    have few : (packet.lengthPrefix.take n).length < 5 := by
      rw [List.length_take]
      have most := frame.complete.length_le
      omega
    rw [cut]
    rintro (⟨lead, body, rest, whole, same⟩ | ⟨lead, rest, ⟨complete, -⟩ | ⟨full, -⟩, same⟩)
    · exact VarInt.not_complete_of_allMarked (same ▸ all) whole.complete
    · exact VarInt.not_complete_of_allMarked (same ▸ all) complete
    · rw [same, List.length_append] at few
      omega
  · -- the length is all there, and it is not the body that it declares
    obtain ⟨k, rfl⟩ : ∃ k, n = packet.lengthPrefix.length + k :=
      ⟨n - packet.lengthPrefix.length, by omega⟩
    have part : k < packet.body.length := by
      rw [encode_eq, List.length_append] at short
      omega
    have cut : packet.encode.take (packet.lengthPrefix.length + k) =
        packet.lengthPrefix ++ packet.body.take k := by
      rw [encode_eq, List.take_length_add_append]
    rw [cut]
    rintro (⟨lead, body, rest, whole, same⟩ | ⟨lead, rest, ⟨complete, refused⟩ | ⟨full, all⟩, same⟩)
    · obtain ⟨rfl, left⟩ := VarInt.complete_append_inj frame.complete whole.complete same
      have available := congrArg List.length left
      rw [List.length_take, List.length_append, ← whole.declared, value] at available
      omega
    · obtain ⟨rfl, -⟩ := VarInt.complete_append_inj frame.complete complete same
      have nonempty := frame.nonempty
      have most := frame.bounded
      omega
    · have enough : packet.lengthPrefix.length ≤ lead.length := by
        rw [full]
        exact frame.complete.length_le
      have opening : lead <+: packet.lengthPrefix ++ packet.body.take k := by
        rw [same]
        exact List.prefix_append lead rest
      obtain ⟨more, rfl⟩ : packet.lengthPrefix <+: lead :=
        List.prefix_of_prefix_length_le (List.prefix_append _ _) opening enough
      exact VarInt.not_complete_of_allMarked all frame.complete

end GameGateway
