import GameGateway.Proofs.Wire.FrameWriting

/-!
# Frames taken off a buffer

A buffer starts with a frame that carries a packet, or a frame is refused, and both never hold of
one buffer.  `Frame.Refuses` says what is refused, with its cause and with what is left of the
buffer: nothing of a length that is torn, everything behind a length that cannot be the length of
what follows, and everything behind a body without an id.  `Packet.decode` fails just there
(`Packet.decode_eq_error_iff`).

Each packet takes at least two bytes, so decoding one packet after the other comes to an end
(`Packet.exists_repeated_decode`).  `Packet.decode_isolates_frame` puts these together.
-/

namespace GameGateway

namespace Frame

/-- A buffer whose front is refused as a frame, the cause, and what is left of the buffer. -/
inductive Refuses : Bytes → FrameFault → Bytes → Prop
  /-- The buffer ends inside the length. -/
  | lengthTorn {bytes : Bytes} : bytes.length < 5 → VarInt.AllMarked bytes →
    Refuses bytes (.lengthUnreadable .bufferTooShort) []
  /-- The length goes on behind the last byte that it may have. -/
  | lengthOverlong {lead rest : Bytes} : lead.length = 5 → VarInt.AllMarked lead →
    Refuses (lead ++ rest) (.lengthUnreadable (.tooManyBytes 5)) rest
  | empty {lead rest : Bytes} : VarInt.Complete lead → (VarInt.value lead).toNat = 0 →
    Refuses (lead ++ rest) .empty rest
  | tooLong {lead rest : Bytes} : VarInt.Complete lead →
    2097151 < (VarInt.value lead).toNat →
    Refuses (lead ++ rest) (.tooLong (VarInt.value lead).toNat) rest
  /-- The body is not all there. -/
  | incomplete {lead rest : Bytes} : VarInt.Complete lead → 0 < (VarInt.value lead).toNat →
    (VarInt.value lead).toNat ≤ 2097151 → rest.length < (VarInt.value lead).toNat →
    Refuses (lead ++ rest) (.incomplete (VarInt.value lead).toNat rest.length) rest
  /-- The body ends inside the id, whatever follows the body. -/
  | idTorn {lead body rest : Bytes} : IsWhole lead body → body.length < 5 →
    VarInt.AllMarked body →
    Refuses (lead ++ (body ++ rest)) (.idUnreadable .bufferTooShort) rest
  /-- The id goes on behind the last byte that it may have. -/
  | idOverlong {lead front more rest : Bytes} : IsWhole lead (front ++ more) →
    front.length = 5 → VarInt.AllMarked front →
    Refuses (lead ++ (front ++ more ++ rest)) (.idUnreadable (.tooManyBytes 5)) rest

/-- A buffer of which the length is complete starts with a packet, or is refused. -/
theorem carries_or_refuses_of_complete {lead : Bytes} (complete : VarInt.Complete lead)
    (behind : Bytes) :
    (∃ frame packet rest, Carries frame packet ∧ lead ++ behind = frame ++ rest) ∨
      ∃ fault rest, Refuses (lead ++ behind) fault rest := by
  rcases Nat.eq_zero_or_pos (VarInt.value lead).toNat with zero | nonempty
  · exact .inr ⟨_, _, .empty complete zero⟩
  rcases Nat.lt_or_ge 2097151 (VarInt.value lead).toNat with large | bounded
  · exact .inr ⟨_, _, .tooLong complete large⟩
  rcases Nat.lt_or_ge behind.length (VarInt.value lead).toNat with short | enough
  · exact .inr ⟨_, _, .incomplete complete nonempty bounded short⟩
  obtain ⟨body, rest, rfl, declared⟩ : ∃ body rest, behind = body ++ rest ∧
      (VarInt.value lead).toNat = body.length :=
    ⟨behind.take _, behind.drop _, (List.take_append_drop _ _).symm, by
      rw [List.length_take, Nat.min_eq_left enough]⟩
  have whole : IsWhole lead body :=
    ⟨complete, declared, by rwa [← declared], by rwa [← declared]⟩
  -- the body is now cut off, so how it starts decides
  rcases VarInt.opening_cases 5 body with
    ⟨idBytes, data, rfl, complete'⟩ | ⟨front, more, rfl, full, all⟩ | ⟨short, all⟩
  · refine .inl ⟨_, ⟨VarInt.value idBytes, data⟩, rest, ⟨lead, idBytes, ?_, rfl⟩, ?_⟩
    · exact ⟨whole, complete', rfl⟩
    · simp only [List.append_assoc]
  · exact .inr ⟨_, _, .idOverlong whole full all⟩
  · exact .inr ⟨_, _, .idTorn whole short all⟩

/-- Every buffer starts with the frame of a packet, or is refused. -/
theorem carries_or_refuses (bytes : Bytes) :
    (∃ frame packet rest, Carries frame packet ∧ bytes = frame ++ rest) ∨
      ∃ fault rest, Refuses bytes fault rest := by
  rcases VarInt.opening_cases 5 bytes with
    ⟨lead, behind, rfl, complete⟩ | ⟨lead, rest, rfl, full, all⟩ | ⟨short, all⟩
  · exact carries_or_refuses_of_complete complete behind
  · exact .inr ⟨_, _, .lengthOverlong full all⟩
  · exact .inr ⟨_, _, .lengthTorn short all⟩

theorem Refuses.length_le {bytes rest : Bytes} {fault : FrameFault}
    (refuses : Refuses bytes fault rest) : rest.length ≤ bytes.length := by
  cases refuses <;> simp only [List.length_nil, List.length_append] <;> omega

/-- A length and an id take at least a byte each. -/
theorem Carries.two_le_length {frame : Bytes} {packet : Packet} (carries : Carries frame packet) :
    2 ≤ frame.length := by
  obtain ⟨lead, idBytes, spells, rfl⟩ := carries
  have length := spells.whole.complete.length_pos
  have id := spells.id.length_pos
  simp only [List.length_append]
  omega

end Frame

namespace Packet

/-! ## What decoding refuses -/

section Lead

variable {lead : Bytes}

/-- A declared length that is not acceptable is refused with only the length taken. -/
theorem decode_checkLength_error (complete : VarInt.Complete lead) (rest : Bytes)
    {fault : FrameFault}
    (refused : checkLength (VarInt.value lead).toNat = .error (.malformedFrame fault)) :
    decode (lead ++ rest) = .error (.malformedFrame fault) rest := by
  have length := adaptExcept_ok (fun e => ProtocolError.malformedFrame (.lengthUnreadable e))
    (VarInt.read_complete complete rest)
  unfold decode
  rw [bind_ok length, refused]
  rfl

theorem decode_incomplete (complete : VarInt.Complete lead) {rest : Bytes}
    (nonempty : 0 < (VarInt.value lead).toNat)
    (bounded : (VarInt.value lead).toNat ≤ 2097151)
    (short : rest.length < (VarInt.value lead).toNat) :
    decode (lead ++ rest) =
      .error (.malformedFrame (.incomplete (VarInt.value lead).toNat rest.length)) rest := by
  have length := adaptExcept_ok (fun e => ProtocolError.malformedFrame (.lengthUnreadable e))
    (VarInt.read_complete complete rest)
  unfold decode
  rw [bind_ok length, checkLength_ok nonempty bounded, bind_ok (ofExcept_ok () _), bind_get,
    if_pos short]
  rfl

theorem decode_idUnreadable {body left : Bytes} {cause : VarIntError}
    (whole : Frame.IsWhole lead body) (unreadable : VarInt.read body = .error cause left)
    (rest : Bytes) :
    decode (lead ++ (body ++ rest)) = .error (.malformedFrame (.idUnreadable cause)) rest := by
  have verdict : decodeBody body = .error (.malformedFrame (.idUnreadable cause)) := by
    simp only [decodeBody, unreadable]
  rw [decode_whole whole, verdict]
  rfl

end Lead

/-- What is refused as a frame is not decoded, for its cause and with the same bytes left. -/
theorem decode_of_refuses {bytes rest : Bytes} {fault : FrameFault}
    (refuses : Frame.Refuses bytes fault rest) :
    decode bytes = .error (.malformedFrame fault) rest := by
  cases refuses with
  | lengthTorn short all =>
      unfold decode
      exact bind_error (adaptExcept_error _ (VarInt.read_short short all))
  | lengthOverlong full all =>
      unfold decode
      exact bind_error (adaptExcept_error _ (VarInt.read_overlong full all rest))
  | empty complete zero =>
      refine decode_checkLength_error complete rest ?_
      rw [checkLength, if_pos zero]
  | tooLong complete large =>
      refine decode_checkLength_error complete rest ?_
      rw [checkLength, maxFrameLength, if_neg (by omega), if_pos large]
  | incomplete complete nonempty bounded short =>
      exact decode_incomplete complete nonempty bounded short
  | idTorn whole short all => exact decode_idUnreadable whole (VarInt.read_short short all) rest
  | idOverlong whole full all =>
      exact decode_idUnreadable whole (VarInt.read_overlong full all _) rest

/-- **Decoding fails just where a frame is refused.** -/
theorem decode_eq_error_iff {bytes rest : Bytes} {e : ProtocolError} :
    decode bytes = .error e rest ↔
      ∃ fault, e = .malformedFrame fault ∧ Frame.Refuses bytes fault rest := by
  constructor
  · intro failed
    rcases Frame.carries_or_refuses bytes with
      ⟨frame, packet, behind, carries, split⟩ | ⟨fault, left, refuses⟩
    · rw [decode_eq_ok_iff.2 ⟨frame, carries, split⟩] at failed
      cases failed
    · have decided := decode_of_refuses refuses
      rw [failed] at decided
      cases decided
      exact ⟨fault, rfl, refuses⟩
  · rintro ⟨fault, rfl, refuses⟩
    exact decode_of_refuses refuses

/-! ## One packet after the other -/

theorem length_of_decode_ok {bytes rest : Bytes} {packet : Packet}
    (decoded : decode bytes = .ok packet rest) : rest.length + 2 ≤ bytes.length := by
  obtain ⟨frame, carries, rfl⟩ := decode_eq_ok_iff.1 decoded
  have two := carries.two_le_length
  rw [List.length_append]
  omega

/-- Decoding until it fails comes to an end, after no more packets than there are pairs of bytes. -/
theorem exists_repeated_decode (bytes : Bytes) :
    ∃ packets e left, Repeated decode bytes packets e left ∧
      2 * packets.length + left.length ≤ bytes.length := by
  induction size : bytes.length using Nat.strongRecOn generalizing bytes with
  | ind n ih =>
      subst size
      cases decoded : decode bytes with
      | error e left =>
          refine ⟨[], e, left, .failed decoded, ?_⟩
          obtain ⟨fault, -, refuses⟩ := decode_eq_error_iff.1 decoded
          rw [List.length_nil, Nat.mul_zero, Nat.zero_add]
          exact refuses.length_le
      | ok packet rest =>
          have shorter := length_of_decode_ok decoded
          obtain ⟨packets, e, left, more, bound⟩ := ih rest.length (by omega) rest rfl
          refine ⟨packet :: packets, e, left, .answered decoded more, ?_⟩
          rw [List.length_cons]
          omega

/-- **Decoding isolates one frame.**  It answers a packet just where a frame of the packet stands in
front and leaves what is behind; it fails just where a frame is refused, and leaves what is behind
that.  On a whole frame there is one verdict, whatever follows the frame.  Decoding one packet after
the other ends, with at least two bytes taken for each. -/
theorem decode_isolates_frame (bytes : Bytes) :
    (∀ packet rest, decode bytes = .ok packet rest ↔
        ∃ frame, Frame.Carries frame packet ∧ 2 ≤ frame.length ∧ bytes = frame ++ rest) ∧
      (∀ e rest, decode bytes = .error e rest ↔
        ∃ fault, e = .malformedFrame fault ∧ Frame.Refuses bytes fault rest) ∧
      (∀ lead body, Frame.IsWhole lead body → ∃ verdict : Except ProtocolError Packet,
        ∀ rest, decode (lead ++ (body ++ rest)) =
          (MonadExcept.ofExcept verdict : EStateM ProtocolError Bytes Packet) rest) ∧
      ∃ packets e left, Repeated decode bytes packets e left ∧
        2 * packets.length + left.length ≤ bytes.length := by
  refine ⟨fun packet rest => ?_, fun e rest => decode_eq_error_iff, fun lead body whole => ?_,
    exists_repeated_decode bytes⟩
  · rw [decode_eq_ok_iff]
    constructor
    · rintro ⟨frame, carries, split⟩
      exact ⟨frame, carries, carries.two_le_length, split⟩
    · rintro ⟨frame, carries, -, split⟩
      exact ⟨frame, carries, split⟩
  · exact ⟨decodeBody body, decode_whole whole⟩

/-- An id that is torn by the end of its body is not completed from the frame behind. -/
example : decode [1, 128, 1, 0] =
    .error (.malformedFrame (.idUnreadable .bufferTooShort)) [1, 0] := rfl

end Packet

end GameGateway
