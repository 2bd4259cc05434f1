import GameGateway.Proofs.StateAction
import GameGateway.Proofs.Wire.VarIntGrammar
import GameGateway.Wire.Packet

/-!
# The grammar of frames

A frame is whole if its length is a complete varint of an acceptable value and the body has that
many bytes.  A length is refused if it is complete and its value is zero or above 2097151, or if all
the five bytes that it may have are marked.  `Packet.decode` takes a whole frame off the front
of a byte string, and of a refused length only the length itself.
-/

namespace GameGateway

namespace Frame

/-- The length and the body of a frame that is all there and neither empty nor too long. -/
structure IsWhole (lead body : Bytes) : Prop where
  complete : VarInt.Complete lead
  declared : (VarInt.value lead).toNat = body.length
  nonempty : 0 < body.length
  bounded : body.length ≤ 2097151

/-- A length that no frame may have. -/
def IsRefused (lead : Bytes) : Prop :=
  (VarInt.Complete lead ∧
      ((VarInt.value lead).toNat = 0 ∨ 2097151 < (VarInt.value lead).toNat)) ∨
    lead.length = 5 ∧ VarInt.AllMarked lead

/-- Whether a byte string starts with a whole frame or with a refused length. -/
def Opens (bytes : Bytes) : Prop :=
  (∃ lead body rest, IsWhole lead body ∧ bytes = lead ++ (body ++ rest)) ∨
    ∃ lead rest, IsRefused lead ∧ bytes = lead ++ rest

/-- A byte string that decides nothing ends inside the length or inside the body. -/
theorem torn_cases {bytes : Bytes} (undecided : ¬ Opens bytes) :
    (bytes.length < 5 ∧ VarInt.AllMarked bytes) ∨
      ∃ lead part, bytes = lead ++ part ∧ VarInt.Complete lead ∧
        0 < (VarInt.value lead).toNat ∧ (VarInt.value lead).toNat ≤ 2097151 ∧
        part.length < (VarInt.value lead).toNat := by
  rcases VarInt.opening_cases 5 bytes with
    ⟨lead, rest, rfl, complete⟩ | ⟨lead, rest, rfl, full, all⟩ | short
  · by_cases refused : (VarInt.value lead).toNat = 0 ∨ 2097151 < (VarInt.value lead).toNat
    · exact absurd (.inr ⟨lead, rest, .inl ⟨complete, refused⟩, rfl⟩) undecided
    · refine .inr ⟨lead, rest, rfl, complete, by omega, by omega, Nat.lt_of_not_le fun enough => ?_⟩
      have taken : (rest.take (VarInt.value lead).toNat).length = (VarInt.value lead).toNat := by
        rw [List.length_take]
        omega
      refine undecided (.inl ⟨lead, rest.take (VarInt.value lead).toNat,
        rest.drop (VarInt.value lead).toNat, ⟨complete, taken.symm, by omega, by omega⟩, ?_⟩)
      rw [List.take_append_drop]
  · exact absurd (.inr ⟨lead, rest, .inr ⟨full, all⟩, rfl⟩) undecided
  · exact .inl short

end Frame

namespace Packet

theorem checkLength_ok {length : Nat} (nonempty : 0 < length) (bounded : length ≤ 2097151) :
    checkLength length = .ok () := by
  rw [checkLength, maxFrameLength, if_neg (by omega), if_neg (by omega)]

theorem checkLength_refused {length : Nat} (refused : length = 0 ∨ 2097151 < length) :
    ∃ fault, checkLength length = .error (.malformedFrame fault) := by
  unfold checkLength maxFrameLength
  split
  · exact ⟨_, rfl⟩
  · rw [if_pos (by omega)]
    exact ⟨_, rfl⟩

theorem decodeBody_eq_error {body : Bytes} {e : ProtocolError}
    (failed : decodeBody body = .error e) : ∃ fault, e = .malformedFrame fault := by
  unfold decodeBody at failed
  split at failed
  · cases failed
  · cases failed
    exact ⟨_, rfl⟩

/-- A whole frame is taken off the front, and its body decides. -/
theorem decode_whole {lead body : Bytes} (whole : Frame.IsWhole lead body) (rest : Bytes) :
    decode (lead ++ (body ++ rest)) =
      (MonadExcept.ofExcept (decodeBody body) : EStateM ProtocolError Bytes Packet) rest := by
  have length := adaptExcept_ok (fun e => ProtocolError.malformedFrame (.lengthUnreadable e))
    (VarInt.read_complete whole.complete (body ++ rest))
  unfold decode
  rw [bind_ok length, whole.declared, checkLength_ok whole.nonempty whole.bounded,
    bind_ok (ofExcept_ok () _), bind_get]
  have enough : ¬ (body ++ rest).length < body.length := by simp
  simp only [if_neg enough, bind_set, List.drop_left, List.take_left]

/-- Of a refused length only the length itself is taken. -/
theorem decode_refused {lead : Bytes} (refused : Frame.IsRefused lead) (rest : Bytes) :
    ∃ fault, decode (lead ++ rest) = .error (.malformedFrame fault) rest := by
  unfold decode
  rcases refused with ⟨complete, value⟩ | ⟨full, all⟩
  · have length := adaptExcept_ok (fun e => ProtocolError.malformedFrame (.lengthUnreadable e))
      (VarInt.read_complete complete rest)
    obtain ⟨fault, check⟩ := checkLength_refused value
    rw [bind_ok length, check]
    exact ⟨fault, rfl⟩
  · have length := adaptExcept_error (fun e => ProtocolError.malformedFrame (.lengthUnreadable e))
      (VarInt.read_overlong full all rest)
    rw [bind_error length]
    exact ⟨_, rfl⟩

end Packet

end GameGateway
