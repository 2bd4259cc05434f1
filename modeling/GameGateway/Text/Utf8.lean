import GameGateway.Bytes

/-!
# Text on the wire

Text travels as UTF-8.  `Utf8.encode` gives the bytes of a text, `Utf8.decode?` reads them back and
refuses every byte string that is no UTF-8; `Utf8.decode?_eq_some_iff` says that it accepts exactly
what `Utf8.encode` writes, so no two byte strings read as one text.
-/

namespace GameGateway.Utf8

/-- The UTF-8 bytes of a text. -/
def encode (text : String) : Bytes :=
  text.toByteArray.data.toList

/-- The text whose UTF-8 bytes are given, if they are UTF-8. -/
def decode? (bytes : Bytes) : Option String :=
  String.fromUTF8? bytes.toByteArray

theorem toByteArray_encode (text : String) : (encode text).toByteArray = text.toByteArray := by
  apply ByteArray.ext
  simp [encode, List.data_toByteArray]

theorem decode?_eq_some_iff {bytes : Bytes} {text : String} :
    decode? bytes = some text ↔ bytes = encode text := by
  constructor
  · intro h
    have valid : bytes.toByteArray = text.toByteArray := by
      unfold decode? String.fromUTF8? at h
      split at h
      · rw [← Option.some.inj h]
        rfl
      · contradiction
    simp [encode, ← valid, List.data_toByteArray]
  · rintro rfl
    rw [decode?, toByteArray_encode, String.fromUTF8?, dif_pos text.isValidUTF8]
    rfl

theorem decode?_eq_none_iff {bytes : Bytes} :
    decode? bytes = none ↔ ¬ ∃ text, bytes = encode text := by
  simp only [Option.eq_none_iff_forall_ne_some, ne_eq, decode?_eq_some_iff, not_exists]

@[simp] theorem decode?_encode (text : String) : decode? (encode text) = some text :=
  decode?_eq_some_iff.2 rfl

theorem encode_inj {text other : String} : encode text = encode other ↔ text = other := by
  constructor
  · intro same
    have decoded := decode?_eq_some_iff.2 same
    rw [decode?_encode] at decoded
    exact Option.some.inj decoded
  · rintro rfl
    rfl

end GameGateway.Utf8
