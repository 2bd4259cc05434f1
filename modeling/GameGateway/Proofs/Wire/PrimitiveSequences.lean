import GameGateway.Proofs.Wire.TextGrammar
import GameGateway.Proofs.Wire.VarIntWriting
import Mathlib.Order.Bounds.Basic

/-!
# Primitive values one behind the other

Numbers, signed numbers and texts each have a writer and a reader (`Primitive.written`,
`Primitive.Kind.read`).  What is written for a value says itself where it ends, so its reader takes
just that off the front, whatever stands behind it (`Primitive.read_written`).  Values of any types
that were written one behind the other are therefore read back by the readers of their types in
turn, which leave what was put behind them (`Primitive.readAll_writtenAll`).

Nothing that is read as a number is shorter than what is written for it (`VarInt.isLeast_size`).
-/

namespace GameGateway

namespace VarInt

/-! ## What is written is read back -/

theorem read_encode (n : UInt32) (rest : Bytes) : read (encode n ++ rest) = .ok n rest := by
  rw [read_complete (encode_complete n), value_encode]

theorem readSigned_encodeSigned (n : Int32) (rest : Bytes) :
    readSigned (encodeSigned n ++ rest) = .ok n rest := by
  rw [encodeSigned, readSigned_complete (encode_complete n.toUInt32), value_encode,
    Int32.toInt32_toUInt32]

/-- What is written for a text is one, if its length is a number. -/
theorem startsWithText_encodeString {text : String} (fits : text.utf8ByteSize < 2 ^ 32)
    (rest : Bytes) : StartsWithText (encodeString text ++ rest) text rest :=
  ⟨encode (UInt32.ofNat text.utf8ByteSize), encode_complete _, value_textLength fits, by
    rw [encodeString, List.append_assoc]⟩

theorem readString_encodeString {text : String} (fits : text.utf8ByteSize < 2 ^ 32)
    (rest : Bytes) : readString (encodeString text ++ rest) = .ok text rest :=
  readString_of_startsWithText (startsWithText_encodeString fits rest)

/-! ## How many bytes are written -/

/-- The bytes that are written for a number are as few as are read as that number. -/
theorem isLeast_size (n : UInt32) :
    IsLeast {k | ∃ lead : Bytes, lead.length = k ∧ k ≤ maxBytes ∧ read lead = .ok n []}
      (size n) := by
  constructor
  · have read : read (encode n) = .ok n [] := by
      rw [← List.append_nil (encode n), read_encode]
    refine ⟨encode n, length_encode n, ?_, read⟩
    rw [← length_encode]
    exact (encode_complete n).length_le
  · rintro k ⟨lead, rfl, -, answered⟩
    obtain ⟨lead', same, complete, value⟩ := read_eq_ok_iff.1 answered
    rw [List.append_nil] at same
    subst same
    rw [← length_encode]
    exact length_encode_le complete (Nat.le_of_eq (congrArg UInt32.toNat value.symm))

/-- The two's complement of a negative number needs the thirty-second bit. -/
theorem length_encodeSigned_of_neg {n : Int32} (negative : n < 0) :
    (encodeSigned n).length = maxBytes := by
  have sign : n.toBitVec.toInt < 0 := Int32.lt_iff_toInt_lt.1 negative
  have large : 2 ^ 32 ≤ 2 * n.toUInt32.toNat := BitVec.toInt_neg_iff.1 sign
  rw [encodeSigned, length_encode]
  unfold size
  simp only [UInt32.le_iff_toNat_le, UInt32.reduceToNat]
  rw [if_neg (by omega), if_neg (by omega), if_neg (by omega), if_neg (by omega)]
  rfl

end VarInt

/-! ## Values of several types -/

/-- A primitive value. -/
inductive Primitive
  | unsigned (n : UInt32)
  | signed (n : Int32)
  | text (text : String)
  deriving DecidableEq

namespace Primitive

/-- The types of primitive values. -/
inductive Kind
  | unsigned
  | signed
  | text
  deriving DecidableEq, Repr

/-- The reader of a type. -/
def Kind.read : Kind → VarInt.Reader Primitive
  | unsigned => Primitive.unsigned <$> VarInt.read
  | signed => Primitive.signed <$> VarInt.readSigned
  | text => Primitive.text <$> VarInt.readString

def kind : Primitive → Kind
  | unsigned _ => .unsigned
  | signed _ => .signed
  | text _ => .text

/-- What is written for a value. -/
def written : Primitive → Bytes
  | unsigned n => VarInt.encode n
  | signed n => VarInt.encodeSigned n
  | text s => VarInt.encodeString s

/-- Numbers can always be written, texts if their length is a number. -/
def Fits : Primitive → Prop
  | unsigned _ => True
  | signed _ => True
  | text s => s.utf8ByteSize < 2 ^ 32

instance : DecidablePred Fits
  | unsigned _ => inferInstanceAs (Decidable True)
  | signed _ => inferInstanceAs (Decidable True)
  | text s => inferInstanceAs (Decidable (s.utf8ByteSize < 2 ^ 32))

/-- What is written for values one behind the other. -/
def writtenAll (values : List Primitive) : Bytes :=
  values.flatMap written

/-- Reads values of some types one behind the other. -/
def readAll (kinds : List Kind) : VarInt.Reader (List Primitive) :=
  kinds.mapM Kind.read

variable {value : Primitive} {values : List Primitive}

/-- What is written for a value is read back, and what is behind it is left. -/
theorem read_written (fits : value.Fits) (rest : Bytes) :
    value.kind.read (value.written ++ rest) = .ok value rest := by
  cases value with
  | unsigned n =>
      simp only [kind, Kind.read, written, Functor.map, EStateM.map, VarInt.read_encode]
  | signed n =>
      simp only [kind, Kind.read, written, Functor.map, EStateM.map,
        VarInt.readSigned_encodeSigned]
  | text s =>
      simp only [kind, Kind.read, written, Functor.map, EStateM.map,
        VarInt.readString_encodeString fits]

theorem readAll_writtenAll (fits : ∀ value ∈ values, value.Fits) (rest : Bytes) :
    readAll (values.map kind) (writtenAll values ++ rest) = .ok values rest := by
  induction values with
  | nil => rfl
  | cons value values ih =>
      obtain ⟨first, others⟩ := List.forall_mem_cons.1 fits
      have read := read_written first (writtenAll values ++ rest)
      rw [writtenAll, List.flatMap_cons, List.append_assoc, ← writtenAll, List.map_cons, readAll,
        List.mapM_cons, bind_ok read, ← readAll, bind_ok (ih others)]
      rfl

/-- **Writers and readers of primitive values invert each other.**

* Values that were written one behind the other are read back by reading their types in turn, and
  what was put behind them is left.
* A number takes as many bytes as its size says, between one and five, and is spelled by no varint
  of fewer bytes.
* A negative number takes five bytes. -/
theorem primitives_read_back :
    (∀ values : List Primitive, (∀ value ∈ values, value.Fits) → ∀ rest,
      readAll (values.map kind) (writtenAll values ++ rest) = .ok values rest) ∧
    (∀ n : UInt32, (VarInt.encode n).length = VarInt.size n ∧
      1 ≤ VarInt.size n ∧ VarInt.size n ≤ 5 ∧
      IsLeast {k | ∃ lead : Bytes, lead.length = k ∧ k ≤ 5 ∧ VarInt.read lead = .ok n []}
        (VarInt.size n)) ∧
    ∀ n : Int32, n < 0 → (VarInt.encodeSigned n).length = 5 := by
  refine ⟨fun values fits rest => readAll_writtenAll fits rest, fun n => ?_,
    fun n negative => VarInt.length_encodeSigned_of_neg negative⟩
  have complete := VarInt.encode_complete n
  have least := complete.length_pos
  have most := complete.length_le
  rw [VarInt.length_encode] at least most
  exact ⟨VarInt.length_encode n, least, most, VarInt.isLeast_size n⟩

/-- A list with both ends of the signed numbers, a text of two characters and an empty one, with
bytes behind it that would go on as a varint. -/
theorem primitives_read_back_mixed :
    let values : List Primitive :=
      [.unsigned 16384, .signed (-2147483648), .text "é日", .signed 2147483647, .text "",
        .unsigned 127]
    (∀ value ∈ values, value.Fits) ∧
      readAll (values.map kind) (writtenAll values ++ [0x80, 0xFF]) = .ok values [0x80, 0xFF] ∧
      (-2147483648 : Int32) < 0 ∧ (VarInt.encodeSigned (-2147483648)).length = 5 := by
  intro values
  obtain ⟨back, -, negative⟩ := primitives_read_back
  have fits : ∀ value ∈ values, value.Fits := by decide
  exact ⟨fits, back values fits _, by decide, negative _ (by decide)⟩

end Primitive

end GameGateway
