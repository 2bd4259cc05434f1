import GameGateway.Proofs.Wire.PrimitiveSequences
import Mathlib.Algebra.BigOperators.Ring.Finset

/-!
# What the primitive readers take off any bytes

A reader takes a part off the front of a byte string also where it fails, and the next read goes on
behind that part.  `VarInt.TakesFront` says of a reader that nothing is lost between the part and
what is left, and that it goes by the part and by the number of bytes behind it only: with as many
other bytes there, it takes the same part and comes to the same.  Both are kept when readers are run
one after the other (`VarInt.TakesFront.run`).

`VarInt.ReadsNumber` and `VarInt.ReadsText` say, byte by byte, what is answered and how much is taken
on every byte string: where a number ends, what its digits sum up to, and which of the failures it is
otherwise.
-/

namespace GameGateway

namespace VarInt

variable {α β : Type}

/-! ## Parts that are taken off -/

/-- The bytes in front of those that a reader leaves. -/
def takenBy (reader : Reader α) (bytes : Bytes) : Bytes :=
  bytes.take (bytes.length - (stateOf (reader bytes)).length)

/-- What each of some readers takes off, each of them run where the one before it left off. -/
def partsTakenBy : List (Reader α) → Bytes → List Bytes
  | [], _ => []
  | reader :: readers, bytes =>
    takenBy reader bytes :: partsTakenBy readers (stateOf (reader bytes))

theorem takenBy_eq {reader : Reader α} {bytes taken : Bytes}
    (split : taken ++ stateOf (reader bytes) = bytes) : takenBy reader bytes = taken := by
  have length := congrArg List.length split
  rw [List.length_append] at length
  have cut : bytes.length - (stateOf (reader bytes)).length = taken.length := by omega
  rw [takenBy, cut]
  exact (List.prefix_iff_eq_take.1 ⟨_, split⟩).symm

/-- What a reader takes and leaves, from what it comes to behind a part. -/
theorem takenBy_and_left {reader : Reader α} {taken left : Bytes} {outcome : Except VarIntError α}
    (run : reader (taken ++ left) = (MonadExcept.ofExcept outcome : Reader α) left) :
    takenBy reader (taken ++ left) = taken ∧ stateOf (reader (taken ++ left)) = left := by
  have leaves : stateOf (reader (taken ++ left)) = left := by rw [run, stateOf_ofExcept]
  exact ⟨takenBy_eq (by rw [leaves]), leaves⟩

/-- A reader that takes a part off the front of every byte string, and does not look at the bytes
behind it but counts them. -/
structure TakesFront (reader : Reader α) : Prop where
  takenBy_append : ∀ bytes, takenBy reader bytes ++ stateOf (reader bytes) = bytes
  unseen : ∀ bytes other, other.length = (stateOf (reader bytes)).length →
    reader (takenBy reader bytes ++ other) = onState (fun _ => other) (reader bytes)

namespace TakesFront

variable {reader : Reader α}

/-- It is enough to give the part and the outcome for every byte string. -/
theorem of_front (front : ∀ bytes, ∃ taken left, ∃ outcome : Except VarIntError α,
      bytes = taken ++ left ∧ ∀ other, other.length = left.length →
        reader (taken ++ other) = (MonadExcept.ofExcept outcome : Reader α) other) :
    TakesFront reader where
  takenBy_append bytes := by
    obtain ⟨taken, left, outcome, rfl, run⟩ := front bytes
    obtain ⟨part, leaves⟩ := takenBy_and_left (run left rfl)
    rw [part, leaves]
  unseen bytes other length := by
    obtain ⟨taken, left, outcome, rfl, run⟩ := front bytes
    obtain ⟨part, leaves⟩ := takenBy_and_left (run left rfl)
    rw [leaves] at length
    rw [part, run other length, run left rfl, onState_ofExcept]

theorem map (f : α → β) (takes : TakesFront reader) : TakesFront (f <$> reader) := by
  have same bytes : takenBy (f <$> reader) bytes = takenBy reader bytes := by
    rw [takenBy, stateOf_map, ← takenBy]
  refine ⟨fun bytes => ?_, fun bytes other length => ?_⟩
  · rw [same, stateOf_map, takes.takenBy_append]
  · rw [stateOf_map] at length
    rw [same]
    simp only [Functor.map, EStateM.map, takes.unseen bytes other length]
    cases reader bytes <;> rfl

/-- With other bytes behind it, the same part is taken off and the other bytes are left. -/
theorem takenBy_unseen (takes : TakesFront reader) {bytes other : Bytes}
    (length : other.length = (stateOf (reader bytes)).length) :
    takenBy reader (takenBy reader bytes ++ other) = takenBy reader bytes :=
  takenBy_eq (by rw [takes.unseen bytes other length, stateOf_onState])

/-- Readers that are run one after the other, also behind failures, cut the bytes into the parts
that they take and what is left, and none of them looks at what is left. -/
theorem run {readers : List (Reader α)} (each : ∀ reader ∈ readers, TakesFront reader)
    (bytes : Bytes) :
    (partsTakenBy readers bytes).flatten ++ stateAfter readers bytes = bytes ∧
      ∀ other, other.length = (stateAfter readers bytes).length →
        let elsewhere := (partsTakenBy readers bytes).flatten ++ other
        outcomes readers elsewhere = outcomes readers bytes ∧
          partsTakenBy readers elsewhere = partsTakenBy readers bytes ∧
          stateAfter readers elsewhere = other := by
  induction readers generalizing bytes with
  | nil => exact ⟨rfl, fun other _ => ⟨rfl, rfl, rfl⟩⟩
  | cons reader readers ih =>
      obtain ⟨takes, others⟩ := List.forall_mem_cons.1 each
      obtain ⟨whole, unseen⟩ := ih others (stateOf (reader bytes))
      have parts : (partsTakenBy (reader :: readers) bytes).flatten =
          takenBy reader bytes ++ (partsTakenBy readers (stateOf (reader bytes))).flatten := by
        rw [partsTakenBy, List.flatten_cons]
      have after : stateAfter (reader :: readers) bytes =
          stateAfter readers (stateOf (reader bytes)) := List.foldl_cons ..
      rw [parts, after]
      refine ⟨?_, fun other length => ?_⟩
      · rw [List.append_assoc, whole, takes.takenBy_append]
      · obtain ⟨outcomes', parts', after'⟩ := unseen other length
        -- what the other readers take is as unseen by the first one as what they leave
        have behind : ((partsTakenBy readers (stateOf (reader bytes))).flatten ++ other).length =
            (stateOf (reader bytes)).length := by
          rw [List.length_append, length, ← List.length_append, whole]
        have first := takes.unseen bytes _ behind
        have part := takes.takenBy_unseen behind
        rw [List.append_assoc]
        refine ⟨?_, ?_, ?_⟩
        · rw [outcomes, first, outcomeOf_onState, stateOf_onState, outcomes', outcomes]
        · rw [partsTakenBy, part, first, stateOf_onState, parts', partsTakenBy]
        · rw [stateAfter, List.foldl_cons, first, stateOf_onState, ← stateAfter, after']

end TakesFront

/-! ## The readers take off the front -/

/-- What is no number is refused with any other bytes behind what is taken. -/
theorem Refuses.front {bytes left : Bytes} {cause : VarIntError}
    (refuses : Refuses bytes cause left) :
    ∃ taken, bytes = taken ++ left ∧ ∀ other, other.length = left.length →
      Refuses (taken ++ other) cause other := by
  cases refuses with
  | torn short all =>
      refine ⟨bytes, (List.append_nil bytes).symm, fun other length => ?_⟩
      rw [List.eq_nil_of_length_eq_zero length, List.append_nil]
      exact .torn short all
  | @overlong lead _ full all => exact ⟨lead, rfl, fun other _ => .overlong full all⟩

/-- What is no text is refused in the same way, and says how many bytes there are where they are too
few. -/
theorem RefusesText.front {bytes left : Bytes} {cause : VarIntError}
    (refuses : RefusesText bytes cause left) :
    ∃ taken, bytes = taken ++ left ∧ ∀ other, other.length = left.length →
      RefusesText (taken ++ other) cause other := by
  cases refuses with
  | length refuses =>
      obtain ⟨taken, split, elsewhere⟩ := refuses.front
      exact ⟨taken, split, fun other length => .length (elsewhere other length)⟩
  | @short lead _ complete short =>
      refine ⟨lead, rfl, fun other length => ?_⟩
      rw [← length] at short ⊢
      exact .short complete short
  | @invalid lead text _ complete declared invalid =>
      refine ⟨lead ++ text, (List.append_assoc ..).symm, fun other _ => ?_⟩
      rw [List.append_assoc]
      exact .invalid complete declared invalid

theorem takesFront_read : TakesFront read := by
  refine .of_front fun bytes => ?_
  rcases complete_or_refuses bytes with ⟨lead, rest, rfl, complete⟩ | ⟨cause, left, refuses⟩
  · exact ⟨lead, rest, .ok (value lead), rfl, fun other _ => read_complete complete other⟩
  · obtain ⟨taken, split, elsewhere⟩ := refuses.front
    exact ⟨taken, left, .error cause, split, fun other length =>
      read_of_refuses (elsewhere other length)⟩

theorem takesFront_readSigned : TakesFront readSigned :=
  takesFront_read.map UInt32.toInt32

theorem takesFront_readString : TakesFront readString := by
  refine .of_front fun bytes => ?_
  rcases startsWithText_or_refuses bytes with
    ⟨text, rest, lead, complete, declared, rfl⟩ | ⟨cause, left, refuses⟩
  · refine ⟨lead ++ Utf8.encode text, rest, .ok text, (List.append_assoc ..).symm,
      fun other _ => ?_⟩
    rw [List.append_assoc]
    exact readString_of_startsWithText ⟨lead, complete, declared, rfl⟩
  · obtain ⟨taken, split, elsewhere⟩ := refuses.front
    exact ⟨taken, left, .error cause, split, fun other length =>
      readString_of_refuses (elsewhere other length)⟩

/-! ## Numbers -/

/-- The number that bytes spell is the sum of their digits, each by its place. -/
theorem spelled_take (bytes : Bytes) (n : Nat) :
    spelled (bytes.take n) =
      ∑ i ∈ Finset.range n, (bytes.getD i 0).toNat % 128 * 128 ^ i := by
  induction n generalizing bytes with
  | zero => rw [List.take_zero, spelled, Finset.range_zero, Finset.sum_empty]
  | succ n ih =>
      cases bytes with
      | nil => simp [spelled]
      | cons b bytes =>
          have places i : (bytes.getD i 0).toNat % 128 * 128 ^ (i + 1) =
              128 * ((bytes.getD i 0).toNat % 128 * 128 ^ i) := by
            rw [Nat.pow_succ, ← Nat.mul_assoc, Nat.mul_comm]
          rw [List.take_succ_cons, spelled, ih, Finset.sum_range_succ']
          simp only [List.getD_cons_succ, List.getD_cons_zero, places, ← Finset.mul_sum]
          rw [Nat.pow_zero, Nat.mul_one, Nat.add_comm]

/-- The bytes up to the first unmarked one are a complete varint, if they are few enough. -/
theorem complete_take {bytes : Bytes} {k : Nat} (few : k < 5)
    (first : bytes.findIdx? (· < 128) = some k) : Complete (bytes.take (k + 1)) := by
  obtain ⟨inside, unmarked, before⟩ := List.findIdx?_eq_some_iff_getElem.1 first
  refine ⟨bytes.take k, bytes[k], List.take_succ_eq_append_getElem inside, ?_, fun b taken => ?_,
    of_decide_eq_true unmarked⟩
  · rw [List.length_take]
    omega
  · obtain ⟨i, near, rfl⟩ := List.mem_take_iff_getElem.1 taken
    have marked := before i (by omega)
    simpa [UInt8.not_lt] using marked

/-- One of the first bytes is unmarked, if a complete varint stands in front. -/
theorem CompleteWithin.exists_unmarked {limit : Nat} {lead : Bytes}
    (complete : CompleteWithin limit lead) (rest : Bytes) :
    ∃ b ∈ (lead ++ rest).take limit, b < 128 := by
  have front : lead <+: (lead ++ rest).take limit :=
    List.prefix_take_iff.2 ⟨List.prefix_append lead rest, complete.length_le⟩
  obtain ⟨before, last, rfl, -, -, unmarked⟩ := complete
  exact ⟨last, front.mem (by simp), unmarked⟩

theorem Refuses.allMarked_take {bytes left : Bytes} {cause : VarIntError}
    (refuses : Refuses bytes cause left) : AllMarked (bytes.take 5) := by
  cases refuses with
  | torn short all => rwa [List.take_of_length_le (Nat.le_of_lt short)]
  | overlong full all => rwa [List.take_left' full]

/-- What a reader of numbers makes of a byte string.  `Stands s n` says that `n` is the number for
digits that sum up to `s`. -/
structure ReadsNumber (reader : Reader α) (Stands : Nat → α → Prop) (bytes : Bytes) : Prop where
  /-- A number is read just where one of the first five bytes is unmarked. -/
  ok_iff : (∃ n rest, reader bytes = .ok n rest) ↔ ∃ b ∈ bytes.take 5, b < 128
  /-- The bytes up to the first unmarked one are taken, and their digits make up the number. -/
  ok : ∀ k < 5, bytes.findIdx? (· < 128) = some k → ∃ n,
    reader bytes = .ok n (bytes.drop (k + 1)) ∧
      Stands (∑ i ∈ Finset.range (k + 1), (bytes.getD i 0).toNat % 128 * 128 ^ i) n
  /-- Fewer than five bytes that are all marked are taken. -/
  torn : (∀ b ∈ bytes.take 5, 128 ≤ b) → bytes.length < 5 →
    reader bytes = .error .bufferTooShort []
  /-- Five marked bytes are taken, whatever follows them. -/
  overlong : (∀ b ∈ bytes.take 5, 128 ≤ b) → 5 ≤ bytes.length →
    reader bytes = .error (.tooManyBytes 5) (bytes.drop 5)

/-- A reader that goes by the grammar of numbers reads them in this way. -/
theorem ReadsNumber.of_grammar {reader : Reader α} {Stands : Nat → α → Prop} (number : Nat → α)
    (complete : ∀ {lead}, Complete lead → ∀ rest,
      reader (lead ++ rest) = .ok (number (spelled lead)) rest)
    (refuses : ∀ {bytes cause left}, Refuses bytes cause left → reader bytes = .error cause left)
    (stands : ∀ s, Stands s (number s)) (bytes : Bytes) : ReadsNumber reader Stands bytes where
  ok_iff := by
    rcases complete_or_refuses bytes with ⟨lead, rest, rfl, whole⟩ | ⟨cause, left, refused⟩
    · exact iff_of_true ⟨_, rest, complete whole rest⟩ (whole.exists_unmarked rest)
    · refine iff_of_false ?_ ?_
      · rintro ⟨n, rest, answered⟩
        rw [refuses refused] at answered
        cases answered
      · rintro ⟨b, front, unmarked⟩
        exact not_lt_of_marked (refused.allMarked_take b front) unmarked
  ok k few first := by
    refine ⟨number (spelled (bytes.take (k + 1))), ?_, ?_⟩
    · have run := complete (complete_take few first) (bytes.drop (k + 1))
      rwa [List.take_append_drop] at run
    · rw [spelled_take]
      exact stands _
  torn all few := by
    rw [List.take_of_length_le (Nat.le_of_lt few)] at all
    exact refuses (.torn few all)
  overlong all many := by
    have full : (bytes.take 5).length = 5 := by
      rw [List.length_take, Nat.min_eq_left many]
    have run := refuses (.overlong full all : Refuses (bytes.take 5 ++ bytes.drop 5) _ _)
    rwa [List.take_append_drop] at run

theorem readsNumber_read (bytes : Bytes) :
    ReadsNumber read (fun s n => n.toNat = s % 2 ^ 32) bytes :=
  .of_grammar UInt32.ofNat read_complete read_of_refuses (fun _ => UInt32.toNat_ofNat') bytes

/-- Digits as two's complement. -/
theorem toInt_toInt32_ofNat (s : Nat) :
    (UInt32.ofNat s).toInt32.toInt = (s : Int).bmod (2 ^ 32) :=
  BitVec.toInt_ofNat s

theorem readsNumber_readSigned (bytes : Bytes) :
    ReadsNumber readSigned (fun s n => n.toInt = (s : Int).bmod (2 ^ 32)) bytes := by
  refine .of_grammar (fun s => (UInt32.ofNat s).toInt32) readSigned_complete readSigned_of_refuses
    (fun s => ?_) bytes
  exact toInt_toInt32_ofNat s

/-! ## Texts -/

/-- What is read as a text from a byte string, by what is read from it as a number. -/
structure ReadsText (bytes : Bytes) : Prop where
  /-- Where no length can be read, no text can. -/
  unreadable : ∀ cause left, read bytes = .error cause left →
    readString bytes = .error cause left
  /-- Where fewer bytes are left than the length says, they are left. -/
  short : ∀ n rest, read bytes = .ok n rest → rest.length < n.toNat →
    readString bytes = .error (.stringTooShort n.toNat rest.length) rest
  /-- Otherwise as many bytes are taken as the length says, and answered if they are a text. -/
  ok_iff : ∀ n rest, read bytes = .ok n rest → n.toNat ≤ rest.length → ∀ text left,
    readString bytes = .ok text left ↔
      rest.take n.toNat = Utf8.encode text ∧ left = rest.drop n.toNat
  invalid : ∀ n rest, read bytes = .ok n rest → n.toNat ≤ rest.length →
    (¬ ∃ text, rest.take n.toNat = Utf8.encode text) →
      readString bytes = .error .invalidUtf8 (rest.drop n.toNat)

/-- Behind a length that is read, the bytes it counts decide. -/
theorem readString_of_read_ok {bytes rest : Bytes} {n : UInt32} (length : read bytes = .ok n rest) :
    readString bytes =
      if rest.length < n.toNat then .error (.stringTooShort n.toNat rest.length) rest
      else
        match Utf8.decode? (rest.take n.toNat) with
        | some text => .ok text (rest.drop n.toNat)
        | none => .error .invalidUtf8 (rest.drop n.toNat) := by
  obtain ⟨lead, rfl, complete, rfl⟩ := read_eq_ok_iff.1 length
  exact readString_complete complete rest

theorem readsText (bytes : Bytes) : ReadsText bytes where
  unreadable _ _ failed := readString_error failed
  short n rest length few := by rw [readString_of_read_ok length, if_pos few]
  ok_iff n rest length enough text left := by
    rw [readString_of_read_ok length, if_neg (Nat.not_lt.2 enough)]
    cases decoded : Utf8.decode? (rest.take n.toNat) with
    | none =>
        refine iff_of_false (fun answered => by cases answered) ?_
        rintro ⟨same, -⟩
        rw [Utf8.decode?_eq_some_iff.2 same] at decoded
        cases decoded
    | some said =>
        rw [Utf8.decode?_eq_some_iff.1 decoded, Utf8.encode_inj, EStateM.Result.ok.injEq,
          eq_comm (a := left)]
  invalid n rest length enough none := by
    rw [readString_of_read_ok length, if_neg (Nat.not_lt.2 enough),
      Utf8.decode?_eq_none_iff.2 none]

end VarInt

namespace Primitive

theorem takesFront_read (kind : Kind) : VarInt.TakesFront kind.read := by
  cases kind with
  | unsigned => exact VarInt.takesFront_read.map _
  | signed => exact VarInt.takesFront_readSigned.map _
  | text => exact VarInt.takesFront_readString.map _

/-- **What the readers of primitive values make of any bytes, and how much they take.**

* A number is read just where one of the first five bytes is unmarked.  It is the sum of the digits
  up to there, cut to 32 bits, which a signed number takes for its two's complement.  Otherwise all
  bytes are taken if there are fewer than five, and exactly five if there are as many.
* A text fails as its length does.  Where the bytes that the length counts are not all there, only
  the length is taken; otherwise they are taken too, and answered if they are UTF-8.
* Reads of any types one after the other, failed ones included, cut the bytes into the parts that
  they take and what is left.  As many other bytes in place of what is left change nothing, and so
  in place of what further reads take. -/
theorem reads_any_bytes (bytes : Bytes) :
    VarInt.ReadsNumber VarInt.read (fun s n => n.toNat = s % 2 ^ 32) bytes ∧
      VarInt.ReadsNumber VarInt.readSigned (fun s n => n.toInt = (s : Int).bmod (2 ^ 32)) bytes ∧
      VarInt.ReadsText bytes ∧
      ∀ kinds : List Kind,
        let reads := kinds.map Kind.read
        let parts := VarInt.partsTakenBy reads bytes
        parts.flatten ++ stateAfter reads bytes = bytes ∧
          ∀ other, other.length = (stateAfter reads bytes).length →
            outcomes reads (parts.flatten ++ other) = outcomes reads bytes ∧
              VarInt.partsTakenBy reads (parts.flatten ++ other) = parts ∧
              stateAfter reads (parts.flatten ++ other) = other := by
  refine ⟨VarInt.readsNumber_read bytes, VarInt.readsNumber_readSigned bytes,
    VarInt.readsText bytes, fun kinds => VarInt.TakesFront.run (fun reader asked => ?_) bytes⟩
  obtain ⟨kind, -, rfl⟩ := List.mem_map.1 asked
  exact takesFront_read kind

/-- Four reads of which three fail: a text that is no UTF-8, one that is too short, a number, and a
number that is too long.  They leave one byte, and do the same with another byte in its place.  A
number of five bytes drops what its last byte has beyond 32 bits. -/
theorem reads_any_bytes_failing :
    let bytes : Bytes :=
      [0x02, 0xC3, 0x28, 0x09, 0x61, 0x80, 0x80, 0x80, 0x80, 0x80, 0x80]
    let reads := [Kind.text, .text, .unsigned, .signed].map Kind.read
    let overlong : Bytes := [0xFF, 0xFF, 0xFF, 0xFF, 0x7F]
    let parts := VarInt.partsTakenBy reads bytes
    parts = [[0x02, 0xC3, 0x28], [0x09], [0x61], [0x80, 0x80, 0x80, 0x80, 0x80]] ∧
      outcomes reads bytes = [.error .invalidUtf8, .error (.stringTooShort 9 7),
        .ok (.unsigned 97), .error (.tooManyBytes 5)] ∧
      [0x05].length = (stateAfter reads bytes).length ∧
      outcomes reads (parts.flatten ++ [0x05]) = outcomes reads bytes ∧
      overlong.findIdx? (· < 128) = some 4 ∧
      ∃ n, VarInt.readSigned overlong = .ok n [] ∧ n.toInt = -1 := by
  intro bytes reads overlong parts
  obtain ⟨-, -, -, run⟩ := reads_any_bytes bytes
  obtain ⟨-, signed, -, -⟩ := reads_any_bytes overlong
  have left : [0x05].length = (stateAfter reads bytes).length := by decide +kernel
  have last : overlong.findIdx? (· < 128) = some 4 := by decide
  obtain ⟨n, answered, stands⟩ := signed.ok 4 (by decide) last
  exact ⟨by decide +kernel, by decide +kernel, left, ((run _).2 [0x05] left).1, last, n, answered,
    stands.trans (by decide +kernel)⟩

end Primitive

end GameGateway
