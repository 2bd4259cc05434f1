import GameGateway.Proofs.Verdict
import GameGateway.Proofs.Wire.BigEndian
import GameGateway.Proofs.Wire.PrimitiveSequences

/-!
# The grammar of messages with one field

Login starts, status responses and pings have one field each.  `VarInt.FieldGrammar` says which byte
strings start with a value of a field and which ones are refused, and `VarInt.Reads` that a reader
goes by that, whatever stands behind the value.  All that a message with one field does follows from
the grammar of its field (`Packet.OneField.of_reads`): it is written and decoded, what newer clients
put behind the field changes nothing, and no part of a written field is enough.

The field of a login start and of a status response is a text (`VarInt.textGrammar`), that of a ping
a signed number of eight bytes (`Ping.grammar`).
-/

namespace GameGateway

/-! ## Fields -/

namespace VarInt

/-- How the values of a field stand in a payload. -/
structure FieldGrammar (α : Type) where
  /-- The payloads that start with a value, and what is behind it. -/
  Starts : Bytes → α → Bytes → Prop
  /-- The payloads that do not start with a value, the cause, and what is left of them. -/
  Refuses : Bytes → VarIntError → Bytes → Prop

/-- The grammar of values that are wrapped up. -/
def FieldGrammar.wrapped {α β : Type} (grammar : FieldGrammar α) (unwrap : β → α) :
    FieldGrammar β :=
  ⟨fun payload b rest => grammar.Starts payload (unwrap b) rest, grammar.Refuses⟩

theorem FieldGrammar.wrapped_starts {α β : Type} {grammar : FieldGrammar α} {unwrap : β → α}
    {payload rest : Bytes} {b : β} :
    (grammar.wrapped unwrap).Starts payload b rest ↔ grammar.Starts payload (unwrap b) rest :=
  Iff.rfl

/-- A reader that goes by a grammar in which a value says itself where it ends. -/
structure Reads {α : Type} (grammar : FieldGrammar α) (reader : Reader α) : Prop where
  cases : ∀ payload, (∃ value rest, grammar.Starts payload value rest) ∨
    ∃ cause left, grammar.Refuses payload cause left
  ok : ∀ {payload value rest}, grammar.Starts payload value rest → reader payload = .ok value rest
  error : ∀ {payload cause left}, grammar.Refuses payload cause left →
    reader payload = .error cause left
  append : ∀ {payload value rest}, grammar.Starts payload value rest →
    ∀ more, grammar.Starts (payload ++ more) value (rest ++ more)

namespace Reads

variable {α : Type} {grammar : FieldGrammar α} {reader : Reader α}

/-- A part of a field that ends before the field does is refused. -/
theorem refuses_take (reads : Reads grammar reader) {field : Bytes} {value : α}
    (whole : grammar.Starts field value []) {n : Nat} (short : n < field.length) :
    ∃ cause left, grammar.Refuses (field.take n) cause left := by
  rcases reads.cases (field.take n) with ⟨value', rest, starts⟩ | refused
  · -- with the bytes that were cut off behind it, it would be the field and leave nothing
    have again := reads.ok (reads.append starts (field.drop n))
    rw [List.take_append_drop, reads.ok whole] at again
    obtain ⟨-, nothing⟩ := EStateM.Result.ok.inj again
    have length := congrArg List.length nothing
    rw [List.length_nil, List.length_append, List.length_drop] at length
    omega
  · exact refused

/-- A reader whose values are wrapped up goes by the grammar of what is in them. -/
theorem map {β : Type} (reads : Reads grammar reader) {wrap : α → β} {unwrap : β → α}
    (wrap_unwrap : ∀ b, wrap (unwrap b) = b) (unwrap_wrap : ∀ a, unwrap (wrap a) = a) :
    Reads (grammar.wrapped unwrap) (wrap <$> reader) where
  cases payload := by
    rcases reads.cases payload with ⟨value, rest, starts⟩ | refused
    · refine .inl ⟨wrap value, rest, ?_⟩
      rwa [FieldGrammar.wrapped_starts, unwrap_wrap]
    · exact .inr refused
  ok starts := by
    rw [FieldGrammar.wrapped_starts] at starts
    simp only [Functor.map, EStateM.map, reads.ok starts, wrap_unwrap]
  error refuses := by
    simp only [Functor.map, EStateM.map, reads.error refuses]
  append starts more := reads.append starts more

end Reads

/-- Texts, with their length in front. -/
def textGrammar : FieldGrammar String :=
  ⟨StartsWithText, RefusesText⟩

theorem reads_text : Reads textGrammar readString where
  cases := startsWithText_or_refuses
  ok := readString_of_startsWithText
  error := readString_of_refuses
  append := by
    rintro _ text rest ⟨lead, complete, declared, rfl⟩ more
    exact ⟨lead, complete, declared, by simp only [List.append_assoc]⟩

end VarInt

/-! ## Packets -/

namespace Packet

variable {α β : Type} {kind : MessageKind} {packetId : UInt32}

/-- What is wrong with a packet that carries no message with one field: its id, or, if that is
right, the field. -/
inductive Faulty (kind : MessageKind) (packetId : UInt32) (grammar : VarInt.FieldGrammar α)
    (packet : Packet) : MessageFault → Prop
  | unexpectedId : packet.id ≠ packetId → Faulty kind packetId grammar packet (.unexpectedId kind)
  | payload {cause : VarIntError} {left : Bytes} : packet.id = packetId →
    grammar.Refuses packet.data cause left →
    Faulty kind packetId grammar packet (.payload kind cause)

/-- Wrapping up the decoded value is wrapping up what is read. -/
theorem map_decodeField (f : α → β) (reader : VarInt.Reader α) (packet : Packet) :
    f <$> packet.decodeField kind packetId reader =
      packet.decodeField kind packetId (f <$> reader) := by
  simp only [decodeField, Functor.map, EStateM.map]
  split
  · rfl
  · cases reader packet.data <;> rfl

/-- A packet is decoded if its id is the right one and the field stands in front of its payload. -/
theorem decodeField_decides {grammar : VarInt.FieldGrammar α} {reader : VarInt.Reader α}
    (reads : VarInt.Reads grammar reader) (packet : Packet) :
    Decides (fun value => packet.id = packetId ∧ ∃ rest, grammar.Starts packet.data value rest)
      (fun e => ∃ fault, Faulty kind packetId grammar packet fault ∧
        e = .malformedPacket packet.id fault)
      (packet.decodeField kind packetId reader) := by
  refine .of_cases ?_ ?_ ?_
  · by_cases right : packet.id = packetId
    · rcases reads.cases packet.data with ⟨value, rest, starts⟩ | ⟨cause, left, refuses⟩
      · exact .inl ⟨value, right, rest, starts⟩
      · exact .inr ⟨_, _, .payload right refuses, rfl⟩
    · exact .inr ⟨_, _, .unexpectedId right, rfl⟩
  · rintro value ⟨right, rest, starts⟩
    exact decodeField_eq_ok_iff.2 ⟨right, rest, reads.ok starts⟩
  · rintro _ ⟨fault, faulty, rfl⟩
    unfold decodeField
    cases faulty with
    | unexpectedId wrong => rw [if_pos wrong]
    | payload right refuses => rw [if_neg (fun wrong => wrong right), reads.error refuses]

/-- How the messages of one kind are written to packets and decoded from them. -/
structure OneField (kind : MessageKind) (packetId : UInt32) (grammar : VarInt.FieldGrammar α)
    (Fits : α → Prop) (toPacket : α → Packet) (ofPacket : Packet → Except ProtocolError α) :
    Prop where
  /-- A message that can be written is decoded from its packet. -/
  ofPacket_toPacket : ∀ message, Fits message → ofPacket (toPacket message) = .ok message
  /-- What is put behind the payload of any packet does not change the message in it. -/
  ofPacket_longer : ∀ packet message, ofPacket packet = .ok message →
    ∀ more, ofPacket { packet with data := packet.data ++ more } = .ok message
  /-- A payload that is cut short is no message, and the error has the id of the packet. -/
  ofPacket_shorter : ∀ message, Fits message → ∀ n < (toPacket message).data.length,
    ∃ cause, ofPacket { toPacket message with data := (toPacket message).data.take n } =
      .error (.malformedPacket (toPacket message).id (.payload kind cause))
  /-- A packet carries a message if it has the id of the kind and a payload that starts with the
  field. -/
  ofPacket_eq_ok_iff : ∀ packet message, ofPacket packet = .ok message ↔
    packet.id = packetId ∧ ∃ rest, grammar.Starts packet.data message rest
  /-- Every other packet is refused, for its id or for its payload, with the id that it has. -/
  ofPacket_eq_error_iff : ∀ packet e, ofPacket packet = .error e ↔
    ∃ fault, Faulty kind packetId grammar packet fault ∧ e = .malformedPacket packet.id fault

/-- All this follows from the grammar of the field. -/
theorem OneField.of_reads {grammar : VarInt.FieldGrammar α} {reader : VarInt.Reader α}
    (reads : VarInt.Reads grammar reader) {Fits : α → Prop} {toPacket : α → Packet}
    {ofPacket : Packet → Except ProtocolError α}
    (decodes : ∀ packet, ofPacket packet = packet.decodeField kind packetId reader)
    (labels : ∀ message, (toPacket message).id = packetId)
    (writes : ∀ message, Fits message → grammar.Starts (toPacket message).data message []) :
    OneField kind packetId grammar Fits toPacket ofPacket := by
  have decides (packet : Packet) : Decides
      (fun value => packet.id = packetId ∧ ∃ rest, grammar.Starts packet.data value rest)
      (fun e => ∃ fault, Faulty kind packetId grammar packet fault ∧
        e = .malformedPacket packet.id fault)
      (ofPacket packet) := by
    rw [decodes]
    exact decodeField_decides reads packet
  refine ⟨fun message fits => ?_, fun packet message answered more => ?_,
    fun message fits n short => ?_, fun packet => (decides packet).ok_iff,
    fun packet => (decides packet).error_iff⟩
  · exact ((decides _).ok_iff _).2 ⟨labels message, [], writes message fits⟩
  · obtain ⟨right, rest, starts⟩ := ((decides _).ok_iff _).1 answered
    exact ((decides _).ok_iff _).2 ⟨right, rest ++ more, reads.append starts more⟩
  · obtain ⟨cause, left, refuses⟩ := reads.refuses_take (writes message fits) short
    exact ⟨cause, ((decides _).error_iff _).2 ⟨_, .payload (labels message) refuses, rfl⟩⟩

/-- The same of messages that are one text. -/
theorem OneField.of_text {wrap : String → α} {unwrap : α → String}
    (wrap_unwrap : ∀ message, wrap (unwrap message) = message)
    (unwrap_wrap : ∀ text, unwrap (wrap text) = text) {toPacket : α → Packet}
    {ofPacket : Packet → Except ProtocolError α}
    (decodes : ∀ packet, ofPacket packet =
      wrap <$> packet.decodeField kind packetId VarInt.readString)
    (writes : ∀ message, toPacket message = ⟨packetId, VarInt.encodeString (unwrap message)⟩) :
    OneField kind packetId (VarInt.textGrammar.wrapped unwrap)
      (fun message => (unwrap message).utf8ByteSize < 2 ^ 32) toPacket ofPacket := by
  refine .of_reads (VarInt.reads_text.map wrap_unwrap unwrap_wrap) (fun packet => ?_)
    (fun message => ?_) fun message fits => ?_
  · rw [decodes, map_decodeField]
  · rw [writes]
  · have starts := VarInt.startsWithText_encodeString fits []
    rw [List.append_nil] at starts
    rwa [writes]

end Packet

/-! ## Each kind of message -/

namespace Ping

/-- A ping is eight bytes, most significant first, in two's complement. -/
def grammar : VarInt.FieldGrammar Ping where
  Starts data ping rest := 8 ≤ data.length ∧ rest = data.drop 8 ∧
    ping.payload.toInt = (BigEndian.number (data.take 8) : Int).bmod (2 ^ 64)
  Refuses data cause left := data.length < 8 ∧ cause = .bufferTooShort ∧ left = data

/-- A number as two's complement. -/
theorem toInt_toInt64_ofNat (n : Nat) :
    (UInt64.ofNat n).toInt64.toInt = (n : Int).bmod (2 ^ 64) :=
  BitVec.toInt_ofNat n

theorem readPayload_eight {data : Bytes} (enough : 8 ≤ data.length) :
    readPayload data =
      .ok (UInt64.ofNat (BigEndian.number (data.take 8))).toInt64 (data.drop 8) := by
  unfold readPayload
  rw [bind_get, if_neg (Nat.not_lt.2 enough), ← BigEndian.decode_eq_number]
  rfl

theorem readPayload_short {data : Bytes} (short : data.length < 8) :
    readPayload data = .error .bufferTooShort data := by
  unfold readPayload
  rw [bind_get, if_pos short]
  rfl

theorem reads_payload : VarInt.Reads grammar (Ping.mk <$> readPayload) where
  cases data := by
    rcases Nat.lt_or_ge data.length 8 with short | enough
    · exact .inr ⟨_, _, short, rfl, rfl⟩
    · exact .inl ⟨⟨(UInt64.ofNat (BigEndian.number (data.take 8))).toInt64⟩, _, enough, rfl,
        toInt_toInt64_ofNat _⟩
  ok := by
    rintro data ping _ ⟨enough, rfl, spelled⟩
    have payload : ping.payload = (UInt64.ofNat (BigEndian.number (data.take 8))).toInt64 :=
      Int64.toInt_inj.1 (spelled.trans (toInt_toInt64_ofNat _).symm)
    simp only [Functor.map, EStateM.map, readPayload_eight enough, ← payload]
  error := by
    rintro data _ _ ⟨short, rfl, rfl⟩
    simp only [Functor.map, EStateM.map, readPayload_short short]
  append := by
    rintro data ping _ ⟨enough, rfl, spelled⟩ more
    refine ⟨?_, (List.drop_append_of_le_length enough).symm, ?_⟩
    · rw [List.length_append]
      exact Nat.le_add_right_of_le enough
    · rwa [List.take_append_of_le_length enough]

theorem oneField : Packet.OneField .ping packetId grammar (fun _ => True) toPacket ofPacket := by
  refine .of_reads reads_payload (Packet.map_decodeField Ping.mk readPayload) (fun _ => rfl)
    fun ping _ => ?_
  have word : ping.payload.toUInt64.toNat < 256 ^ 8 := ping.payload.toUInt64.toNat_lt
  have eight : ping.toPacket.data.length = 8 := BigEndian.length_encode 8 _
  refine ⟨Nat.le_of_eq eight.symm, (List.drop_eq_nil_of_le (Nat.le_of_eq eight)).symm, ?_⟩
  rw [List.take_of_length_le (Nat.le_of_eq eight), toPacket, BigEndian.number_encode,
    Nat.mod_eq_of_lt word]
  exact BitVec.toInt_eq_toNat_bmod _

end Ping

namespace Packet

/-- **Messages with one field are decoded by the grammar of the field.**  Login starts and status
responses have the id zero and a text, pings have the id one and eight bytes.  Each of them is
decoded from its own packet, from any packet with more bytes behind the field, and from no packet
that ends inside the field; every packet without such a message is refused with its own id. -/
theorem one_field_decided :
    OneField .loginStart 0 (VarInt.textGrammar.wrapped LoginStart.name)
      (fun login => login.name.utf8ByteSize < 2 ^ 32) LoginStart.toPacket LoginStart.ofPacket ∧
    OneField .statusResponse 0 (VarInt.textGrammar.wrapped StatusResponse.json)
      (fun response => response.json.utf8ByteSize < 2 ^ 32) StatusResponse.toPacket
      StatusResponse.ofPacket ∧
    OneField .ping 1 Ping.grammar (fun _ => True) Ping.toPacket Ping.ofPacket := by
  refine ⟨?_, ?_, Ping.oneField⟩
  · exact .of_text (fun _ => rfl) (fun _ => rfl) (fun _ => rfl) (fun _ => rfl)
  · exact .of_text (fun _ => rfl) (fun _ => rfl) (fun _ => rfl) (fun _ => rfl)

/-- A name of one character with two bytes, with bytes behind it and cut inside the character, and
the ping of a negative number, cut before its last byte. -/
theorem one_field_decided_cut :
    let login : LoginStart := ⟨"é"⟩
    let ping : Ping := ⟨-2⟩
    login.name.utf8ByteSize < 2 ^ 32 ∧
      LoginStart.ofPacket { login.toPacket with data := login.toPacket.data ++ [0x06, 0x9A] } =
        .ok login ∧
      (∃ cause, LoginStart.ofPacket { login.toPacket with data := login.toPacket.data.take 2 } =
        .error (.malformedPacket 0 (.payload .loginStart cause))) ∧
      Ping.ofPacket ping.toPacket = .ok ping ∧
      ∃ cause, Ping.ofPacket { ping.toPacket with data := ping.toPacket.data.take 7 } =
        .error (.malformedPacket 1 (.payload .ping cause)) := by
  intro login ping
  obtain ⟨login', -, ping'⟩ := one_field_decided
  have fits : login.name.utf8ByteSize < 2 ^ 32 := by decide
  have inside : 2 < login.toPacket.data.length := by decide +kernel
  exact ⟨fits, login'.ofPacket_longer _ _ (login'.ofPacket_toPacket login fits) _,
    login'.ofPacket_shorter login fits 2 inside, ping'.ofPacket_toPacket ping trivial,
    ping'.ofPacket_shorter ping trivial 7 (by decide)⟩

end Packet

end GameGateway
