import GameGateway.Proofs.Stream.PacketReader

/-!
# What decides a packet read

Whatever arrives, the bytes that patient reads can get start with a whole frame, start with a
refused length, or decide nothing.  The feed reader is run in each of the three cases
(`Feed.readPacket_whole`, `Feed.readPacket_refused`, `Feed.readPacket_torn`), and
`Source.readPacket_refines_decode` states the outcome on a stream beside that of `Packet.decode` on
those bytes.
-/

namespace GameGateway

namespace Frame

theorem not_opens_nil : ¬ Opens [] := by
  rintro (⟨lead, body, rest, whole, same⟩ | ⟨lead, rest, refused, same⟩)
  · have empty : lead = [] := (List.append_eq_nil_iff.1 same.symm).1
    exact absurd whole.complete.length_pos (by simp [empty])
  · have empty : lead = [] := (List.append_eq_nil_iff.1 same.symm).1
    rcases refused with ⟨complete, -⟩ | ⟨full, -⟩
    · exact absurd complete.length_pos (by simp [empty])
    · simp [empty] at full

end Frame

namespace Feed

/-! ## The length -/

section Length

variable {limit : Nat} {feed : Feed} {lead bytes : Bytes}

theorem readDigits_complete (complete : VarInt.CompleteWithin limit lead)
    (front : feed.patient = lead ++ bytes) (first : Bool) :
    readDigits limit first feed = .ok (VarInt.spelled lead) (feed.skip lead.length) := by
  induction limit generalizing feed lead first with
  | zero => exact absurd complete VarInt.CompleteWithin.not_zero
  | succ limit ih =>
      rcases complete.cases with ⟨limit', same, single | more⟩
      · obtain ⟨b, rfl, unmarked⟩ := single
        obtain ⟨rest, settled, -, -, -, skips⟩ := settle_of_patient_eq_cons front
        simp [readDigits, settled, unmarked, VarInt.spelled_singleton unmarked, skips]
      · obtain ⟨b, lead, rfl, marked, complete⟩ := more
        cases same
        obtain ⟨rest, settled, left, -, -, skips⟩ := settle_of_patient_eq_cons front
        simp [readDigits, settled, VarInt.not_lt_of_marked marked, ih complete left, skips,
          VarInt.spelled]

theorem readDigits_overlong (all : VarInt.AllMarked lead) (front : feed.patient = lead ++ bytes)
    (first : Bool) :
    readDigits lead.length first feed =
      .error (.malformedFrame .lengthOverlong) (feed.skip lead.length) := by
  induction lead generalizing feed first with
  | nil => simp [readDigits]
  | cons b lead ih =>
      obtain ⟨marked, all⟩ := VarInt.allMarked_cons.1 all
      obtain ⟨rest, settled, left, -, -, skips⟩ := settle_of_patient_eq_cons front
      simp [readDigits, settled, VarInt.not_lt_of_marked marked, ih all left, skips]

theorem readDigits_torn (short : feed.patient.length < limit)
    (all : VarInt.AllMarked feed.patient) (first : Bool) :
    readDigits limit first feed =
      .error (Frame.tornInLength (first && feed.patient.isEmpty) feed.ending) feed.behind := by
  induction limit generalizing feed first with
  | zero => exact absurd short (Nat.not_lt_zero _)
  | succ limit ih =>
      cases front : feed.patient with
      | nil =>
          rcases settle_of_patient_eq_nil front with
            ⟨e, ending, -, settled⟩ | ⟨ending, settled | ⟨settled, dry⟩⟩
          · simp [readDigits, settled, ending, Frame.tornInLength]
          · simp [readDigits, settled, ending, Frame.tornInLength]
          · simp [readDigits, settled, dry, ending, Frame.tornInLength]
      | cons b bytes =>
          rw [front] at short all
          obtain ⟨marked, all⟩ := VarInt.allMarked_cons.1 all
          obtain ⟨rest, settled, left, ending, behind, -⟩ := settle_of_patient_eq_cons front
          subst left
          simp [readDigits, settled, VarInt.not_lt_of_marked marked,
            ih (Nat.lt_of_succ_lt_succ short) all, ending, behind]

end Length

theorem readLength_complete {feed : Feed} {lead bytes : Bytes} (complete : VarInt.Complete lead)
    (front : feed.patient = lead ++ bytes) :
    readLength feed = .ok (VarInt.value lead) (feed.skip lead.length) := by
  simp [readLength, Functor.map, EStateM.map, readDigits_complete complete front, VarInt.value]

/-! ## The body -/

theorem readUpTo_whole {feed : Feed} {body bytes : Bytes} (front : feed.patient = body ++ bytes) :
    readUpTo body.length feed = .ok body (feed.skip body.length) := by
  induction body generalizing feed with
  | nil => simp
  | cons b body ih =>
      obtain ⟨rest, settled, left, -, -, skips⟩ := settle_of_patient_eq_cons front
      rw [List.length_cons, ← readUpTo_settle, settled, readUpTo, ih left, skips]

theorem readUpTo_torn {feed : Feed} {need : Nat} (short : feed.patient.length < need) :
    readUpTo need feed =
      match feed.ending with
      | some e => .error e feed.behind
      | none => .ok feed.patient feed.behind := by
  induction need generalizing feed with
  | zero => exact absurd short (Nat.not_lt_zero _)
  | succ need ih =>
      rw [← readUpTo_settle]
      cases front : feed.patient with
      | nil =>
          rcases settle_of_patient_eq_nil front with
            ⟨e, ending, lasting, settled⟩ | ⟨ending, settled | ⟨settled, dry⟩⟩
          · simp [settled, ending, readUpTo, lasting]
          · simp [settled, ending, readUpTo]
          · simp [settled, ending, readUpTo, dry]
      | cons b bytes =>
          rw [front] at short
          obtain ⟨rest, settled, left, ending, behind, -⟩ := settle_of_patient_eq_cons front
          subst left
          rw [settled, readUpTo, ih (Nat.lt_of_succ_lt_succ short), ending, behind]
          cases feed.ending <;> rfl

/-! ## The packet -/

section Packet

variable {feed : Feed} {lead body bytes : Bytes}

theorem readPacket_whole (whole : Frame.IsWhole lead body)
    (front : feed.patient = lead ++ (body ++ bytes)) :
    readPacket feed =
      (MonadExcept.ofExcept (Packet.decodeBody body) : EStateM ProtocolError Feed Packet)
        (feed.skip (lead.length + body.length)) := by
  have left := (skip_patient front).1
  have taken := adaptExcept_ok ProtocolError.io (readUpTo_whole left)
  unfold readPacket
  rw [bind_ok (readLength_complete whole.complete front), whole.declared,
    Packet.checkLength_ok whole.nonempty whole.bounded, bind_ok (ofExcept_ok () _), bind_ok taken,
    ← skip_add]
  simp only [Nat.lt_irrefl, if_false]

theorem readPacket_refused (refused : Frame.IsRefused lead)
    (front : feed.patient = lead ++ bytes) :
    ∃ fault, readPacket feed = .error (.malformedFrame fault) (feed.skip lead.length) := by
  unfold readPacket
  rcases refused with ⟨complete, value⟩ | ⟨full, all⟩
  · obtain ⟨fault, check⟩ := Packet.checkLength_refused value
    rw [bind_ok (readLength_complete complete front), check]
    exact ⟨fault, rfl⟩
  · have overlong := readDigits_overlong all front true
    rw [full] at overlong
    have length : readLength feed =
        .error (.malformedFrame .lengthOverlong) (feed.skip lead.length) := by
      simp [readLength, Functor.map, EStateM.map, overlong, full]
    rw [bind_error length]
    exact ⟨_, rfl⟩

/-- A stream that stops inside a frame loses what came of it, and the fault or end that stops it
decides the error. -/
theorem readPacket_torn (undecided : ¬ Frame.Opens feed.patient) :
    (VarInt.AllMarked feed.patient ∧ readPacket feed =
        .error (Frame.tornInLength feed.patient.isEmpty feed.ending) feed.behind) ∨
      ∃ lead part, feed.patient = lead ++ part ∧ VarInt.Complete lead ∧ readPacket feed =
        .error (Frame.tornInBody (VarInt.value lead).toNat feed.ending) feed.behind := by
  unfold readPacket
  rcases Frame.torn_cases undecided with
    ⟨short, all⟩ | ⟨lead, part, front, complete, nonempty, bounded, short⟩
  · have length : readLength feed =
        .error (Frame.tornInLength feed.patient.isEmpty feed.ending) feed.behind := by
      simp [readLength, Functor.map, EStateM.map, readDigits_torn short all]
    exact .inl ⟨all, bind_error length⟩
  · refine .inr ⟨lead, part, front, complete, ?_⟩
    obtain ⟨left, ending, behind⟩ := skip_patient front
    have body := readUpTo_torn (left ▸ short)
    rw [ending, behind, left] at body
    rw [bind_ok (readLength_complete complete front), Packet.checkLength_ok nonempty bounded,
      bind_ok (ofExcept_ok () _)]
    cases stop : feed.ending with
    | some e =>
        rw [stop] at body
        rw [bind_error (adaptExcept_error ProtocolError.io body)]
        rfl
    | none =>
        rw [stop] at body
        rw [bind_ok (adaptExcept_ok ProtocolError.io body), if_pos short]
        rfl

/-- A feed starts with the whole frame of a packet, and `rest` comes right behind the frame. -/
def Starts (feed : Feed) (packet : Packet) (rest : Feed) : Prop :=
  ∃ lead body bytes, Frame.IsWhole lead body ∧ Packet.decodeBody body = .ok packet ∧
    feed.patient = lead ++ (body ++ bytes) ∧ rest = feed.skip (lead.length + body.length)

theorem readPacket_eq_ok_iff {packet : Packet} {rest : Feed} :
    readPacket feed = .ok packet rest ↔ feed.Starts packet rest := by
  constructor
  · intro read
    by_cases decided : Frame.Opens feed.patient
    · rcases decided with ⟨lead, body, bytes, whole, front⟩ | ⟨lead, bytes, refused, front⟩
      · rw [readPacket_whole whole front] at read
        cases decoded : Packet.decodeBody body with
        | ok packet =>
            rw [decoded] at read
            cases read
            exact ⟨lead, body, bytes, whole, decoded, front, rfl⟩
        | error e =>
            rw [decoded] at read
            cases read
      · obtain ⟨fault, failed⟩ := readPacket_refused refused front
        rw [failed] at read
        cases read
    · rcases readPacket_torn decided with ⟨-, failed⟩ | ⟨lead, part, -, -, failed⟩
      · rw [failed] at read
        cases read
      · rw [failed] at read
        cases read
  · rintro ⟨lead, body, bytes, whole, decoded, front, rfl⟩
    rw [readPacket_whole whole front, decoded]
    rfl

end Packet

end Feed

/-! ## On a stream -/

namespace Source

/-- A buffer and a stream that hold the same frame: the same packet, or a malformed frame both
times. -/
def SameFrame (decoded : EStateM.Result ProtocolError Bytes Packet) (left : Bytes)
    (read : EStateM.Result ProtocolError Source Packet) (after : Source) : Prop :=
  (∃ packet, decoded = .ok packet left ∧ read = .ok packet after) ∨
    ∃ fault fault', decoded = .error (.malformedFrame fault) left ∧
      read = .error (.malformedFrame fault') after

theorem readPacket_whole {source : Source} {lead body rest : Bytes}
    (whole : Frame.IsWhole lead body) (front : source.feed.patient = lead ++ (body ++ rest)) :
    ∃ after : Source, after.feed = source.feed.skip (lead.length + body.length) ∧
      SameFrame (Packet.decode source.feed.patient) rest source.readPacket after := by
  have decoded := Packet.decode_whole whole rest
  have read := Feed.readPacket_whole whole front
  rw [← front] at decoded
  cases verdict : Packet.decodeBody body with
  | ok packet =>
      rw [verdict] at decoded read
      obtain ⟨after, run, left⟩ := readPacket_follows.ok read
      exact ⟨after, left, .inl ⟨packet, decoded, run⟩⟩
  | error e =>
      obtain ⟨fault, rfl⟩ := Packet.decodeBody_eq_error verdict
      rw [verdict] at decoded read
      obtain ⟨after, run, left⟩ := readPacket_follows.error read
      exact ⟨after, left, .inr ⟨fault, fault, decoded, run⟩⟩

theorem readPacket_refused {source : Source} {lead rest : Bytes} (refused : Frame.IsRefused lead)
    (front : source.feed.patient = lead ++ rest) :
    ∃ after : Source, after.feed = source.feed.skip lead.length ∧
      SameFrame (Packet.decode source.feed.patient) rest source.readPacket after := by
  obtain ⟨fault, decoded⟩ := Packet.decode_refused refused rest
  obtain ⟨fault', read⟩ := Feed.readPacket_refused refused front
  rw [← front] at decoded
  obtain ⟨after, run, left⟩ := readPacket_follows.error read
  exact ⟨after, left, .inr ⟨fault, fault', decoded, run⟩⟩

theorem readPacket_torn {source : Source} (undecided : ¬ Frame.Opens source.feed.patient) :
    ∃ after : Source, after.feed = source.feed.behind ∧
      ((VarInt.AllMarked source.feed.patient ∧ source.readPacket =
          .error (Frame.tornInLength source.feed.patient.isEmpty source.feed.ending) after) ∨
        ∃ lead part, source.feed.patient = lead ++ part ∧ VarInt.Complete lead ∧
          source.readPacket =
            .error (Frame.tornInBody (VarInt.value lead).toNat source.feed.ending) after) := by
  rcases Feed.readPacket_torn undecided with ⟨all, read⟩ | ⟨lead, part, front, complete, read⟩
  · obtain ⟨after, run, left⟩ := readPacket_follows.error read
    exact ⟨after, left, .inl ⟨all, run⟩⟩
  · obtain ⟨after, run, left⟩ := readPacket_follows.error read
    exact ⟨after, left, .inr ⟨lead, part, front, complete, run⟩⟩

/-- A read answers a packet where the feed starts with its frame, and takes that frame. -/
theorem readPacket_of_starts {source : Source} {packet : Packet} {rest : Feed}
    (starts : source.feed.Starts packet rest) :
    ∃ after : Source, source.readPacket = .ok packet after ∧ after.feed = rest :=
  readPacket_follows.ok (Feed.readPacket_eq_ok_iff.2 starts)

theorem starts_of_readPacket {source after : Source} {packet : Packet}
    (read : source.readPacket = .ok packet after) : source.feed.Starts packet after.feed := by
  refine Feed.readPacket_eq_ok_iff.1 ?_
  rw [readPacket_follows source, read]
  rfl

/-- **Reading a packet from a stream is decoding it from the bytes that arrive.**  A whole frame
gives what decoding gives and takes the frame; a refused length is refused both times and only the
length is taken.  In both cases nothing behind is touched.  If the bytes decide nothing, the fault
or end behind them decides, and what follows it stays unread. -/
theorem readPacket_refines_decode (source : Source) :
    (∀ lead body rest, Frame.IsWhole lead body →
        source.feed.patient = lead ++ (body ++ rest) →
        ∃ after : Source, after.feed = source.feed.skip (lead.length + body.length) ∧
          SameFrame (Packet.decode source.feed.patient) rest source.readPacket after) ∧
      (∀ lead rest, Frame.IsRefused lead → source.feed.patient = lead ++ rest →
        ∃ after : Source, after.feed = source.feed.skip lead.length ∧
          SameFrame (Packet.decode source.feed.patient) rest source.readPacket after) ∧
      (¬ Frame.Opens source.feed.patient →
        ∃ after : Source, after.feed = source.feed.behind ∧
          ((VarInt.AllMarked source.feed.patient ∧ source.readPacket =
              .error (Frame.tornInLength source.feed.patient.isEmpty source.feed.ending) after) ∨
            ∃ lead part, source.feed.patient = lead ++ part ∧ VarInt.Complete lead ∧
              source.readPacket =
                .error (Frame.tornInBody (VarInt.value lead).toNat source.feed.ending) after)) :=
  ⟨fun _ _ _ whole front => readPacket_whole whole front,
    fun _ _ refused front => readPacket_refused refused front, readPacket_torn⟩

/-- An interruption in front of a frame does not fail the read, though nothing arrives before it. -/
theorem readPacket_ok_behind_interruption :
    ¬ ∀ source : Source, ¬ Frame.Opens source.delivered →
      ∃ e after, source.readPacket = .error e after := by
  intro fails
  let source : Source := { script := [.fault ⟨.interrupted, "m"⟩, .chunk [1, 0]] }
  obtain ⟨e, after, failed⟩ := fails source Frame.not_opens_nil
  have read : onState feed source.readPacket = .ok ⟨0, []⟩ [] :=
    (readPacket_follows source).symm
  rw [failed] at read
  cases read

end Source

end GameGateway
