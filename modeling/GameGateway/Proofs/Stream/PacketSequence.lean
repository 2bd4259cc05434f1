import GameGateway.Proofs.Stream.PacketDelivery
import GameGateway.Proofs.Wire.FrameWriting

/-!
# Sequences of packets

Frames delimit themselves.  Where a sequence of written frames is cut anywhere, what is in front of
the cut is some whole frames and a proper part of the next one (`Packet.exists_cut`).  Decoding
again and again gives the packets of the whole frames and then fails at the part
(`Packet.decode_frames_torn`); so does reading from a stream, however the bytes arrive
(`Source.readPacket_frames_torn`).  A stream that ends between two frames was closed, one that ends
inside a frame is malformed.  `Packet.frames_cut_anywhere` puts this together.
-/

namespace GameGateway

namespace Packet

/-- The frames of some packets, one right behind the other. -/
def frames (packets : List Packet) : Bytes :=
  packets.flatMap encode

@[simp] theorem frames_nil : frames [] = [] := rfl

@[simp] theorem frames_cons (packet : Packet) (packets : List Packet) :
    frames (packet :: packets) = packet.encode ++ frames packets := rfl

/-- Whether `k` bytes end between two frames, or in front of the first or behind the last. -/
def IsBoundary (packets : List Packet) (k : Nat) : Prop :=
  ∃ n ≤ packets.length, k = (frames (packets.take n)).length

/-! ## Cuts -/

/-- The first `k` bytes of some frames: `n` whole frames, and what there is of the next one. -/
structure Cut (packets : List Packet) (k n : Nat) (part : Bytes) : Prop where
  count : n ≤ packets.length
  bytes : (frames packets).take k = frames (packets.take n) ++ part
  length : k = (frames (packets.take n)).length + part.length
  proper : n = packets.length ∧ part = [] ∨
    ∃ next ∈ packets, frames (packets.take (n + 1)) = frames (packets.take n) ++ next.encode ∧
      ∃ m < next.encode.length, part = next.encode.take m

theorem exists_cut (packets : List Packet) {k : Nat} (inside : k ≤ (frames packets).length) :
    ∃ n part, Cut packets k n part := by
  induction packets generalizing k with
  | nil =>
      obtain rfl : k = 0 := Nat.le_zero.1 inside
      exact ⟨0, [], Nat.le_refl 0, rfl, rfl, .inl ⟨rfl, rfl⟩⟩
  | cons packet packets ih =>
      by_cases whole : packet.encode.length ≤ k
      · -- the cut lies behind the first frame
        obtain ⟨k, rfl⟩ : ∃ j, k = packet.encode.length + j :=
          ⟨k - packet.encode.length, by omega⟩
        have rest : k ≤ (frames packets).length := by
          rw [frames_cons, List.length_append] at inside
          omega
        obtain ⟨n, part, cut⟩ := ih rest
        refine ⟨n + 1, part, Nat.succ_le_succ cut.count, ?_, ?_, ?_⟩
        · rw [frames_cons, List.take_length_add_append, cut.bytes, List.take_succ_cons, frames_cons,
            List.append_assoc]
        · have length := cut.length
          rw [List.take_succ_cons, frames_cons, List.length_append]
          omega
        · rcases cut.proper with ⟨all, nothing⟩ | ⟨next, member, follows, proper⟩
          · exact .inl ⟨congrArg Nat.succ all, nothing⟩
          · refine .inr ⟨next, List.mem_cons_of_mem packet member, ?_, proper⟩
            simp only [List.take_succ_cons, frames_cons, follows, List.append_assoc]
      · -- the cut lies inside the first frame
        have short : k < packet.encode.length := Nat.lt_of_not_le whole
        have front : (frames (packet :: packets)).take k = packet.encode.take k := by
          rw [frames_cons]
          exact List.take_append_of_le_length (Nat.le_of_lt short)
        refine ⟨0, packet.encode.take k, Nat.zero_le _, front, ?_, .inr ?_⟩
        · rw [List.take_zero, frames_nil, List.length_nil, Nat.zero_add, List.length_take]
          omega
        · refine ⟨packet, List.mem_cons_self, ?_, k, short, rfl⟩
          rw [List.take_succ_cons, List.take_zero, List.take_zero, frames_cons, frames_nil,
            List.append_nil, List.nil_append]

theorem length_frames_take_mono (packets : List Packet) {m n : Nat} (le : m ≤ n) :
    (frames (packets.take m)).length ≤ (frames (packets.take n)).length := by
  obtain ⟨d, rfl⟩ := Nat.exists_eq_add_of_le le
  have more : frames (packets.take (m + d)) =
      frames (packets.take m) ++ frames ((packets.drop m).take d) := by
    rw [List.take_add, frames, List.flatMap_append]
    rfl
  rw [more, List.length_append]
  exact Nat.le_add_right _ _

namespace Cut

variable {packets : List Packet} {k n m : Nat} {part : Bytes}

/-- What there is of the next frame decides nothing. -/
theorem undecided (cut : Cut packets k n part)
    (bounded : ∀ packet ∈ packets, packet.bodyLength ≤ maxFrameLength) : ¬ Frame.Opens part := by
  rcases cut.proper with ⟨-, rfl⟩ | ⟨next, member, -, m, short, rfl⟩
  · exact Frame.not_opens_nil
  · exact not_opens_take_encode (bounded next member) short

/-- The frames that lie in front of the cut are the first `n`. -/
theorem le_iff (cut : Cut packets k n part) (listed : m ≤ packets.length) :
    (frames (packets.take m)).length ≤ k ↔ m ≤ n := by
  have length := cut.length
  constructor
  · intro inside
    refine Nat.le_of_not_lt fun later => ?_
    rcases cut.proper with ⟨all, -⟩ | ⟨next, -, follows, j, short, part⟩
    · omega
    · have grows := length_frames_take_mono packets (Nat.succ_le_of_lt later)
      have part := congrArg List.length part
      rw [Nat.succ_eq_add_one, follows, List.length_append] at grows
      rw [List.length_take] at part
      omega
  · intro earlier
    have grows := length_frames_take_mono packets earlier
    omega

theorem isBoundary_iff (cut : Cut packets k n part) : IsBoundary packets k ↔ part = [] := by
  have length := cut.length
  constructor
  · rintro ⟨m, listed, same⟩
    have earlier : m ≤ n := (cut.le_iff listed).1 (Nat.le_of_eq same.symm)
    have grows := length_frames_take_mono packets earlier
    exact List.length_eq_zero_iff.1 (by omega)
  · rintro rfl
    exact ⟨n, cut.count, by simpa using length⟩

end Cut

/-! ## Decoding -/

/-- Decoding gives the packets of whole frames one after the other, and fails at a part. -/
theorem decode_frames_torn {packets : List Packet} {part : Bytes}
    (bounded : ∀ packet ∈ packets, packet.bodyLength ≤ maxFrameLength)
    (undecided : ¬ Frame.Opens part) :
    ∃ fault left,
      Repeated decode (frames packets ++ part) packets (.malformedFrame fault) left := by
  induction packets with
  | nil =>
      obtain ⟨fault, left, failed⟩ := decode_torn undecided
      exact ⟨fault, left, .failed failed⟩
  | cons packet packets ih =>
      obtain ⟨fault, left, run⟩ := ih fun other member =>
        bounded other (List.mem_cons_of_mem packet member)
      have first := decode_encode (bounded packet List.mem_cons_self) (frames packets ++ part)
      rw [frames_cons, List.append_assoc]
      exact ⟨fault, left, .answered first run⟩

end Packet

/-! ## Reading from a stream -/

/-- A feed starts with a packet where its bytes start with a frame of the packet. -/
theorem Feed.starts_iff {feed rest : Feed} {packet : Packet} :
    feed.Starts packet rest ↔ ∃ frame bytes, Frame.Carries frame packet ∧
      feed.patient = frame ++ bytes ∧ rest = feed.skip frame.length := by
  constructor
  · rintro ⟨lead, body, bytes, whole, decoded, front, rfl⟩
    obtain ⟨idBytes, complete, id, rfl⟩ := Packet.decodeBody_eq_ok_iff.1 decoded
    refine ⟨_, bytes, ⟨lead, idBytes, ⟨whole, complete, id⟩, rfl⟩, ?_, ?_⟩
    · rw [front, ← List.append_assoc lead]
    · rw [← List.length_append]
  · rintro ⟨frame, bytes, ⟨lead, idBytes, spells, rfl⟩, front, rfl⟩
    refine ⟨lead, idBytes ++ packet.data, bytes, spells.whole, ?_, ?_, ?_⟩
    · rw [Packet.decodeBody_complete spells.id, spells.value]
    · rw [front, List.append_assoc]
    · rw [List.length_append]

/-- A stream whose bytes start with a written frame is read as far as that frame. -/
theorem Source.readPacket_encode {source : Source} {packet : Packet} {bytes : Bytes}
    (bounded : packet.bodyLength ≤ maxFrameLength)
    (front : source.feed.patient = packet.encode ++ bytes) :
    ∃ after : Source, source.readPacket = .ok packet after ∧ after.feed.patient = bytes ∧
      after.feed.ending = source.feed.ending ∧ after.feed.behind = source.feed.behind := by
  have starts : source.feed.Starts packet (source.feed.skip packet.encode.length) :=
    Feed.starts_iff.2 ⟨_, bytes, Packet.carries_encode bounded, front, rfl⟩
  obtain ⟨after, read, left⟩ := readPacket_of_starts starts
  have behind := Feed.skip_patient front
  rw [← left] at behind
  exact ⟨after, read, behind⟩

namespace Source

/-- A stream that ends where its bytes decide nothing was closed if there were none, and ends in the
middle of a frame if there were some. -/
theorem readPacket_ended {source : Source} (undecided : ¬ Frame.Opens source.feed.patient)
    (ended : source.feed.ending = none) :
    ∃ after : Source, after.feed = source.feed.behind ∧
      (source.feed.patient = [] → source.readPacket = .error .connectionClosed after) ∧
      (source.feed.patient ≠ [] →
        ∃ fault, source.readPacket = .error (.malformedFrame fault) after) := by
  obtain ⟨after, left, ⟨-, failed⟩ | ⟨lead, part, front, complete, failed⟩⟩ :=
    readPacket_torn undecided
  · refine ⟨after, left, fun nothing => ?_, fun something => ?_⟩
    · rw [failed, ended, nothing]
      rfl
    · have torn : source.feed.patient.isEmpty = false := by simpa using something
      rw [failed, ended, torn]
      exact ⟨_, rfl⟩
  · refine ⟨after, left, fun nothing => ?_, fun _ => ?_⟩
    · rw [nothing] at front
      have empty : lead = [] := (List.append_eq_nil_iff.1 front.symm).1
      exact absurd complete.length_pos (by simp [empty])
    · rw [failed, ended]
      exact ⟨_, rfl⟩

/-- Reading gives the packets of whole frames one after the other, however the bytes arrive.  Where
the stream ends then, it was closed if nothing of another frame came. -/
theorem readPacket_frames_torn {packets : List Packet} {part : Bytes} {source : Source}
    (bounded : ∀ packet ∈ packets, packet.bodyLength ≤ maxFrameLength)
    (undecided : ¬ Frame.Opens part)
    (front : source.feed.patient = Packet.frames packets ++ part)
    (ended : source.feed.ending = none) :
    ∃ after : Source, after.feed = source.feed.behind ∧
      (part = [] → Repeated readPacket source packets .connectionClosed after) ∧
      (part ≠ [] → ∃ fault, Repeated readPacket source packets (.malformedFrame fault) after) := by
  induction packets generalizing source with
  | nil =>
      have same : source.feed.patient = part := front
      subst same
      obtain ⟨after, left, closed, torn⟩ := readPacket_ended undecided ended
      refine ⟨after, left, fun nothing => .failed (closed nothing), fun something => ?_⟩
      obtain ⟨fault, failed⟩ := torn something
      exact ⟨fault, .failed failed⟩
  | cons packet packets ih =>
      rw [Packet.frames_cons, List.append_assoc] at front
      obtain ⟨middle, first, rest, ending, behind⟩ :=
        readPacket_encode (bounded packet List.mem_cons_self) front
      obtain ⟨after, last, closed, torn⟩ := ih
        (fun other member => bounded other (List.mem_cons_of_mem packet member)) rest
        (ending.trans ended)
      refine ⟨after, last.trans behind, fun nothing => .answered first (closed nothing), ?_⟩
      intro something
      obtain ⟨fault, run⟩ := torn something
      exact ⟨fault, .answered first run⟩

end Source

namespace Packet

/-- **Frames delimit themselves, wherever a sequence of them is cut.**  In front of the cut lie the
first `n` frames.  Decoding again and again gives their packets and then finds the frame malformed.
So does reading from a stream that ends there, however the bytes arrive, but where the cut lies
between two frames the stream was closed. -/
theorem frames_cut_anywhere (packets : List Packet)
    (bounded : ∀ packet ∈ packets, packet.bodyLength ≤ maxFrameLength) (k : Nat)
    (inside : k ≤ (frames packets).length) :
    ∃ n ≤ packets.length,
      (∀ m ≤ packets.length, (frames (packets.take m)).length ≤ k ↔ m ≤ n) ∧
      (∃ fault left, Repeated decode ((frames packets).take k) (packets.take n)
        (.malformedFrame fault) left) ∧
      ∀ source : Source, source.feed.patient = (frames packets).take k →
        source.feed.ending = none → ∃ after : Source, after.feed = source.feed.behind ∧
          (IsBoundary packets k →
            Repeated Source.readPacket source (packets.take n) .connectionClosed after) ∧
          (¬ IsBoundary packets k →
            ∃ fault, Repeated Source.readPacket source (packets.take n)
              (.malformedFrame fault) after) := by
  obtain ⟨n, part, cut⟩ := exists_cut packets inside
  have whole : ∀ packet ∈ packets.take n, packet.bodyLength ≤ maxFrameLength :=
    fun packet member => bounded packet (List.mem_of_mem_take member)
  refine ⟨n, cut.count, fun m listed => cut.le_iff listed, ?_, fun source front ended => ?_⟩
  · rw [cut.bytes]
    exact decode_frames_torn whole (cut.undecided bounded)
  · rw [cut.bytes] at front
    rw [cut.isBoundary_iff]
    exact Source.readPacket_frames_torn whole (cut.undecided bounded) front ended

/-- Two frames that arrive in pieces, up to the length of the second one. -/
theorem frames_cut_inside_second :
    let packets : List Packet := [⟨300, [7]⟩, ⟨1, []⟩]
    let source : Source := { script := [.chunk [3, 0xAC], .pause, .chunk [2, 7], .chunk [1]] }
    (∀ packet ∈ packets, packet.bodyLength ≤ maxFrameLength) ∧ 5 ≤ (frames packets).length ∧
      source.feed.patient = (frames packets).take 5 ∧ source.feed.ending = none ∧
      ¬ IsBoundary packets 5 ∧
      (∃ fault left, Repeated decode ((frames packets).take 5) [⟨300, [7]⟩]
        (.malformedFrame fault) left) ∧
      ∃ fault after,
        Repeated Source.readPacket source [⟨300, [7]⟩] (.malformedFrame fault) after := by
  intro packets source
  have bounded : ∀ packet ∈ packets, packet.bodyLength ≤ maxFrameLength := by decide +kernel
  have inside : 5 ≤ (frames packets).length := by decide +kernel
  have front : source.feed.patient = (frames packets).take 5 := by decide +kernel
  have torn : ¬ IsBoundary packets 5 := by
    rintro ⟨n, listed, same⟩
    have lengths : ∀ n ≤ packets.length, 5 ≠ (frames (packets.take n)).length := by decide +kernel
    exact lengths n listed same
  obtain ⟨n, -, lie, decoded, read⟩ := frames_cut_anywhere packets bounded 5 inside
  -- the first frame has four bytes, and both together have six
  have one : 1 ≤ n := (lie 1 (by decide)).1 (by decide +kernel)
  have two : ¬ 2 ≤ n := fun both =>
    absurd ((lie 2 (by decide)).2 both) (by decide +kernel)
  obtain rfl : n = 1 := by omega
  obtain ⟨after, -, -, failed⟩ := read source front rfl
  obtain ⟨fault, run⟩ := failed torn
  exact ⟨bounded, inside, front, rfl, torn, decoded, fault, after, run⟩

end Packet

end GameGateway
