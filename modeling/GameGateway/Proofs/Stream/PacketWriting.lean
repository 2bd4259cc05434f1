import GameGateway.Proofs.Stream.Acceptance
import GameGateway.Proofs.Stream.PacketSequence
import GameGateway.Session.Player
import Mathlib.Data.List.Induction
import Mathlib.Data.List.TakeDrop

/-!
# Packets over a stream that gets full

Packets are written one after another to a stream with room for so many bytes, and further ones also
where earlier ones failed.  One write takes the stream from a front of the frames before it to the
same front of the frames up to it, and flushes if its own frame is inside that front
(`Sink.writePacket_grown`).  So the stream always holds as many bytes of the frames as there was
room for (`Sink.stateAfter_grown`): nothing follows a frame that was torn.

`Sink.writes_up_to_room` adds what each write answers, and that a player's connection passes it on.
-/

namespace GameGateway

/-- A player's connection passes on what is written. -/
theorem Player.writePacket_follows (packet : Packet) :
    Follows (fun player : Player => player.peer.sink) (Player.writePacket packet)
      (Sink.writePacket packet) := by
  intro player
  simp only [Player.writePacket, Player.onPeer, Peer.writePacket, Peer.onSink]
  cases Sink.writePacket packet player.peer.sink <;> rfl

/-! ## Writing to a stream that gets full -/

theorem Packet.encode_length_pos (packet : Packet) : 0 < packet.encode.length := by
  have prefix' := (VarInt.encode_complete (UInt32.ofNat packet.bodyLength)).length_pos
  rw [encode, List.length_append]
  omega

namespace Sink

/-- What a write answers: what the flush behind it does if its frame got through, and otherwise that
there is no room. -/
def answer (sink : Sink) (through : Bool) : Except ProtocolError Unit :=
  match if through then sink.flushFault else some (sink.full.getD .writeZero) with
  | none => .ok ()
  | some e => .error (.io e)

theorem answer_eq_ok_iff {sink : Sink} {through : Bool} :
    sink.answer through = .ok () ↔ through = true ∧ sink.flushFault = none := by
  unfold answer
  cases through <;> cases sink.flushFault <;> simp

section Room

variable {sink now : Sink} {limit : Nat} {before : List Packet} {f : Nat}

/-- Behind some frames there is room for what is left of the limit. -/
theorem Grown.admits_eq (grown : Grown sink ((Packet.frames before).take limit) f 0 now)
    (room : sink.room = some limit) (positive : sink.perWrite ≠ some 0) (bytes : Bytes) :
    now.admits bytes = bytes.take (limit - (Packet.frames before).length) := by
  have left : now.allowance = some (limit - (Packet.frames before).length) := by
    rw [grown.allowance_eq, allowance, if_neg positive, room, Option.map_some, List.length_take]
    congr 1
    omega
  rw [admits, left]

/-- One more write: the stream holds as much of the frames as before, its own one included, and was
flushed once more if that is all of them. -/
theorem writePacket_grown (room : sink.room = some limit) (positive : sink.perWrite ≠ some 0)
    (grown : Grown sink ((Packet.frames before).take limit) f 0 now) (packet : Packet) :
    let through := decide ((Packet.frames (before ++ [packet])).length ≤ limit)
    outcomeOf (writePacket packet now) = sink.answer through ∧
      Grown sink ((Packet.frames (before ++ [packet])).take limit) (f + through.toNat) 0
        (stateOf (writePacket packet now)) := by
  intro through
  have frames : Packet.frames (before ++ [packet]) = Packet.frames before ++ packet.encode := by
    simp [Packet.frames]
  have whole : now.admits packet.encode = packet.encode ↔
      (Packet.frames (before ++ [packet])).length ≤ limit := by
    have pos := packet.encode_length_pos
    rw [grown.admits_eq room positive, List.take_eq_self_iff, frames, List.length_append]
    omega
  have front : (Packet.frames (before ++ [packet])).take limit =
      (Packet.frames before).take limit ++ now.admits packet.encode := by
    rw [grown.admits_eq room positive, frames, List.take_append]
  rw [front]
  rcases writePacket_spec packet now with ⟨fits, after, more, run⟩ | ⟨stuck, after, more, run⟩
  · have through' : through = true := decide_eq_true (whole.mp fits)
    rw [run, through', fits, answer, if_pos rfl, grown.flushFault]
    cases sink.flushFault <;> exact ⟨rfl, grown.trans more⟩
  · have through' : through = false := decide_eq_false (mt whole.mpr stuck)
    have refused : now.refusal = sink.full.getD .writeZero := by
      simp [refusal, grown.perWrite, grown.full, positive]
    rw [run, through', refused]
    exact ⟨rfl, grown.trans more⟩

/-- After some writes, the stream holds as much of their frames as there was room for. -/
theorem stateAfter_grown (room : sink.room = some limit) (positive : sink.perWrite ≠ some 0)
    (packets : List Packet) :
    ∃ f, Grown sink ((Packet.frames packets).take limit) f 0
      (stateAfter (packets.map writePacket) sink) := by
  induction packets using List.reverseRecOn with
  | nil =>
      rw [Packet.frames_nil, List.take_nil]
      exact ⟨0, .refl sink⟩
  | append_singleton packets packet ih =>
      obtain ⟨f, grown⟩ := ih
      have more := (writePacket_grown room positive grown packet).2
      rw [List.map_append, List.map_singleton, stateAfter_append_singleton]
      exact ⟨_, more⟩

/-- What one of the writes answers, and how often it flushes. -/
theorem writePacket_at (room : sink.room = some limit) (positive : sink.perWrite ≠ some 0)
    {packets : List Packet} {i : Nat} (inside : i < packets.length) :
    let writes := packets.map writePacket
    let through := decide ((Packet.frames (packets.take (i + 1))).length ≤ limit)
    (outcomes writes sink)[i]? = some (sink.answer through) ∧
      (stateAfter (writes.take (i + 1)) sink).flushes =
        (stateAfter (writes.take i) sink).flushes + through.toNat := by
  intro writes through
  have upTo : packets.take (i + 1) = packets.take i ++ [packets[i]] :=
    List.take_succ_eq_append_getElem inside
  obtain ⟨f, grown⟩ := stateAfter_grown room positive (packets.take i)
  obtain ⟨outcome, more⟩ := writePacket_grown room positive grown packets[i]
  rw [← upTo] at outcome more
  refine ⟨?_, ?_⟩
  · rw [getElem?_outcomes, List.getElem?_map, List.getElem?_eq_getElem inside, ← List.map_take]
    exact congrArg some outcome
  · rw [← List.map_take, ← List.map_take, upTo, List.map_append, List.map_singleton,
      stateAfter_append_singleton, more.flushes, grown.flushes, Nat.add_assoc]

/-- **Packets that are written one after another to a stream with room for so many bytes**, with
failed writes between.

* In the end the stream holds as many bytes of the frames as there was room for, however few one
  write accepts.
* A write succeeds just where the frames up to its own one got through and can be flushed.  If they
  did not get through, it answers what the stream answers for want of room.
* A write flushes once if its frame got through, and otherwise not at all.
* A player's connection passes all this on. -/
theorem writes_up_to_room (room : sink.room = some limit) (positive : sink.perWrite ≠ some 0)
    (packets : List Packet) :
    let writes := packets.map writePacket
    (stateAfter writes sink).written = sink.written ++ (Packet.frames packets).take limit ∧
      (outcomes writes sink).length = packets.length ∧
      (∀ i < packets.length,
        let through := (Packet.frames (packets.take (i + 1))).length ≤ limit
        let answered := (outcomes writes sink)[i]?
        let flushes (n : Nat) := (stateAfter (writes.take n) sink).flushes
        (answered = some (.ok ()) ↔ through ∧ sink.flushFault = none) ∧
          (¬ through →
            answered = some (.error (.io (sink.full.getD ⟨.writeZero, "write zero"⟩)))) ∧
          (through → ∀ e, sink.flushFault = some e → answered = some (.error (.io e))) ∧
          flushes (i + 1) = flushes i + if through then 1 else 0) ∧
      ∀ player : Player, player.peer.sink = sink →
        outcomes (packets.map Player.writePacket) player = outcomes writes sink ∧
          (stateAfter (packets.map Player.writePacket) player).peer.sink =
            stateAfter writes sink := by
  intro writes
  refine ⟨?_, ?_, ?_, ?_⟩
  · obtain ⟨f, grown⟩ := stateAfter_grown room positive packets
    exact grown.written
  · rw [length_outcomes, List.length_map]
  · intro i inside through answered flushes
    obtain ⟨outcome, flushed⟩ := writePacket_at room positive inside
    have answered' : answered = some (sink.answer (decide through)) := outcome
    refine ⟨?_, fun stuck => ?_, fun fits e fault => ?_, ?_⟩
    · rw [answered', Option.some.injEq, answer_eq_ok_iff, decide_eq_true_eq]
    · rw [answered', decide_eq_false stuck]
      rfl
    · rw [answered', decide_eq_true fits, answer, if_pos rfl, fault]
    · exact flushed.trans (congrArg _ (Bool.cond_decide through 1 0))
  · rintro player rfl
    obtain ⟨answers, state⟩ := Follows.runEach Player.writePacket_follows packets player
    exact ⟨answers.symm, state.symm⟩

/-- Room that ends inside the second of three frames: the second one is torn, and the third one,
short as it is, does not follow it. -/
theorem writes_up_to_room_torn :
    let sink : Sink := { perWrite := some 2, room := some 7 }
    let packets : List Packet := [⟨0, [1, 2]⟩, ⟨1, [5, 6, 7]⟩, ⟨2, []⟩]
    let writes := packets.map writePacket
    sink.room = some 7 ∧ sink.perWrite ≠ some 0 ∧
      (stateAfter writes sink).written = [3, 0, 1, 2, 4, 1, 5] ∧
      (outcomes writes sink)[0]? = some (.ok ()) ∧
      (outcomes writes sink)[1]? = some (.error (.io ⟨.writeZero, "write zero"⟩)) ∧
      (outcomes writes sink)[2]? = some (.error (.io ⟨.writeZero, "write zero"⟩)) := by
  intro sink packets writes
  have room : sink.room = some 7 := rfl
  have positive : sink.perWrite ≠ some 0 := by decide
  obtain ⟨written, -, each, -⟩ := writes_up_to_room room positive packets
  have front : sink.written ++ (Packet.frames packets).take 7 = [3, 0, 1, 2, 4, 1, 5] := by
    decide +kernel
  refine ⟨room, positive, written.trans front, ?_, ?_, ?_⟩
  · exact (each 0 (by decide)).1.mpr ⟨by decide +kernel, rfl⟩
  · exact (each 1 (by decide)).2.1 (by decide +kernel)
  · exact (each 2 (by decide)).2.1 (by decide +kernel)

end Room

end Sink

end GameGateway
