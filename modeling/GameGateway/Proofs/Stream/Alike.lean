import GameGateway.Proofs.Stream.Acceptance
import GameGateway.Proofs.Stream.PacketReader
import GameGateway.Proofs.TwoRun

/-!
# Streams that differ in timing

Two sources are alike if they send the same bytes between the same faults and ends; how the bytes
are cut and where reads are suspended may differ.  Two sinks are alike if they differ at most in how
much a single write accepts, which must be something.  Packets are read from and written to alike
streams with the same answers, and what is left is alike.
-/

namespace GameGateway

/-! ## Sources -/

/-- Sources with the same feed. -/
def Source.Alike (first second : Source) : Prop :=
  first.feed = second.feed

theorem Source.readPacket_alike : TwoRun Alike Alike readPacket :=
  .of_follows readPacket_follows

/-! ## Sinks -/

namespace Sink

/-- Sinks that differ at most in how much a single write accepts and in the calls that got the same
bytes accepted. -/
structure Alike (first second : Sink) : Prop where
  accepts : first.perWrite ≠ some 0 ∧ second.perWrite ≠ some 0
  room : first.room = second.room
  full : first.full = second.full
  flushes : first.flushFault = none ∧ second.flushFault = none
  shutdownFault : first.shutdownFault = second.shutdownFault
  written : first.written = second.written

namespace Alike

variable {first second first' second' : Sink}

theorem admits (alike : Alike first second) (bytes : Bytes) :
    first.admits bytes = second.admits bytes := by
  unfold Sink.admits allowance
  rw [if_neg alike.accepts.1, if_neg alike.accepts.2, alike.room]

theorem refusal (alike : Alike first second) : first.refusal = second.refusal := by
  have open' : ¬ (first.perWrite = some 0 ∧ first.room ≠ some 0) :=
    fun closed => alike.accepts.1 closed.1
  have open'' : ¬ (second.perWrite = some 0 ∧ second.room ≠ some 0) :=
    fun closed => alike.accepts.2 closed.1
  unfold Sink.refusal
  rw [if_neg open', if_neg open'', alike.full]

/-- Sinks that got the same bytes stay alike, however many flushes there were. -/
theorem grown {bytes : Bytes} {f g m n : Nat} (alike : Alike first second)
    (left : Grown first bytes f m first') (right : Grown second bytes g n second') :
    Alike first' second' where
  accepts := by
    rw [left.perWrite, right.perWrite]
    exact alike.accepts
  room := by rw [left.room, right.room, alike.room]
  full := by rw [left.full, right.full, alike.full]
  flushes := by
    rw [left.flushFault, right.flushFault]
    exact alike.flushes
  shutdownFault := by rw [left.shutdownFault, right.shutdownFault, alike.shutdownFault]
  written := by rw [left.written, right.written, alike.written]

end Alike

theorem writeAll_alike (bytes : Bytes) : TwoRun Alike Alike (writeAll bytes) := by
  intro first second alike
  obtain ⟨first', left, run⟩ := writeAll_spec bytes first
  obtain ⟨second', right, run'⟩ := writeAll_spec bytes second
  rw [run, run', alike.admits bytes, alike.refusal]
  rw [alike.admits bytes] at left
  have after := alike.grown left right
  split
  · exact .ok () after
  · exact .error _ after

theorem flush_alike : TwoRun Alike Alike flush := by
  intro first second alike
  obtain ⟨first', left, run⟩ := flush_spec first
  obtain ⟨second', right, run'⟩ := flush_spec second
  rw [run, run', alike.flushes.1, alike.flushes.2]
  exact .ok () (alike.grown left right)

theorem writePacket_alike (packet : Packet) : TwoRun Alike Alike (writePacket packet) :=
  .seq ((writeAll_alike packet.encode).adaptExcept ProtocolError.io)
    fun _ => flush_alike.adaptExcept ProtocolError.io

/-- What was carried of the same bytes is the same. -/
theorem Carried.written_eq {first second first' second' : Sink} {bytes : Bytes}
    (alike : Alike first second) (left : Carried bytes first first')
    (right : Carried bytes second second') : first'.written = second'.written := by
  obtain ⟨sent, _, _, grown, -, all⟩ := left
  obtain ⟨sent', _, _, grown', -, all'⟩ := right
  rw [grown.written, grown'.written, all alike.flushes.1, all' alike.flushes.2, alike.written,
    alike.admits bytes]

end Sink

/-! ## Both sides -/

namespace Peer

/-- Peers of whom both sides are alike. -/
structure Alike (first second : Peer) : Prop where
  source : Source.Alike first.source second.source
  sink : Sink.Alike first.sink second.sink

section Parts

variable {ε α : Type}

theorem onSource_eq (act : EStateM ε Source α) :
    onSource act = onPart Peer.source (fun peer source => { peer with source }) act := by
  funext peer
  unfold onSource onPart
  cases act peer.source <;> rfl

theorem onSink_eq (act : EStateM ε Sink α) :
    onSink act = onPart Peer.sink (fun peer sink => { peer with sink }) act := by
  funext peer
  unfold onSink onPart
  cases act peer.sink <;> rfl

end Parts

theorem readPacket_alike : TwoRun Alike Alike readPacket := by
  unfold readPacket
  rw [onSource_eq]
  exact .onPart _ _ Source.readPacket_alike (fun _ _ alike => alike.source)
    fun _ _ alike _ _ source => ⟨source, alike.sink⟩

theorem onSink_alike {ε α : Type} {act : EStateM ε Sink α}
    (run : TwoRun Sink.Alike Sink.Alike act) : TwoRun Alike Alike (onSink act) := by
  rw [onSink_eq]
  exact .onPart _ _ run (fun _ _ alike => alike.sink)
    fun _ _ alike _ _ sink => ⟨alike.source, sink⟩

theorem writeAll_alike (bytes : Bytes) : TwoRun Alike Alike (writeAll bytes) :=
  onSink_alike (Sink.writeAll_alike bytes)

theorem writePacket_alike (packet : Packet) : TwoRun Alike Alike (writePacket packet) :=
  onSink_alike (Sink.writePacket_alike packet)

end Peer

end GameGateway
