import GameGateway.Proofs.Session.Alike
import GameGateway.Proofs.Stream.Trace
import GameGateway.Session.Tunnel

/-!
# Traces of players, connections and tunnels

Whatever is asked of a player or of a connection to a backend is asked by reading and writing
packets, so it meets the contract of those: `Player.Careful` and `BackendLink.Careful` say that the
stream is going where an action answers and has stopped where it fails.

A tunnel reads bare.  Each direction stops at its first failed read, write or flush, or shuts down
at the end of what it reads, and the other direction has no hand in that (`Tunnel.join_stops`).
-/

namespace GameGateway

/-! ## Players -/

namespace Player

variable {ε ε' α β : Type} {peer : Peer}

/-- An action on a player who was `peer`, that is made while the stream is going and stops no later
than the stream does. -/
def Careful (peer : Peer) (act : EStateM ε Player α) : Prop :=
  Meets (fun player => peer.Going player.peer) act (fun _ player => peer.Going player.peer)
    fun player => peer.Stopped Reading.patient player.peer

theorem stops (player : Player) :
    peer.Going player.peer → peer.Stopped Reading.patient player.peer :=
  Peer.Going.stopped

theorem pure_careful (a : α) : Careful peer (pure a : EStateM ε Player α) :=
  .pure fun _ => id

theorem throw_careful (e : ε) : Careful peer (throw e : EStateM ε Player α) :=
  .throw stops

/-- What is only kept or reported does not reach the stream. -/
theorem modify_careful {f : Player → Player} (same : ∀ player, (f player).peer = player.peer) :
    Careful peer (modify f : EStateM ε Player PUnit) := by
  refine .modify fun player going => ?_
  rwa [same player]

theorem note_careful (event : Event) : Careful peer (note event : EStateM ε Player Unit) :=
  modify_careful fun _ => rfl

theorem onPeer_careful {act : EStateM ε Peer α}
    (meets : Meets peer.Going act (fun _ => peer.Going) (peer.Stopped Reading.patient)) :
    Careful peer (onPeer act) := by
  rw [onPeer_eq]
  exact .onPart _ _ meets (fun _ => id) (fun _ _ _ _ => id) fun _ _ _ => id

theorem readPacket_careful : Careful peer readPacket :=
  onPeer_careful peer.readPacket_meets

theorem writePacket_careful (packet : Packet) : Careful peer (writePacket packet) :=
  onPeer_careful (peer.writePacket_meets packet)

theorem handshakePacket_careful : Careful peer handshakePacket := by
  refine .get_bind fun player => ?_
  cases player.cache.handshakePacket with
  | some packet => exact pure_careful packet
  | none =>
      refine .bind (readPacket_careful.adaptExcept _) fun packet => ?_
      exact .bind (modify_careful fun _ => rfl) fun _ => pure_careful packet

theorem handshake_careful : Careful peer handshake := by
  refine .get_bind fun player => ?_
  cases player.cache.handshake with
  | some handshake => exact pure_careful handshake
  | none =>
      refine .bind handshakePacket_careful fun packet => ?_
      cases Handshake.ofPacket packet with
      | error e => exact throw_careful _
      | ok handshake =>
          refine .bind (note_careful _) fun _ => ?_
          exact .bind (modify_careful fun _ => rfl) fun _ => pure_careful handshake

theorem loginPacket_careful : Careful peer loginPacket := by
  refine .get_bind fun player => ?_
  cases player.cache.loginPacket with
  | some packet => exact pure_careful packet
  | none =>
      refine .bind (readPacket_careful.adaptExcept _) fun packet => ?_
      exact .bind (modify_careful fun _ => rfl) fun _ => pure_careful packet

theorem loginStart_careful : Careful peer loginStart := by
  refine .bind loginPacket_careful fun packet => ?_
  cases LoginStart.ofPacket packet with
  | error e => exact throw_careful _
  | ok login => exact .bind (modify_careful fun _ => rfl) fun _ => pure_careful packet

end Player

/-! ## Connections to backends -/

namespace BackendLink

variable {ε α : Type} {peer : Peer}

/-- An action on a connection that was `peer`, that is made while the stream is going and stops no
later than the stream does. -/
def Careful (peer : Peer) (act : EStateM ε BackendLink α) : Prop :=
  Meets (fun link => peer.Going link.peer) act (fun _ link => peer.Going link.peer)
    fun link => peer.Stopped Reading.patient link.peer

theorem onPeer_careful {act : EStateM ε Peer α}
    (meets : Meets peer.Going act (fun _ => peer.Going) (peer.Stopped Reading.patient)) :
    Careful peer (onPeer act) := by
  rw [onPeer_eq]
  exact .onPart _ _ meets (fun _ => id) (fun _ _ _ _ => id) fun _ _ _ => id

theorem writeAll_careful (bytes : Bytes) : Careful peer (onPeer (Peer.writeAll bytes)) :=
  onPeer_careful (peer.writeAll_meets bytes)

theorem sendPacket_careful (packet : Packet) : Careful peer (sendPacket packet) :=
  onPeer_careful (peer.writePacket_meets packet)

theorem status_careful : Careful peer status :=
  .get_bind fun link => .bind (sendPacket_careful link.statusRequest) fun _ =>
    onPeer_careful peer.readPacket_meets

end BackendLink

/-! ## Tunnels -/

namespace Tunnel

/-- One direction, for a source and a sink that are going. -/
theorem copy_stops (total : Nat) {first source : Source} {first' sink : Sink}
    (reads : Source.Going Reading.bare first source) (calls : Sink.Going first' sink) :
    Source.Stopped Reading.bare first (copy total source sink).2.1 ∧
      Sink.Stopped first' (copy total source sink).2.2 := by
  have positive : 0 < bufferSize := by decide
  have piece (bytes : Bytes) : Meets (Sink.Going first')
      (do Sink.writeAll bytes; Sink.flush : EStateM IoError Sink Unit)
      (fun _ => Sink.Going first') (Sink.Stopped first') :=
    .bind (first'.writeAll_meets bytes) fun _ => first'.flush_meets
  fun_induction copy total source sink with
  | case1 total source sink b bs rest answered _ _ middle run ih =>
      exact ih ((reads.read positive answered).2 rfl) ((piece (b :: bs)).ok calls run)
  | case2 total source sink b bs rest answered _ e after run =>
      exact ⟨(reads.read positive answered).1, (piece (b :: bs)).error calls run⟩
  | case3 total source sink e rest answered =>
      exact ⟨(reads.read positive answered).1, calls.stopped⟩
  | case4 total source sink rest answered _ after run
  | case6 total source sink rest answered _ after run =>
      exact ⟨(reads.read positive answered).1, first'.shutdown_meets.ok calls run⟩
  | case5 total source sink rest answered e after run
  | case7 total source sink rest answered e after run =>
      exact ⟨(reads.read positive answered).1, first'.shutdown_meets.error calls run⟩

/-- **A tunnel makes no bare read behind a fault or an end, and no call behind one that failed**, on
either of its peers. -/
theorem join_stops (a b : Peer) :
    a.Stopped Reading.bare (join a b).a ∧ b.Stopped Reading.bare (join a b).b := by
  have forth := copy_stops 0 (.refl a.source) (.refl b.sink)
  have back := copy_stops 0 (.refl b.source) (.refl a.sink)
  exact ⟨⟨forth.1, back.2⟩, ⟨back.1, forth.2⟩⟩

end Tunnel

end GameGateway
