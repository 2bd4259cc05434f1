import GameGateway.Proofs.Routing.BackendConnection
import GameGateway.Proofs.Routing.Dispatch

/-!
# The player's side of a status session

A status session asks the backend first and the player afterwards.  While the backend is asked, the
player's stream is left alone (`Backend.SparesPlayer`).  Then the player's request is read, the
backend's answer is written and flushed, and one ping is read and echoed; every step is made in the
state that the step before it has left, and none is made behind one that failed
(`Gateway.Exchanged`).  `Gateway.status_session` puts the two together for every session.
-/

namespace GameGateway

/-! ## Packets from a player -/

namespace Source

variable {source after : Source} {packet : Packet} {e : ProtocolError}

theorem feed_readPacket_ok (read : source.readPacket = .ok packet after) :
    source.feed.readPacket = .ok packet after.feed := by
  rw [Source.readPacket_follows source, read]
  rfl

theorem feed_readPacket_error (read : source.readPacket = .error e after) :
    source.feed.readPacket = .error e after.feed := by
  rw [Source.readPacket_follows source, read]
  rfl

end Source

/-! ## Packets to a player -/

namespace Player

/-- A player on whose stream some calls were made. -/
def withSink (player : Player) (sink : Sink) : Player :=
  { player with peer := { player.peer with sink } }

/-- The results of writing a packet to a player: it got through and was flushed, it got through and
the flush failed, or only a front of it got through.  Nothing is read. -/
inductive Delivered (packet : Packet) (player : Player) :
    EStateM.Result ProtocolError Player Unit → Prop
  | through {sink : Sink} : player.peer.sink.flushFault = none →
    player.peer.sink.Grown packet.encode 1 0 sink →
    Delivered packet player (.ok () (player.withSink sink))
  | unflushed {e : IoError} {sink : Sink} : player.peer.sink.flushFault = some e →
    player.peer.sink.Grown packet.encode 1 0 sink →
    Delivered packet player (.error (.io e) (player.withSink sink))
  | stuck {sink : Sink} : player.peer.sink.admits packet.encode ≠ packet.encode →
    player.peer.sink.Grown (player.peer.sink.admits packet.encode) 0 0 sink →
    Delivered packet player (.error (.io player.peer.sink.refusal) (player.withSink sink))

theorem writePacket_eq (packet : Packet) (player : Player) :
    writePacket packet player =
      onState player.withSink (Sink.writePacket packet player.peer.sink) := by
  simp only [writePacket, onPeer, Peer.writePacket, Peer.onSink]
  cases Sink.writePacket packet player.peer.sink <;> rfl

theorem writePacket_delivered (packet : Packet) (player : Player) :
    Delivered packet player (writePacket packet player) := by
  rw [writePacket_eq]
  rcases Sink.writePacket_spec packet player.peer.sink with
    ⟨-, sink, grown, run⟩ | ⟨stuck, sink, grown, run⟩
  · rw [run]
    cases fault : player.peer.sink.flushFault with
    | none => exact .through fault grown
    | some e => exact .unflushed fault grown
  · rw [run]
    exact .stuck stuck grown

end Player

/-! ## Backends that leave the player alone -/

/-- What is done over a connection and leaves the player's stream alone. -/
def Exchange.SparesPeer (before after : Exchange) : Prop :=
  after.player.peer = before.player.peer

namespace ServerBackend

variable (backend : ServerBackend)

theorem fetchStatus_spares : Moves Exchange.SparesPeer backend.fetchStatus := by
  refine .bind (fun _ => rfl) (fun _ _ _ first second => second.trans first) (fun exchange => ?_)
    fun response => ?_
  · unfold Exchange.onServer Exchange.SparesPeer
    cases (BackendLink.status.adaptExcept GatewayError.protocol) exchange.server <;> rfl
  · cases StatusResponse.ofPacket response with
    | error e => exact fun _ => rfl
    | ok _ => exact fun _ => rfl

/-- A backend behind a connector asks the player for nothing, once its handshake packet is known. -/
theorem status_spares {session : Session} {packet : Packet}
    (known : session.player.cache.handshakePacket = some packet) :
    (stateOf (backend.withConnection backend.fetchStatus session)).player.peer =
      session.player.peer := by
  have read := Player.handshakePacket_cached known
  cases dial : session.outbound.connect backend.connector with
  | mk answer outbound =>
      cases answer with
      | failed e =>
          rw [withConnection_failed read dial]
          rfl
      | connected link =>
          rw [withConnection_connected read dial, stateOf_onState]
          let opening : Exchange := ⟨announced backend session.outbound session.player, link⟩
          have greeted : (stateOf (backend.greet packet opening)).player.peer =
              session.player.peer :=
            (greet_sent backend packet opening.player link).player_noted.peer
          have fetched := Moves.from_first (R := Exchange.SparesPeer) (fun _ => rfl)
            (backend.greet packet) (fun _ => backend.fetchStatus_spares) opening
          exact fetched.trans greeted

end ServerBackend

/-- A backend that is behind a connector, or whose status does not touch the player's stream. -/
inductive Backend.SparesPlayer : Backend → Prop
  | server (backend : ServerBackend) : SparesPlayer (.server backend)
  | untouched {backend : Backend} : (∀ session,
      (stateOf (backend.status session)).player.peer = session.player.peer) → SparesPlayer backend

theorem Backend.SparesPlayer.peer_eq {backend : Backend} (spares : backend.SparesPlayer)
    {session : Session} {packet : Packet}
    (known : session.player.cache.handshakePacket = some packet) :
    (stateOf (backend.status session)).player.peer = session.player.peer := by
  cases spares with
  | server backend => exact backend.status_spares known
  | untouched spared => exact spared session

namespace Gateway

/-! ## The exchange with the player -/

/-- How an exchange goes on once the status was answered. -/
inductive Pinged (player : Player) : EStateM.Result GatewayError Player Unit → Prop
  /-- The stream was closed in front of a further packet. -/
  | closed {source : Source} :
    player.peer.source.feed.readPacket = .error .connectionClosed source.feed →
    Pinged player (.ok () (player.withSource source))
  /-- A further packet cannot be read. -/
  | unread {e : ProtocolError} {source : Source} :
    player.peer.source.feed.readPacket = .error e source.feed → e ≠ .connectionClosed →
    Pinged player (.error (.protocol e) (player.withSource source))
  /-- It is no ping. -/
  | unexpected {ping : Packet} {source : Source} :
    player.peer.source.feed.readPacket = .ok ping source.feed → ping.id ≠ 1 →
    Pinged player (.error (.unexpectedPacket 1 ping.id) (player.withSource source))
  /-- It is a ping, and cannot be echoed. -/
  | unechoed {ping : Packet} {source : Source} {e : ProtocolError} {after : Player} :
    player.peer.source.feed.readPacket = .ok ping source.feed → ping.id = 1 →
    (player.withSource source).Delivered ping (.error e after) →
    Pinged player (.error (.protocol e) after)
  /-- It is a ping, and is echoed. -/
  | echoed {ping : Packet} {source : Source} {after : Player} :
    player.peer.source.feed.readPacket = .ok ping source.feed → ping.id = 1 →
    (player.withSource source).Delivered ping (.ok () after) →
    Pinged player (.ok () after)

/-- How an exchange with a player ends.  The answer is written behind the read of the request, and
what comes behind the answer is read once the answer is written and flushed. -/
inductive Exchanged (response : Packet) (player : Player) :
    EStateM.Result GatewayError Player Unit → Prop
  /-- The request cannot be read. -/
  | unread {e : ProtocolError} {source : Source} :
    player.peer.source.feed.readPacket = .error e source.feed →
    Exchanged response player (.error (.protocol e) (player.withSource source))
  /-- The next packet is no status request. -/
  | unexpected {request : Packet} {source : Source} :
    player.peer.source.feed.readPacket = .ok request source.feed → request.id ≠ 0 →
    Exchanged response player
      (.error (.unexpectedPacket 0 request.id) (player.withSource source))
  /-- The answer does not get through. -/
  | unanswered {request : Packet} {source : Source} {e : ProtocolError} {after : Player} :
    player.peer.source.feed.readPacket = .ok request source.feed → request.id = 0 →
    (player.withSource source).Delivered response (.error e after) →
    Exchanged response player (.error (.protocol e) after)
  /-- The answer gets through. -/
  | answered {request : Packet} {source : Source} {answered : Player}
    {result : EStateM.Result GatewayError Player Unit} :
    player.peer.source.feed.readPacket = .ok request source.feed → request.id = 0 →
    (player.withSource source).Delivered response (.ok () answered) →
    Pinged answered result →
    Exchanged response player result

section Reads

variable {player : Player} {source : Source} {packet : Packet} {e : ProtocolError}

theorem nextPacket?_ok (read : player.peer.source.readPacket = .ok packet source) :
    answerStatus.nextPacket? player = .ok (some packet) (player.withSource source) := by
  simp only [answerStatus.nextPacket?, Player.readPacket_ok read]

theorem nextPacket?_closed
    (read : player.peer.source.readPacket = .error .connectionClosed source) :
    answerStatus.nextPacket? player = .ok none (player.withSource source) := by
  simp only [answerStatus.nextPacket?, Player.readPacket_error read]
  rfl

theorem nextPacket?_error (read : player.peer.source.readPacket = .error e source)
    (other : e ≠ .connectionClosed) :
    answerStatus.nextPacket? player = .error (.protocol e) (player.withSource source) := by
  have unclosed : e.isConnectionClosed = false := by
    cases e with
    | connectionClosed => exact absurd rfl other
    | _ => rfl
  simp only [answerStatus.nextPacket?, Player.readPacket_error read, unclosed]
  rfl

end Reads

/-- What is done once the status was answered. -/
theorem ping_pinged (player : Player) :
    Pinged player ((do
      match ← answerStatus.nextPacket? with
      | none => return
      | some ping =>
        MonadExcept.ofExcept (expect Ping.packetId ping)
        (Player.writePacket ping).adaptExcept .protocol :
      EStateM GatewayError Player Unit) player) := by
  cases read : player.peer.source.readPacket with
  | error e source =>
      by_cases closed : e = .connectionClosed
      · subst closed
        rw [bind_ok (nextPacket?_closed read)]
        exact .closed (Source.feed_readPacket_error read)
      · rw [bind_error (nextPacket?_error read closed)]
        exact .unread (Source.feed_readPacket_error read) closed
  | ok ping source =>
      rw [bind_ok (nextPacket?_ok read)]
      dsimp only
      by_cases isPing : ping.id = 1
      · have right : expect Ping.packetId ping = .ok () := if_pos isPing
        rw [right]
        have delivered := Player.writePacket_delivered ping (player.withSource source)
        cases written : Player.writePacket ping (player.withSource source) with
        | ok u after =>
            rw [written] at delivered
            rw [bind_ok (ofExcept_ok () _), adaptExcept_ok _ written]
            exact .echoed (Source.feed_readPacket_ok read) isPing delivered
        | error e after =>
            rw [written] at delivered
            rw [bind_ok (ofExcept_ok () _), adaptExcept_error _ written]
            exact .unechoed (Source.feed_readPacket_ok read) isPing delivered
      · have wrong : expect Ping.packetId ping = .error (.unexpectedPacket 1 ping.id) :=
          if_neg isPing
        rw [wrong]
        exact .unexpected (Source.feed_readPacket_ok read) isPing

/-- **The exchange with the player is a read, a write, a read and a write**, each in the state that
the one before it has left. -/
theorem answerStatus_exchanged (response : Packet) (player : Player) :
    Exchanged response player (answerStatus response player) := by
  unfold answerStatus
  cases read : player.peer.source.readPacket with
  | error e source =>
      rw [bind_error (adaptExcept_error _ (Player.readPacket_error read))]
      exact .unread (Source.feed_readPacket_error read)
  | ok request source =>
      rw [bind_ok (adaptExcept_ok _ (Player.readPacket_ok read))]
      by_cases asked : request.id = 0
      · have right : expect statusRequestId request = .ok () := if_pos asked
        rw [right, bind_ok (ofExcept_ok () _)]
        have delivered := Player.writePacket_delivered response (player.withSource source)
        cases written : Player.writePacket response (player.withSource source) with
        | ok u answered =>
            rw [written] at delivered
            rw [bind_ok (adaptExcept_ok _ written)]
            exact .answered (Source.feed_readPacket_ok read) asked delivered (ping_pinged answered)
        | error e after =>
            rw [written] at delivered
            rw [bind_error (adaptExcept_error _ written)]
            exact .unanswered (Source.feed_readPacket_ok read) asked delivered
      · have wrong : expect statusRequestId request = .error (.unexpectedPacket 0 request.id) :=
          if_neg asked
        rw [wrong]
        exact .unexpected (Source.feed_readPacket_ok read) asked

/-! ## A whole session -/

/-- The results of a status session of which the player was read up to `behind` before the backend
was asked.  The backend leaves the player's stream as it was: nothing was written, and what is left
to read is all of `behind`. -/
inductive StatusSession (backend : Backend) (session : Session) (behind : Feed) :
    EStateM.Result GatewayError Session Outcome → Prop
  /-- The backend fails, and the session with it. -/
  | failed {start after : Session} {e : GatewayError} :
    Heard session behind start → backend.status start = .error e after →
    after.player.peer = start.player.peer →
    StatusSession backend session behind (.error e (handle.leave after))
  /-- The backend answers, and the exchange fails. -/
  | unserved {start after : Session} {response : Packet} {e : GatewayError} {player : Player} :
    Heard session behind start → backend.status start = .ok response after →
    after.player.peer = start.player.peer →
    Exchanged response after.player (.error e player) →
    StatusSession backend session behind (.error e (handle.leave { after with player }))
  /-- The backend answers, and the exchange comes to its end. -/
  | served {start after : Session} {response : Packet} {player : Player} :
    Heard session behind start → backend.status start = .ok response after →
    after.player.peer = start.player.peer →
    Exchanged response after.player (.ok () player) →
    StatusSession backend session behind (.ok .status (handle.leave { after with player }))

/-- **The player's side of a status session.**  Whoever sends a handshake with next state 1 and an
address that has a backend gets the backend asked, with nothing written and nothing read behind the
handshake's frame whether or not the backend answers; and an answer is handed over in the exchange
alone. -/
theorem status_session (world : World) (peer : Peer) (remote localAddress : SocketAddress)
    {packet : Packet} {handshake : Handshake} {behind : Feed} {backend : Backend}
    (opens : peer.source.feed.Starts packet behind)
    (shaken : Handshake.ofPacket packet = .ok handshake) (status : handshake.nextState = 1)
    (found : world.store.lookup handshake.serverAddress = some backend)
    (spares : backend.SparesPlayer) :
    StatusSession backend (world.session peer remote localAddress) behind
      (handle world.store (world.session peer remote localAddress)) := by
  have decided : decision world.store.lookup peer.source.feed = (.status backend, behind) := by
    unfold decision decideHandshake
    rw [Feed.readPacket_eq_ok_iff.mpr opens]
    simp only [shaken, status, found, if_true]
  have served := handle_served world.store (world.session peer remote localAddress) rfl
  have untouched {start : Session}
      (heard : Heard (world.session peer remote localAddress) behind start) :
      (stateOf (backend.status start)).player.peer = start.player.peer :=
    spares.peer_eq (heard.kept packet opens)
  generalize handle world.store (world.session peer remote localAddress) = result at served ⊢
  change Served _ (decision world.store.lookup peer.source.feed).2
    (decision world.store.lookup peer.source.feed).1 _ at served
  rw [decided] at served
  cases served with
  | statusFailed heard called =>
      have same := untouched heard
      rw [called] at same
      exact .failed heard called same
  | statusUnserved heard called answered =>
      have same := untouched heard
      rw [called] at same
      exact .unserved heard called same (answered ▸ answerStatus_exchanged _ _)
  | statusServed heard called answered =>
      have same := untouched heard
      rw [called] at same
      exact .served heard called same (answered ▸ answerStatus_exchanged _ _)

/-- A player that asks for the status and sends a ping gets the backend's answer and its ping. -/
theorem status_session_ping :
    let lobby : ServerBackend := { id := "lobby", connector := 0 }
    let answer : Peer := { source := { script := [.chunk [3, 0, 1, 120]] } }
    let world : World :=
      { store := .single (some (.server lobby))
        outbound := { connectors := [.listed [.connected { peer := answer }]] } }
    let ping : Bytes := [9, 1, 1, 2, 3, 4, 5, 6, 7, 8]
    let script : List Arrival := [.chunk [7, 0, 0, 1, 97, 0, 1, 1, 1, 0], .chunk ping]
    let peer : Peer := { source := { script } }
    let session := world.session peer ⟨.v4 0x7F000001, 50000, 0⟩ ⟨.v4 0x7F000001, 25565, 0⟩
    let result := handle world.store session
    StatusSession (.server lobby) session (Arrival.feed [.chunk [1, 0], .chunk ping]) result ∧
      answerOf result = some .status ∧
      (stateOf result).player.peer.sink.written = [3, 0, 1, 120] ++ ping := by
  intro lobby answer world ping script peer session result
  have opens : peer.source.feed.Starts ⟨0, [0, 1, 97, 0, 1, 1]⟩
      (Arrival.feed [.chunk [1, 0], .chunk ping]) :=
    Feed.readPacket_eq_ok_iff.mp rfl
  have shaken : Handshake.ofPacket ⟨0, [0, 1, 97, 0, 1, 1]⟩ = .ok ⟨0, "a", 1, 1⟩ := by rfl
  exact ⟨status_session world peer _ _ opens shaken rfl rfl (.server lobby), by decide +kernel,
    by decide +kernel⟩

end Gateway

end GameGateway
