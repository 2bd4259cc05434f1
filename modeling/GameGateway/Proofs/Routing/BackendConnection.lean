import GameGateway.Proofs.Session.PlayerReads
import GameGateway.Proofs.Stream.Acceptance
import GameGateway.Routing.Backend

/-!
# Connections that a backend opens

For a session that has a handshake packet a backend connects once, and for one that has none it does
not (`ServerBackend.withConnection_error`, `ServerBackend.withConnection_failed`,
`ServerBackend.withConnection_connected`).  Over the connection the header and the handshake packet
are written as one stretch of bytes, which gets through as far as the sink admits it
(`ServerBackend.greet_sent`).
-/

namespace GameGateway

/-- A connection on whose sink something was called. -/
def BackendLink.withSink (link : BackendLink) (sink : Sink) : BackendLink :=
  { link with peer := { link.peer with sink } }

namespace BackendLink

@[simp] theorem sink_withSink (link : BackendLink) (sink : Sink) :
    (link.withSink sink).peer.sink = sink := rfl

theorem onSink_eq {ε α : Type} (act : EStateM ε Sink α) (link : BackendLink) :
    onPeer (Peer.onSink act) link = onState link.withSink (act link.peer.sink) := by
  simp only [onPeer, Peer.onSink]
  cases act link.peer.sink <;> rfl

theorem sendPacket_eq (packet : Packet) (link : BackendLink) :
    link.sendPacket packet = onState link.withSink (Sink.writePacket packet link.peer.sink) :=
  onSink_eq _ link

theorem writeAll_eq (bytes : Bytes) (link : BackendLink) :
    onPeer (Peer.writeAll bytes) link =
      onState link.withSink (Sink.writeAll bytes link.peer.sink) :=
  onSink_eq _ link

end BackendLink

namespace Exchange

variable {ε α : Type}

theorem onServer_ok {act : EStateM ε BackendLink α} {exchange : Exchange} {a : α}
    {server : BackendLink} (run : act exchange.server = .ok a server) :
    onServer act exchange = .ok a { exchange with server } := by
  simp only [onServer, run]

theorem onServer_error {act : EStateM ε BackendLink α} {exchange : Exchange} {e : ε}
    {server : BackendLink} (run : act exchange.server = .error e server) :
    onServer act exchange = .error e { exchange with server } := by
  simp only [onServer, run]

theorem onPlayer_ok {act : EStateM ε Player α} {exchange : Exchange} {a : α} {player : Player}
    (run : act exchange.player = .ok a player) :
    onPlayer act exchange = .ok a { exchange with player } := by
  simp only [onPlayer, run]

theorem onPlayer_error {act : EStateM ε Player α} {exchange : Exchange} {e : ε} {player : Player}
    (run : act exchange.player = .error e player) :
    onPlayer act exchange = .error e { exchange with player } := by
  simp only [onPlayer, run]

/-- Reporting an event goes on with the same connections. -/
theorem note_bind {β : Type} (event : Event) (next : Unit → EStateM ε Exchange β)
    (exchange : Exchange) :
    (onPlayer (Player.note event) >>= next) exchange =
      next () { exchange with
        player := { exchange.player with events := event :: exchange.player.events } } :=
  rfl

end Exchange

namespace ServerBackend

/-- What a connection starts with: the header of the player's connection, if it is wanted. -/
def header (backend : ServerBackend) (player : Player) : Bytes :=
  if backend.proxyProtocol then ProxyHeader.encode ⟨player.remote, player.localAddress⟩ else []

/-- The bytes that a connection is greeted with. -/
def greeting (backend : ServerBackend) (player : Player) (handshake : Packet) : Bytes :=
  backend.header player ++ handshake.encode

/-- The results of sending bytes to a backend: all get through and are flushed, or a front of them
gets through. -/
inductive Sent (bytes : Bytes) (player : Player) (server : BackendLink) :
    EStateM.Result GatewayError Exchange Unit → Prop
  | through {player' : Player} {sink : Sink} :
    server.peer.sink.admits bytes = bytes → server.peer.sink.flushFault = none →
    Player.Noted player player' → Sink.Grown server.peer.sink bytes 1 0 sink →
    Sent bytes player server (.ok () ⟨player', server.withSink sink⟩)
  | unflushed {player' : Player} {sink : Sink} {e : IoError} :
    server.peer.sink.admits bytes = bytes → server.peer.sink.flushFault = some e →
    Player.Noted player player' → Sink.Grown server.peer.sink bytes 1 0 sink →
    Sent bytes player server (.error (.protocol (.io e)) ⟨player', server.withSink sink⟩)
  | stuck {player' : Player} {sink : Sink} {error : GatewayError} :
    server.peer.sink.admits bytes ≠ bytes →
    error = .io server.peer.sink.refusal ∨ error = .protocol (.io server.peer.sink.refusal) →
    Player.Noted player player' →
    Sink.Grown server.peer.sink (server.peer.sink.admits bytes) 0 0 sink →
    Sent bytes player server (.error error ⟨player', server.withSink sink⟩)

theorem sendPacket_sent (packet : Packet) (player : Player) (server : BackendLink) :
    Sent packet.encode player server
      (Exchange.onServer ((BackendLink.sendPacket packet).adaptExcept .protocol)
        ⟨player, server⟩) := by
  rcases Sink.writePacket_spec packet server.peer.sink with
    ⟨through, sink, grown, run⟩ | ⟨stuck, sink, grown, run⟩
  · cases fault : server.peer.sink.flushFault with
    | none =>
        rw [fault] at run
        have sent := BackendLink.sendPacket_eq packet server
        rw [run] at sent
        rw [Exchange.onServer_ok (adaptExcept_ok _ sent)]
        exact .through through fault (.refl player) grown
    | some e =>
        rw [fault] at run
        have sent := BackendLink.sendPacket_eq packet server
        rw [run] at sent
        rw [Exchange.onServer_error (adaptExcept_error _ sent)]
        exact .unflushed through fault (.refl player) grown
  · have sent := BackendLink.sendPacket_eq packet server
    rw [run] at sent
    rw [Exchange.onServer_error (adaptExcept_error _ sent)]
    exact .stuck stuck (.inr rfl) (.refl player) grown

theorem Sent.of_noted {bytes : Bytes} {player noted : Player} {server : BackendLink}
    {result : EStateM.Result GatewayError Exchange Unit} (same : Player.Noted player noted)
    (sent : Sent bytes noted server result) : Sent bytes player server result := by
  cases sent with
  | through through flushes noted grown => exact .through through flushes (same.trans noted) grown
  | unflushed through fault noted grown => exact .unflushed through fault (same.trans noted) grown
  | stuck stuck error noted grown => exact .stuck stuck error (same.trans noted) grown

theorem Sent.player_noted {bytes : Bytes} {player : Player} {server : BackendLink}
    {result : EStateM.Result GatewayError Exchange Unit} (sent : Sent bytes player server result) :
    Player.Noted player (stateOf result).player := by
  cases sent <;> assumption

theorem Sent.flushes {bytes : Bytes} {player : Player} {server : BackendLink}
    {exchange : Exchange} (sent : Sent bytes player server (.ok () exchange)) :
    exchange.server.peer.sink.flushFault = none := by
  cases sent with
  | through _ flushes _ grown => exact grown.flushFault.trans flushes

theorem Sent.carried {bytes : Bytes} {player : Player} {server : BackendLink}
    {result : EStateM.Result GatewayError Exchange Unit} (sent : Sent bytes player server result) :
    Sink.Carried bytes server.peer.sink (stateOf result).server.peer.sink := by
  cases sent with
  | through through _ _ grown =>
      have all := Sink.Carried.chunk_through through grown (.nothing (.refl _))
      rwa [List.append_nil] at all
  | unflushed _ fault _ grown =>
      have all := Sink.Carried.chunk_unflushed fault grown []
      rwa [List.append_nil] at all
  | stuck stuck _ _ grown =>
      have front := Sink.Carried.chunk_stuck stuck grown []
      rwa [List.append_nil] at front

/-- What was written before without a flush belongs to the bytes sent. -/
theorem Sent.after_write {first bytes : Bytes} {player : Player} {server : BackendLink}
    {middle : Sink} {result : EStateM.Result GatewayError Exchange Unit} (nonempty : first ≠ [])
    (through : server.peer.sink.admits first = first)
    (grown : Sink.Grown server.peer.sink first 0 0 middle)
    (sent : Sent bytes player (server.withSink middle) result) :
    Sent (first ++ bytes) player server result := by
  have admits := Sink.admits_append through grown bytes
  cases sent with
  | through through' flushes noted grown' =>
      refine .through ?_ (grown.flushFault.symm.trans flushes) noted ?_
      · rw [admits]
        exact congrArg (first ++ ·) through'
      · simpa using grown.trans grown'
  | unflushed through' fault noted grown' =>
      refine .unflushed ?_ (grown.flushFault.symm.trans fault) noted ?_
      · rw [admits]
        exact congrArg (first ++ ·) through'
      · simpa using grown.trans grown'
  | stuck stuck error noted grown' =>
      rw [BackendLink.sink_withSink, grown.refusal_eq through nonempty] at error
      refine .stuck ?_ error noted ?_
      · rw [admits]
        exact fun whole => stuck (List.append_cancel_left whole)
      · rw [admits]
        simpa using grown.trans grown'

theorem header_ne_nil (header : ProxyHeader) : header.encode ≠ [] := by
  simp [ProxyHeader.encode, ProxyHeader.signature]

/-- **Greeting a backend sends the header and the handshake packet** as one stretch of bytes. -/
theorem greet_sent (backend : ServerBackend) (handshake : Packet) (player : Player)
    (server : BackendLink) :
    Sent (backend.greeting player handshake) player server
      (backend.greet handshake ⟨player, server⟩) := by
  have connected := Player.Noted.events player (.connected backend.id :: player.events)
  unfold greet greeting header
  rw [Exchange.note_bind]
  cases wanted : backend.proxyProtocol with
  | false => exact (sendPacket_sent handshake _ server).of_noted connected
  | true =>
      simp only [if_true, sendHeader, bind_assoc, bind_get]
      obtain ⟨middle, grown, wrote⟩ := Sink.writeAll_spec
        (ProxyHeader.encode ⟨player.remote, player.localAddress⟩) server.peer.sink
      have sent := BackendLink.writeAll_eq
        (ProxyHeader.encode ⟨player.remote, player.localAddress⟩) server
      rw [wrote] at sent
      by_cases through : server.peer.sink.admits
          (ProxyHeader.encode ⟨player.remote, player.localAddress⟩) =
            ProxyHeader.encode ⟨player.remote, player.localAddress⟩
      · rw [if_pos through] at sent
        rw [through] at grown
        rw [bind_ok (Exchange.onServer_ok (adaptExcept_ok _ sent)), Exchange.note_bind]
        refine .of_noted connected (.after_write (header_ne_nil _) through grown ?_)
        exact (sendPacket_sent handshake _ _).of_noted (.events _ _)
      · rw [if_neg through] at sent
        rw [bind_error (Exchange.onServer_error (adaptExcept_error _ sent))]
        have stuck := Sink.admits_append_of_ne through handshake.encode
        exact .stuck (Sink.admits_append_ne through handshake.encode) (.inl rfl) connected
          (by rw [stuck]; exact grown)

/-! ## Opening and letting go -/

section Open

variable {α : Type} {backend : ServerBackend} {act : EStateM GatewayError Exchange α}
  {session : Session} {player : Player} {handshake : Packet}

/-- What was reported before a connect stands in front of what was reported before. -/
def announced (backend : ServerBackend) (outbound : Outbound) (player : Player) : Player :=
  { player with
    events := connectEvents (outbound.connector backend.connector) ++ player.events }

/-- The session that is left when a connection was let go of. -/
def leave (backend : ServerBackend) (outbound : Outbound) (exchange : Exchange) : Session where
  player := exchange.player
  outbound := outbound.close backend.connector
    (some { exchange.server with peer := exchange.server.peer.release })

theorem withConnection_error {e : GatewayError}
    (run : Player.handshakePacket session.player = .error e player) :
    backend.withConnection act session = .error e { session with player } :=
  bind_error (Session.onPlayer_error run)

theorem withConnection_failed {e : IoError} {outbound : Outbound}
    (run : Player.handshakePacket session.player = .ok handshake player)
    (dial : session.outbound.connect backend.connector = (.failed e, outbound)) :
    backend.withConnection act session = .error (.backendConnect backend.id e)
      { player := announced backend session.outbound player
        outbound := outbound.close backend.connector none } := by
  refine (bind_ok (Session.onPlayer_ok run)).trans ?_
  simp only [dial]
  rfl

theorem withConnection_connected {link : BackendLink} {outbound : Outbound}
    (run : Player.handshakePacket session.player = .ok handshake player)
    (dial : session.outbound.connect backend.connector = (.connected link, outbound)) :
    backend.withConnection act session = onState (leave backend outbound)
      ((do backend.greet handshake; act : EStateM GatewayError Exchange α)
        ⟨announced backend session.outbound player, link⟩) := by
  refine (bind_ok (Session.onPlayer_ok run)).trans ?_
  simp only [dial]
  unfold announced
  split
  · next a exchange greeted => rw [greeted]; rfl
  · next e exchange greeted => rw [greeted]; rfl

end Open

end ServerBackend

end GameGateway
