import GameGateway.Proofs.Routing.BackendConnection
import GameGateway.Proofs.Session.TunnelCopy
import GameGateway.Proofs.Stream.PacketDelivery

/-!
# Logins that are forwarded

A login opens one connection and sends over it the header, the handshake packet, the login packet
and then whatever the player sends behind them, each byte once and in order; the player gets what
the backend sends.  `ServerBackend.login_end_to_end` says so for every script of both streams and
however far the two sinks go along.
-/

namespace GameGateway

namespace ServerBackend

/-- The results of sending `front` to a backend and joining the streams behind it, where the player
sends `tail`.  The streams are joined if all of `front` gets through and is flushed, and then
nothing that happens to them is an error. -/
inductive Forwarded (front tail : Bytes) (player : Player) (server : BackendLink) :
    EStateM.Result GatewayError Exchange Unit → Prop
  | joined {exchange : Exchange} :
    server.peer.sink.admits front = front → server.peer.sink.flushFault = none →
    Sink.Carried (front ++ tail) server.peer.sink exchange.server.peer.sink →
    Sink.Carried server.peer.source.delivered player.peer.sink exchange.player.peer.sink →
    Forwarded front tail player server (.ok () exchange)
  | stopped {e : GatewayError} {exchange : Exchange} :
    ¬ (server.peer.sink.admits front = front ∧ server.peer.sink.flushFault = none) →
    Sink.Carried (front ++ tail) server.peer.sink exchange.server.peer.sink →
    exchange.player.peer.sink = player.peer.sink →
    Forwarded front tail player server (.error e exchange)

namespace Forwarded

variable {bytes front tail : Bytes} {player : Player} {server : BackendLink} {exchange : Exchange}

/-- A send that fails stops everything. -/
theorem of_sent_error {e : GatewayError} (sent : Sent bytes player server (.error e exchange))
    (front tail : Bytes) : Forwarded (bytes ++ front) tail player server (.error e exchange) := by
  cases sent with
  | unflushed through fault noted grown =>
      refine .stopped (fun fine => ?_) ?_ (congrArg Peer.sink noted.peer)
      · rw [fault] at fine
        cases fine.2
      · rw [List.append_assoc]
        exact .chunk_unflushed fault grown _
  | stuck stuck error noted grown =>
      refine .stopped (fun fine => Sink.admits_append_ne stuck front fine.1) ?_
        (congrArg Peer.sink noted.peer)
      rw [List.append_assoc]
      exact .chunk_stuck stuck grown _

/-- What was sent before belongs to the front. -/
theorem after_sent {result : EStateM.Result GatewayError Exchange Unit}
    (sent : Sent bytes player server (.ok () exchange))
    (more : Forwarded front tail exchange.player exchange.server result) :
    Forwarded (bytes ++ front) tail player server result := by
  cases sent with
  | through through flushes noted grown =>
      have admits := Sink.admits_append through grown front
      cases more with
      | joined whole _ forth back =>
          refine .joined ?_ flushes ?_ ?_
          · rw [admits]
            exact congrArg (bytes ++ ·) whole
          · rw [List.append_assoc]
            exact .chunk_through through grown forth
          · have same : _ = player.peer := noted.peer
            rwa [same] at back
      | stopped torn forth untouched =>
          refine .stopped (fun fine => torn ⟨?_, ?_⟩) ?_ ?_
          · rw [admits] at fine
            exact List.append_cancel_left fine.1
          · exact grown.flushFault.trans flushes
          · rw [List.append_assoc]
            exact .chunk_through through grown forth
          · exact untouched.trans (congrArg Peer.sink noted.peer)

/-- Only the player's sink matters. -/
theorem of_sink_eq {known : Player} {result : EStateM.Result GatewayError Exchange Unit}
    (same : known.peer.sink = player.peer.sink)
    (forwarded : Forwarded front tail known server result) :
    Forwarded front tail player server result := by
  cases forwarded with
  | joined through flushes forth back => exact .joined through flushes forth (same ▸ back)
  | stopped torn forth untouched => exact .stopped torn forth (untouched.trans same)

end Forwarded

/-! ## Bridging -/

section Bridge

variable {backend : ServerBackend} {player : Player} {server : BackendLink} {packet : Packet}
  {rest : Source} {login : LoginStart}

/-- Joining the streams carries what is left of both. -/
theorem join_forwarded (backend : ServerBackend) {exchange : Exchange} {name : String}
    (known : exchange.player.cache.name = some name)
    (flushes : exchange.server.peer.sink.flushFault = none) :
    Forwarded [] exchange.player.peer.source.delivered exchange.player exchange.server
      ((do
        let player := (← get).player
        let name ← MonadExcept.ofExcept player.name
        Exchange.onPlayer (Player.note (.playerConnecting backend.id name player.remote))
        let joined ← Exchange.join
        Exchange.onPlayer
          (Player.note (.sessionClosed backend.id joined.forth.total joined.back.total)) :
          EStateM GatewayError Exchange Unit) exchange) := by
  have named : exchange.player.name = .ok name := by simp [Player.name, known]
  rw [bind_get, named, bind_ok (ofExcept_ok name exchange), Exchange.note_bind]
  refine .joined ?_ flushes ?_ ?_
  · exact List.prefix_nil.1 (Sink.admits_prefix _ [])
  · exact Tunnel.copy_carries 0 exchange.player.peer.source exchange.server.peer.sink
  · exact Tunnel.copy_carries 0 exchange.server.peer.source exchange.player.peer.sink

/-- A login that can be read and decoded is sent on, and then the streams are joined. -/
theorem bridge_forwarded (backend : ServerBackend) (server : BackendLink)
    (unknown : player.cache.loginPacket = none)
    (read : player.peer.source.readPacket = .ok packet rest)
    (decoded : LoginStart.ofPacket packet = .ok login) :
    Forwarded packet.encode rest.delivered player server (backend.bridge ⟨player, server⟩) := by
  let known : Player := { player.withSource rest with
    cache := { player.cache with loginPacket := some packet, name := some login.name } }
  have started : Exchange.onPlayer Player.loginStart ⟨player, server⟩ =
      .ok packet ⟨known, server⟩ :=
    Exchange.onPlayer_ok (Player.loginStart_ok unknown read decoded)
  have sent := sendPacket_sent packet known server
  -- the streams are joined behind an empty front, which the packet comes before
  have goal : Forwarded (packet.encode ++ []) rest.delivered known server
      (backend.bridge ⟨player, server⟩) := by
    unfold bridge
    rw [bind_ok started]
    cases run : Exchange.onServer
        ((BackendLink.sendPacket packet).adaptExcept GatewayError.protocol) ⟨known, server⟩ with
    | error e exchange =>
        rw [run] at sent
        rw [bind_error run]
        exact .of_sent_error sent [] _
    | ok u exchange =>
        rw [run] at sent
        rw [bind_ok run]
        refine .after_sent sent ?_
        have noted := sent.player_noted
        have left : exchange.player.peer.source = rest := congrArg Peer.source noted.peer
        rw [← left]
        exact join_forwarded backend (congrArg PlayerCache.name noted.cache) sent.flushes
  rw [List.append_nil] at goal
  have same : known.peer.sink = player.peer.sink := rfl
  exact goal.of_sink_eq same

/-- Without a login nothing is sent. -/
theorem bridge_unusable (backend : ServerBackend) (server : BackendLink)
    (unknown : player.cache.loginPacket = none)
    (unusable : ∀ packet source login, player.peer.source.readPacket = .ok packet source →
      LoginStart.ofPacket packet ≠ .ok login) :
    ∃ e after, backend.bridge ⟨player, server⟩ = .error e ⟨after, server⟩ ∧
      after.peer.sink = player.peer.sink := by
  obtain ⟨e, after, failed, untouched⟩ := Player.loginStart_error unknown unusable
  exact ⟨e, after, bind_error (Exchange.onPlayer_error failed), untouched⟩

end Bridge

/-! ## From the handshake to the end -/

section Login

variable {player : Player} {outbound opened : Outbound} {link : BackendLink} {handshake : Packet}

/-- Greeting a backend and bridging send one stretch of bytes. -/
theorem greet_bridge_forwarded (backend : ServerBackend) (handshake : Packet) (server : BackendLink)
    {packet : Packet} {rest : Feed} {login : LoginStart} (unknown : player.cache.loginPacket = none)
    (next : player.peer.source.feed.Starts packet rest)
    (decoded : LoginStart.ofPacket packet = .ok login) :
    Forwarded (backend.greeting player handshake ++ packet.encode) rest.delivered player server
      ((do backend.greet handshake; backend.bridge : EStateM GatewayError Exchange Unit)
        ⟨player, server⟩) := by
  obtain ⟨source, read, rfl⟩ := Source.readPacket_of_starts next
  rw [source.delivered_feed]
  have sent := backend.greet_sent handshake player server
  cases run : backend.greet handshake ⟨player, server⟩ with
  | error e exchange =>
      rw [run] at sent
      rw [bind_error run]
      exact .of_sent_error sent _ _
  | ok u exchange =>
      rw [run] at sent
      rw [bind_ok run]
      have noted : Player.Noted player exchange.player := sent.player_noted
      rw [← noted.cache] at unknown
      rw [← noted.peer] at read
      exact .after_sent sent (backend.bridge_forwarded exchange.server unknown read decoded)

/-- Without a login packet the backend is only greeted. -/
theorem greet_bridge_unusable (backend : ServerBackend) (handshake : Packet) (server : BackendLink)
    (unknown : player.cache.loginPacket = none)
    (unusable : ∀ packet rest login, player.peer.source.feed.Starts packet rest →
      LoginStart.ofPacket packet ≠ .ok login) :
    ∃ e exchange,
      (do backend.greet handshake; backend.bridge : EStateM GatewayError Exchange Unit)
          ⟨player, server⟩ = .error e exchange ∧
        exchange.player.peer.sink = player.peer.sink ∧
        Sink.Carried (backend.greeting player handshake) server.peer.sink
          exchange.server.peer.sink := by
  have sent := backend.greet_sent handshake player server
  cases run : backend.greet handshake ⟨player, server⟩ with
  | error e exchange =>
      rw [run] at sent
      have noted : Player.Noted player exchange.player := sent.player_noted
      exact ⟨e, exchange, bind_error run, congrArg Peer.sink noted.peer, sent.carried⟩
  | ok u exchange =>
      rw [run] at sent
      have noted : Player.Noted player exchange.player := sent.player_noted
      rw [← noted.cache] at unknown
      rw [← noted.peer] at unusable
      have unreadable : ∀ packet source login,
          exchange.player.peer.source.readPacket = .ok packet source →
            LoginStart.ofPacket packet ≠ .ok login := fun packet source login read =>
        unusable packet source.feed login (Source.starts_of_readPacket read)
      obtain ⟨e, after, failed, untouched⟩ :=
        backend.bridge_unusable exchange.server unknown unreadable
      refine ⟨e, ⟨after, exchange.server⟩, (bind_ok run).trans failed, ?_, sent.carried⟩
      exact untouched.trans (congrArg Peer.sink noted.peer)

/-- A connected login leaves what greeting and bridging leave. -/
theorem login_connected (backend : ServerBackend) (player : Player) {behind : Feed}
    (unknown : player.cache.loginPacket = none) (opens : player.Opens handshake behind)
    (dial : outbound.connect backend.connector = (.connected link, opened)) :
    ∃ run, (Backend.server backend).login ⟨player, outbound⟩ = onState (leave backend opened) run ∧
      ((∀ packet rest login, behind.Starts packet rest →
          LoginStart.ofPacket packet ≠ .ok login) →
        ∃ e exchange, run = .error e exchange ∧ exchange.player.peer.sink = player.peer.sink ∧
          Sink.Carried (backend.greeting player handshake) link.peer.sink
            exchange.server.peer.sink) ∧
      ∀ packet rest login, behind.Starts packet rest → LoginStart.ofPacket packet = .ok login →
        Forwarded (backend.greeting player handshake ++ packet.encode) rest.delivered player link
          run := by
  obtain ⟨after, read, advanced⟩ := Player.handshakePacket_of_opens opens
  let opening : Player := announced backend outbound after
  have nothing : opening.cache.loginPacket = none := advanced.loginPacket.trans unknown
  have greeting : backend.greeting opening handshake = backend.greeting player handshake := by
    rw [ServerBackend.greeting, ServerBackend.greeting, header, header, ← advanced.remote,
      ← advanced.localAddress]
    rfl
  have sink : opening.peer.sink = player.peer.sink := advanced.sink
  have feed : opening.peer.source.feed = behind := advanced.feed
  subst feed
  refine ⟨_, withConnection_connected read dial, ?_, ?_⟩
  · intro unusable
    have stopped := backend.greet_bridge_unusable handshake link nothing unusable
    rwa [greeting, sink] at stopped
  · intro packet rest login next decoded
    have forwarded := backend.greet_bridge_forwarded handshake link nothing next decoded
    rw [greeting] at forwarded
    exact forwarded.of_sink_eq sink

theorem login_unread (backend : ServerBackend) (player : Player) (outbound : Outbound)
    (nothing : ∀ handshake behind, ¬ player.Opens handshake behind) :
    ∃ e source, (Backend.server backend).login ⟨player, outbound⟩ =
      .error (.handshakeUnavailable e) ⟨player.withSource source, outbound⟩ := by
  obtain ⟨e, source, -, unread⟩ := Player.handshakePacket_of_not_opens nothing
  exact ⟨e, source, withConnection_error unread⟩

theorem login_failed (backend : ServerBackend) (player : Player) {e : IoError} {behind : Feed}
    (opens : player.Opens handshake behind)
    (dial : outbound.connect backend.connector = (.failed e, opened)) :
    ∃ after, (Backend.server backend).login ⟨player, outbound⟩ =
        .error (.backendConnect backend.id e) ⟨after, opened.close backend.connector none⟩ ∧
      after.peer.sink = player.peer.sink := by
  obtain ⟨after, read, advanced⟩ := Player.handshakePacket_of_opens opens
  exact ⟨_, withConnection_failed read dial, advanced.sink⟩

end Login

/-- **A login from one end to the other**, for a player of whom at most the handshake packet was
read. Without a handshake packet nothing is connected.  Otherwise there is one connect, and of the
header, the handshake packet, the login packet and the bytes behind it the backend gets what its
sink admits, in this order.  Once the first three are through, the login succeeds whatever comes
then, and the player gets what the backend sends. -/
theorem login_end_to_end (backend : ServerBackend) (peer : Peer)
    (remote localAddress : SocketAddress) (kept : Option Packet) (decoded : Option Handshake)
    (events : List Event) (outbound : Outbound) :
    let cache : PlayerCache := { handshakePacket := kept, handshake := decoded }
    let player : Player := { peer, remote, localAddress, cache, events }
    let result := (Backend.server backend).login ⟨player, outbound⟩
    let final := stateOf result
    ((∀ handshake behind, ¬ player.Opens handshake behind) →
      (∃ e, result = .error (.handshakeUnavailable e) final) ∧ final.outbound = outbound ∧
        final.player.peer.sink = peer.sink) ∧
    ∀ handshake behind, player.Opens handshake behind →
      (∀ e opened, outbound.connect backend.connector = (.failed e, opened) →
        result = .error (.backendConnect backend.id e) final ∧
          final.outbound = opened.close backend.connector none ∧
          final.player.peer.sink = peer.sink) ∧
      ∀ link opened, outbound.connect backend.connector = (.connected link, opened) →
        ∃ left, final.outbound = opened.close backend.connector (some left) ∧
          left.peer.released = true ∧
          ((∀ packet rest login, behind.Starts packet rest →
              LoginStart.ofPacket packet ≠ .ok login) →
            (∃ e, result = .error e final) ∧ final.player.peer.sink = peer.sink ∧
              Sink.Carried (backend.greeting player handshake) link.peer.sink left.peer.sink) ∧
          ∀ packet rest login, behind.Starts packet rest → LoginStart.ofPacket packet = .ok login →
            let front := backend.greeting player handshake ++ packet.encode
            Sink.Carried (front ++ rest.delivered) link.peer.sink left.peer.sink ∧
              if link.peer.sink.admits front = front ∧ link.peer.sink.flushFault = none then
                result = .ok () final ∧
                  Sink.Carried link.peer.source.delivered peer.sink final.player.peer.sink
              else (∃ e, result = .error e final) ∧ final.player.peer.sink = peer.sink := by
  intro cache player result final
  refine ⟨fun nothing => ?_, fun handshake behind opens => ⟨fun e opened dial => ?_, ?_⟩⟩
  · obtain ⟨e, source, run⟩ := backend.login_unread player outbound nothing
    have last : final = _ := congrArg stateOf run
    rw [last]
    exact ⟨⟨e, run⟩, rfl, rfl⟩
  · obtain ⟨after, run, untouched⟩ := backend.login_failed player opens dial
    have last : final = _ := congrArg stateOf run
    rw [last]
    exact ⟨run, rfl, untouched⟩
  · intro link opened dial
    obtain ⟨run, same, stopped, forwarded⟩ :=
      backend.login_connected player rfl opens dial
    have last : final = leave backend opened (stateOf run) := by
      change stateOf result = _
      rw [show result = _ from same]
      cases run <;> rfl
    rw [last]
    refine ⟨_, rfl, rfl, fun unusable => ?_, fun packet rest login next decoded => ?_⟩
    · obtain ⟨e, exchange, rfl, untouched, greeted⟩ := stopped unusable
      exact ⟨⟨e, same⟩, untouched, greeted⟩
    · cases forwarded packet rest login next decoded with
      | joined through flushes forth back =>
          refine ⟨forth, ?_⟩
          rw [if_pos ⟨through, flushes⟩]
          exact ⟨same, back⟩
      | @stopped e exchange torn forth untouched =>
          refine ⟨forth, ?_⟩
          rw [if_neg torn]
          exact ⟨⟨e, same⟩, untouched⟩

end ServerBackend

end GameGateway
