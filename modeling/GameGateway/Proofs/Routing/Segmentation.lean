import GameGateway.Proofs.Routing.BackendConnection
import GameGateway.Proofs.Routing.Dispatch
import GameGateway.Proofs.Session.Alike
import GameGateway.Proofs.Session.TunnelCopy

/-!
# Sessions that differ in timing

Two sessions that differ in how the bytes are cut, in where reads are suspended and in how much a
single write accepts end alike: with the same outcome or the same error, after the same connects,
and everybody received the same bytes (`Gateway.handle_alike`).

Up to the tunnel both sessions stay alike step by step.  A tunnel does not keep that, since a
direction that fails may have taken more of its source in one session than in the other one; but
nothing is read behind it, and what was received is the same.
-/

namespace GameGateway

theorem Source.Alike.delivered {first second : Source} (alike : Alike first second) :
    first.delivered = second.delivered := by
  have same : first.feed = second.feed := alike
  rw [← first.delivered_feed, ← second.delivered_feed, same]

/-- A direction that copies the same bytes to alike sinks gets the same bytes received. -/
theorem Tunnel.copy_written {source source' : Source} {sink sink' : Sink} (total total' : Nat)
    (sources : Source.Alike source source') (sinks : Sink.Alike sink sink') :
    (copy total source sink).2.2.written = (copy total' source' sink').2.2.written := by
  have left := copy_carries total source sink
  rw [sources.delivered] at left
  exact Sink.Carried.written_eq sinks left (copy_carries total' source' sink')

/-! ## With a connection at hand -/

namespace Exchange

/-- Exchanges of which both sides are related. -/
structure Both (players : Player → Player → Prop) (servers : BackendLink → BackendLink → Prop)
    (first second : Exchange) : Prop where
  player : players first.player second.player
  server : servers first.server second.server

/-- Exchanges that differ at most in timing and in what was reported. -/
abbrev Alike : Exchange → Exchange → Prop := Both Player.Alike BackendLink.Alike

/-- Exchanges in which both sides received the same bytes. -/
abbrev SameReceived : Exchange → Exchange → Prop :=
  Both Player.SameReceived BackendLink.SameReceived

theorem Alike.received (first second : Exchange) (alike : Alike first second) :
    SameReceived first second :=
  ⟨alike.player.received, alike.server.received⟩

variable {ε α : Type}

theorem onPlayer_eq (act : EStateM ε Player α) :
    onPlayer act =
      onPart Exchange.player (fun exchange player => { exchange with player }) act := by
  funext exchange
  unfold onPlayer onPart
  cases act exchange.player <;> rfl

theorem onServer_eq (act : EStateM ε BackendLink α) :
    onServer act =
      onPart Exchange.server (fun exchange server => { exchange with server }) act := by
  funext exchange
  unfold onServer onPart
  cases act exchange.server <;> rfl

theorem onPlayer_alike {act : EStateM ε Player α} (run : TwoRun Player.Alike Player.Alike act) :
    TwoRun Alike Alike (onPlayer act) := by
  rw [onPlayer_eq]
  exact .onPart _ _ run (fun _ _ alike => alike.player)
    fun _ _ alike _ _ player => ⟨player, alike.server⟩

theorem onServer_alike {act : EStateM ε BackendLink α}
    (run : TwoRun BackendLink.Alike BackendLink.Alike act) : TwoRun Alike Alike (onServer act) := by
  rw [onServer_eq]
  exact .onPart _ _ run (fun _ _ alike => alike.server)
    fun _ _ alike _ _ server => ⟨alike.player, server⟩

theorem note_alike (event : Event) :
    TwoRun Alike Alike (onPlayer (Player.note event) : EStateM ε Exchange Unit) :=
  onPlayer_alike (Player.note_alike event)

/-- Both sides of joined streams receive the same bytes, whatever is reported in the end. -/
theorem join_note_received (closed : Tunnel.Joined → Event) :
    TwoRun Alike SameReceived
      (do let joined ← join; onPlayer (Player.note (closed joined)) : EStateM ε Exchange Unit) := by
  intro first second alike
  refine Related.ok () ⟨?_, ?_⟩
  · exact Tunnel.copy_written 0 0 alike.server.peer.source alike.player.peer.sink
  · exact Tunnel.copy_written 0 0 alike.player.peer.source alike.server.peer.sink

end Exchange

namespace ServerBackend

theorem sendHeader_alike (backend : ServerBackend) :
    TwoRun Exchange.Alike Exchange.Alike backend.sendHeader := by
  apply TwoRun.get_bind
  intro first second alike
  simp only [alike.player.remote, alike.player.localAddress]
  refine TwoRun.seq ?_ (fun _ => Exchange.note_alike _) first second alike
  exact Exchange.onServer_alike ((BackendLink.onPeer_alike (Peer.writeAll_alike _)).adaptExcept _)

theorem sendPacket_alike (packet : Packet) :
    TwoRun Exchange.Alike Exchange.Alike
      (Exchange.onServer ((BackendLink.sendPacket packet).adaptExcept GatewayError.protocol)) :=
  Exchange.onServer_alike ((BackendLink.sendPacket_alike packet).adaptExcept _)

theorem greet_alike (backend : ServerBackend) (handshake : Packet) :
    TwoRun Exchange.Alike Exchange.Alike (backend.greet handshake) := by
  apply TwoRun.seq (Exchange.note_alike _)
  intro noted
  cases backend.proxyProtocol with
  | false => exact sendPacket_alike handshake
  | true =>
      apply TwoRun.seq backend.sendHeader_alike
      intro sent
      exact sendPacket_alike handshake

theorem fetchStatus_alike (backend : ServerBackend) :
    TwoRun Exchange.Alike Exchange.Alike backend.fetchStatus := by
  apply TwoRun.seq (Exchange.onServer_alike (BackendLink.status_alike.adaptExcept _))
  intro response
  cases StatusResponse.ofPacket response with
  | error e => exact .throw _
  | ok status => exact .seq (Exchange.note_alike _) fun _ => .pure response

theorem bridge_alike (backend : ServerBackend) :
    TwoRun Exchange.Alike Exchange.SameReceived backend.bridge := by
  refine .bind (Exchange.onPlayer_alike Player.loginStart_alike) (fun login => ?_)
    Exchange.Alike.received
  refine .bind (sendPacket_alike login) (fun _ => ?_) Exchange.Alike.received
  apply TwoRun.get_bind
  intro first second alike
  have name : first.player.name = second.player.name := by
    unfold Player.name
    rw [alike.player.cache]
  simp only [name, alike.player.remote]
  refine TwoRun.bind (.ofExcept second.player.name) (fun name => ?_) Exchange.Alike.received
    first second alike
  exact .bind (Exchange.note_alike _) (fun _ => Exchange.join_note_received _)
    Exchange.Alike.received

/-! ## Whole calls -/

theorem withConnection_alike {α : Type} (backend : ServerBackend)
    {act : EStateM GatewayError Exchange α} {related : Player → Player → Prop}
    (run : TwoRun Exchange.Alike (Exchange.Both related BackendLink.SameReceived) act)
    (weaker : ∀ first second, Player.Alike first second → related first second) :
    TwoRun Session.Alike (Session.Both related) (backend.withConnection act) := by
  intro first second alike
  rcases (Player.handshakePacket_alike first.player second.player alike.player).split with
    ⟨handshake, player, player', left, right, same⟩ | ⟨e, player, player', left, right, same⟩
  · rcases alike.outbound.connect backend.connector with
      ⟨e, opened, opened', dial, dial', after⟩ |
      ⟨link, link', opened, opened', dial, dial', links, after⟩
    · rw [withConnection_failed left dial, withConnection_failed right dial']
      exact .error _ ⟨weaker _ _ (same.withEvents _ _), after.close (.failed _)⟩
    · rw [withConnection_connected left dial, withConnection_connected right dial']
      have whole := TwoRun.bind (backend.greet_alike handshake) (fun _ => run) fun one other both =>
        ⟨weaker _ _ both.player, both.server.received⟩
      refine (whole _ _ ⟨same.withEvents _ _, links⟩).onState fun one other both => ?_
      exact ⟨both.player, after.close (.connected _ both.server)⟩
  · rw [withConnection_error left, withConnection_error right]
    exact .error e ⟨weaker player player' same, alike.outbound⟩

theorem status_alike (backend : ServerBackend) :
    TwoRun Session.Alike Session.Alike (Backend.server backend).status := by
  have run := backend.fetchStatus_alike.mono fun first second alike =>
    (⟨alike.player, alike.server.received⟩ :
      Exchange.Both Player.Alike BackendLink.SameReceived first second)
  exact backend.withConnection_alike run fun _ _ alike => alike

theorem login_alike (backend : ServerBackend) :
    TwoRun Session.Alike Session.SameReceived (Backend.server backend).login :=
  backend.withConnection_alike backend.bridge_alike fun _ _ alike => alike.received

end ServerBackend

/-! ## Whole sessions -/

/-- Every backend that a policy can find is reached through a connector. -/
def Store.OfServers (store : Store Backend) : Prop :=
  ∀ address backend, store.lookup address = some backend →
    ∃ server, backend = Backend.server server

namespace Gateway

variable {store : Store Backend}

theorem reject_alike (reason : RejectReason) :
    TwoRun Session.Alike Session.Alike (reject reason) :=
  .seq (Session.onPlayer_both (Player.note_alike _)) fun _ => .pure _

theorem nextPacket?_alike : TwoRun Player.Alike Player.Alike answerStatus.nextPacket? := by
  intro first second alike
  unfold answerStatus.nextPacket?
  rcases (Player.readPacket_alike first second alike).split with
    ⟨packet, player, player', left, right, same⟩ | ⟨e, player, player', left, right, same⟩
  · rw [left, right]
    exact .ok _ same
  · rw [left, right]
    simp only
    split
    · exact .ok _ same
    · exact .error _ same

theorem answerStatus_alike (response : Packet) :
    TwoRun Player.Alike Player.Alike (answerStatus response) := by
  apply TwoRun.seq (Player.readPacket_alike.adaptExcept _)
  intro request
  apply TwoRun.seq (.ofExcept _)
  intro expected
  apply TwoRun.seq ((Player.writePacket_alike response).adaptExcept _)
  intro written
  apply TwoRun.seq nextPacket?_alike
  intro ping?
  cases ping? with
  | none => exact .pure _
  | some ping =>
      apply TwoRun.seq (.ofExcept _)
      intro expected
      exact (Player.writePacket_alike ping).adaptExcept _

theorem findBackend_alike (store : Store Backend) :
    TwoRun Session.Alike Session.Alike (findBackend store) := by
  intro first second alike
  unfold findBackend Store.find?
  cases store with
  | single backend => exact .ok backend alike
  | byAddress registry =>
      rcases (Player.serverAddress_alike first.player second.player alike.player).split with
        ⟨address, player, player', left, right, same⟩ | ⟨e, player, player', left, right, same⟩
      · simp only [left, right]
        cases registry.get? address with
        | some backend => exact .ok _ ⟨same, alike.outbound⟩
        | none => exact .ok _ ⟨same.withEvents _ _, alike.outbound⟩
      · simp only [left, right]
        exact .ok _ ⟨same.withEvents _ _, alike.outbound⟩

/-- A backend that is found is one that an address has. -/
theorem lookup_of_findBackend {session after : Session} {backend : Backend}
    (found : findBackend store session = .ok (some backend) after) :
    ∃ address, store.lookup address = some backend := by
  unfold findBackend Store.find? at found
  cases store with
  | single one =>
      cases found
      exact ⟨"", rfl⟩
  | byAddress registry =>
      cases asked : session.player.serverAddress with
      | error e player =>
          simp only [asked] at found
          cases found
      | ok address player =>
          simp only [asked] at found
          cases bound : registry.get? address with
          | none =>
              rw [bound] at found
              cases found
          | some one =>
              rw [bound] at found
              cases found
              exact ⟨address, bound⟩

theorem dispatch_alike (servers : store.OfServers) (handshake : Handshake)
    {call : Backend → EStateM GatewayError Session Outcome}
    (run : ∀ server, TwoRun Session.Alike Session.SameReceived (call (Backend.server server))) :
    TwoRun Session.Alike Session.SameReceived (dispatch store handshake call) := by
  refine .bind_of (findBackend_alike store) (fun session found after done => ?_)
    Session.Alike.received
  cases found with
  | none => exact (reject_alike _).mono Session.Alike.received
  | some backend =>
      obtain ⟨address, bound⟩ := lookup_of_findBackend done
      obtain ⟨server, rfl⟩ := servers address backend bound
      refine .bind (Session.onPlayer_both (Player.note_alike _)) (fun _ => run server) ?_
      exact Session.Alike.received

theorem serveStatus_alike (server : ServerBackend) :
    TwoRun Session.Alike Session.SameReceived (serveStatus (Backend.server server)) := by
  refine (TwoRun.seq server.status_alike fun response => ?_).mono Session.Alike.received
  exact .seq (Session.onPlayer_both (answerStatus_alike response)) fun _ => .pure _

theorem serveLogin_alike (server : ServerBackend) :
    TwoRun Session.Alike Session.SameReceived (serveLogin (Backend.server server)) :=
  .bind server.login_alike (fun _ => .pure _) fun _ _ same => same

theorem serve_alike (servers : store.OfServers) :
    TwoRun Session.Alike Session.SameReceived (serve store) := by
  refine .bind (Session.onPlayer_both Player.handshake_alike) (fun handshake => ?_)
    Session.Alike.received
  cases handshake.requestType with
  | unknown => exact (reject_alike _).mono Session.Alike.received
  | status => exact dispatch_alike servers handshake serveStatus_alike
  | login => exact dispatch_alike servers handshake serveLogin_alike

/-- **Timing decides nothing.**  Two sessions that send the same bytes between the same faults and
ends, to backends that do so as well, have the same outcome or fail with the same error.  They
connect to the same backends in the same order, and the same bytes are received by the player and
over every connection. -/
theorem handle_alike (servers : store.OfServers) {first second : Session}
    (alike : Session.Alike first second) :
    Related Session.SameReceived (handle store first) (handle store second) := by
  rw [handle_eq, handle_eq]
  exact (serve_alike servers first second alike).onState fun _ _ same =>
    ⟨same.player, same.outbound⟩

/-- A login that arrives at once, and one that arrives in pieces over sinks that take one byte at a
time. -/
theorem handle_alike_login :
    let lobby : Store Backend := .single (some (.server { id := "lobby", connector := 0 }))
    let visit (script reply : List Arrival) (perWrite : Option Nat) : Session :=
      { player :=
          { peer := { source := { script }, sink := { perWrite } }
            remote := ⟨.v4 0x7F000001, 50000, 0⟩
            localAddress := ⟨.v4 0x7F000001, 25565, 0⟩ }
        outbound :=
          { connectors :=
              [.listed [.connected { peer := { source := ⟨reply, []⟩, sink := { perWrite } } }]] } }
    let whole := visit [.chunk [7, 0, 0, 1, 97, 0, 1, 2, 3, 0, 1, 98, 9, 8]] [.chunk [5, 6]] none
    let cut := visit [.chunk [7, 0, 0, 1], .pause, .chunk [97, 0, 1, 2, 3], .chunk [],
      .chunk [0, 1, 98, 9], .chunk [8]] [.chunk [5], .pause, .chunk [6]] (some 1)
    lobby.OfServers ∧ Session.Alike whole cut ∧
      Related Session.SameReceived (handle lobby whole) (handle lobby cut) := by
  intro lobby visit whole cut
  have servers : lobby.OfServers := by
    intro address backend found
    cases found
    exact ⟨_, rfl⟩
  have sinks : Sink.Alike { perWrite := none } { perWrite := some 1 } :=
    ⟨by decide, rfl, rfl, by decide, rfl, rfl⟩
  have connectors :
      List.Forall₂ Connector.Alike whole.outbound.connectors cut.outbound.connectors :=
    .cons (.listed (.cons (.connected ⟨⟨rfl, sinks⟩, rfl⟩) .nil)) .nil
  have alike : Session.Alike whole cut := ⟨⟨⟨rfl, sinks⟩, rfl, rfl, rfl⟩, connectors, .nil⟩
  exact ⟨servers, alike, handle_alike servers alike⟩

end Gateway

end GameGateway
