import GameGateway.Proofs.Routing.Segmentation
import GameGateway.Proofs.Session.Trace

/-!
# Nothing is retried

A session ends at its first failure.  It makes at most one connect, and on the player's stream and
on that connection it makes no read behind a fault or an end and no call behind one that failed;
all that the peers send behind is left (`Session.Stopped`).  Where a login gets as far as the
tunnel, nothing had failed before, and the tunnel keeps to the same rule in both directions
(`Session.Unretried`).  `Gateway.nothing_retried` says so for every session.

The one fault that is read on behind is an interruption while a packet is read
(`Gateway.reads_on_behind_interruption`); a tunnel does not pass it.
-/

namespace GameGateway

/-! ## With a connection at hand -/

namespace Exchange

variable {ε α : Type} {peer link : Peer}

/-- An exchange in which both streams are going. -/
structure Going (peer link : Peer) (exchange : Exchange) : Prop where
  player : peer.Going exchange.player.peer
  server : link.Going exchange.server.peer

/-- An exchange in which both streams have stopped. -/
structure Stopped (peer link : Peer) (exchange : Exchange) : Prop where
  player : peer.Stopped Reading.patient exchange.player.peer
  server : link.Stopped Reading.patient exchange.server.peer

/-- An exchange whose streams were going when they were joined. -/
def Tunnelled (peer link : Peer) (exchange : Exchange) : Prop :=
  ∃ a b, peer.Going a ∧ link.Going b ∧ exchange.player.peer = (Tunnel.join a b).a ∧
    exchange.server.peer = (Tunnel.join a b).b

theorem Going.stopped {exchange : Exchange} (going : exchange.Going peer link) :
    exchange.Stopped peer link :=
  ⟨going.player.stopped, going.server.stopped⟩

/-- An action that is made while both streams are going and stops no later than they do. -/
def Careful (peer link : Peer) (act : EStateM ε Exchange α) : Prop :=
  Meets (Going peer link) act (fun _ => Going peer link) (Stopped peer link)

theorem onPlayer_careful {act : EStateM ε Player α} (careful : Player.Careful peer act) :
    Careful peer link (onPlayer act) := by
  rw [onPlayer_eq]
  refine .onPart _ _ careful (fun _ going => going.player) ?_ ?_
  · exact fun _ going _ _ player => ⟨player, going.server⟩
  · exact fun _ going _ player => ⟨player, going.server.stopped⟩

theorem onServer_careful {act : EStateM ε BackendLink α} (careful : BackendLink.Careful link act) :
    Careful peer link (onServer act) := by
  rw [onServer_eq]
  refine .onPart _ _ careful (fun _ going => going.server) ?_ ?_
  · exact fun _ going _ _ server => ⟨going.player, server⟩
  · exact fun _ going _ server => ⟨going.player.stopped, server⟩

theorem note_careful (event : Event) :
    Careful peer link (onPlayer (Player.note event) : EStateM ε Exchange Unit) :=
  onPlayer_careful (Player.note_careful event)

/-- A join of streams that are going, and what is reported of it. -/
theorem join_meets (report : Tunnel.Joined → Event) :
    Meets (Going peer link)
      (do
        let joined ← join
        onPlayer (Player.note (report joined)) : EStateM ε Exchange Unit)
      (fun _ => Tunnelled peer link) (Stopped peer link) := by
  intro exchange going
  exact ⟨exchange.player.peer, exchange.server.peer, going.player, going.server, rfl, rfl⟩

end Exchange

/-! ## Backends -/

namespace ServerBackend

open Exchange

variable {α : Type} {peer link : Peer} (backend : ServerBackend)

theorem sendPacket_careful (packet : Packet) :
    Careful peer link
      (onServer ((BackendLink.sendPacket packet).adaptExcept GatewayError.protocol)) :=
  onServer_careful ((BackendLink.sendPacket_careful packet).adaptExcept _)

theorem greet_careful (handshake : Packet) : Careful peer link (backend.greet handshake) := by
  refine .bind (note_careful _) fun _ => ?_
  split
  · refine .bind ?_ fun _ => sendPacket_careful handshake
    refine .get_bind fun exchange => .bind ?_ fun _ => note_careful _
    exact onServer_careful ((BackendLink.writeAll_careful _).adaptExcept _)
  · exact sendPacket_careful handshake

theorem fetchStatus_careful : Careful peer link backend.fetchStatus := by
  refine .bind (onServer_careful (BackendLink.status_careful.adaptExcept _)) fun response => ?_
  cases StatusResponse.ofPacket response with
  | error e => exact .throw fun _ => Going.stopped
  | ok _ => exact .bind (note_careful _) fun _ => .pure fun _ going => going

/-- A login that succeeds has joined both streams. -/
theorem bridge_meets :
    Meets (Going peer link) backend.bridge (fun _ => Tunnelled peer link) (Stopped peer link) := by
  refine .bind (onPlayer_careful Player.loginStart_careful) fun login => ?_
  refine .bind (sendPacket_careful login) fun _ => .get_bind fun exchange => ?_
  refine .bind (.ofExcept (fun _ => Going.stopped) _) fun name => ?_
  exact .bind (note_careful _) fun _ => join_meets _

end ServerBackend

/-! ## The way out -/

/-- The connects of one session: none, or one that failed, or one whose connection has stopped. -/
inductive Outbound.ConnectedOnce (outbound : Outbound) : Outbound → Prop
  | unconnected : ConnectedOnce outbound outbound
  | refused {number : Nat} {e : IoError} {opened : Outbound} :
    outbound.connect number = (.failed e, opened) →
    ConnectedOnce outbound (opened.close number none)
  | connected {number : Nat} {link left : BackendLink} {opened : Outbound} :
    outbound.connect number = (.connected link, opened) →
    link.peer.Stopped Reading.patient left.peer →
    ConnectedOnce outbound (opened.close number (some left))

namespace Session

variable {session : Session}

/-- A session in which nothing was connected yet, and the player's stream is going. -/
structure Unconnected (session now : Session) : Prop where
  player : session.player.peer.Going now.player.peer
  outbound : now.outbound = session.outbound

/-- A session in which the player's stream is going, and nothing more is to be connected. -/
structure Disconnected (session now : Session) : Prop where
  player : session.player.peer.Going now.player.peer
  outbound : session.outbound.ConnectedOnce now.outbound

/-- A session that has stopped at its first failure, if not before. -/
structure Stopped (session final : Session) : Prop where
  player : session.player.peer.Stopped Reading.patient final.player.peer
  outbound : session.outbound.ConnectedOnce final.outbound

theorem Unconnected.stopped {now : Session} (unconnected : session.Unconnected now) :
    session.Stopped now :=
  ⟨unconnected.player.stopped, unconnected.outbound ▸ .unconnected⟩

theorem Disconnected.stopped {now : Session} (disconnected : session.Disconnected now) :
    session.Stopped now :=
  ⟨disconnected.player.stopped, disconnected.outbound⟩

/-- How a session ends with nothing retried: it has stopped, or it is a login whose streams were
going until they were joined. -/
inductive Unretried (session : Session) : Option Outcome → Session → Prop
  | stopped {answer : Option Outcome} {final : Session} : answer ≠ some .login →
    session.Stopped final → Unretried session answer final
  | tunnelled {final : Session} {number : Nat} {link left : BackendLink} {opened : Outbound}
    {a b : Peer} : session.outbound.connect number = (.connected link, opened) →
    session.player.peer.Going a → link.peer.Going b →
    final.player.peer = (Tunnel.join a b).a → left.peer = (Tunnel.join a b).b.release →
    final.outbound = opened.close number (some left) → Unretried session (some .login) final

end Session

namespace ServerBackend

open Exchange

variable {α : Type} (backend : ServerBackend)

/-- What is done over a connection, seen from the session: unless it fails, a connection was made
and let go of. -/
theorem withConnection_meets {act : EStateM GatewayError Exchange α}
    {post : Peer → Peer → Exchange → Prop}
    (acts : ∀ peer link, Meets (Going peer link) act (fun _ => post peer link) (Stopped peer link))
    (session : Session) :
    Meets session.Unconnected (backend.withConnection act)
      (fun _ now => ∃ link opened exchange,
        session.outbound.connect backend.connector = (.connected link, opened) ∧
          post session.player.peer link.peer exchange ∧ now = leave backend opened exchange)
      session.Stopped := by
  rintro now ⟨going, same⟩
  have reads : Player.Careful session.player.peer Player.handshakePacket :=
    Player.handshakePacket_careful
  rw [← same]
  cases run : Player.handshakePacket now.player with
  | error e player =>
      rw [withConnection_error run]
      exact ⟨reads.error going run, same ▸ .unconnected⟩
  | ok handshake player =>
      have going' : session.player.peer.Going player.peer := reads.ok going run
      cases dial : now.outbound.connect backend.connector with
      | mk answer opened =>
          cases answer with
          | failed e =>
              rw [withConnection_failed run dial]
              exact ⟨going'.stopped, same ▸ .refused dial⟩
          | connected link =>
              let opening : Exchange := ⟨announced backend now.outbound player, link⟩
              have start : opening.Going session.player.peer link.peer := ⟨going', .refl _⟩
              have met := Meets.bind (backend.greet_careful handshake)
                (fun _ => acts session.player.peer link.peer)
              rw [withConnection_connected run dial]
              cases done : (do backend.greet handshake; act : EStateM GatewayError Exchange α)
                  opening with
              | ok a exchange => exact ⟨link, opened, exchange, rfl, met.ok start done, rfl⟩
              | error e exchange =>
                  have left := met.error start done
                  exact ⟨left.player, same ▸ .connected dial left.server.release⟩

theorem status_meets (session : Session) :
    Meets session.Unconnected (Backend.server backend).status (fun _ => session.Disconnected)
      session.Stopped := by
  refine (backend.withConnection_meets (fun _ _ => backend.fetchStatus_careful) session).after ?_
  rintro response now ⟨link, opened, exchange, dial, going, rfl⟩
  exact ⟨going.player, .connected dial going.server.stopped.release⟩

theorem login_meets (session : Session) :
    Meets session.Unconnected (Backend.server backend).login
      (fun _ => session.Unretried (some .login)) session.Stopped := by
  refine (backend.withConnection_meets (fun _ _ => backend.bridge_meets) session).after ?_
  rintro response now ⟨link, opened, exchange, dial, ⟨a, b, forth, back, player, server⟩, rfl⟩
  exact .tunnelled dial forth back player (congrArg Peer.release server) rfl

end ServerBackend

/-! ## Sessions -/

namespace Gateway

variable {session : Session} {store : Store Backend}

theorem onPlayer_meets {ε α : Type} {act : EStateM ε Player α}
    (careful : Player.Careful session.player.peer act) :
    Meets session.Unconnected (Session.onPlayer act) (fun _ => session.Unconnected)
      session.Stopped := by
  rw [Session.onPlayer_eq]
  refine .onPart _ _ careful (fun _ unconnected => unconnected.player) ?_ ?_
  · exact fun _ unconnected _ _ player => ⟨player, unconnected.outbound⟩
  · exact fun _ unconnected _ player => ⟨player, unconnected.stopped.outbound⟩

theorem reject_meets (reason : RejectReason) (fail : Session → Prop) :
    Meets session.Stopped (reject reason) (fun outcome => session.Unretried (some outcome)) fail :=
  fun _ stopped => .stopped nofun ⟨stopped.player, stopped.outbound⟩

theorem nextPacket?_meets {peer : Peer} :
    Meets (fun player : Player => peer.Going player.peer) answerStatus.nextPacket?
      (fun packet? player => peer.Stopped Reading.patient player.peer ∧
        (packet? ≠ none → peer.Going player.peer))
      (fun player => peer.Stopped Reading.patient player.peer) := by
  intro player going
  have reads : Player.Careful peer Player.readPacket := Player.readPacket_careful
  unfold answerStatus.nextPacket?
  cases run : Player.readPacket player with
  | ok packet after =>
      have going' : peer.Going after.peer := reads.ok going run
      exact ⟨going'.stopped, fun _ => going'⟩
  | error e after =>
      have stopped : peer.Stopped Reading.patient after.peer := reads.error going run
      cases closed : e.isConnectionClosed with
      | true =>
          simp only [closed, if_true]
          exact ⟨stopped, fun some => absurd rfl some⟩
      | false =>
          simp only [closed, Bool.false_eq_true, if_false]
          exact stopped

/-- The exchange of a status ends where the stream stops, and behind the echo in any case. -/
theorem answerStatus_meets {peer : Peer} (response : Packet) :
    Meets (fun player : Player => peer.Going player.peer) (answerStatus response)
      (fun _ player => peer.Stopped Reading.patient player.peer)
      (fun player => peer.Stopped Reading.patient player.peer) := by
  refine .bind (Player.readPacket_careful.adaptExcept _) fun request => ?_
  refine .bind (.ofExcept Player.stops _) fun _ => ?_
  refine .bind ((Player.writePacket_careful response).adaptExcept _) fun _ => ?_
  refine .bind nextPacket?_meets fun ping? => ?_
  cases ping? with
  | none => exact .pure fun _ left => left.1
  | some ping =>
      refine (Meets.bind (.ofExcept Player.stops _) fun _ => ?_).before fun _ left => left.2 nofun
      exact ((Player.writePacket_careful ping).adaptExcept _).after fun _ _ => Peer.Going.stopped

theorem serveStatus_meets (backend : ServerBackend) :
    Meets session.Unconnected (serveStatus (.server backend))
      (fun outcome => session.Unretried (some outcome)) session.Stopped := by
  refine .bind (backend.status_meets session) fun response => ?_
  have answers : Meets session.Disconnected (Session.onPlayer (answerStatus response))
      (fun _ => session.Stopped) session.Stopped := by
    rw [Session.onPlayer_eq]
    refine .onPart _ _ (answerStatus_meets response) (fun _ closed => closed.player) ?_ ?_
    · exact fun _ closed _ _ player => ⟨player, closed.outbound⟩
    · exact fun _ closed _ player => ⟨player, closed.outbound⟩
  exact .bind answers fun _ => .pure fun _ stopped => .stopped nofun stopped

theorem serveLogin_meets (backend : ServerBackend) :
    Meets session.Unconnected (serveLogin (.server backend))
      (fun outcome => session.Unretried (some outcome)) session.Stopped :=
  .bind (backend.login_meets session) fun _ => .pure fun _ => id

/-- A lookup leaves the player's stream going where it finds a backend, and that is one of the
servers. -/
theorem findBackend_meets (servers : store.OfServers) :
    Meets session.Unconnected (findBackend store)
      (fun found now => session.Stopped now ∧ ∀ backend, found = some backend →
        session.Unconnected now ∧ ∃ server, backend = Backend.server server)
      session.Stopped := by
  intro now unconnected
  have asks : Player.Careful session.player.peer Player.serverAddress :=
    .map _ Player.handshake_careful
  unfold findBackend Store.find?
  cases store with
  | single backend =>
      exact ⟨unconnected.stopped, fun one same => ⟨unconnected, servers "" one same⟩⟩
  | byAddress registry =>
      cases asked : now.player.serverAddress with
      | error e player =>
          have stopped := asks.error unconnected.player asked
          exact ⟨⟨stopped, unconnected.stopped.outbound⟩, nofun⟩
      | ok address player =>
          have next : session.Unconnected { now with player } :=
            ⟨asks.ok unconnected.player asked, unconnected.outbound⟩
          cases bound : registry.get? address with
          | some one =>
              simp only [bound]
              exact ⟨next.stopped,
                fun other same => ⟨next, servers address other (bound.trans same)⟩⟩
          | none =>
              simp only [bound]
              exact ⟨⟨next.stopped.player, next.stopped.outbound⟩, nofun⟩

theorem dispatch_meets (servers : store.OfServers) (handshake : Handshake)
    {call : Backend → EStateM GatewayError Session Outcome}
    (calls : ∀ server, Meets session.Unconnected (call (Backend.server server))
      (fun outcome => session.Unretried (some outcome)) session.Stopped) :
    Meets session.Unconnected (dispatch store handshake call)
      (fun outcome => session.Unretried (some outcome)) session.Stopped := by
  refine .bind (findBackend_meets servers) fun found => ?_
  cases found with
  | none => exact (reject_meets _ _).before fun _ left => left.1
  | some backend =>
      rintro now ⟨-, known⟩
      obtain ⟨unconnected, server, rfl⟩ := known backend rfl
      exact Meets.bind (onPlayer_meets (Player.note_careful _)) (fun _ => calls server) now
        unconnected

theorem serve_meets (servers : store.OfServers) (session : Session) :
    Meets session.Unconnected (serve store) (fun outcome => session.Unretried (some outcome))
      session.Stopped := by
  refine .bind (onPlayer_meets Player.handshake_careful) fun handshake => ?_
  cases handshake.requestType with
  | unknown => exact (reject_meets _ _).before fun _ => Session.Unconnected.stopped
  | status => exact dispatch_meets servers handshake serveStatus_meets
  | login => exact dispatch_meets servers handshake serveLogin_meets

/-- **Nothing is retried.**  A session whose addresses lead to servers stops at its first failure,
or is a login whose streams were going until they were joined; and joined streams stop at their
first failure in each direction.

What stops is read no further: no read is made behind a fault or an end, so all that follows it is
left, and no write, flush or shutdown is made behind a write or flush that failed.  There is at most
one connect. -/
theorem nothing_retried (servers : store.OfServers) (session : Session) :
    (∃ served, session.Unretried (answerOf (handle store session)) served ∧
      stateOf (handle store session) = handle.leave served) ∧
    ∀ a b : Peer, a.Stopped Reading.bare (Tunnel.join a b).a ∧
      b.Stopped Reading.bare (Tunnel.join a b).b := by
  refine ⟨⟨stateOf (serve store session), ?_, ?_⟩, Tunnel.join_stops⟩
  · have met := serve_meets servers session session ⟨.refl _, rfl⟩
    rw [handle_eq, answerOf_onState]
    cases served : serve store session with
    | ok outcome final =>
        rw [served] at met
        exact met
    | error e final =>
        rw [served] at met
        exact .stopped nofun met
  · rw [handle_eq, stateOf_onState]

/-- A login whose player is interrupted inside the handshake, which is read on, and again in the
tunnel, which ends there: the byte behind it is never read. -/
theorem nothing_retried_login :
    let lobby : Store Backend := .single (some (.server { id := "lobby", connector := 0 }))
    let interruption : Arrival := .fault ⟨.interrupted, "m"⟩
    let script : List Arrival :=
      [.chunk [7, 0, 0, 1, 97], interruption, .chunk [0, 1, 2, 3, 0, 1, 98], interruption,
        .chunk [9]]
    let visit : Session :=
      { player :=
          { peer := { source := { script } }
            remote := ⟨.v4 0x7F000001, 50000, 0⟩
            localAddress := ⟨.v4 0x7F000001, 25565, 0⟩ }
        outbound := { connectors := [.listed [.connected { peer := { source := ⟨[], []⟩ } }]] } }
    let result := handle lobby visit
    lobby.OfServers ∧ answerOf result = some .login ∧
      (stateOf result).player.peer.source.unread = 1 ∧
      ∃ served, visit.Unretried (some .login) served ∧ stateOf result = handle.leave served := by
  intro lobby interruption script visit result
  have servers : lobby.OfServers := by
    intro address backend found
    cases found
    exact ⟨_, rfl⟩
  have login : answerOf result = some .login := by decide +kernel
  have unretried := (nothing_retried servers visit).1
  change ∃ served, visit.Unretried (answerOf result) served ∧ _ at unretried
  rw [login] at unretried
  exact ⟨servers, login, by decide +kernel, unretried⟩

/-- A session that reads on behind an interruption: its player is interrupted once and then ends. -/
theorem reads_on_behind_interruption :
    ¬ ∀ (store : Store Backend) (session : Session), store.OfServers →
      session.player.peer.Stopped Reading.bare
        (stateOf (handle store session)).player.peer := by
  intro stops
  let store : Store Backend := .single none
  let session : Session :=
    { player :=
        { peer := { source := { script := [.fault ⟨.interrupted, "m"⟩] } }
          remote := ⟨.v4 0, 1, 0⟩
          localAddress := ⟨.v4 0, 2, 0⟩ }
      outbound := {} }
  obtain ⟨answers, reads, last, -⟩ := (stops store session nofun).reads
  have record : (stateOf (handle store session)).player.peer.source.answers =
      [.finished, .fault ⟨.interrupted, "m"⟩] := by decide +kernel
  rw [reads.answers_eq, List.append_nil] at record
  rw [record] at last
  cases last (.fault ⟨.interrupted, "m"⟩) (List.mem_singleton_self _)

end Gateway

end GameGateway
