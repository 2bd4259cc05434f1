import GameGateway.Net.ProxyHeader
import GameGateway.Session.Outbound
import GameGateway.Session.Tunnel

/-!
# Backends

A backend is whatever can answer a status request and take over a login.  `Backend.server` is the
one that matters: for every session it opens one connection, tells the backend the player's address
if it is asked to, and replays the player's handshake; then it either fetches the status or replays
the login start and joins the two streams.  `Backend.fixed` answers from memory and opens nothing.
-/

namespace GameGateway

/-- Something that serves a routed connection. -/
structure Backend where
  /-- The name under which the backend is reported. -/
  id : String
  /-- Fetches the answer to a status request, for the caller to hand to the player. -/
  status : EStateM GatewayError Session Packet
  /-- Takes over a login until it is over. -/
  login : EStateM GatewayError Session Unit

/-! ## With a connection at hand -/

/-- A player and an open connection to a backend. -/
structure Exchange where
  player : Player
  server : BackendLink
  deriving DecidableEq, Repr

namespace Exchange

variable {ε α : Type}

/-- Acts on the player's connection. -/
def onPlayer (act : EStateM ε Player α) : EStateM ε Exchange α := fun exchange =>
  match act exchange.player with
  | .ok a player => .ok a { exchange with player }
  | .error e player => .error e { exchange with player }

/-- Acts on the connection to the backend. -/
def onServer (act : EStateM ε BackendLink α) : EStateM ε Exchange α := fun exchange =>
  match act exchange.server with
  | .ok a server => .ok a { exchange with server }
  | .error e server => .error e { exchange with server }

/-- Joins the two streams until both directions have ended. -/
def join : EStateM ε Exchange Tunnel.Joined := fun exchange =>
  let joined := Tunnel.join exchange.player.peer exchange.server.peer
  let events := joined.events.reverse ++ exchange.player.events
  .ok joined
    { player := { exchange.player with peer := joined.a, events }
      server := { exchange.server with peer := joined.b } }

end Exchange

/-- A backend that is reached through a connector. -/
structure ServerBackend where
  id : String
  /-- The number of the connector. -/
  connector : Nat
  /-- Whether every connection starts with a PROXY header. -/
  proxyProtocol : Bool := false
  deriving DecidableEq, Repr

namespace ServerBackend

variable {α : Type}

/-- What is reported before a connect. -/
def connectEvents : Connector → List Event
  | .listed _ => []
  | .tcp address _ => [.connecting address]

/-- Tells the backend both ends of the player's connection. -/
def sendHeader (backend : ServerBackend) : EStateM GatewayError Exchange Unit := do
  let player := (← get).player
  let header : ProxyHeader := ⟨player.remote, player.localAddress⟩
  Exchange.onServer ((BackendLink.onPeer (Peer.writeAll header.encode)).adaptExcept .io)
  Exchange.onPlayer (Player.note (.proxyHeaderSent backend.id))

/-- Starts a connection: the header if it is wanted, then the player's handshake. -/
def greet (backend : ServerBackend) (handshake : Packet) : EStateM GatewayError Exchange Unit := do
  Exchange.onPlayer (Player.note (.connected backend.id))
  if backend.proxyProtocol then backend.sendHeader
  Exchange.onServer ((BackendLink.sendPacket handshake).adaptExcept .protocol)

/-- Fetches the status.  The answer has to be a status response, and is handed on as it came. -/
def fetchStatus (backend : ServerBackend) : EStateM GatewayError Exchange Packet := do
  let response ← Exchange.onServer (BackendLink.status.adaptExcept .protocol)
  match StatusResponse.ofPacket response with
  | .error e => throw (.protocol e)
  | .ok _ =>
    Exchange.onPlayer (Player.note (.statusReceived backend.id))
    return response

/-- Hands on the login start and joins the two streams. -/
def bridge (backend : ServerBackend) : EStateM GatewayError Exchange Unit := do
  let login ← Exchange.onPlayer Player.loginStart
  Exchange.onServer ((BackendLink.sendPacket login).adaptExcept .protocol)
  let player := (← get).player
  let name ← MonadExcept.ofExcept player.name
  Exchange.onPlayer (Player.note (.playerConnecting backend.id name player.remote))
  let joined ← Exchange.join
  Exchange.onPlayer
    (Player.note (.sessionClosed backend.id joined.forth.total joined.back.total))

/-- Connects, greets the backend and goes on with `act`.  The connection is let go of in the end,
whatever becomes of it.  Without a handshake packet nothing is opened. -/
def withConnection (backend : ServerBackend) (act : EStateM GatewayError Exchange α) :
    EStateM GatewayError Session α := do
  let handshake ← Session.onPlayer Player.handshakePacket
  fun session =>
    let events := connectEvents (session.outbound.connector backend.connector)
    let player := { session.player with events := events ++ session.player.events }
    match session.outbound.connect backend.connector with
    | (.failed e, outbound) =>
      .error (.backendConnect backend.id e)
        { player, outbound := outbound.close backend.connector none }
    | (.connected server, outbound) =>
      let leave (exchange : Exchange) : Session :=
        { player := exchange.player
          outbound := outbound.close backend.connector
            (some { exchange.server with peer := exchange.server.peer.release }) }
      match (do backend.greet handshake; act : EStateM GatewayError Exchange α) ⟨player, server⟩ with
      | .ok a exchange => .ok a (leave exchange)
      | .error e exchange => .error e (leave exchange)

end ServerBackend

/-! ## Backends -/

namespace Backend

/-- The backend behind a connector. -/
def server (backend : ServerBackend) : Backend where
  id := backend.id
  status := backend.withConnection backend.fetchStatus
  login := backend.withConnection backend.bridge

/-- An answer from memory. -/
def fromMemory {α : Type} (number : Nat) (request : RequestType) (answer : Except String α) :
    EStateM GatewayError Session α := fun session =>
  let session := { session with outbound := session.outbound.answer number request }
  match answer with
  | .ok a => .ok a session
  | .error reason => .error (.protocol (.malformedFrame (.reported reason))) session

/-- A backend that answers from memory, or fails for a given reason. -/
def fixed (number : Nat) (id : String) (status : Except String Packet)
    (login : Except String Unit) : Backend where
  id
  status := fromMemory number .status status
  login := fromMemory number .login login

end Backend

end GameGateway
