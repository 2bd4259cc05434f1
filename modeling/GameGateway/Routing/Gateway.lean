import GameGateway.Routing.Backend
import GameGateway.Routing.Store

/-!
# Serving a connection

A session from its first byte to its outcome: the handshake is read, a backend is found for it, and
that backend is asked for the status or takes over the login.  A request that is neither, and an
address for which there is no backend, end the session before any backend is called.

In a status session the gateway itself talks to the player: it waits for the status request, hands
over the backend's answer, and echoes one ping.
-/

namespace GameGateway

namespace Gateway

/-- Ends a session without a backend. -/
def reject (reason : RejectReason) : EStateM GatewayError Session Outcome := do
  Session.onPlayer (Player.note (.connectionRejected reason))
  return .rejected reason

/-- A packet of the status exchange must have the id that the exchange waits for. -/
def expect (expected : UInt32) (packet : Packet) : Except GatewayError Unit :=
  if packet.id = expected then .ok () else .error (.unexpectedPacket expected packet.id)

/-- Answers the player's status request, then echoes a ping if one follows.  A player that closes
its stream instead of sending a ping is done as well. -/
def answerStatus (response : Packet) : EStateM GatewayError Player Unit := do
  let request ← Player.readPacket.adaptExcept .protocol
  MonadExcept.ofExcept (expect statusRequestId request)
  (Player.writePacket response).adaptExcept .protocol
  let ping? ← nextPacket?
  match ping? with
  | none => return
  | some ping =>
    MonadExcept.ofExcept (expect Ping.packetId ping)
    (Player.writePacket ping).adaptExcept .protocol
where
  /-- The next packet, or nothing if the stream was closed in front of it. -/
  nextPacket? : EStateM GatewayError Player (Option Packet) := fun player =>
    match Player.readPacket player with
    | .ok packet player => .ok (some packet) player
    | .error e player =>
      if e.isConnectionClosed then .ok none player else .error (.protocol e) player

/-- Finds the backend of a session. -/
def findBackend (store : Store Backend) : EStateM GatewayError Session (Option Backend) :=
  fun session =>
    let (backend, player) := store.find? session.player
    .ok backend { session with player }

/-- Serves a session that is known to ask for a status or a login. -/
def dispatch (store : Store Backend) (handshake : Handshake)
    (serve : Backend → EStateM GatewayError Session Outcome) :
    EStateM GatewayError Session Outcome := do
  match ← findBackend store with
  | none => reject (.backendNotFound handshake.serverAddress)
  | some backend =>
    Session.onPlayer
      (Player.note (.dispatching backend.id handshake.requestType handshake.serverAddress))
    serve backend

/-- Lets the backend answer a status request. -/
def serveStatus (backend : Backend) : EStateM GatewayError Session Outcome := do
  let response ← backend.status
  Session.onPlayer (answerStatus response)
  return .status

/-- Lets the backend take over a login. -/
def serveLogin (backend : Backend) : EStateM GatewayError Session Outcome := do
  backend.login
  return .login

/-- Serves one connection. -/
def serve (store : Store Backend) : EStateM GatewayError Session Outcome := do
  let handshake ← Session.onPlayer Player.handshake
  match handshake.requestType with
  | .unknown => reject (.unknownRequest handshake.nextState)
  | .status => dispatch store handshake serveStatus
  | .login => dispatch store handshake serveLogin

/-- Serves one connection and lets go of it, whatever becomes of it. -/
def handle (store : Store Backend) : EStateM GatewayError Session Outcome := fun session =>
  match serve store session with
  | .ok outcome session => .ok outcome (leave session)
  | .error e session => .error e (leave session)
where
  /-- Closes the player's stream. -/
  leave (session : Session) : Session :=
    { session with player := { session.player with peer := session.player.peer.release } }

/-- Serves one connection; answers how the session ended and what it leaves behind. -/
def run (store : Store Backend) (session : Session) : Except GatewayError Outcome × Session :=
  match handle store session with
  | .ok outcome session => (.ok outcome, session)
  | .error e session => (.error e, session)

end Gateway

end GameGateway
