import GameGateway.Session.Event
import GameGateway.Stream.Peer
import GameGateway.Wire.Messages

/-!
# Players

The connection of a player.  Its stream can be read only once, so the two packets that the gateway
looks into are kept: the handshake packet and the login start packet as soon as they are read, and
what they say as soon as they can be decoded.  Every later question is answered from what is kept.
-/

namespace GameGateway

/-- What is known about a player. -/
structure PlayerCache where
  handshakePacket : Option Packet := none
  /-- Known once the handshake packet was decoded. -/
  handshake : Option Handshake := none
  loginPacket : Option Packet := none
  /-- Known once the login start packet was decoded. -/
  name : Option String := none
  deriving DecidableEq, Repr

/-- A player's connection. -/
structure Player where
  peer : Peer
  /-- Where the player connects from. -/
  remote : SocketAddress
  /-- The address the player connects to. -/
  localAddress : SocketAddress
  cache : PlayerCache := {}
  /-- What was reported about this connection, newest first. -/
  events : List Event := []
  deriving DecidableEq, Repr

namespace Player

variable {ε α : Type}

/-- Reports an event. -/
def note (event : Event) : EStateM ε Player Unit :=
  modify fun player => { player with events := event :: player.events }

/-- Acts on the player's stream. -/
def onPeer (act : EStateM ε Peer α) : EStateM ε Player α := fun player =>
  match act player.peer with
  | .ok a peer => .ok a { player with peer }
  | .error e peer => .error e { player with peer }

def readPacket : EStateM ProtocolError Player Packet :=
  onPeer Peer.readPacket

def writePacket (packet : Packet) : EStateM ProtocolError Player Unit :=
  onPeer (Peer.writePacket packet)

/-! ## The handshake -/

/-- The handshake packet, which is read at the first successful call. -/
def handshakePacket : EStateM GatewayError Player Packet := do
  match (← get).cache.handshakePacket with
  | some packet => return packet
  | none =>
    let packet ← readPacket.adaptExcept .handshakeUnavailable
    modify fun player =>
      { player with cache := { player.cache with handshakePacket := some packet } }
    return packet

/-- The handshake, which is decoded at the first successful call. -/
def handshake : EStateM GatewayError Player Handshake := do
  match (← get).cache.handshake with
  | some handshake => return handshake
  | none =>
    let packet ← handshakePacket
    match Handshake.ofPacket packet with
    | .error e => throw (.protocol e)
    | .ok handshake =>
      note (.handshakeDecoded handshake)
      modify fun player =>
        { player with cache := { player.cache with handshake := some handshake } }
      return handshake

/-- What the player asks for. -/
def requestType : EStateM GatewayError Player RequestType :=
  Handshake.requestType <$> handshake

/-- The address that the player was told to connect to. -/
def serverAddress : EStateM GatewayError Player String :=
  Handshake.serverAddress <$> handshake

/-! ## The login -/

/-- The login start packet, which is read at the first successful call and kept whether or not it
can be decoded. -/
def loginPacket : EStateM GatewayError Player Packet := do
  match (← get).cache.loginPacket with
  | some packet => return packet
  | none =>
    let packet ← readPacket.adaptExcept .protocol
    modify fun player => { player with cache := { player.cache with loginPacket := some packet } }
    return packet

/-- The login start packet, if it tells the player's name. -/
def loginStart : EStateM GatewayError Player Packet := do
  let packet ← loginPacket
  match LoginStart.ofPacket packet with
  | .error e => throw (.protocol e)
  | .ok login =>
    modify fun player => { player with cache := { player.cache with name := some login.name } }
    return packet

/-- The player's name, which is known behind a login start. -/
def name (player : Player) : Except GatewayError String :=
  match player.cache.name with
  | some name => .ok name
  | none => .error .nameUnavailable

end Player

end GameGateway
