import GameGateway.Net.SocketAddress.Parser
import GameGateway.Stream.Peer
import GameGateway.Text.Split
import GameGateway.Wire.Messages

/-!
# Connections to backends

A link is an open connection to a backend, with the packet that asks that backend for its
status.  A connector opens one per session.
-/

namespace GameGateway

/-- An open connection to a backend. -/
structure BackendLink where
  peer : Peer
  /-- What to send to ask for the status. -/
  statusRequest : Packet := GameGateway.statusRequest
  deriving DecidableEq, Repr

namespace BackendLink

variable {ε α : Type}

/-- Acts on the stream of the connection. -/
def onPeer (act : EStateM ε Peer α) : EStateM ε BackendLink α := fun link =>
  match act link.peer with
  | .ok a peer => .ok a { link with peer }
  | .error e peer => .error e { link with peer }

def sendPacket (packet : Packet) : EStateM ProtocolError BackendLink Unit :=
  onPeer (Peer.writePacket packet)

/-- Asks for the status and reads one packet back. -/
def status : EStateM ProtocolError BackendLink Packet := do
  sendPacket (← get).statusRequest
  onPeer Peer.readPacket

end BackendLink

/-- What one connect answers. -/
inductive Dial
  | failed (error : IoError)
  | connected (link : BackendLink)
  deriving DecidableEq, Repr

/-- The way to a backend. -/
inductive Connector
  /-- Answers one connect after the other as listed, and refuses every further one. -/
  | listed (answers : List Dial)
  /-- Connects to `host:port` over a network that answers every connect alike. -/
  | tcp (address : String) (network : Dial)
  deriving DecidableEq, Repr

namespace Connector

/-- What is wrong with an address, before any network is asked: unless it is a socket address, it
must be a host and a port with a colon between them. -/
def addressFault? (address : String) : Option IoError :=
  if (SocketAddress.parse? address).isSome then none
  else
    match Text.splitLast ':' address.toList with
    | none => some .invalidAddress
    | some (_, port) =>
      match Numeral.parse Numeral.maxWord16 port with
      | .ok _ => none
      | .error _ => some .invalidPort

/-- Connects once. -/
def connect : Connector → Dial × Connector
  | listed [] => (.failed .refused, listed [])
  | listed (answer :: answers) => (answer, listed answers)
  | tcp address network =>
    match addressFault? address with
    | some e => (.failed e, tcp address network)
    | none => (network, tcp address network)

end Connector

end GameGateway
