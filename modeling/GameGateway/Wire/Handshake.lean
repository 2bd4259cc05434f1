import GameGateway.Wire.Packet

/-!
# The handshake

The first packet of every session: the protocol version of the game client, the address and port it
was told to connect to, and what it wants next.  The address is the routing key, byte for byte.
-/

namespace GameGateway

/-- What a client asks for after its handshake. -/
inductive RequestType
  | unknown
  | status
  | login
  deriving DecidableEq, Repr

namespace RequestType

/-- The request that a next-state number stands for. -/
def ofNextState (nextState : Int32) : RequestType :=
  if nextState = 1 then .status else if nextState = 2 then .login else .unknown

def name : RequestType → String
  | unknown => "unknown"
  | status => "status"
  | login => "login"

/-- The number that stands for a request; zero for one the gateway does not know. -/
def code : RequestType → Nat
  | unknown => 0
  | status => 1
  | login => 2

end RequestType

/-- The fields of a handshake. -/
structure Handshake where
  protocolVersion : Int32
  serverAddress : String
  serverPort : UInt16
  nextState : Int32
  deriving DecidableEq, Repr

namespace Handshake

/-- The id of a handshake packet. -/
def packetId : UInt32 := 0

/-- What the client asks for. -/
def requestType (handshake : Handshake) : RequestType :=
  .ofNextState handshake.nextState

/-- The packet of a handshake. -/
def toPacket (handshake : Handshake) : Packet where
  id := packetId
  data :=
    VarInt.encodeSigned handshake.protocolVersion ++
    VarInt.encodeString handshake.serverAddress ++
    BigEndian.encode 2 handshake.serverPort.toNat ++
    VarInt.encodeSigned handshake.nextState

/-- Reads a port of two bytes, taking nothing where they are not both there. -/
def readPort : VarInt.Reader UInt16 := do
  match ← get with
  | high :: low :: rest =>
    set rest
    return UInt16.ofNat (BigEndian.decode [high, low])
  | _ => throw .bufferTooShort

/-- Reads the fields in turn, blaming the first one that cannot be read. -/
def read : EStateM HandshakeFault Bytes Handshake := do
  let protocolVersion ← VarInt.readSigned.adaptExcept (.unreadable .protocolVersion)
  let serverAddress ← VarInt.readString.adaptExcept (.unreadable .serverAddress)
  let serverPort ← readPort.adaptExcept (.unreadable .serverPort)
  let nextState ← VarInt.readSigned.adaptExcept (.unreadable .nextState)
  return { protocolVersion, serverAddress, serverPort, nextState }

/-- The handshake that a packet carries.  Bytes behind the last field are left alone. -/
def ofPacket (packet : Packet) : Except ProtocolError Handshake :=
  if packet.id ≠ packetId then .error (.malformedHandshake (.unexpectedId packet.id))
  else
    match read packet.data with
    | .ok handshake _ => .ok handshake
    | .error fault _ => .error (.malformedHandshake fault)

end Handshake

end GameGateway
