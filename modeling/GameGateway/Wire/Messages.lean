import GameGateway.Wire.Packet

/-!
# Login start, status response and ping

The messages behind the handshake that the gateway looks into.  Each has one field, and whatever
newer clients put behind that field is left alone.
-/

namespace GameGateway

/-- The value of one field at the front of a packet's payload. -/
def Packet.decodeField {α : Type} (packet : Packet) (kind : MessageKind) (packetId : UInt32)
    (reader : VarInt.Reader α) : Except ProtocolError α :=
  if packet.id ≠ packetId then .error (.malformedPacket packet.id (.unexpectedId kind))
  else
    match reader packet.data with
    | .ok value _ => .ok value
    | .error cause _ => .error (.malformedPacket packet.id (.payload kind cause))

/-! ## Login start -/

/-- The first packet of a login. -/
structure LoginStart where
  /-- The name of the player. -/
  name : String
  deriving DecidableEq, Repr

namespace LoginStart

def packetId : UInt32 := 0

def toPacket (login : LoginStart) : Packet :=
  ⟨packetId, VarInt.encodeString login.name⟩

def ofPacket (packet : Packet) : Except ProtocolError LoginStart :=
  LoginStart.mk <$> packet.decodeField .loginStart packetId VarInt.readString

end LoginStart

/-! ## Status -/

/-- The id of a status request. -/
def statusRequestId : UInt32 := 0

/-- The empty packet that asks for the status. -/
def statusRequest : Packet :=
  ⟨statusRequestId, []⟩

/-- The answer to a status request. -/
structure StatusResponse where
  /-- The status document, which is passed on as it is. -/
  json : String
  deriving DecidableEq, Repr

namespace StatusResponse

def packetId : UInt32 := 0

def toPacket (response : StatusResponse) : Packet :=
  ⟨packetId, VarInt.encodeString response.json⟩

def ofPacket (packet : Packet) : Except ProtocolError StatusResponse :=
  StatusResponse.mk <$> packet.decodeField .statusResponse packetId VarInt.readString

end StatusResponse

/-! ## Ping -/

/-- A ping, which is answered by itself. -/
structure Ping where
  payload : Int64
  deriving DecidableEq

namespace Ping

def packetId : UInt32 := 1

def toPacket (ping : Ping) : Packet :=
  ⟨packetId, BigEndian.encode 8 ping.payload.toUInt64.toNat⟩

/-- Reads a number of eight bytes, taking nothing where they are not all there. -/
def readPayload : VarInt.Reader Int64 := do
  let bytes ← get
  if bytes.length < 8 then
    throw .bufferTooShort
  set (bytes.drop 8)
  return (UInt64.ofNat (BigEndian.decode (bytes.take 8))).toInt64

def ofPacket (packet : Packet) : Except ProtocolError Ping :=
  Ping.mk <$> packet.decodeField .ping packetId readPayload

end Ping

end GameGateway
