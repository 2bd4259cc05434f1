import GameGateway.Text.Numeral
import GameGateway.Wire.IoError
import GameGateway.Wire.VarInt

/-!
# Protocol errors

What can go wrong while packets are read, decoded and written, as causes.  `ProtocolError.message`
is the only place that puts one into words.
-/

namespace GameGateway

/-- Largest frame body that is accepted: the largest number of a three-byte varint. -/
def maxFrameLength : Nat := 2097151

/-- What is wrong with a frame. -/
inductive FrameFault
  /-- The length cannot be read from a buffer. -/
  | lengthUnreadable (cause : VarIntError)
  /-- The declared length is zero, so there is no packet id. -/
  | empty
  /-- The declared length is above `maxFrameLength`. -/
  | tooLong (length : Nat)
  /-- The buffer does not hold the whole body. -/
  | incomplete (declared available : Nat)
  /-- The body does not start with a packet id. -/
  | idUnreadable (cause : VarIntError)
  /-- The stream ends inside the length. -/
  | endedInLength
  /-- The length read from a stream has too many bytes. -/
  | lengthOverlong
  /-- The stream ends inside the body. -/
  | endedInBody (length : Nat)
  /-- A primitive value cannot be read. -/
  | unreadable (cause : VarIntError)
  /-- A backend gave a reason in its own words. -/
  | reported (reason : String)
  deriving DecidableEq, Repr

/-- The fields of a handshake, in the order in which they travel. -/
inductive HandshakeField
  | protocolVersion
  | serverAddress
  | serverPort
  | nextState
  deriving DecidableEq, Repr

/-- What is wrong with a handshake. -/
inductive HandshakeFault
  | unexpectedId (id : UInt32)
  | unreadable (field : HandshakeField) (cause : VarIntError)
  | reported (reason : String)
  deriving DecidableEq, Repr

/-- The messages behind the handshake that the gateway decodes. -/
inductive MessageKind
  | loginStart
  | statusResponse
  | ping
  deriving DecidableEq, Repr

/-- What is wrong with a message behind the handshake. -/
inductive MessageFault
  | unexpectedId (expected : MessageKind)
  /-- The one field that the message has cannot be read. -/
  | payload (kind : MessageKind) (cause : VarIntError)
  | reported (reason : String)
  deriving DecidableEq, Repr

/-- Why packets cannot be exchanged. -/
inductive ProtocolError
  /-- The stream ended before the first byte of a frame. -/
  | connectionClosed
  | malformedFrame (fault : FrameFault)
  | malformedHandshake (fault : HandshakeFault)
  | malformedPacket (id : UInt32) (fault : MessageFault)
  | io (error : IoError)
  deriving DecidableEq, Repr

/-! ## Wording -/

def FrameFault.message : FrameFault → String
  | lengthUnreadable cause => s!"length prefix: {cause.message}"
  | empty => "empty frame has no packet id"
  | tooLong length => s!"frame length {length} exceeds maximum {maxFrameLength}"
  | incomplete declared available =>
    s!"frame declares {declared} bytes, only {available} available"
  | idUnreadable cause => s!"packet id: {cause.message}"
  | endedInLength => "stream ended inside length prefix"
  | lengthOverlong => s!"length prefix longer than {VarInt.maxBytes} bytes"
  | endedInBody length => s!"stream ended inside a {length}-byte frame"
  | unreadable cause => cause.message
  | reported reason => reason

def HandshakeField.name : HandshakeField → String
  | protocolVersion => "protocol version"
  | serverAddress => "server address"
  | serverPort => "server port"
  | nextState => "next state"

def HandshakeFault.message : HandshakeFault → String
  | unexpectedId id => s!"unexpected packet id {Numeral.showId id}"
  | unreadable field cause => s!"{field.name}: {cause.message}"
  | reported reason => reason

namespace MessageKind

/-- The name of a message. -/
def name : MessageKind → String
  | loginStart => "login start"
  | statusResponse => "status response"
  | ping => "ping"

/-- The name of the field that is decoded. -/
def fieldName : MessageKind → String
  | loginStart => "name"
  | statusResponse => "json"
  | ping => "payload"

end MessageKind

def MessageFault.message : MessageFault → String
  | unexpectedId expected => s!"{expected.name}: unexpected packet id"
  | payload kind cause => s!"{kind.fieldName}: {cause.message}"
  | reported reason => reason

namespace ProtocolError

/-- The wording of a protocol error. -/
def message : ProtocolError → String
  | connectionClosed => "connection closed"
  | malformedFrame fault => s!"malformed frame: {fault.message}"
  | malformedHandshake fault => s!"malformed handshake: {fault.message}"
  | malformedPacket id fault => s!"malformed packet {Numeral.showId id}: {fault.message}"
  | io error => s!"io error: {error.message}"

/-- Whether the peer closed the stream between two frames. -/
def isConnectionClosed : ProtocolError → Bool
  | connectionClosed => true
  | _ => false

end ProtocolError

end GameGateway
