import GameGateway.Wire.ProtocolError

/-!
# Session errors

What ends a session without an outcome.  No such error touches another session.
-/

namespace GameGateway

/-- Why a session cannot go on. -/
inductive GatewayError
  /-- The first packet of the player cannot be read. -/
  | handshakeUnavailable (cause : ProtocolError)
  /-- The player's name is asked for before a login start was read. -/
  | nameUnavailable
  /-- A packet is not the one that the exchange is waiting for. -/
  | unexpectedPacket (expected got : UInt32)
  /-- No connection to a backend can be opened. -/
  | backendConnect (backend : String) (cause : IoError)
  | protocol (cause : ProtocolError)
  | io (cause : IoError)
  deriving DecidableEq, Repr

namespace GatewayError

/-- The wording of a session error. -/
def message : GatewayError → String
  | handshakeUnavailable cause => s!"cannot read handshake packet: {cause.message}"
  | nameUnavailable => "player name is not known before login start"
  | unexpectedPacket expected got =>
    s!"unexpected packet {Numeral.showId got}, expected {Numeral.showId expected}"
  | backendConnect backend cause => s!"cannot connect to backend '{backend}': {cause.message}"
  | protocol cause => cause.message
  | io cause => s!"io error: {cause.message}"

/-- Whether the error only means that the peer went away: a stream that was closed between two
frames, or a raw read or write that found nobody there. -/
def isEndOfStream : GatewayError → Bool
  | handshakeUnavailable cause | protocol cause => cause.isConnectionClosed
  | io cause => cause.kind.isPeerGone
  | _ => false

end GatewayError

end GameGateway
