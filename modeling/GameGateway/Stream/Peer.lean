import GameGateway.Stream.Sink
import GameGateway.Stream.Source
import GameGateway.Wire.Packet

/-!
# Packets over a stream

A peer is the other end of a two-way stream: a source, which is read from, and a sink, which is
written to.  The two sides do not know of each other.

`Source.readPacket` reads one frame and not a byte more: the length comes one byte at a time, and
the body reads are limited to what is missing.  Interruptions do not disturb it, while a bare read
reports them.  `Sink.writePacket` writes one frame and flushes once.
-/

namespace GameGateway

/-! ## Reading -/

namespace Source

/-- A stream that ends in front of a frame was closed; inside the length the frame is torn. -/
def endedInLength (first : Bool) : ProtocolError :=
  if first then .connectionClosed else .malformedFrame .endedInLength

/-- Reads at most `limit` digits of a length, one byte at a time. -/
def readDigits : (limit : Nat) → (first : Bool) → EStateM ProtocolError Source Nat
  | 0, _, source => .error (.malformedFrame .lengthOverlong) source
  | limit + 1, first, source =>
    match source.readThrough 1 with
    | (.data (b :: _), source) =>
      if b < 128 then .ok b.toNat source
      else
        match readDigits limit false source with
        | .ok n source => .ok (b.toNat % 128 + 128 * n) source
        | .error e source => .error e source
    | (.fault e, source) =>
      .error (if e.kind = .unexpectedEof then endedInLength first else .io e) source
    | (_, source) => .error (endedInLength first) source

/-- Reads the length of a frame, dropping what exceeds 32 bits. -/
def readLength : EStateM ProtocolError Source UInt32 :=
  UInt32.ofNat <$> readDigits VarInt.maxBytes true

/-- Reads one frame. -/
def readPacket : EStateM ProtocolError Source Packet := do
  let length := (← readLength).toNat
  MonadExcept.ofExcept (Packet.checkLength length)
  let body ← (readUpTo length).adaptExcept .io
  if body.length < length then
    throw (.malformedFrame (.endedInBody length))
  MonadExcept.ofExcept (Packet.decodeBody body)

end Source

/-! ## Writing -/

/-- Writes one frame, then flushes. -/
def Sink.writePacket (packet : Packet) : EStateM ProtocolError Sink Unit := do
  (writeAll packet.encode).adaptExcept .io
  flush.adaptExcept .io

/-! ## Both -/

/-- The other end of a two-way stream. -/
structure Peer where
  source : Source
  sink : Sink := {}
  /-- Whether our side has let go of the stream, which closes it. -/
  released : Bool := false
  deriving DecidableEq, Repr

namespace Peer

variable {ε α : Type}

/-- Acts on what the peer sends. -/
def onSource (act : EStateM ε Source α) : EStateM ε Peer α := fun peer =>
  match act peer.source with
  | .ok a source => .ok a { peer with source }
  | .error e source => .error e { peer with source }

/-- Acts on what the peer accepts. -/
def onSink (act : EStateM ε Sink α) : EStateM ε Peer α := fun peer =>
  match act peer.sink with
  | .ok a sink => .ok a { peer with sink }
  | .error e sink => .error e { peer with sink }

/-- One read; the end of the stream reads as no bytes. -/
def read (limit : Nat) : EStateM IoError Peer Bytes :=
  onSource fun source =>
    match source.read limit with
    | (.data bytes, source) => .ok bytes source
    | (.finished, source) => .ok [] source
    | (.fault e, source) => .error e source

def writeAll (bytes : Bytes) : EStateM IoError Peer Unit :=
  onSink (Sink.writeAll bytes)

def flush : EStateM IoError Peer Unit :=
  onSink Sink.flush

def shutdown : EStateM IoError Peer Unit :=
  onSink Sink.shutdown

def readPacket : EStateM ProtocolError Peer Packet :=
  onSource Source.readPacket

def writePacket (packet : Packet) : EStateM ProtocolError Peer Unit :=
  onSink (Sink.writePacket packet)

/-- Lets go of the stream. -/
def release (peer : Peer) : Peer :=
  { peer with released := true }

end Peer

end GameGateway
