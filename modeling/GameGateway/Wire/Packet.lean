import GameGateway.Wire.ProtocolError

/-!
# Packets and frames

A packet is an id and a payload.  On the wire it is a frame: the length of the body as a varint,
then the body, which is the id as a varint and the payload behind it.

`Packet.encode` always writes a frame; `Packet.decode` refuses bodies that are empty or longer than
`maxFrameLength`.
-/

namespace GameGateway

/-- One packet, without its length. -/
structure Packet where
  id : UInt32
  data : Bytes
  deriving DecidableEq, Repr

namespace Packet

/-- The length of the frame body. -/
def bodyLength (packet : Packet) : Nat :=
  VarInt.size packet.id + packet.data.length

/-- The frame of a packet.  The length is written modulo the width of a varint. -/
def encode (packet : Packet) : Bytes :=
  VarInt.encode (UInt32.ofNat packet.bodyLength) ++ (VarInt.encode packet.id ++ packet.data)

/-- Splits a frame body into id and payload. -/
def decodeBody (body : Bytes) : Except ProtocolError Packet :=
  match VarInt.read body with
  | .ok id data => .ok ⟨id, data⟩
  | .error e _ => .error (.malformedFrame (.idUnreadable e))

/-- A declared body length must be positive and within the limit. -/
def checkLength (length : Nat) : Except ProtocolError Unit :=
  if length = 0 then .error (.malformedFrame .empty)
  else if maxFrameLength < length then .error (.malformedFrame (.tooLong length))
  else .ok ()

/-- Takes one frame off the front of a byte string. -/
def decode : EStateM ProtocolError Bytes Packet := do
  let length := (← VarInt.read.adaptExcept fun e => .malformedFrame (.lengthUnreadable e)).toNat
  MonadExcept.ofExcept (checkLength length)
  let rest ← get
  if rest.length < length then
    throw (.malformedFrame (.incomplete length rest.length))
  set (rest.drop length)
  MonadExcept.ofExcept (decodeBody (rest.take length))

end Packet

end GameGateway
