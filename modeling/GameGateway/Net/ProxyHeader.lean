import GameGateway.Net.SocketAddress

/-!
# PROXY protocol headers

The binary header, version 2, that tells a backend between which two addresses a player's connection
runs.  It goes out as IPv4 if both addresses are IPv4 or v4-mapped, and as IPv6 otherwise.
-/

namespace GameGateway

/-- Both ends of a player's connection. -/
structure ProxyHeader where
  /-- Where the player connects from. -/
  source : SocketAddress
  /-- The address the player connects to. -/
  destination : SocketAddress
  deriving DecidableEq, Repr

namespace ProxyHeader

/-- The twelve bytes that every header starts with. -/
def signature : Bytes :=
  [0x0D, 0x0A, 0x0D, 0x0A, 0x00, 0x0D, 0x0A, 0x51, 0x55, 0x49, 0x54, 0x0A]

/-- Version 2, on behalf of another address. -/
def versionCommand : UInt8 := 0x21

/-- The family byte of TCP over IPv4. -/
def familyV4 : UInt8 := 0x11

/-- The family byte of TCP over IPv6. -/
def familyV6 : UInt8 := 0x21

/-- The two addresses, in one family. -/
inductive Addresses
  | v4 (source destination : UInt32)
  | v6 (source destination : BitVec 128)
  deriving DecidableEq, Repr

namespace Addresses

def family : Addresses → UInt8
  | v4 .. => familyV4
  | v6 .. => familyV6

/-- The octets of both addresses. -/
def encode : Addresses → Bytes
  | v4 source destination =>
    BigEndian.encode 4 source.toNat ++ BigEndian.encode 4 destination.toNat
  | v6 source destination =>
    BigEndian.encode 16 source.toNat ++ BigEndian.encode 16 destination.toNat

/-- The length of what follows the length field: both addresses and both ports. -/
def blockLength : Addresses → Nat
  | v4 .. => 4 + 4 + 2 + 2
  | v6 .. => 16 + 16 + 2 + 2

end Addresses

/-- The addresses of a header, as IPv4 if both are IPv4 or v4-mapped. -/
def addresses (header : ProxyHeader) : Addresses :=
  match header.source.ip.toV4?, header.destination.ip.toV4? with
  | some source, some destination => .v4 source destination
  | _, _ => .v6 header.source.ip.toV6 header.destination.ip.toV6

/-- The length of a header in bytes. -/
def encodedLength (header : ProxyHeader) : Nat :=
  signature.length + 4 + header.addresses.blockLength

/-- The bytes of a header. -/
def encode (header : ProxyHeader) : Bytes :=
  signature ++ versionCommand :: header.addresses.family ::
    (BigEndian.encode 2 header.addresses.blockLength ++ header.addresses.encode ++
      BigEndian.encode 2 header.source.port.toNat ++
      BigEndian.encode 2 header.destination.port.toNat)

theorem length_encode (header : ProxyHeader) : header.encode.length = header.encodedLength := by
  cases h : header.addresses <;>
    simp [encode, encodedLength, signature, h, Addresses.encode, Addresses.blockLength]

end ProxyHeader

end GameGateway
