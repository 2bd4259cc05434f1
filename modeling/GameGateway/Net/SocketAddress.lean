import GameGateway.Bytes

/-!
# Socket addresses

An IP address and a port.  An IPv6 address is v4-mapped if it is an IPv4 address behind eighty zero
bits and sixteen ones; `IpAddress.toV4?` and `IpAddress.toV6` go between the two families along that
embedding.
-/

namespace GameGateway

/-- An IP address as a number, most significant octet first. -/
inductive IpAddress
  | v4 (bits : UInt32)
  | v6 (bits : BitVec 128)
  deriving DecidableEq, Repr

/-- One end of a connection. -/
structure SocketAddress where
  ip : IpAddress
  port : UInt16
  /-- The zone of a link-local IPv6 address, zero if there is none. -/
  zone : UInt32 := 0
  deriving DecidableEq, Repr

namespace IpAddress

/-- The IPv4 address that a v4-mapped address embeds. -/
def unmap? (bits : BitVec 128) : Option UInt32 :=
  if bits.toNat / 0x100000000 = 0xFFFF then some (UInt32.ofNat bits.toNat) else none

/-- The v4-mapped address of an IPv4 address. -/
def map (bits : UInt32) : BitVec 128 :=
  BitVec.ofNat 128 (0xFFFF00000000 + bits.toNat)

/-- The address as an IPv4 address, if it is one or embeds one. -/
def toV4? : IpAddress → Option UInt32
  | v4 bits => some bits
  | v6 bits => unmap? bits

/-- The address as an IPv6 address. -/
def toV6 : IpAddress → BitVec 128
  | v4 bits => map bits
  | v6 bits => bits

/-- The address of four octets. -/
def ofOctets (a b c d : UInt8) : IpAddress :=
  v4 (UInt32.ofNat (BigEndian.decode [a, b, c, d]))

@[simp] theorem unmap?_map (bits : UInt32) : unmap? (map bits) = some bits := by
  have small := bits.toNat_lt
  have whole : (map bits).toNat = 0xFFFF00000000 + bits.toNat := by
    simp only [map, BitVec.toNat_ofNat]
    omega
  rw [unmap?, if_pos (by omega), whole]
  congr 1
  apply UInt32.toNat_inj.1
  simp only [UInt32.toNat_ofNat']
  omega

end IpAddress

end GameGateway
