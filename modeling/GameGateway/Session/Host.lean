import GameGateway.Session.BackendLink

/-!
# Machines

What the machine that the gateway runs on answers when an address is to be listened on or connected
to.  `Host.isolated` is cut off: its only network interface leads back to itself and is switched
off, so that it has no route to anywhere and no addresses of its own.
-/

namespace GameGateway

/-- A machine, by what its network answers. -/
structure Host where
  /-- Listens on an address; answers the address that was got. -/
  bind : SocketAddress → Except IoError SocketAddress
  /-- Connects to a well-formed address. -/
  dial : Dial

namespace Host

/-- Ports below this one are for privileged programs, except for zero, which stands for any port
that is free. -/
def firstOpenPort : UInt16 := 1024

/-- The number of the interface that leads back to the machine itself. -/
def loopbackInterface : UInt32 := 1

/-- Whether an IPv6 address is one of a group of machines. -/
def isMulticast (bits : BitVec 128) : Bool :=
  bits.toNat >>> 120 == 0xFF

/-- Whether an IPv6 address is only good on one interface, which its zone has to name. -/
def isLinkLocal (bits : BitVec 128) : Bool :=
  bits.toNat >>> 118 == 0xFE80 >>> 6

/-- What keeps an IPv6 address from being listened on, where no interface has an address. -/
def v6Fault? (bits : BitVec 128) (zone : UInt32) : Option IoError :=
  if bits = 0 then none
  else if isLinkLocal bits && zone == 0 then some .addressUnfit
  else if isLinkLocal bits && zone != loopbackInterface then some .noInterface
  else some .addressUnavailable

/-- What keeps an address from being listened on, where no interface has an address and the program
has no privileges.  No IPv4 address is checked there, be it v4-mapped or not. -/
def bindFault? (address : SocketAddress) : Option IoError :=
  let forbidden := address.port != 0 && address.port < firstOpenPort
  match address.ip with
  | .v4 _ => if forbidden then some .portForbidden else none
  | .v6 bits =>
    if isMulticast bits then some .addressUnfit
    else if forbidden then some .portForbidden
    else if (IpAddress.unmap? bits).isSome then none
    else v6Fault? bits address.zone

/-- A machine that is cut off. -/
def isolated : Host where
  bind address :=
    match bindFault? address with
    | some e => .error e
    | none => .ok address
  dial := .failed .unreachable

end Host

end GameGateway
