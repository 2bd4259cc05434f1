import GameGateway.Net.SocketAddress

/-!
# Socket addresses as text: printing

IPv4 addresses are dotted decimal.  IPv6 addresses are eight groups of lower-case hexadecimal digits
without leading zeros, of which the first longest run of at least two zero groups is left out;
v4-mapped addresses show the IPv4 address they embed.  In front of a port, IPv6 addresses stand in
brackets, with their zone if they have one.
-/

namespace GameGateway

namespace IpAddress

/-- Digits of `n`, least significant last, in fixed number. -/
def split (base : Nat) : (count : Nat) → Nat → List Nat
  | 0, _ => []
  | count + 1, n => split base count (n / base) ++ [n % base]

/-- The four octets of an IPv4 address. -/
def octets (bits : UInt32) : List Nat :=
  split 256 4 bits.toNat

/-- The eight groups of an IPv6 address. -/
def groups (bits : BitVec 128) : List Nat :=
  split 65536 8 bits.toNat

/-- Dotted decimal. -/
def dotted (bits : UInt32) : String :=
  ".".intercalate ((octets bits).map toString)

/-- Groups in hexadecimal, between colons. -/
def showGroups (groups : List Nat) : String :=
  ":".intercalate (groups.map fun group => String.ofList (Nat.toDigits 16 group))

/-- How many zero groups follow one another from `start` on. -/
def zeroRun (groups : List Nat) (start : Nat) : Nat :=
  ((groups.drop start).takeWhile (· == 0)).length

/-- Where the first longest run of zero groups starts. -/
def longestZeroRun (groups : List Nat) : Nat :=
  (List.range groups.length).foldl
    (fun best start => if zeroRun groups best < zeroRun groups start then start else best) 0

/-- The text of an IP address. -/
def toText : IpAddress → String
  | v4 bits => dotted bits
  | v6 bits =>
    match unmap? bits with
    | some embedded => "::ffff:" ++ dotted embedded
    | none =>
      let groups := groups bits
      let start := longestZeroRun groups
      let length := zeroRun groups start
      if 1 < length then
        showGroups (groups.take start) ++ "::" ++ showGroups (groups.drop (start + length))
      else showGroups groups

end IpAddress

/-- The text of a socket address. -/
def SocketAddress.toText (address : SocketAddress) : String :=
  match address.ip with
  | .v4 _ => s!"{address.ip.toText}:{address.port.toNat}"
  | .v6 _ =>
    let zone := if address.zone = 0 then "" else s!"%{address.zone.toNat}"
    s!"[{address.ip.toText}{zone}]:{address.port.toNat}"

end GameGateway
