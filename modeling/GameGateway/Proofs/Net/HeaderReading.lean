import GameGateway.Net.ProxyHeader
import GameGateway.Proofs.Wire.BigEndian

/-!
# Reading PROXY headers

`ProxyHeader.read?` reads a header as the format says: the signature, version and command, the
family, the length of what follows, and in that both addresses and both ports.  It finds the two
ends of the connection in what was written, up to the family of an address (`IpAddress.Same`), and
stops where the header ends (`ProxyHeader.read?_encode`).

So two headers are written alike just where they have the same ends
(`ProxyHeader.reads_back_to_endpoints`).
-/

namespace GameGateway

/-! ## Addresses of both families -/

namespace IpAddress

/-- The v4-mapped address of an IPv4 address: eighty zero bits, sixteen ones, and the address. -/
def mapped (bits : UInt32) : IpAddress :=
  v6 ((0xFFFF : BitVec 96) ++ bits.toBitVec)

/-- Addresses that are equal, or an IPv4 address and its v4-mapped address. -/
inductive Same : IpAddress → IpAddress → Prop
  | refl (ip : IpAddress) : Same ip ip
  | mapped (bits : UInt32) : Same (v4 bits) (mapped bits)
  | unmapped (bits : UInt32) : Same (mapped bits) (v4 bits)

/-- An IPv4 or v4-mapped address. -/
def IsV4 (ip : IpAddress) : Prop :=
  ∃ bits, ip = v4 bits ∨ ip = mapped bits

theorem toNat_map (bits : UInt32) : (map bits).toNat = 0xFFFF00000000 + bits.toNat := by
  have small := bits.toNat_lt
  simp only [map, BitVec.toNat_ofNat]
  omega

theorem mapped_eq (bits : UInt32) : mapped bits = v6 (map bits) := by
  have whole : ((0xFFFF : BitVec 96) ++ bits.toBitVec).toNat = 0xFFFF00000000 + bits.toNat := by
    rw [BitVec.toNat_append, ← Nat.shiftLeft_add_eq_or_of_lt bits.toBitVec.isLt]
    rfl
  rw [mapped, BitVec.eq_of_toNat_eq (whole.trans (toNat_map bits).symm)]

theorem unmap?_eq_some_iff {bits : BitVec 128} {embedded : UInt32} :
    unmap? bits = some embedded ↔ bits = map embedded := by
  constructor
  · intro unmapped
    unfold unmap? at unmapped
    split at unmapped
    · next high =>
        cases unmapped
        refine BitVec.eq_of_toNat_eq ?_
        rw [toNat_map, UInt32.toNat_ofNat']
        omega
    · cases unmapped
  · rintro rfl
    exact unmap?_map embedded

theorem map_inj {bits bits' : UInt32} : map bits = map bits' ↔ bits = bits' := by
  constructor
  · intro same
    have unmapped := unmap?_map bits
    rw [same, unmap?_map] at unmapped
    exact (Option.some.inj unmapped).symm
  · exact congrArg map

/-- The same addresses are those that are equal as IPv6 addresses. -/
theorem same_iff {ip other : IpAddress} : Same ip other ↔ ip.toV6 = other.toV6 := by
  constructor
  · rintro (_ | bits | bits)
    · rfl
    · rw [mapped_eq, toV6, toV6]
    · rw [mapped_eq, toV6, toV6]
  · intro same
    cases ip with
    | v4 bits =>
        cases other with
        | v4 bits' =>
            obtain rfl := map_inj.mp same
            exact .refl _
        | v6 bits' =>
            obtain rfl : map bits = bits' := same
            rw [← mapped_eq]
            exact .mapped bits
    | v6 bits =>
        cases other with
        | v4 bits' =>
            obtain rfl : bits = map bits' := same
            rw [← mapped_eq]
            exact .unmapped bits'
        | v6 bits' =>
            obtain rfl : bits = bits' := same
            exact .refl _

theorem Same.symm {ip other : IpAddress} (same : Same ip other) : Same other ip :=
  same_iff.mpr (same_iff.mp same).symm

theorem Same.trans {ip middle other : IpAddress} (first : Same ip middle)
    (second : Same middle other) : Same ip other :=
  same_iff.mpr ((same_iff.mp first).trans (same_iff.mp second))

/-- The IPv4 form of an address depends on its IPv6 form only. -/
theorem toV4?_eq (ip : IpAddress) : ip.toV4? = unmap? ip.toV6 := by
  cases ip with
  | v4 bits => exact (unmap?_map bits).symm
  | v6 bits => rfl

theorem toV4?_eq_some_iff {ip : IpAddress} {bits : UInt32} :
    ip.toV4? = some bits ↔ Same (v4 bits) ip := by
  rw [toV4?_eq, unmap?_eq_some_iff, same_iff, eq_comm]
  rfl

theorem isV4_iff {ip : IpAddress} : ip.IsV4 ↔ ∃ bits, ip.toV4? = some bits := by
  refine exists_congr fun bits => ?_
  rw [toV4?_eq_some_iff]
  constructor
  · rintro (rfl | rfl)
    · exact .refl _
    · exact .mapped bits
  · rintro (_ | _)
    · exact .inl rfl
    · exact .inr rfl

end IpAddress

/-! ## Reading -/

/-- Takes so many bytes off the front, if there are as many. -/
def cut? (n : Nat) (bytes : Bytes) : Option (Bytes × Bytes) :=
  if n ≤ bytes.length then some (bytes.take n, bytes.drop n) else none

theorem cut?_append {n : Nat} {front : Bytes} (length : front.length = n) (behind : Bytes) :
    cut? n (front ++ behind) = some (front, behind) := by
  subst length
  have enough : front.length ≤ (front ++ behind).length := by simp
  rw [cut?, if_pos enough, List.take_left, List.drop_left]

namespace ProxyHeader

/-- The families of addresses in a header. -/
inductive Family
  | v4
  | v6
  deriving DecidableEq, Repr

namespace Family

/-- The family that a byte stands for. -/
def ofByte? (byte : UInt8) : Option Family :=
  if byte = 0x11 then some v4 else if byte = 0x21 then some v6 else none

/-- The octets of an address. -/
def width : Family → Nat
  | v4 => 4
  | v6 => 16

/-- The address of some octets. -/
def address : Family → Bytes → IpAddress
  | v4, octets => .v4 (UInt32.ofNat (BigEndian.number octets))
  | v6, octets => .v6 (BitVec.ofNat 128 (BigEndian.number octets))

end Family

/-- What is found in a header. -/
structure Reading where
  family : Family
  /-- The length field. -/
  length : Nat
  source : IpAddress
  destination : IpAddress
  sourcePort : UInt16
  destinationPort : UInt16
  deriving DecidableEq, Repr

/-- Reads the addresses and ports behind a length field. -/
def readBlock? (family : Family) (length : Nat) (block : Bytes) : Option Reading := do
  let (source, rest) ← cut? family.width block
  let (destination, rest) ← cut? family.width rest
  let (sourcePort, rest) ← cut? 2 rest
  let (destinationPort, _) ← cut? 2 rest
  return {
    family, length
    source := family.address source
    destination := family.address destination
    sourcePort := UInt16.ofNat (BigEndian.number sourcePort)
    destinationPort := UInt16.ofNat (BigEndian.number destinationPort) }

/-- Reads a header, and answers what stands behind it. -/
def read? (bytes : Bytes) : Option (Reading × Bytes) := do
  -- the signature, then version 2 on behalf of another address
  let (lead, rest) ← cut? 13 bytes
  if lead ≠ [0x0D, 0x0A, 0x0D, 0x0A, 0x00, 0x0D, 0x0A, 0x51, 0x55, 0x49, 0x54, 0x0A, 0x21] then
    failure
  let (byte, rest) ← cut? 1 rest
  let family ← byte.head?.bind Family.ofByte?
  let (length, rest) ← cut? 2 rest
  let (block, rest) ← cut? (BigEndian.number length) rest
  let reading ← readBlock? family (BigEndian.number length) block
  return (reading, rest)

/-! ## Reading what was written -/

theorem ofNat_number_port (port : UInt16) :
    UInt16.ofNat (BigEndian.number (BigEndian.encode 2 port.toNat)) = port := by
  have bound : port.toNat < 256 ^ 2 := port.toNat_lt
  rw [BigEndian.number_encode, Nat.mod_eq_of_lt bound, UInt16.ofNat_toNat]

theorem address_v4 (bits : UInt32) :
    Family.v4.address (BigEndian.encode 4 bits.toNat) = .v4 bits := by
  have bound : bits.toNat < 256 ^ 4 := bits.toNat_lt
  rw [Family.address, BigEndian.number_encode, Nat.mod_eq_of_lt bound, UInt32.ofNat_toNat]

theorem address_v6 (bits : BitVec 128) :
    Family.v6.address (BigEndian.encode 16 bits.toNat) = .v6 bits := by
  have bound : bits.toNat < 256 ^ 16 := bits.isLt
  rw [Family.address, BigEndian.number_encode, Nat.mod_eq_of_lt bound, BitVec.ofNat_toNat,
    BitVec.setWidth_eq]

theorem readBlock?_append (family : Family) (length : Nat) {source destination : Bytes}
    (first : source.length = family.width) (second : destination.length = family.width)
    (sourcePort destinationPort : UInt16) :
    readBlock? family length (source ++ (destination ++ (BigEndian.encode 2 sourcePort.toNat ++
        BigEndian.encode 2 destinationPort.toNat))) =
      some ⟨family, length, family.address source, family.address destination, sourcePort,
        destinationPort⟩ := by
  have port (n : Nat) : (BigEndian.encode 2 n).length = 2 := BigEndian.length_encode 2 n
  have last := cut?_append (port destinationPort.toNat) []
  rw [List.append_nil] at last
  simp only [readBlock?, cut?_append first, cut?_append second, cut?_append (port _), last,
    Option.bind_eq_bind, Option.bind_some, ofNat_number_port]
  rfl

theorem read?_append {family : Family} {byte : UInt8} {block : Bytes} {reading : Reading}
    (known : Family.ofByte? byte = some family) (bound : block.length < 256 ^ 2)
    (read : readBlock? family block.length block = some reading) (rest : Bytes) :
    read? (signature ++ versionCommand :: byte ::
        (BigEndian.encode 2 block.length ++ (block ++ rest))) = some (reading, rest) := by
  have lead : signature ++ versionCommand :: byte ::
        (BigEndian.encode 2 block.length ++ (block ++ rest)) =
      (signature ++ [versionCommand]) ++
        ([byte] ++ (BigEndian.encode 2 block.length ++ (block ++ rest))) := by simp
  have length : BigEndian.number (BigEndian.encode 2 block.length) = block.length := by
    rw [BigEndian.number_encode, Nat.mod_eq_of_lt bound]
  have start : (signature ++ [versionCommand]).length = 13 := rfl
  have one : [byte].length = 1 := rfl
  simp only [read?, lead, cut?_append start, cut?_append one,
    cut?_append (BigEndian.length_encode 2 _), length, cut?_append rfl, List.head?_cons,
    Option.bind_eq_bind, Option.bind_some, known, read]
  rfl

/-- The two families of headers. -/
theorem addresses_cases (header : ProxyHeader) :
    (∃ source destination, header.addresses = .v4 source destination ∧
        IpAddress.Same (.v4 source) header.source.ip ∧
        IpAddress.Same (.v4 destination) header.destination.ip) ∨
      header.addresses = .v6 header.source.ip.toV6 header.destination.ip.toV6 ∧
        ¬ (header.source.ip.IsV4 ∧ header.destination.ip.IsV4) := by
  unfold addresses
  simp only [IpAddress.isV4_iff]
  split
  · next source destination first second =>
      exact .inl ⟨source, destination, rfl, IpAddress.toV4?_eq_some_iff.mp first,
        IpAddress.toV4?_eq_some_iff.mp second⟩
  · next other =>
      refine .inr ⟨rfl, ?_⟩
      rintro ⟨⟨source, first⟩, destination, second⟩
      exact other source destination first second

/-- A reading that found the ends of a connection in its header. -/
structure Reading.Finds (reading : Reading) (header : ProxyHeader) : Prop where
  source : reading.source.Same header.source.ip
  destination : reading.destination.Same header.destination.ip
  sourcePort : reading.sourcePort = header.source.port
  destinationPort : reading.destinationPort = header.destination.port
  /-- Sixteen bytes are in front of what the length field counts. -/
  length : 16 + reading.length = header.encode.length
  family : reading.family = .v4 ↔ header.source.ip.IsV4 ∧ header.destination.ip.IsV4

/-- What stands behind the length field of a header. -/
def block (header : ProxyHeader) : Bytes :=
  header.addresses.encode ++ (BigEndian.encode 2 header.source.port.toNat ++
    BigEndian.encode 2 header.destination.port.toNat)

/-- What is found in a header. -/
def reading (header : ProxyHeader) : Reading :=
  match header.addresses with
  | .v4 source destination =>
    ⟨.v4, 12, .v4 source, .v4 destination, header.source.port, header.destination.port⟩
  | .v6 source destination =>
    ⟨.v6, 36, .v6 source, .v6 destination, header.source.port, header.destination.port⟩

theorem length_block (header : ProxyHeader) :
    header.block.length = header.addresses.blockLength := by
  cases same : header.addresses <;>
    simp [block, same, Addresses.encode, Addresses.blockLength]

theorem encode_append (header : ProxyHeader) (rest : Bytes) :
    header.encode ++ rest = signature ++ versionCommand :: header.addresses.family ::
      (BigEndian.encode 2 header.block.length ++ (header.block ++ rest)) := by
  rw [length_block]
  simp [encode, block]

theorem readBlock?_block (header : ProxyHeader) :
    ∃ family, Family.ofByte? header.addresses.family = some family ∧
      readBlock? family header.block.length header.block = some header.reading := by
  rw [length_block]
  unfold block reading
  cases header.addresses with
  | v4 source destination =>
      refine ⟨.v4, rfl, ?_⟩
      have read := readBlock?_append .v4 12 (BigEndian.length_encode 4 source.toNat)
        (BigEndian.length_encode 4 destination.toNat) header.source.port header.destination.port
      rwa [address_v4, address_v4, ← List.append_assoc] at read
  | v6 source destination =>
      refine ⟨.v6, rfl, ?_⟩
      have read := readBlock?_append .v6 36 (BigEndian.length_encode 16 source.toNat)
        (BigEndian.length_encode 16 destination.toNat) header.source.port header.destination.port
      rwa [address_v6, address_v6, ← List.append_assoc] at read

/-- What is written is read up to its end, and nothing behind it. -/
theorem read?_encode (header : ProxyHeader) (rest : Bytes) :
    read? (header.encode ++ rest) = some (header.reading, rest) := by
  obtain ⟨family, known, read⟩ := header.readBlock?_block
  have small : header.block.length < 256 ^ 2 := by
    rw [length_block]
    unfold Addresses.blockLength
    split <;> decide
  rw [encode_append]
  exact read?_append known small read rest

theorem reading_finds (header : ProxyHeader) : header.reading.Finds header := by
  have length : 16 + header.addresses.blockLength = header.encode.length :=
    header.length_encode.symm
  rcases header.addresses_cases with
    ⟨source, destination, same, first, second⟩ | ⟨same, mixed⟩
  · rw [same] at length
    unfold reading
    rw [same]
    have embedded (bits : UInt32) (ip : IpAddress) (found : IpAddress.Same (.v4 bits) ip) :
        ip.IsV4 := IpAddress.isV4_iff.mpr ⟨bits, IpAddress.toV4?_eq_some_iff.mpr found⟩
    exact ⟨first, second, rfl, rfl, length,
      iff_of_true rfl ⟨embedded _ _ first, embedded _ _ second⟩⟩
  · rw [same] at length
    unfold reading
    rw [same]
    exact ⟨IpAddress.same_iff.mpr rfl, IpAddress.same_iff.mpr rfl, rfl, rfl, length,
      iff_of_false nofun mixed⟩

/-- What is written depends on the ends of the connection, up to the family of an address. -/
theorem encode_congr {header other : ProxyHeader}
    (source : header.source.ip.Same other.source.ip)
    (destination : header.destination.ip.Same other.destination.ip)
    (sourcePort : header.source.port = other.source.port)
    (destinationPort : header.destination.port = other.destination.port) :
    header.encode = other.encode := by
  have addresses : header.addresses = other.addresses := by
    simp only [ProxyHeader.addresses, IpAddress.toV4?_eq, IpAddress.same_iff.mp source,
      IpAddress.same_iff.mp destination]
  rw [encode, encode, addresses, sourcePort, destinationPort]

/-- **A header leads back to the ends of the connection.**

* Reading it, whatever stands behind it, consumes just the header, and finds both ports and both
  addresses, up to the family of an address.  The length field counts what is behind it, and the
  family is IPv4 just where both addresses are IPv4 or v4-mapped.
* A header is as long as it was said to be.
* Two headers are written alike just where they have the same ends. -/
theorem reads_back_to_endpoints (header : ProxyHeader) :
    (∃ reading, (∀ rest, read? (header.encode ++ rest) = some (reading, rest)) ∧
        reading.Finds header) ∧
      header.encode.length = header.encodedLength ∧
      ∀ other : ProxyHeader, header.encode = other.encode ↔
        header.source.ip.Same other.source.ip ∧ header.source.port = other.source.port ∧
          header.destination.ip.Same other.destination.ip ∧
          header.destination.port = other.destination.port := by
  refine ⟨⟨_, header.read?_encode, header.reading_finds⟩, header.length_encode, fun other => ?_⟩
  constructor
  · intro alike
    have same := header.read?_encode []
    rw [alike, other.read?_encode, Option.some.injEq, Prod.mk.injEq] at same
    have first := header.reading_finds
    rw [← same.1] at first
    have second := other.reading_finds
    exact ⟨first.source.symm.trans second.source, first.sourcePort.symm.trans second.sourcePort,
      first.destination.symm.trans second.destination,
      first.destinationPort.symm.trans second.destinationPort⟩
  · rintro ⟨source, sourcePort, destination, destinationPort⟩
    exact encode_congr source destination sourcePort destinationPort

end ProxyHeader

end GameGateway
