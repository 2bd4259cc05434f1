import GameGateway.Net.SocketAddress

/-!
# Socket addresses as text: reading

Octets are decimal, of at most three digits and without leading zeros.  Groups are hexadecimal, of
at most four digits.  An IPv6 address may leave out one run of zero groups as `::` and may end in an
embedded IPv4 address where two groups still fit.  Ports and zones are decimal, with any number of
leading zeros.  The whole text has to be read.
-/

namespace GameGateway

namespace SocketAddress

/-- Takes a value off the front of a text, if there is one. -/
abbrev Reading (α : Type) := StateT (List Char) Option α

/-- The value of a digit in a base up to sixteen. -/
def digit? (base : Nat) (c : Char) : Option Nat :=
  let value? :=
    if '0' ≤ c ∧ c ≤ '9' then some (c.toNat - '0'.toNat)
    else if 'a' ≤ c ∧ c ≤ 'f' then some (c.toNat - 'a'.toNat + 10)
    else if 'A' ≤ c ∧ c ≤ 'F' then some (c.toNat - 'A'.toNat + 10)
    else none
  value?.filter (· < base)

/-- Reads one given character. -/
def readChar (expected : Char) : Reading Unit
  | [] => none
  | c :: cs => if c = expected then some ((), cs) else none

/-- What a numeral may look like. -/
structure NumeralForm where
  base : Nat
  /-- The largest number. -/
  limit : Nat
  maxDigits : Option Nat := none
  leadingZeros : Bool := true

/-- Reads a numeral.  All digits that stand there belong to it. -/
def readNumeral (form : NumeralForm) : Reading Nat := fun cs =>
  let digits := cs.takeWhile fun c => (digit? form.base c).isSome
  let rest := cs.dropWhile fun c => (digit? form.base c).isSome
  let value := (digits.filterMap (digit? form.base)).foldl (fun n d => form.base * n + d) 0
  let fits := match form.maxDigits with
    | none => true
    | some n => decide (digits.length ≤ n)
  let padded := digits.head? == some '0' && decide (1 < digits.length)
  if digits.isEmpty || !fits || (padded && !form.leadingZeros) || decide (form.limit < value) then
    none
  else some (value, rest)

/-- Reads an octet of an IPv4 address. -/
def readOctet : Reading Nat :=
  readNumeral { base := 10, limit := 255, maxDigits := some 3, leadingZeros := false }

/-- Reads a group of an IPv6 address. -/
def readGroup : Reading Nat :=
  readNumeral { base := 16, limit := 0xFFFF, maxDigits := some 4 }

/-- Reads dotted decimal. -/
def readDotted : Reading Nat := do
  let a ← readOctet
  readChar '.'
  let b ← readOctet
  readChar '.'
  let c ← readOctet
  readChar '.'
  let d ← readOctet
  return ((a * 256 + b) * 256 + c) * 256 + d

/-- Reads what stands behind a colon, or at the start. -/
def separated {α : Type} (first : Bool) (reading : Reading α) : Reading α := do
  if !first then readChar ':'
  reading

/-- Reads at most `room` groups, the last two perhaps as an IPv4 address, and says whether they
were. -/
def readGroups : (room : Nat) → (first : Bool) → List Char → (List Nat × Bool) × List Char
  | 0, _, cs => (([], false), cs)
  | room + 1, first, cs =>
    match if room = 0 then none else separated first readDotted cs with
    | some (bits, rest) => (([bits / 65536, bits % 65536], true), rest)
    | none =>
      match separated first readGroup cs with
      | none => (([], false), cs)
      | some (group, rest) =>
        let ((groups, embedded), rest) := readGroups room false rest
        ((group :: groups, embedded), rest)

/-- The number that the groups of an IPv6 address spell. -/
def bitsOfGroups (groups : List Nat) : BitVec 128 :=
  BitVec.ofNat 128 (groups.foldl (fun n group => 65536 * n + group) 0)

/-- Reads an IPv6 address. -/
def readV6 : Reading (BitVec 128) := fun cs =>
  let ((front, embedded), rest) := readGroups 8 true cs
  if front.length = 8 then some (bitsOfGroups front, rest)
  else if embedded then none
  else do
    let (_, rest) ← readChar ':' rest
    let (_, rest) ← readChar ':' rest
    let ((back, _), rest) := readGroups (7 - front.length) true rest
    let zeros := List.replicate (8 - front.length - back.length) 0
    return (bitsOfGroups (front ++ zeros ++ back), rest)

/-- Reads a colon and a port. -/
def readPort : Reading UInt16 := do
  readChar ':'
  return UInt16.ofNat (← readNumeral { base := 10, limit := 0xFFFF })

/-- Reads a per cent sign and a zone. -/
def readZone : Reading UInt32 := do
  readChar '%'
  return UInt32.ofNat (← readNumeral { base := 10, limit := 0xFFFFFFFF })

/-- Reads an IPv4 address and a port. -/
def readV4Socket : Reading SocketAddress := do
  let bits ← readDotted
  let port ← readPort
  return { ip := .v4 (UInt32.ofNat bits), port }

/-- Reads an IPv6 address in brackets and a port. -/
def readV6Socket : Reading SocketAddress := do
  readChar '['
  let bits ← readV6
  let zone ← readZone <|> pure 0
  readChar ']'
  let port ← readPort
  return { ip := .v6 bits, port, zone }

/-- The socket address that a text spells. -/
def parse? (text : String) : Option SocketAddress :=
  match (readV4Socket <|> readV6Socket) text.toList with
  | some (address, []) => some address
  | _ => none

end SocketAddress

end GameGateway
