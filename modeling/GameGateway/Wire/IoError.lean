/-!
# Transport errors

What the operating system answers when a read, a write or a connect fails: a kind, which the gateway
tells apart in a few places, and a text, which it only passes on.
-/

namespace GameGateway

/-- The kinds of transport errors. -/
inductive IoKind
  | addrInUse
  | addrNotAvailable
  | alreadyExists
  | brokenPipe
  | connectionAborted
  | connectionRefused
  | connectionReset
  | hostUnreachable
  | interrupted
  | invalidData
  | invalidInput
  | networkDown
  | networkUnreachable
  | notConnected
  | notFound
  | other
  | outOfMemory
  | permissionDenied
  | timedOut
  | unexpectedEof
  | unsupported
  | wouldBlock
  | writeZero
  deriving DecidableEq, Repr

/-- A failed call on a stream. -/
structure IoError where
  kind : IoKind
  message : String
  deriving DecidableEq, Repr

namespace IoKind

/-- Every kind, in alphabetical order. -/
def all : List IoKind :=
  [addrInUse, addrNotAvailable, alreadyExists, brokenPipe, connectionAborted, connectionRefused,
    connectionReset, hostUnreachable, interrupted, invalidData, invalidInput, networkDown,
    networkUnreachable, notConnected, notFound, other, outOfMemory, permissionDenied, timedOut,
    unexpectedEof, unsupported, wouldBlock, writeZero]

theorem mem_all (kind : IoKind) : kind ∈ all := by
  cases kind <;> decide

/-- Whether an error of this kind only says that the peer has gone away. -/
def isPeerGone : IoKind → Bool
  | unexpectedEof | brokenPipe | connectionReset => true
  | _ => false

end IoKind

namespace IoError

/-- A write that accepts nothing would be repeated for ever, so it counts as failed. -/
def writeZero : IoError := ⟨.writeZero, "write zero"⟩

/-- Nobody answers connects any more. -/
def refused : IoError := ⟨.connectionRefused, "connection refused"⟩

/-- An address without a port. -/
def invalidAddress : IoError := ⟨.invalidInput, "invalid socket address"⟩

/-- An address whose port is no number of 16 bits. -/
def invalidPort : IoError := ⟨.invalidInput, "invalid port value"⟩

/-- The machine does not have the address that is to be listened on. -/
def addressUnavailable : IoError :=
  ⟨.addrNotAvailable, "Cannot assign requested address (os error 99)"⟩

/-- The program may not listen on the port. -/
def portForbidden : IoError := ⟨.permissionDenied, "Permission denied (os error 13)"⟩

/-- The address is of a kind that cannot be listened on. -/
def addressUnfit : IoError := ⟨.invalidInput, "Invalid argument (os error 22)"⟩

/-- The machine has no network interface of that number. -/
def noInterface : IoError := ⟨.other, "No such device (os error 19)"⟩

/-- The machine has no route to the address. -/
def unreachable : IoError := ⟨.networkUnreachable, "Network is unreachable (os error 101)"⟩

end IoError

end GameGateway
