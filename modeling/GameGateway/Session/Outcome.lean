import GameGateway.Wire.Handshake

/-!
# Session outcomes

How a session ends that ends without an error.
-/

namespace GameGateway

/-- Why a connection reaches no backend. -/
inductive RejectReason
  | unknownRequest (nextState : Int32)
  | backendNotFound (serverAddress : String)
  deriving DecidableEq, Repr

/-- The wording of a rejection. -/
def RejectReason.message : RejectReason → String
  | unknownRequest nextState => s!"unknown request type {nextState.toInt}"
  | backendNotFound serverAddress => s!"no backend for '{serverAddress}'"

/-- How a session ends. -/
inductive Outcome
  /-- A status response was served. -/
  | status
  /-- A login was bridged to a backend and is over. -/
  | login
  /-- No backend was called. -/
  | rejected (reason : RejectReason)
  deriving DecidableEq, Repr

end GameGateway
