import GameGateway.Session.Player
import GameGateway.Session.BackendLink

/-!
# The outbound side

What all sessions share when they go out to backends: one connector per backend, and a record of the
connects so far and of the calls that were answered without one.  A session is the player's
connection together with the outbound side.
-/

namespace GameGateway

/-- One connect to a backend. -/
structure Opening where
  /-- The number of the backend's connector. -/
  backend : Nat
  /-- The connection as it was let go of, unless the connect failed. -/
  link : Option BackendLink
  deriving DecidableEq, Repr

/-- The outbound side of the gateway. -/
structure Outbound where
  /-- The connectors, by number. -/
  connectors : List Connector := []
  /-- The connects so far, newest first. -/
  openings : List Opening := []
  /-- The calls that backends answered without a connection, newest first. -/
  answered : List (Nat × RequestType) := []
  deriving DecidableEq, Repr

namespace Outbound

/-- The connector of a backend.  A backend without one cannot be reached. -/
def connector (outbound : Outbound) (backend : Nat) : Connector :=
  outbound.connectors.getD backend (.listed [])

/-- Connects once to a backend. -/
def connect (outbound : Outbound) (backend : Nat) : Dial × Outbound :=
  let (dial, connector) := (outbound.connector backend).connect
  (dial, { outbound with connectors := outbound.connectors.set backend connector })

/-- Notes the end of a connect. -/
def close (outbound : Outbound) (backend : Nat) (link : Option BackendLink) : Outbound :=
  { outbound with openings := ⟨backend, link⟩ :: outbound.openings }

/-- Notes a call that was answered without a connection. -/
def answer (outbound : Outbound) (backend : Nat) (request : RequestType) : Outbound :=
  { outbound with answered := (backend, request) :: outbound.answered }

/-- How often a backend answered a request without a connection. -/
def answers (outbound : Outbound) (backend : Nat) (request : RequestType) : Nat :=
  outbound.answered.count (backend, request)

end Outbound

/-- A session: a player and the way out. -/
structure Session where
  player : Player
  outbound : Outbound
  deriving DecidableEq, Repr

namespace Session

variable {ε α : Type}

/-- Acts on the player's connection. -/
def onPlayer (act : EStateM ε Player α) : EStateM ε Session α := fun session =>
  match act session.player with
  | .ok a player => .ok a { session with player }
  | .error e player => .error e { session with player }

end Session

end GameGateway
