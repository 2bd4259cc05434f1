import GameGateway.Routing.Registry
import GameGateway.Session.Player

/-!
# Routing policies

How the backend of a connection is found: one backend for all, none for anybody, or the one that is
registered under the address of the player's handshake.  Only the last policy looks at the player.
-/

namespace GameGateway

/-- A routing policy. -/
inductive Store (β : Type)
  /-- Sends every connection to the same backend, if there is one. -/
  | single (backend : Option β)
  /-- Sends a connection to the backend registered under its handshake's address. -/
  | byAddress (registry : Registry β)

namespace Store

variable {β : Type}

/-- Finds the backend of a connection.  This never fails: a connection without a handshake has no
backend. -/
def find? (store : Store β) (player : Player) : Option β × Player :=
  match store with
  | single backend => (backend, player)
  | byAddress registry =>
    match player.serverAddress with
    | .error e player => (none, note (.noHandshakeToRoute e) player)
    | .ok address player =>
      match registry.get? address with
      | some backend => (some backend, player)
      | none => (none, note (.noServerRegistered address) player)
where
  /-- Reports an event about the connection. -/
  note (event : Event) (player : Player) : Player :=
    { player with events := event :: player.events }

/-! ## Changing a registry while connections come in -/

/-- Registers a backend under an address, if the policy goes by address, and says what to report. -/
def register (store : Store β) (address : String) (backend : β) (id : String) :
    Store β × List Event :=
  match store with
  | single one => (single one, [])
  | byAddress registry =>
    (byAddress (registry.insert address backend), [.serverRegistered address id])

/-- Strikes an address off, answers the backend that was registered under it, and says what to
report. -/
def remove (store : Store β) (address : String) : Option β × Store β × List Event :=
  match store with
  | single one => (none, single one, [])
  | byAddress registry =>
    let removed := registry.get? address
    (removed, byAddress (registry.erase address),
      (removed.map fun _ => Event.serverRemoved address).toList)

end Store

end GameGateway
