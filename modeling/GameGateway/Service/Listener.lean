import GameGateway.Routing.Gateway

/-!
# The listener

Admits connections up to a cap and counts what becomes of them.  A connection needs a permit; one
that gets none is closed at once and counted as rejected.  Sessions run side by side, so every
change of a counter is a step of its own: `takePermit`, `countAccepted` and `countActive` at the
start of a session, `countEnd`, `countInactive`, `countClosed` and `returnPermit` at its end.
-/

namespace GameGateway

/-- The counters of a listener. -/
structure ListenerStats where
  /-- Sessions started. -/
  accepted : Nat := 0
  /-- Sessions that are running. -/
  active : Int := 0
  /-- Sessions that are over. -/
  closed : Nat := 0
  /-- Connections that got no permit. -/
  rejected : Nat := 0
  /-- Sessions that served a status. -/
  statusServed : Nat := 0
  /-- Sessions that bridged a login. -/
  loginsProxied : Nat := 0
  /-- Sessions that reached no backend. -/
  routesFailed : Nat := 0
  /-- Sessions that ended with an error other than a peer that went away. -/
  sessionErrors : Nat := 0
  deriving DecidableEq, Repr

/-- The state of a listener. -/
structure Listener where
  /-- How many sessions may run at once. -/
  cap : Nat
  /-- How many permits are out. -/
  taken : Nat := 0
  stats : ListenerStats := {}
  deriving DecidableEq, Repr

namespace Listener

/-- The largest number of permits that can be handed out. -/
def maxPermits : Nat := 0x1FFFFFFFFFFFFFFF

/-- A listener for so many sessions at once, if there can be so many permits. -/
def withCap? (cap : Nat) : Option Listener :=
  if cap ≤ maxPermits then some { cap } else none

/-! ## Steps -/

/-- Takes a permit, if one is left. -/
def takePermit (listener : Listener) : Option Listener :=
  if listener.taken < listener.cap then some { listener with taken := listener.taken + 1 }
  else none

def returnPermit (listener : Listener) : Listener :=
  { listener with taken := listener.taken - 1 }

/-- Changes the counters. -/
def count (listener : Listener) (change : ListenerStats → ListenerStats) : Listener :=
  { listener with stats := change listener.stats }

def countRejected (listener : Listener) : Listener :=
  listener.count fun stats => { stats with rejected := stats.rejected + 1 }

def countAccepted (listener : Listener) : Listener :=
  listener.count fun stats => { stats with accepted := stats.accepted + 1 }

def countActive (listener : Listener) : Listener :=
  listener.count fun stats => { stats with active := stats.active + 1 }

def countInactive (listener : Listener) : Listener :=
  listener.count fun stats => { stats with active := stats.active - 1 }

def countClosed (listener : Listener) : Listener :=
  listener.count fun stats => { stats with closed := stats.closed + 1 }

/-- Counts how a session ended. -/
def countEnd (listener : Listener) (result : Except GatewayError Outcome) : Listener :=
  listener.count fun stats =>
    match result with
    | .ok .status => { stats with statusServed := stats.statusServed + 1 }
    | .ok .login => { stats with loginsProxied := stats.loginsProxied + 1 }
    | .ok (.rejected _) => { stats with routesFailed := stats.routesFailed + 1 }
    | .error e =>
      if e.isEndOfStream then stats else { stats with sessionErrors := stats.sessionErrors + 1 }

/-- What is reported at the end of a session. -/
def endEvents : Except GatewayError Outcome → List Event
  | .ok _ => []
  | .error e => if e.isEndOfStream then [.endedEarly e] else [.sessionFailed e]

/-! ## Whole sessions -/

/-- Lets a connection in, or turns it away; answers whether it is in. -/
def accept (listener : Listener) : Bool × Listener :=
  match listener.takePermit with
  | some listener => (true, listener.countAccepted.countActive)
  | none => (false, listener.countRejected)

/-- Accounts for the end of a session. -/
def finish (listener : Listener) (result : Except GatewayError Outcome) : Listener :=
  (listener.countEnd result).countInactive.countClosed.returnPermit

end Listener

/-! ## Serving -/

/-- A connection that is held open. -/
structure HeldConnection where
  name : String
  remote : SocketAddress
  /-- Whether it got in. -/
  isIn : Bool
  /-- What it has sent so far. -/
  sent : Bytes
  deriving DecidableEq, Repr

/-- A listener in front of a gateway. -/
structure Service where
  listener : Listener
  /-- The address that is listened on. -/
  address : SocketAddress
  store : Store Backend
  outbound : Outbound := {}
  held : List HeldConnection := []
  /-- What was reported, newest first. -/
  events : List Event := []

namespace Service

/-- Serves a player that sends these bytes and then ends its side; answers what it gets back. -/
def serve (service : Service) (remote : SocketAddress) (bytes : Bytes) : Bytes × Service :=
  let player : Player :=
    { peer := { source := .ofBytes bytes }, remote, localAddress := service.address }
  let (result, session) := Gateway.run service.store ⟨player, service.outbound⟩
  (session.player.peer.sink.written,
    { service with
      listener := service.listener.finish result
      outbound := session.outbound
      events := Listener.endEvents result ++ session.player.events ++ service.events })

/-- Lets a connection in, or turns it away; answers whether it is in. -/
def accept (service : Service) (remote : SocketAddress) : Bool × Service :=
  match service.listener.accept with
  | (true, listener) => (true, { service with listener })
  | (false, listener) =>
    (false, { service with listener, events := .capReached remote :: service.events })

/-- A whole visit: connect, send, end, and wait for the gateway to close. -/
def visit (service : Service) (remote : SocketAddress) (bytes : Bytes) : Bytes × Service :=
  match service.accept remote with
  | (true, service) => service.serve remote bytes
  | (false, service) => ([], service)

/-- Connects, sends, and keeps the connection open under a name; answers whether it got in. -/
def hold (service : Service) (remote : SocketAddress) (name : String) (sent : Bytes) :
    Bool × Service :=
  let (isIn, service) := service.accept remote
  (isIn, { service with held := ⟨name, remote, isIn, sent⟩ :: service.held })

/-- Sends more on a connection that is held open, and then goes on as a visit does.  A connection
that was turned away gets nothing back. -/
def resume (service : Service) (name : String) (bytes : Bytes) : Bytes × Service :=
  let rest := { service with held := service.held.filter fun held => held.name != name }
  match service.held.find? fun held => held.name == name with
  | some held => if held.isIn then rest.serve held.remote (held.sent ++ bytes) else ([], rest)
  | none => ([], rest)

end Service

end GameGateway
