import GameGateway.Net.SocketAddress.Printer
import GameGateway.Session.GatewayError
import GameGateway.Session.Outcome

/-!
# Events

What the gateway reports about itself while it runs.  Each event has a level, a message and named
fields; `Event.level`, `Event.message` and `Event.fields` say which.
-/

namespace GameGateway

/-- How much an event matters, least first. -/
inductive Level
  | trace
  | debug
  | info
  | warn
  | error
  deriving DecidableEq, Repr

namespace Level

def name : Level → String
  | trace => "TRACE"
  | debug => "DEBUG"
  | info => "INFO"
  | warn => "WARN"
  | error => "ERROR"

/-- How chatty a level is: the least important events have the highest number. -/
def verbosity : Level → Nat
  | error => 1
  | warn => 2
  | info => 3
  | debug => 4
  | trace => 5

end Level

/-- The value of an event's field. -/
inductive FieldValue
  | number (n : Int)
  | flag (b : Bool)
  | text (s : String)
  deriving DecidableEq, Repr

/-- The two directions of a tunnel, seen from the player. -/
inductive Direction
  | toBackend
  | toPlayer
  deriving DecidableEq, Repr

def Direction.name : Direction → String
  | toBackend => "a->b"
  | toPlayer => "b->a"

/-- Something worth reporting. -/
inductive Event
  | starting
  | configurationLoaded (listen : SocketAddress) (routes cap : Nat) (proxyProtocol : Bool)
  | listenerBound (address : SocketAddress) (cap : Nat)
  | listenerStarted (address : SocketAddress)
  | shutdownRequested
  | capReached (peer : SocketAddress)
  | endedEarly (error : GatewayError)
  | sessionFailed (error : GatewayError)
  | serverRegistered (address backend : String)
  | serverRemoved (address : String)
  | noHandshakeToRoute (error : GatewayError)
  | noServerRegistered (address : String)
  | handshakeDecoded (handshake : Handshake)
  | connectionRejected (reason : RejectReason)
  | dispatching (backend : String) (request : RequestType) (address : String)
  | connecting (address : String)
  | connected (backend : String)
  | proxyHeaderSent (backend : String)
  | statusReceived (backend : String)
  | playerConnecting (backend player : String) (peer : SocketAddress)
  | directionEnded (direction : Direction) (bytes : Nat) (fault : Option IoError)
  | sessionClosed (backend : String) (bytesToBackend bytesFromBackend : Nat)
  deriving DecidableEq, Repr

namespace Event

def level : Event → Level
  | starting | configurationLoaded .. | listenerBound .. | listenerStarted _ | shutdownRequested
  | serverRegistered .. | serverRemoved _ | playerConnecting .. | sessionClosed .. => .info
  | capReached _ => .warn
  | _ => .debug

def message : Event → String
  | starting => "Starting craftgate"
  | configurationLoaded .. => "Configuration loaded"
  | listenerBound .. => "Listener bound"
  | listenerStarted _ => "Listener started"
  | shutdownRequested => "Shutdown signal received"
  | capReached _ => "Connection rejected: max connections reached"
  | endedEarly _ => "Connection ended early"
  | sessionFailed _ => "Session error"
  | serverRegistered .. => "Server registered"
  | serverRemoved _ => "Server removed"
  | noHandshakeToRoute _ => "Cannot route connection without a handshake"
  | noServerRegistered _ => "No server registered for address"
  | handshakeDecoded _ => "Handshake decoded"
  | connectionRejected _ => "Connection rejected"
  | dispatching .. => "Dispatching connection"
  | connecting _ => "Connecting to backend"
  | connected _ => "Connected to backend"
  | proxyHeaderSent _ => "PROXY v2 header sent"
  | statusReceived _ => "Status response received"
  | playerConnecting .. => "Player connecting"
  | directionEnded _ _ none => "Pipe direction reached end of stream"
  | directionEnded _ _ (some _) => "Pipe direction ended"
  | sessionClosed .. => "Session closed"

/-- The part of the program that reports an event.  Filters go by it. -/
def target : Event → String
  | starting | configurationLoaded .. | shutdownRequested => "craftgate"
  | listenerBound .. | listenerStarted _ | capReached _ | endedEarly _ | sessionFailed _ =>
    "craftgate_gateway::proxy::listener"
  | serverRegistered .. | serverRemoved _ | noHandshakeToRoute _ | noServerRegistered _ =>
    "craftgate_gateway::proxy::store"
  | connectionRejected _ | dispatching .. => "craftgate_gateway::proxy::gateway"
  | connected _ | proxyHeaderSent _ | statusReceived _ | playerConnecting .. | sessionClosed .. =>
    "craftgate_gateway::proxy::backend"
  | handshakeDecoded _ => "craftgate_gateway::connection::player"
  | connecting _ => "craftgate_gateway::connection::server"
  | directionEnded .. => "craftgate_gateway::connection::pipe"

/-- The named fields of an event. -/
def fields : Event → List (String × FieldValue)
  | starting | shutdownRequested => []
  | configurationLoaded listen routes cap proxyProtocol =>
    [("listen_addr", .text listen.toText), ("route_count", .number routes),
      ("max_connections", .number cap), ("proxy_protocol", .flag proxyProtocol)]
  | listenerBound address cap =>
    [("bind_addr", .text address.toText), ("max_connections", .number cap)]
  | listenerStarted address => [("bind_addr", .text address.toText)]
  | capReached peer => [("peer_addr", .text peer.toText)]
  | endedEarly error | sessionFailed error | noHandshakeToRoute error =>
    [("error", .text error.message)]
  | serverRegistered address backend =>
    [("server_address", .text address), ("backend", .text backend)]
  | serverRemoved address | noServerRegistered address => [("server_address", .text address)]
  | handshakeDecoded handshake =>
    [("protocol_version", .number handshake.protocolVersion.toInt),
      ("server_address", .text handshake.serverAddress),
      ("server_port", .number handshake.serverPort.toNat),
      ("next_state", .number handshake.nextState.toInt)]
  | connectionRejected reason => [("reason", .text reason.message)]
  | dispatching backend request address =>
    [("backend", .text backend), ("request_type", .text request.name),
      ("server_address", .text address)]
  | connecting address => [("backend_addr", .text address)]
  | connected backend | proxyHeaderSent backend | statusReceived backend =>
    [("backend", .text backend)]
  | playerConnecting backend player peer =>
    [("backend", .text backend), ("player", .text player), ("peer_addr", .text peer.toText)]
  | directionEnded direction bytes fault =>
    [("direction", .text direction.name), ("bytes", .number bytes)] ++
      (fault.map fun e => ("error", FieldValue.text e.message)).toList
  | sessionClosed backend bytesToBackend bytesFromBackend =>
    [("backend", .text backend), ("bytes_to_backend", .number bytesToBackend),
      ("bytes_from_backend", .number bytesFromBackend)]

/-- The names of an event's fields, among which the message counts. -/
def fieldNames (event : Event) : List String :=
  "message" :: event.fields.map Prod.fst

end Event

end GameGateway
