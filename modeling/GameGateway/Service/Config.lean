import GameGateway.Net.SocketAddress.Parser
import GameGateway.Routing.Gateway
import GameGateway.Text.Blank
import GameGateway.Text.Split

/-!
# Configuration

The settings of the gateway, read from named texts such as environment variables: where to listen,
how to route, how many sessions to serve at once, how long a connect may take, whether to send PROXY
headers, and what to report.

`Config.load` accepts all of them or none.  Where several are wrong, the first one in that order is
blamed.
-/

namespace GameGateway

/-! ## Routes -/

/-- Why a text is no `host:port`. -/
inductive BackendAddressError
  | missingPort (value : String)
  | missingHost (value : String)
  | invalidPort (value : String) (cause : NumeralError)
  deriving DecidableEq, Repr

/-- Why a text is no list of routes. -/
inductive RouteError
  | noRoutes
  | notAssignment (entry : String)
  | emptyAddress (entry : String)
  | backend (cause : BackendAddressError)
  deriving DecidableEq, Repr

/-- The wording of an error, followed by that of its causes. -/
def BackendAddressError.messages : BackendAddressError → List String
  | missingPort value => [s!"Backend '{value}' is missing a port."]
  | missingHost value => [s!"Backend '{value}' is missing a host."]
  | invalidPort value cause => [s!"Backend '{value}' has an invalid port.", cause.message]

/-- The wording of an error, followed by that of its causes. -/
def RouteError.messages : RouteError → List String
  | noRoutes => ["No routes given."]
  | notAssignment entry => [s!"Entry '{entry}' is not of the form address=host:port."]
  | emptyAddress entry => [s!"Entry '{entry}' has an empty server address."]
  | backend cause => cause.messages

/-- One route: the address that players are told, and the `host:port` behind it. -/
structure Route where
  address : String
  backend : String
  deriving DecidableEq, Repr

namespace Route

/-- Reads a `host:port` between blanks.  The port is what stands behind the last colon; the host is
only looked up when the backend is connected to. -/
def parseBackend (cs : List Char) : Except BackendAddressError String :=
  let value := Text.trimChars cs
  let text := String.ofList value
  match Text.splitLast ':' value with
  | none => .error (.missingPort text)
  | some ([], _) => .error (.missingHost text)
  | some (_, port) =>
    match Numeral.parse Numeral.maxWord16 port with
    | .error e => .error (.invalidPort text e)
    | .ok _ => .ok text

/-- Reads an entry `address=host:port` that has no blanks at its ends.  The address ends at the
first equality sign. -/
def parseEntry (entry : List Char) : Except RouteError Route :=
  match Text.splitFirst '=' entry with
  | none => .error (.notAssignment (String.ofList entry))
  | some (address, backend) =>
    match Text.trimChars address with
    | [] => .error (.emptyAddress (String.ofList entry))
    | address =>
      match parseBackend backend with
      | .error e => .error (.backend e)
      | .ok backend => .ok ⟨String.ofList address, backend⟩

/-- The entries of a list of routes: what stands between commas and is not blank. -/
def entries (cs : List Char) : List (List Char) :=
  ((Text.splitAll ',' cs).map Text.trimChars).filter fun entry => !entry.isEmpty

/-- Reads a list of routes.  It needs at least one entry, and every entry has to be a route. -/
def parseList (text : String) : Except RouteError (List Route) :=
  match (entries text.toList).mapM parseEntry with
  | .ok [] => .error .noRoutes
  | outcome => outcome

end Route

/-! ## Settings -/

/-- How connections are routed. -/
inductive Routing
  /-- Every connection goes to one backend. -/
  | single (backend : String)
  /-- Connections go by the address of their handshake.  Of two routes with one address the later
  one counts. -/
  | byAddress (routes : List Route)
  deriving DecidableEq, Repr

/-- Why settings are refused. -/
inductive ConfigError
  | listenAddress
  | bothRoutings
  | noRouting
  | servers (cause : RouteError)
  | defaultServer (cause : BackendAddressError)
  | maxConnections (cause : NumeralError)
  | connectTimeout (cause : NumeralError)
  deriving DecidableEq, Repr

namespace ConfigError

/-- The wording of a refusal. -/
def message : ConfigError → String
  | listenAddress => "CRAFTGATE_LISTEN_ADDR must be a socket address (ip:port)."
  | bothRoutings => "Set only one of CRAFTGATE_SERVERS and CRAFTGATE_DEFAULT_SERVER."
  | noRouting => "Missing backends. Set CRAFTGATE_SERVERS or CRAFTGATE_DEFAULT_SERVER."
  | servers _ => "Invalid CRAFTGATE_SERVERS."
  | defaultServer _ => "Invalid CRAFTGATE_DEFAULT_SERVER."
  | maxConnections _ => "CRAFTGATE_MAX_CONNECTIONS must be an integer."
  | connectTimeout _ => "CRAFTGATE_CONNECT_TIMEOUT_MS must be an integer (milliseconds)."

/-- The wording of what is behind a refusal, outermost first. -/
def causes : ConfigError → List String
  | listenAddress => ["invalid socket address syntax"]
  | bothRoutings | noRouting => []
  | servers cause => cause.messages
  | defaultServer cause => cause.messages
  | maxConnections cause | connectTimeout cause => [cause.message]

end ConfigError

/-- The settings of the gateway. -/
structure Config where
  /-- The address to listen on. -/
  listen : SocketAddress
  routing : Routing
  /-- How many sessions are served at once. -/
  maxConnections : Nat
  /-- How many milliseconds a connect to a backend may take. -/
  connectTimeout : Nat
  /-- Whether connections to backends start with a PROXY header. -/
  proxyProtocol : Bool
  /-- Which events are reported. -/
  logLevel : String
  deriving DecidableEq, Repr

namespace Config

/-- Looks a setting up by its name. -/
abbrev Lookup := String → Option String

/-- The names of all settings. -/
def names : List String :=
  ["CRAFTGATE_LISTEN_ADDR", "CRAFTGATE_SERVERS", "CRAFTGATE_DEFAULT_SERVER",
    "CRAFTGATE_MAX_CONNECTIONS", "CRAFTGATE_CONNECT_TIMEOUT_MS", "CRAFTGATE_PROXY_PROTOCOL",
    "CRAFTGATE_LOG_LEVEL"]

/-- The address that is listened on by default. -/
def defaultListen : String := "0.0.0.0:25565"

/-- How many sessions are served at once by default. -/
def defaultMaxConnections : Nat := 10000

/-- The default of the connect timeout, in milliseconds. -/
def defaultConnectTimeout : Nat := 2000

/-- The shortest connect timeout, in milliseconds. -/
def minConnectTimeout : Nat := 50

/-- The address to listen on. -/
def loadListen (lookup : Lookup) : Except ConfigError SocketAddress :=
  match SocketAddress.parse? ((lookup "CRAFTGATE_LISTEN_ADDR").getD defaultListen) with
  | some address => .ok address
  | none => .error .listenAddress

/-- The routing.  Exactly one of its two settings has to be there, be it blank or not. -/
def loadRouting (lookup : Lookup) : Except ConfigError Routing :=
  match lookup "CRAFTGATE_SERVERS", lookup "CRAFTGATE_DEFAULT_SERVER" with
  | some _, some _ => .error .bothRoutings
  | none, none => .error .noRouting
  | some servers, none =>
    match Route.parseList servers with
    | .ok routes => .ok (.byAddress routes)
    | .error e => .error (.servers e)
  | none, some server =>
    match Route.parseBackend server.toList with
    | .ok backend => .ok (.single backend)
    | .error e => .error (.defaultServer e)

/-- A number of 64 bits, if it is set. -/
def loadNumber (lookup : Lookup) (name : String) (default : Nat)
    (blame : NumeralError → ConfigError) : Except ConfigError Nat :=
  match lookup name with
  | none => .ok default
  | some text =>
    match Numeral.parse Numeral.maxWord64 text.toList with
    | .ok n => .ok n
    | .error e => .error (blame e)

/-- Whether a text switches something on: `1`, or `true` in any letter case.  The letters of `true`
are lower cases of ASCII letters only, so ASCII lower case decides. -/
def isOn (text : String) : Bool :=
  text == "1" || text.toLower == "true"

/-- Reads the settings. -/
def load (lookup : Lookup) : Except ConfigError Config := do
  let listen ← loadListen lookup
  let routing ← loadRouting lookup
  let maxConnections ←
    loadNumber lookup "CRAFTGATE_MAX_CONNECTIONS" defaultMaxConnections .maxConnections
  let connectTimeout ←
    loadNumber lookup "CRAFTGATE_CONNECT_TIMEOUT_MS" defaultConnectTimeout .connectTimeout
  return {
    listen, routing
    maxConnections := max 1 maxConnections
    connectTimeout := max minConnectTimeout connectTimeout
    proxyProtocol := ((lookup "CRAFTGATE_PROXY_PROTOCOL").map isOn).getD false
    logLevel := (lookup "CRAFTGATE_LOG_LEVEL").getD "info" }

/-! ## What the settings mean -/

/-- The `host:port` of each backend, by the number of its connector. -/
def backends (config : Config) : List String :=
  match config.routing with
  | .single backend => [backend]
  | .byAddress routes => routes.map Route.backend

/-- How many routes there are. -/
def routeCount (config : Config) : Nat :=
  config.backends.length

/-- The backend behind `host:port`. -/
def backend (config : Config) (number : Nat) (address : String) : Backend :=
  .server { id := address, connector := number, proxyProtocol := config.proxyProtocol }

/-- The backends by address.  Of two routes with one address the later one counts. -/
def registry (config : Config) (routes : List Route) : Registry Backend :=
  routes.zipIdx.foldl
    (fun registry (route, number) =>
      registry.insert route.address (config.backend number route.backend))
    {}

/-- The routing policy. -/
def store (config : Config) : Store Backend :=
  match config.routing with
  | .single address => .single (some (config.backend 0 address))
  | .byAddress routes => .byAddress (config.registry routes)

/-- What is reported while the routing policy is set up. -/
def registrations (config : Config) : List Event :=
  match config.routing with
  | .single _ => []
  | .byAddress routes => routes.map fun route => .serverRegistered route.address route.backend

/-- The outbound side before the first session, over a network that answers connects alike. -/
def outbound (config : Config) (network : Dial) : Outbound :=
  { connectors := config.backends.map fun address => .tcp address network }

end Config

end GameGateway
