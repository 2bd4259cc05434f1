import GameGateway.Proofs.Text.Numerals
import GameGateway.Proofs.Verdict
import GameGateway.Service.Config

/-!
# Which settings are accepted, and which one is blamed

A setting that may be left out has a default (`Config.Comes`); of the two settings for the routing
one has to be there, and only one (`Config.Routes`, `Config.Misroutes`).  Each loader decides
between what its setting comes to and what is wrong with it (`Config.loadListen_decides`,
`Config.loadRouting_decides`, `Config.loadNumber_decides`), and since they are run one behind the
other, the first setting that is wrong is the one that is blamed (`Config.Blames`,
`Config.load_decided`).
-/

namespace GameGateway.Config

variable {α : Type} {lookup : Lookup} {config : Config}

/-! ## What the settings come to -/

/-- What a setting that may be left out comes to. -/
inductive Comes (lookup : Lookup) (name : String) (default : α) (reads : String → α → Prop) :
    α → Prop
  | unset : lookup name = none → Comes lookup name default reads default
  | set {text : String} {a : α} : lookup name = some text → reads text a →
    Comes lookup name default reads a

/-- A text that is the numeral of a number of 64 bits. -/
def IsNumber (text : String) (n : Nat) : Prop :=
  Numeral.Spells text.toList n ∧ n ≤ 18446744073709551615

/-- A text that is no such numeral, and why. -/
def IsNoNumber (text : String) (cause : NumeralError) : Prop :=
  Numeral.Refuses 18446744073709551615 text.toList cause

/-- The address to listen on; by default, a port of all IPv4 addresses. -/
def ListensOn (lookup : Lookup) : SocketAddress → Prop :=
  Comes lookup "CRAFTGATE_LISTEN_ADDR" ⟨.v4 0, 25565, 0⟩ fun text address =>
    SocketAddress.parse? text = some address

/-- The cap that is asked for. -/
def AsksCap (lookup : Lookup) : Nat → Prop :=
  Comes lookup "CRAFTGATE_MAX_CONNECTIONS" 10000 IsNumber

/-- The connect timeout that is asked for. -/
def AsksTimeout (lookup : Lookup) : Nat → Prop :=
  Comes lookup "CRAFTGATE_CONNECT_TIMEOUT_MS" 2000 IsNumber

/-- The routing, where exactly one of its settings is there and can be read. -/
inductive Routes (lookup : Lookup) : Routing → Prop
  | servers {servers : String} {routes : List Route} :
    lookup "CRAFTGATE_SERVERS" = some servers → lookup "CRAFTGATE_DEFAULT_SERVER" = none →
    Route.parseList servers = .ok routes → Routes lookup (.byAddress routes)
  | defaultServer {server backend : String} :
    lookup "CRAFTGATE_SERVERS" = none → lookup "CRAFTGATE_DEFAULT_SERVER" = some server →
    Route.parseBackend server.toList = .ok backend → Routes lookup (.single backend)

/-- What is wrong with the routing.  A setting that is there counts, be its text blank or not. -/
inductive Misroutes (lookup : Lookup) : ConfigError → Prop
  | both {servers server : String} :
    lookup "CRAFTGATE_SERVERS" = some servers → lookup "CRAFTGATE_DEFAULT_SERVER" = some server →
    Misroutes lookup .bothRoutings
  | neither :
    lookup "CRAFTGATE_SERVERS" = none → lookup "CRAFTGATE_DEFAULT_SERVER" = none →
    Misroutes lookup .noRouting
  | servers {servers : String} {cause : RouteError} :
    lookup "CRAFTGATE_SERVERS" = some servers → lookup "CRAFTGATE_DEFAULT_SERVER" = none →
    Route.parseList servers = .error cause → Misroutes lookup (.servers cause)
  | defaultServer {server : String} {cause : BackendAddressError} :
    lookup "CRAFTGATE_SERVERS" = none → lookup "CRAFTGATE_DEFAULT_SERVER" = some server →
    Route.parseBackend server.toList = .error cause → Misroutes lookup (.defaultServer cause)

/-- Settings that are accepted, and what they are accepted as. -/
structure Accepts (lookup : Lookup) (config : Config) : Prop where
  listen : ListensOn lookup config.listen
  routing : Routes lookup config.routing
  maxConnections : ∃ cap, AsksCap lookup cap ∧ config.maxConnections = max 1 cap
  connectTimeout : ∃ timeout, AsksTimeout lookup timeout ∧ config.connectTimeout = max 50 timeout
  proxyProtocol : config.proxyProtocol = true ↔ ∃ text,
    lookup "CRAFTGATE_PROXY_PROTOCOL" = some text ∧ (text = "1" ∨ text.toLower = "true")
  logLevel : config.logLevel = (lookup "CRAFTGATE_LOG_LEVEL").getD "info"

/-- Settings that are refused, and for what: the first one that is wrong, where everything in front
of it is right, whatever stands behind it. -/
inductive Blames (lookup : Lookup) : ConfigError → Prop
  | listenAddress {text : String} : lookup "CRAFTGATE_LISTEN_ADDR" = some text →
    SocketAddress.parse? text = none → Blames lookup .listenAddress
  | routing {address : SocketAddress} {e : ConfigError} : ListensOn lookup address →
    Misroutes lookup e → Blames lookup e
  | maxConnections {address : SocketAddress} {routing : Routing} {text : String}
    {cause : NumeralError} : ListensOn lookup address → Routes lookup routing →
    lookup "CRAFTGATE_MAX_CONNECTIONS" = some text → IsNoNumber text cause →
    Blames lookup (.maxConnections cause)
  | connectTimeout {address : SocketAddress} {routing : Routing} {cap : Nat} {text : String}
    {cause : NumeralError} : ListensOn lookup address → Routes lookup routing →
    AsksCap lookup cap → lookup "CRAFTGATE_CONNECT_TIMEOUT_MS" = some text →
    IsNoNumber text cause → Blames lookup (.connectTimeout cause)

/-! ## What the loaders decide -/

/-- A setting that may be left out is decided by its text, where there is one. -/
theorem Comes.decides {name : String} {default : α} {reads : String → α → Prop}
    {refuses : String → ConfigError → Prop} {outcome : Except ConfigError α}
    (unset : lookup name = none → outcome = .ok default)
    (set : ∀ text, lookup name = some text → Decides (reads text) (refuses text) outcome) :
    Decides (Comes lookup name default reads)
      (fun e => ∃ text, lookup name = some text ∧ refuses text e) outcome := by
  cases said : lookup name with
  | none =>
      refine .of_cases (.inl ⟨default, .unset said⟩) ?_ (by simp)
      rintro _ (_ | ⟨said', -⟩)
      · exact unset said
      · cases said.symm.trans said'
  | some text =>
      have decides := set text said
      refine ⟨fun a => (decides.ok_iff a).trans ⟨.set said, ?_⟩,
        fun e => (decides.error_iff e).trans ⟨fun holds => ⟨text, rfl, holds⟩, ?_⟩⟩
      · rintro (unset | ⟨said', holds⟩)
        · cases said.symm.trans unset
        · cases said.symm.trans said'
          exact holds
      · rintro ⟨_, same, holds⟩
        cases same
        exact holds

theorem loadListen_decides (lookup : Lookup) :
    Decides (ListensOn lookup)
      (fun e => ∃ text, lookup "CRAFTGATE_LISTEN_ADDR" = some text ∧
        SocketAddress.parse? text = none ∧ .listenAddress = e)
      (loadListen lookup) := by
  have byDefault : SocketAddress.parse? defaultListen = some ⟨.v4 0, 25565, 0⟩ := by decide +kernel
  unfold loadListen
  refine Comes.decides (fun unset => ?_) fun text said => .of_option (fun address read => ?_) ?_
  · rw [unset, Option.getD_none, byDefault]
  · rw [said, Option.getD_some, read]
  · intro unread
    rw [said, Option.getD_some, unread]

theorem loadNumber_decides (lookup : Lookup) (name : String) (default : Nat)
    (blame : NumeralError → ConfigError) :
    Decides (Comes lookup name default IsNumber)
      (fun e => ∃ text, lookup name = some text ∧ ∃ cause, IsNoNumber text cause ∧ blame cause = e)
      (loadNumber lookup name default blame) := by
  refine Comes.decides (fun unset => ?_) fun text said => ?_
  · simp only [loadNumber, unset]
  · have numeral : Decides (IsNumber text) (IsNoNumber text)
        (Numeral.parse Numeral.maxWord64 text.toList) :=
      ⟨fun _ => Numeral.parse_eq_ok_iff, fun _ => Numeral.parse_eq_error_iff⟩
    have opened : loadNumber lookup name default blame =
        (Numeral.parse Numeral.maxWord64 text.toList).mapError blame := by
      simp only [loadNumber, said]
      cases Numeral.parse Numeral.maxWord64 text.toList <;> rfl
    rw [opened]
    exact numeral.mapError blame

theorem loadRouting_decides (lookup : Lookup) :
    Decides (Routes lookup) (Misroutes lookup) (loadRouting lookup) := by
  refine .of_cases ?_ ?_ ?_
  · cases list : lookup "CRAFTGATE_SERVERS" with
    | none =>
        cases single : lookup "CRAFTGATE_DEFAULT_SERVER" with
        | none => exact .inr ⟨_, .neither list single⟩
        | some server =>
            cases read : Route.parseBackend server.toList with
            | ok backend => exact .inl ⟨_, .defaultServer list single read⟩
            | error cause => exact .inr ⟨_, .defaultServer list single read⟩
    | some servers =>
        cases single : lookup "CRAFTGATE_DEFAULT_SERVER" with
        | none =>
            cases read : Route.parseList servers with
            | ok routes => exact .inl ⟨_, .servers list single read⟩
            | error cause => exact .inr ⟨_, .servers list single read⟩
        | some server => exact .inr ⟨_, .both list single⟩
  · rintro _ (⟨list, single, read⟩ | ⟨list, single, read⟩)
    · simp only [loadRouting, list, single, read]
    · simp only [loadRouting, list, single, read]
  · rintro _ (⟨list, single⟩ | ⟨list, single⟩ | ⟨list, single, read⟩ | ⟨list, single, read⟩)
    · simp only [loadRouting, list, single]
    · simp only [loadRouting, list, single]
    · simp only [loadRouting, list, single, read]
    · simp only [loadRouting, list, single, read]

/-- What is not set is off. -/
theorem isOn_iff (said : Option String) : (said.map isOn).getD false = true ↔
    ∃ text, said = some text ∧ (text = "1" ∨ text.toLower = "true") := by
  cases said <;> simp [isOn]

/-- The loaders are run one behind the other. -/
theorem load_decides (lookup : Lookup) :
    Decides (Accepts lookup) (Blames lookup) (load lookup) := by
  have chain := (loadListen_decides lookup).bind fun listen =>
    (loadRouting_decides lookup).bind fun routing =>
    (loadNumber_decides lookup "CRAFTGATE_MAX_CONNECTIONS" defaultMaxConnections
      .maxConnections).bind fun maxConnections =>
    (loadNumber_decides lookup "CRAFTGATE_CONNECT_TIMEOUT_MS" defaultConnectTimeout
      .connectTimeout).bind fun connectTimeout =>
    .pure ({
      listen, routing
      maxConnections := max 1 maxConnections
      connectTimeout := max minConnectTimeout connectTimeout
      proxyProtocol := ((lookup "CRAFTGATE_PROXY_PROTOCOL").map isOn).getD false
      logLevel := (lookup "CRAFTGATE_LOG_LEVEL").getD "info" } : Config)
  refine ⟨fun config => (chain.ok_iff config).trans ?_, fun e => (chain.error_iff e).trans ?_⟩
  · constructor
    · rintro ⟨address, listen, routing, routes, cap, asks, timeout, asks', rfl⟩
      exact ⟨listen, routes, ⟨cap, asks, rfl⟩, ⟨timeout, asks', rfl⟩, isOn_iff _, rfl⟩
    · rintro ⟨listen, routes, ⟨cap, asks, cap'⟩, ⟨timeout, asks', timeout'⟩, proxy, level⟩
      have proxy' := Bool.eq_iff_iff.2 (proxy.trans (isOn_iff _).symm)
      refine ⟨_, listen, _, routes, cap, asks, timeout, asks', ?_⟩
      cases config
      obtain rfl := cap'
      obtain rfl := timeout'
      obtain rfl := proxy'
      obtain rfl := level
      rfl
  · constructor
    · rintro (⟨text, said, unread, rfl⟩ | ⟨address, listen, misroutes | ⟨routing, routes,
        ⟨text, said, cause, refuses, rfl⟩ | ⟨cap, asks, ⟨text, said, cause, refuses, rfl⟩ |
          ⟨timeout, asks', nothing⟩⟩⟩⟩)
      · exact .listenAddress said unread
      · exact .routing listen misroutes
      · exact .maxConnections listen routes said refuses
      · exact .connectTimeout listen routes asks said refuses
      · exact nothing.elim
    · rintro (⟨said, unread⟩ | ⟨listen, misroutes⟩ | ⟨listen, routes, said, refuses⟩ |
        ⟨listen, routes, asks, said, refuses⟩)
      · exact .inl ⟨_, said, unread, rfl⟩
      · exact .inr ⟨_, listen, .inl misroutes⟩
      · exact .inr ⟨_, listen, .inr ⟨_, routes, .inl ⟨_, said, _, refuses, rfl⟩⟩⟩
      · exact .inr ⟨_, listen, .inr ⟨_, routes, .inr ⟨_, asks, .inl ⟨_, said, _, refuses, rfl⟩⟩⟩⟩

/-- Everything is there that settings are made of. -/
theorem exists_accepts_iff :
    (∃ config, Accepts lookup config) ↔ (∃ address, ListensOn lookup address) ∧
      (∃ routing, Routes lookup routing) ∧ (∃ cap, AsksCap lookup cap) ∧
      ∃ timeout, AsksTimeout lookup timeout := by
  constructor
  · rintro ⟨config, listen, routes, ⟨cap, asks, -⟩, ⟨timeout, asks', -⟩, -⟩
    exact ⟨⟨_, listen⟩, ⟨_, routes⟩, ⟨cap, asks⟩, timeout, asks'⟩
  · rintro ⟨⟨address, listen⟩, ⟨routing, routes⟩, ⟨cap, asks⟩, timeout, asks'⟩
    exact ⟨⟨address, routing, max 1 cap, max 50 timeout, _, _⟩, listen, routes, ⟨cap, asks, rfl⟩,
      ⟨timeout, asks', rfl⟩, isOn_iff _, rfl⟩

/-- Nothing but the settings is looked up. -/
theorem load_congr {lookup' : Lookup} (agree : ∀ name ∈ names, lookup' name = lookup name) :
    load lookup' = load lookup := by
  unfold load loadListen loadRouting loadNumber
  rw [agree "CRAFTGATE_LISTEN_ADDR" (by decide), agree "CRAFTGATE_SERVERS" (by decide),
    agree "CRAFTGATE_DEFAULT_SERVER" (by decide), agree "CRAFTGATE_MAX_CONNECTIONS" (by decide),
    agree "CRAFTGATE_CONNECT_TIMEOUT_MS" (by decide),
    agree "CRAFTGATE_PROXY_PROTOCOL" (by decide), agree "CRAFTGATE_LOG_LEVEL" (by decide)]

/-- **Settings are accepted as a whole or refused for the first one that is wrong.**

* They are accepted if the address to listen on can be read, exactly one setting of the routing is
  there and can be read, and the cap and the connect timeout are numbers where they are there.
* What they are accepted as is what each of them comes to, with the cap raised to one and the
  timeout to fifty milliseconds.
* Otherwise the first of address, routing, cap and timeout that is wrong is blamed.
* Nothing but the seven settings makes a difference. -/
theorem load_decided (lookup : Lookup) :
    ((∃ config, load lookup = .ok config) ↔ (∃ address, ListensOn lookup address) ∧
      (∃ routing, Routes lookup routing) ∧ (∃ cap, AsksCap lookup cap) ∧
      ∃ timeout, AsksTimeout lookup timeout) ∧
    (∀ config, load lookup = .ok config ↔ Accepts lookup config) ∧
    (∀ e, load lookup = .error e ↔ Blames lookup e) ∧
    ∀ lookup', (∀ name ∈ names, lookup' name = lookup name) → load lookup' = load lookup := by
  have decides := load_decides lookup
  exact ⟨decides.exists_ok_iff.trans exists_accepts_iff, decides.ok_iff, decides.error_iff,
    fun _ agree => load_congr agree⟩

/-- A blank list of routes beside a backend is blamed in front of a cap and a timeout that are no
numbers, whatever is to be reported. -/
theorem load_decided_blank_list :
    let lookup : Lookup := fun name =>
      if name = "CRAFTGATE_SERVERS" then some " "
      else if name = "CRAFTGATE_DEFAULT_SERVER" then some "h:1"
      else if name = "CRAFTGATE_MAX_CONNECTIONS" then some "lots"
      else if name = "CRAFTGATE_CONNECT_TIMEOUT_MS" then some ""
      else none
    let lookup' : Lookup := fun name => if name = "RUST_LOG" then some "off" else lookup name
    (∀ name ∈ names, lookup' name = lookup name) ∧ load lookup = .error .bothRoutings ∧
      load lookup' = .error .bothRoutings := by
  intro lookup lookup'
  obtain ⟨-, -, blames, same⟩ := load_decided lookup
  have agree : ∀ name ∈ names, lookup' name = lookup name := by decide
  have blamed : load lookup = .error .bothRoutings :=
    (blames _).2 (.routing (.unset rfl) (.both rfl rfl))
  exact ⟨agree, blamed, (same lookup' agree).trans blamed⟩

end GameGateway.Config
