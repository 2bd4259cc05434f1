import GameGateway.Proofs.Service.SettingsVerdict

/-!
# Accepted settings

Settings are accepted if each of them can be read, and are then what was read (`Config.Loads`,
`Config.load_eq_ok_iff`).
-/

namespace GameGateway.Config

/-- Everything that is looked up can be read, and makes up some settings. -/
structure Loads (lookup : Lookup) (config : Config) : Prop where
  listen : loadListen lookup = .ok config.listen
  routing : loadRouting lookup = .ok config.routing
  maxConnections : ∃ cap,
    loadNumber lookup "CRAFTGATE_MAX_CONNECTIONS" defaultMaxConnections .maxConnections = .ok cap ∧
      config.maxConnections = max 1 cap
  connectTimeout : ∃ timeout,
    loadNumber lookup "CRAFTGATE_CONNECT_TIMEOUT_MS" defaultConnectTimeout .connectTimeout =
        .ok timeout ∧
      config.connectTimeout = max minConnectTimeout timeout
  proxyProtocol : config.proxyProtocol =
    ((lookup "CRAFTGATE_PROXY_PROTOCOL").map isOn).getD false
  logLevel : config.logLevel = (lookup "CRAFTGATE_LOG_LEVEL").getD "info"

/-- **Settings are accepted just where everything can be read.** -/
theorem load_eq_ok_iff {lookup : Lookup} {config : Config} :
    load lookup = .ok config ↔ Loads lookup config := by
  have listens := (loadListen_decides lookup).ok_iff config.listen
  have routes := (loadRouting_decides lookup).ok_iff config.routing
  have caps := (loadNumber_decides lookup "CRAFTGATE_MAX_CONNECTIONS" defaultMaxConnections
    .maxConnections).ok_iff
  have timeouts := (loadNumber_decides lookup "CRAFTGATE_CONNECT_TIMEOUT_MS" defaultConnectTimeout
    .connectTimeout).ok_iff
  refine ((load_decides lookup).ok_iff config).trans ⟨fun accepts => ?_, fun loads => ?_⟩
  · obtain ⟨listen, routing, ⟨cap, asks, raised⟩, ⟨timeout, asks', raised'⟩, proxy, level⟩ :=
      accepts
    exact ⟨listens.2 listen, routes.2 routing, ⟨cap, (caps cap).2 asks, raised⟩,
      ⟨timeout, (timeouts timeout).2 asks', raised'⟩,
      Bool.eq_iff_iff.2 (proxy.trans (isOn_iff _).symm), level⟩
  · obtain ⟨listen, routing, ⟨cap, read, raised⟩, ⟨timeout, read', raised'⟩, proxy, level⟩ := loads
    exact ⟨listens.1 listen, routes.1 routing, ⟨cap, (caps cap).1 read, raised⟩,
      ⟨timeout, (timeouts timeout).1 read', raised'⟩,
      (Bool.eq_iff_iff.1 proxy).trans (isOn_iff _), level⟩

theorem load_of_loads {lookup : Lookup} {config : Config} (loads : Loads lookup config) :
    load lookup = .ok config :=
  load_eq_ok_iff.2 loads

end GameGateway.Config
