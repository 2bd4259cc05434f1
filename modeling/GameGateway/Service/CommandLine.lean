import GameGateway.Service.Config
import GameGateway.Service.EventFilter
import GameGateway.Service.Listener
import GameGateway.Session.Host

/-!
# The command line

What the program does from its start until it serves, and how it reports an error that keeps it from
doing so.  There are no arguments: all settings come from the environment.
-/

namespace GameGateway

/-! ## Error reports -/

namespace ErrorReport

/-- A text of which every line but the first is indented. -/
def indent (width : Nat) (text : String) : String :=
  ("\n" ++ String.ofList (List.replicate width ' ')).intercalate
    ((Text.splitAll '\n' text.toList).map String.ofList)

/-- The causes of an error, numbered if there is more than one. -/
def showCauses : List String → String
  | [] => ""
  | [cause] => "\n\nCaused by:\n    " ++ indent 4 cause
  | causes =>
    "\n\nCaused by:" ++
      String.join (causes.zipIdx.map fun (cause, n) => s!"\n    {n}: " ++ indent 7 cause)

/-- The report of an error that ends the program. -/
def render (message : String) (causes : List String) : String :=
  s!"Error: {message}{showCauses causes}\n"

end ErrorReport

/-! ## Start -/

/-- How the program starts. -/
inductive Start
  /-- It ends at once, with this exit code and these words on the error output. -/
  | ended (code : Nat) (complaint : String) (events : List Event) (filter : EventFilter)
  /-- It serves; `complaint` is about directives of the filter. -/
  | serving (config : Config) (service : Service) (events : List Event) (filter : EventFilter)
    (complaint : String)

namespace Start

/-- The filter for events: the general one if it is set and sound, else the configured one. -/
def chooseFilter (lookup : Config.Lookup) (config : Config) : EventFilter × String :=
  match (lookup "RUST_LOG").bind EventFilter.parse? with
  | some filter => (filter, "")
  | none =>
    let (filter, complaints) := EventFilter.parseLenient config.logLevel
    (filter, String.join (complaints.map (· ++ "\n")))

/-- Starts the program on a machine. -/
def run (host : Host) (lookup : Config.Lookup) : Start :=
  match Config.load lookup with
  | .error e => .ended 1 (ErrorReport.render e.message e.causes) [] ⟨[]⟩
  | .ok config =>
    let (filter, complaint) := chooseFilter lookup config
    let loaded := [Event.starting,
      .configurationLoaded config.listen config.routeCount config.maxConnections
        config.proxyProtocol] ++ config.registrations
    match host.bind config.listen with
    | .error e =>
      let report := ErrorReport.render s!"Failed to bind {config.listen.toText}" [e.message]
      .ended 1 (complaint ++ report) loaded filter
    | .ok address =>
      let bound := loaded ++ [.listenerBound address config.maxConnections]
      match Listener.withCap? config.maxConnections with
      | none =>
        let report := s!"a semaphore may not have more than MAX_PERMITS permits " ++
          s!"({Listener.maxPermits})\n"
        .ended 101 (complaint ++ report) bound filter
      | some listener =>
        let service : Service :=
          { listener, address, store := config.store, outbound := config.outbound host.dial }
        .serving config service (bound ++ [.listenerStarted address]) filter complaint

end Start

end GameGateway
