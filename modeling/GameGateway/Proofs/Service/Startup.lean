import GameGateway.Proofs.Service.SettingsVerdict
import GameGateway.Service.CommandLine

/-!
# Starting with accepted settings

Any cap of 64 bits is accepted, and one that is zero is raised to one; but a listener hands out
`Listener.maxPermits` permits at most.  A larger cap is only met when the address is bound already,
and then the start does not end with an error of its own but panics.  Nothing else makes it panic
(`Start.Comes`, `Start.panics_iff`), so it is the cap that is asked for that decides
(`Start.panics_iff_asks_too_much`).
-/

namespace GameGateway

variable {lookup : Config.Lookup} {config : Config} {host : Host}

/-! ## Caps -/

namespace Listener

/-- A cap that lets a connection in, and that a listener can have. -/
def Usable (cap : Nat) : Prop :=
  1 ≤ cap ∧ cap ≤ 2305843009213693951

theorem withCap?_eq_some_iff {cap : Nat} {listener : Listener} :
    withCap? cap = some listener ↔ cap ≤ maxPermits ∧ listener = { cap } := by
  simp [withCap?, eq_comm]

theorem withCap?_eq_none_iff {cap : Nat} : withCap? cap = none ↔ maxPermits < cap := by
  simp [withCap?]

end Listener

namespace Config

/-- The cap that is asked for is more than there can be permits. -/
def AsksTooMuch (lookup : Lookup) : Prop :=
  ∃ cap, AsksCap lookup cap ∧ 2305843009213693951 < cap

theorem AsksCap.unique {cap cap' : Nat} (asks : AsksCap lookup cap) (asks' : AsksCap lookup cap') :
    cap = cap' :=
  (loadNumber_decides lookup _ _ .maxConnections).unique asks asks'

/-- The cap is raised where it is too small, and left alone where it is too large. -/
theorem above_iff_asks_too_much (accepted : load lookup = .ok config) :
    Listener.maxPermits < config.maxConnections ↔ AsksTooMuch lookup := by
  obtain ⟨cap, asks, raised⟩ := (((load_decides lookup).ok_iff config).1 accepted).maxConnections
  rw [Listener.maxPermits]
  constructor
  · intro above
    exact ⟨cap, asks, by omega⟩
  · rintro ⟨cap', asks', above⟩
    obtain rfl := asks.unique asks'
    omega

theorem one_le_maxConnections (accepted : load lookup = .ok config) :
    1 ≤ config.maxConnections := by
  obtain ⟨cap, -, raised⟩ := (((load_decides lookup).ok_iff config).1 accepted).maxConnections
  exact raised ▸ Nat.le_max_left 1 cap

theorem usable_iff (accepted : load lookup = .ok config) :
    Listener.Usable config.maxConnections ↔ ¬ AsksTooMuch lookup := by
  rw [← above_iff_asks_too_much accepted, Nat.not_lt]
  exact ⟨And.right, fun most => ⟨one_le_maxConnections accepted, most⟩⟩

/-- Settings with a backend and a cap. -/
def cappedAt (cap : String) : Lookup
  | "CRAFTGATE_DEFAULT_SERVER" => some "h:1"
  | "CRAFTGATE_MAX_CONNECTIONS" => some cap
  | _ => none

/-- Every number of 64 bits is accepted as a cap. -/
theorem load_cappedAt {cap : String} {n : Nat} (number : IsNumber cap n) :
    load (cappedAt cap) =
      .ok ⟨⟨.v4 0, 25565, 0⟩, .single "h:1", max 1 n, 2000, false, "info"⟩ := by
  refine ((load_decides _).ok_iff _).2 ⟨.unset rfl, .defaultServer rfl rfl ?_,
    ⟨n, .set rfl number, rfl⟩, ⟨2000, .unset rfl, rfl⟩, ?_, rfl⟩
  · rfl
  · simp [cappedAt]

end Config

/-! ## Starts -/

namespace Start

/-- The start ends in a panic, not with an error of its own. -/
def Panics : Start → Prop
  | ended code .. => code = 101
  | serving .. => False

/-- What a start comes to, and why. -/
inductive Comes (host : Host) (lookup : Config.Lookup) : Start → Prop
  | refused {e : ConfigError} : Config.load lookup = .error e →
    Comes host lookup (.ended 1 (ErrorReport.render e.message e.causes) [] ⟨[]⟩)
  | unbound {config : Config} {e : IoError} {complaint : String} {events : List Event}
    {filter : EventFilter} : Config.load lookup = .ok config →
    host.bind config.listen = .error e → Comes host lookup (.ended 1 complaint events filter)
  | panicked {config : Config} {address : SocketAddress} {complaint : String}
    {events : List Event} {filter : EventFilter} : Config.load lookup = .ok config →
    host.bind config.listen = .ok address → Listener.maxPermits < config.maxConnections →
    Comes host lookup (.ended 101 complaint events filter)
  | serving {config : Config} {address : SocketAddress} {service : Service} {complaint : String}
    {events : List Event} {filter : EventFilter} : Config.load lookup = .ok config →
    host.bind config.listen = .ok address → config.maxConnections ≤ Listener.maxPermits →
    service.listener = { cap := config.maxConnections } → service.address = address →
    Comes host lookup (.serving config service events filter complaint)

theorem comes_run (host : Host) (lookup : Config.Lookup) :
    Comes host lookup (run host lookup) := by
  unfold run
  cases loaded : Config.load lookup with
  | error e =>
      exact .refused loaded
  | ok config =>
      cases bound : host.bind config.listen with
      | error e =>
          simp only [bound]
          exact .unbound loaded bound
      | ok address =>
          cases made : Listener.withCap? config.maxConnections with
          | none =>
              simp only [bound, made]
              exact .panicked loaded bound (Listener.withCap?_eq_none_iff.mp made)
          | some listener =>
              simp only [bound, made]
              obtain ⟨most, rfl⟩ := Listener.withCap?_eq_some_iff.mp made
              exact .serving loaded bound most rfl rfl

theorem panics_iff : (run host lookup).Panics ↔ ∃ config address,
    Config.load lookup = .ok config ∧ host.bind config.listen = .ok address ∧
      Listener.maxPermits < config.maxConnections := by
  have comes := comes_run host lookup
  generalize run host lookup = start at comes
  cases comes with
  | refused loaded => simp [Panics, loaded]
  | unbound loaded bound => simp [Panics, loaded, bound]
  | panicked loaded bound above => simp [Panics, loaded, bound, above]
  | serving loaded bound most => simp [Panics, loaded, bound, most]

theorem serves_cap {service : Service} {events : List Event} {filter : EventFilter}
    {complaint : String}
    (serves : run host lookup = .serving config service events filter complaint) :
    Config.load lookup = .ok config ∧ service.listener = { cap := config.maxConnections } := by
  have comes := comes_run host lookup
  rw [serves] at comes
  cases comes with
  | serving loaded bound most listener => exact ⟨loaded, listener⟩

/-- **The start panics just where the cap that is asked for is more than there can be permits.**

* A cap that is accepted is one at least; it can be used unless too much is asked for.
* It is the cap of the listener, as it is.
* A start panics if the settings are accepted, their address can be bound, and too much is asked
  for. -/
theorem panics_iff_asks_too_much (lookup : Config.Lookup) :
    (∀ config, Config.load lookup = .ok config → 1 ≤ config.maxConnections ∧
      (Listener.Usable config.maxConnections ↔ ¬ Config.AsksTooMuch lookup)) ∧
    (∀ host config service events filter complaint,
      run host lookup = .serving config service events filter complaint →
        Config.load lookup = .ok config ∧ service.listener = { cap := config.maxConnections }) ∧
    ∀ host, (run host lookup).Panics ↔ Config.AsksTooMuch lookup ∧ ∃ config address,
      Config.load lookup = .ok config ∧ host.bind config.listen = .ok address := by
  refine ⟨fun config accepted => ⟨Config.one_le_maxConnections accepted,
    Config.usable_iff accepted⟩, fun _ _ _ _ _ _ => serves_cap, fun host => panics_iff.trans ?_⟩
  constructor
  · rintro ⟨config, address, accepted, bound, above⟩
    exact ⟨(Config.above_iff_asks_too_much accepted).1 above, config, address, accepted, bound⟩
  · rintro ⟨much, config, address, accepted, bound⟩
    exact ⟨config, address, accepted, bound, (Config.above_iff_asks_too_much accepted).2 much⟩

/-- A backend and the largest cap that can be used are accepted, and nothing panics. -/
theorem panics_iff_asks_too_much_at_limit :
    let lookup := Config.cappedAt "2305843009213693951"
    (∃ config, Config.load lookup = .ok config ∧ Listener.Usable config.maxConnections) ∧
      ¬ (run .isolated lookup).Panics := by
  intro lookup
  obtain ⟨usable, -, panics⟩ := panics_iff_asks_too_much lookup
  have number : Config.IsNumber "2305843009213693951" 2305843009213693951 :=
    Numeral.parse_eq_ok_iff.mp rfl
  have accepted := Config.load_cappedAt number
  have few : ¬ Config.AsksTooMuch lookup := by
    rw [← Config.above_iff_asks_too_much accepted]
    decide
  exact ⟨⟨_, accepted, (usable _ accepted).2.2 few⟩, fun panicked => few ((panics _).1 panicked).1⟩

/-- One more is accepted as well. -/
theorem panics_with_accepted_cap :
    let lookup := Config.cappedAt "2305843009213693952"
    ∃ config, Config.load lookup = .ok config ∧ ¬ Listener.Usable config.maxConnections ∧
      (run .isolated lookup).Panics := by
  intro lookup
  have number : Config.IsNumber "2305843009213693952" 2305843009213693952 :=
    Numeral.parse_eq_ok_iff.mp rfl
  have accepted := Config.load_cappedAt number
  have above : 2305843009213693951 < max 1 2305843009213693952 := by decide
  exact ⟨_, accepted, fun usable => Nat.not_lt.mpr usable.2 above,
    panics_iff.mpr ⟨_, _, accepted, rfl, above⟩⟩

end Start

end GameGateway
