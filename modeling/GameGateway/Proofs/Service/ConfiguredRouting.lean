import GameGateway.Proofs.Routing.BackendLookup
import GameGateway.Proofs.Service.RouteGrammar
import GameGateway.Proofs.Service.Settings
import Mathlib.Data.List.Induction

/-!
# The backends that settings lead to

A list of routes sends an address to the backend of its last part that names the address
(`Route.Sends`, `LastGiven`).  That is what the policy made from the list finds for a connection
(`Config.finds_servers`), and the backend it finds connects to the `host:port` it is called after
(`Config.reaches_of_found`).

Which part is the last one to name an address does not change where parts with different addresses
change places or a part goes whose address is named again behind it (`Route.Rearranged`), so such
lists lead everybody to the same backend (`Config.finds_rearranged`).
`Config.routing_reaches_configured` puts this together.
-/

namespace GameGateway

/-! ## The last one that gives something -/

section LastGiven

variable {α β : Type} {gives : α → β → Prop} {xs ys : List α} {x : α} {b : β}

/-- What the last member of a list gives, of those that give something. -/
def LastGiven (gives : α → β → Prop) (xs : List α) (b : β) : Prop :=
  ∃ front x behind, xs = front ++ x :: behind ∧ gives x b ∧ ∀ later ∈ behind, ∀ c, ¬ gives later c

/-- No member of a list gives anything. -/
def NoneGiven (gives : α → β → Prop) (xs : List α) : Prop :=
  ∀ x ∈ xs, ∀ b, ¬ gives x b

theorem lastGiven_nil : ¬ LastGiven gives [] b := by
  rintro ⟨front, x, behind, split, -⟩
  simp at split

theorem noneGiven_cons : NoneGiven gives (x :: xs) ↔ (∀ b, ¬ gives x b) ∧ NoneGiven gives xs :=
  List.forall_mem_cons

theorem noneGiven_append : NoneGiven gives (xs ++ ys) ↔ NoneGiven gives xs ∧ NoneGiven gives ys :=
  List.forall_mem_append

theorem lastGiven_cons :
    LastGiven gives (x :: xs) b ↔ LastGiven gives xs b ∨ NoneGiven gives xs ∧ gives x b := by
  constructor
  · rintro ⟨front, y, behind, split, given, nothing⟩
    cases front with
    | nil =>
        obtain ⟨rfl, rfl⟩ := List.cons.inj split
        exact .inr ⟨nothing, given⟩
    | cons z front =>
        obtain ⟨rfl, rfl⟩ := List.cons.inj split
        exact .inl ⟨front, y, behind, rfl, given, nothing⟩
  · rintro (⟨front, y, behind, rfl, given, nothing⟩ | ⟨nothing, given⟩)
    · exact ⟨x :: front, y, behind, rfl, given, nothing⟩
    · exact ⟨[], x, xs, rfl, given, nothing⟩

theorem lastGiven_append :
    LastGiven gives (xs ++ ys) b ↔
      LastGiven gives ys b ∨ NoneGiven gives ys ∧ LastGiven gives xs b := by
  induction xs with
  | nil => simp [lastGiven_nil]
  | cons x xs ih =>
      rw [List.cons_append, lastGiven_cons, lastGiven_cons, noneGiven_append, ih]
      tauto

theorem lastGiven_singleton : LastGiven gives [x] b ↔ gives x b := by
  rw [lastGiven_cons]
  simp [lastGiven_nil, NoneGiven]

/-- Where no member gives anything, nothing is given last, and only there. -/
theorem noneGiven_iff : NoneGiven gives xs ↔ ∀ b, ¬ LastGiven gives xs b := by
  constructor
  · rintro none' b ⟨front, x, behind, rfl, given, -⟩
    exact none' x (by simp) b given
  · intro nothing
    induction xs with
    | nil => exact nofun
    | cons x xs ih =>
        have rest : NoneGiven gives xs :=
          ih fun b last => nothing b (lastGiven_cons.mpr (.inl last))
        exact noneGiven_cons.mpr
          ⟨fun b given => nothing b (lastGiven_cons.mpr (.inr ⟨rest, given⟩)), rest⟩

/-- Two members of which at most one gives something. -/
def Apart (gives : α → β → Prop) (x y : α) : Prop :=
  ∀ b c, gives x b → ¬ gives y c

theorem lastGiven_of_apart (apart : xs.Pairwise (Apart gives)) :
    LastGiven gives xs b ↔ ∃ x ∈ xs, gives x b := by
  induction xs with
  | nil => simp [lastGiven_nil]
  | cons x xs ih =>
      obtain ⟨first, others⟩ := List.pairwise_cons.mp apart
      rw [lastGiven_cons, ih others]
      simp only [List.mem_cons, exists_eq_or_imp]
      constructor
      · rintro (later | ⟨-, given⟩)
        · exact .inr later
        · exact .inl given
      · rintro (given | later)
        · exact .inr ⟨fun y member c => first y member b c given, given⟩
        · exact .inl later

/-- Members that are apart may change places. -/
theorem lastGiven_stretch {middle middle' : List α} (perm : middle.Perm middle')
    (apart : middle.Pairwise (Apart gives)) (front behind : List α) :
    LastGiven gives (front ++ (middle ++ behind)) b ↔
      LastGiven gives (front ++ (middle' ++ behind)) b := by
  have apart' : middle'.Pairwise (Apart gives) :=
    (perm.pairwise_iff fun {_ _} apart c d given given' => apart d c given' given).mp apart
  have nothing : NoneGiven gives middle ↔ NoneGiven gives middle' :=
    forall_congr' fun x => by rw [perm.mem_iff]
  simp only [lastGiven_append, noneGiven_append, lastGiven_of_apart apart,
    lastGiven_of_apart apart', nothing, perm.mem_iff]

/-- A member may go if something is given behind it. -/
theorem lastGiven_dropped {behind : List α} (something : ¬ NoneGiven gives behind)
    (front : List α) (x : α) :
    LastGiven gives (front ++ x :: behind) b ↔ LastGiven gives (front ++ behind) b := by
  simp only [lastGiven_append, lastGiven_cons, noneGiven_cons, something, false_and, and_false,
    or_false]

end LastGiven

/-! ## Parts and routes -/

namespace Route

open Text

/-- A part of a list that names an address, in front of its first equality sign, and a backend. -/
def Sends (address : String) (part : List Char) (backend : String) : Prop :=
  ∃ before behind, part = before ++ '=' :: behind ∧ '=' ∉ before ∧
    Trims before address.toList ∧ Trims behind backend.toList

/-- A route for an address. -/
def Gives (address : String) (route : Route) (backend : String) : Prop :=
  route.address = address ∧ route.backend = backend

/-- What a part sends where, cut at its first equality sign. -/
theorem sends_iff {before behind : List Char} (absent : '=' ∉ before) {address backend : String} :
    Sends address (before ++ '=' :: behind) backend ↔
      Trims before address.toList ∧ Trims behind backend.toList := by
  constructor
  · rintro ⟨before', behind', same, absent', first, second⟩
    have split : splitFirst '=' (before ++ '=' :: behind) = some (before, behind) :=
      splitFirst_eq_some.mpr ⟨rfl, absent⟩
    rw [splitFirst_eq_some.mpr ⟨same, absent'⟩] at split
    cases split
    exact ⟨first, second⟩
  · rintro ⟨first, second⟩
    exact ⟨before, behind, rfl, absent, first, second⟩

/-- A part names one address at most. -/
theorem Sends.address_eq {address address' backend backend' : String} {part : List Char}
    (sends : Sends address part backend) (sends' : Sends address' part backend') :
    address = address' := by
  obtain ⟨before, behind, rfl, absent, first, -⟩ := sends
  exact String.toList_inj.mp (first.unique ((sends_iff absent).mp sends').1)

/-- An assignment sends its address to its backend, and no other one anywhere. -/
theorem Assigns.sends_iff {part : List Char} {route : Route} {address backend : String}
    (assigns : Assigns part route) :
    Sends address part backend ↔ Gives address route backend := by
  obtain ⟨before, behind, rfl, absent, first, -, second, -⟩ := assigns
  rw [Route.sends_iff absent]
  constructor
  · rintro ⟨first', second'⟩
    exact ⟨String.toList_inj.mp (first.unique first'), String.toList_inj.mp (second.unique second')⟩
  · rintro ⟨rfl, rfl⟩
    exact ⟨first, second⟩

theorem not_sends_of_blank {part : List Char} (blank : Blank part) (address backend : String) :
    ¬ Sends address part backend := by
  rintro ⟨before, behind, rfl, -⟩
  exact not_mem_of_blank blank isBlank_equals (by simp)

/-- The last part that names an address was read as the last route for it. -/
theorem Reads.lastGiven_iff {parts : List (List Char)} {routes : List Route}
    (reads : Reads parts routes) (address : String) :
    (NoneGiven (Sends address) parts ↔ NoneGiven (Gives address) routes) ∧
      ∀ backend, LastGiven (Sends address) parts backend ↔
        LastGiven (Gives address) routes backend := by
  induction reads with
  | nil => exact ⟨by simp [NoneGiven], fun backend => by simp [lastGiven_nil]⟩
  | blank blank _ ih =>
      obtain ⟨nothing, last⟩ := ih
      have mute := not_sends_of_blank blank address
      refine ⟨?_, fun backend => ?_⟩
      · rw [noneGiven_cons, nothing]
        exact and_iff_right mute
      · rw [lastGiven_cons, last]
        exact or_iff_left fun given => mute backend given.2
  | route assigns _ ih =>
      obtain ⟨nothing, last⟩ := ih
      refine ⟨?_, fun backend => ?_⟩
      · rw [noneGiven_cons, noneGiven_cons, nothing]
        simp only [assigns.sends_iff]
      · rw [lastGiven_cons, lastGiven_cons, last, nothing, assigns.sends_iff]

end Route

/-! ## What a policy finds -/

/-- A connection with a readable handshake, and the address in it. -/
def Player.Tells (player : Player) (address : String) : Prop :=
  answerOf (Player.serverAddress player) = some address

theorem Player.answerOf_serverAddress (player : Player) :
    answerOf (serverAddress player) =
      (answerOf (handshake player)).map Handshake.serverAddress := by
  simp only [serverAddress, Functor.map, EStateM.map]
  cases handshake player <;> rfl

/-- A connection tells the address of the handshake that it opens with. -/
theorem Player.tells_iff {player : Player} (consistent : player.cache.Consistent)
    {address : String} : player.Tells address ↔ ∃ packet behind handshake,
      player.Opens packet behind ∧ Handshake.ofPacket packet = .ok handshake ∧
        handshake.serverAddress = address := by
  have decoded (packet : Packet) (handshake : Handshake) :
      (Handshake.ofPacket packet).toOption = some handshake ↔
        Handshake.ofPacket packet = .ok handshake := by
    cases Handshake.ofPacket packet <;> simp [Except.toOption]
  rw [Tells, answerOf_serverAddress, (handshake_spec consistent).1, Option.map_eq_some_iff]
  constructor
  · rintro ⟨handshake, answered, named⟩
    obtain ⟨packet, read, read'⟩ := Option.bind_eq_some_iff.mp answered
    obtain ⟨behind, opens⟩ := answerOf_handshakePacket_iff.mp read
    exact ⟨packet, behind, handshake, opens, (decoded packet handshake).mp read', named⟩
  · rintro ⟨packet, behind, handshake, opens, read, named⟩
    have answered := answerOf_handshakePacket_iff.mpr ⟨behind, opens⟩
    exact ⟨handshake, Option.bind_eq_some_iff.mpr
      ⟨packet, answered, (decoded packet handshake).mpr read⟩, named⟩

/-- A policy that goes by address finds what it has for the address that it is told. -/
theorem Store.find?_eq_bind {β : Type} (registry : Registry β) (player : Player) :
    ((byAddress registry).find? player).1 =
      (answerOf (Player.serverAddress player)).bind registry.get? := by
  rw [(find?_byAddress registry player).1, Player.answerOf_serverAddress, Option.bind_map]
  rfl

namespace Config

variable {config : Config} {address : String} {routes : List Route} {player : Player}

/-- The id of the backend that is found for a connection. -/
def finds (config : Config) (player : Player) : Option String :=
  (config.store.find? player).1.map Backend.id

/-- A backend whose connector connects to the `host:port` that the backend is called after,
whatever the network is. -/
def Reaches (config : Config) (found : Backend) : Prop :=
  ∃ number, found = config.backend number found.id ∧
    ∀ network, (config.outbound network).connector number = .tcp found.id network

theorem registry_append_singleton (routes : List Route) (route : Route) :
    config.registry (routes ++ [route]) =
      (config.registry routes).insert route.address
        (config.backend routes.length route.backend) := by
  simp [registry, List.zipIdx_append]

/-- An address is bound to the backend of its last route. -/
theorem id_get?_registry (routes : List Route) (address backend : String) :
    ((config.registry routes).get? address).map Backend.id = some backend ↔
      LastGiven (Route.Gives address) routes backend := by
  induction routes using List.reverseRecOn with
  | nil => exact ⟨nofun, fun last => absurd last lastGiven_nil⟩
  | append_singleton routes route ih =>
      rw [registry_append_singleton, Registry.get?_insert, lastGiven_append, lastGiven_singleton]
      by_cases same : address = route.address
      · subst same
        have given : ¬ NoneGiven (Route.Gives route.address) [route] :=
          fun nothing => nothing route List.mem_cons_self route.backend ⟨rfl, rfl⟩
        rw [if_pos rfl, Option.map_some, Option.some.injEq]
        simp only [given, false_and, or_false, Route.Gives, true_and]
        rfl
      · have nothing : NoneGiven (Route.Gives address) [route] := by
          intro other member backend given
          rw [List.mem_singleton.mp member] at given
          exact same given.1.symm
        rw [if_neg same, ih]
        simp only [nothing, true_and, Route.Gives, Ne.symm same, false_and, false_or]

/-- What is registered is the backend of a route, with the number of that route. -/
theorem exists_get?_registry {found : Backend}
    (bound : (config.registry routes).get? address = some found) :
    ∃ number route, routes[number]? = some route ∧
      found = config.backend number route.backend := by
  induction routes using List.reverseRecOn with
  | nil => cases bound
  | append_singleton routes route ih =>
      rw [registry_append_singleton, Registry.get?_insert] at bound
      split at bound
      · cases bound
        exact ⟨routes.length, route, by simp, rfl⟩
      · obtain ⟨number, other, listed, same⟩ := ih bound
        refine ⟨number, other, ?_, same⟩
        obtain ⟨inside, -⟩ := List.getElem?_eq_some_iff.mp listed
        rw [List.getElem?_append_left inside, listed]

/-- A backend with the number of its `host:port` among all of them. -/
theorem reaches_of_getElem? {number : Nat} {text : String}
    (listed : config.backends[number]? = some text) :
    config.Reaches (config.backend number text) := by
  refine ⟨number, rfl, fun network => ?_⟩
  have connector : (config.outbound network).connectors[number]? = some (.tcp text network) := by
    rw [outbound, List.getElem?_map, listed]
    rfl
  rw [Outbound.connector, List.getD_eq_getElem?_getD, connector]
  rfl

/-- Whatever is found connects where it should. -/
theorem reaches_of_found {found : Backend} (found' : (config.store.find? player).1 = some found) :
    config.Reaches found := by
  cases routing : config.routing with
  | single text =>
      rw [store, routing] at found'
      cases found'
      refine reaches_of_getElem? ?_
      rw [backends, routing]
      rfl
  | byAddress routes =>
      rw [store, routing, Store.find?_eq_bind] at found'
      obtain ⟨address, -, bound⟩ := Option.bind_eq_some_iff.mp found'
      obtain ⟨number, route, listed, rfl⟩ := exists_get?_registry bound
      refine reaches_of_getElem? ?_
      rw [backends, routing, List.getElem?_map, listed]
      rfl

/-- A policy with one backend for all finds that. -/
theorem finds_single {text : String} (routing : config.routing = .single text) (player : Player) :
    config.finds player = some text := by
  rw [finds, store, routing]
  rfl

/-- A policy that goes by address finds the backend of the last route for it, -/
theorem finds_byAddress (routing : config.routing = .byAddress routes)
    (tells : player.Tells address) (backend : String) :
    config.finds player = some backend ↔ LastGiven (Route.Gives address) routes backend := by
  rw [finds, store, routing, Store.find?_eq_bind, tells, Option.bind_some]
  exact id_get?_registry routes address backend

/-- and nothing for a connection that tells none. -/
theorem finds_untold (routing : config.routing = .byAddress routes)
    (untold : answerOf (Player.serverAddress player) = none) : config.finds player = none := by
  rw [finds, store, routing, Store.find?_eq_bind, untold]
  rfl

end Config

/-! ## Lists that lead to the same backends -/

namespace Route

open Text

/-- A part that names an address. -/
def Names (address : String) (part : List Char) : Prop :=
  ∃ backend, Sends address part backend

theorem Names.not_blank {address : String} {part : List Char} (names : Names address part) :
    ¬ Blank part := by
  obtain ⟨backend, sends⟩ := names
  exact fun blank => not_sends_of_blank blank address backend sends

/-- Neighbouring parts, no two of which name one address, that changed places, or a part that went
whose address is named again behind it. -/
inductive Rearranged : List (List Char) → List (List Char) → Prop
  | reordered (front : List (List Char)) {middle middle' : List (List Char)}
    (behind : List (List Char)) : middle.Perm middle' →
    (middle.Pairwise fun part other => ∀ address, Names address part → ¬ Names address other) →
    Rearranged (front ++ (middle ++ behind)) (front ++ (middle' ++ behind))
  | deleted (front : List (List Char)) {part later : List Char} {behind : List (List Char)}
    {address : String} : Names address part → later ∈ behind → Names address later →
    Rearranged (front ++ part :: behind) (front ++ behind)

section Rearranged

variable {parts parts' : List (List Char)}

/-- Each address is sent to the same backend. -/
theorem Rearranged.lastGiven_iff (rearranged : Rearranged parts parts') (address backend : String) :
    LastGiven (Sends address) parts backend ↔ LastGiven (Sends address) parts' backend := by
  cases rearranged with
  | reordered front behind perm apart =>
      refine lastGiven_stretch perm (apart.imp ?_) front behind
      exact fun apart b c sends sends' => apart address ⟨b, sends⟩ ⟨c, sends'⟩
  | @deleted front part later behind address' names member again =>
      obtain ⟨backend', sends⟩ := names
      by_cases same : address = address'
      · subst same
        obtain ⟨backend'', sends'⟩ := again
        exact lastGiven_dropped (fun nothing => nothing later member backend'' sends') front part
      · -- the part that goes names another address
        have mute : ∀ b, ¬ Sends address part b := fun b sends' => same (sends'.address_eq sends)
        simp only [lastGiven_append, lastGiven_cons, noneGiven_cons, mute, and_false, or_false,
          true_and, not_false_eq_true, implies_true]

/-- No part is there that was not there before, -/
theorem Rearranged.subset (rearranged : Rearranged parts parts') : parts' ⊆ parts := by
  cases rearranged with
  | reordered front behind perm _ =>
      exact ((perm.append_right behind).append_left front).symm.subset
  | deleted front _ _ _ => exact ((List.sublist_cons_self _ _).append_left front).subset

/-- and not all parts become blank. -/
theorem Rearranged.exists_not_blank (rearranged : Rearranged parts parts')
    (solid : ∃ part ∈ parts, ¬ Blank part) : ∃ part ∈ parts', ¬ Blank part := by
  cases rearranged with
  | reordered front behind perm _ =>
      obtain ⟨part, member, solid⟩ := solid
      exact ⟨part, ((perm.append_right behind).append_left front).subset member, solid⟩
  | @deleted front part later behind _ _ member again =>
      exact ⟨later, List.mem_append_right front member, again.not_blank⟩

/-- What can be read can still be read. -/
theorem Rearranged.exists_reads {routes : List Route} (rearranged : Rearranged parts parts')
    (reads : Reads parts routes) (some : routes ≠ []) :
    ∃ routes', routes' ≠ [] ∧ Reads parts' routes' := by
  have all := exists_reads_iff.mp ⟨routes, reads⟩
  obtain ⟨routes', reads'⟩ := exists_reads_iff.mpr fun part member =>
    all part (rearranged.subset member)
  have solid := rearranged.exists_not_blank (reads.ne_nil_iff.mp some)
  exact ⟨routes', reads'.ne_nil_iff.mpr solid, reads'⟩

end Rearranged

end Route

/-! ## Settings -/

namespace Config

open Text

variable {lookup : Lookup} {config : Config}

/-- The routing by a list of routes. -/
theorem loadRouting_servers {servers : String} {routing : Routing}
    (set : lookup "CRAFTGATE_SERVERS" = some servers) :
    loadRouting lookup = .ok routing ↔ lookup "CRAFTGATE_DEFAULT_SERVER" = none ∧
      ∃ routes, Route.parseList servers = .ok routes ∧ routing = .byAddress routes := by
  cases default : lookup "CRAFTGATE_DEFAULT_SERVER" with
  | some server => simp [loadRouting, set, default]
  | none =>
      cases read : Route.parseList servers with
      | error e => simp [loadRouting, set, default, read]
      | ok routes => simp [loadRouting, set, default, read, eq_comm]

/-- The routing to one backend. -/
theorem loadRouting_defaultServer {server : String} {routing : Routing}
    (set : lookup "CRAFTGATE_DEFAULT_SERVER" = some server) :
    loadRouting lookup = .ok routing ↔ lookup "CRAFTGATE_SERVERS" = none ∧
      ∃ backend, Route.parseBackend server.toList = .ok backend ∧ routing = .single backend := by
  cases list : lookup "CRAFTGATE_SERVERS" with
  | some servers => simp [loadRouting, set, list]
  | none =>
      cases read : Route.parseBackend server.toList with
      | error e => simp [loadRouting, set, list, read]
      | ok backend => simp [loadRouting, set, list, read, eq_comm]

/-- With one backend set, that is found for every connection. -/
theorem finds_defaultServer {server : String} (accepted : load lookup = .ok config)
    (set : lookup "CRAFTGATE_DEFAULT_SERVER" = some server) (player : Player) :
    config.finds player = some (trim server) := by
  obtain ⟨-, backend, read, routing⟩ :=
    (loadRouting_defaultServer set).mp (load_eq_ok_iff.mp accepted).routing
  have trimmed := trimChars_of_trims (Route.parseBackend_eq_ok_iff.mp read).1
  rw [finds_single routing, trim, trimmed, String.ofList_toList]

section Servers

variable {servers : String}

/-- With a list set, the routes are what its parts assign. -/
theorem reads_of_servers (accepted : load lookup = .ok config)
    (set : lookup "CRAFTGATE_SERVERS" = some servers) :
    ∃ routes, config.routing = .byAddress routes ∧ routes ≠ [] ∧
      Route.Reads (splitAll ',' servers.toList) routes := by
  obtain ⟨-, routes, read, routing⟩ :=
    (loadRouting_servers set).mp (load_eq_ok_iff.mp accepted).routing
  exact ⟨routes, routing, Route.parseList_eq_ok_iff.mp read⟩

/-- With a list set, the backend of its last part for an address is found, or nothing. -/
theorem finds_servers (accepted : load lookup = .ok config)
    (set : lookup "CRAFTGATE_SERVERS" = some servers) {player : Player} {address : String}
    (tells : player.Tells address) :
    (∀ backend, config.finds player = some backend ↔
        LastGiven (Route.Sends address) (splitAll ',' servers.toList) backend) ∧
      (config.finds player = none ↔
        NoneGiven (Route.Sends address) (splitAll ',' servers.toList)) := by
  obtain ⟨routes, routing, -, reads⟩ := reads_of_servers accepted set
  have found (backend : String) : config.finds player = some backend ↔
      LastGiven (Route.Sends address) (splitAll ',' servers.toList) backend :=
    (finds_byAddress routing tells backend).trans ((reads.lastGiven_iff address).2 backend).symm
  refine ⟨found, ?_⟩
  rw [noneGiven_iff, Option.eq_none_iff_forall_ne_some]
  exact forall_congr' fun backend => not_congr (found backend)

/-- Another list in its place. -/
theorem load_update_servers (accepted : load lookup = .ok config)
    (set : lookup "CRAFTGATE_SERVERS" = some servers) {servers' : String} {routes : List Route}
    (read : Route.parseList servers' = .ok routes) :
    load (Function.update lookup "CRAFTGATE_SERVERS" (some servers')) =
      .ok { config with routing := .byAddress routes } := by
  obtain ⟨listen, routing, cap, timeout, proxy, level⟩ := load_eq_ok_iff.mp accepted
  obtain ⟨default, -⟩ := (loadRouting_servers set).mp routing
  have others (name : String) (other : name ≠ "CRAFTGATE_SERVERS") :
      Function.update lookup "CRAFTGATE_SERVERS" (some servers') name = lookup name :=
    Function.update_of_ne other _ _
  refine load_of_loads ⟨?_, ?_, ?_, ?_, ?_, ?_⟩
  · unfold loadListen
    rwa [others "CRAFTGATE_LISTEN_ADDR" (by decide)]
  · refine (loadRouting_servers (Function.update_self ..)).mpr ⟨?_, routes, read, rfl⟩
    rwa [others "CRAFTGATE_DEFAULT_SERVER" (by decide)]
  · simpa only [loadNumber, others "CRAFTGATE_MAX_CONNECTIONS" (by decide)] using cap
  · simpa only [loadNumber, others "CRAFTGATE_CONNECT_TIMEOUT_MS" (by decide)] using timeout
  · rwa [others "CRAFTGATE_PROXY_PROTOCOL" (by decide)]
  · rwa [others "CRAFTGATE_LOG_LEVEL" (by decide)]

/-- With its parts rearranged, a list is accepted as well and leads everybody to the same
backend. -/
theorem finds_rearranged (accepted : load lookup = .ok config)
    (set : lookup "CRAFTGATE_SERVERS" = some servers) {servers' : String}
    (rearranged : Route.Rearranged (splitAll ',' servers.toList) (splitAll ',' servers'.toList)) :
    ∃ routes, load (Function.update lookup "CRAFTGATE_SERVERS" (some servers')) =
        .ok { config with routing := .byAddress routes } ∧
      ∀ player,
        finds { config with routing := .byAddress routes } player = config.finds player := by
  obtain ⟨routes, routing, filled, reads⟩ := reads_of_servers accepted set
  obtain ⟨routes', filled', reads'⟩ := rearranged.exists_reads reads filled
  have accepted' := load_update_servers accepted set
    (Route.parseList_eq_ok_iff.mpr ⟨filled', reads'⟩)
  refine ⟨routes', accepted', fun player => ?_⟩
  cases told : answerOf (Player.serverAddress player) with
  | none => rw [finds_untold routing told, finds_untold rfl told]
  | some address =>
      refine Option.ext fun backend => ?_
      have set' : Function.update lookup "CRAFTGATE_SERVERS" (some servers') "CRAFTGATE_SERVERS" =
          some servers' := Function.update_self ..
      rw [(finds_servers accepted set told).1, (finds_servers accepted' set' told).1,
        rearranged.lastGiven_iff]

end Servers

/-- **Accepted settings lead connections to the backends that they name.**

* With a list set, a connection is sent to the backend of the last part that names the address of
  its handshake, and nowhere if no part names it.  Parts may change places where they name different
  addresses, and a part may go whose address is named again behind it.
* With one backend set, everybody is sent to that.
* In both cases the backend connects to the `host:port` it is called after. -/
theorem routing_reaches_configured (accepted : load lookup = .ok config) :
    (∀ servers, lookup "CRAFTGATE_SERVERS" = some servers →
      (∀ (player : Player) packet behind handshake, player.cache.Consistent →
        player.Opens packet behind → Handshake.ofPacket packet = .ok handshake →
        let sends := Route.Sends handshake.serverAddress
        (∀ backend, config.finds player = some backend ↔
          LastGiven sends (splitAll ',' servers.toList) backend) ∧
        (config.finds player = none ↔ NoneGiven sends (splitAll ',' servers.toList))) ∧
      ∀ servers',
        Route.Rearranged (splitAll ',' servers.toList) (splitAll ',' servers'.toList) →
        ∃ routes, load (Function.update lookup "CRAFTGATE_SERVERS" (some servers')) =
            .ok { config with routing := .byAddress routes } ∧
          ∀ player,
            finds { config with routing := .byAddress routes } player = config.finds player) ∧
    (∀ server, lookup "CRAFTGATE_DEFAULT_SERVER" = some server →
      ∀ player, config.finds player = some (trim server)) ∧
    ∀ player found, (config.store.find? player).1 = some found → config.Reaches found := by
  refine ⟨fun servers set => ⟨?_, ?_⟩, fun _ set player => finds_defaultServer accepted set player,
    fun _ _ found => reaches_of_found found⟩
  · intro player packet behind handshake consistent opens decoded
    exact finds_servers accepted set
      ((Player.tells_iff consistent).mpr ⟨packet, behind, handshake, opens, decoded, rfl⟩)
  · exact fun servers' rearranged => finds_rearranged accepted set rearranged

/-- A list with a blank part and an address that is named twice, which leads a new connection to the
later backend, and so without the part that names the address first. -/
theorem routing_reaches_configured_twice :
    let lookup : Lookup := fun name =>
      if name = "CRAFTGATE_SERVERS" then some " a = h:1,, b=h:2 ,a=h:3" else none
    let config : Config :=
      { listen := ⟨.v4 0, 25565, 0⟩
        routing := .byAddress [⟨"a", "h:1"⟩, ⟨"b", "h:2"⟩, ⟨"a", "h:3"⟩]
        maxConnections := 10000
        connectTimeout := 2000
        proxyProtocol := false
        logLevel := "info" }
    let player : Player :=
      { peer := { source := { script := [.chunk [7, 0, 0, 1], .pause, .chunk [97, 0, 1, 2]] } }
        remote := ⟨.v4 0x7F000001, 50000, 0⟩
        localAddress := ⟨.v4 0x7F000001, 25565, 0⟩ }
    load lookup = .ok config ∧ config.finds player = some "h:3" ∧
      ∃ routes, load (Function.update lookup "CRAFTGATE_SERVERS" (some ", b=h:2 ,a=h:3")) =
          .ok { config with routing := .byAddress routes } ∧
        finds { config with routing := .byAddress routes } player = some "h:3" := by
  intro lookup config player
  have set : lookup "CRAFTGATE_SERVERS" = some " a = h:1,, b=h:2 ,a=h:3" := rfl
  have accepted : load lookup = .ok config := by
    have listen : SocketAddress.parse? ((lookup "CRAFTGATE_LISTEN_ADDR").getD defaultListen) =
        some config.listen := by decide +kernel
    refine load_of_loads ⟨?_, ?_, ⟨10000, rfl, rfl⟩, ⟨2000, rfl, rfl⟩, rfl, rfl⟩
    · unfold loadListen
      rw [listen]
    · exact (loadRouting_servers set).mpr ⟨rfl, _, by rfl, rfl⟩
  have opens : player.Opens ⟨0, [0, 1, 97, 0, 1, 2]⟩ (player.peer.source.feed.skip 8) :=
    Feed.readPacket_eq_ok_iff.mp (by rfl)
  have decoded : Handshake.ofPacket ⟨0, [0, 1, 97, 0, 1, 2]⟩ = .ok ⟨0, "a", 1, 2⟩ := by rfl
  have early : Route.Sends "a" " a = h:1".toList "h:1" :=
    ⟨" a ".toList, " h:1".toList, by decide +kernel, by decide +kernel,
      trimChars_eq_iff.mp (by decide +kernel), trimChars_eq_iff.mp (by decide +kernel)⟩
  have late : Route.Sends "a" "a=h:3".toList "h:3" :=
    ⟨"a".toList, "h:3".toList, by decide +kernel, by decide +kernel,
      trimChars_eq_iff.mp (by decide +kernel), trimChars_eq_iff.mp (by decide +kernel)⟩
  have parts : splitAll ',' " a = h:1,, b=h:2 ,a=h:3".toList =
      " a = h:1".toList :: ([[], " b=h:2 ".toList] ++ ["a=h:3".toList]) := by decide +kernel
  have parts' : splitAll ',' ", b=h:2 ,a=h:3".toList =
      [[], " b=h:2 ".toList] ++ ["a=h:3".toList] := by decide +kernel
  obtain ⟨list, -⟩ := routing_reaches_configured accepted
  obtain ⟨finds, rearranged⟩ := list _ set
  have found : config.finds player = some "h:3" := by
    refine ((finds player _ _ _ ⟨nofun, nofun⟩ opens decoded).1 "h:3").mpr ?_
    rw [parts]
    exact ⟨_, _, [], (List.cons_append ..).symm, late, nofun⟩
  obtain ⟨routes, accepted', same⟩ := rearranged ", b=h:2 ,a=h:3" (by
    rw [parts, parts']
    exact .deleted [] ⟨_, early⟩ (List.mem_append_right _ List.mem_cons_self) ⟨_, late⟩)
  exact ⟨accepted, found, routes, accepted', (same player).trans found⟩

end Config

end GameGateway
