import GameGateway.Proofs.Routing.BackendConnection
import GameGateway.Proofs.Routing.Dispatch
import GameGateway.Proofs.Session.PlayerCache

/-!
# Any calls on a player's connection

A player's connection is used by the gateway, by backends and by whoever holds it, in any order and
however the calls end.  A `Call` is one such use, and `Session.run` makes one after the other.

A backend reads the handshake packet, and for a login the login start; nothing else that it does
reaches what is kept about the player (`ServerBackend.withConnection_learns`,
`ServerBackend.login_cache`).  So every call changes the cache as `PlayerCache.Learns` allows
(`Call.after_learns`), and `Session.calls_keep_cache` says what follows for all calls together.
-/

namespace GameGateway

open PlayerCache

/-! ## Exchanges -/

namespace Exchange

/-- An exchange that leads to another one with the same cache. -/
def KeepsCache (exchange after : Exchange) : Prop :=
  after.player.cache = exchange.player.cache

variable {ε α β : Type}

theorem keepsCache_refl (exchange : Exchange) : exchange.KeepsCache exchange :=
  rfl

theorem keepsCache_trans (a b c : Exchange) (first : a.KeepsCache b) (second : b.KeepsCache c) :
    a.KeepsCache c :=
  second.trans first

theorem onServer_keeps (act : EStateM ε BackendLink α) : Moves KeepsCache (onServer act) := by
  intro exchange
  unfold onServer
  cases act exchange.server <;> rfl

theorem note_keeps (event : Event) :
    Moves KeepsCache (onPlayer (Player.note event) : EStateM ε Exchange Unit) :=
  fun _ => rfl

theorem join_keeps : Moves KeepsCache (join : EStateM ε Exchange Tunnel.Joined) :=
  fun _ => rfl

theorem bind_keeps {act : EStateM ε Exchange α} {next : α → EStateM ε Exchange β}
    (first : Moves KeepsCache act) (second : ∀ a, Moves KeepsCache (next a)) :
    Moves KeepsCache (act >>= next) :=
  .bind keepsCache_refl keepsCache_trans first second

/-- What acts on the player's connection leaves of the cache what it leaves of the player's. -/
theorem onPlayer_player (act : EStateM ε Player α) (exchange : Exchange) :
    (stateOf (onPlayer act exchange)).player = stateOf (act exchange.player) ∧
      answerOf (onPlayer act exchange) = answerOf (act exchange.player) := by
  unfold onPlayer
  cases act exchange.player <;> exact ⟨rfl, rfl⟩

end Exchange

/-! ## Backends -/

namespace ServerBackend

open Exchange

variable {α β : Type} (backend : ServerBackend)

theorem greet_keeps (handshake : Packet) : Moves KeepsCache (backend.greet handshake) :=
  fun exchange => (greet_sent backend handshake exchange.player exchange.server).player_noted.cache

theorem fetchStatus_keeps : Moves KeepsCache backend.fetchStatus := by
  refine bind_keeps (onServer_keeps _) fun response => ?_
  cases StatusResponse.ofPacket response with
  | error e => exact .throw keepsCache_refl _
  | ok _ => exact bind_keeps (note_keeps _) fun _ => .pure keepsCache_refl _

/-- Whatever a connection is for, a session gets none, or gets one and greets the backend. -/
theorem withConnection_or (session : Session) :
    (∃ e after, after.player.cache = (stateOf (Player.handshakePacket session.player)).cache ∧
        ∀ {α : Type} (act : EStateM GatewayError Exchange α),
          backend.withConnection act session = .error e after) ∨
      ∃ handshake player link outbound,
        Player.handshakePacket session.player = .ok handshake player ∧
        ∀ {α : Type} (act : EStateM GatewayError Exchange α),
          backend.withConnection act session = onState (leave backend outbound)
            ((do backend.greet handshake; act : EStateM GatewayError Exchange α)
              ⟨announced backend session.outbound player, link⟩) := by
  cases run : Player.handshakePacket session.player with
  | error e player => exact .inl ⟨e, _, rfl, fun _ => withConnection_error run⟩
  | ok handshake player =>
      cases dial : session.outbound.connect backend.connector with
      | mk answer outbound =>
          cases answer with
          | failed e => exact .inl ⟨_, _, rfl, fun _ => withConnection_failed run dial⟩
          | connected link =>
              exact .inr ⟨handshake, player, link, outbound, rfl,
                fun _ => withConnection_connected run dial⟩

/-- A connection is opened behind the handshake packet, and what is learned over it is what `act`
learns.  `told` is the login start in an answer of `act`. -/
theorem withConnection_learns {act : EStateM GatewayError Exchange α}
    (told : Option α → Option Packet) (nothing : told none = none)
    (acts : ∀ exchange : Exchange, exchange.player.cache.Learns (told (answerOf (act exchange)))
      (stateOf (act exchange)).player.cache) (session : Session) :
    session.player.cache.Learns (told (answerOf (backend.withConnection act session)))
      (stateOf (backend.withConnection act session)).player.cache := by
  have read := (Player.handshakePacket_spec session.player).1
  rcases backend.withConnection_or session with
    ⟨e, after, kept, failed⟩ | ⟨handshake, player, link, outbound, run, connected⟩
  · rw [failed act, answerOf, nothing]
    exact kept ▸ read
  · rw [run] at read
    rw [connected act, stateOf_onState, answerOf_onState]
    refine read.trans ?_
    let opening : Exchange := ⟨announced backend session.outbound player, link⟩
    have kept : (stateOf (backend.greet handshake opening)).player.cache = player.cache :=
      greet_keeps backend handshake opening
    cases greeted : backend.greet handshake opening with
    | error e exchange =>
        rw [greeted] at kept
        rw [bind_error greeted, answerOf, nothing]
        exact kept ▸ .refl _
    | ok _ exchange =>
        rw [greeted] at kept
        rw [bind_ok greeted]
        exact kept ▸ acts exchange

/-- What is done over a connection behind a first part leaves the cache alone if it only adds to
what was written and reported. -/
theorem withConnection_cache_eq {first : EStateM GatewayError Exchange β}
    {next : β → EStateM GatewayError Exchange α} (rest : ∀ b, Moves KeepsCache (next b))
    (session : Session) :
    (stateOf (backend.withConnection (first >>= next) session)).player.cache =
      (stateOf (backend.withConnection first session)).player.cache := by
  rcases backend.withConnection_or session with
    ⟨e, after, -, failed⟩ | ⟨handshake, player, link, outbound, -, connected⟩
  · rw [failed, failed]
    rfl
  · rw [connected, connected, stateOf_onState, stateOf_onState, ← bind_assoc]
    exact Moves.from_first keepsCache_refl _ rest _

/-- A login as far as its login start. -/
def loginStart : EStateM GatewayError Session Packet :=
  backend.withConnection (onPlayer Player.loginStart)

theorem login_cache (session : Session) :
    (stateOf ((Backend.server backend).login session)).player.cache =
      (stateOf (backend.loginStart session)).player.cache := by
  refine withConnection_cache_eq backend (fun login => ?_) session
  refine bind_keeps (onServer_keeps _) fun _ exchange => ?_
  rw [bind_get]
  refine bind_keeps (.ofExcept keepsCache_refl _) (fun name => ?_) exchange
  refine bind_keeps (note_keeps _) fun _ => bind_keeps join_keeps fun joined => note_keeps _

theorem status_learns (session : Session) :
    session.player.cache.Learns none
      (stateOf ((Backend.server backend).status session)).player.cache := by
  refine withConnection_learns backend (fun _ => none) rfl (fun exchange => ?_) session
  have kept : (stateOf (backend.fetchStatus exchange)).player.cache = exchange.player.cache :=
    fetchStatus_keeps backend exchange
  rw [kept]
  exact .refl _

theorem login_learns (session : Session) :
    session.player.cache.Learns (answerOf (backend.loginStart session))
      (stateOf ((Backend.server backend).login session)).player.cache := by
  rw [login_cache]
  refine withConnection_learns backend (fun answer => answer) rfl (fun exchange => ?_) session
  obtain ⟨left, answer⟩ := onPlayer_player Player.loginStart exchange
  rw [left, answer]
  exact Player.loginStart_learns exchange.player

end ServerBackend

/-! ## Calls -/

/-- The backends there are. -/
inductive Destination
  | server (backend : ServerBackend)
  | fixed (number : Nat) (id : String) (status : Except String Packet) (login : Except String Unit)

def Destination.backend : Destination → Backend
  | server backend => .server backend
  | fixed number id status login => .fixed number id status login

/-- One use of a player's connection. -/
inductive Call
  | handshakePacket
  | handshake
  | requestType
  | serverAddress
  | loginStart
  | name
  | readPacket
  | writePacket (packet : Packet)
  /-- A single read. -/
  | read (limit : Nat)
  /-- A single write. -/
  | write (bytes : Bytes)
  | writeAll (bytes : Bytes)
  | flush
  | shutdown
  | status (destination : Destination)
  | login (destination : Destination)

namespace Call

/-- What a call makes of a session, whether it answers or fails. -/
def after : Call → Session → Session
  | handshakePacket, session => stateOf (Session.onPlayer Player.handshakePacket session)
  | handshake, session => stateOf (Session.onPlayer Player.handshake session)
  | requestType, session => stateOf (Session.onPlayer Player.requestType session)
  | serverAddress, session => stateOf (Session.onPlayer Player.serverAddress session)
  | loginStart, session => stateOf (Session.onPlayer Player.loginStart session)
  | name, session => session
  | readPacket, session => stateOf (Session.onPlayer Player.readPacket session)
  | writePacket packet, session => stateOf (Session.onPlayer (Player.writePacket packet) session)
  | read limit, session => stateOf (Session.onPlayer (Player.onPeer (Peer.read limit)) session)
  | write bytes, session =>
    stateOf (Session.onPlayer (Player.onPeer (Peer.onSink (Sink.write bytes))) session)
  | writeAll bytes, session =>
    stateOf (Session.onPlayer (Player.onPeer (Peer.writeAll bytes)) session)
  | flush, session => stateOf (Session.onPlayer (Player.onPeer Peer.flush) session)
  | shutdown, session => stateOf (Session.onPlayer (Player.onPeer Peer.shutdown) session)
  | status destination, session => stateOf (destination.backend.status session)
  | login destination, session => stateOf (destination.backend.login session)

/-- The login start that a call gets answered, of its own or inside a login. -/
def loginStart? : Call → Session → Option Packet
  | loginStart, session => answerOf (Player.loginStart session.player)
  | login (.server backend), session => answerOf (backend.loginStart session)
  | _, _ => none

end Call

theorem Session.stateOf_onPlayer {ε α : Type} (act : EStateM ε Player α) (session : Session) :
    (stateOf (onPlayer act session)).player = stateOf (act session.player) := by
  unfold onPlayer
  cases act session.player <;> rfl

/-- A call on the stream leaves the cache alone. -/
theorem Session.onStream_cache {ε α : Type} (act : EStateM ε Peer α) (session : Session) :
    (stateOf (onPlayer (Player.onPeer act) session)).player.cache = session.player.cache := by
  rw [stateOf_onPlayer, Player.onPeer_cache]

theorem Backend.fromMemory_player {α : Type} (number : Nat) (request : RequestType)
    (answer : Except String α) (session : Session) :
    (stateOf (fromMemory number request answer session)).player = session.player := by
  cases answer <;> rfl

namespace Call

/-- **No call spoils the cache.**  What a call makes of a consistent cache is consistent and holds
all that was there, and it learns a name just if it gets a login start answered. -/
theorem after_learns (call : Call) (session : Session) :
    session.player.cache.Learns (call.loginStart? session) (call.after session).player.cache := by
  cases call with
  | handshakePacket =>
      rw [after, Session.stateOf_onPlayer]
      exact (Player.handshakePacket_spec session.player).1
  | handshake =>
      rw [after, Session.stateOf_onPlayer]
      exact Player.handshake_learns session.player
  | requestType | serverAddress =>
      rw [after, Session.stateOf_onPlayer]
      simp only [Player.requestType, Player.serverAddress, stateOf_map]
      exact Player.handshake_learns session.player
  | loginStart =>
      rw [after, Session.stateOf_onPlayer]
      exact Player.loginStart_learns session.player
  | name => exact .refl _
  | readPacket | writePacket | read | write | writeAll | flush | shutdown =>
      simp only [after, Player.readPacket, Player.writePacket, Session.onStream_cache]
      exact .refl _
  | status destination =>
      cases destination with
      | server backend => exact backend.status_learns session
      | fixed number id status login =>
          have kept := Backend.fromMemory_player number .status status session
          exact kept ▸ .refl _
  | login destination =>
      cases destination with
      | server backend => exact backend.login_learns session
      | fixed number id status login =>
          have kept := Backend.fromMemory_player number .login login session
          exact kept ▸ .refl _

end Call

/-! ## Any number of calls -/

namespace Session

/-- The session behind calls that are made one after the other. -/
def run (session : Session) (calls : List Call) : Session :=
  calls.foldl (fun session call => call.after session) session

theorem run_cons (session : Session) (call : Call) (calls : List Call) :
    session.run (call :: calls) = (call.after session).run calls :=
  rfl

/-- The login starts that calls get answered, in order. -/
def loginStarts (session : Session) : List Call → List Packet
  | [] => []
  | call :: calls => (call.loginStart? session).toList ++ (call.after session).loginStarts calls

theorem run_extends (session : Session) (calls : List Call) :
    session.player.cache.Extends (session.run calls).player.cache := by
  induction calls generalizing session with
  | nil => exact (Learns.refl _).extend
  | cons call calls ih =>
      intro consistent
      obtain ⟨middle, keeps⟩ := (call.after_learns session).extend consistent
      obtain ⟨last, keeps'⟩ := ih (call.after session) middle
      exact ⟨last, keeps.trans keeps'⟩

/-- As long as no login start is answered, no name is learned. -/
theorem run_unnamed {session : Session} {calls : List Call}
    (unanswered : session.loginStarts calls = []) :
    (session.run calls).player.cache.name = session.player.cache.name := by
  induction calls generalizing session with
  | nil => rfl
  | cons call calls ih =>
      obtain ⟨first, later⟩ := List.append_eq_nil_iff.1 unanswered
      have named := (call.after_learns session).named
      rw [Option.toList_eq_nil_iff.1 first] at named
      exact (ih later).trans named

/-- Behind a login start that was answered the name is the one it tells. -/
theorem run_named {session : Session} (consistent : session.player.cache.Consistent)
    {calls : List Call} {packet : Packet} (answered : packet ∈ session.loginStarts calls) :
    ∃ login, LoginStart.ofPacket packet = .ok login ∧
      (session.run calls).player.cache.name = some login.name := by
  induction calls generalizing session with
  | nil => cases answered
  | cons call calls ih =>
      obtain ⟨extend, named⟩ := call.after_learns session
      obtain ⟨middle, -⟩ := extend consistent
      rcases List.mem_append.1 answered with first | later
      · rw [Option.mem_toList.1 first] at named
        obtain ⟨login, decoded, name⟩ := named
        obtain ⟨-, keeps⟩ := (call.after session).run_extends calls middle
        exact ⟨login, decoded, keeps.name login.name name⟩
      · exact ih middle later

/-- **Calls keep what is known about a player, and answer from it.**  A new connection is used by
any calls, and then by any more.

* What is known was decoded from what is kept.
* What is in the cache stays there, and whatever is answered comes into it.
* Once a handshake packet is kept, all that is asked of the handshake is answered from that packet
  and without the stream, and with the same malformed handshake where it cannot be decoded.
* Once a login packet is kept, a login start is answered from that packet and without the stream.
* The name is unavailable until a login start is answered, and is then the one it tells. -/
theorem calls_keep_cache (peer : Peer) (remote localAddress : SocketAddress) (outbound : Outbound)
    (calls more : List Call) :
    let fresh : Session := { player := { peer, remote, localAddress }, outbound }
    let now := fresh.run calls
    let later := now.run more
    now.player.cache.Consistent ∧
    now.player.cache.Keeps later.player.cache ∧ now.player.KeepsAnswers ∧
    (∀ packet, now.player.cache.handshakePacket = some packet →
      later.player.AnswersHandshake packet ∧
        ∀ e, Handshake.ofPacket packet = .error e → ∃ fault, e = .malformedHandshake fault) ∧
    (∀ packet, now.player.cache.loginPacket = some packet → later.player.AnswersLogin packet) ∧
    (fresh.loginStarts calls = [] → now.player.name = .error .nameUnavailable) ∧
    ∀ packet ∈ fresh.loginStarts calls, ∃ login,
      LoginStart.ofPacket packet = .ok login ∧ now.player.name = .ok login.name := by
  intro fresh now later
  obtain ⟨consistent, -⟩ := fresh.run_extends calls consistent_empty
  obtain ⟨consistent', keeps⟩ := now.run_extends more consistent
  refine ⟨consistent, keeps, now.player.keepsAnswers, fun packet kept => ⟨?_, ?_⟩,
    fun packet kept => ?_, fun unanswered => ?_, fun packet answered => ?_⟩
  · exact Player.answersHandshake_of_kept consistent' (keeps.handshakePacket packet kept)
  · exact fun e => Handshake.ofPacket_eq_error
  · exact Player.answersLogin_of_kept (keeps.loginPacket packet kept)
  · have unknown : now.player.cache.name = none := run_unnamed unanswered
    simp only [Player.name, unknown]
  · obtain ⟨login, decoded, known⟩ := run_named consistent_empty answered
    have name : now.player.cache.name = some login.name := known
    exact ⟨login, decoded, by simp only [Player.name, name]⟩

end Session

end GameGateway
