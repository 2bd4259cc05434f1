import GameGateway.Proofs.Routing.RegistryLookup
import GameGateway.Proofs.Session.PlayerReads
import GameGateway.Proofs.Wire.HandshakeGrammar
import GameGateway.Routing.Gateway

/-!
# Dispatch

The first frame of a session and what addresses are bound to decide what becomes of it: it fails, it
is rejected, or one method of one backend is called once (`Gateway.decision`, `Gateway.Served`).  In
the first two cases nothing but that frame was read, and nothing was written or connected.

`Gateway.run_served` says so for every session of a gateway that serves any sessions while addresses
are registered and struck off.
-/

namespace GameGateway

theorem Handshake.ofPacket_eq_error {packet : Packet} {e : ProtocolError}
    (malformed : ofPacket packet = .error e) : ∃ fault, e = .malformedHandshake fault := by
  obtain ⟨fault, -, same⟩ := ofPacket_eq_error_iff.1 malformed
  exact ⟨fault, same⟩

namespace Gateway

/-! ## The decision -/

/-- What is to become of a session. -/
inductive Decision
  | unreadable (cause : ProtocolError)
  | malformed (cause : ProtocolError)
  | reject (reason : RejectReason)
  | status (backend : Backend)
  | login (backend : Backend)

/-- What a handshake decides.  A request that is not known is rejected before any address is looked
up. -/
def decideHandshake (lookup : String → Option Backend) (handshake : Handshake) : Decision :=
  let route (call : Backend → Decision) : Decision :=
    match lookup handshake.serverAddress with
    | some backend => call backend
    | none => .reject (.backendNotFound handshake.serverAddress)
  if handshake.nextState = 1 then route .status
  else if handshake.nextState = 2 then route .login
  else .reject (.unknownRequest handshake.nextState)

/-- What the first frame decides, and what comes behind it. -/
def decision (lookup : String → Option Backend) (feed : Feed) : Decision × Feed :=
  match feed.readPacket with
  | .error e behind => (.unreadable e, behind)
  | .ok packet behind =>
    match Handshake.ofPacket packet with
    | .error e => (.malformed e, behind)
    | .ok handshake => (decideHandshake lookup handshake, behind)

/-- The backend that is called. -/
def Decision.backend? : Decision → Option Backend
  | .status backend | .login backend => some backend
  | _ => none

/-- A backend that is called is that of the address in the first frame. -/
theorem decision_backend? {lookup : String → Option Backend} {feed : Feed} {backend : Backend}
    (called : (decision lookup feed).1.backend? = some backend) :
    ∃ packet handshake, feed.Starts packet (decision lookup feed).2 ∧
      Handshake.ofPacket packet = .ok handshake ∧
      lookup handshake.serverAddress = some backend := by
  unfold decision at called ⊢
  cases read : feed.readPacket with
  | error e left =>
      rw [read] at called
      cases called
  | ok packet left =>
      rw [read] at called
      cases shaken : Handshake.ofPacket packet with
      | error e =>
          simp only [shaken] at called
          cases called
      | ok handshake =>
          simp only [shaken] at called ⊢
          refine ⟨packet, handshake, Feed.readPacket_eq_ok_iff.1 read, shaken, ?_⟩
          unfold decideHandshake at called
          cases found : lookup handshake.serverAddress with
          | none =>
              simp only [found] at called
              split at called
              · cases called
              split at called <;> cases called
          | some other =>
              simp only [found] at called
              split at called
              · exact called
              split at called
              · exact called
              · cases called

/-- A session of which the player was read up to `behind`, and nothing else was done.  A packet that
was read is kept. -/
structure Heard (session : Session) (behind : Feed) (after : Session) : Prop where
  player : session.player.Advanced behind after.player
  kept : ∀ packet, session.player.peer.source.feed.Starts packet behind →
    after.player.cache.handshakePacket = some packet
  outbound : after.outbound = session.outbound

/-- The results of a session by its decision.  A backend is called at most once, with a session of
which only the first frame was read, and an outcome that says so stands behind its answer. -/
inductive Served (session : Session) (behind : Feed) :
    Decision → EStateM.Result GatewayError Session Outcome → Prop
  | unreadable {cause : ProtocolError} {after : Session} : Heard session behind after →
    Served session behind (.unreadable cause)
      (.error (.handshakeUnavailable cause) (handle.leave after))
  | malformed {fault : HandshakeFault} {after : Session} : Heard session behind after →
    Served session behind (.malformed (.malformedHandshake fault))
      (.error (.protocol (.malformedHandshake fault)) (handle.leave after))
  | rejected {reason : RejectReason} {after : Session} : Heard session behind after →
    Served session behind (.reject reason) (.ok (.rejected reason) (handle.leave after))
  | statusFailed {backend : Backend} {start after : Session} {e : GatewayError} :
    Heard session behind start → backend.status start = .error e after →
    Served session behind (.status backend) (.error e (handle.leave after))
  | statusUnserved {backend : Backend} {start after : Session} {response : Packet}
    {e : GatewayError} {player : Player} :
    Heard session behind start → backend.status start = .ok response after →
    answerStatus response after.player = .error e player →
    Served session behind (.status backend) (.error e (handle.leave { after with player }))
  | statusServed {backend : Backend} {start after : Session} {response : Packet}
    {player : Player} :
    Heard session behind start → backend.status start = .ok response after →
    answerStatus response after.player = .ok () player →
    Served session behind (.status backend) (.ok .status (handle.leave { after with player }))
  | loginFailed {backend : Backend} {start after : Session} {e : GatewayError} :
    Heard session behind start → backend.login start = .error e after →
    Served session behind (.login backend) (.error e (handle.leave after))
  | loginServed {backend : Backend} {start after : Session} :
    Heard session behind start → backend.login start = .ok () after →
    Served session behind (.login backend) (.ok .login (handle.leave after))

/-! ## One session -/

section Serve

variable {store : Store Backend} {session : Session} {player : Player} {handshake : Handshake}

/-- A player that shook hands gets the backend of its address, and is not read again. -/
theorem findBackend_known (store : Store Backend)
    (known : session.player.cache.handshake = some handshake) :
    ∃ noted, Player.Noted session.player noted ∧
      findBackend store session =
        .ok (store.lookup handshake.serverAddress) { session with player := noted } := by
  unfold findBackend Store.find?
  cases store with
  | single backend => exact ⟨_, .refl _, rfl⟩
  | byAddress registry =>
      rw [Player.serverAddress_cached known]
      simp only [Store.lookup]
      cases bound : registry.get? handshake.serverAddress with
      | some backend => exact ⟨_, .refl _, rfl⟩
      | none => exact ⟨_, .events _ _, rfl⟩

/-- A session goes to the backend of its address, or is rejected. -/
theorem dispatch_known (store : Store Backend)
    (call : Backend → EStateM GatewayError Session Outcome)
    (known : session.player.cache.handshake = some handshake) :
    ∃ noted, Player.Noted session.player noted ∧
      dispatch store handshake call session =
        match store.lookup handshake.serverAddress with
        | some backend => call backend { session with player := noted }
        | none => .ok (.rejected (.backendNotFound handshake.serverAddress))
            { session with player := noted } := by
  obtain ⟨noted, same, found⟩ := findBackend_known store known
  unfold dispatch
  rw [bind_ok found]
  cases store.lookup handshake.serverAddress with
  | some backend => exact ⟨_, same.trans (.events noted _), rfl⟩
  | none => exact ⟨_, same.trans (.events noted _), rfl⟩

theorem serve_of_error {e : GatewayError}
    (failed : Player.handshake session.player = .error e player) :
    serve store session = .error e { session with player } :=
  bind_error (Session.onPlayer_error failed)

theorem serve_of_ok (shaken : Player.handshake session.player = .ok handshake player) :
    serve store session = match handshake.requestType with
      | .unknown => reject (.unknownRequest handshake.nextState) { session with player }
      | .status => dispatch store handshake serveStatus { session with player }
      | .login => dispatch store handshake serveLogin { session with player } := by
  refine (bind_ok (Session.onPlayer_ok shaken)).trans ?_
  cases handshake.requestType <;> rfl

theorem Heard.noted {behind : Feed} {after : Session} {noted : Player}
    (heard : Heard session behind after) (same : Player.Noted after.player noted) :
    Heard session behind { after with player := noted } where
  player :=
    { feed := by rw [same.peer]; exact heard.player.feed
      sink := by rw [same.peer]; exact heard.player.sink
      remote := same.remote.trans heard.player.remote
      localAddress := same.localAddress.trans heard.player.localAddress
      loginPacket := by rw [same.cache]; exact heard.player.loginPacket }
  kept := by rw [same.cache]; exact heard.kept
  outbound := heard.outbound

theorem serveStatus_served {backend : Backend} {behind : Feed} {start : Session}
    (heard : Heard session behind start) :
    Served session behind (.status backend) (onState handle.leave (serveStatus backend start)) := by
  unfold serveStatus
  cases called : backend.status start with
  | error e after =>
      rw [bind_error called]
      exact .statusFailed heard called
  | ok response after =>
      rw [bind_ok called]
      cases answered : answerStatus response after.player with
      | error e player =>
          rw [bind_error (Session.onPlayer_error answered)]
          exact .statusUnserved heard called answered
      | ok u player =>
          rw [bind_ok (Session.onPlayer_ok answered)]
          exact .statusServed heard called answered

theorem serveLogin_served {backend : Backend} {behind : Feed} {start : Session}
    (heard : Heard session behind start) :
    Served session behind (.login backend) (onState handle.leave (serveLogin backend start)) := by
  unfold serveLogin
  cases called : backend.login start with
  | error e after =>
      rw [bind_error called]
      exact .loginFailed heard called
  | ok u after =>
      rw [bind_ok called]
      exact .loginServed heard called

theorem handle_eq (store : Store Backend) (session : Session) :
    handle store session = onState handle.leave (serve store session) := by
  unfold handle
  cases serve store session <;> rfl

/-- Behind a handshake the next-state number and the address decide. -/
theorem shaken_served {behind : Feed} {start : Session} (heard : Heard session behind start)
    (known : start.player.cache.handshake = some handshake) :
    Served session behind (decideHandshake store.lookup handshake)
      (onState handle.leave (match handshake.requestType with
        | .unknown => reject (.unknownRequest handshake.nextState) start
        | .status => dispatch store handshake serveStatus start
        | .login => dispatch store handshake serveLogin start)) := by
  unfold decideHandshake Handshake.requestType RequestType.ofNextState
  by_cases status : handshake.nextState = 1
  · rw [if_pos status, if_pos status]
    obtain ⟨noted, same, run⟩ := dispatch_known store serveStatus known
    simp only [run]
    cases store.lookup handshake.serverAddress with
    | some backend => exact serveStatus_served (heard.noted same)
    | none => exact .rejected (heard.noted same)
  rw [if_neg status, if_neg status]
  by_cases login : handshake.nextState = 2
  · rw [if_pos login, if_pos login]
    obtain ⟨noted, same, run⟩ := dispatch_known store serveLogin known
    simp only [run]
    cases store.lookup handshake.serverAddress with
    | some backend => exact serveLogin_served (heard.noted same)
    | none => exact .rejected (heard.noted same)
  · rw [if_neg login, if_neg login]
    exact .rejected (heard.noted (.events start.player _))

/-- One session is served as its first frame and the policy decide. -/
theorem handle_served (store : Store Backend) (session : Session)
    (fresh : session.player.cache = {}) :
    Served session (decision store.lookup session.player.peer.source.feed).2
      (decision store.lookup session.player.peer.source.feed).1 (handle store session) := by
  have undecoded : session.player.cache.handshake = none := by rw [fresh]
  have unread : session.player.cache.handshakePacket = none := by rw [fresh]
  rw [handle_eq]
  unfold decision
  rw [Source.readPacket_follows session.player.peer.source]
  cases read : session.player.peer.source.readPacket with
  | error e source =>
      have failed := Player.handshakePacket_error unread read
      rw [serve_of_error (Player.handshake_unread undecoded failed)]
      refine .unreadable ⟨⟨rfl, rfl, rfl, rfl, rfl⟩, fun packet starts => ?_, rfl⟩
      obtain ⟨after, same, -⟩ := Source.readPacket_of_starts starts
      rw [read] at same
      cases same
  | ok packet source =>
      have opened := Player.handshakePacket_ok unread read
      have kept : ∀ other, session.player.peer.source.feed.Starts other source.feed →
          some packet = some other := by
        intro other starts
        obtain ⟨after, same, -⟩ := Source.readPacket_of_starts starts
        rw [read] at same
        cases same
        rfl
      simp only [onState]
      cases shaken : Handshake.ofPacket packet with
      | error e =>
          obtain ⟨fault, rfl⟩ := Handshake.ofPacket_eq_error shaken
          rw [serve_of_error (Player.handshake_malformed undecoded opened shaken)]
          exact .malformed ⟨⟨rfl, rfl, rfl, rfl, rfl⟩, kept, rfl⟩
      | ok handshake =>
          rw [serve_of_ok (Player.handshake_ok undecoded opened shaken)]
          exact shaken_served ⟨⟨rfl, rfl, rfl, rfl, rfl⟩, kept, rfl⟩ rfl

end Serve

/-! ## Any sessions and changes -/

/-- One thing that happens to a gateway: an address is registered or struck off, or somebody
connects and is served. -/
inductive Move
  | add (address : String) (backend : Backend) (id : String)
  | remove (address : String)
  | connect (peer : Peer) (remote localAddress : SocketAddress)

/-- A gateway between two sessions. -/
structure World where
  store : Store Backend
  outbound : Outbound

namespace World

/-- A session with somebody who just connected. -/
def session (world : World) (peer : Peer) (remote localAddress : SocketAddress) : Session where
  player := { peer, remote, localAddress }
  outbound := world.outbound

/-- One thing happens. -/
def step (world : World) : Move → World
  | .add address backend id => { world with store := (world.store.register address backend id).1 }
  | .remove address => { world with store := (world.store.remove address).2.1 }
  | .connect peer remote localAddress =>
    { world with
      outbound := (stateOf (handle world.store (world.session peer remote localAddress))).outbound }

/-- One thing after the other happens. -/
def run (world : World) (moves : List Move) : World :=
  moves.foldl step world

end World

/-- What an address is bound to after something happened. -/
def Move.rebind (address : String) (bound : Option Backend) : Move → Option Backend
  | add other backend _ => if address = other then some backend else bound
  | remove other => if address = other then none else bound
  | connect _ _ _ => bound

/-- What an address is bound to in the end: what the latest change says, unless one backend serves
all addresses. -/
def bindings (store : Store Backend) (moves : List Move) (address : String) : Option Backend :=
  match store with
  | .single backend => backend
  | .byAddress registry => moves.foldl (Move.rebind address) (registry.get? address)

theorem bindings_step (world : World) (move : Move) (moves : List Move) :
    bindings (world.step move).store moves = bindings world.store (move :: moves) := by
  funext address
  obtain ⟨store, outbound⟩ := world
  cases store with
  | single backend => cases move <;> rfl
  | byAddress registry =>
      cases move with
      | add other backend id =>
          exact congrArg (moves.foldl (Move.rebind address))
            (registry.get?_insert other backend address)
      | remove other =>
          exact congrArg (moves.foldl (Move.rebind address)) (registry.get?_erase other address)
      | connect peer remote localAddress => rfl

theorem run_lookup (world : World) (moves : List Move) :
    (world.run moves).store.lookup = bindings world.store moves := by
  induction moves generalizing world with
  | nil =>
      obtain ⟨store, outbound⟩ := world
      cases store <;> rfl
  | cons move moves ih =>
      rw [← bindings_step]
      exact ih (world.step move)

/-- **Whatever happened before, a session is served as its first frame and the latest bindings of
addresses decide.** -/
theorem run_served (world : World) (moves : List Move) (peer : Peer)
    (remote localAddress : SocketAddress) :
    let session := (world.run moves).session peer remote localAddress
    let decided := decision (bindings world.store moves) peer.source.feed
    Served session decided.2 decided.1 (handle (world.run moves).store session) := by
  intro session decided
  have served := handle_served (world.run moves).store session rfl
  rw [run_lookup] at served
  exact served

end Gateway

end GameGateway
