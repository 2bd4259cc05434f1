import GameGateway.Proofs.Stream.PacketDelivery
import GameGateway.Session.Outbound

/-!
# Reads on a player's connection

A packet read on a player's connection is a read on its source and changes nothing else.  The
handshake packet and the login packet are read where they are not known yet and answered from the
cache where they are; what is decoded goes into the cache as well.
-/

namespace GameGateway

namespace Player

/-- A player whose stream has been read up to `source`. -/
def withSource (player : Player) (source : Source) : Player :=
  { player with peer := { player.peer with source } }

/-- A player that differs from another one at most in what was reported. -/
structure Noted (player after : Player) : Prop where
  peer : after.peer = player.peer
  remote : after.remote = player.remote
  localAddress : after.localAddress = player.localAddress
  cache : after.cache = player.cache

theorem Noted.refl (player : Player) : Noted player player := ⟨rfl, rfl, rfl, rfl⟩

theorem Noted.trans {a b c : Player} (first : Noted a b) (second : Noted b c) : Noted a c :=
  ⟨second.peer.trans first.peer, second.remote.trans first.remote,
    second.localAddress.trans first.localAddress, second.cache.trans first.cache⟩

theorem Noted.events (player : Player) (events : List Event) :
    Noted player { player with events } := ⟨rfl, rfl, rfl, rfl⟩

section Read

variable {player : Player} {source : Source} {packet : Packet} {e : ProtocolError}

theorem readPacket_ok (run : player.peer.source.readPacket = .ok packet source) :
    player.readPacket = .ok packet (player.withSource source) := by
  simp [readPacket, onPeer, Peer.readPacket, Peer.onSource, run, withSource]

theorem readPacket_error (run : player.peer.source.readPacket = .error e source) :
    player.readPacket = .error e (player.withSource source) := by
  simp [readPacket, onPeer, Peer.readPacket, Peer.onSource, run, withSource]

/-! ## The handshake packet -/

theorem handshakePacket_cached (known : player.cache.handshakePacket = some packet) :
    handshakePacket player = .ok packet player := by
  simp only [handshakePacket, bind_get, known]
  rfl

theorem handshakePacket_ok (unknown : player.cache.handshakePacket = none)
    (run : player.peer.source.readPacket = .ok packet source) :
    handshakePacket player = .ok packet
      { player.withSource source with
        cache := { player.cache with handshakePacket := some packet } } := by
  simp only [handshakePacket, bind_get, unknown]
  rw [bind_ok (adaptExcept_ok _ (readPacket_ok run)), bind_modify]
  rfl

theorem handshakePacket_error (unknown : player.cache.handshakePacket = none)
    (run : player.peer.source.readPacket = .error e source) :
    handshakePacket player = .error (.handshakeUnavailable e) (player.withSource source) := by
  simp only [handshakePacket, bind_get, unknown]
  exact bind_error (adaptExcept_error _ (readPacket_error run))

theorem handshake_ok {after : Player} {handshake : Handshake}
    (undecoded : player.cache.handshake = none) (read : handshakePacket player = .ok packet after)
    (decoded : Handshake.ofPacket packet = .ok handshake) :
    Player.handshake player = .ok handshake
      { after with
        events := .handshakeDecoded handshake :: after.events
        cache := { after.cache with handshake := some handshake } } := by
  simp only [Player.handshake, bind_get, undecoded]
  rw [bind_ok read]
  simp only [decoded, note, bind_modify]
  rfl

theorem handshake_malformed {after : Player} (undecoded : player.cache.handshake = none)
    (read : handshakePacket player = .ok packet after)
    (malformed : Handshake.ofPacket packet = .error e) :
    Player.handshake player = .error (.protocol e) after := by
  simp only [Player.handshake, bind_get, undecoded]
  rw [bind_ok read]
  simp only [malformed]
  rfl

theorem handshake_unread {after : Player} {e : GatewayError}
    (undecoded : player.cache.handshake = none) (unread : handshakePacket player = .error e after) :
    Player.handshake player = .error e after := by
  simp only [Player.handshake, bind_get, undecoded]
  exact bind_error unread

/-- A player that shook hands is not read again for the address. -/
theorem serverAddress_cached {handshake : Handshake}
    (known : player.cache.handshake = some handshake) :
    serverAddress player = .ok handshake.serverAddress player := by
  simp only [serverAddress, Player.handshake, Functor.map, EStateM.map, bind_get, known]
  rfl

/-- The handshake packet of a connection, read already or still to be read, and what the stream
sends behind it. -/
def Opens (player : Player) (handshake : Packet) (behind : Feed) : Prop :=
  match player.cache.handshakePacket with
  | some packet => packet = handshake ∧ player.peer.source.feed = behind
  | none => player.peer.source.feed.Starts handshake behind

/-- A player that was read on up to `behind`, and nothing else. -/
structure Advanced (player : Player) (behind : Feed) (after : Player) : Prop where
  feed : after.peer.source.feed = behind
  sink : after.peer.sink = player.peer.sink
  remote : after.remote = player.remote
  localAddress : after.localAddress = player.localAddress
  loginPacket : after.cache.loginPacket = player.cache.loginPacket

theorem handshakePacket_of_opens {handshake : Packet} {behind : Feed}
    (opens : player.Opens handshake behind) :
    ∃ after, handshakePacket player = .ok handshake after ∧ player.Advanced behind after := by
  unfold Opens at opens
  cases known : player.cache.handshakePacket with
  | some packet =>
      rw [known] at opens
      obtain ⟨rfl, rfl⟩ := opens
      exact ⟨player, handshakePacket_cached known, rfl, rfl, rfl, rfl, rfl⟩
  | none =>
      rw [known] at opens
      obtain ⟨source, read, rfl⟩ := Source.readPacket_of_starts opens
      exact ⟨_, handshakePacket_ok known read, rfl, rfl, rfl, rfl, rfl⟩

theorem handshakePacket_of_not_opens
    (nothing : ∀ handshake behind, ¬ player.Opens handshake behind) :
    ∃ e source, player.peer.source.readPacket = .error e source ∧
      handshakePacket player = .error (.handshakeUnavailable e) (player.withSource source) := by
  unfold Opens at nothing
  cases known : player.cache.handshakePacket with
  | some packet =>
      rw [known] at nothing
      exact absurd ⟨rfl, rfl⟩ (nothing packet player.peer.source.feed)
  | none =>
      rw [known] at nothing
      cases read : player.peer.source.readPacket with
      | ok packet source =>
          exact absurd (Source.starts_of_readPacket read) (nothing packet source.feed)
      | error e source => exact ⟨e, source, rfl, handshakePacket_error known read⟩

/-! ## The login -/

theorem loginPacket_ok (unknown : player.cache.loginPacket = none)
    (run : player.peer.source.readPacket = .ok packet source) :
    loginPacket player = .ok packet
      { player.withSource source with
        cache := { player.cache with loginPacket := some packet } } := by
  simp only [loginPacket, bind_get, unknown]
  rw [bind_ok (adaptExcept_ok _ (readPacket_ok run)), bind_modify]
  rfl

theorem loginPacket_error (unknown : player.cache.loginPacket = none)
    (run : player.peer.source.readPacket = .error e source) :
    loginPacket player = .error (.protocol e) (player.withSource source) := by
  simp only [loginPacket, bind_get, unknown]
  exact bind_error (adaptExcept_error _ (readPacket_error run))

theorem loginStart_ok {login : LoginStart} (unknown : player.cache.loginPacket = none)
    (run : player.peer.source.readPacket = .ok packet source)
    (decoded : LoginStart.ofPacket packet = .ok login) :
    loginStart player = .ok packet
      { player.withSource source with
        cache := { player.cache with loginPacket := some packet, name := some login.name } } := by
  unfold loginStart
  rw [bind_ok (loginPacket_ok unknown run)]
  simp only [decoded, bind_modify]
  rfl

/-- A login that cannot be read or decoded fails and leaves the sink alone. -/
theorem loginStart_error (unknown : player.cache.loginPacket = none)
    (unusable : ∀ packet source login, player.peer.source.readPacket = .ok packet source →
      LoginStart.ofPacket packet ≠ .ok login) :
    ∃ e after, loginStart player = .error e after ∧ after.peer.sink = player.peer.sink := by
  unfold loginStart
  cases run : player.peer.source.readPacket with
  | error e source =>
      rw [bind_error (loginPacket_error unknown run)]
      exact ⟨_, _, rfl, rfl⟩
  | ok packet source =>
      rw [bind_ok (loginPacket_ok unknown run)]
      cases decoded : LoginStart.ofPacket packet with
      | error e => exact ⟨_, _, rfl, rfl⟩
      | ok login => exact absurd decoded (unusable packet source login run)

end Read

end Player

namespace Session

variable {ε α : Type} {act : EStateM ε Player α} {player : Player}

theorem onPlayer_ok {session : Session} {a : α} (run : act session.player = .ok a player) :
    onPlayer act session = .ok a { session with player } := by
  simp only [onPlayer, run]

theorem onPlayer_error {session : Session} {e : ε} (run : act session.player = .error e player) :
    onPlayer act session = .error e { session with player } := by
  simp only [onPlayer, run]

end Session

end GameGateway
