import GameGateway.Proofs.Session.PlayerReads

/-!
# What is kept about a player

The four parts of a player's cache are filled at different moments, but never in the wrong order and
never twice: what is known of a packet is what the packet says, and a part that is filled stays as
it is.  `PlayerCache.Learns` says so of a change of the cache, and that a name is learned with a
login start that is answered.  It is what every operation on a player's connection does, however it
ends.

Whatever is answered is kept (`Player.KeepsAnswers`).  Once a packet is kept, the operations that
ask for it answer from it and leave the stream alone (`Player.AnswersHandshake`,
`Player.AnswersLogin`).
-/

namespace GameGateway

/-! ## Changes of the cache -/

namespace PlayerCache

/-- What is known was decoded from what is kept. -/
structure Consistent (cache : PlayerCache) : Prop where
  handshake : ∀ handshake, cache.handshake = some handshake →
    ∃ packet, cache.handshakePacket = some packet ∧ Handshake.ofPacket packet = .ok handshake
  name : ∀ name, cache.name = some name →
    ∃ packet login, cache.loginPacket = some packet ∧ LoginStart.ofPacket packet = .ok login ∧
      login.name = name

theorem consistent_empty : Consistent {} :=
  ⟨nofun, nofun⟩

/-- Whatever is in a cache is in a later one as well. -/
structure Keeps (cache later : PlayerCache) : Prop where
  handshakePacket : ∀ packet, cache.handshakePacket = some packet →
    later.handshakePacket = some packet
  handshake : ∀ handshake, cache.handshake = some handshake → later.handshake = some handshake
  loginPacket : ∀ packet, cache.loginPacket = some packet → later.loginPacket = some packet
  name : ∀ name, cache.name = some name → later.name = some name

theorem Keeps.refl (cache : PlayerCache) : Keeps cache cache :=
  ⟨fun _ => id, fun _ => id, fun _ => id, fun _ => id⟩

theorem Keeps.trans {a b c : PlayerCache} (first : Keeps a b) (second : Keeps b c) : Keeps a c where
  handshakePacket packet known := second.handshakePacket packet (first.handshakePacket packet known)
  handshake handshake known := second.handshake handshake (first.handshake handshake known)
  loginPacket packet known := second.loginPacket packet (first.loginPacket packet known)
  name name known := second.name name (first.name name known)

/-- A change that keeps a consistent cache consistent, and keeps what it holds. -/
def Extends (cache later : PlayerCache) : Prop :=
  cache.Consistent → later.Consistent ∧ cache.Keeps later

/-- What becomes of the name where a login start is answered, and where none is. -/
def Named (cache : PlayerCache) : (answer : Option Packet) → (later : PlayerCache) → Prop
  | none, later => later.name = cache.name
  | some packet, later =>
    ∃ login, LoginStart.ofPacket packet = .ok login ∧ later.name = some login.name

/-- What an operation may do to the cache if it answers this login start, or none. -/
structure Learns (cache : PlayerCache) (answer : Option Packet) (later : PlayerCache) : Prop where
  extend : cache.Extends later
  named : cache.Named answer later

namespace Learns

variable {cache : PlayerCache} {packet : Packet}

theorem refl (cache : PlayerCache) : Learns cache none cache :=
  ⟨fun consistent => ⟨consistent, .refl cache⟩, rfl⟩

/-- Nothing that comes before a login start bears on the name that it tells. -/
theorem trans {a b c : PlayerCache} {answer : Option Packet} (first : Learns a none b)
    (second : Learns b answer c) : Learns a answer c := by
  refine ⟨fun consistent => ?_, ?_⟩
  · obtain ⟨middle, keeps⟩ := first.extend consistent
    obtain ⟨last, keeps'⟩ := second.extend middle
    exact ⟨last, keeps.trans keeps'⟩
  · cases answer with
    | none => exact Eq.trans second.named first.named
    | some packet => exact second.named

theorem handshakePacket (unknown : cache.handshakePacket = none) (packet : Packet) :
    Learns cache none { cache with handshakePacket := some packet } := by
  refine ⟨fun consistent => ⟨⟨fun handshake known => ?_, consistent.name⟩, ?_⟩, rfl⟩
  · obtain ⟨_, kept, -⟩ := consistent.handshake handshake known
    rw [unknown] at kept
    cases kept
  · refine ⟨fun _ known => ?_, fun _ => id, fun _ => id, fun _ => id⟩
    rw [unknown] at known
    cases known

theorem handshake {handshake : Handshake} (kept : cache.handshakePacket = some packet)
    (decoded : Handshake.ofPacket packet = .ok handshake) :
    Learns cache none { cache with handshake := some handshake } := by
  refine ⟨fun consistent => ⟨⟨fun _ known => ?_, consistent.name⟩, ?_⟩, rfl⟩
  · obtain rfl := Option.some.inj known
    exact ⟨packet, kept, decoded⟩
  · refine ⟨fun _ => id, fun _ known => ?_, fun _ => id, fun _ => id⟩
    -- a handshake that was known was decoded from the same packet
    obtain ⟨_, same, before⟩ := consistent.handshake _ known
    obtain rfl := Option.some.inj (kept.symm.trans same)
    obtain rfl := Except.ok.inj (decoded.symm.trans before)
    rfl

theorem loginPacket (unknown : cache.loginPacket = none) (packet : Packet) :
    Learns cache none { cache with loginPacket := some packet } := by
  refine ⟨fun consistent => ⟨⟨consistent.handshake, fun name known => ?_⟩, ?_⟩, rfl⟩
  · obtain ⟨_, _, kept, -⟩ := consistent.name name known
    rw [unknown] at kept
    cases kept
  · refine ⟨fun _ => id, fun _ => id, fun _ known => ?_, fun _ => id⟩
    rw [unknown] at known
    cases known

theorem name {login : LoginStart} (kept : cache.loginPacket = some packet)
    (decoded : LoginStart.ofPacket packet = .ok login) :
    Learns cache (some packet) { cache with name := some login.name } := by
  refine ⟨fun consistent => ⟨⟨consistent.handshake, fun _ known => ?_⟩, ?_⟩, login, decoded, rfl⟩
  · exact ⟨packet, login, kept, decoded, Option.some.inj known⟩
  · refine ⟨fun _ => id, fun _ => id, fun _ => id, fun _ known => ?_⟩
    obtain ⟨_, _, same, before, rfl⟩ := consistent.name _ known
    obtain rfl := Option.some.inj (kept.symm.trans same)
    obtain rfl := Except.ok.inj (decoded.symm.trans before)
    rfl

end Learns

end PlayerCache

namespace Player

variable {ε α : Type} {player after : Player} {packet : Packet}

/-! ## Operations on the connection -/

/-- Nothing that happens on the stream reaches the cache. -/
theorem onPeer_cache (act : EStateM ε Peer α) (player : Player) :
    (stateOf (onPeer act player)).cache = player.cache := by
  unfold onPeer
  cases act player.peer <;> rfl

/-- The handshake packet is kept where it is answered, and nothing else changes in the cache. -/
theorem handshakePacket_spec (player : Player) :
    player.cache.Learns none (stateOf (handshakePacket player)).cache ∧
      ∀ packet, answerOf (handshakePacket player) = some packet →
        (stateOf (handshakePacket player)).cache.handshakePacket = some packet := by
  cases known : player.cache.handshakePacket with
  | some packet =>
      rw [handshakePacket_cached known]
      exact ⟨.refl _, fun _ same => known.trans same⟩
  | none =>
      cases read : player.peer.source.readPacket with
      | ok packet source =>
          rw [handshakePacket_ok known read]
          exact ⟨.handshakePacket known packet, fun _ same => same⟩
      | error e source =>
          rw [handshakePacket_error known read]
          exact ⟨.refl _, nofun⟩

theorem handshake_cached {handshake : Handshake} (known : player.cache.handshake = some handshake) :
    Player.handshake player = .ok handshake player := by
  simp only [Player.handshake, bind_get, known]
  rfl

theorem handshake_learns (player : Player) :
    player.cache.Learns none (stateOf (handshake player)).cache := by
  cases known : player.cache.handshake with
  | some handshake =>
      rw [handshake_cached known]
      exact .refl _
  | none =>
      obtain ⟨learns, kept⟩ := handshakePacket_spec player
      cases read : handshakePacket player with
      | error e after =>
          rw [read] at learns
          rw [handshake_unread known read]
          exact learns
      | ok packet after =>
          rw [read] at learns kept
          cases decoded : Handshake.ofPacket packet with
          | error e =>
              rw [handshake_malformed known read decoded]
              exact learns
          | ok handshake =>
              rw [handshake_ok known read decoded]
              exact learns.trans (.handshake (kept packet rfl) decoded)

theorem loginPacket_cached (known : player.cache.loginPacket = some packet) :
    loginPacket player = .ok packet player := by
  simp only [loginPacket, bind_get, known]
  rfl

/-- The login packet is kept where it is answered, and nothing else changes in the cache. -/
theorem loginPacket_spec (player : Player) :
    player.cache.Learns none (stateOf (loginPacket player)).cache ∧
      ∀ packet, answerOf (loginPacket player) = some packet →
        (stateOf (loginPacket player)).cache.loginPacket = some packet := by
  cases known : player.cache.loginPacket with
  | some packet =>
      rw [loginPacket_cached known]
      exact ⟨.refl _, fun _ same => known.trans same⟩
  | none =>
      cases read : player.peer.source.readPacket with
      | ok packet source =>
          rw [loginPacket_ok known read]
          exact ⟨.loginPacket known packet, fun _ same => same⟩
      | error e source =>
          rw [loginPacket_error known read]
          exact ⟨.refl _, nofun⟩

theorem loginStart_unread {e : GatewayError} (unread : loginPacket player = .error e after) :
    loginStart player = .error e after :=
  bind_error unread

theorem loginStart_malformed {e : ProtocolError} (read : loginPacket player = .ok packet after)
    (malformed : LoginStart.ofPacket packet = .error e) :
    loginStart player = .error (.protocol e) after := by
  unfold loginStart
  rw [bind_ok read]
  simp only [malformed]
  rfl

theorem loginStart_decoded {login : LoginStart} (read : loginPacket player = .ok packet after)
    (decoded : LoginStart.ofPacket packet = .ok login) :
    loginStart player = .ok packet
      { after with cache := { after.cache with name := some login.name } } := by
  unfold loginStart
  rw [bind_ok read]
  simp only [decoded, bind_modify]
  rfl

/-- A login start learns the name if it is answered, and no name if it is not. -/
theorem loginStart_learns (player : Player) :
    player.cache.Learns (answerOf (loginStart player)) (stateOf (loginStart player)).cache := by
  obtain ⟨learns, kept⟩ := loginPacket_spec player
  cases read : loginPacket player with
  | error e after =>
      rw [read] at learns
      rw [loginStart_unread read]
      exact learns
  | ok packet after =>
      rw [read] at learns kept
      cases decoded : LoginStart.ofPacket packet with
      | error e =>
          rw [loginStart_malformed read decoded]
          exact learns
      | ok login =>
          rw [loginStart_decoded read decoded]
          exact learns.trans (.name (kept packet rfl) decoded)

/-! ## Answers that are kept -/

/-- A player of whom whatever is answered is kept: the handshake packet and the handshake, and the
login packet also where the login start fails because it tells no name. -/
structure KeepsAnswers (player : Player) : Prop where
  handshakePacket : ∀ packet, answerOf (Player.handshakePacket player) = some packet →
    (stateOf (Player.handshakePacket player)).cache.handshakePacket = some packet
  handshake : ∀ handshake, answerOf (Player.handshake player) = some handshake →
    (stateOf (Player.handshake player)).cache.handshake = some handshake
  loginPacket : ∀ packet, answerOf (loginPacket player) = some packet →
    (stateOf (loginStart player)).cache.loginPacket = some packet

theorem keepsAnswers (player : Player) : player.KeepsAnswers where
  handshakePacket := (handshakePacket_spec player).2
  handshake := by
    intro handshake answered
    cases known : player.cache.handshake with
    | some before =>
        rw [handshake_cached known] at answered ⊢
        exact known.trans answered
    | none =>
        cases read : Player.handshakePacket player with
        | error e after =>
            rw [handshake_unread known read] at answered
            cases answered
        | ok packet after =>
            cases decoded : Handshake.ofPacket packet with
            | error e =>
                rw [handshake_malformed known read decoded] at answered
                cases answered
            | ok said =>
                rw [handshake_ok known read decoded] at answered ⊢
                exact answered
  loginPacket := by
    intro packet answered
    have kept := (loginPacket_spec player).2 packet answered
    cases read : loginPacket player with
    | error e after =>
        rw [read] at answered
        cases answered
    | ok found after =>
        rw [read] at kept
        cases decoded : LoginStart.ofPacket found with
        | error e =>
            rw [loginStart_malformed read decoded]
            exact kept
        | ok login =>
            rw [loginStart_decoded read decoded]
            exact kept

/-! ## Answers from the cache -/

/-- An answer that is taken from a packet, with no look at the stream. -/
def fromPacket (answer : Except ProtocolError α) : EStateM GatewayError Peer α :=
  (MonadExcept.ofExcept answer : EStateM ProtocolError Peer α).adaptExcept .protocol

/-- A player who answers all that a handshake packet says from that packet, and leaves the stream
alone. -/
structure AnswersHandshake (player : Player) (packet : Packet) : Prop where
  handshakePacket : Player.handshakePacket player = .ok packet player
  handshake : onState Player.peer (Player.handshake player) =
    fromPacket (Handshake.ofPacket packet) player.peer
  requestType : onState Player.peer (Player.requestType player) =
    fromPacket (Handshake.requestType <$> Handshake.ofPacket packet) player.peer
  serverAddress : onState Player.peer (Player.serverAddress player) =
    fromPacket (Handshake.serverAddress <$> Handshake.ofPacket packet) player.peer

/-- A player who answers a login start from a packet, if it tells a name, and leaves the stream
alone. -/
def AnswersLogin (player : Player) (packet : Packet) : Prop :=
  onState Player.peer (loginStart player) =
    fromPacket ((fun _ => packet) <$> LoginStart.ofPacket packet) player.peer

/-- What is asked of a handshake is answered as the handshake is. -/
theorem map_handshake_eq (f : Handshake → α)
    (answers : onState Player.peer (handshake player) =
      fromPacket (Handshake.ofPacket packet) player.peer) :
    onState Player.peer ((f <$> handshake) player) =
      fromPacket (f <$> Handshake.ofPacket packet) player.peer := by
  simp only [Functor.map, EStateM.map]
  cases run : handshake player with
  | ok handshake after =>
      cases decoded : Handshake.ofPacket packet with
      | ok said =>
          rw [run, decoded] at answers
          injection answers with same peer
          rw [same]
          exact congrArg (EStateM.Result.ok (f said)) peer
      | error e =>
          rw [run, decoded] at answers
          cases answers
  | error e after =>
      cases decoded : Handshake.ofPacket packet with
      | ok said =>
          rw [run, decoded] at answers
          cases answers
      | error e' =>
          rw [run, decoded] at answers
          injection answers with same peer
          rw [same]
          exact congrArg (EStateM.Result.error (GatewayError.protocol e')) peer

theorem answersHandshake_of_kept (consistent : player.cache.Consistent)
    (kept : player.cache.handshakePacket = some packet) : player.AnswersHandshake packet := by
  have read := handshakePacket_cached kept
  have shaken : onState Player.peer (handshake player) =
      fromPacket (Handshake.ofPacket packet) player.peer := by
    cases known : player.cache.handshake with
    | some handshake =>
        obtain ⟨_, same, decoded⟩ := consistent.handshake handshake known
        obtain rfl := Option.some.inj (kept.symm.trans same)
        rw [handshake_cached known, decoded]
        rfl
    | none =>
        cases decoded : Handshake.ofPacket packet with
        | error e =>
            rw [handshake_malformed known read decoded]
            rfl
        | ok handshake =>
            rw [handshake_ok known read decoded]
            rfl
  exact ⟨read, shaken, map_handshake_eq _ shaken, map_handshake_eq _ shaken⟩

theorem answersLogin_of_kept (kept : player.cache.loginPacket = some packet) :
    player.AnswersLogin packet := by
  unfold AnswersLogin
  have read := loginPacket_cached kept
  cases decoded : LoginStart.ofPacket packet with
  | error e =>
      rw [loginStart_malformed read decoded]
      rfl
  | ok login =>
      rw [loginStart_decoded read decoded]
      rfl

end Player

end GameGateway
