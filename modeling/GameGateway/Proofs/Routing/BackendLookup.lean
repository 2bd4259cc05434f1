import GameGateway.Proofs.Routing.PlayerCalls

/-!
# Finding the backend of a connection

A policy that goes by address asks the connection for its handshake.  Where that comes from depends
on what the connection was used for before: it may be known already, its packet may be kept, or it
is still on the stream.  As long as the cache is consistent, all this comes down to the handshake
packet: it says what is found, and only reading it touches the stream (`Player.handshake_spec`,
`Routed.search_spec`).

A `Use` is a call on the connection, a search for its backend, or a change of the policy.  No use
spoils the cache (`Use.after_extends`), so `Routed.finds_on_any_connection` holds of every
connection that was used in any way.
-/

namespace GameGateway

open PlayerCache

variable {β : Type}

namespace Registry

/-- An address has the backend that is registered under the same bytes. -/
theorem get?_eq_some_iff (registry : Registry β) (address : String) (backend : β) :
    registry.get? address = some backend ↔
      ∃ key, (key, backend) ∈ registry.entries ∧ Utf8.encode key = Utf8.encode address := by
  rw [get?, List.lookup_eq_some_iff]
  constructor
  · intro bound
    rcases bound with ⟨before, behind, split, -⟩
    refine ⟨address, ?_, rfl⟩
    rw [split]
    exact List.mem_append_right before List.mem_cons_self
  · intro listed
    rcases listed with ⟨key, registered, same⟩
    obtain rfl := Utf8.encode_inj.1 same
    obtain ⟨before, behind, split⟩ := List.append_of_mem registered
    refine ⟨before, behind, split, fun entry member => ?_⟩
    -- what stands in front of an entry comes before it, so it is under other bytes
    have ascending := registry.ascending
    rw [split, List.pairwise_append] at ascending
    have earlier : Before entry.1 key := ascending.2.2 entry member _ List.mem_cons_self
    refine bne_iff_ne.2 ?_
    intro shared
    rw [shared] at earlier
    exact List.lt_irrefl _ earlier

example :
    let registry : Registry Nat := insert {} "a.b" 1
    ["a.b", "A.b", "a.b.", " a.b", "a.b:25565", "*", ""].map registry.get? =
      [some 1, none, none, none, none, none, none] := by
  decide

/-- The backend that a handshake packet asks for, if it can be decoded. -/
def route? (registry : Registry β) (packet : Packet) : Option β :=
  (Handshake.ofPacket packet).toOption.bind fun handshake => registry.get? handshake.serverAddress

end Registry

/-! ## Asking for the handshake -/

namespace Player

variable {player : Player} {packet : Packet}

/-- The handshake packet that is answered is the one that the connection opens with. -/
theorem answerOf_handshakePacket_iff :
    answerOf (handshakePacket player) = some packet ↔ ∃ behind, player.Opens packet behind := by
  constructor
  · intro answered
    by_cases opens : ∃ handshake behind, player.Opens handshake behind
    · obtain ⟨handshake, behind, opens⟩ := opens
      obtain ⟨after, read, -⟩ := handshakePacket_of_opens opens
      rw [read] at answered
      obtain rfl := Option.some.inj answered
      exact ⟨behind, opens⟩
    · obtain ⟨e, source, -, failed⟩ := handshakePacket_of_not_opens
        fun handshake behind found => opens ⟨handshake, behind, found⟩
      rw [failed] at answered
      cases answered
  · intro opens
    rcases opens with ⟨behind, opens⟩
    obtain ⟨after, read, -⟩ := handshakePacket_of_opens opens
    rw [read]
    rfl

/-- A handshake packet that is not kept is looked for with one packet read. -/
theorem handshakePacket_peer (unknown : player.cache.handshakePacket = none) :
    (stateOf (handshakePacket player)).peer =
      { player.peer with source := stateOf player.peer.source.readPacket } := by
  cases read : player.peer.source.readPacket with
  | ok packet source =>
      rw [handshakePacket_ok unknown read]
      rfl
  | error e source =>
      rw [handshakePacket_error unknown read]
      rfl

/-- Asking for the handshake is asking for its packet: it does the same to the stream, keeps the
same packet, and answers what the packet says. -/
theorem handshake_spec (consistent : player.cache.Consistent) :
    answerOf (handshake player) =
        (answerOf (handshakePacket player)).bind (fun packet =>
          (Handshake.ofPacket packet).toOption) ∧
      (stateOf (handshake player)).peer = (stateOf (handshakePacket player)).peer ∧
      (stateOf (handshake player)).cache.handshakePacket =
        (stateOf (handshakePacket player)).cache.handshakePacket := by
  cases known : player.cache.handshake with
  | some handshake =>
      obtain ⟨packet, kept, decoded⟩ := consistent.handshake handshake known
      rw [handshake_cached known, handshakePacket_cached kept]
      refine ⟨?_, rfl, rfl⟩
      simp only [answerOf, Option.bind_some, decoded]
      rfl
  | none =>
      cases read : handshakePacket player with
      | error e after =>
          rw [handshake_unread known read]
          exact ⟨rfl, rfl, rfl⟩
      | ok packet after =>
          cases decoded : Handshake.ofPacket packet with
          | error e =>
              rw [handshake_malformed known read decoded]
              simp only [answerOf, Option.bind_some, decoded]
              exact ⟨rfl, rfl, rfl⟩
          | ok handshake =>
              rw [handshake_ok known read decoded]
              simp only [answerOf, Option.bind_some, decoded]
              exact ⟨rfl, rfl, rfl⟩

end Player

/-! ## A search -/

namespace Store

/-- A policy that goes by address asks for the handshake, and otherwise only reports. -/
theorem find?_byAddress (registry : Registry β) (player : Player) :
    ((byAddress registry).find? player).1 = (answerOf (Player.handshake player)).bind
        (fun handshake => registry.get? handshake.serverAddress) ∧
      (stateOf (Player.handshake player)).Noted ((byAddress registry).find? player).2 := by
  unfold find? Player.serverAddress
  simp only [Functor.map, EStateM.map]
  cases Player.handshake player with
  | error e after => exact ⟨rfl, .events _ _⟩
  | ok handshake after =>
      cases bound : registry.get? handshake.serverAddress with
      | some backend =>
          simp only [bound]
          exact ⟨bound.symm, .refl _⟩
      | none =>
          simp only [bound]
          exact ⟨bound.symm, .events _ _⟩

theorem find?_extends (store : Store β) (player : Player) :
    player.cache.Extends (store.find? player).2.cache := by
  cases store with
  | single backend => exact (Learns.refl player.cache).extend
  | byAddress registry =>
      rw [(find?_byAddress registry player).2.cache]
      exact (Player.handshake_learns player).extend

end Store

/-! ## Any uses of a connection -/

/-- A session, and the policy that finds its backend. -/
structure Routed (β : Type) where
  store : Store β
  session : Session

/-- One use of a connection and its policy. -/
inductive Use (β : Type)
  | call (call : Call)
  | find
  /-- The policy is changed, or another one is asked from here on. -/
  | install (store : Store β)

namespace Routed

/-- The player whose backend is looked for. -/
abbrev player (routed : Routed β) : Player := routed.session.player

/-- The backend that is found. -/
def found (routed : Routed β) : Option β :=
  (routed.store.find? routed.player).1

/-- What is there once the backend was looked for. -/
def searched (routed : Routed β) : Routed β :=
  { routed with session := { routed.session with player := (routed.store.find? routed.player).2 } }

end Routed

/-- What a use makes of a session and its policy. -/
def Use.after : Use β → Routed β → Routed β
  | call made, routed => { routed with session := made.after routed.session }
  | find, routed => routed.searched
  | install store, routed => { routed with store }

theorem Use.after_extends (use : Use β) (routed : Routed β) :
    routed.player.cache.Extends (use.after routed).player.cache := by
  cases use with
  | call made => exact (made.after_learns routed.session).extend
  | find => exact routed.store.find?_extends routed.player
  | install store => exact (Learns.refl routed.player.cache).extend

namespace Routed

/-- A session and its policy behind uses that are made one after the other. -/
def run (routed : Routed β) (uses : List (Use β)) : Routed β :=
  uses.foldl (fun routed use => use.after routed) routed

theorem run_extends (routed : Routed β) (uses : List (Use β)) :
    routed.player.cache.Extends (routed.run uses).player.cache := by
  induction uses generalizing routed with
  | nil => exact (Learns.refl routed.player.cache).extend
  | cons use uses ih =>
      intro consistent
      obtain ⟨middle, keeps⟩ := use.after_extends routed consistent
      obtain ⟨last, keeps'⟩ := ih (use.after routed) middle
      exact ⟨last, keeps.trans keeps'⟩

/-- What a search by address finds, and what it does to the connection. -/
structure FindsByAddress (routed : Routed β) (registry : Registry β) : Prop where
  /-- It finds what is registered under the bytes of the handshake's address, -/
  finds : ∀ packet behind handshake, routed.player.Opens packet behind →
    Handshake.ofPacket packet = .ok handshake →
    routed.found = registry.get? handshake.serverAddress ∧
      ∀ backend, routed.found = some backend ↔ ∃ key, (key, backend) ∈ registry.entries ∧
        Utf8.encode key = Utf8.encode handshake.serverAddress
  /-- and nothing if no handshake can be read or decoded. -/
  misses : (∀ packet behind handshake, routed.player.Opens packet behind →
    Handshake.ofPacket packet ≠ .ok handshake) → routed.found = none
  /-- It leaves the stream alone if a handshake packet is kept, -/
  spares : ∀ packet, routed.player.cache.handshakePacket = some packet →
    routed.searched.player.peer = routed.player.peer
  /-- and reads one packet if none is, -/
  reads : routed.player.cache.handshakePacket = none → routed.searched.player.peer =
    { routed.player.peer with source := stateOf routed.player.peer.source.readPacket }
  /-- which takes no more than the frame of the packet. -/
  stops : ∀ packet behind, routed.player.Opens packet behind →
    routed.searched.player.peer.source.feed = behind ∧
      routed.searched.player.peer.sink = routed.player.peer.sink
  /-- Behind a frame that could be read, every later search finds the same and leaves the stream
  alone, as long as what is registered is the same. -/
  repeats : ∀ packet behind, routed.player.Opens packet behind → ∀ uses,
    let later := routed.searched.run uses
    later.store = routed.store →
      later.found = routed.found ∧ later.searched.player.peer = later.player.peer

section Consistent

variable {routed : Routed β} {registry : Registry β} {packet : Packet} {behind : Feed}

/-- What is found by address is what the handshake packet asks for, and only that packet is
read. -/
theorem search_spec (consistent : routed.player.cache.Consistent)
    (policy : routed.store = .byAddress registry) :
    routed.found = (answerOf (Player.handshakePacket routed.player)).bind registry.route? ∧
      routed.searched.player.peer = (stateOf (Player.handshakePacket routed.player)).peer ∧
      routed.searched.player.cache.handshakePacket =
        (stateOf (Player.handshakePacket routed.player)).cache.handshakePacket := by
  obtain ⟨found, noted⟩ := Store.find?_byAddress registry routed.player
  obtain ⟨answer, peer, kept⟩ := Player.handshake_spec consistent
  rw [← policy] at found noted
  refine ⟨?_, noted.peer.trans peer, (congrArg _ noted.cache).trans kept⟩
  rw [Routed.found, found, answer, Option.bind_assoc]
  rfl

theorem found_of_opens (consistent : routed.player.cache.Consistent)
    (policy : routed.store = .byAddress registry) (opens : routed.player.Opens packet behind) :
    routed.found = registry.route? packet := by
  have answered := Player.answerOf_handshakePacket_iff.2 ⟨behind, opens⟩
  rw [(search_spec consistent policy).1, answered, Option.bind_some]

theorem searched_of_kept (consistent : routed.player.cache.Consistent)
    (policy : routed.store = .byAddress registry)
    (kept : routed.player.cache.handshakePacket = some packet) :
    routed.searched.player.peer = routed.player.peer := by
  rw [(search_spec consistent policy).2.1, Player.handshakePacket_cached kept]
  rfl

/-- A search that could read a handshake packet keeps it. -/
theorem kept_of_searched (consistent : routed.player.cache.Consistent)
    (policy : routed.store = .byAddress registry) (opens : routed.player.Opens packet behind) :
    routed.searched.player.cache.handshakePacket = some packet := by
  have answered := Player.answerOf_handshakePacket_iff.2 ⟨behind, opens⟩
  rw [(search_spec consistent policy).2.2]
  exact (Player.handshakePacket_spec routed.player).2 packet answered

theorem finds_of_consistent (consistent : routed.player.cache.Consistent)
    (policy : routed.store = .byAddress registry) : routed.FindsByAddress registry where
  finds := by
    intro packet behind handshake opens decoded
    have found : routed.found = registry.get? handshake.serverAddress := by
      rw [found_of_opens consistent policy opens, Registry.route?, decoded]
      rfl
    exact ⟨found, found ▸ registry.get?_eq_some_iff handshake.serverAddress⟩
  misses := by
    intro nothing
    rw [(search_spec consistent policy).1, Option.bind_eq_none_iff]
    intro packet answered
    obtain ⟨behind, opens⟩ := Player.answerOf_handshakePacket_iff.1 answered
    cases decoded : Handshake.ofPacket packet with
    | error e =>
        rw [Registry.route?, decoded]
        rfl
    | ok handshake => exact absurd decoded (nothing packet behind handshake opens)
  spares := fun packet kept => searched_of_kept consistent policy kept
  reads := by
    intro unknown
    rw [(search_spec consistent policy).2.1, Player.handshakePacket_peer unknown]
  stops := by
    intro packet behind opens
    obtain ⟨after, read, advanced⟩ := Player.handshakePacket_of_opens opens
    rw [(search_spec consistent policy).2.1, read]
    exact ⟨advanced.feed, advanced.sink⟩
  repeats := by
    intro packet behind opens uses later unchanged
    obtain ⟨middle, -⟩ := Use.find.after_extends routed consistent
    obtain ⟨last, keeps⟩ := routed.searched.run_extends uses middle
    have kept : later.player.cache.handshakePacket = some packet :=
      keeps.handshakePacket packet (kept_of_searched consistent policy opens)
    have again : later.player.Opens packet later.player.peer.source.feed := by
      rw [Player.Opens, kept]
      exact ⟨rfl, rfl⟩
    have policy' : later.store = .byAddress registry := unchanged.trans policy
    refine ⟨?_, searched_of_kept last policy' kept⟩
    rw [found_of_opens last policy' again, found_of_opens consistent policy opens]

end Consistent

theorem searched_of_single {routed : Routed β} {backend : Option β}
    (policy : routed.store = .single backend) :
    routed.found = backend ∧ routed.searched = routed := by
  obtain ⟨store, session⟩ := routed
  obtain rfl : store = .single backend := policy
  exact ⟨rfl, rfl⟩

/-- **Finding the backend of any connection.**  A new connection is used by any calls and searches,
under a policy that is changed at any time.

* A search changes nothing about the policy.
* A policy that goes by address finds what is registered under the address of the handshake, however
  the handshake came to be known, and nothing without a handshake.  It reads at most one packet, and
  only if no handshake packet is kept.  Once one could be read, it finds the same again without the
  stream.
* A policy with one backend for all finds that, and does not look at the connection. -/
theorem finds_on_any_connection (store : Store β) (peer : Peer)
    (remote localAddress : SocketAddress) (outbound : Outbound) (uses : List (Use β)) :
    let fresh : Session := { player := { peer, remote, localAddress }, outbound }
    let now := (Routed.mk store fresh).run uses
    now.searched.store = now.store ∧
      (∀ registry, now.store = .byAddress registry → now.FindsByAddress registry) ∧
      ∀ backend, now.store = .single backend → now.found = backend ∧ now.searched = now := by
  intro fresh now
  obtain ⟨consistent, -⟩ := (Routed.mk store fresh).run_extends uses consistent_empty
  exact ⟨rfl, fun registry policy => finds_of_consistent consistent policy,
    fun backend policy => searched_of_single policy⟩

end Routed

end GameGateway
