import GameGateway.Proofs.Stream.Alike
import GameGateway.Session.Outbound
import Mathlib.Data.List.Forall2

/-!
# Connections that differ in timing

Players and connections to backends are alike if their streams are alike and everything else about
them is the same but for what was reported.  What a player tells is then the same, and the packets
sent to it are as well.  The ways out are alike if the same connects fail, and the other ones give
alike connections; of the connects so far only what was received matters.
-/

namespace GameGateway

/-- Peers that received the same bytes. -/
def Peer.SameReceived (first second : Peer) : Prop :=
  first.sink.written = second.sink.written

theorem Peer.Alike.received {first second : Peer} (alike : Alike first second) :
    SameReceived first second :=
  alike.sink.written

/-! ## Players -/

namespace Player

/-- Players that differ at most in timing and in what was reported. -/
structure Alike (first second : Player) : Prop where
  peer : Peer.Alike first.peer second.peer
  remote : first.remote = second.remote
  localAddress : first.localAddress = second.localAddress
  cache : first.cache = second.cache

/-- Players that received the same bytes. -/
def SameReceived (first second : Player) : Prop :=
  Peer.SameReceived first.peer second.peer

theorem Alike.received {first second : Player} (alike : Alike first second) :
    SameReceived first second :=
  alike.peer.received

variable {ε α : Type}

theorem onPeer_eq (act : EStateM ε Peer α) :
    onPeer act = onPart Player.peer (fun player peer => { player with peer }) act := by
  funext player
  unfold onPeer onPart
  cases act player.peer <;> rfl

theorem onPeer_alike {act : EStateM ε Peer α} (run : TwoRun Peer.Alike Peer.Alike act) :
    TwoRun Alike Alike (onPeer act) := by
  rw [onPeer_eq]
  exact .onPart _ _ run (fun _ _ alike => alike.peer)
    fun _ _ alike _ _ peer => ⟨peer, alike.remote, alike.localAddress, alike.cache⟩

theorem readPacket_alike : TwoRun Alike Alike readPacket :=
  onPeer_alike Peer.readPacket_alike

theorem writePacket_alike (packet : Packet) : TwoRun Alike Alike (writePacket packet) :=
  onPeer_alike (Peer.writePacket_alike packet)

theorem Alike.withEvents {first second : Player} (alike : Alike first second)
    (events events' : List Event) :
    Alike { first with events } { second with events := events' } :=
  ⟨alike.peer, alike.remote, alike.localAddress, alike.cache⟩

theorem note_alike (event : Event) : TwoRun Alike Alike (note event : EStateM ε Player Unit) :=
  .change fun _ _ alike => alike.withEvents _ _

/-- What is kept of a player is changed alike. -/
theorem keep_alike (keep : PlayerCache → PlayerCache) :
    TwoRun Alike Alike
      (modify fun player => { player with cache := keep player.cache } : EStateM ε Player PUnit) :=
  .change fun _ _ alike =>
    ⟨alike.peer, alike.remote, alike.localAddress, congrArg keep alike.cache⟩

theorem handshakePacket_alike : TwoRun Alike Alike handshakePacket := by
  apply TwoRun.get_bind
  intro first second alike
  simp only [alike.cache]
  cases second.cache.handshakePacket with
  | some packet => exact .ok packet alike
  | none =>
      refine TwoRun.seq (readPacket_alike.adaptExcept _) (fun packet => ?_) first second alike
      exact .seq (keep_alike fun cache => { cache with handshakePacket := some packet })
        fun _ => .pure packet

theorem handshake_alike : TwoRun Alike Alike handshake := by
  apply TwoRun.get_bind
  intro first second alike
  simp only [alike.cache]
  cases second.cache.handshake with
  | some handshake => exact .ok handshake alike
  | none =>
      refine TwoRun.seq handshakePacket_alike (fun packet => ?_) first second alike
      cases Handshake.ofPacket packet with
      | error e => exact .throw _
      | ok handshake =>
          apply TwoRun.seq (note_alike _)
          intro noted
          exact .seq (keep_alike fun cache => { cache with handshake := some handshake })
            fun _ => .pure handshake

theorem serverAddress_alike : TwoRun Alike Alike serverAddress :=
  handshake_alike.map _

theorem loginPacket_alike : TwoRun Alike Alike loginPacket := by
  apply TwoRun.get_bind
  intro first second alike
  simp only [alike.cache]
  cases second.cache.loginPacket with
  | some packet => exact .ok packet alike
  | none =>
      refine TwoRun.seq (readPacket_alike.adaptExcept _) (fun packet => ?_) first second alike
      exact .seq (keep_alike fun cache => { cache with loginPacket := some packet })
        fun _ => .pure packet

theorem loginStart_alike : TwoRun Alike Alike loginStart := by
  apply TwoRun.seq loginPacket_alike
  intro packet
  cases LoginStart.ofPacket packet with
  | error e => exact .throw _
  | ok login =>
      exact .seq (keep_alike fun cache => { cache with name := some login.name })
        fun _ => .pure packet

end Player

/-! ## Connections to backends -/

namespace BackendLink

/-- Connections that differ at most in timing. -/
structure Alike (first second : BackendLink) : Prop where
  peer : Peer.Alike first.peer second.peer
  statusRequest : first.statusRequest = second.statusRequest

/-- Connections over which backends received the same bytes. -/
def SameReceived (first second : BackendLink) : Prop :=
  Peer.SameReceived first.peer second.peer

theorem Alike.received {first second : BackendLink} (alike : Alike first second) :
    SameReceived first second :=
  alike.peer.received

variable {ε α : Type}

theorem onPeer_eq (act : EStateM ε Peer α) :
    onPeer act = onPart BackendLink.peer (fun link peer => { link with peer }) act := by
  funext link
  unfold onPeer onPart
  cases act link.peer <;> rfl

theorem onPeer_alike {act : EStateM ε Peer α} (run : TwoRun Peer.Alike Peer.Alike act) :
    TwoRun Alike Alike (onPeer act) := by
  rw [onPeer_eq]
  exact .onPart _ _ run (fun _ _ alike => alike.peer)
    fun _ _ alike _ _ peer => ⟨peer, alike.statusRequest⟩

theorem sendPacket_alike (packet : Packet) : TwoRun Alike Alike (sendPacket packet) :=
  onPeer_alike (Peer.writePacket_alike packet)

theorem status_alike : TwoRun Alike Alike status := by
  apply TwoRun.get_bind
  intro first second alike
  rw [alike.statusRequest]
  exact TwoRun.seq (sendPacket_alike second.statusRequest)
    (fun _ => onPeer_alike Peer.readPacket_alike) first second alike

end BackendLink

/-! ## The way out -/

/-- Connects that fail with the same error or give alike connections. -/
inductive Dial.Alike : Dial → Dial → Prop
  | failed (e : IoError) : Alike (.failed e) (.failed e)
  | connected {first second : BackendLink} :
    BackendLink.Alike first second → Alike (.connected first) (.connected second)

namespace Connector

/-- Connectors that answer every connect alike. -/
inductive Alike : Connector → Connector → Prop
  | listed {first second : List Dial} :
    List.Forall₂ Dial.Alike first second → Alike (.listed first) (.listed second)
  | tcp (address : String) {first second : Dial} :
    Dial.Alike first second → Alike (.tcp address first) (.tcp address second)

theorem connect_tcp (address : String) (network : Dial) :
    connect (.tcp address network) =
      match addressFault? address with
      | some e => (.failed e, .tcp address network)
      | none => (network, .tcp address network) := by
  -- the equations of `connect` would be found by running `addressFault?`
  delta connect
  exact rfl

theorem Alike.connect {first second : Connector} (alike : Alike first second) :
    Dial.Alike first.connect.1 second.connect.1 ∧ Alike first.connect.2 second.connect.2 := by
  cases alike with
  | listed answers =>
      cases answers with
      | nil => exact ⟨.failed _, .listed .nil⟩
      | cons answer answers => exact ⟨answer, .listed answers⟩
  | tcp address network =>
      rw [connect_tcp, connect_tcp]
      cases addressFault? address with
      | some e => exact ⟨.failed e, .tcp address network⟩
      | none => exact ⟨network, .tcp address network⟩

end Connector

/-- Connects to the same backend that both failed, or over which it received the same bytes. -/
inductive Opening.SameReceived : Opening → Opening → Prop
  | failed (backend : Nat) : SameReceived ⟨backend, none⟩ ⟨backend, none⟩
  | connected (backend : Nat) {first second : BackendLink} :
    BackendLink.SameReceived first second →
    SameReceived ⟨backend, some first⟩ ⟨backend, some second⟩

namespace Outbound

/-- Ways out that answer every connect alike, and over which the same backends received the same
bytes so far, in the same order. -/
structure Alike (first second : Outbound) : Prop where
  connectors : List.Forall₂ Connector.Alike first.connectors second.connectors
  openings : List.Forall₂ Opening.SameReceived first.openings second.openings

theorem getD_alike {first second : List Connector} (n : Nat)
    (alike : List.Forall₂ Connector.Alike first second) :
    Connector.Alike (first.getD n (.listed [])) (second.getD n (.listed [])) := by
  induction alike generalizing n with
  | nil => exact .listed .nil
  | cons head _ ih =>
      cases n with
      | zero => exact head
      | succ n => exact ih n

theorem set_alike {first second : List Connector} {one other : Connector} (n : Nat)
    (alike : List.Forall₂ Connector.Alike first second) (put : Connector.Alike one other) :
    List.Forall₂ Connector.Alike (first.set n one) (second.set n other) := by
  induction alike generalizing n with
  | nil => exact .nil
  | cons head tail ih =>
      cases n with
      | zero => exact .cons put tail
      | succ n => exact .cons head (ih n)

/-- A connect fails both times or gives alike connections. -/
theorem Alike.connect {first second : Outbound} (alike : Alike first second) (backend : Nat) :
    (∃ e opened opened', first.connect backend = (.failed e, opened) ∧
        second.connect backend = (.failed e, opened') ∧ Alike opened opened') ∨
      ∃ link link' opened opened', first.connect backend = (.connected link, opened) ∧
        second.connect backend = (.connected link', opened') ∧ BackendLink.Alike link link' ∧
        Alike opened opened' := by
  obtain ⟨answered, left⟩ := (getD_alike backend alike.connectors).connect
  have dial : Dial.Alike (first.connect backend).1 (second.connect backend).1 := answered
  have opened : Alike (first.connect backend).2 (second.connect backend).2 :=
    ⟨set_alike backend alike.connectors left, alike.openings⟩
  generalize first.connect backend = one at dial opened ⊢
  generalize second.connect backend = other at dial opened ⊢
  obtain ⟨answer, after⟩ := one
  obtain ⟨answer', after'⟩ := other
  simp only at dial
  cases dial with
  | failed e => exact .inl ⟨e, after, after', rfl, rfl, opened⟩
  | connected same => exact .inr ⟨_, _, after, after', rfl, rfl, same, opened⟩

theorem Alike.close {first second : Outbound} (alike : Alike first second) {backend : Nat}
    {one other : Option BackendLink}
    (ended : Opening.SameReceived ⟨backend, one⟩ ⟨backend, other⟩) :
    Alike (first.close backend one) (second.close backend other) :=
  ⟨alike.connectors, .cons ended alike.openings⟩

end Outbound

namespace Session

/-- Sessions whose players are related and whose ways out are alike. -/
structure Both (related : Player → Player → Prop) (first second : Session) : Prop where
  player : related first.player second.player
  outbound : Outbound.Alike first.outbound second.outbound

/-- Sessions that differ at most in timing and in what was reported. -/
abbrev Alike : Session → Session → Prop := Both Player.Alike

/-- Sessions whose players, and whose backends one after the other, received the same bytes. -/
abbrev SameReceived : Session → Session → Prop := Both Player.SameReceived

theorem Alike.received (first second : Session) (alike : Alike first second) :
    SameReceived first second :=
  ⟨alike.player.received, alike.outbound⟩

variable {ε α : Type}

theorem onPlayer_eq (act : EStateM ε Player α) :
    onPlayer act = onPart Session.player (fun session player => { session with player }) act := by
  funext session
  unfold onPlayer onPart
  cases act session.player <;> rfl

theorem onPlayer_both {related after : Player → Player → Prop} {act : EStateM ε Player α}
    (run : TwoRun related after act) : TwoRun (Both related) (Both after) (onPlayer act) := by
  rw [onPlayer_eq]
  exact .onPart _ _ run (fun _ _ both => both.player)
    fun _ _ both _ _ player => ⟨player, both.outbound⟩

end Session

end GameGateway
