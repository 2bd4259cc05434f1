import GameGateway.Proofs.Contract
import GameGateway.Proofs.Routing.PlayerCalls
import GameGateway.Proofs.Routing.Segmentation
import GameGateway.Service.Listener

/-!
# Sessions that end early

An io error ends a session bare or wrapped, by who meets it: whatever reads or writes packets wraps
it as a failed packet (`FailsWith`), and the one thing that is written otherwise is the header of a
connection.  So a session fails bare just where a header is refused
(`Gateway.headerRefused_of_bare`, `Gateway.bare_of_headerRefused`).

A peer that went away is told from a failure by the bare error alone.  Of the sessions that end
because a peer went away, those count as ended early in which a header is refused
(`Gateway.ends_early_iff`), and the others count as failed (`Gateway.reset_is_session_error`).
-/

namespace GameGateway

theorem IoKind.isPeerGone_iff {kind : IoKind} :
    kind.isPeerGone = true ↔ kind ∈ [unexpectedEof, brokenPipe, connectionReset] := by
  cases kind <;> decide

namespace GatewayError

/-- The io error of a stream that an error carries. -/
def carried? : GatewayError → Option IoError
  | handshakeUnavailable (.io cause) | protocol (.io cause) | io cause => some cause
  | _ => none

/-- Whether an error is no bare io error. -/
def IsWrapped (e : GatewayError) : Prop :=
  ∀ cause, e ≠ .io cause

theorem isWrapped_handshakeUnavailable (cause : ProtocolError) :
    (handshakeUnavailable cause).IsWrapped := nofun

theorem isWrapped_protocol (cause : ProtocolError) : (protocol cause).IsWrapped := nofun

theorem isWrapped_backendConnect (backend : String) (cause : IoError) :
    (backendConnect backend cause).IsWrapped := nofun

/-- A peer that went away is recognised by the bare error. -/
theorem isEndOfStream_iff_of_carried {e : GatewayError} {cause : IoError}
    (carried : e.carried? = some cause)
    (gone : cause.kind ∈ [IoKind.unexpectedEof, .brokenPipe, .connectionReset]) :
    e.isEndOfStream = true ↔ ¬ e.IsWrapped := by
  unfold carried? at carried
  split at carried
  · simp [isEndOfStream, ProtocolError.isConnectionClosed, isWrapped_handshakeUnavailable]
  · simp [isEndOfStream, ProtocolError.isConnectionClosed, isWrapped_protocol]
  · cases carried
    exact ⟨fun _ wrapped => wrapped cause rfl, fun _ => IoKind.isPeerGone_iff.2 gone⟩
  · cases carried

end GatewayError

open GatewayError (IsWrapped isWrapped_handshakeUnavailable isWrapped_protocol)

/-! ## What wraps its errors -/

namespace Player

theorem loginStart_wraps : FailsWith IsWrapped loginStart := by
  refine .bind (.get_bind fun player => ?_) fun packet => ?_
  · cases player.cache.loginPacket with
    | some packet => exact .pure packet
    | none =>
        refine .bind (.adaptExcept isWrapped_protocol _) fun packet => ?_
        exact .bind (.modify _) fun _ => .pure packet
  · cases LoginStart.ofPacket packet with
    | error e => exact .throw (isWrapped_protocol e)
    | ok login => exact .bind (.modify _) fun _ => .pure packet

end Player

namespace Exchange

variable {α : Type}

theorem onPlayer_wraps {act : EStateM GatewayError Player α} (wraps : FailsWith IsWrapped act) :
    FailsWith IsWrapped (onPlayer act) := by
  rw [onPlayer_eq]
  exact .onPart _ _ wraps

theorem note_wraps (event : Event) : FailsWith IsWrapped (onPlayer (Player.note event)) :=
  onPlayer_wraps (.modify _)

/-- What is done with packets over a connection. -/
theorem onServer_wraps (act : EStateM ProtocolError BackendLink α) :
    FailsWith IsWrapped (onServer (act.adaptExcept .protocol)) := by
  rw [onServer_eq]
  exact .onPart _ _ (.adaptExcept isWrapped_protocol act)

/-- Joining the streams does not fail. -/
theorem join_wraps : FailsWith IsWrapped join := by
  intro exchange e after failed
  unfold join at failed
  cases failed

end Exchange

namespace ServerBackend

theorem fetchStatus_wraps (backend : ServerBackend) : FailsWith IsWrapped backend.fetchStatus := by
  refine .bind (Exchange.onServer_wraps _) fun response => ?_
  cases StatusResponse.ofPacket response with
  | error e => exact .throw (isWrapped_protocol e)
  | ok status => exact .bind (Exchange.note_wraps _) fun _ => .pure response

theorem bridge_wraps (backend : ServerBackend) : FailsWith IsWrapped backend.bridge := by
  refine .bind (Exchange.onPlayer_wraps Player.loginStart_wraps) fun login => ?_
  refine .bind (Exchange.onServer_wraps _) fun _ => .get_bind fun exchange => ?_
  refine .bind (.ofExcept fun e unknown => ?_) fun name => ?_
  · unfold Player.name at unknown
    split at unknown <;> cases unknown
    nofun
  · refine .bind (Exchange.note_wraps _) fun _ => ?_
    exact .bind Exchange.join_wraps fun joined => Exchange.note_wraps _

/-! ## The header -/

/-- A connection is greeted with the handshake packet alone where the header gets through, and
nothing else is sent where it does not. -/
theorem exists_greet_eq (backend : ServerBackend) (handshake : Packet) (player : Player)
    (link : BackendLink) :
    ∃ greeted, backend.greet handshake ⟨player, link⟩ =
      if link.peer.sink.admits (backend.header player) = backend.header player then
        Exchange.onServer ((BackendLink.sendPacket handshake).adaptExcept .protocol) greeted
      else .error (.io link.peer.sink.refusal) greeted := by
  unfold greet header
  rw [Exchange.note_bind]
  cases backend.proxyProtocol with
  | false =>
      have nothing : link.peer.sink.admits [] = [] :=
        List.prefix_nil.1 (link.peer.sink.admits_prefix [])
      exact ⟨_, (if_pos nothing).symm⟩
  | true =>
      simp only [if_true, sendHeader, bind_assoc, bind_get]
      obtain ⟨middle, -, wrote⟩ := Sink.writeAll_spec
        (ProxyHeader.encode ⟨player.remote, player.localAddress⟩) link.peer.sink
      have sent := BackendLink.writeAll_eq
        (ProxyHeader.encode ⟨player.remote, player.localAddress⟩) link
      rw [wrote] at sent
      split at sent
      · next admitted =>
        rw [bind_ok (Exchange.onServer_ok (adaptExcept_ok _ sent)), Exchange.note_bind]
        exact ⟨_, (if_pos admitted).symm⟩
      · next refused =>
        rw [bind_error (Exchange.onServer_error (adaptExcept_error _ sent))]
        exact ⟨_, (if_neg refused).symm⟩

section Connection

variable {α : Type} {backend : ServerBackend} {act : EStateM GatewayError Exchange α}
  {link : BackendLink}

/-- Behind a header that gets through, nothing fails bare. -/
theorem greet_wraps_of_admitted (player : Player) (wraps : FailsWith IsWrapped act)
    (admitted : link.peer.sink.admits (backend.header player) = backend.header player)
    {handshake : Packet} {e : GatewayError} {after : Exchange}
    (failed : (do backend.greet handshake; act : EStateM GatewayError Exchange α)
      ⟨player, link⟩ = .error e after) : e.IsWrapped := by
  obtain ⟨greeted, greet⟩ := backend.exists_greet_eq handshake player link
  rw [if_pos admitted] at greet
  cases run : backend.greet handshake ⟨player, link⟩ with
  | ok u middle =>
      rw [bind_ok run] at failed
      exact wraps middle e after failed
  | error e' middle =>
      rw [bind_error run] at failed
      cases failed
      exact Exchange.onServer_wraps _ greeted e after (greet.symm.trans run)

/-- A header that is refused fails bare. -/
theorem greet_bare_of_refused (act : EStateM GatewayError Exchange α) (player : Player)
    (handshake : Packet)
    (refused : link.peer.sink.admits (backend.header player) ≠ backend.header player) :
    ∃ after, (do backend.greet handshake; act : EStateM GatewayError Exchange α)
      ⟨player, link⟩ = .error (.io link.peer.sink.refusal) after := by
  obtain ⟨greeted, greet⟩ := backend.exists_greet_eq handshake player link
  rw [if_neg refused] at greet
  exact ⟨greeted, bind_error greet⟩

/-- A session in which the backend's connection would be opened, and would refuse the header. -/
def HeaderRefused (backend : ServerBackend) (session : Session) : Prop :=
  ∃ link opened, session.outbound.connect backend.connector = (.connected link, opened) ∧
    link.peer.sink.admits (backend.header session.player) ≠ backend.header session.player

/-- What is done over a connection and wraps its errors fails bare just where the header is
refused. -/
theorem withConnection_bare_iff (wraps : FailsWith IsWrapped act) {session : Session}
    {packet : Packet} (known : session.player.cache.handshakePacket = some packet) :
    (∃ e after, backend.withConnection act session = .error e after ∧ ¬ e.IsWrapped) ↔
      backend.HeaderRefused session := by
  have read := Player.handshakePacket_cached known
  constructor
  · rintro ⟨e, after, failed, bare⟩
    cases dial : session.outbound.connect backend.connector with
    | mk answer opened =>
        cases answer with
        | failed cause =>
            rw [withConnection_failed read dial] at failed
            cases failed
            exact absurd (GatewayError.isWrapped_backendConnect _ _) bare
        | connected link =>
            refine ⟨link, opened, dial, fun admitted => bare ?_⟩
            rw [withConnection_connected read dial] at failed
            cases run : (do backend.greet packet; act : EStateM GatewayError Exchange α)
                ⟨announced backend session.outbound session.player, link⟩ with
            | ok a left =>
                rw [run] at failed
                cases failed
            | error e' left =>
                rw [run] at failed
                cases failed
                exact greet_wraps_of_admitted
                  (announced backend session.outbound session.player) wraps admitted run
  · rintro ⟨link, opened, dial, refused⟩
    rw [withConnection_connected read dial]
    obtain ⟨left, run⟩ := greet_bare_of_refused act
      (announced backend session.outbound session.player) packet refused
    rw [run]
    exact ⟨_, _, rfl, fun wrapped => wrapped _ rfl⟩

end Connection

end ServerBackend

/-! ## Sessions -/

theorem Backend.fromMemory_wraps {α : Type} (number : Nat) (request : RequestType)
    (answer : Except String α) : FailsWith IsWrapped (fromMemory number request answer) := by
  intro session e after failed
  unfold fromMemory at failed
  cases answer with
  | ok a => cases failed
  | error reason =>
      cases failed
      exact isWrapped_protocol _

/-- Every backend that a policy can find is one of those there are. -/
def Store.OfDestinations (store : Store Backend) : Prop :=
  ∀ address backend, store.lookup address = some backend →
    ∃ destination : Destination, backend = destination.backend

namespace Gateway

theorem nextPacket?_wraps : FailsWith IsWrapped answerStatus.nextPacket? := by
  intro player e after failed
  unfold answerStatus.nextPacket? at failed
  split at failed
  · cases failed
  · split at failed
    · cases failed
    · cases failed
      exact isWrapped_protocol _

theorem expect_wraps {expected : UInt32} {packet : Packet} (e : GatewayError)
    (unexpected : expect expected packet = .error e) : e.IsWrapped := by
  unfold expect at unexpected
  split at unexpected <;> cases unexpected
  nofun

theorem answerStatus_wraps (response : Packet) : FailsWith IsWrapped (answerStatus response) := by
  refine .bind (.adaptExcept isWrapped_protocol _) fun request => ?_
  refine .bind (.ofExcept expect_wraps) fun _ => ?_
  refine .bind (.adaptExcept isWrapped_protocol _) fun _ => ?_
  refine .bind nextPacket?_wraps fun ping? => ?_
  cases ping? with
  | none => exact .pure ()
  | some ping =>
      exact .bind (.ofExcept expect_wraps) fun _ => .adaptExcept isWrapped_protocol _

/-- A session that gets to a backend of which the connection refuses the header. -/
def HeaderRefused (store : Store Backend) (session : Session) : Prop :=
  ∃ backend : ServerBackend,
    (decision store.lookup session.player.peer.source.feed).1.backend? = some (.server backend) ∧
      backend.HeaderRefused session

section Sessions

variable {store : Store Backend} {session : Session}

/-- What was heard of a player changes nothing for the header. -/
theorem Heard.bare_iff {α : Type} {backend : ServerBackend} {behind : Feed} {start : Session}
    {act : EStateM GatewayError Exchange α} {packet : Packet} (heard : Heard session behind start)
    (starts : session.player.peer.source.feed.Starts packet behind)
    (wraps : FailsWith IsWrapped act) :
    (∃ e after, backend.withConnection act start = .error e after ∧ ¬ e.IsWrapped) ↔
      backend.HeaderRefused session := by
  have header : backend.header start.player = backend.header session.player := by
    rw [ServerBackend.header, ServerBackend.header, heard.player.remote, heard.player.localAddress]
  rw [ServerBackend.withConnection_bare_iff wraps (heard.kept packet starts)]
  unfold ServerBackend.HeaderRefused
  rw [heard.outbound, header]

/-- A backend is behind a connector, or answers from memory and wraps its errors. -/
theorem Heard.call_bare {α : Type} {call : Backend → EStateM GatewayError Session α}
    {act : ServerBackend → EStateM GatewayError Exchange α} {behind : Feed} {start after : Session}
    {packet : Packet} {e : GatewayError} (heard : Heard session behind start)
    (starts : session.player.peer.source.feed.Starts packet behind)
    (server : ∀ backend, call (.server backend) = backend.withConnection (act backend))
    (wraps : ∀ backend, FailsWith IsWrapped (act backend))
    (fixed : ∀ number id status login, FailsWith IsWrapped (call (.fixed number id status login)))
    (destination : Destination) (failed : call destination.backend start = .error e after)
    (bare : ¬ e.IsWrapped) :
    ∃ backend, destination.backend = .server backend ∧ backend.HeaderRefused session := by
  cases destination with
  | fixed number id status login =>
      exact absurd (fixed number id status login start e after failed) bare
  | server backend =>
      have failed' := failed
      rw [Destination.backend, server backend] at failed'
      exact ⟨backend, rfl, (heard.bare_iff starts (wraps backend)).1 ⟨e, after, failed', bare⟩⟩

/-- Where a session fails bare, a header is refused. -/
theorem headerRefused_of_bare {e : GatewayError} {after : Session}
    (destinations : store.OfDestinations) (fresh : session.player.cache = {})
    (failed : handle store session = .error e after) (bare : ¬ e.IsWrapped) :
    HeaderRefused store session := by
  have served := handle_served store session fresh
  have called := @decision_backend? store.lookup session.player.peer.source.feed
  rw [failed] at served
  unfold HeaderRefused
  generalize decision store.lookup session.player.peer.source.feed = decided at served called ⊢
  obtain ⟨decided, behind⟩ := decided
  cases served with
  | unreadable heard => exact absurd (isWrapped_handshakeUnavailable _) bare
  | malformed heard => exact absurd (isWrapped_protocol _) bare
  | statusUnserved heard called answered =>
      exact absurd (answerStatus_wraps _ _ _ _ answered) bare
  | statusFailed heard failed =>
      obtain ⟨packet, handshake, starts, -, found⟩ := called rfl
      obtain ⟨destination, rfl⟩ := destinations _ _ found
      obtain ⟨backend, same, refused⟩ := heard.call_bare starts (fun backend => rfl)
        ServerBackend.fetchStatus_wraps (fun _ _ _ _ => Backend.fromMemory_wraps _ _ _)
        destination failed bare
      exact ⟨backend, congrArg some same, refused⟩
  | loginFailed heard failed =>
      obtain ⟨packet, handshake, starts, -, found⟩ := called rfl
      obtain ⟨destination, rfl⟩ := destinations _ _ found
      obtain ⟨backend, same, refused⟩ := heard.call_bare starts (fun backend => rfl)
        ServerBackend.bridge_wraps (fun _ _ _ _ => Backend.fromMemory_wraps _ _ _)
        destination failed bare
      exact ⟨backend, congrArg some same, refused⟩

/-- Where a header is refused, the session fails bare. -/
theorem bare_of_headerRefused (fresh : session.player.cache = {})
    (refused : HeaderRefused store session) :
    ∃ e after, handle store session = .error e after ∧ ¬ e.IsWrapped := by
  have served := handle_served store session fresh
  obtain ⟨backend, server, refused⟩ := refused
  obtain ⟨packet, handshake, starts, -, -⟩ := decision_backend? server
  generalize handle store session = result at served ⊢
  generalize decision store.lookup session.player.peer.source.feed = decided at served server starts
  obtain ⟨decided, behind⟩ := decided
  cases decided with
  | unreadable cause => cases server
  | malformed cause => cases server
  | reject reason => cases server
  | status other =>
      obtain rfl : other = .server backend := Option.some.inj server
      have bare {start : Session} (heard : Heard session behind start) :=
        (heard.bare_iff starts backend.fetchStatus_wraps).2 refused
      cases served with
      | statusFailed heard failed =>
          obtain ⟨e, after, run, bare⟩ := bare heard
          cases failed.symm.trans run
          exact ⟨_, _, rfl, bare⟩
      | statusUnserved heard answered =>
          obtain ⟨e, after, run, -⟩ := bare heard
          cases answered.symm.trans run
      | statusServed heard answered =>
          obtain ⟨e, after, run, -⟩ := bare heard
          cases answered.symm.trans run
  | login other =>
      obtain rfl : other = .server backend := Option.some.inj server
      have bare {start : Session} (heard : Heard session behind start) :=
        (heard.bare_iff starts backend.bridge_wraps).2 refused
      cases served with
      | loginFailed heard failed =>
          obtain ⟨e, after, run, bare⟩ := bare heard
          cases failed.symm.trans run
          exact ⟨_, _, rfl, bare⟩
      | loginServed heard answered =>
          obtain ⟨e, after, run, -⟩ := bare heard
          cases answered.symm.trans run

end Sessions

theorem exists_handle_eq_error {store : Store Backend} {session : Session} {e : GatewayError}
    (failed : (run store session).1 = .error e) :
    ∃ after, handle store session = .error e after := by
  unfold run at failed
  split at failed
  · cases failed
  · next run =>
    cases failed
    exact ⟨_, run⟩

/-- **Which sessions count as ended early.**  Where a session fails with an io error of a peer that
went away, it is reported as ended early, and not counted as failed, just where the error was met
while the header of a connection was written. -/
theorem ends_early_iff (store : Store Backend) (destinations : store.OfDestinations)
    (session : Session) (fresh : session.player.cache = {}) {e : GatewayError} {cause : IoError}
    (failed : (run store session).1 = .error e) (carried : e.carried? = some cause)
    (gone : cause.kind ∈ [IoKind.unexpectedEof, .brokenPipe, .connectionReset]) :
    (e.isEndOfStream = true ↔ HeaderRefused store session) ∧
      (Listener.endEvents (run store session).1 = [.endedEarly e] ↔ HeaderRefused store session) ∧
      ∀ listener : Listener,
        (listener.finish (run store session).1).stats.sessionErrors = listener.stats.sessionErrors ↔
          HeaderRefused store session := by
  have early : e.isEndOfStream = true ↔ HeaderRefused store session := by
    obtain ⟨after, ran⟩ := exists_handle_eq_error failed
    rw [GatewayError.isEndOfStream_iff_of_carried carried gone]
    constructor
    · exact headerRefused_of_bare destinations fresh ran
    · intro refused
      obtain ⟨other, _, same, bare⟩ := bare_of_headerRefused fresh refused
      cases ran.symm.trans same
      exact bare
  rw [failed]
  refine ⟨early, ?_, fun listener => ?_⟩
  · rw [← early, Listener.endEvents]
    cases e.isEndOfStream <;> simp
  · rw [← early]
    cases ended : e.isEndOfStream <;>
      simp [Listener.finish, Listener.countEnd, Listener.countInactive, Listener.countClosed,
        Listener.returnPermit, Listener.count, ended]

/-- A status session whose backend breaks the pipe in front of the header. -/
theorem ends_early_broken_pipe :
    let lobby : Store Backend :=
      .single (some (.server { id := "lobby", connector := 0, proxyProtocol := true }))
    let broken : IoError := ⟨.brokenPipe, "m"⟩
    let link : BackendLink :=
      { peer := { source := ⟨[], []⟩, sink := { room := some 0, full := some broken } } }
    let visit : Session :=
      { player :=
          { peer := { source := { script := [.chunk [7, 0, 0, 1, 97, 0, 1, 1]] } }
            remote := ⟨.v4 0x7F000001, 50000, 0⟩
            localAddress := ⟨.v4 0x7F000001, 25565, 0⟩ }
        outbound := { connectors := [.listed [.connected link]] } }
    (run lobby visit).1 = .error (.io broken) ∧ HeaderRefused lobby visit ∧
      Listener.endEvents (run lobby visit).1 = [.endedEarly (.io broken)] := by
  intro lobby broken link visit
  have destinations : lobby.OfDestinations := by
    intro address backend found
    cases found
    exact ⟨.server _, rfl⟩
  have failed : (run lobby visit).1 = .error (.io broken) := by decide +kernel
  obtain ⟨early, reported, -⟩ := ends_early_iff lobby destinations visit rfl failed rfl (by decide)
  have refused : HeaderRefused lobby visit := early.1 rfl
  exact ⟨failed, refused, reported.2 refused⟩

/-- A player whose connection is reset in front of the handshake went away, and counts as failed. -/
theorem reset_is_session_error :
    ¬ ∀ (store : Store Backend) (session : Session) (e : GatewayError) (cause : IoError),
      store.OfDestinations → session.player.cache = {} → (run store session).1 = .error e →
      e.carried? = some cause →
      cause.kind ∈ [IoKind.unexpectedEof, .brokenPipe, .connectionReset] →
      e.isEndOfStream = true := by
  intro early
  let store : Store Backend := .single none
  let session : Session :=
    { player :=
        { peer := { source := { script := [.fault ⟨.connectionReset, "m"⟩] } }
          remote := ⟨.v4 0x7F000001, 50000, 0⟩
          localAddress := ⟨.v4 0x7F000001, 25565, 0⟩ }
      outbound := {} }
  have failed : (run store session).1 =
      .error (.handshakeUnavailable (.io ⟨.connectionReset, "m"⟩)) := by decide +kernel
  exact absurd (early store session _ _ nofun rfl failed rfl (by decide)) (by decide)

end Gateway

end GameGateway
