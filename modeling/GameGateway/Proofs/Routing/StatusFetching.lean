import GameGateway.Proofs.Routing.BackendConnection
import GameGateway.Proofs.Wire.TextGrammar

/-!
# Statuses that are fetched

A status is fetched in two halves.  First the backend is asked: the header, the handshake packet and
the status request are sent as one stretch of bytes, and nothing is read.  Only behind a question
that got through, with a flush behind its last byte (`Sink.Passed`), is the answer heard
(`ServerBackend.hear`): one frame is read and checked, and nothing is sent.
`ServerBackend.fetches_status` says what comes of it for every player and every outbound side.
-/

namespace GameGateway

/-! ## Sending before reading -/

namespace Sink

/-- Whether some bytes get through and can be flushed. -/
def Passes (sink : Sink) (bytes : Bytes) : Prop :=
  sink.admits bytes = bytes ∧ sink.flushFault = none

/-- What a sink becomes once some bytes got through, with `flushed` flushes of which the last one is
behind all of them. -/
structure Passed (sink : Sink) (bytes : Bytes) (flushed : Nat) (after : Sink) : Prop where
  passes : sink.Passes bytes
  grown : Grown sink bytes flushed 0 after
  last : after.calls.head? = some .flushed

/-- The last call of a packet that was written is its flush. -/
theorem head?_calls_of_writePacket {packet : Packet} {sink after : Sink}
    (run : writePacket packet sink = .ok () after) : after.calls.head? = some .flushed := by
  unfold writePacket at run
  cases wrote : writeAll packet.encode sink with
  | error e middle =>
      rw [bind_error (adaptExcept_error _ wrote)] at run
      cases run
  | ok u middle =>
      rw [bind_ok (adaptExcept_ok _ wrote)] at run
      cases fault : middle.flushFault with
      | some e => simp [EStateM.adaptExcept, flush, fault] at run
      | none =>
          simp only [EStateM.adaptExcept, flush, fault] at run
          cases run
          rfl

theorem Passed.carried {sink after : Sink} {bytes : Bytes} {flushed : Nat}
    (passed : sink.Passed bytes flushed after) : Carried bytes sink after :=
  ⟨bytes, flushed, 0, passed.grown, List.prefix_rfl, fun _ => passed.passes.1.symm⟩

end Sink

/-- A connection on whose source something was called. -/
def BackendLink.withSource (link : BackendLink) (source : Source) : BackendLink :=
  { link with peer := { link.peer with source } }

namespace ServerBackend

/-- The second half of fetching a status: reads one packet, and checks that it is a status
response. -/
def hear (backend : ServerBackend) : EStateM GatewayError Exchange Packet := do
  let response ← Exchange.onServer ((BackendLink.onPeer Peer.readPacket).adaptExcept .protocol)
  match StatusResponse.ofPacket response with
  | .error e => throw (.protocol e)
  | .ok _ =>
    Exchange.onPlayer (Player.note (.statusReceived backend.id))
    return response

section Fetch

variable {backend : ServerBackend} {player : Player} {link sent : BackendLink} {e : ProtocolError}

/-- Behind a request that was sent, the answer is heard. -/
theorem fetchStatus_of_sent (run : link.sendPacket link.statusRequest = .ok () sent) :
    backend.fetchStatus ⟨player, link⟩ = backend.hear ⟨player, sent⟩ := by
  have status : BackendLink.status link = BackendLink.onPeer Peer.readPacket sent := bind_ok run
  have first : Exchange.onServer (BackendLink.status.adaptExcept GatewayError.protocol)
      ⟨player, link⟩ =
        Exchange.onServer ((BackendLink.onPeer Peer.readPacket).adaptExcept .protocol)
          ⟨player, sent⟩ := by
    simp only [Exchange.onServer, EStateM.adaptExcept, status]
  exact bind_of_eq first _

theorem fetchStatus_of_unsent (run : link.sendPacket link.statusRequest = .error e sent) :
    backend.fetchStatus ⟨player, link⟩ = .error (.protocol e) ⟨player, sent⟩ := by
  have status : BackendLink.status link = .error e sent := by
    unfold BackendLink.status
    rw [bind_get]
    exact bind_error run
  exact bind_error (Exchange.onServer_error (adaptExcept_error _ status))

end Fetch

/-! ## Hearing the answer -/

section Hear

variable {asked : Exchange}

/-- The results of hearing the answer: no packet comes, or one that is no status response, or a
status response, which is answered as it came. -/
inductive Answered (asked : Exchange) : EStateM.Result GatewayError Exchange Packet → Prop
  | unread {e : ProtocolError} {source : Source} :
    asked.server.peer.source.readPacket = .error e source →
    Answered asked (.error (.protocol e) ⟨asked.player, asked.server.withSource source⟩)
  | refused {response : Packet} {source : Source} {e : ProtocolError} :
    asked.server.peer.source.readPacket = .ok response source →
    StatusResponse.ofPacket response = .error e →
    Answered asked (.error (.protocol e) ⟨asked.player, asked.server.withSource source⟩)
  | answered {response : Packet} {source : Source} {status : StatusResponse} {player : Player} :
    asked.server.peer.source.readPacket = .ok response source →
    StatusResponse.ofPacket response = .ok status → Player.Noted asked.player player →
    Answered asked (.ok response ⟨player, asked.server.withSource source⟩)

theorem hear_answered (backend : ServerBackend) (asked : Exchange) :
    Answered asked (backend.hear asked) := by
  have first : BackendLink.onPeer Peer.readPacket asked.server =
      onState asked.server.withSource asked.server.peer.source.readPacket := by
    simp only [BackendLink.onPeer, Peer.readPacket, Peer.onSource]
    cases asked.server.peer.source.readPacket <;> rfl
  unfold hear
  cases read : asked.server.peer.source.readPacket with
  | error e source =>
      rw [read] at first
      rw [bind_error (Exchange.onServer_error (adaptExcept_error _ first))]
      exact .unread read
  | ok response source =>
      rw [read] at first
      rw [bind_ok (Exchange.onServer_ok (adaptExcept_ok _ first))]
      cases decoded : StatusResponse.ofPacket response with
      | error e => exact .refused read decoded
      | ok status => exact .answered read decoded (.events _ _)

namespace Answered

variable {result : EStateM.Result GatewayError Exchange Packet}

/-- Hearing the answer asks nothing of the player. -/
theorem player_noted (answered : Answered asked result) :
    Player.Noted asked.player (stateOf result).player := by
  cases answered with
  | unread read => exact .refl _
  | refused read decoded => exact .refl _
  | answered read decoded noted => exact noted

/-- Hearing the answer sends nothing. -/
theorem sink_eq (answered : Answered asked result) :
    (stateOf result).server.peer.sink = asked.server.peer.sink := by
  cases answered <;> rfl

/-- Hearing the answer takes no more than the first frame, and answers it if it is a status
response. -/
theorem of_starts (answered : Answered asked result) {first : Packet} {rest : Feed}
    (starts : asked.server.peer.source.feed.Starts first rest) :
    (stateOf result).server.peer.source.feed = rest ∧
      ∀ status, StatusResponse.ofPacket first = .ok status → ∃ after, result = .ok first after := by
  obtain ⟨source, found, rfl⟩ := Source.readPacket_of_starts starts
  cases answered with
  | unread read =>
      rw [found] at read
      cases read
  | refused read decoded =>
      rw [found] at read
      cases read
      refine ⟨rfl, fun status other => ?_⟩
      rw [decoded] at other
      cases other
  | answered read decoded noted =>
      rw [found] at read
      cases read
      exact ⟨rfl, fun status same => ⟨_, rfl⟩⟩

/-- The answer is the first packet that the backend sends, if it is a status response. -/
theorem ok_iff (answered : Answered asked result) {response : Packet} :
    (∃ after, result = .ok response after) ↔
      ∃ rest, asked.server.peer.source.feed.Starts response rest ∧ response.id = 0 ∧
        ∃ text more, VarInt.StartsWithText response.data text more := by
  constructor
  · rintro ⟨after, rfl⟩
    cases answered with
    | @answered _ source status _ read decoded noted =>
        obtain ⟨id, more, text⟩ := StatusResponse.ofPacket_eq_ok_iff.1 decoded
        exact ⟨source.feed, Source.starts_of_readPacket read, id, status.json, more, text⟩
  · rintro ⟨rest, starts, id, text, more, front⟩
    have status : StatusResponse.ofPacket response = .ok ⟨text⟩ :=
      StatusResponse.ofPacket_eq_ok_iff.2 ⟨id, more, front⟩
    exact (answered.of_starts starts).2 _ status

end Answered

end Hear

/-! ## Asking and hearing -/

/-- The results of fetching a status over a connection that is sent `front`.  Unless all of it gets
through and is flushed, nothing is read; and the answer is heard where all of it was. -/
inductive Fetched (backend : ServerBackend) (front : Bytes) (player : Player)
    (link : BackendLink) : EStateM.Result GatewayError Exchange Packet → Prop
  | unsent {e : GatewayError} {after : Exchange} :
    ¬ link.peer.sink.Passes front → Player.Noted player after.player →
    after.server.peer.source = link.peer.source →
    Sink.Carried front link.peer.sink after.server.peer.sink →
    Fetched backend front player link (.error e after)
  | heard {asked : Exchange} :
    Player.Noted player asked.player → asked.server.peer.source = link.peer.source →
    link.peer.sink.Passed front 2 asked.server.peer.sink →
    Fetched backend front player link (backend.hear asked)

section Ask

variable {backend : ServerBackend} {player : Player} {link : BackendLink}

/-- A front that does not get through leaves the connection unread. -/
theorem Fetched.of_sent_error {bytes : Bytes} {e : GatewayError} {after : Exchange}
    (sent : Sent bytes player link (.error e after)) (more : Bytes) :
    Fetched backend (bytes ++ more) player link (.error e after) := by
  cases sent with
  | unflushed through fault noted grown =>
      refine .unsent (fun passes => ?_) noted rfl (.chunk_unflushed fault grown more)
      rw [passes.2] at fault
      cases fault
  | stuck stuck error noted grown =>
      refine .unsent (fun passes => ?_) noted rfl (.chunk_stuck stuck grown more)
      exact Sink.admits_append_ne stuck more passes.1

/-- Behind a greeting that got through, the request is sent and the answer is heard. -/
theorem Fetched.of_greeted {greeting : Bytes} {greeted : Exchange}
    (sent : Sent greeting player link (.ok () greeted)) :
    Fetched backend (greeting ++ link.statusRequest.encode) player link
      (backend.fetchStatus greeted) := by
  cases sent with
  -- the greeting was flushed on its own, and the flush behind the request is behind all of it
  | @through player' middle through flushes noted grown =>
      have admits := Sink.admits_append through grown link.statusRequest.encode
      have flushes' : middle.flushFault = none := grown.flushFault.trans flushes
      have sent := BackendLink.sendPacket_eq link.statusRequest (link.withSink middle)
      rw [BackendLink.sink_withSink] at sent
      rcases Sink.writePacket_spec link.statusRequest middle with
        ⟨through', sink, grown', run⟩ | ⟨stuck, sink, grown', run⟩
      · simp only [flushes'] at run
        rw [run] at sent
        rw [fetchStatus_of_sent sent]
        refine .heard noted rfl ⟨⟨?_, flushes⟩, grown.trans grown', ?_⟩
        · rw [admits, through']
        · exact Sink.head?_calls_of_writePacket run
      · rw [run] at sent
        rw [fetchStatus_of_unsent sent]
        refine .unsent (fun passes => stuck ?_) noted rfl ?_
        · have whole := passes.1
          rw [admits] at whole
          exact List.append_cancel_left whole
        · have front := Sink.Carried.chunk_stuck stuck grown' []
          rw [List.append_nil] at front
          exact .chunk_through through grown front

/-- **Over an open connection, a status is asked for and then heard.** -/
theorem greet_fetchStatus_fetched (backend : ServerBackend) (handshake : Packet) (player : Player)
    (link : BackendLink) :
    Fetched backend (backend.greeting player handshake ++ link.statusRequest.encode) player link
      ((do backend.greet handshake; backend.fetchStatus : EStateM GatewayError Exchange Packet)
        ⟨player, link⟩) := by
  have sent := backend.greet_sent handshake player link
  cases run : backend.greet handshake ⟨player, link⟩ with
  | error e after =>
      rw [run] at sent
      rw [bind_error run]
      exact .of_sent_error sent _
  | ok u greeted =>
      rw [run] at sent
      rw [bind_ok run]
      exact .of_greeted sent

end Ask

namespace Fetched

variable {backend : ServerBackend} {front : Bytes} {player : Player} {link : BackendLink}
  {result : EStateM.Result GatewayError Exchange Packet}

theorem player_noted (fetched : Fetched backend front player link result) :
    Player.Noted player (stateOf result).player := by
  cases fetched with
  | unsent torn noted unread carried => exact noted
  | heard noted unread passed => exact noted.trans (backend.hear_answered _).player_noted

theorem carried (fetched : Fetched backend front player link result) :
    Sink.Carried front link.peer.sink (stateOf result).server.peer.sink := by
  cases fetched with
  | unsent torn noted unread carried => exact carried
  | heard noted unread passed =>
      rw [(backend.hear_answered _).sink_eq]
      exact passed.carried

/-- Nothing is read of a backend that did not get the whole question. -/
theorem source_eq (fetched : Fetched backend front player link result)
    (torn : ¬ link.peer.sink.Passes front) :
    (stateOf result).server.peer.source = link.peer.source := by
  cases fetched with
  | unsent torn noted unread carried => exact unread
  | heard noted unread passed => exact absurd passed.passes torn

/-- A backend that got the whole question is heard. -/
theorem exists_asked (fetched : Fetched backend front player link result)
    (passes : link.peer.sink.Passes front) :
    ∃ asked : Exchange, link.peer.sink.Passed front 2 asked.server.peer.sink ∧
      asked.server.peer.source = link.peer.source ∧ result = backend.hear asked := by
  cases fetched with
  | unsent torn noted unread carried => exact absurd passes torn
  | @heard asked noted unread passed => exact ⟨asked, passed, unread, rfl⟩

theorem ok_iff (fetched : Fetched backend front player link result) {response : Packet} :
    (∃ after, result = .ok response after) ↔ link.peer.sink.Passes front ∧
      ∃ rest, link.peer.source.feed.Starts response rest ∧ response.id = 0 ∧
        ∃ text more, VarInt.StartsWithText response.data text more := by
  cases fetched with
  | unsent torn noted unread carried =>
      constructor
      · rintro ⟨after, run⟩
        cases run
      · exact fun answered => absurd answered.1 torn
  | heard noted unread passed =>
      rw [(backend.hear_answered _).ok_iff, unread]
      exact ⟨fun answered => ⟨passed.passes, answered⟩, And.right⟩

end Fetched

end ServerBackend

/-! ## From the handshake to the answer -/

/-- A player of whom nothing was asked but the handshake packet, and that only if it was not known:
nothing is written, and what is behind the handshake's frame is left. -/
structure Player.Opened (player : Player) (behind : Feed) (after : Player) : Prop where
  sink : after.peer.sink = player.peer.sink
  feed : after.peer.source.feed = behind
  cached : ∀ packet, player.cache.handshakePacket = some packet → after.peer = player.peer

theorem Player.Opened.noted {player after noted : Player} {behind : Feed}
    (opened : player.Opened behind after) (same : Player.Noted after noted) :
    player.Opened behind noted where
  sink := by rw [same.peer, opened.sink]
  feed := by rw [same.peer, opened.feed]
  cached packet known := same.peer.trans (opened.cached packet known)

theorem Player.opened_of_opens {player : Player} {handshake : Packet} {behind : Feed}
    (opens : player.Opens handshake behind) :
    ∃ after, handshakePacket player = .ok handshake after ∧ player.Advanced behind after ∧
      player.Opened behind after := by
  obtain ⟨after, read, advanced⟩ := handshakePacket_of_opens opens
  refine ⟨after, read, advanced, advanced.sink, advanced.feed, fun packet known => ?_⟩
  rw [handshakePacket_cached known] at read
  cases read
  rfl

namespace ServerBackend

section Status

variable {player : Player} {outbound opened : Outbound} {handshake : Packet} {behind : Feed}

theorem status_unread (backend : ServerBackend) (outbound : Outbound)
    (nothing : ∀ handshake behind, ¬ player.Opens handshake behind) :
    ∃ e source, player.peer.source.readPacket = .error e source ∧
      (Backend.server backend).status ⟨player, outbound⟩ =
        .error (.handshakeUnavailable e) ⟨player.withSource source, outbound⟩ := by
  obtain ⟨e, source, read, unread⟩ := Player.handshakePacket_of_not_opens nothing
  exact ⟨e, source, read, withConnection_error unread⟩

theorem status_failed (backend : ServerBackend) {e : IoError}
    (opens : player.Opens handshake behind)
    (dial : outbound.connect backend.connector = (.failed e, opened)) :
    ∃ after, player.Opened behind after ∧ (Backend.server backend).status ⟨player, outbound⟩ =
      .error (.backendConnect backend.id e) ⟨after, opened.close backend.connector none⟩ := by
  obtain ⟨after, read, -, known⟩ := Player.opened_of_opens opens
  exact ⟨_, known.noted (.events _ _), withConnection_failed read dial⟩

theorem status_connected (backend : ServerBackend) {link : BackendLink}
    (opens : player.Opens handshake behind)
    (dial : outbound.connect backend.connector = (.connected link, opened)) :
    ∃ start run, player.Opened behind start ∧
      (Backend.server backend).status ⟨player, outbound⟩ = onState (leave backend opened) run ∧
      Fetched backend (backend.greeting player handshake ++ link.statusRequest.encode) start link
        run := by
  obtain ⟨after, read, advanced, known⟩ := Player.opened_of_opens opens
  have fetched :=
    backend.greet_fetchStatus_fetched handshake (announced backend outbound after) link
  have greeting : backend.greeting (announced backend outbound after) handshake =
      backend.greeting player handshake := by
    rw [ServerBackend.greeting, ServerBackend.greeting, header, header, ← advanced.remote,
      ← advanced.localAddress]
    rfl
  rw [greeting] at fetched
  exact ⟨_, _, known.noted (.events _ _), withConnection_connected read dial, fetched⟩

end Status

/-- **Fetching a status**, for every player, every backend behind a connector and every outbound
side.  Without a handshake packet nothing is connected.  Otherwise there is one connect, and over
the connection a front of the header, the handshake packet and the request is sent.  Unless all of
it gets through and is flushed, nothing is read; where it does, the answer is heard behind the last
flush, and all behind its frame is left.  The fetch succeeds just where that frame is a status
response, and answers it as it came.  The player is asked for nothing but the handshake packet. -/
theorem fetches_status (backend : ServerBackend) (player : Player) (outbound : Outbound) :
    let result := (Backend.server backend).status ⟨player, outbound⟩
    let final := stateOf result
    ((∀ handshake behind, ¬ player.Opens handshake behind) →
      ∃ e source, player.peer.source.readPacket = .error e source ∧
        result = .error (.handshakeUnavailable e) ⟨player.withSource source, outbound⟩) ∧
    ∀ handshake behind, player.Opens handshake behind →
      player.Opened behind final.player ∧
      (∀ e opened, outbound.connect backend.connector = (.failed e, opened) →
        result = .error (.backendConnect backend.id e) final ∧
          final.outbound = opened.close backend.connector none) ∧
      ∀ link opened, outbound.connect backend.connector = (.connected link, opened) →
        let front := backend.greeting player handshake ++ link.statusRequest.encode
        ∃ left, final.outbound = opened.close backend.connector (some left) ∧
          left.peer.released = true ∧ Sink.Carried front link.peer.sink left.peer.sink ∧
          (¬ link.peer.sink.Passes front → left.peer.source = link.peer.source) ∧
          (link.peer.sink.Passes front → ∃ asked : Exchange,
            link.peer.sink.Passed front 2 asked.server.peer.sink ∧
              asked.server.peer.source = link.peer.source ∧
              result = onState (leave backend opened) (backend.hear asked) ∧
              left.peer.sink = asked.server.peer.sink ∧
              ∀ first rest, link.peer.source.feed.Starts first rest →
                left.peer.source.feed = rest) ∧
          ∀ response, result = .ok response final ↔ link.peer.sink.Passes front ∧
            ∃ rest, link.peer.source.feed.Starts response rest ∧ response.id = 0 ∧
              ∃ text more, VarInt.StartsWithText response.data text more := by
  intro result final
  refine ⟨backend.status_unread outbound, fun handshake behind opens => ?_⟩
  refine ⟨?_, fun e opened dial => ?_, fun link opened dial => ?_⟩
  · cases dial : outbound.connect backend.connector with
    | mk answer opened =>
        cases answer with
        | failed e =>
            obtain ⟨after, known, run⟩ := backend.status_failed opens dial
            have last : final = _ := congrArg stateOf run
            rwa [last]
        | connected link =>
            obtain ⟨start, run, known, same, fetched⟩ := backend.status_connected opens dial
            have last : final = _ := congrArg stateOf same
            rw [last, stateOf_onState]
            exact known.noted fetched.player_noted
  · obtain ⟨after, known, run⟩ := backend.status_failed opens dial
    have last : final = _ := congrArg stateOf run
    rw [last]
    exact ⟨run, rfl⟩
  · obtain ⟨start, run, known, same, fetched⟩ := backend.status_connected opens dial
    have last : final = leave backend opened (stateOf run) :=
      (congrArg stateOf same).trans (stateOf_onState _ _)
    refine ⟨_, congrArg Session.outbound last, rfl, fetched.carried, fetched.source_eq, ?_, ?_⟩
    · intro passes
      obtain ⟨asked, passed, unread, rfl⟩ := fetched.exists_asked passes
      have answered := backend.hear_answered asked
      refine ⟨asked, passed, unread, same, answered.sink_eq, fun first rest starts => ?_⟩
      rw [← unread] at starts
      exact (answered.of_starts starts).1
    · intro response
      rw [← fetched.ok_iff]
      constructor
      · intro ok
        have run' : onState (leave backend opened) run = .ok response final := same.symm.trans ok
        cases run with
        | ok answer after => exact ⟨after, by rw [(EStateM.Result.ok.inj run').1]⟩
        | error e after => cases run'
      · rintro ⟨after, rfl⟩
        rw [last]
        exact same

end ServerBackend

end GameGateway
