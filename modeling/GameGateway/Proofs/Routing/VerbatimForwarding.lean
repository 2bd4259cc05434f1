import GameGateway.Proofs.Routing.Dispatch
import GameGateway.Proofs.Routing.LoginForwarding
import GameGateway.Proofs.Stream.PacketSequence

/-!
# What a backend reads of a login

A backend is sent the packets that the gateway read, each in its written frame, and then the bytes
behind them.  So it reads those very packets, whatever frames the player sent (`Relayed.reads`), and
what it is sent is no copy of the player's stream unless the player wrote canonical frames
(`Feed.Pair.relayed_eq_iff`).

An interruption among the first two frames does not end the player's stream, because the read of a
packet goes on behind it; behind these frames it does (`Feed.heard`).
-/

namespace GameGateway

namespace Feed

variable {feed rest : Feed} {first second : Packet} {frame frame' : Bytes}

/-- The bytes of a stream up to its first fault or end, where interruptions do not count until `n`
bytes have come. -/
def heard (n : Nat) (feed : Feed) : Bytes :=
  feed.patient.take n ++ (feed.skip n).delivered

/-- Where no interruption comes before `n` bytes have come, none is passed over. -/
theorem heard_eq_delivered {n : Nat} (uninterrupted : n ≤ feed.delivered.length) :
    feed.heard n = feed.delivered := by
  induction feed generalizing n with
  | nil =>
      obtain rfl : n = 0 := Nat.le_zero.1 uninterrupted
      rfl
  | cons symbol feed ih =>
      cases n with
      | zero => simp [heard]
      | succ n =>
          cases symbol with
          | byte b =>
              have fewer : n ≤ (delivered feed).length :=
                Nat.le_of_succ_le_succ uninterrupted
              have same := congrArg (b :: ·) (ih fewer)
              exact same
          | fault e => exact absurd uninterrupted (Nat.not_succ_le_zero n)
          | finish => exact absurd uninterrupted (Nat.not_succ_le_zero n)

/-- A stream that starts with two frames, of two packets. -/
structure Pair (feed : Feed) (first second : Packet) (frame frame' : Bytes) (rest : Feed) :
    Prop where
  first : Frame.Carries frame first
  second : Frame.Carries frame' second
  front : ∃ bytes, feed.patient = (frame ++ frame') ++ bytes
  rest : rest = feed.skip (frame ++ frame').length

theorem exists_pair {behind : Feed} (starts : feed.Starts first behind)
    (next : behind.Starts second rest) :
    ∃ frame frame', feed.Pair first second frame frame' rest := by
  obtain ⟨frame, bytes, carries, front, rfl⟩ := starts_iff.1 starts
  obtain ⟨frame', bytes', carries', front', rfl⟩ := starts_iff.1 next
  have left : (feed.skip frame.length).patient = bytes := (skip_patient front).1
  have more : bytes = frame' ++ bytes' := left.symm.trans front'
  refine ⟨frame, frame', carries, carries', ⟨bytes', ?_⟩, ?_⟩
  · rw [front, more, List.append_assoc]
  · rw [List.length_append, skip_add]

/-- What is sent on of a stream that starts with two packets. -/
def relayed (first second : Packet) (rest : Feed) : Bytes :=
  first.encode ++ (second.encode ++ rest.delivered)

namespace Pair

theorem heard_eq (pair : feed.Pair first second frame frame' rest) :
    feed.heard (frame ++ frame').length = (frame ++ frame') ++ rest.delivered := by
  obtain ⟨bytes, front⟩ := pair.front
  rw [heard, front, List.take_left, pair.rest]

/-- **What is sent on is the stream itself just where both frames are canonical.** -/
theorem relayed_eq_iff (pair : feed.Pair first second frame frame' rest) :
    relayed first second rest = feed.heard (frame ++ frame').length ↔
      Frame.IsCanonical frame ∧ Frame.IsCanonical frame' := by
  rw [pair.heard_eq, relayed, ← List.append_assoc, List.append_cancel_right_eq,
    ← pair.first.encode_eq_iff, ← pair.second.encode_eq_iff]
  constructor
  · intro same
    -- neither frame grows when it is written again, so both keep their length
    have short := pair.first.length_encode_le
    have short' := pair.second.length_encode_le
    have total := congrArg List.length same
    rw [List.length_append, List.length_append] at total
    exact List.append_inj same (by omega)
  · rintro ⟨same, same'⟩
    rw [same, same']

/-- What is sent on is read as the two packets, and what follows them is left. -/
theorem relayed_reads (pair : feed.Pair first second frame frame' rest) {source : Source}
    (front : source.feed.patient = relayed first second rest) :
    ∃ middle last : Source, source.readPacket = .ok first middle ∧
      middle.readPacket = .ok second last ∧ last.feed.patient = rest.delivered := by
  obtain ⟨middle, read, left, -⟩ :=
    Source.readPacket_encode pair.first.bodyLength_bounded front
  obtain ⟨last, read', left', -⟩ :=
    Source.readPacket_encode pair.second.bodyLength_bounded left
  exact ⟨middle, last, read, read', left'⟩

end Pair

end Feed

/-! ## The player's stream from its start -/

/-- A player that has sent `origin` from the start on, of which at most the handshake packet was
read. -/
def Player.HasSent (player : Player) (origin : Feed) : Prop :=
  match player.cache.handshakePacket with
  | none => player.peer.source.feed = origin
  | some packet => origin.Starts packet player.peer.source.feed

theorem Player.HasSent.starts {player : Player} {origin behind : Feed} {handshake : Packet}
    (sent : player.HasSent origin) (opens : player.Opens handshake behind) :
    origin.Starts handshake behind := by
  unfold HasSent at sent
  unfold Opens at opens
  cases known : player.cache.handshakePacket with
  | none =>
      rw [known] at sent opens
      exact sent ▸ opens
  | some packet =>
      rw [known] at sent opens
      obtain ⟨rfl, rfl⟩ := opens
      exact sent

/-! ## Logins that reach the tunnel -/

/-- What a login made of a player's stream: two packets were read off it, and behind the header the
backend was sent these packets and what follows them. -/
structure Relayed (origin : Feed) (header : Bytes) (sink after : Sink) (handshake login : Packet)
    (frame frame' : Bytes) (rest : Feed) : Prop where
  pair : origin.Pair handshake login frame frame' rest
  written : sink.admits (header ++ Feed.relayed handshake login rest) =
      header ++ Feed.relayed handshake login rest →
    after.written = sink.written ++ (header ++ Feed.relayed handshake login rest)
  reads : ∀ source : Source, source.feed.patient = Feed.relayed handshake login rest →
    ∃ middle last : Source, source.readPacket = .ok handshake middle ∧
      middle.readPacket = .ok login last ∧ last.feed.patient = rest.delivered
  verbatim : Feed.relayed handshake login rest = origin.heard (frame ++ frame').length ↔
    Frame.IsCanonical frame ∧ Frame.IsCanonical frame'
  uninterrupted : (frame ++ frame').length ≤ origin.delivered.length →
    origin.heard (frame ++ frame').length = origin.delivered

theorem Relayed.of_carried {origin behind rest : Feed} {header : Bytes} {sink after : Sink}
    {handshake login : Packet} (starts : origin.Starts handshake behind)
    (next : behind.Starts login rest) (flushes : sink.flushFault = none)
    (carried : sink.Carried (header ++ Feed.relayed handshake login rest) after) :
    ∃ frame frame', Relayed origin header sink after handshake login frame frame' rest := by
  obtain ⟨frame, frame', pair⟩ := Feed.exists_pair starts next
  refine ⟨frame, frame', pair, fun accepts => ?_, fun source front => pair.relayed_reads front,
    pair.relayed_eq_iff, Feed.heard_eq_delivered⟩
  obtain ⟨sent, flushed, shut, grown, -, all⟩ := carried
  rw [grown.written, all flushes, accepts]

namespace ServerBackend

/-- A login that succeeds was read and decoded, and was carried to the backend. -/
theorem login_ok {backend : ServerBackend} {player : Player} {outbound : Outbound} {final : Session}
    (unknown : player.cache.loginPacket = none)
    (run : (Backend.server backend).login ⟨player, outbound⟩ = .ok () final) :
    ∃ handshake behind login rest link opened left, player.Opens handshake behind ∧
      behind.Starts login rest ∧
      outbound.connect backend.connector = (.connected link, opened) ∧
      final.outbound = opened.close backend.connector (some left) ∧
      link.peer.sink.flushFault = none ∧
      link.peer.sink.Carried (backend.header player ++ Feed.relayed handshake login rest)
        left.peer.sink := by
  by_cases opens : ∃ handshake behind, player.Opens handshake behind
  · obtain ⟨handshake, behind, opens⟩ := opens
    cases dial : outbound.connect backend.connector with
    | mk answer opened =>
        cases answer with
        | failed e =>
            obtain ⟨after, failed, -⟩ := backend.login_failed player opens dial
            rw [failed] at run
            cases run
        | connected link =>
            obtain ⟨joined, same, stopped, forwarded⟩ :=
              backend.login_connected player unknown opens dial
            rw [same] at run
            by_cases usable : ∃ packet rest login, behind.Starts packet rest ∧
                LoginStart.ofPacket packet = .ok login
            · obtain ⟨packet, rest, login, next, decoded⟩ := usable
              cases forwarded packet rest login next decoded with
              | joined through flushes forth back =>
                  cases run
                  refine ⟨handshake, behind, packet, rest, link, opened, _, opens, next, rfl, rfl,
                    flushes, ?_⟩
                  have sent := forth
                  simp only [greeting, List.append_assoc] at sent
                  exact sent
              | stopped torn forth untouched => cases run
            · have unusable : ∀ packet rest login, behind.Starts packet rest →
                  LoginStart.ofPacket packet ≠ .ok login :=
                fun packet rest login next decoded => usable ⟨packet, rest, login, next, decoded⟩
              obtain ⟨e, exchange, rfl, -⟩ := stopped unusable
              cases run
  · have unread : ∀ handshake behind, ¬ player.Opens handshake behind :=
      fun handshake behind found => opens ⟨handshake, behind, found⟩
    obtain ⟨e, source, failed⟩ := backend.login_unread player outbound unread
    rw [failed] at run
    cases run

end ServerBackend

namespace Gateway

/-- A session goes to a login where its first frame is a handshake whose address has that
backend. -/
theorem decision_login {lookup : String → Option Backend} {feed behind : Feed} {backend : Backend}
    (decided : decision lookup feed = (.login backend, behind)) :
    ∃ packet handshake, feed.Starts packet behind ∧ Handshake.ofPacket packet = .ok handshake ∧
      lookup handshake.serverAddress = some backend := by
  have called : (decision lookup feed).1.backend? = some backend := by
    rw [decided]
    rfl
  have found := decision_backend? called
  rwa [decided] at found

/-- A session that ends as a login called the backend of the address in its handshake, with a player
of whom that handshake packet was read and kept. -/
theorem handle_login {store : Store Backend} {session final : Session}
    (fresh : session.player.cache = {}) (run : handle store session = .ok .login final) :
    ∃ packet behind handshake backend start after,
      session.player.peer.source.feed.Starts packet behind ∧
      Handshake.ofPacket packet = .ok handshake ∧
      store.lookup handshake.serverAddress = some backend ∧
      start.player.cache.handshakePacket = some packet ∧
      session.player.Advanced behind start.player ∧ start.outbound = session.outbound ∧
      backend.login start = .ok () after ∧ final = handle.leave after := by
  have served := handle_served store session fresh
  rw [run] at served
  cases known : decision store.lookup session.player.peer.source.feed with
  | mk decided behind =>
      rw [known] at served
      cases served with
      | @loginServed backend start after heard called =>
          obtain ⟨packet, handshake, starts, shaken, found⟩ := decision_login known
          exact ⟨packet, behind, handshake, backend, start, after, starts, shaken, found,
            heard.kept packet starts, heard.player, heard.outbound, called, rfl⟩

end Gateway

/-! ## The result -/

/-- Whether a decoder or a stream reader takes a byte string as one frame of a packet. -/
def Frame.Accepted (frame : Bytes) (packet : Packet) : Prop :=
  Packet.decode frame = .ok packet [] ∨
    ∃ source after : Source, source.feed.patient = frame ∧ source.readPacket = .ok packet after ∧
      after.feed.patient = []

theorem Frame.Accepted.carries {frame : Bytes} {packet : Packet}
    (accepted : Frame.Accepted frame packet) : Frame.Carries frame packet := by
  rcases accepted with decoded | ⟨source, after, rfl, read, used⟩
  · obtain ⟨_, carries, rfl⟩ := Packet.decode_eq_ok_iff.1 decoded
    rwa [List.append_nil]
  · obtain ⟨frame, bytes, carries, front, left⟩ :=
      Feed.starts_iff.1 (Source.starts_of_readPacket read)
    have nothing : bytes = [] := by
      rw [← (Feed.skip_patient front).1, ← left, used]
    rw [front, nothing, List.append_nil]
    exact carries

namespace ServerBackend

/-- **What is forwarded is what was parsed.**  A frame that is accepted carries a packet whose
written frame is accepted too, is read as the same packet whatever follows it, is no longer, and is
the same frame just where that one was canonical.  So the backend of a login reads, behind the
header, the packets that were read of the player; and what it is sent there is the player's stream
just where the first two frames of that are canonical.  The same holds of a session that ends as a
login, where the first packet is the handshake that was looked up. -/
theorem forwards_what_was_parsed :
    (∀ frame packet, Frame.Accepted frame packet →
      (∃ length body, VarInt.read frame = .ok length body ∧ packet.bodyLength ≤ length.toNat ∧
        length.toNat ≤ maxFrameLength) ∧
      (∀ rest, Packet.decode (packet.encode ++ rest) = .ok packet rest) ∧
      (∀ (source : Source) (rest : Bytes), source.feed.patient = packet.encode ++ rest →
        ∃ after : Source, source.readPacket = .ok packet after ∧ after.feed.patient = rest) ∧
      packet.encode.length ≤ frame.length ∧
      (packet.encode = frame ↔ Frame.IsCanonical frame)) ∧
    (∀ (backend : ServerBackend) (player : Player) (outbound : Outbound) (origin : Feed)
        (final : Session),
      player.HasSent origin → player.cache.loginPacket = none →
      (Backend.server backend).login ⟨player, outbound⟩ = .ok () final →
      ∃ handshake login frame frame' rest link opened left,
        outbound.connect backend.connector = (.connected link, opened) ∧
        final.outbound = opened.close backend.connector (some left) ∧
        Relayed origin (backend.header player) link.peer.sink left.peer.sink handshake login frame
          frame' rest) ∧
    ∀ (store : Store Backend) (session final : Session), session.player.cache = {} →
      Gateway.handle store session = .ok .login final →
      ∃ handshake behind request, session.player.peer.source.feed.Starts handshake behind ∧
        Handshake.ofPacket handshake = .ok request ∧
        ∀ backend : ServerBackend,
          store.lookup request.serverAddress = some (Backend.server backend) →
          ∃ login frame frame' rest link opened left,
            session.outbound.connect backend.connector = (.connected link, opened) ∧
            final.outbound = opened.close backend.connector (some left) ∧
            Relayed session.player.peer.source.feed (backend.header session.player) link.peer.sink
              left.peer.sink handshake login frame frame' rest := by
  refine ⟨fun frame packet accepted => ?_, ?_, ?_⟩
  · have carries := accepted.carries
    refine ⟨carries.declared, Packet.decode_encode carries.bodyLength_bounded, ?_,
      carries.length_encode_le, carries.encode_eq_iff⟩
    intro source rest front
    obtain ⟨after, read, left, -⟩ := Source.readPacket_encode carries.bodyLength_bounded front
    exact ⟨after, read, left⟩
  · intro backend player outbound origin final sent unknown run
    obtain ⟨handshake, behind, login, rest, link, opened, left, opens, next, dial, closed, flushes,
      carried⟩ := login_ok unknown run
    obtain ⟨frame, frame', relayed⟩ :=
      Relayed.of_carried (sent.starts opens) next flushes carried
    exact ⟨handshake, login, frame, frame', rest, link, opened, left, dial, closed, relayed⟩
  · intro store session final fresh run
    obtain ⟨handshake, behind, request, found, start, after, starts, shaken, lookup, kept, advanced,
      outbound, called, rfl⟩ := Gateway.handle_login fresh run
    refine ⟨handshake, behind, request, starts, shaken, fun backend same => ?_⟩
    rw [lookup] at same
    cases same
    have unknown : start.player.cache.loginPacket = none := by
      rw [advanced.loginPacket, fresh]
    obtain ⟨packet, behind', login, rest, link, opened, left, opens, next, dial, closed, flushes,
      carried⟩ := login_ok unknown called
    -- the packet that was kept is the one that the backend is greeted with
    unfold Player.Opens at opens
    rw [kept] at opens
    obtain ⟨rfl, rfl⟩ := opens
    rw [advanced.feed] at next
    have header : backend.header start.player = backend.header session.player := by
      rw [ServerBackend.header, ServerBackend.header, advanced.remote, advanced.localAddress]
    rw [header] at carried
    rw [outbound] at dial
    obtain ⟨frame, frame', relayed⟩ := Relayed.of_carried starts next flushes carried
    exact ⟨login, frame, frame', rest, link, opened, left, dial, closed, relayed⟩

/-- Where an interruption comes in front of the first frame, the backend is sent canonical frames as
they came, though the player's stream has its first fault before any byte. -/
theorem verbatim_fails_behind_interruption :
    ¬ ∀ (backend : ServerBackend) (player : Player) (outbound opened : Outbound) (final : Session)
        (link left : BackendLink) (handshake login : Packet) (frame frame' : Bytes) (rest : Feed),
      player.cache = {} → (Backend.server backend).login ⟨player, outbound⟩ = .ok () final →
      outbound.connect backend.connector = (.connected link, opened) →
      final.outbound = opened.close backend.connector (some left) →
      link.peer.sink.allowance = none → link.peer.sink.flushFault = none →
      player.peer.source.feed.Pair handshake login frame frame' rest →
      (left.peer.sink.written =
          link.peer.sink.written ++ (backend.header player ++ player.peer.source.delivered) ↔
        Frame.IsCanonical frame ∧ Frame.IsCanonical frame') := by
  intro verbatim
  let backend : ServerBackend := { id := "b", connector := 0 }
  let handshake : Packet := ⟨0, []⟩
  let login : Packet := ⟨0, [0]⟩
  let source : Source := { script := [.fault ⟨.interrupted, "m"⟩, .chunk [1, 0, 2, 0, 0]] }
  let player : Player :=
    { peer := { source }, remote := ⟨.v4 0, 1, 0⟩, localAddress := ⟨.v4 0, 2, 0⟩ }
  let link : BackendLink := { peer := { source := { script := [] } } }
  let outbound : Outbound := { connectors := [.listed [.connected link]] }
  have opens : player.Opens handshake [.byte 2, .byte 0, .byte 0] :=
    Feed.readPacket_eq_ok_iff.1 rfl
  have next : Feed.Starts [.byte 2, .byte 0, .byte 0] login [] := Feed.readPacket_eq_ok_iff.1 rfl
  have decoded : LoginStart.ofPacket login = .ok ⟨""⟩ := rfl
  have first : Frame.Carries handshake.encode handshake := Packet.carries_encode (by decide)
  have second : Frame.Carries login.encode login := Packet.carries_encode (by decide)
  have pair : source.feed.Pair handshake login handshake.encode login.encode [] :=
    ⟨first, second, ⟨[], by decide +kernel⟩, by decide +kernel⟩
  let opened : Outbound := { connectors := [.listed []] }
  have dial : outbound.connect backend.connector = (.connected link, opened) := rfl
  obtain ⟨run, same, -, forwarded⟩ := backend.login_connected player rfl opens dial
  cases forwarded login [] ⟨""⟩ next decoded with
  | stopped torn => exact torn ⟨Sink.admits_of_allowance_eq_none rfl _, rfl⟩
  | @joined exchange through flushes forth =>
      have nothing : exchange.server.peer.sink.written = [] :=
        (verbatim backend player outbound opened _ link _ handshake login _ _ [] rfl same dial
          rfl rfl rfl pair).2 ⟨first.encode_eq_iff.1 rfl, second.encode_eq_iff.1 rfl⟩
      obtain ⟨sent, flushed, shut, grown, -, all⟩ := forth
      have got := all rfl
      rw [Sink.admits_of_allowance_eq_none rfl] at got
      rw [grown.written, got] at nothing
      -- yet the login packet was sent
      have front := (List.append_eq_nil_iff.1 (List.append_eq_nil_iff.1 nothing).2).1
      have unsent : login.encode = [] := (List.append_eq_nil_iff.1 front).2
      exact absurd unsent (by decide +kernel)

end ServerBackend

end GameGateway
