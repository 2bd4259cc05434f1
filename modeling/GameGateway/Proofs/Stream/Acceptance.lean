import GameGateway.Proofs.StateAction
import GameGateway.Stream.Peer

/-!
# What a sink accepts

However little one write accepts, writing everything gets through what the sink still has room for,
in order, and fails if that is not all of it (`Sink.writeAll_spec`).  `Sink.Grown` says how calls
change a sink: by the bytes that were accepted and by the flushes and shutdowns that were called,
and by nothing else, and `Sink.Carried` that of some bytes a front was accepted.
-/

namespace GameGateway

namespace Sink

/-- How many bytes are still accepted in all, if there is a limit.  Writes that accept nothing never
get anywhere. -/
def allowance (sink : Sink) : Option Nat :=
  if sink.perWrite = some 0 then some 0 else sink.room

/-- The part of some bytes that gets through. -/
def admits (sink : Sink) (bytes : Bytes) : Bytes :=
  match sink.allowance with
  | none => bytes
  | some n => bytes.take n

/-- What a write answers once nothing gets through. -/
def refusal (sink : Sink) : IoError :=
  if sink.perWrite = some 0 ∧ sink.room ≠ some 0 then .writeZero else sink.full.getD .writeZero

/-- What a sink becomes by calls that got `bytes` accepted. -/
structure Grown (sink : Sink) (bytes : Bytes) (flushed shut : Nat) (after : Sink) : Prop where
  perWrite : after.perWrite = sink.perWrite
  room : after.room = sink.room.map (· - bytes.length)
  full : after.full = sink.full
  flushFault : after.flushFault = sink.flushFault
  shutdownFault : after.shutdownFault = sink.shutdownFault
  written : after.written = sink.written ++ bytes
  flushes : after.flushes = sink.flushes + flushed
  shutdowns : after.shutdowns = sink.shutdowns + shut

namespace Grown

variable {sink middle after : Sink} {bytes more : Bytes} {f f' s s' : Nat}

theorem refl (sink : Sink) : Grown sink [] 0 0 sink :=
  ⟨rfl, by simp, rfl, rfl, rfl, by simp, rfl, rfl⟩

theorem trans (first : Grown sink bytes f s middle) (second : Grown middle more f' s' after) :
    Grown sink (bytes ++ more) (f + f') (s + s') after where
  perWrite := second.perWrite.trans first.perWrite
  room := by
    rw [second.room, first.room, Option.map_map, List.length_append]
    congr 1
    funext n
    simp [Nat.sub_sub]
  full := second.full.trans first.full
  flushFault := second.flushFault.trans first.flushFault
  shutdownFault := second.shutdownFault.trans first.shutdownFault
  written := by rw [second.written, first.written, List.append_assoc]
  flushes := by rw [second.flushes, first.flushes, Nat.add_assoc]
  shutdowns := by rw [second.shutdowns, first.shutdowns, Nat.add_assoc]

theorem allowance_eq (grown : Grown sink bytes f s after) :
    after.allowance = sink.allowance.map (· - bytes.length) := by
  unfold allowance
  rw [grown.perWrite, grown.room]
  split <;> simp

theorem note (sink : Sink) (call : SinkCall) (nothing : call.accepted = []) :
    Grown sink [] (if call.isFlush then 1 else 0) (if call.isShutdown then 1 else 0)
      (sink.note call) where
  perWrite := rfl
  room := by simp [Sink.note]
  full := rfl
  flushFault := rfl
  shutdownFault := rfl
  written := by rw [written_note, nothing]
  flushes := by simp [Sink.flushes, Sink.note, List.countP_cons]
  shutdowns := by simp [Sink.shutdowns, Sink.note, List.countP_cons]

end Grown

theorem admits_of_allowance_eq_none {sink : Sink} (free : sink.allowance = none) (bytes : Bytes) :
    sink.admits bytes = bytes := by
  simp [admits, free]

theorem admits_prefix (sink : Sink) (bytes : Bytes) : sink.admits bytes <+: bytes := by
  unfold admits
  split
  · exact List.prefix_rfl
  · exact List.take_prefix _ _

section Append

variable {sink after : Sink} {bytes : Bytes} {f s : Nat}

theorem admits_append (through : sink.admits bytes = bytes) (grown : Grown sink bytes f s after)
    (more : Bytes) : sink.admits (bytes ++ more) = bytes ++ after.admits more := by
  unfold admits at through ⊢
  rw [grown.allowance_eq]
  cases limit : sink.allowance with
  | none => rfl
  | some n =>
      rw [limit] at through
      have fits : bytes.length ≤ n := by
        have whole := congrArg List.length through
        rw [List.length_take] at whole
        omega
      simp [List.take_append, List.take_of_length_le fits]

theorem admits_append_of_ne (stuck : sink.admits bytes ≠ bytes) (more : Bytes) :
    sink.admits (bytes ++ more) = sink.admits bytes := by
  unfold admits at stuck ⊢
  cases limit : sink.allowance with
  | none =>
      rw [limit] at stuck
      exact absurd rfl stuck
  | some n =>
      rw [limit] at stuck
      have short : n ≤ bytes.length := by
        refine Nat.le_of_lt (Nat.lt_of_not_le fun fits => stuck ?_)
        exact List.take_of_length_le fits
      simp [List.take_append, Nat.sub_eq_zero_of_le short]

theorem admits_append_ne (stuck : sink.admits bytes ≠ bytes) (more : Bytes) :
    sink.admits (bytes ++ more) ≠ bytes ++ more := by
  intro whole
  rw [admits_append_of_ne stuck] at whole
  have front := sink.admits_prefix bytes
  rw [whole] at front
  obtain rfl : more = [] := by
    have length := front.length_le
    rw [List.length_append] at length
    exact List.length_eq_zero_iff.1 (by omega)
  rw [List.append_nil] at whole
  exact stuck whole

end Append

/-! ## Writing -/

/-- What a single write gets accepted, unless it fails. -/
def piece (sink : Sink) (bytes : Bytes) : Bytes :=
  match sink.capacity with
  | none => bytes
  | some n => bytes.take n

theorem write_error {bytes : Bytes} {sink after : Sink} {e : IoError}
    (run : write bytes sink = .error e after) :
    sink.room = some 0 ∧ sink.full = some e ∧ after = sink.note (.writeFailed e) := by
  unfold write at run
  split at run
  · next e' room full =>
      cases run
      exact ⟨room, full, rfl⟩
  · cases run

theorem write_ok {bytes : Bytes} {sink after : Sink} {n : Nat}
    (run : write bytes sink = .ok n after) :
    n = (sink.piece bytes).length ∧ (sink.room = some 0 → sink.full = none) ∧
      Grown sink (sink.piece bytes) 0 0 after := by
  unfold write at run
  split at run
  · cases run
  · next room full other =>
      cases run
      refine ⟨rfl, fun empty => ?_, ?_⟩
      · cases known : sink.full with
        | none => rfl
        | some e => exact (other e empty known).elim
      · exact ⟨rfl, rfl, rfl, rfl, rfl, written_note sink (.wrote (sink.piece bytes)),
          by simp [flushes, note, SinkCall.isFlush],
          by simp [shutdowns, note, SinkCall.isShutdown]⟩

theorem allowance_eq_zero {sink : Sink} (empty : sink.room = some 0) :
    sink.allowance = some 0 := by
  unfold allowance
  split
  · rfl
  · exact empty

theorem admits_of_allowance_eq_zero {sink : Sink} (closed : sink.allowance = some 0)
    (bytes : Bytes) : sink.admits bytes = [] := by
  simp [admits, closed]

theorem allowance_eq_zero_of_capacity {sink : Sink} (none' : sink.capacity = some 0) :
    sink.allowance = some 0 := by
  unfold capacity at none'
  unfold allowance
  split
  · rfl
  · next positive =>
      cases limit : sink.perWrite with
      | none => simpa [limit] using none'
      | some k =>
          cases room : sink.room with
          | none =>
              rw [limit, room] at none'
              exact absurd (limit.trans none') positive
          | some n =>
              simp only [limit, Option.some.injEq] at positive
              simp only [limit, room, Option.some.injEq] at none' ⊢
              omega

theorem capacity_le_allowance {sink : Sink} {m : Nat} (limit : sink.allowance = some m) :
    ∃ n, sink.capacity = some n ∧ n ≤ m := by
  unfold allowance at limit
  unfold capacity
  split at limit
  · next closed =>
      cases limit
      cases room : sink.room <;> simp [closed]
  · cases most : sink.perWrite with
    | none => exact ⟨m, limit, Nat.le_refl m⟩
    | some k => exact ⟨min k m, by rw [limit], Nat.min_le_right k m⟩

/-- A single write of some bytes gets a front of them through, and nothing only where nothing gets
through any more. -/
theorem piece_cons (sink : Sink) (b : UInt8) (bytes : Bytes) :
    sink.admits (sink.piece (b :: bytes)) = sink.piece (b :: bytes) ∧
      (b :: bytes) =
        sink.piece (b :: bytes) ++ (b :: bytes).drop (sink.piece (b :: bytes)).length ∧
      ((sink.piece (b :: bytes)).length = 0 → sink.allowance = some 0) := by
  refine ⟨?_, ?_, fun nothing => ?_⟩
  · cases limit : sink.allowance with
    | none => exact admits_of_allowance_eq_none limit _
    | some m =>
        obtain ⟨n, capacity, below⟩ := capacity_le_allowance limit
        simp [admits, limit, piece, capacity, List.take_take, Nat.min_eq_right below]
  · unfold piece
    split
    · simp
    · next n _ =>
        have taken := List.prefix_iff_eq_append.1 (List.take_prefix n (b :: bytes))
        exact taken.symm
  · unfold piece at nothing
    split at nothing
    · cases nothing
    · next n capacity =>
        rw [List.length_take, List.length_cons] at nothing
        obtain rfl : n = 0 := by omega
        exact allowance_eq_zero_of_capacity capacity

theorem refusal_of_room {sink : Sink} (empty : sink.room = some 0) :
    sink.refusal = sink.full.getD .writeZero := by
  simp [refusal, empty]

theorem refusal_of_allowance {sink : Sink} (closed : sink.allowance = some 0)
    (unnamed : sink.room = some 0 → sink.full = none) : sink.refusal = .writeZero := by
  unfold allowance at closed
  by_cases empty : sink.room = some 0
  · simp [refusal_of_room empty, unnamed empty]
  · have never : sink.perWrite = some 0 := by
      refine Decidable.byContradiction fun positive => empty ?_
      rwa [if_neg positive] at closed
    simp [refusal, never, empty]

/-- Where something gets through, the refusal stays the same. -/
theorem Grown.refusal_eq {sink after : Sink} {bytes : Bytes} {f s : Nat}
    (grown : Grown sink bytes f s after) (through : sink.admits bytes = bytes)
    (some' : bytes ≠ []) : after.refusal = sink.refusal := by
  have positive : sink.perWrite ≠ some 0 := by
    intro never
    have closed : sink.allowance = some 0 := by simp [allowance, never]
    rw [admits_of_allowance_eq_zero closed] at through
    exact some' through.symm
  simp [refusal, grown.perWrite, grown.full, positive]

/-- **Writing everything gets through what is admitted**, and fails if that is not all of it. -/
theorem writeAll_spec (bytes : Bytes) (sink : Sink) :
    ∃ after, Grown sink (sink.admits bytes) 0 0 after ∧
      writeAll bytes sink =
        if sink.admits bytes = bytes then .ok () after else .error sink.refusal after := by
  fun_induction writeAll bytes sink with
  | case1 sink =>
      have nothing : sink.admits [] = [] := by simpa using admits_prefix sink []
      exact ⟨sink, by rw [nothing]; exact .refl sink, by simp [nothing]⟩
  | case2 sink b rest e failed run =>
      obtain ⟨empty, named, rfl⟩ := write_error run
      have nothing := admits_of_allowance_eq_zero (allowance_eq_zero empty) (b :: rest)
      have grown := Grown.note sink (.writeFailed e) rfl
      refine ⟨sink.note (.writeFailed e), by rw [nothing]; exact grown, ?_⟩
      simp [nothing, refusal_of_room empty, named]
  | case3 sink b rest after run =>
      obtain ⟨none', unnamed, grown⟩ := write_ok run
      have closed := (piece_cons sink b rest).2.2 none'.symm
      have nothing := admits_of_allowance_eq_zero closed (b :: rest)
      rw [List.length_eq_zero_iff.1 none'.symm] at grown
      refine ⟨after, by rw [nothing]; exact grown, ?_⟩
      simp [nothing, refusal_of_allowance closed unnamed]
  | case4 sink b rest n after run ih =>
      obtain ⟨some', -, grown⟩ := write_ok run
      obtain ⟨through, split, -⟩ := piece_cons sink b rest
      rw [← some', List.drop_succ_cons] at split
      obtain ⟨last, more, tail⟩ := ih
      have nonempty : sink.piece (b :: rest) ≠ [] := by
        intro nothing
        simp [nothing] at some'
      -- what the tail is refused with is what the whole is refused with
      rw [grown.refusal_eq through nonempty] at tail
      refine ⟨last, ?_, ?_⟩
      · rw [split, admits_append through grown]
        exact grown.trans more
      · rw [tail, split, admits_append through grown]
        simp

/-! ## Flushing and shutting down -/

theorem flush_spec (sink : Sink) :
    ∃ after, Grown sink [] 1 0 after ∧
      flush sink = match sink.flushFault with
        | none => .ok () after
        | some e => .error e after := by
  unfold flush
  cases sink.flushFault with
  | none => exact ⟨_, .note sink .flushed rfl, rfl⟩
  | some e => exact ⟨_, .note sink (.flushFailed e) rfl, rfl⟩

theorem shutdown_spec (sink : Sink) :
    ∃ after, Grown sink [] 0 1 after ∧
      shutdown sink = match sink.shutdownFault with
        | none => .ok () after
        | some e => .error e after := by
  unfold shutdown
  cases sink.shutdownFault with
  | none => exact ⟨_, .note sink .shutDown rfl, rfl⟩
  | some e => exact ⟨_, .note sink (.shutdownFailed e) rfl, rfl⟩

/-! ## Writing and flushing -/

/-- Bytes that are written and then flushed get through in full, or fail at the flush, or fail in
the middle without a flush. -/
theorem writeAll_flush_spec (bytes : Bytes) (sink : Sink) :
    (sink.admits bytes = bytes ∧ ∃ after, Grown sink bytes 1 0 after ∧
        (do writeAll bytes; flush : EStateM IoError Sink Unit) sink =
          match sink.flushFault with
          | none => .ok () after
          | some e => .error e after) ∨
      (sink.admits bytes ≠ bytes ∧ ∃ after, Grown sink (sink.admits bytes) 0 0 after ∧
        (do writeAll bytes; flush : EStateM IoError Sink Unit) sink =
          .error sink.refusal after) := by
  obtain ⟨middle, grown, wrote⟩ := writeAll_spec bytes sink
  by_cases through : sink.admits bytes = bytes
  · rw [if_pos through] at wrote
    rw [through] at grown
    obtain ⟨after, flushed, run⟩ := flush_spec middle
    refine .inl ⟨through, after, by simpa using grown.trans flushed, ?_⟩
    rw [bind_ok wrote, run, grown.flushFault]
  · rw [if_neg through] at wrote
    exact .inr ⟨through, middle, grown, bind_error wrote⟩

/-- A packet is written as its frame and flushed once, if the frame gets through. -/
theorem writePacket_spec (packet : Packet) (sink : Sink) :
    (sink.admits packet.encode = packet.encode ∧
        ∃ after, Grown sink packet.encode 1 0 after ∧
          writePacket packet sink = match sink.flushFault with
            | none => .ok () after
            | some e => .error (.io e) after) ∨
      (sink.admits packet.encode ≠ packet.encode ∧
        ∃ after, Grown sink (sink.admits packet.encode) 0 0 after ∧
          writePacket packet sink = .error (.io sink.refusal) after) := by
  unfold writePacket
  obtain ⟨middle, grown, wrote⟩ := writeAll_spec packet.encode sink
  by_cases through : sink.admits packet.encode = packet.encode
  · rw [if_pos through] at wrote
    rw [through] at grown
    obtain ⟨after, flushed, run⟩ := flush_spec middle
    refine .inl ⟨through, after, by simpa using grown.trans flushed, ?_⟩
    rw [bind_ok (adaptExcept_ok _ wrote), EStateM.adaptExcept, run, grown.flushFault]
    cases sink.flushFault <;> rfl
  · rw [if_neg through] at wrote
    exact .inr ⟨through, middle, grown, bind_error (adaptExcept_error _ wrote)⟩

/-! ## What became of some bytes -/

/-- A sink got a front of some bytes: all that it admits, if no flush fails. -/
def Carried (bytes : Bytes) (sink after : Sink) : Prop :=
  ∃ sent flushed shut, Grown sink sent flushed shut after ∧ sent <+: bytes ∧
    (sink.flushFault = none → sent = sink.admits bytes)

namespace Carried

variable {sink middle after : Sink} {chunk rest : Bytes} {f s : Nat}

theorem nothing (grown : Grown sink [] f s after) : Carried [] sink after := by
  have none' : sink.admits [] = [] := List.prefix_nil.1 (sink.admits_prefix [])
  exact ⟨[], f, s, grown, List.prefix_rfl, fun _ => none'.symm⟩

theorem chunk_through (through : sink.admits chunk = chunk)
    (grown : Grown sink chunk f s middle) (more : Carried rest middle after) :
    Carried (chunk ++ rest) sink after := by
  obtain ⟨sent, f', s', grown', front, all⟩ := more
  refine ⟨chunk ++ sent, f + f', s + s', grown.trans grown', ?_, fun flushes => ?_⟩
  · exact (List.prefix_append_right_inj chunk).2 front
  · rw [admits_append through grown, ← all (grown.flushFault.trans flushes)]

theorem chunk_stuck (stuck : sink.admits chunk ≠ chunk)
    (grown : Grown sink (sink.admits chunk) f s after) (rest : Bytes) :
    Carried (chunk ++ rest) sink after := by
  refine ⟨sink.admits chunk, f, s, grown, ?_, fun _ => ?_⟩
  · exact (sink.admits_prefix chunk).trans (List.prefix_append chunk rest)
  · exact (admits_append_of_ne stuck rest).symm

theorem chunk_unflushed {e : IoError} (fault : sink.flushFault = some e)
    (grown : Grown sink chunk f s after) (rest : Bytes) :
    Carried (chunk ++ rest) sink after := by
  refine ⟨chunk, f, s, grown, List.prefix_append chunk rest, fun flushes => ?_⟩
  rw [fault] at flushes
  cases flushes

end Carried

/-- Bytes that are written and flushed are carried, and if they get through then so is what follows
them. -/
theorem writeAll_flush_carried (bytes rest : Bytes) (sink : Sink) :
    match (do writeAll bytes; flush : EStateM IoError Sink Unit) sink with
    | .ok _ middle => ∀ after, Carried rest middle after → Carried (bytes ++ rest) sink after
    | .error _ after => Carried (bytes ++ rest) sink after := by
  rcases writeAll_flush_spec bytes sink with
    ⟨through, after, grown, run⟩ | ⟨stuck, after, grown, run⟩
  · rw [run]
    cases fault : sink.flushFault with
    | none => exact fun _ more => .chunk_through through grown more
    | some e => exact .chunk_unflushed fault grown rest
  · rw [run]
    exact .chunk_stuck stuck grown rest

/-- A shutdown gets nothing accepted, whether or not it fails. -/
theorem shutdown_carried (sink : Sink) : Carried [] sink (stateOf (shutdown sink)) := by
  obtain ⟨after, grown, run⟩ := shutdown_spec sink
  rw [run]
  cases sink.shutdownFault <;> exact .nothing grown

end Sink

end GameGateway
