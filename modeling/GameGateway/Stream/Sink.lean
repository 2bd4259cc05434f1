import GameGateway.Bytes
import GameGateway.Wire.IoError

/-!
# The sending side of a stream

What a peer accepts: at most so many bytes a write, so many bytes in all, and perhaps no flush or no
shutdown.  A sink keeps the calls that were made on it; `Sink.written`, `Sink.flushes` and
`Sink.shutdowns` are what the peer sees of them.

`Sink.writeAll` repeats single writes until everything is accepted or one write fails; what was
accepted before a failure stays written.
-/

namespace GameGateway

/-- One call on a sink, with its outcome. -/
inductive SinkCall
  /-- A write of which these bytes were accepted. -/
  | wrote (bytes : Bytes)
  | writeFailed (error : IoError)
  | flushed
  | flushFailed (error : IoError)
  | shutDown
  | shutdownFailed (error : IoError)
  deriving DecidableEq, Repr

/-- The sending side of a stream. -/
structure Sink where
  /-- The most bytes that one write accepts, if there is a limit. -/
  perWrite : Option Nat := none
  /-- How many bytes are still accepted, if there is a limit. -/
  room : Option Nat := none
  /-- What a write answers where there is no room; without it such a write accepts nothing. -/
  full : Option IoError := none
  /-- What every flush answers, if it fails. -/
  flushFault : Option IoError := none
  /-- What every shutdown answers, if it fails. -/
  shutdownFault : Option IoError := none
  /-- The calls so far, newest first. -/
  calls : List SinkCall := []
  deriving DecidableEq, Repr

namespace SinkCall

/-- The bytes that a call got accepted. -/
def accepted : SinkCall → Bytes
  | wrote bytes => bytes
  | _ => []

def isFlush : SinkCall → Bool
  | flushed | flushFailed _ => true
  | _ => false

def isShutdown : SinkCall → Bool
  | shutDown | shutdownFailed _ => true
  | _ => false

end SinkCall

namespace Sink

/-! ## What the peer sees -/

/-- The bytes accepted so far, in order. -/
def written (sink : Sink) : Bytes :=
  sink.calls.reverse.flatMap SinkCall.accepted

/-- How many flushes were called. -/
def flushes (sink : Sink) : Nat :=
  sink.calls.countP SinkCall.isFlush

/-- How many shutdowns were called. -/
def shutdowns (sink : Sink) : Nat :=
  sink.calls.countP SinkCall.isShutdown

/-! ## Calls -/

/-- The most bytes that the next write accepts, if there is a limit. -/
def capacity (sink : Sink) : Option Nat :=
  match sink.perWrite, sink.room with
  | none, room => room
  | perWrite, none => perWrite
  | some perWrite, some room => some (min perWrite room)

/-- Notes a call. -/
def note (sink : Sink) (call : SinkCall) : Sink :=
  { sink with calls := call :: sink.calls }

/-- A single write, which answers how many bytes were accepted. -/
def write (bytes : Bytes) : EStateM IoError Sink Nat := fun sink =>
  match sink.room, sink.full with
  | some 0, some e => .error e (sink.note (.writeFailed e))
  | room, _ =>
    let piece := match sink.capacity with
      | none => bytes
      | some n => bytes.take n
    .ok piece.length { sink.note (.wrote piece) with room := room.map (· - piece.length) }

/-- Writes until everything is accepted or a write fails. -/
def writeAll (bytes : Bytes) : EStateM IoError Sink Unit := fun sink =>
  match bytes with
  | [] => .ok () sink
  | b :: rest =>
    match write (b :: rest) sink with
    | .error e sink => .error e sink
    | .ok 0 sink => .error .writeZero sink
    | .ok (n + 1) sink => writeAll (rest.drop n) sink
termination_by bytes.length
decreasing_by
  simp only [List.length_drop, List.length_cons]
  omega

/-- Asks the stream to pass on what was written. -/
def flush : EStateM IoError Sink Unit := fun sink =>
  match sink.flushFault with
  | some e => .error e (sink.note (.flushFailed e))
  | none => .ok () (sink.note .flushed)

/-- Ends our side of the stream.  Later writes are not stopped by it. -/
def shutdown : EStateM IoError Sink Unit := fun sink =>
  match sink.shutdownFault with
  | some e => .error e (sink.note (.shutdownFailed e))
  | none => .ok () (sink.note .shutDown)

/-! ## Calls seen through `written` -/

theorem written_note (sink : Sink) (call : SinkCall) :
    (sink.note call).written = sink.written ++ call.accepted := by
  simp [written, note, List.flatMap_append]

end Sink

end GameGateway
