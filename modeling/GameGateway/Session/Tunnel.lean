import GameGateway.Session.Event
import GameGateway.Stream.Peer

/-!
# Tunnels

A tunnel joins two peers: what one sends is written to the other, in both directions at once, until
both directions have ended.  A direction ends with the first failed read, write or flush, or at the
end of the stream it reads; only then is the stream it writes shut down, so that the other peer sees
the end too.

Each direction reads one peer's source and writes the other peer's sink.  No source and no sink is
used by both directions, so neither can disturb the other, and `Tunnel.join` may run them one after
the other.
-/

namespace GameGateway

namespace Tunnel

/-- The most bytes that one read of a tunnel takes. -/
def bufferSize : Nat := 64 * 1024

/-- What one direction has done. -/
structure Copied where
  /-- How many bytes were read, written and flushed. -/
  total : Nat
  /-- What ended the direction, unless it was the end of the stream. -/
  fault : Option IoError
  deriving DecidableEq, Repr

/-- Copies what `source` sends to `sink`, `total` bytes having been copied already.  A piece counts
once it is written and flushed. -/
def copy (total : Nat) (source : Source) (sink : Sink) : Copied × Source × Sink :=
  match answered : source.read bufferSize with
  | (.data (b :: bs), rest) =>
    have : rest.unread < source.unread := by
      have := (Source.unread_read answered).1
      simp only [List.length_cons] at this
      omega
    match (do Sink.writeAll (b :: bs); Sink.flush : EStateM IoError Sink Unit) sink with
    | .ok _ sink => copy (total + (b :: bs).length) rest sink
    | .error e sink => (⟨total, some e⟩, rest, sink)
  | (.fault e, rest) => (⟨total, some e⟩, rest, sink)
  | (.finished, rest) | (.data [], rest) =>
    match Sink.shutdown sink with
    | .ok _ sink => (⟨total, none⟩, rest, sink)
    | .error e sink => (⟨total, some e⟩, rest, sink)
termination_by source.unread

/-- What a tunnel between two peers has done, and how it leaves them. -/
structure Joined where
  forth : Copied
  back : Copied
  a : Peer
  b : Peer
  deriving DecidableEq, Repr

/-- Joins two peers until both directions have ended. -/
def join (a b : Peer) : Joined :=
  let (forth, aSource, bSink) := copy 0 a.source b.sink
  let (back, bSource, aSink) := copy 0 b.source a.sink
  { forth, back
    a := { a with source := aSource, sink := aSink }
    b := { b with source := bSource, sink := bSink } }

/-- The events that the two ends of a tunnel report. -/
def Joined.events (joined : Joined) : List Event :=
  [.directionEnded .toBackend joined.forth.total joined.forth.fault,
    .directionEnded .toPlayer joined.back.total joined.back.fault]

end Tunnel

end GameGateway
