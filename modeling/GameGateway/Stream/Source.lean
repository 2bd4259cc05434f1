import GameGateway.Bytes
import GameGateway.Wire.IoError

/-!
# The receiving side of a stream

What a peer sends is a script: the chunks, faults and ends that reads will meet, in order.  A read
takes at most so many bytes, never from two chunks at once, and it never waits, because a pause is
only a point where the arrival of bytes is cut.  A fault and an end answer one read each, and later
reads go on behind them.  Once the script has run out, every read answers the end of the stream.
A fault may also be an interruption, which says nothing about the stream: `Source.readThrough`
repeats a read for as long as it is interrupted.

`Source.unread` counts the bytes still to come, and `Source.delivered` is what can be read before
the first fault or end.  `Source.unread_read` and `Source.unread_readThrough` say that a read takes
from the unread bytes exactly the bytes it answers.
-/

namespace GameGateway

/-- One thing that a peer's end of a stream does. -/
inductive Arrival
  | chunk (bytes : Bytes)
  | fault (error : IoError)
  | finish
  | pause
  deriving DecidableEq, Repr

/-- What one read answers. -/
inductive Answer
  | data (bytes : Bytes)
  | fault (error : IoError)
  | finished
  deriving DecidableEq, Repr

/-- The receiving side of a stream. -/
structure Source where
  /-- What reads will meet. -/
  script : List Arrival
  /-- What each read so far has answered, newest first. -/
  answers : List Answer := []
  deriving DecidableEq, Repr

namespace Arrival

/-- The bytes that an arrival brings. -/
def bytes : Arrival → Bytes
  | chunk bytes => bytes
  | _ => []

/-- One read of at most `limit` bytes that asks for some: its answer and what is left of the
script. -/
def advance (limit : Nat) : List Arrival → Answer × List Arrival
  | [] => (.finished, [])
  | pause :: script => advance limit script
  | fault error :: script => (.fault error, script)
  | finish :: script => (.finished, script)
  | chunk [] :: script => advance limit script
  | chunk (b :: bs) :: script =>
    match (b :: bs).drop limit with
    | [] => (.data (b :: bs), script)
    | rest => (.data ((b :: bs).take limit), chunk rest :: script)

/-- How many bytes a script brings. -/
def unread (script : List Arrival) : Nat :=
  (script.flatMap Arrival.bytes).length

/-- The bytes before the first fault or end of a script. -/
def delivered : List Arrival → Bytes
  | chunk bytes :: script => bytes ++ delivered script
  | pause :: script => delivered script
  | _ => []

@[simp] theorem unread_cons (arrival : Arrival) (script : List Arrival) :
    unread (arrival :: script) = arrival.bytes.length + unread script := by
  simp [unread]

/-- A read that answers data takes just that data, at least one byte if it asks for any. -/
theorem advance_data {limit : Nat} {script rest : List Arrival} {taken : Bytes}
    (h : advance limit script = (.data taken, rest)) :
    unread script = taken.length + unread rest ∧ taken.length ≤ limit ∧
      (0 < limit → 0 < taken.length) := by
  fun_induction advance limit script with
  | case1 => simp at h
  | case2 script ih => simpa [bytes] using ih h
  | case3 => simp at h
  | case4 => simp at h
  | case5 script ih => simpa [bytes] using ih h
  | case6 script b bs used =>
    obtain ⟨same, rfl⟩ := Prod.mk.inj h
    cases same
    have short := List.drop_eq_nil_iff.1 used
    exact ⟨by simp [bytes], short, by simp⟩
  | case7 b bs script left =>
    obtain ⟨same, rfl⟩ := Prod.mk.inj h
    cases same
    have long : limit < (b :: bs).length := by
      simpa [List.drop_eq_nil_iff] using left
    have split : (b :: bs).length = limit + ((b :: bs).drop limit).length := by
      rw [List.length_drop]; omega
    have taken_length : ((b :: bs).take limit).length = limit := by
      rw [List.length_take]; omega
    simp only [unread_cons, bytes, taken_length]
    omega

/-- A read that fails takes no bytes and uses up the fault. -/
theorem advance_fault {limit : Nat} {script rest : List Arrival} {e : IoError}
    (h : advance limit script = (.fault e, rest)) :
    unread script = unread rest ∧ rest.length < script.length := by
  fun_induction advance limit script with
  | case1 => simp at h
  | case2 script ih => exact ⟨by simpa [bytes] using (ih h).1, Nat.lt_succ_of_lt (ih h).2⟩
  | case3 error script =>
    obtain ⟨_, rfl⟩ := Prod.mk.inj h
    exact ⟨by simp [bytes], Nat.lt_succ_self _⟩
  | case4 => simp at h
  | case5 script ih => exact ⟨by simpa [bytes] using (ih h).1, Nat.lt_succ_of_lt (ih h).2⟩
  | case6 => simp at h
  | case7 => simp at h

/-- One read of at most `limit` bytes.  A read that asks for none meets nothing. -/
def answer (limit : Nat) (script : List Arrival) : Answer × List Arrival :=
  if limit = 0 then (.data [], script) else advance limit script

theorem answer_data {limit : Nat} {script rest : List Arrival} {taken : Bytes}
    (h : answer limit script = (.data taken, rest)) :
    unread script = taken.length + unread rest ∧ taken.length ≤ limit ∧
      (0 < limit → 0 < taken.length) := by
  rw [answer] at h
  split at h
  · next nothing =>
    cases h
    simp [nothing]
  · exact advance_data h

theorem answer_fault {limit : Nat} {script rest : List Arrival} {e : IoError}
    (h : answer limit script = (.fault e, rest)) :
    unread script = unread rest ∧ rest.length < script.length := by
  rw [answer] at h
  split at h
  · simp at h
  · exact advance_fault h

end Arrival

namespace Source

/-- The source of a peer that sends these bytes at once and then ends its side. -/
def ofBytes (bytes : Bytes) : Source :=
  { script := [.chunk bytes] }

/-- One read of at most `limit` bytes. -/
def read (limit : Nat) (source : Source) : Answer × Source :=
  let (answer, script) := Arrival.answer limit source.script
  (answer, { script, answers := answer :: source.answers })

/-- How many bytes have not been read yet. -/
def unread (source : Source) : Nat :=
  Arrival.unread source.script

/-- The bytes that can be read before the first fault or end. -/
def delivered (source : Source) : Bytes :=
  Arrival.delivered source.script

/-- A read that answers data takes just that data, at least one byte if it asks for any. -/
theorem unread_read {limit : Nat} {source rest : Source} {taken : Bytes}
    (h : source.read limit = (.data taken, rest)) :
    source.unread = taken.length + rest.unread ∧ taken.length ≤ limit ∧
      (0 < limit → 0 < taken.length) := by
  rw [read] at h
  obtain ⟨same, rfl⟩ := Prod.mk.inj h
  exact Arrival.answer_data (Prod.ext same rfl)

/-- A read that fails takes no bytes and uses up the fault. -/
theorem unread_read_fault {limit : Nat} {source rest : Source} {e : IoError}
    (h : source.read limit = (.fault e, rest)) :
    source.unread = rest.unread ∧ rest.script.length < source.script.length := by
  rw [read] at h
  obtain ⟨same, rfl⟩ := Prod.mk.inj h
  exact Arrival.answer_fault (Prod.ext same rfl)

/-- One read that is repeated for as long as it is interrupted. -/
def readThrough (limit : Nat) (source : Source) : Answer × Source :=
  match answered : source.read limit with
  | (.fault e, rest) =>
    if e.kind = .interrupted then
      have := (unread_read_fault answered).2
      readThrough limit rest
    else (.fault e, rest)
  | (.data bytes, rest) => (.data bytes, rest)
  | (.finished, rest) => (.finished, rest)
termination_by source.script.length

/-- A read that answers data takes just that data, at least one byte if it asks for any. -/
theorem unread_readThrough {limit : Nat} {source rest : Source} {taken : Bytes}
    (h : source.readThrough limit = (.data taken, rest)) :
    source.unread = taken.length + rest.unread ∧ taken.length ≤ limit ∧
      (0 < limit → 0 < taken.length) := by
  fun_induction readThrough limit source with
  | case1 source e again answered _ _ ih =>
    rw [(unread_read_fault answered).1]
    exact ih h
  | case2 => simp at h
  | case3 source bytes next answered =>
    obtain ⟨same, rfl⟩ := Prod.mk.inj h
    cases same
    exact unread_read answered
  | case4 => simp at h

/-- Reads until `need` bytes have come or the stream ends, whatever interrupts it.  A fault loses
what came before it. -/
def readUpTo (need : Nat) : EStateM IoError Source Bytes := fun source =>
  if enough : need = 0 then .ok [] source
  else
    match answered : source.readThrough need with
    | (.data bytes, rest) =>
      have : need - bytes.length < need := by
        have := (unread_readThrough answered).2.2 (by omega)
        omega
      match readUpTo (need - bytes.length) rest with
      | .ok more rest => .ok (bytes ++ more) rest
      | .error e rest => .error e rest
    | (.finished, rest) => .ok [] rest
    | (.fault e, rest) => .error e rest
termination_by need

end Source

end GameGateway
