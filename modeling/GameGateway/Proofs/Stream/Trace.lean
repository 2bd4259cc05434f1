import GameGateway.Proofs.Contract
import GameGateway.Proofs.Stream.Acceptance
import GameGateway.Proofs.Stream.Alike

/-!
# Traces of a stream

A source is left by the reads that were made of it, a sink by the calls that were made on it.  A
stream is `Going` while each read brought something to go on with and each call got through, and it
has `Stopped` if that is so of all of them but the last one.  A read of a packet goes on behind an
interruption, and a read of a tunnel behind no fault; `Reading.patient` and `Reading.bare` say
which.

Reading and writing packets meet one contract, `Peer.readPacket_meets` and `Peer.writePacket_meets`:
where they answer the stream is going, and where they fail it has stopped.
-/

namespace GameGateway

namespace Reading

/-- The faults that a packet is read on behind. -/
def patient (e : IoError) : Bool :=
  e.kind = .interrupted

/-- The faults that a tunnel reads on behind. -/
def bare (_ : IoError) : Bool :=
  false

end Reading

/-- Whether a reader who passes these faults makes another read behind an answer. -/
def Answer.goesOn (passes : IoError → Bool) : Answer → Bool
  | data _ => true
  | fault e => passes e
  | finished => false

/-- Whether a writer makes another call behind a call.  A write that gets nothing accepted has
failed as well. -/
def SinkCall.goesOn : SinkCall → Bool
  | wrote bytes => bytes ≠ []
  | flushed => true
  | writeFailed _ | flushFailed _ | shutDown | shutdownFailed _ => false

/-! ## Sources -/

/-- What follows the first end, or the first fault that is not passed. -/
def Feed.past (passes : IoError → Bool) : Feed → Feed
  | .byte _ :: feed => past passes feed
  | .fault e :: feed => if passes e then past passes feed else feed
  | .finish :: feed => feed
  | [] => []

theorem Feed.Answers.past_eq {feed rest : Feed} {answer : Answer}
    (answers : Feed.Answers feed answer rest) (passes : IoError → Bool) :
    feed.past passes = if answer.goesOn passes then rest.past passes else rest := by
  cases answers with
  | @data bytes _ some =>
      clear some
      induction bytes with
      | nil => rfl
      | cons b bytes ih => exact ih
  | fault => rfl
  | finish => rfl
  | dry => rfl

namespace Source

/-- The reads that lead from one source to another, by their answers, newest first. -/
inductive Reads (source : Source) : List Answer → Source → Prop
  | none : Reads source [] source
  | next {limit : Nat} {answers : List Answer} {answer : Answer} {middle after : Source} :
    Reads source answers middle → 0 < limit → middle.read limit = (answer, after) →
    Reads source (answer :: answers) after

/-- Every read is in the record of the source. -/
theorem Reads.answers_eq {source after : Source} {answers : List Answer}
    (reads : source.Reads answers after) : after.answers = answers ++ source.answers := by
  induction reads with
  | none => rfl
  | next _ _ read ih =>
      obtain ⟨rfl, rfl⟩ := Prod.mk.inj read
      exact congrArg (_ :: ·) ih

/-- A source of which bytes were read, and behind no fault but those that are passed. -/
def Going (passes : IoError → Bool) (source after : Source) : Prop :=
  ∃ answers, source.Reads answers after ∧ ∀ answer ∈ answers, answer.goesOn passes

/-- A source of which no read was made behind an end or a fault, unless the fault is passed.  All
that comes behind it is left. -/
def Stopped (passes : IoError → Bool) (source after : Source) : Prop :=
  ∃ answers, source.Reads answers after ∧ (∀ answer ∈ answers.tail, answer.goesOn passes) ∧
    ∀ answer ∈ answers.head?, answer.goesOn passes = false → after.feed = source.feed.past passes

variable {passes : IoError → Bool} {source middle after : Source} {answer : Answer} {limit : Nat}

theorem Going.refl (source : Source) : Going passes source source :=
  ⟨[], .none, nofun⟩

theorem Going.past_eq (going : Going passes source after) :
    source.feed.past passes = after.feed.past passes := by
  obtain ⟨answers, reads, all⟩ := going
  induction reads with
  | none => rfl
  | next _ positive read ih =>
      have last := (read_answers positive read).past_eq passes
      rw [if_pos (all _ (List.mem_cons_self ..))] at last
      exact (ih fun answer earlier => all answer (List.mem_cons_of_mem _ earlier)).trans last

theorem Going.stopped (going : Going passes source after) : Stopped passes source after := by
  obtain ⟨answers, reads, all⟩ := going
  refine ⟨answers, reads, fun answer earlier => all answer (List.mem_of_mem_tail earlier), ?_⟩
  intro answer newest stops
  rw [all answer (List.mem_of_mem_head? newest)] at stops
  cases stops

/-- One more read of a source that is going. -/
theorem Going.read (going : Going passes source middle) (positive : 0 < limit)
    (read : middle.read limit = (answer, after)) :
    Stopped passes source after ∧ (answer.goesOn passes → Going passes source after) := by
  have past := going.past_eq
  obtain ⟨answers, reads, all⟩ := going
  rw [(read_answers positive read).past_eq passes] at past
  refine ⟨⟨answer :: answers, reads.next positive read, all, ?_⟩, fun goesOn => ?_⟩
  · intro newest same stops
    obtain rfl := Option.some.inj same
    rw [stops] at past
    exact past.symm
  · refine ⟨answer :: answers, reads.next positive read, fun other member => ?_⟩
    rcases List.mem_cons.1 member with rfl | earlier
    · exact goesOn
    · exact all other earlier

/-- One more patient read of a source that is going. -/
theorem Going.readThrough (going : Going Reading.patient source middle) (positive : 0 < limit)
    (read : middle.readThrough limit = (answer, after)) :
    Stopped Reading.patient source after ∧
      ∀ bytes, answer = .data bytes → Going Reading.patient source after := by
  fun_induction Source.readThrough limit middle with
  | case1 middle e next answered again _ ih =>
      exact ih ((going.read positive answered).2 (decide_eq_true again)) read
  | case2 middle e next answered lasting =>
      obtain ⟨rfl, rfl⟩ := Prod.mk.inj read
      exact ⟨(going.read positive answered).1, by rintro bytes ⟨⟩⟩
  | case3 middle bytes next answered =>
      obtain ⟨rfl, rfl⟩ := Prod.mk.inj read
      obtain ⟨stopped, goes⟩ := going.read positive answered
      exact ⟨stopped, fun _ _ => goes rfl⟩
  | case4 middle next answered =>
      obtain ⟨rfl, rfl⟩ := Prod.mk.inj read
      exact ⟨(going.read positive answered).1, by rintro bytes ⟨⟩⟩

/-! ### Packets -/

theorem readDigits_meets (source : Source) (limit : Nat) (first : Bool) :
    Meets (Going Reading.patient source) (readDigits limit first)
      (fun _ => Going Reading.patient source) (Stopped Reading.patient source) := by
  induction limit generalizing first with
  | zero => exact fun _ going => going.stopped
  | succ limit ih =>
      intro middle going
      cases read : middle.readThrough 1 with
      | mk answer after =>
          obtain ⟨stopped, goes⟩ := going.readThrough Nat.one_pos read
          simp only [readDigits, read]
          rcases answer with (_ | ⟨b, bs⟩) | e | _
          · exact stopped
          · have going' := goes _ rfl
            by_cases unmarked : b < 128
            · simpa only [unmarked, if_true] using going'
            · simp only [unmarked, if_false]
              cases more : readDigits limit false after with
              | ok n last => exact (ih false).ok going' more
              | error e last => exact (ih false).error going' more
          · exact stopped
          · exact stopped

/-- A body that is read in full leaves the source going. -/
theorem readUpTo_meets (source : Source) (need : Nat) :
    Meets (Going Reading.patient source) (readUpTo need)
      (fun body after => Stopped Reading.patient source after ∧
        (need ≤ body.length → Going Reading.patient source after))
      (Stopped Reading.patient source) := by
  intro middle going
  fun_induction readUpTo need middle with
  | case1 middle => exact ⟨going.stopped, fun _ => going⟩
  | case2 need middle enough bytes next answered _ more last tail ih =>
      obtain ⟨-, goes⟩ := going.readThrough (Nat.pos_of_ne_zero enough) answered
      have left := ih (goes bytes rfl)
      rw [tail] at left
      refine ⟨left.1, fun whole => left.2 ?_⟩
      rw [List.length_append] at whole
      omega
  | case3 need middle enough bytes next answered _ e last tail ih =>
      obtain ⟨-, goes⟩ := going.readThrough (Nat.pos_of_ne_zero enough) answered
      have left := ih (goes bytes rfl)
      rwa [tail] at left
  | case4 need middle enough next answered =>
      refine ⟨(going.readThrough (Nat.pos_of_ne_zero enough) answered).1, fun whole => ?_⟩
      exact absurd (Nat.le_zero.1 whole) enough
  | case5 need middle enough e next answered =>
      exact (going.readThrough (Nat.pos_of_ne_zero enough) answered).1

/-- **A packet read makes no read behind a fault or an end**, however it ends. -/
theorem readPacket_meets (source : Source) :
    Meets (Going Reading.patient source) readPacket
      (fun _ => Going Reading.patient source) (Stopped Reading.patient source) := by
  have stops (middle : Source) : Going Reading.patient source middle →
      Stopped Reading.patient source middle := Going.stopped
  unfold readPacket
  refine .bind (.map _ (readDigits_meets source _ _)) fun length => ?_
  refine .bind (.ofExcept stops _) fun _ => ?_
  refine .bind (.adaptExcept _ (readUpTo_meets source _)) fun body => ?_
  split
  · exact .throw fun _ left => left.1
  · next whole =>
    exact (Meets.ofExcept stops _).before fun _ left => left.2 (Nat.le_of_not_lt whole)

end Source

/-! ## Sinks -/

namespace Sink

/-- A sink on which calls were made that all got through. -/
def Going (sink after : Sink) : Prop :=
  ∃ calls, after.calls = calls ++ sink.calls ∧ ∀ call ∈ calls, call.goesOn

/-- A sink on which no call was made behind one that failed, or behind a shutdown. -/
def Stopped (sink after : Sink) : Prop :=
  ∃ calls, after.calls = calls ++ sink.calls ∧ ∀ call ∈ calls.tail, call.goesOn

variable {sink middle after : Sink} {bytes : Bytes}

theorem Going.refl (sink : Sink) : Going sink sink :=
  ⟨[], rfl, nofun⟩

theorem Going.stopped (going : Going sink after) : Stopped sink after := by
  obtain ⟨calls, record, all⟩ := going
  exact ⟨calls, record, fun call earlier => all call (List.mem_of_mem_tail earlier)⟩

/-- One more call on a sink that is going. -/
theorem Going.note {call : SinkCall} (going : Going sink middle)
    (record : after.calls = call :: middle.calls) :
    Stopped sink after ∧ (call.goesOn → Going sink after) := by
  obtain ⟨calls, before, all⟩ := going
  rw [before] at record
  refine ⟨⟨call :: calls, record, all⟩, fun goesOn => ⟨call :: calls, record, ?_⟩⟩
  intro other member
  rcases List.mem_cons.1 member with rfl | earlier
  · exact goesOn
  · exact all other earlier

/-- A write goes on if it gets something accepted. -/
theorem Going.write {n : Nat} (going : Going sink middle) (run : write bytes middle = .ok n after) :
    Stopped sink after ∧ (n ≠ 0 → Going sink after) := by
  unfold Sink.write at run
  split at run
  · cases run
  · cases run
    refine ⟨(going.note rfl).1, fun some => (going.note rfl).2 ?_⟩
    exact decide_eq_true fun nothing => some (List.length_eq_zero_iff.2 nothing)

theorem Going.write_error {e : IoError} (going : Going sink middle)
    (run : Sink.write bytes middle = .error e after) : Stopped sink after := by
  obtain ⟨-, -, rfl⟩ := Sink.write_error run
  exact (going.note rfl).1

theorem writeAll_meets (sink : Sink) (bytes : Bytes) :
    Meets (Going sink) (writeAll bytes) (fun _ => Going sink) (Stopped sink) := by
  intro middle going
  fun_induction writeAll bytes middle with
  | case1 middle => exact going
  | case2 middle b rest e last run => exact going.write_error run
  | case3 middle b rest last run => exact (going.write run).1
  | case4 middle b rest n last run ih => exact ih ((going.write run).2 (Nat.succ_ne_zero n))

theorem flush_meets (sink : Sink) :
    Meets (Going sink) flush (fun _ => Going sink) (Stopped sink) := by
  intro middle going
  unfold flush
  cases middle.flushFault with
  | none => exact (going.note rfl).2 rfl
  | some e => exact (going.note rfl).1

theorem shutdown_meets (sink : Sink) :
    Meets (Going sink) shutdown (fun _ => Stopped sink) (Stopped sink) := by
  intro middle going
  unfold shutdown
  cases middle.shutdownFault with
  | none => exact (going.note rfl).1
  | some e => exact (going.note rfl).1

/-- **Writing a packet makes no call behind one that failed.** -/
theorem writePacket_meets (sink : Sink) (packet : Packet) :
    Meets (Going sink) (writePacket packet) (fun _ => Going sink) (Stopped sink) :=
  .bind (.adaptExcept _ (writeAll_meets sink packet.encode)) fun _ =>
    .adaptExcept _ (flush_meets sink)

end Sink

/-! ## Both sides -/

namespace Peer

/-- A peer of whom packets were read and to whom bytes were written, and nothing failed. -/
structure Going (peer after : Peer) : Prop where
  reads : Source.Going Reading.patient peer.source after.source
  calls : Sink.Going peer.sink after.sink

/-- A peer of whom no read was made behind a fault or an end, and on whom no call was made behind
one that failed. -/
structure Stopped (passes : IoError → Bool) (peer after : Peer) : Prop where
  reads : Source.Stopped passes peer.source after.source
  calls : Sink.Stopped peer.sink after.sink

theorem Going.refl (peer : Peer) : Going peer peer :=
  ⟨.refl _, .refl _⟩

theorem Going.stopped {peer after : Peer} (going : Going peer after) :
    Stopped Reading.patient peer after :=
  ⟨going.reads.stopped, going.calls.stopped⟩

/-- Letting go of a stream is no call on it. -/
theorem Stopped.release {passes : IoError → Bool} {peer after : Peer}
    (stopped : Stopped passes peer after) : Stopped passes peer after.release :=
  ⟨stopped.reads, stopped.calls⟩

theorem readPacket_meets (peer : Peer) :
    Meets (Going peer) readPacket (fun _ => Going peer) (Stopped Reading.patient peer) := by
  unfold readPacket
  rw [onSource_eq]
  refine .onPart _ _ (Source.readPacket_meets peer.source) (fun _ going => going.reads) ?_ ?_
  · exact fun _ going _ _ reads => ⟨reads, going.calls⟩
  · exact fun _ going _ reads => ⟨reads, going.calls.stopped⟩

theorem onSink_meets {ε α : Type} {act : EStateM ε Sink α} {peer : Peer}
    (meets : Meets (Sink.Going peer.sink) act (fun _ => Sink.Going peer.sink)
      (Sink.Stopped peer.sink)) :
    Meets (Going peer) (onSink act) (fun _ => Going peer) (Stopped Reading.patient peer) := by
  rw [onSink_eq]
  refine .onPart _ _ meets (fun _ going => going.calls) ?_ ?_
  · exact fun _ going _ _ calls => ⟨going.reads, calls⟩
  · exact fun _ going _ calls => ⟨going.reads.stopped, calls⟩

theorem writeAll_meets (peer : Peer) (bytes : Bytes) :
    Meets (Going peer) (writeAll bytes) (fun _ => Going peer) (Stopped Reading.patient peer) :=
  onSink_meets (Sink.writeAll_meets peer.sink bytes)

theorem writePacket_meets (peer : Peer) (packet : Packet) :
    Meets (Going peer) (writePacket packet) (fun _ => Going peer)
      (Stopped Reading.patient peer) :=
  onSink_meets (Sink.writePacket_meets peer.sink packet)

end Peer

end GameGateway
